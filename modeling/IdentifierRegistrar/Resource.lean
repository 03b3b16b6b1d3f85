import IdentifierRegistrar.Identifier.Resource
import IdentifierRegistrar.Json.Decoder

/-!
Resources as the repository describes them: an id, a type, perhaps a handle, and a flat list of
metadata entries.
-/

namespace IdentifierRegistrar

inductive ResourceType
  | item
  | collection
  | community
  deriving DecidableEq, Repr

namespace ResourceType

def all : List ResourceType := [item, collection, community]

def code : ResourceType → Int
  | item => 2
  | collection => 3
  | community => 4

def ofCode? (code : Int) : Option ResourceType := all.find? (·.code == code)

def tag : ResourceType → String
  | item => "item"
  | collection => "collection"
  | community => "community"

def ofTag? (tag : String) : Option ResourceType := all.find? (·.tag == tag)

theorem ofCode?_code (t : ResourceType) : ofCode? t.code = some t := by cases t <;> decide

theorem ofCode?_eq_some_iff {n : Int} {t : ResourceType} : ofCode? n = some t ↔ n = t.code := by
  constructor
  · intro h
    unfold ofCode? at h
    have := List.find?_some h
    exact (beq_iff_eq.1 this).symm
  · rintro rfl
    exact ofCode?_code t

end ResourceType

structure MetadataEntry where
  field : String
  value : String
  deriving DecidableEq, Repr

structure Resource where
  id : ResourceId
  type : ResourceType
  handle : Option String
  metadata : List MetadataEntry
  deriving DecidableEq, Repr

def Resource.firstValue? (r : Resource) (field : String) : Option String :=
  (r.metadata.find? (·.field == field)).map (·.value)

end IdentifierRegistrar
