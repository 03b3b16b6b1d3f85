import IdentifierRegistrar.Identifier.Local
import IdentifierRegistrar.Identifier.Value
import IdentifierRegistrar.Resource
import IdentifierRegistrar.Status

/-! The JSON forms of ids, values, tags and resources, read and written. -/

namespace IdentifierRegistrar

open Json (Decoder Mismatch)

def asParsed {α : Type} (parse : String → Except IdError α) : Decoder α := fun v => do
  match parse (← Json.asString v) with
  | .ok a => return a
  | .error e => throw (.content e.message)

namespace LocalId

def ofJson (kind : IdKind) : Decoder (LocalId kind) := asParsed (parse kind)

def toJson {kind : IdKind} (id : LocalId kind) : Json := .string id.text

end LocalId

namespace ResourceId

def ofJson : Decoder ResourceId := asParsed parse

def toJson (id : ResourceId) : Json := .string id.text

end ResourceId

namespace IdentifierValue

def ofJson : Decoder IdentifierValue := asParsed parse

def toJson (v : IdentifierValue) : Json := .string v.text

end IdentifierValue

def Scheme.ofJson : Decoder Scheme := Json.asChoice (Scheme.all.map Scheme.tag) Scheme.ofTag?

def Status.ofJson : Decoder Status := Json.asChoice (Status.all.map Status.tag) Status.ofTag?

def ResourceType.ofJson : Decoder ResourceType :=
  Json.asChoice (ResourceType.all.map ResourceType.tag) ResourceType.ofTag?

namespace MetadataEntry

def shape : Json.RecordShape (Option String × Option String) where
  name := "MetadataEntry"
  fields := ["field", "value"]
  optional := []
  set key v s := do
    if key = "field" then return (some (← Json.asString v), s.2)
    else return (s.1, some (← Json.asString v))

def ofJson : Decoder MetadataEntry := fun v => do
  let (field, value) ← shape.read (none, none) v
  return ⟨← Json.required "field" field, ← Json.required "value" value⟩

def toJson (e : MetadataEntry) : Json :=
  .object [("field", .string e.field), ("value", .string e.value)]

end MetadataEntry

namespace Resource

/-- The fields that have been read. A missing handle is no handle. -/
structure Draft where
  id : Option ResourceId
  type : Option ResourceType
  handle : Option String
  metadata : Option (List MetadataEntry)

def shape : Json.RecordShape Draft where
  name := "ResourceMetadata"
  fields := ["id", "resource_type", "handle", "metadata"]
  optional := []
  set key v s := do
    if key = "id" then return { s with id := some (← ResourceId.ofJson v) }
    else if key = "resource_type" then return { s with type := some (← ResourceType.ofJson v) }
    else if key = "handle" then return { s with handle := ← Json.asOption Json.asString v }
    else return { s with metadata := some (← Json.asList MetadataEntry.ofJson v) }

def ofJson : Decoder Resource := fun v => do
  let draft ← shape.read ⟨none, none, none, none⟩ v
  return {
    id := ← Json.required "id" draft.id
    type := ← Json.required "resource_type" draft.type
    handle := draft.handle
    metadata := ← Json.required "metadata" draft.metadata }

def toJson (r : Resource) : Json :=
  .object [
    ("id", r.id.toJson),
    ("resource_type", .string r.type.tag),
    ("handle", (r.handle.map Json.string).getD .null),
    ("metadata", .array (r.metadata.map MetadataEntry.toJson))]

end Resource

end IdentifierRegistrar
