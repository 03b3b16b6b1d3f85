import IdentifierRegistrar.Directory.Basic
import IdentifierRegistrar.Http.Exchange
import IdentifierRegistrar.Json.Decoder
import IdentifierRegistrar.Json.Parser
import IdentifierRegistrar.Text.Blank

/-!
The repository as a directory of its resources. Its answer maps each field to a list of values;
the metadata is that map laid out flat, fields in ascending order, values in theirs.
-/

namespace IdentifierRegistrar

structure RestDirectory where
  base : String
  deriving DecidableEq, Repr

namespace RestDirectory

def ofAddress (address : String) : RestDirectory := ⟨Text.dropSlashes address⟩

structure Item where
  handle : Option String
  kind : Option String
  metadata : List (String × List String)
  deriving DecidableEq, Repr

def readValue : Json.Decoder String := fun v => do
  let shape : Json.RecordShape (Option String) :=
    ⟨"MetadataValueResponse", ["value"], [], fun _ v _ => do return some (← Json.asString v)⟩
  Json.required "value" (← shape.read none v)

def readItem : Json.Decoder Item :=
  let fields := ["handle", "type", "metadata"]
  let shape : Json.RecordShape Item :=
    ⟨"ItemResponse", fields, fields, fun key v item => do
      if key = "handle" then return { item with handle := ← Json.asOption Json.asString v }
      else if key = "type" then return { item with kind := ← Json.asOption Json.asString v }
      else return { item with metadata := ← Json.asMap (Json.asList readValue) v }⟩
  shape.read ⟨none, none, []⟩

/-- Anything but a collection or a community is an item. -/
def typeOf : Option String → ResourceType
  | some "collection" => .collection
  | some "community" => .community
  | _ => .item

def flatten (metadata : List (String × List String)) : List MetadataEntry :=
  metadata.flatMap fun (field, values) => values.map (⟨field, ·⟩)

def Item.resource (item : Item) (id : ResourceId) : Resource :=
  ⟨id, typeOf item.kind, item.handle, flatten item.metadata⟩

def readBody (body : Http.Body) : Option Item :=
  match body with
  | .whole bytes =>
    match (Json.parseBytes? bytes).map readItem with
    | some (.ok item) => some item
    | _ => none
  | .cut => none

def lookup (directory : RestDirectory) (id : ResourceId) :
    Program Http.interface DirectoryError (Option Resource) := do
  let url := directory.base ++ "/core/items/" ++ id.text
  let q : Http.Request := ⟨.get, url, none, none, none, none⟩
  match ← Program.request q with
  | Http.Reply.answer status body =>
    if status = Http.notFound then return none
    else if !Http.isSuccess status then .fail (.refused id status (body.text?.getD ""))
    else
      match readBody body with
      | some item => return some (item.resource id)
      | none => .fail (.malformed id)
  | _ => .fail (.unreachable id)

end RestDirectory

end IdentifierRegistrar
