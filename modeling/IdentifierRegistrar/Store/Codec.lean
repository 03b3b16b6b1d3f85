import IdentifierRegistrar.Record
import IdentifierRegistrar.Store.Error

/-!
Records as rows and back. Reading has two stages: every cell must have its column's type, and
then the ten values must make up a record. Times are stored in whole seconds.
-/

namespace IdentifierRegistrar.Row

def ofRecord (r : Record) : Row where
  id := .text r.id.text
  scheme := .text r.scheme.tag
  value := .text r.value.text
  resourceId := (r.resource.map fun resource => .text resource.text).getD .null
  resourceType := .int r.resourceType.code
  status := .text r.status.tag
  attention := (r.attention.map .text).getD .null
  version := .int r.version
  createdAt := .int r.createdAt.seconds
  updatedAt := .int r.updatedAt.seconds

structure Typed where
  id : String
  scheme : String
  value : String
  resourceId : Option String
  resourceType : Int
  status : String
  attention : Option String
  version : Int
  createdAt : Int
  updatedAt : Int
  deriving DecidableEq, Repr

def readText (r : Row) (c : Column) : Except StoreError String :=
  match r.get c with
  | .text s => .ok s
  | cell => .error (.database (.columnType cell c))

def readOptionalText (r : Row) (c : Column) : Except StoreError (Option String) :=
  match r.get c with
  | .null => .ok none
  | .text s => .ok (some s)
  | cell => .error (.database (.columnType cell c))

def readInt (r : Row) (c : Column) : Except StoreError Int :=
  match r.get c with
  | .int n => .ok n
  | cell => .error (.database (.columnType cell c))

def typed (r : Row) : Except StoreError Typed := do
  return {
    id := ← r.readText .id
    scheme := ← r.readText .scheme
    value := ← r.readText .value
    resourceId := ← r.readOptionalText .resourceId
    resourceType := ← r.readInt .resourceType
    status := ← r.readText .status
    attention := ← r.readOptionalText .attention
    version := ← r.readInt .version
    createdAt := ← r.readInt .createdAt
    updatedAt := ← r.readInt .updatedAt }

def corrupt {α : Type} (fault : RowFault) : Except StoreError α :=
  .error (.corruptRow fault.message)

def readTime (seconds : Int) : Except StoreError Instant :=
  match Instant.ofSeconds? seconds with
  | some t => .ok t
  | none => corrupt (.notTime seconds)

/-- The value, whose scheme must be the one that is stored beside it. -/
def Typed.readValue (t : Typed) (id : RecordId) : Except StoreError IdentifierValue :=
  match IdentifierValue.parse t.value with
  | .error e => corrupt (.notValue id e)
  | .ok value =>
    if Scheme.ofTag? t.scheme = some value.scheme then .ok value
    else corrupt (.otherScheme id t.scheme value)

def Typed.readResource (t : Typed) (id : RecordId) : Except StoreError (Option ResourceId) :=
  match t.resourceId with
  | none => .ok none
  | some text =>
    match ResourceId.parse text with
    | .ok resource => .ok (some resource)
    | .error e => corrupt (.notResource id e)

def Typed.record (t : Typed) : Except StoreError Record := do
  let id ←
    match LocalId.parse .record t.id with
    | .ok id => pure id
    | .error e => corrupt (.notId e)
  let value ← t.readValue id
  let resource ← t.readResource id
  let some resourceType := ResourceType.ofCode? t.resourceType
    | corrupt (.notType id t.resourceType)
  let some status := Status.ofTag? t.status
    | throw (.corruptStatus t.status)
  let createdAt ← readTime t.createdAt
  let updatedAt ← readTime t.updatedAt
  return {
    id, value, resource, resourceType, status, attention := t.attention, version := t.version,
    createdAt, updatedAt }

def record (r : Row) : Except StoreError Record := do (← r.typed).record

end IdentifierRegistrar.Row
