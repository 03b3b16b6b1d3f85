import IdentifierRegistrar.Store.Codec
import IdentifierRegistrar.Store.Table

/-!
The store of records. An update writes only if the row still has the version that the record was
read with, and moves the version on; so of two updates from one reading the second fails.
-/

namespace IdentifierRegistrar

/-- The version after `v`. Versions are 64-bit numbers and wrap at their end. -/
def nextVersion (v : Int) : Int := (v + 1).bmod Word.count

namespace Row

def createdBefore (r s : Row) : Bool :=
  if r.createdAt == s.createdAt then r.id.le s.id else r.createdAt.le s.createdAt

def updatedBefore (r s : Row) : Bool :=
  if r.updatedAt == s.updatedAt then r.id.le s.id else r.updatedAt.le s.updatedAt

def hasId (id : RecordId) (r : Row) : Bool := r.id.equals (.text id.text)

def isBoundTo (resource : ResourceId) (r : Row) : Bool :=
  r.resourceId.equals (.text resource.text)

def hasStatus (status : Status) (r : Row) : Bool := r.status.equals (.text status.tag)

/-- What an update writes into a row: status, marker, version and time of update, and the binding
if it was cleared. -/
def updateFrom (record : Record) (r : Row) : Row :=
  { r with
    status := .text record.status.tag
    resourceId := if record.isOrphaned then .null else r.resourceId
    attention := (record.attention.map .text).getD .null
    version := .int (nextVersion record.version)
    updatedAt := .int record.updatedAt.seconds }

end Row

def Record.updatedBefore (r s : Record) : Bool :=
  r.updatedAt.lt s.updatedAt || (!s.updatedAt.lt r.updatedAt && r.id.le s.id)

namespace Table

def firstRecord? : Table → Except StoreError (Option Record)
  | [] => .ok none
  | row :: _ => row.record.map some

/-- The records of all `rows`. No record is made before all cells have been read. -/
def records (rows : Table) : Except StoreError (List Record) := do
  (← rows.mapM Row.typed).mapM Row.Typed.record

def get? (table : Table) (id : RecordId) : Except StoreError (Option Record) :=
  firstRecord? (table.filter (Row.hasId id))

def findByValue? (table : Table) (value : IdentifierValue) : Except StoreError (Option Record) :=
  firstRecord? (table.filter (·.value.equals (.text value.text)))

/-- The newest record of a scheme bound to a resource that is not deleted. -/
def findLive? (table : Table) (resource : ResourceId) (scheme : Scheme) :
    Except StoreError (Option Record) :=
  let live := table.filter fun r =>
    r.isBoundTo resource && r.scheme.equals (.text scheme.tag) && r.isLive
  firstRecord? (live.mergeSort fun r s => s.createdBefore r)

def listByResource (table : Table) (resource : ResourceId) : Except StoreError (List Record) :=
  records ((table.filter (Row.isBoundTo resource)).mergeSort Row.createdBefore)

def listByStatus (table : Table) (statuses : List Status) : Except StoreError (List Record) := do
  let rows := statuses.flatMap fun status =>
    (table.filter (Row.hasStatus status)).mergeSort Row.updatedBefore
  return (← records rows).mergeSort Record.updatedBefore

def listRetryable (table : Table) (statuses : List Status) : Except StoreError (List Record) := do
  return (← table.listByStatus statuses).filter (·.attention.isNone)

def count (table : Table) (status : Status) : Nat := (table.filter (Row.hasStatus status)).length

def insertRecord (table : Table) (record : Record) : Except StoreError Table :=
  match table.insert (Row.ofRecord record) with
  | .ok table => .ok table
  | .error (.notUnique columns) =>
    if .value ∈ columns then .error (.duplicateValue record.value.text)
    else
      match record.resource with
      | some resource =>
        if .resourceId ∈ columns then .error (.liveRecordExists resource record.scheme)
        else .error (.database (.notUnique columns))
      | none => .error (.database (.notUnique columns))
  | .error fault => .error (.database fault)

/-- Writes a changed record over the row it was read from, if that row still has its version. -/
def updateRecord (table : Table) (record : Record) : Except StoreError (Record × Table) :=
  let isRead (r : Row) := r.hasId record.id && r.version == .int record.version
  if table.any isRead then
    match table.update isRead (Row.updateFrom record) with
    | .ok table => .ok ({ record with version := nextVersion record.version }, table)
    | .error fault => .error (.database fault)
  else
    match table.get? record.id with
    | .error e => .error e
    | .ok (some _) => .error (.versionConflict record.id record.version)
    | .ok none => .error (.notFound record.id)

end Table

namespace Store

/-- The calls to the store. Each is one step: nothing comes between its reading and its writing. -/
inductive Call
  | get (id : RecordId)
  | findByValue (value : IdentifierValue)
  | findLive (resource : ResourceId) (scheme : Scheme)
  | listByResource (resource : ResourceId)
  | listRetryable (statuses : List Status)
  | insert (record : Record)
  | update (record : Record)

def Call.Result : Call → Type
  | get _ | findByValue _ | findLive _ _ => Option Record
  | listByResource _ | listRetryable _ => List Record
  | insert _ => Unit
  | update _ => Record

/-- The answer to a call, and the table it leaves. A call that fails leaves the table as it was. -/
def answer (table : Table) : (call : Call) → Except StoreError call.Result × Table
  | .get id => (table.get? id, table)
  | .findByValue value => (table.findByValue? value, table)
  | .findLive resource scheme => (table.findLive? resource scheme, table)
  | .listByResource resource => (table.listByResource resource, table)
  | .listRetryable statuses => (table.listRetryable statuses, table)
  | .insert record =>
    match table.insertRecord record with
    | .ok table => (.ok (), table)
    | .error e => (.error e, table)
  | .update record =>
    match table.updateRecord record with
    | .ok (record, table) => (.ok record, table)
    | .error e => (.error e, table)

end Store

end IdentifierRegistrar
