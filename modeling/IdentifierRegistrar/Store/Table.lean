import IdentifierRegistrar.Store.Error

/-!
The table itself, below records: what its constraints allow to be written. Ids and values are
unique, and of the rows of one scheme that are bound to one resource at most one is not deleted.
-/

namespace IdentifierRegistrar

abbrev Table := List Row

namespace Row

def isLive (r : Row) : Bool := r.status != .text "deleted"

/-- Two live rows of one scheme for one resource. -/
def sharesResource (r s : Row) : Bool :=
  r.isLive && s.isLive && r.resourceId.equals s.resourceId && r.scheme.equals s.scheme

def vacancy? (r : Row) : Option DatabaseFault :=
  (Column.all.find? fun c => c.isMandatory && r.get c == .null).map .isNull

end Row

namespace Table

def conflict? (rows : Table) (r : Row) : Option DatabaseFault :=
  if rows.any r.sharesResource then some (.notUnique [.resourceId, .scheme])
  else if rows.any fun s => r.value.equals s.value then some (.notUnique [.value])
  else if rows.any fun s => r.id.equals s.id then some (.notUnique [.id])
  else none

def check (rows : Table) (r : Row) : Except DatabaseFault Unit :=
  match r.vacancy? with
  | some fault => .error fault
  | none =>
    match rows.conflict? r with
    | some fault => .error fault
    | none => .ok ()

def insert (rows : Table) (r : Row) : Except DatabaseFault Table := do
  let r := r.stored
  check rows r
  return rows ++ [r]

/-- Changes the rows that satisfy `p`, one after the other; each must fit the others. -/
def update (rows : Table) (p : Row → Bool) (f : Row → Row) : Except DatabaseFault Table :=
  go [] rows
where
  go (before : Table) : Table → Except DatabaseFault Table
    | [] => .ok before
    | r :: after =>
      if p r then do
        let r := (f r).stored
        check (before ++ after) r
        go (before ++ [r]) after
      else go (before ++ [r]) after

def delete (rows : Table) (p : Row → Bool) : Table := rows.filter fun r => !p r

/-- A change made by hand, past all that the registrar checks. -/
inductive Edit
  | insert (row : Row)
  | set (id : String) (column : Column) (cell : Cell)
  | delete (id : String)
  deriving DecidableEq, Repr

def edit (rows : Table) : Edit → Except DatabaseFault Table
  | .insert row => rows.insert row
  | .set id column cell => rows.update (·.id.equals (.text id)) (·.set column cell)
  | .delete id => .ok (rows.delete (·.id.equals (.text id)))

end Table

end IdentifierRegistrar
