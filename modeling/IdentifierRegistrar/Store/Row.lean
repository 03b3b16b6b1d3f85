import IdentifierRegistrar.Store.Cell

/-! The table of identifiers: its columns, and a row as it is stored. -/

namespace IdentifierRegistrar

inductive Column
  | id
  | scheme
  | value
  | resourceId
  | resourceType
  | status
  | attention
  | version
  | createdAt
  | updatedAt
  deriving DecidableEq, Repr

namespace Column

def all : List Column :=
  [id, scheme, value, resourceId, resourceType, status, attention, version, createdAt, updatedAt]

def name : Column → String
  | id => "id"
  | scheme => "scheme"
  | value => "value"
  | resourceId => "resource_id"
  | resourceType => "resource_type"
  | status => "status"
  | attention => "attention"
  | version => "version"
  | createdAt => "created_at"
  | updatedAt => "updated_at"

def ofName? (name : String) : Option Column := all.find? (·.name == name)

def index (c : Column) : Nat := all.idxOf c

def affinity : Column → Affinity
  | resourceType | version | createdAt | updatedAt => .integer
  | _ => .text

def isMandatory : Column → Bool
  | id | resourceId | attention => false
  | _ => true

end Column

structure Row where
  id : Cell
  scheme : Cell
  value : Cell
  resourceId : Cell
  resourceType : Cell
  status : Cell
  attention : Cell
  version : Cell
  createdAt : Cell
  updatedAt : Cell
  deriving DecidableEq, Repr

namespace Row

def get (r : Row) : Column → Cell
  | .id => r.id
  | .scheme => r.scheme
  | .value => r.value
  | .resourceId => r.resourceId
  | .resourceType => r.resourceType
  | .status => r.status
  | .attention => r.attention
  | .version => r.version
  | .createdAt => r.createdAt
  | .updatedAt => r.updatedAt

def set (r : Row) (column : Column) (cell : Cell) : Row :=
  match column with
  | .id => { r with id := cell }
  | .scheme => { r with scheme := cell }
  | .value => { r with value := cell }
  | .resourceId => { r with resourceId := cell }
  | .resourceType => { r with resourceType := cell }
  | .status => { r with status := cell }
  | .attention => { r with attention := cell }
  | .version => { r with version := cell }
  | .createdAt => { r with createdAt := cell }
  | .updatedAt => { r with updatedAt := cell }

theorem get_set (r : Row) (column : Column) (cell : Cell) :
    (r.set column cell).get column = cell := by
  cases column <;> rfl

theorem get_set_of_ne (r : Row) {c d : Column} (h : c ≠ d) (cell : Cell) :
    (r.set c cell).get d = r.get d := by
  cases c <;> cases d <;> first | rfl | exact absurd rfl h

def stored (r : Row) : Row :=
  Column.all.foldl (fun s c => s.set c ((s.get c).stored c.affinity)) r

end Row

end IdentifierRegistrar
