import IdentifierRegistrar.Directory.Basic

/-! A directory that holds its resources itself: one for each id. -/

namespace IdentifierRegistrar

structure MemoryDirectory where
  resources : List Resource
  deriving DecidableEq, Repr

namespace MemoryDirectory

def empty : MemoryDirectory := ⟨[]⟩

def get? (d : MemoryDirectory) (id : ResourceId) : Option Resource :=
  d.resources.find? (·.id == id)

def erase (d : MemoryDirectory) (id : ResourceId) : MemoryDirectory :=
  ⟨d.resources.filter (·.id != id)⟩

/-- The directory with `r` in the place of any resource of its id. -/
def insert (d : MemoryDirectory) (r : Resource) : MemoryDirectory := ⟨r :: (d.erase r.id).resources⟩

@[simp] theorem get?_insert_self (d : MemoryDirectory) (r : Resource) :
    (d.insert r).get? r.id = some r := by simp [insert, get?]

theorem get?_erase_of_ne (d : MemoryDirectory) {id other : ResourceId} (h : other ≠ id) :
    (d.erase id).get? other = d.get? other := by
  simp only [get?, erase, List.find?_filter]
  congr 1
  funext r
  by_cases hr : r.id = other
  · simp [hr, h]
  · simp [hr]

theorem get?_insert_of_ne (d : MemoryDirectory) {r : Resource} {other : ResourceId}
    (h : other ≠ r.id) : (d.insert r).get? other = d.get? other := by
  rw [← d.get?_erase_of_ne h]
  simp [get?, insert, Ne.symm h]

theorem get?_erase_self (d : MemoryDirectory) (id : ResourceId) : (d.erase id).get? id = none := by
  simp [erase, get?]

end MemoryDirectory

end IdentifierRegistrar
