import IdentifierRegistrar.Proofs.Run.Basic
import IdentifierRegistrar.Proofs.Store.Standing

/-! The rows of a store in which operations run, whatever it held before. Rows are added and written over
(`row_origin`, `row_forward`), never taken away; and where every id is spelled as the registrar spells
it, whatever an operation has been handed has a row (`hasId_of_handed`). -/

namespace IdentifierRegistrar

open Service Operation

namespace Stretch

variable {g : Registrar} (x : Stretch g)

theorem insertRecord_of_event {t i : Nat} {r : Record}
    (h : x.event t = .answer i ⟨.store (.insert r), .ok ()⟩) :
    (x.moment t).table.insertRecord r = .ok (x.moment (t + 1)).table := by
  rcases (x.asked h).2 with hr | ⟨⟨e, he⟩, -⟩
  · exact insertRecord_of_answers hr
  · cases he

theorem updateRecord_of_event {t i : Nat} {d d' : Record}
    (h : x.event t = .answer i ⟨.store (.update d), .ok d'⟩) :
    (x.moment t).table.updateRecord d = .ok (d', (x.moment (t + 1)).table) := by
  rcases (x.asked h).2 with hr | ⟨⟨e, he⟩, -⟩
  · exact updateRecord_of_answers hr
  · cases he

/-- The table changes where a record is inserted or updated. -/
theorem table_succ (t : Nat) : (x.moment (t + 1)).table = (x.moment t).table ∨
    (∃ i r, x.event t = .answer i ⟨.store (.insert r), .ok ()⟩) ∨
    ∃ i d d', x.event t = .answer i ⟨.store (.update d), .ok d'⟩ := by
  have hstep := x.step t
  generalize hev : x.event t = ev at hstep
  generalize x.moment (t + 1) = s' at hstep ⊢
  cases hstep with
  | idle => exact .inl rfl
  | start => exact .inl rfl
  | issue => exact .inl rfl
  | answer _ _ _ hr =>
    rcases table_cases hr with h | ⟨r, hy, -⟩ | ⟨d, d', hy, -⟩
    · exact .inl h
    · rw [hy]
      exact .inr (.inl ⟨_, r, rfl⟩)
    · rw [hy]
      exact .inr (.inr ⟨_, d, d', rfl⟩)

/-- The table breaks no constraint at any time. -/
theorem kept (h : (x.moment 0).table.Kept) (t : Nat) : (x.moment t).table.Kept := by
  induction t with
  | zero => exact h
  | succ t ih =>
    rcases x.table_succ t with hsame | ⟨i, r, hev⟩ | ⟨i, d, d', hev⟩
    · rwa [hsame]
    · exact (ih.insertRecord (x.insertRecord_of_event hev)).1
    · exact (ih.updateRecord (x.updateRecord_of_event hev)).1

section Rows

variable {x} (hkept : (x.moment 0).table.Kept)
include hkept

theorem inserted {t i : Nat} {r : Record} (hev : x.event t = .answer i ⟨.store (.insert r), .ok ()⟩) :
    (x.moment (t + 1)).table = (x.moment t).table ++ [Row.ofRecord r] ∧
      ∀ row ∈ (x.moment t).table, ¬ (Row.ofRecord r).Clashes row :=
  ((x.kept hkept t).insertRecord (x.insertRecord_of_event hev)).2

theorem updated {t i : Nat} {d d' : Record} (hev : x.event t = .answer i ⟨.store (.update d), .ok d'⟩) :
    d' = d.next ∧ (∃ row ∈ (x.moment t).table, Table.isRead d row = true) ∧ (x.moment (t + 1)).table =
      (x.moment t).table.map fun row => if Table.isRead d row then Row.updateFrom d row else row :=
  ((x.kept hkept t).updateRecord (x.updateRecord_of_event hev)).2

/-- Where a row was before. -/
theorem row_origin {t : Nat} {row : Row} (hrow : row ∈ (x.moment (t + 1)).table) :
    row ∈ (x.moment t).table ∨
    (∃ i r, x.event t = .answer i ⟨.store (.insert r), .ok ()⟩ ∧ row = Row.ofRecord r) ∨
    ∃ i d, x.event t = .answer i ⟨.store (.update d), .ok d.next⟩ ∧
      ∃ row₀ ∈ (x.moment t).table, row₀.hasId d.id = true ∧ row = Row.updateFrom d row₀ := by
  rcases x.table_succ t with hsame | ⟨i, r, hev⟩ | ⟨i, d, d', hev⟩
  · exact .inl (hsame ▸ hrow)
  · rw [(inserted hkept hev).1] at hrow
    rcases List.mem_append.1 hrow with hrow | hrow
    · exact .inl hrow
    · exact .inr (.inl ⟨i, r, hev, List.mem_singleton.1 hrow⟩)
  · obtain ⟨rfl, -, htable⟩ := updated hkept hev
    rw [htable] at hrow
    obtain ⟨row₀, hrow₀, rfl⟩ := List.mem_map.1 hrow
    split
    · rename_i hread
      exact .inr (.inr ⟨i, d, hev, row₀, hrow₀, (Bool.and_eq_true_iff.1 hread).1, rfl⟩)
    · exact .inl hrow₀

/-- What becomes of a row. -/
theorem row_forward {t : Nat} {row : Row} (hrow : row ∈ (x.moment t).table) :
    row ∈ (x.moment (t + 1)).table ∨
    ∃ i d, x.event t = .answer i ⟨.store (.update d), .ok d.next⟩ ∧ row.hasId d.id = true ∧
      Row.updateFrom d row ∈ (x.moment (t + 1)).table := by
  rcases x.table_succ t with hsame | ⟨i, r, hev⟩ | ⟨i, d, d', hev⟩
  · exact .inl (hsame ▸ hrow)
  · rw [(inserted hkept hev).1]
    exact .inl (List.mem_append_left _ hrow)
  · obtain ⟨rfl, -, htable⟩ := updated hkept hev
    have hmem := List.mem_map_of_mem
      (f := fun row => if Table.isRead d row then Row.updateFrom d row else row) hrow
    rw [← htable] at hmem
    split at hmem
    · rename_i hread
      exact .inr ⟨i, d, hev, (Bool.and_eq_true_iff.1 hread).1, hmem⟩
    · exact .inl hmem

/-- No row is deleted, and no row changes its id. -/
theorem hasId_forward {t : Nat} {id : RecordId} (h : ∃ row ∈ (x.moment t).table, row.hasId id = true) :
    ∃ row ∈ (x.moment (t + 1)).table, row.hasId id = true := by
  obtain ⟨row, hrow, hid⟩ := h
  rcases row_forward hkept hrow with hrow | ⟨i, d, -, -, hrow⟩
  · exact ⟨row, hrow, hid⟩
  · exact ⟨_, hrow, hid⟩

end Rows

def Handed (t : Nat) (c : Record) : Prop :=
  ∃ (i : Nat) (p : Ongoing), (x.moment t).ongoing[i]? = some p ∧ c ∈ handed p.past

theorem not_handed_zero (c : Record) : ¬ x.Handed 0 c := by
  rintro ⟨i, p, hp, -⟩
  simp [x.ongoing_zero] at hp

/-- It was handed before, or is read off a row now, or has just been written. -/
theorem handed_succ {x : Stretch g} (hkept : (x.moment 0).table.Kept) {t : Nat} {c : Record}
    (h : x.Handed (t + 1) c) : x.Handed t c ∨
      ((x.moment (t + 1)).table = (x.moment t).table ∧ ∃ row ∈ (x.moment t).table, row.record = .ok c) ∨
      ∃ i d, x.event t = .answer i ⟨.store (.update d), .ok d.next⟩ ∧ c = d.next := by
  obtain ⟨i, p, hp, hc⟩ := h
  cases x.origin hp with
  | begun _ => cases hc
  | kept hp₀ => exact .inl ⟨i, p, hp₀, hc⟩
  | @sent p₀ _ _ _ hp₀ _ => exact .inl ⟨i, p₀, hp₀, hc⟩
  | @received p₀ q _ y hev hp₀ _ _ =>
    rcases mem_handed_snoc.1 hc with hc | hc
    · exact .inl ⟨i, p₀, hp₀, hc⟩
    · have hanswers := (x.asked hev).2.resolve_right (not_fails_of_handedBy hc)
      rcases exists_row_of_handedBy hanswers hc with hrow | ⟨d, hy⟩
      · exact .inr (.inl hrow)
      · rw [hy] at hev
        obtain ⟨rfl, -⟩ := updated hkept hev
        exact .inr (.inr ⟨i, d, hev, rfl⟩)

/-- Every id in the store is spelled as the registrar spells it. -/
def Spelled : Prop := ∀ row ∈ (x.moment 0).table, row.Canonical

section Spelled

variable {x} (hkept : (x.moment 0).table.Kept) (hspelled : x.Spelled)
include hkept hspelled

theorem canonical (t : Nat) : ∀ row ∈ (x.moment t).table, row.Canonical := by
  induction t with
  | zero => exact hspelled
  | succ t ih =>
    intro row hrow
    rcases row_origin hkept hrow with hrow | ⟨_, r, -, rfl⟩ | ⟨_, d, -, row₀, hrow₀, -, rfl⟩
    · exact ih row hrow
    · exact Row.canonical_ofRecord r
    · exact ih row₀ hrow₀

/-- What is handed over has a row. -/
theorem hasId_of_handed {t : Nat} {c : Record} (hc : x.Handed t c) :
    ∃ row ∈ (x.moment t).table, row.hasId c.id = true := by
  induction t generalizing c with
  | zero => exact absurd hc (x.not_handed_zero c)
  | succ t ih =>
    rcases handed_succ hkept hc with hc | ⟨-, row, hrow, hrecord⟩ | ⟨i, d, hev, rfl⟩
    · exact hasId_forward hkept (ih hc)
    · exact hasId_forward hkept ⟨row, hrow, (canonical hkept hspelled t row hrow).hasId hrecord⟩
    · obtain ⟨-, ⟨row, hrow, hread⟩, -⟩ := updated hkept hev
      exact hasId_forward hkept ⟨row, hrow, (Bool.and_eq_true_iff.1 hread).1⟩

end Spelled

end Stretch

end IdentifierRegistrar
