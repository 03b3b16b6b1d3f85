import IdentifierRegistrar.Proofs.Store.Inverse
import Mathlib.Data.Prod.Lex
import Mathlib.Data.String.Basic

/-! What is listed for a resource: the records of the rows that are bound to it, once each, the oldest
first and those of one second by their ids (`Table.binds_of_decodes`). A resource to which no row is bound
has none (`Table.listByResource_eq_nil`). -/

namespace IdentifierRegistrar

theorem Cell.text_le_text_iff {s s' : String} : (text s).le (text s') = true ↔ s ≤ s' := by
  rw [← not_lt, Cell.le, Bool.not_eq_true', decide_eq_false_iff_not]

/-- A time and an id in cells compare as the pair of them. -/
theorem Cell.before_eq (m n : Int) (s s' : String) :
    (if int m == int n then (text s).le (text s') else (int m).le (int n)) =
      decide (toLex (m, s) ≤ toLex (n, s')) := by
  rw [Bool.eq_iff_iff, decide_eq_true_eq, Prod.Lex.toLex_le_toLex]
  by_cases hsame : m = n
  · simp [hsame, text_le_text_iff]
  · simp [hsame, Cell.le, Int.le_iff_lt_or_eq]

def Record.place (r : Record) : ℤ ×ₗ String := toLex (r.createdAt.seconds, r.id.text)

namespace Row

variable {row row' : Row} {r r' : Record} {resource : ResourceId}

/-- The order of rows is that of their records. -/
theorem createdBefore_eq (hrow : row.record = .ok r) (hcanonical : row.Canonical)
    (hrow' : row'.record = .ok r') (hcanonical' : row'.Canonical) :
    row.createdBefore row' = decide (r.place ≤ r'.place) := by
  have hcell {row : Row} {r : Record} (hrow : row.record = .ok r) :
      row.createdAt = .int r.createdAt.seconds :=
    (record_eq_ok_iff_encodes.1 hrow).columns .createdAt (by simp) (by simp)
  rw [createdBefore, hcell hrow, hcell hrow', hcanonical.id_eq hrow, hcanonical'.id_eq hrow',
    Cell.before_eq]
  rfl

end Row

namespace Table

variable {t : Table} {resource : ResourceId} {pairs : List (Row × Record)}

/-- What is listed for a resource: rows, each with the record that was read from it. -/
structure Binds (t : Table) (resource : ResourceId) (listed : List (Row × Record)) : Prop where
  read : t.listByResource resource = .ok (listed.map Prod.snd)
  decoded : ∀ p ∈ listed, p.1.record = .ok p.2
  rows : (listed.map Prod.fst).Perm (t.filter (Row.isBoundTo resource))
  order : listed.Pairwise fun p q => p.2.place ≤ q.2.place

theorem binds_of_decodes (h : ∀ row ∈ t, row.isBoundTo resource = true →
    row.Canonical ∧ ∃ s, row.record = .ok s) : ∃ listed, t.Binds resource listed := by
  have hbound (row : Row) (hrow : row ∈ t.filter (Row.isBoundTo resource)) :
      row.Canonical ∧ ∃ s, row.record = .ok s :=
    h row (List.mem_of_mem_filter hrow) (List.of_mem_filter hrow)
  obtain ⟨pairs, hrows, hpairs⟩ := exists_pairs fun row hrow => (hbound row hrow).2
  have hcanonical (p : Row × Record) (hp : p ∈ pairs) : p.1.Canonical := by
    have hmem : p.1 ∈ pairs.map Prod.fst := List.mem_map_of_mem hp
    rw [hrows] at hmem
    exact (hbound p.1 hmem).1
  let before (p q : Row × Record) : Bool := decide (p.2.place ≤ q.2.place)
  let sorted := pairs.mergeSort before
  have hsorted : ∀ p ∈ sorted, p.1.record = .ok p.2 := fun p hp => hpairs p (List.mem_mergeSort.1 hp)
  refine ⟨sorted, ?_, hsorted, ?_, ?_⟩
  · have hmap : (pairs.map Prod.fst).mergeSort Row.createdBefore = sorted.map Prod.fst := by
      refine (List.map_mergeSort (r := before) (f := Prod.fst) fun p hp q hq => ?_).symm
      exact (Row.createdBefore_eq (hpairs p hp) (hcanonical p hp) (hpairs q hq) (hcanonical q hq)).symm
    rw [listByResource, ← hrows, hmap]
    exact records_pairs hsorted
  · rw [← hrows]
    exact (List.mergeSort_perm pairs before).map Prod.fst
  · refine (List.pairwise_mergeSort ?_ ?_ pairs).imp fun h => of_decide_eq_true h
    · intro p q v hpq hqv
      exact decide_eq_true ((of_decide_eq_true hpq).trans (of_decide_eq_true hqv))
    · intro p q
      rw [Bool.or_eq_true, decide_eq_true_eq, decide_eq_true_eq]
      exact le_total _ _

section Binds

variable {listed : List (Row × Record)} {p : Row × Record}

theorem Binds.mem (h : t.Binds resource listed) (hp : p ∈ listed) :
    p.1 ∈ t ∧ p.1.isBoundTo resource = true :=
  List.mem_filter.1 (h.rows.mem_iff.1 (List.mem_map_of_mem hp))

theorem Binds.nodup (h : t.Binds resource listed) (hs : t.Sound) : (listed.map Prod.fst).Nodup := by
  have hsound : Sound (listed.map Prod.fst) := Sound.perm (hs.filter _) h.rows
  refine hsound.nodup fun row hrow => ?_
  obtain ⟨p, hp, rfl⟩ := List.mem_map.1 hrow
  exact ⟨p.2, h.decoded p hp⟩

end Binds

theorem listByResource_eq_nil (h : ∀ row ∈ t, row.isBoundTo resource = false) :
    t.listByResource resource = .ok [] := by
  have hnone : t.filter (Row.isBoundTo resource) = [] := by
    rw [List.filter_eq_nil_iff]
    intro row hrow
    rw [h row hrow]
    exact Bool.false_ne_true
  rw [listByResource, hnone, List.mergeSort_nil]
  rfl

end Table

end IdentifierRegistrar
