import IdentifierRegistrar.Proofs.Identifier.Order
import IdentifierRegistrar.Proofs.Store.Bound

/-! Listing by status as one ordered query. The store asks for one status after the other, reads the
rows it gets and sorts the records by the numbers of their ids; a query over all of the statuses sorts
the rows by the texts of the ids. The two agree where every row is a record and spells its id as the
registrar does (`Table.ListsAll.selects`), and calls to the store lead to no other tables
(`Store.Reached.legible`). Main result: `Store.Reached.listing_exact`. -/

namespace IdentifierRegistrar

namespace Record

variable {r s : Record}

/-- Updated in an earlier second, or in the same one and with an id whose text comes first, byte by byte. -/
def Precedes (r s : Record) : Prop :=
  r.updatedAt.seconds < s.updatedAt.seconds ∨
    r.updatedAt.seconds = s.updatedAt.seconds ∧
      compare (Text.bytes r.id.text) (Text.bytes s.id.text) = .lt

def turn (r : Record) : ℤ ×ₗ String := toLex (r.updatedAt.seconds, r.id.text)

theorem precedes_iff : r.Precedes s ↔ r.turn < s.turn := by
  rw [Precedes, LocalId.compare_bytes, Nat.compare_eq_lt, turn, turn, Prod.Lex.toLex_lt_toLex,
    LocalId.text_lt_text_iff]

theorem id_eq_of_turn_eq (h : r.turn = s.turn) : r.id = s.id :=
  LocalId.text_injective (Prod.mk.inj (toLex.injective h)).2

/-- Records whose times are whole seconds are sorted by their turns. -/
theorem updatedBefore_eq (hr : r.stored = r) (hs : s.stored = s) :
    r.updatedBefore s = decide (r.turn ≤ s.turn) := by
  have hnanos {r : Record} (h : r.stored = r) : r.updatedAt.nanos = 0 := by
    rw [← h]
    rfl
  have hids : r.id.text ≤ s.id.text ↔ r.id.ulid.toNat ≤ s.id.ulid.toNat := by
    rw [← not_lt, LocalId.text_lt_text_iff, not_lt]
  rw [Bool.eq_iff_iff, updatedBefore_iff, Instant.lt_iff, Instant.lt_iff, hnanos hr, hnanos hs, LocalId.le,
    decide_eq_true_eq, decide_eq_true_eq, BitVec.le_def, turn, turn, Prod.Lex.toLex_le_toLex, hids]
  omega

end Record

/-- So are the rows of such records, by their cells. -/
theorem Row.updatedBefore_eq {row row' : Row} {r r' : Record} (hrow : row.record = .ok r)
    (hcanonical : row.Canonical) (hrow' : row'.record = .ok r') (hcanonical' : row'.Canonical) :
    row.updatedBefore row' = decide (r.turn ≤ r'.turn) := by
  have hcell {row : Row} {r : Record} (hrow : row.record = .ok r) :
      row.updatedAt = .int r.updatedAt.seconds :=
    (record_eq_ok_iff_encodes.1 hrow).columns .updatedAt (by simp) (by simp)
  rw [updatedBefore, hcell hrow, hcell hrow', hcanonical.id_eq hrow, hcanonical'.id_eq hrow',
    Cell.before_eq]
  rfl

namespace Table

variable {t : Table} {statuses statuses' : List Status} {rows rows' : Table} {row row' : Row}
  {listed : List (Row × Record)}

/-- The constraints hold, and each row is a record and spells its id as the registrar does. -/
structure Legible (t : Table) : Prop where
  sound : t.Sound
  record : ∀ row ∈ t, ∃ r, row.record = .ok r
  canonical : ∀ row ∈ t, row.Canonical

/-- What one query for all of `statuses` may answer, ordered by time of update and then by id. -/
structure Selects (t : Table) (statuses : List Status) (rows : Table) : Prop where
  matching : rows.Perm (t.filter fun row => statuses.any row.hasStatus)
  order : rows.Pairwise fun row row' => row.updatedBefore row' = true

theorem Selects.mem_iff (h : t.Selects statuses rows) :
    row ∈ rows ↔ row ∈ t ∧ ∃ status ∈ statuses, row.hasStatus status = true := by
  rw [h.matching.mem_iff, List.mem_filter, List.any_eq_true]

theorem Selects.of_perm (h : t.Selects statuses rows) (hperm : statuses'.Perm statuses) :
    t.Selects statuses' rows where
  matching := by
    refine h.matching.trans (.of_eq (List.filter_congr fun row _ => ?_))
    exact (hperm.any_eq).symm
  order := h.order

namespace Legible

/-- No two rows come at the same place. -/
theorem eq_of_updatedBefore (ht : t.Legible) (hrow : row ∈ t) (hrow' : row' ∈ t)
    (hle : row.updatedBefore row' = true) (hge : row'.updatedBefore row = true) : row = row' := by
  obtain ⟨r, hr⟩ := ht.record row hrow
  obtain ⟨r', hr'⟩ := ht.record row' hrow'
  have hc := ht.canonical row hrow
  have hc' := ht.canonical row' hrow'
  rw [Row.updatedBefore_eq hr hc hr' hc', decide_eq_true_eq] at hle
  rw [Row.updatedBefore_eq hr' hc' hr hc, decide_eq_true_eq] at hge
  have hid : row'.hasId r.id = true := by
    rw [Record.id_eq_of_turn_eq (le_antisymm hle hge)]
    exact hc'.hasId hr'
  exact ht.sound.eq_of_hasId hrow hrow' (hc.hasId hr) hid

theorem eq_of_selects (ht : t.Legible) (h : t.Selects statuses rows) (h' : t.Selects statuses rows') :
    rows = rows' := by
  refine List.Perm.eq_of_pairwise (fun row row' hrow hrow' => ?_) h.order h'.order
    (h.matching.trans h'.matching.symm)
  exact ht.eq_of_updatedBefore (h.mem_iff.1 hrow).1 (h'.mem_iff.1 hrow').1

theorem decodes (ht : t.Legible) (statuses : List Status) : t.Decodes statuses :=
  fun row hrow _ => ht.record row hrow

end Legible

theorem ListsAll.mem (h : t.ListsAll statuses listed) {p : Row × Record} (hp : p ∈ listed) : p.1 ∈ t :=
  List.mem_of_mem_filter (h.rows.mem_iff.1 (List.mem_map_of_mem hp))

/-- The rows of a listing, in its order, are an answer to the query. -/
theorem ListsAll.selects (ht : t.Legible) (h : t.ListsAll statuses listed) :
    t.Selects statuses (listed.map Prod.fst) where
  matching := h.rows
  order := by
    refine List.pairwise_map.2 (h.order.imp_of_mem fun {p q} hp hq hle => ?_)
    have hrow := h.decoded p hp
    have hrow' := h.decoded q hq
    rw [Row.updatedBefore_eq hrow (ht.canonical _ (h.mem hp)) hrow' (ht.canonical _ (h.mem hq)),
      ← Record.updatedBefore_eq (Row.stored_of_record hrow) (Row.stored_of_record hrow')]
    exact hle

theorem ListsAll.nodup (ht : t.Legible) (h : t.ListsAll statuses listed) : (listed.map Prod.fst).Nodup :=
  h.rows.nodup_iff.2 ((ht.sound.nodup ht.record).filter _)

theorem ListsAll.precedes (ht : t.Legible) (h : t.ListsAll statuses listed) :
    (listed.map Prod.snd).Pairwise Record.Precedes := by
  have hboth := (h.selects ht).order.and (h.nodup ht)
  refine List.pairwise_map.2 ((List.pairwise_map.1 hboth).imp_of_mem fun {p q} hp hq hpq => ?_)
  obtain ⟨hle, hne⟩ := hpq
  have hrow := h.decoded p hp
  have hrow' := h.decoded q hq
  have hc := ht.canonical _ (h.mem hp)
  have hc' := ht.canonical _ (h.mem hq)
  rw [Record.precedes_iff, ← not_le]
  -- In each other's place they would be one row.
  intro hge
  refine hne (ht.eq_of_updatedBefore (h.mem hp) (h.mem hq) hle ?_)
  rw [Row.updatedBefore_eq hrow' hc' hrow hc]
  exact decide_eq_true hge

/-- The order in which the statuses are given makes no difference. -/
theorem ListsAll.of_perm (ht : t.Legible) (h : t.ListsAll statuses listed) (hstatuses : statuses.Nodup)
    (hperm : statuses'.Perm statuses) : t.ListsAll statuses' listed := by
  obtain ⟨listed', h'⟩ := listsAll_of_decodes (ht.decodes statuses') (hperm.nodup_iff.2 hstatuses)
  have hselects := (h.selects ht).of_perm hperm
  have hrows : listed'.map Prod.fst = listed.map Prod.fst := ht.eq_of_selects (h'.selects ht) hselects
  have hrecords : listed'.map Prod.snd = listed.map Prod.snd := by
    refine Except.map_ok_injective (ε := StoreError) ?_
    rw [← map_record_pairs h'.decoded, ← map_record_pairs h.decoded, hrows]
  exact ⟨hrecords ▸ h'.read, h.decoded, hselects.matching, h.order⟩

theorem ListsAll.length_eq {status : Status} (h : t.ListsAll [status] listed) :
    listed.length = t.count status := by
  have hlength := h.rows.length_eq
  rw [List.length_map] at hlength
  rw [hlength, count]
  congr 1
  exact List.filter_congr fun row _ => by simp

/-- The listing by `statuses` beside the query for all of them. The query answers `rows` and nothing
else, the listing is the records `rs` of these rows, and a sweep is given those that carry no marker. -/
structure Listing (t : Table) (statuses : List Status) (rows : Table) (rs : List Record) : Prop where
  read : t.listByStatus statuses = .ok rs
  decoded : rows.map Row.record = rs.map .ok
  query : ∀ rows', t.Selects statuses rows' ↔ rows' = rows
  mem : ∀ row, row ∈ rows ↔ row ∈ t ∧ ∃ status ∈ statuses, row.status = .text status.tag
  nodup : rows.Nodup
  order : rs.Pairwise Record.Precedes
  retryable : ∃ qs, t.listRetryable statuses = .ok qs ∧ qs.Sublist rs ∧
    (rows.filter fun row => row.attention == .null).map Row.record = qs.map .ok

theorem ListsAll.listing (ht : t.Legible) (h : t.ListsAll statuses listed) :
    t.Listing statuses (listed.map Prod.fst) (listed.map Prod.snd) where
  read := h.read
  decoded := map_record_pairs h.decoded
  query rows' := by
    constructor
    · intro h'
      exact ht.eq_of_selects h' (h.selects ht)
    · rintro rfl
      exact h.selects ht
  mem row := by
    rw [(h.selects ht).mem_iff]
    simp only [Row.hasStatus, Cell.equals_iff]
    refine and_congr_right fun _ => exists_congr fun status => and_congr_right fun _ => ⟨And.right, ?_⟩
    intro hstatus
    exact ⟨by simp [hstatus], hstatus⟩
  nodup := h.nodup ht
  order := h.precedes ht
  retryable := by
    refine ⟨_, h.lists.read, List.filter_sublist.map _, ?_⟩
    rw [← map_fst_unmarked h.decoded]
    exact map_record_pairs h.lists.decoded

section Writing

variable {r : Record}

theorem Legible.kept (ht : t.Legible) : t.Kept where
  sound := ht.sound
  stored row hrow := by
    obtain ⟨r, hr⟩ := ht.record row hrow
    obtain ⟨u, rfl, -⟩ := Row.record_eq_ok_iff.1 hr
    exact u.stored_row

theorem Legible.insertRecord (ht : t.Legible) {t' : Table} (h : t.insertRecord r = .ok t') :
    t'.Legible := by
  obtain ⟨hkept, rfl, -⟩ := ht.kept.insertRecord h
  refine ⟨hkept.sound, fun row hrow => ?_, fun row hrow => ?_⟩
  all_goals rcases List.mem_append.1 hrow with hrow | hrow
  · exact ht.record row hrow
  · rw [List.mem_singleton.1 hrow]
    exact ⟨_, Row.record_ofRecord r⟩
  · exact ht.canonical row hrow
  · rw [List.mem_singleton.1 hrow]
    exact Row.canonical_ofRecord r

theorem Legible.updateRecord (ht : t.Legible) {d : Record} {t' : Table}
    (h : t.updateRecord r = .ok (d, t')) : t'.Legible := by
  obtain ⟨hkept, -, -, rfl⟩ := ht.kept.updateRecord h
  refine ⟨hkept.sound, fun row hrow => ?_, fun row hrow => ?_⟩
  all_goals
    obtain ⟨row, hold, rfl⟩ := List.mem_map.1 hrow
    split
  · obtain ⟨s, hs⟩ := ht.record row hold
    exact ⟨_, Row.overwrite_record hs r⟩
  · exact ht.record row hold
  · -- An update leaves the id as it is.
    exact ht.canonical row hold
  · exact ht.canonical row hold

theorem Legible.answer (ht : t.Legible) (call : Store.Call) : (Store.answer t call).2.Legible := by
  cases call with
  | insert r =>
    cases h : t.insertRecord r with
    | ok t' =>
      rw [Store.answer, h]
      exact ht.insertRecord h
    | error e =>
      rw [Store.answer, h]
      exact ht
  | update r =>
    cases h : t.updateRecord r with
    | ok a =>
      rw [Store.answer, h]
      exact ht.updateRecord h
    | error e =>
      rw [Store.answer, h]
      exact ht
  | _ => exact ht

end Writing

end Table

namespace Store

/-- Tables that calls to the store lead to from the empty one. Only insertions and updates change a
table, and they may be of any records. -/
inductive Reached : Table → Prop
  | empty : Reached []
  | call {t : Table} (h : Reached t) (call : Call) : Reached (answer t call).2

theorem Reached.legible {t : Table} (h : Reached t) : t.Legible := by
  induction h with
  | empty => exact ⟨List.Pairwise.nil, by simp, by simp⟩
  | call _ call ih => exact ih.answer call

/-- A listing by status is the one answer to one ordered query for all of the statuses, in whatever order
these are given. -/
theorem Reached.listing_exact {t : Table} {statuses : List Status} (h : Reached t)
    (hstatuses : statuses.Nodup) :
    ∃ rows rs, (∀ statuses', statuses'.Perm statuses → t.Listing statuses' rows rs) ∧
      ∀ status, ∃ rs', t.listByStatus [status] = .ok rs' ∧ rs'.length = t.count status := by
  have ht := h.legible
  obtain ⟨listed, hlisted⟩ := Table.listsAll_of_decodes (ht.decodes statuses) hstatuses
  refine ⟨listed.map Prod.fst, listed.map Prod.snd, fun statuses' hperm => ?_, fun status => ?_⟩
  · exact (hlisted.of_perm ht hstatuses hperm).listing ht
  · obtain ⟨one, hone⟩ := Table.listsAll_of_decodes (ht.decodes [status]) (List.nodup_singleton status)
    exact ⟨_, hone.read, by rw [List.length_map, hone.length_eq]⟩

section Sample

def sampleLeft (id : Ulid) (value : IdentifierValue) (status : Status) (note : Option String)
    (time : Instant) : Record :=
  ⟨⟨id⟩, value, none, .item, status, note, 1, .epoch, time⟩

def sampleFirst : Record :=
  sampleLeft 10 ⟨.dark, "dark:/q/a", by decide⟩ .toBeDeleted none
    ⟨41, 103, by decide, by decide, by decide⟩

def sampleTied : Record :=
  sampleLeft 9 ⟨.doi, "doi:10.1/q", by decide⟩ .toBeRegistered (some "no title")
    ⟨41, 907, by decide, by decide, by decide⟩

def sampleLast : Record :=
  sampleLeft 8 ⟨.dark, "dark:/q/b", by decide⟩ .toBeDeleted none
    ⟨43, 11, by decide, by decide, by decide⟩

def sampleSettling : Record := sampleLeft 7 ⟨.dark, "dark:/q/c", by decide⟩ .toBeRegistered none .epoch

def sampleSettled : Record := { sampleSettling with status := .isRegistered }

/-- The store after the four were added and the last of them was registered. -/
def sampleStore : Table :=
  [sampleLast, sampleFirst, sampleTied, sampleSettled.next].map Row.ofRecord

theorem sampleStore_reached : Reached sampleStore := by
  have hcalls : (answer (answer (answer (answer (answer [] (.insert sampleLast)).2
      (.insert sampleFirst)).2 (.insert sampleTied)).2 (.insert sampleSettling)).2
      (.update sampleSettled)).2 = sampleStore := by
    decide +kernel
  rw [← hcalls]
  exact .call (.call (.call (.call (.call .empty _) _) _) _) _

/-- Of the two that were updated in one second the one with the lower id is listed first, whichever
status is asked for first. It carries a marker, and so it is not retried. -/
theorem sampleStore_listed :
    Reached sampleStore ∧ [Status.toBeDeleted, .toBeRegistered].Nodup ∧
      (∀ statuses, statuses.Perm [Status.toBeDeleted, .toBeRegistered] →
        sampleStore.listByStatus statuses =
            .ok ([sampleTied, sampleFirst, sampleLast].map Record.stored) ∧
          sampleStore.listRetryable statuses = .ok ([sampleFirst, sampleLast].map Record.stored)) ∧
      ∃ rs, sampleStore.listByStatus [.toBeDeleted] = .ok rs ∧ rs.length = 2 := by
  have hnodup : [Status.toBeDeleted, .toBeRegistered].Nodup := by decide
  obtain ⟨rows, rs, hlisting, hcount⟩ := sampleStore_reached.listing_exact hnodup
  refine ⟨sampleStore_reached, hnodup, fun statuses hperm => ?_, hcount .toBeDeleted⟩
  have hanswer : sampleStore.Selects [.toBeDeleted, .toBeRegistered]
      ([sampleTied, sampleFirst, sampleLast].map Row.ofRecord) :=
    ⟨by decide +kernel, by decide +kernel⟩
  obtain rfl := ((hlisting _ (.refl _)).query _).1 hanswer
  have hlisted := hlisting statuses hperm
  obtain ⟨qs, hread, -, hunmarked⟩ := hlisted.retryable
  rw [hlisted.read, hread]
  -- Both are the records of rows that are known by now.
  exact ⟨congrArg _ (Except.map_ok_injective hlisted.decoded.symm),
    congrArg _ (Except.map_ok_injective hunmarked.symm)⟩

end Sample

end Store

end IdentifierRegistrar
