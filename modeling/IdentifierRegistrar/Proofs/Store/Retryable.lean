import IdentifierRegistrar.Proofs.Store.Standing

/-! What is listed by status, and of that what a sweep lists. The rows at some statuses are listed once
each, the least recently updated first (`Table.listsAll_of_decodes`), and for a sweep those that wait for
no operator (`Table.lists_of_decodes`); a row at one of the statuses that is no record, marked or not,
fails the whole listing (`Table.decodes_of_listRetryable`). -/

namespace IdentifierRegistrar

namespace Instant

theorem lt_iff {a b : Instant} : a.lt b = true ↔
    a.seconds < b.seconds ∨ a.seconds = b.seconds ∧ a.nanos < b.nanos := by
  simp [lt]

end Instant

namespace Record

theorem updatedBefore_iff {r s : Record} : r.updatedBefore s = true ↔
    r.updatedAt.lt s.updatedAt = true ∨
      ¬ s.updatedAt.lt r.updatedAt = true ∧ r.id.le s.id = true := by
  simp [updatedBefore]

theorem updatedBefore_trans (r s t : Record) (h : r.updatedBefore s = true)
    (h' : s.updatedBefore t = true) : r.updatedBefore t = true := by
  simp only [updatedBefore_iff, Instant.lt_iff, LocalId.le, decide_eq_true_eq, BitVec.le_def] at *
  omega

theorem updatedBefore_total (r s : Record) : (r.updatedBefore s || s.updatedBefore r) = true := by
  simp only [Bool.or_eq_true, updatedBefore_iff, Instant.lt_iff, LocalId.le, decide_eq_true_eq,
    BitVec.le_def]
  omega

end Record

namespace Row

variable {row : Row} {s : Record} {statuses : List Status}

def isRetryable (statuses : List Status) (row : Row) : Bool :=
  statuses.any row.hasStatus && row.attention == .null

theorem attention_of_record (h : row.record = .ok s) :
    row.attention = (s.attention.map .text).getD .null := by
  obtain ⟨u, rfl, hu⟩ := record_eq_ok_iff.1 h
  rw [← hu.attention]
  rfl

theorem attention_eq_null_iff (h : row.record = .ok s) :
    row.attention = .null ↔ s.attention = none := by
  rw [attention_of_record h]
  cases s.attention <;> simp

theorem any_hasStatus_iff (h : row.record = .ok s) :
    statuses.any row.hasStatus = true ↔ s.status ∈ statuses := by
  rw [List.any_eq_true]
  constructor
  · rintro ⟨status, hmem, hstatus⟩
    rw [hasStatus_iff_of_record h] at hstatus
    exact hstatus ▸ hmem
  · intro hmem
    exact ⟨s.status, hmem, (hasStatus_iff_of_record h _).2 rfl⟩

theorem isRetryable_iff_of_record (h : row.record = .ok s) :
    row.isRetryable statuses = true ↔ s.status ∈ statuses ∧ s.attention = none := by
  rw [isRetryable, Bool.and_eq_true, any_hasStatus_iff h, beq_iff_eq, attention_eq_null_iff h]

end Row

theorem Except.exists_of_mapM {α β ε : Type} {f : α → Except ε β} {as : List α} {bs : List β}
    (h : as.mapM f = .ok bs) {a : α} (ha : a ∈ as) : ∃ b ∈ bs, f a = .ok b := by
  induction as generalizing bs with
  | nil => cases ha
  | cons a' as ih =>
    rw [List.mapM_cons] at h
    obtain ⟨b, hb, hrest⟩ := Except.bind_eq_ok_iff.1 h
    obtain ⟨bs', hbs', hcons⟩ := Except.bind_eq_ok_iff.1 hrest
    obtain rfl := Except.ok.inj hcons
    rcases List.mem_cons.1 ha with rfl | ha
    · exact ⟨b, by simp, hb⟩
    · obtain ⟨b', hb', hfa⟩ := ih hbs' ha
      exact ⟨b', List.mem_cons_of_mem _ hb', hfa⟩

theorem Except.map_ok_injective {ε α : Type} : Function.Injective (List.map (.ok : α → Except ε α)) :=
  List.map_injective_iff.2 fun _ _ => Except.ok.inj

theorem filter_append_filter_perm {α : Type} {p q : α → Bool} (as : List α)
    (h : ∀ a ∈ as, p a = true → q a = false) :
    (as.filter p ++ as.filter q).Perm (as.filter fun a => p a || q a) := by
  have hp : (as.filter fun a => p a || q a).filter p = as.filter p := by
    rw [List.filter_filter]
    refine List.filter_congr fun a _ => ?_
    cases p a <;> rfl
  have hq : ((as.filter fun a => p a || q a).filter fun a => !p a) = as.filter q := by
    rw [List.filter_filter]
    refine List.filter_congr fun a ha => ?_
    cases hpa : p a
    · simp
    · simp [h a ha hpa]
  have hperm := List.filter_append_perm p (as.filter fun a => p a || q a)
  rwa [hp, hq] at hperm

namespace Table

variable {t : Table} {statuses : List Status} {pairs : List (Row × Record)} {rs : List Record}

/-- The rows of a listing are those at one of its statuses, each once. -/
theorem rowsAt_perm (t : Table) (h : statuses.Nodup) :
    (t.rowsAt statuses).Perm (t.filter fun row => statuses.any row.hasStatus) := by
  induction statuses with
  | nil => simp [rowsAt]
  | cons status statuses ih =>
    rw [List.nodup_cons] at h
    have hfirst : ((t.filter (Row.hasStatus status)).mergeSort Row.updatedBefore ++
        t.rowsAt statuses).Perm (t.filter (Row.hasStatus status) ++
          t.filter fun row => statuses.any row.hasStatus) :=
      (List.mergeSort_perm _ _).append (ih h.2)
    refine hfirst.trans (filter_append_filter_perm t fun row _ hrow => ?_)
    -- A row has one status only.
    rw [← Bool.not_eq_true, List.any_eq_true]
    rintro ⟨status', hmem, hrow'⟩
    have htag := Cell.text.inj ((Cell.equals_iff.1 hrow).2.symm.trans (Cell.equals_iff.1 hrow').2)
    rw [Status.tag_injective htag] at h
    exact h.1 hmem

/-- Rows that decode, each with its record. -/
theorem exists_pairs {rows : Table} (h : ∀ row ∈ rows, ∃ s, row.record = .ok s) :
    ∃ pairs : List (Row × Record), pairs.map Prod.fst = rows ∧ ∀ p ∈ pairs, p.1.record = .ok p.2 := by
  induction rows with
  | nil => exact ⟨[], rfl, by simp⟩
  | cons row rows ih =>
    obtain ⟨s, hs⟩ := h row (by simp)
    obtain ⟨pairs, hrows, hpairs⟩ := ih fun row hrow => h row (by simp [hrow])
    refine ⟨(row, s) :: pairs, by simp [hrows], fun p hp => ?_⟩
    rcases List.mem_cons.1 hp with rfl | hp
    · exact hs
    · exact hpairs p hp

theorem map_record_pairs (h : ∀ p ∈ pairs, p.1.record = .ok p.2) :
    (pairs.map Prod.fst).map Row.record = (pairs.map Prod.snd).map .ok := by
  rw [List.map_map, List.map_map]
  exact List.map_congr_left h

theorem records_pairs (h : ∀ p ∈ pairs, p.1.record = .ok p.2) :
    records (pairs.map Prod.fst) = .ok (pairs.map Prod.snd) := by
  have hdecodes : ∀ row ∈ pairs.map Prod.fst, ∃ s, row.record = .ok s := by
    intro row hrow
    obtain ⟨p, hp, rfl⟩ := List.mem_map.1 hrow
    exact ⟨p.2, h p hp⟩
  obtain ⟨rs, hrs, hmap⟩ := records_eq_ok hdecodes
  rw [hrs, Except.map_ok_injective (hmap.symm.trans (map_record_pairs h))]

/-- Records without a marker are those of the rows without one. -/
theorem map_fst_unmarked (h : ∀ p ∈ pairs, p.1.record = .ok p.2) :
    (pairs.filter (·.2.attention.isNone)).map Prod.fst =
      (pairs.map Prod.fst).filter fun row => row.attention == .null := by
  rw [List.filter_map]
  congr 1
  refine List.filter_congr fun p hp => ?_
  rw [Bool.eq_iff_iff, Option.isNone_iff_eq_none, Function.comp_apply, beq_iff_eq,
    Row.attention_eq_null_iff (h p hp)]

theorem Sound.perm {rows : Table} (h : t.Sound) (hperm : rows.Perm t) : rows.Sound :=
  (hperm.pairwise_iff fun hno hclash => hno hclash.symm).2 h

theorem Sound.nodup {rows : Table} (h : rows.Sound) (hdecodes : ∀ row ∈ rows, ∃ s, row.record = .ok s) :
    rows.Nodup := by
  refine List.Pairwise.imp_of_mem (fun {u v} hu _ hno heq => ?_) h
  subst heq
  obtain ⟨s, hs⟩ := hdecodes u hu
  -- A row that decodes has an id, and so would clash with itself.
  obtain ⟨cells, hcells, -⟩ := Row.record_eq_ok_iff.1 hs
  refine hno (.inr (.inr (Cell.equals_iff.2 ⟨?_, rfl⟩)))
  rw [hcells]
  simp [Row.Typed.row]

/-- What is listed by status: rows, each with the record that was read from it. -/
structure ListsAll (t : Table) (statuses : List Status) (listed : List (Row × Record)) : Prop where
  read : t.listByStatus statuses = .ok (listed.map Prod.snd)
  decoded : ∀ p ∈ listed, p.1.record = .ok p.2
  rows : (listed.map Prod.fst).Perm (t.filter fun row => statuses.any row.hasStatus)
  order : listed.Pairwise fun p q => p.2.updatedBefore q.2 = true

structure Lists (t : Table) (statuses : List Status) (listed : List (Row × Record)) : Prop where
  read : t.listRetryable statuses = .ok (listed.map Prod.snd)
  decoded : ∀ p ∈ listed, p.1.record = .ok p.2
  rows : (listed.map Prod.fst).Perm (t.filter (Row.isRetryable statuses))
  order : listed.Pairwise fun p q => p.2.updatedBefore q.2 = true

theorem listByStatus_eq (t : Table) (statuses : List Status) : t.listByStatus statuses =
    (records (t.rowsAt statuses)).map (·.mergeSort Record.updatedBefore) := by
  change (records (t.rowsAt statuses) >>= fun rs => pure (rs.mergeSort Record.updatedBefore)) = _
  cases records (t.rowsAt statuses) <;> rfl

theorem listRetryable_eq (t : Table) (statuses : List Status) :
    t.listRetryable statuses = (t.listByStatus statuses).map (·.filter (·.attention.isNone)) := by
  change t.listByStatus statuses >>= (fun rs => pure (rs.filter _)) = _
  cases t.listByStatus statuses <;> rfl

theorem listsAll_of_decodes (h : t.Decodes statuses) (hstatuses : statuses.Nodup) :
    ∃ listed, t.ListsAll statuses listed := by
  have hdecodes : ∀ row ∈ t.rowsAt statuses, ∃ s, row.record = .ok s := fun row hrow =>
    h row (mem_rowsAt.1 hrow).1 (mem_rowsAt.1 hrow).2
  obtain ⟨pairs, hrows, hpairs⟩ := exists_pairs hdecodes
  let before (p q : Row × Record) : Bool := p.2.updatedBefore q.2
  refine ⟨pairs.mergeSort before, ?_, fun p hp => hpairs p (List.mem_mergeSort.1 hp), ?_, ?_⟩
  · have hmap : (pairs.map Prod.snd).mergeSort Record.updatedBefore =
        (pairs.mergeSort before).map Prod.snd :=
      (List.map_mergeSort (r := before) (f := Prod.snd) fun _ _ _ _ => rfl).symm
    rw [listByStatus_eq, ← hrows, records_pairs hpairs, Except.map, hmap]
  · refine ((List.mergeSort_perm pairs before).map Prod.fst).trans ?_
    rw [hrows]
    exact rowsAt_perm t hstatuses
  · refine List.pairwise_mergeSort ?_ ?_ pairs
    · exact fun p q u => Record.updatedBefore_trans p.2 q.2 u.2
    · exact fun p q => Record.updatedBefore_total p.2 q.2

/-- What is retried is what is listed without the marked. -/
theorem ListsAll.lists {listed : List (Row × Record)} (h : t.ListsAll statuses listed) :
    t.Lists statuses (listed.filter (·.2.attention.isNone)) where
  read := by
    rw [listRetryable_eq, h.read, Except.map, List.filter_map]
    rfl
  decoded p hp := h.decoded p (List.mem_of_mem_filter hp)
  rows := by
    have hfilter := h.rows.filter fun row : Row => row.attention == .null
    rw [List.filter_filter] at hfilter
    rw [map_fst_unmarked h.decoded]
    refine hfilter.trans (.of_eq (List.filter_congr fun row _ => ?_))
    exact Bool.and_comm _ _
  order := h.order.filter _

theorem lists_of_decodes (h : t.Decodes statuses) (hstatuses : statuses.Nodup) :
    ∃ listed, t.Lists statuses listed := by
  obtain ⟨listed, hlisted⟩ := listsAll_of_decodes h hstatuses
  exact ⟨_, hlisted.lists⟩

section Lists

variable {listed : List (Row × Record)}

theorem Lists.mem (h : t.Lists statuses listed) {p : Row × Record} (hp : p ∈ listed) : p.1 ∈ t :=
  List.mem_of_mem_filter (h.rows.mem_iff.1 (List.mem_map_of_mem hp))

theorem Lists.isRetryable (h : t.Lists statuses listed) {p : Row × Record} (hp : p ∈ listed) :
    p.1.isRetryable statuses = true :=
  List.of_mem_filter (h.rows.mem_iff.1 (List.mem_map_of_mem hp))

theorem Lists.nodup (h : t.Lists statuses listed) (hs : t.Sound) : (listed.map Prod.fst).Nodup := by
  have hsound : Sound (listed.map Prod.fst) := Sound.perm (hs.filter _) h.rows
  refine hsound.nodup fun row hrow => ?_
  obtain ⟨p, hp, rfl⟩ := List.mem_map.1 hrow
  exact ⟨p.2, h.decoded p hp⟩

end Lists

theorem listRetryable_eq_nil (h : t.Decodes statuses) (hstatuses : statuses.Nodup)
    (hnone : ∀ row ∈ t, ¬ row.isRetryable statuses = true) : t.listRetryable statuses = .ok [] := by
  obtain ⟨listed, hlists⟩ := lists_of_decodes h hstatuses
  have hrows := hlists.rows
  rw [List.filter_eq_nil_iff.2 hnone, List.perm_nil, List.map_eq_nil_iff] at hrows
  rw [hlists.read, hrows, List.map_nil]

theorem exists_record_of_records {rows : Table} {row : Row} (h : records rows = .ok rs)
    (hrow : row ∈ rows) : ∃ s ∈ rs, row.record = .ok s := by
  obtain ⟨us, htyped, hus⟩ := Except.bind_eq_ok_iff.1 h
  obtain ⟨u, hu, hru⟩ := Except.exists_of_mapM htyped hrow
  obtain ⟨s, hs, hus⟩ := Except.exists_of_mapM hus hu
  exact ⟨s, hs, Except.bind_eq_ok_iff.2 ⟨u, hru, hus⟩⟩

theorem decodes_of_listRetryable (h : t.listRetryable statuses = .ok rs) : t.Decodes statuses := by
  intro row hrow hstatus
  rw [listRetryable_eq, listByStatus_eq] at h
  cases hrecords : records (t.rowsAt statuses) with
  | error e => simp [hrecords, Except.map] at h
  | ok rs' =>
    obtain ⟨s, -, hs⟩ := exists_record_of_records hrecords (mem_rowsAt.2 ⟨hrow, hstatus⟩)
    exact ⟨s, hs⟩

section Lone

variable {before after : Table} {row : Row} {r : Record}

/-- Around a row: rows that a listing can be read with, and none of them to be retried. -/
structure Lone (statuses : List Status) (before after : Table) : Prop where
  decodes : Decodes (before ++ after) statuses
  idle : ∀ row ∈ before ++ after, ¬ row.isRetryable statuses = true

theorem Lone.decodes_around (h : Lone statuses before after) (hrow : row.record = .ok r) :
    Decodes (before ++ row :: after) statuses := by
  intro other hother hstatus
  rcases List.mem_cons.1 (List.perm_middle.mem_iff.1 hother) with rfl | hmem
  · exact ⟨r, hrow⟩
  · exact h.decodes other hmem hstatus

theorem Lone.listRetryable (h : Lone statuses before after) (hstatuses : statuses.Nodup)
    (hrow : row.record = .ok r) (hretry : row.isRetryable statuses = true) :
    Table.listRetryable (before ++ row :: after) statuses = .ok [r] := by
  obtain ⟨listed, hlists⟩ := lists_of_decodes (h.decodes_around hrow) hstatuses
  have hbefore : before.filter (Row.isRetryable statuses) = [] :=
    List.filter_eq_nil_iff.2 fun other hother => h.idle other (List.mem_append_left _ hother)
  have hafter : after.filter (Row.isRetryable statuses) = [] :=
    List.filter_eq_nil_iff.2 fun other hother => h.idle other (List.mem_append_right _ hother)
  have hrows := hlists.rows
  rw [List.filter_append, hbefore, List.filter_cons_of_pos hretry, hafter, List.nil_append,
    List.perm_singleton] at hrows
  obtain ⟨p, rfl, rfl⟩ := List.map_eq_singleton_iff.1 hrows
  obtain rfl : p.2 = r := Except.ok.inj ((hlists.decoded p (by simp)).symm.trans hrow)
  exact hlists.read

theorem Lone.listRetryable_eq_nil (h : Lone statuses before after) (hstatuses : statuses.Nodup)
    (hrow : row.record = .ok r) (hretry : ¬ row.isRetryable statuses = true) :
    Table.listRetryable (before ++ row :: after) statuses = .ok [] := by
  refine Table.listRetryable_eq_nil (h.decodes_around hrow) hstatuses fun other hother => ?_
  rcases List.mem_cons.1 (List.perm_middle.mem_iff.1 hother) with rfl | hmem
  · exact hretry
  · exact h.idle other hmem

/-- It is so where nothing but the record of the row is listed. -/
theorem lone_of_listRetryable (hsound : Sound (before ++ row :: after)) (hrow : row.record = .ok r)
    (hstatuses : statuses.Nodup)
    (hread : Table.listRetryable (before ++ row :: after) statuses = .ok rs) (hrs : ∀ s ∈ rs, s = r) :
    Lone statuses before after := by
  have hdecodes := decodes_of_listRetryable hread
  have haround (other : Row) (hmem : other ∈ before ++ after) : other ∈ before ++ row :: after :=
    List.perm_middle.mem_iff.2 (List.mem_cons_of_mem _ hmem)
  refine ⟨fun other hother hstatus => hdecodes other (haround other hother) hstatus,
    fun other hother hretry => ?_⟩
  obtain ⟨listed, hlists⟩ := lists_of_decodes hdecodes hstatuses
  obtain rfl := Except.ok.inj (hread.symm.trans hlists.read)
  have hmem := hlists.rows.mem_iff.2 (List.mem_filter.2 ⟨haround other hother, hretry⟩)
  obtain ⟨p, hp, rfl⟩ := List.mem_map.1 hmem
  -- Two rows of one record would have one value.
  have hvalue := Row.value_of_record (hlists.decoded p hp)
  rw [hrs p.2 (List.mem_map_of_mem hp)] at hvalue
  have hclash : row.Clashes p.1 := by
    refine .inr (.inl (Cell.equals_iff.2 ⟨?_, ?_⟩))
    · simp [Row.value_of_record hrow]
    · rw [Row.value_of_record hrow, hvalue]
  exact hsound.not_clashes_others hother hclash

end Lone

end Table

end IdentifierRegistrar
