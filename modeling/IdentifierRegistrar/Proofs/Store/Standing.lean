import IdentifierRegistrar.Proofs.Operation.Exchange
import IdentifierRegistrar.Proofs.Store.Shown

/-! The rows that stand for a resource, in any table that the database allows. A call that writes adds
one row or writes over rows in place (`Kept.insertRecord`, `Kept.updateRecord`), what a call reads it
reads off a row (`exists_row_of_handedBy`), and at most one live row of a scheme stands for a resource
(`Sound.eq_of_holds`). -/

namespace IdentifierRegistrar

theorem Except.exists_of_mem_mapM {α β ε : Type} {f : α → Except ε β} {as : List α} {bs : List β}
    (h : as.mapM f = .ok bs) {b : β} (hb : b ∈ bs) : ∃ a ∈ as, f a = .ok b := by
  induction as generalizing bs with
  | nil =>
    obtain rfl := Except.ok.inj h
    cases hb
  | cons a as ih =>
    rw [List.mapM_cons] at h
    obtain ⟨b', hb', hrest⟩ := Except.bind_eq_ok_iff.1 h
    obtain ⟨bs', hbs', hcons⟩ := Except.bind_eq_ok_iff.1 hrest
    obtain rfl := Except.ok.inj hcons
    rcases List.mem_cons.1 hb with rfl | hb
    · exact ⟨a, by simp, hb'⟩
    · obtain ⟨a', ha', hfa⟩ := ih hbs' hb
      exact ⟨a', List.mem_cons_of_mem _ ha', hfa⟩

namespace Row

variable {row row' : Row} {r d : Record} {resource : ResourceId} {scheme : Scheme}

def isFor (resource : ResourceId) (scheme : Scheme) (row : Row) : Bool :=
  row.isBoundTo resource && row.scheme.equals (.text scheme.tag)

def holds (resource : ResourceId) (scheme : Scheme) (row : Row) : Bool :=
  row.isFor resource scheme && row.isLive

theorem holds_ofRecord (r : Record) : (ofRecord r).holds resource scheme =
    decide (r.resource = some resource ∧ r.scheme = scheme ∧ r.status ≠ .deleted) := by
  rw [holds, isFor, isLiveOf_ofRecord]

theorem isFor_ofRecord (r : Record) : (ofRecord r).isFor resource scheme =
    decide (r.resource = some resource ∧ r.scheme = scheme) := by
  rw [isFor, isBoundTo_ofRecord, equals_scheme_ofRecord, ← Bool.decide_and]

/-- Two rows that hold the same clash. -/
theorem clashes_of_holds (h : row.holds resource scheme = true) (h' : row'.holds resource scheme = true) :
    row.Clashes row' := by
  simp only [holds, isFor, isBoundTo, Bool.and_eq_true, Cell.equals_iff] at h h'
  obtain ⟨⟨⟨hbound, hresource⟩, hsome, hscheme⟩, hlive⟩ := h
  obtain ⟨⟨⟨-, hresource'⟩, -, hscheme'⟩, hlive'⟩ := h'
  left
  simp only [sharesResource, hlive, hlive', Bool.and_eq_true, Cell.equals_iff, true_and]
  exact ⟨⟨hbound, hresource.trans hresource'.symm⟩, hsome, hscheme.trans hscheme'.symm⟩

/-- What is written over a row binds it to nothing it was not bound to. -/
theorem isFor_of_updateFrom (h : (updateFrom d row).isFor resource scheme = true) :
    row.isFor resource scheme = true := by
  simp only [isFor, Bool.and_eq_true] at h ⊢
  refine ⟨?_, h.2⟩
  have hbound := h.1
  simp only [isBoundTo, updateFrom] at hbound ⊢
  split at hbound
  · simp [Cell.equals] at hbound
  · exact hbound

theorem isLive_updateFrom (d : Record) (row : Row) :
    (updateFrom d row).isLive = decide (d.status ≠ .deleted) := by
  cases h : d.status <;> simp [isLive, updateFrom, h, Status.tag]

/-- A row that does not hold what it is for is at its end. -/
theorem status_of_not_holds (hrow : row.record = .ok r) (hfor : row.isFor resource scheme = true)
    (h : row.holds resource scheme = false) : r.status = .deleted := by
  have hstatus : row.hasStatus .deleted = true := by
    rw [holds, hfor, Bool.true_and] at h
    have hcell : row.status = .text "deleted" := by simpa [isLive] using h
    rw [hasStatus, hcell, Status.tag, equals_text, decide_eq_true rfl]
  exact (hasStatus_iff_of_record hrow _).1 hstatus

/-- A row whose cells are as their columns keep them is so after an update. -/
theorem stored_updateFrom_of_stored (h : row.stored = row) (d : Record) :
    (updateFrom d row).stored = updateFrom d row := by
  obtain ⟨id, schemeCell, value, resourceId, type, status, attention, version, created, updated⟩ := row
  simp only [stored, Column.all, List.foldl, set, get, Column.affinity, mk.injEq] at h
  obtain ⟨hid, hscheme, hvalue, hresource, htype, -, -, -, hcreated, -⟩ := h
  simp only [updateFrom, stored, Column.all, List.foldl, set, get, Column.affinity, mk.injEq]
  refine ⟨hid, hscheme, hvalue, ?_, htype, rfl, ?_, rfl, hcreated, rfl⟩
  · cases d.isOrphaned
    · exact hresource
    · rfl
  · cases d.attention <;> rfl

def Canonical (row : Row) : Prop :=
  ∀ (text : String) (id : RecordId), row.id = .text text → LocalId.parse .record text = .ok id →
    text = id.text

theorem canonical_ofRecord (r : Record) : (ofRecord r).Canonical := by
  intro text id htext hparse
  obtain rfl := Cell.text.inj htext
  rw [LocalId.parse_text] at hparse
  rw [Except.ok.inj hparse]

theorem Canonical.hasId (h : row.Canonical) (hrow : row.record = .ok r) : row.hasId r.id = true := by
  obtain ⟨u, rfl, hu⟩ := record_eq_ok_iff.1 hrow
  have htext := h u.id r.id rfl hu.id
  simp [Row.hasId, Typed.row, equals_text, htext]

theorem Canonical.id_eq (h : row.Canonical) (hrow : row.record = .ok r) : row.id = .text r.id.text :=
  (Cell.equals_iff.1 (h.hasId hrow)).2

end Row

namespace Table

variable {t t' : Table} {r d d' : Record} {row : Row} {resource : ResourceId} {scheme : Scheme}

theorem Sound.eq_of_holds (h : t.Sound) {row' : Row} (hrow : row ∈ t) (hrow' : row' ∈ t)
    (hholds : row.holds resource scheme = true) (hholds' : row'.holds resource scheme = true) :
    row = row' := by
  have : Std.Symm fun r s : Row => ¬ r.Clashes s := ⟨fun _ _ h h' => h h'.symm⟩
  by_contra hne
  exact h.forall hrow hrow' hne (Row.clashes_of_holds hholds hholds')

/-- Of rows that clash with one row there is no second. -/
theorem Sound.filter_eq_singleton {p : Row → Bool} (h : t.Sound) (hrow : row ∈ t) (hp : p row = true)
    (hclash : ∀ s ∈ t, p s = true → s.Clashes row) : t.filter p = [row] := by
  have hsymm : Std.Symm fun r s : Row => ¬ r.Clashes s := ⟨fun _ _ h h' => h h'.symm⟩
  have hall : ∀ s ∈ t.filter p, s = row := by
    intro s hs
    obtain ⟨hmem, hps⟩ := List.mem_filter.1 hs
    by_contra hne
    exact h.forall hmem hrow hne (hclash s hmem hps)
  have hmem : row ∈ t.filter p := List.mem_filter.2 ⟨hrow, hp⟩
  have hpairwise := h.filter p
  match t.filter p, hmem, hall, hpairwise with
  | [s], hmem, _, _ => rw [List.mem_singleton.1 hmem]
  | s :: s' :: _, _, hall, hpairwise =>
    have hs : s = row := hall s (by simp)
    have hs' : s' = row := hall s' (by simp)
    have hno : ¬ s.Clashes s' := List.rel_of_pairwise_cons hpairwise (by simp)
    rw [hs, hs'] at hno
    exact absurd (hclash row hrow hp) hno

theorem Sound.filter_holds (h : t.Sound) (hrow : row ∈ t) (hholds : row.holds resource scheme = true) :
    t.filter (Row.holds resource scheme) = [row] :=
  h.filter_eq_singleton hrow hholds fun _ _ hs => Row.clashes_of_holds hs hholds

/-- Constraints hold, and each cell is as its column keeps it. -/
structure Kept (t : Table) : Prop where
  sound : t.Sound
  stored : ∀ row ∈ t, row.stored = row

theorem update_go_eq {p : Row → Bool} {f : Row → Row} {before rows : Table}
    (h : update.go p f before rows = .ok t') :
    t' = before ++ rows.map fun row => if p row then (f row).stored else row := by
  induction rows generalizing before with
  | nil =>
    obtain rfl := Except.ok.inj h
    simp
  | cons row rows ih =>
    rw [update.go] at h
    by_cases hp : p row = true
    · simp only [hp, if_true] at h
      obtain ⟨⟨⟩, -, h⟩ := Except.bind_eq_ok_iff.1 h
      simp [ih h, hp]
    · simp only [hp] at h
      simp [ih h, hp]

theorem Kept.insertRecord (h : t.Kept) (ht : t.insertRecord r = .ok t') :
    t'.Kept ∧ t' = t ++ [Row.ofRecord r] ∧ ∀ row ∈ t, ¬ (Row.ofRecord r).Clashes row := by
  obtain ⟨happend, hno⟩ := append_of_insertRecord ht
  refine ⟨⟨(h.sound.insertRecord ht).1, fun row hrow => ?_⟩, happend, hno⟩
  rw [happend] at hrow
  rcases List.mem_append.1 hrow with hrow | hrow
  · exact h.stored row hrow
  · rw [List.mem_singleton.1 hrow, Row.stored_ofRecord]

def isRead (d : Record) (row : Row) : Bool := row.hasId d.id && row.version == .int d.version

/-- A changed record is written over the row that it was read from. -/
theorem Kept.updateRecord (h : t.Kept) (ht : t.updateRecord d = .ok (d', t')) :
    t'.Kept ∧ d' = d.next ∧ (∃ row ∈ t, isRead d row = true) ∧
      t' = t.map fun row => if isRead d row then Row.updateFrom d row else row := by
  obtain ⟨hd, hupdate⟩ := update_of_updateRecord ht
  have hmap : t' = t.map fun row => if isRead d row then Row.updateFrom d row else row := by
    refine (update_go_eq hupdate).trans (List.map_congr_left fun row hrow => ?_)
    rw [Row.stored_updateFrom_of_stored (h.stored row hrow)]
    rfl
  refine ⟨⟨(h.sound.updateRecord ht).1, fun row hrow => ?_⟩, hd, ?_, hmap⟩
  · rw [hmap] at hrow
    obtain ⟨row', hrow', rfl⟩ := List.mem_map.1 hrow
    split
    · exact Row.stored_updateFrom_of_stored (h.stored row' hrow') d
    · exact h.stored row' hrow'
  · unfold Table.updateRecord at ht
    dsimp only at ht
    by_cases hany : t.any (fun row => row.hasId d.id && row.version == .int d.version) = true
    · exact List.any_eq_true.1 hany
    · rw [if_neg hany] at ht
      split at ht <;> cases ht

theorem exists_row_of_firstRecord? {rows : Table} (h : firstRecord? rows = .ok (some r)) :
    ∃ row ∈ rows, row.record = .ok r := by
  cases rows with
  | nil => cases h
  | cons row rows =>
    rw [firstRecord?] at h
    cases hrecord : row.record with
    | error e => simp [hrecord, Except.map] at h
    | ok s =>
      obtain rfl : s = r := by simpa [hrecord, Except.map] using h
      exact ⟨row, by simp, hrecord⟩

theorem exists_row_of_records {rows : Table} {rs : List Record} (h : records rows = .ok rs) (hr : r ∈ rs) :
    ∃ row ∈ rows, row.record = .ok r := by
  obtain ⟨us, hus, hrs⟩ := Except.bind_eq_ok_iff.1 h
  obtain ⟨u, hu, hur⟩ := Except.exists_of_mem_mapM hrs hr
  obtain ⟨row, hrow, hrowu⟩ := Except.exists_of_mem_mapM hus hu
  exact ⟨row, hrow, Except.bind_eq_ok_iff.2 ⟨u, hrowu, hur⟩⟩

theorem exists_row_of_listByStatus {statuses : List Status} {rs : List Record}
    (h : t.listByStatus statuses = .ok rs) (hr : r ∈ rs) : ∃ row ∈ t, row.record = .ok r := by
  obtain ⟨rs', hrs', hsorted⟩ := Except.bind_eq_ok_iff.1 h
  obtain rfl := Except.ok.inj hsorted
  obtain ⟨row, hrow, hrecord⟩ := exists_row_of_records hrs' (List.mem_mergeSort.1 hr)
  exact ⟨row, (mem_rowsAt.1 hrow).1, hrecord⟩

/-- The live record of a scheme for a resource is read off a row that holds it. -/
theorem exists_row_of_findLive? (h : t.findLive? resource scheme = .ok (some r)) :
    ∃ row ∈ t, row.holds resource scheme = true ∧ row.record = .ok r := by
  obtain ⟨row, hrow, hrecord⟩ := exists_row_of_firstRecord? h
  obtain ⟨hmem, hholds⟩ := List.mem_filter.1 (List.mem_mergeSort.1 hrow)
  exact ⟨row, hmem, hholds, hrecord⟩

/-- Where nothing is found, nothing holds it. -/
theorem not_holds_of_findLive? (h : t.findLive? resource scheme = .ok none) :
    ∀ row ∈ t, row.holds resource scheme = false := by
  intro row hrow
  by_contra hholds
  have hmem : row ∈ (t.filter (Row.holds resource scheme)).mergeSort fun r s => s.createdBefore r :=
    List.mem_mergeSort.2 (List.mem_filter.2 ⟨hrow, by simpa using hholds⟩)
  have hfirst : firstRecord? ((t.filter (Row.holds resource scheme)).mergeSort
      fun r s => s.createdBefore r) = .ok none := h
  cases hrows : (t.filter (Row.holds resource scheme)).mergeSort fun r s => s.createdBefore r with
  | nil => simp [hrows] at hmem
  | cons first rest =>
    rw [hrows, firstRecord?] at hfirst
    cases hrecord : first.record <;> simp [hrecord, Except.map] at hfirst

end Table

namespace Service

open Table

theorem insertRecord_of_answers {t t' : Table} {r : Record}
    (h : Answers t (.store (.insert r)) (.ok ()) t') : t.insertRecord r = .ok t' := by
  simp only [Answers, Store.answer] at h
  split at h
  · rename_i hinsert
    obtain ⟨-, rfl⟩ := Prod.mk.inj h
    exact hinsert
  · cases (Prod.mk.inj h).1

theorem updateRecord_of_answers {t t' : Table} {d d' : Record}
    (h : Answers t (.store (.update d)) (.ok d') t') : t.updateRecord d = .ok (d', t') := by
  simp only [Answers, Store.answer] at h
  split at h
  · rename_i hupdate
    obtain ⟨hok, rfl⟩ := Prod.mk.inj h
    obtain rfl := Except.ok.inj hok
    exact hupdate
  · cases (Prod.mk.inj h).1

/-- A record that a reply hands over was read off a row, or has just been written. -/
theorem exists_row_of_handedBy {t t' : Table} {q : Request} {x : Reply q} {r : Record}
    (h : Answers t q x t') (hr : r ∈ handedBy q x) :
    (t' = t ∧ ∃ row ∈ t, row.record = .ok r) ∨
      ∃ d, (⟨q, x⟩ : Exchange) = ⟨.store (.update d), .ok r⟩ := by
  obtain ⟨call, a, hy⟩ := store_of_mem_handedBy (y := ⟨q, x⟩) hr
  cases hy
  cases call with
  | get id =>
    obtain ⟨hread, rfl⟩ := Prod.mk.inj h
    obtain ⟨row, hrow, hrecord⟩ := exists_row_of_firstRecord? (hread.trans (congrArg _ (Option.mem_toList.1 hr)))
    exact .inl ⟨rfl, row, List.mem_of_mem_filter hrow, hrecord⟩
  | findByValue v =>
    obtain ⟨hread, rfl⟩ := Prod.mk.inj h
    obtain ⟨row, hrow, hrecord⟩ := exists_row_of_firstRecord? (hread.trans (congrArg _ (Option.mem_toList.1 hr)))
    exact .inl ⟨rfl, row, List.mem_of_mem_filter hrow, hrecord⟩
  | findLive resource scheme =>
    obtain ⟨hread, rfl⟩ := Prod.mk.inj h
    obtain ⟨row, hrow, -, hrecord⟩ := exists_row_of_findLive? (hread.trans (congrArg _ (Option.mem_toList.1 hr)))
    exact .inl ⟨rfl, row, hrow, hrecord⟩
  | listByResource resource =>
    obtain ⟨hread, rfl⟩ := Prod.mk.inj h
    obtain ⟨row, hrow, hrecord⟩ := exists_row_of_records hread hr
    exact .inl ⟨rfl, row, List.mem_of_mem_filter (List.mem_mergeSort.1 hrow), hrecord⟩
  | listRetryable statuses =>
    obtain ⟨hread, rfl⟩ := Prod.mk.inj h
    obtain ⟨rs, hrs, hfilter⟩ := Except.bind_eq_ok_iff.1 hread
    obtain rfl := Except.ok.inj hfilter
    exact .inl ⟨rfl, exists_row_of_listByStatus hrs (List.mem_of_mem_filter hr)⟩
  | insert s => cases hr
  | update d =>
    obtain rfl := List.mem_singleton.1 hr
    exact .inr ⟨d, rfl⟩

theorem not_fails_of_handedBy {t t' : Table} {q : Request} {x : Reply q} {r : Record}
    (hr : r ∈ handedBy q x) : ¬ Fails t q x t' := by
  intro h
  obtain ⟨call, a, hy⟩ := store_of_mem_handedBy (y := ⟨q, x⟩) hr
  cases hy
  obtain ⟨⟨e, he⟩, -⟩ := h
  cases he

/-- What an exchange does to the table: nothing, or a record is inserted, or one is updated. -/
theorem table_cases {t t' : Table} {q : Request} {x : Reply q} (h : Answers t q x t' ∨ Fails t q x t') :
    t' = t ∨
      (∃ r, (⟨q, x⟩ : Exchange) = ⟨.store (.insert r), .ok ()⟩ ∧ t.insertRecord r = .ok t') ∨
      ∃ d d', (⟨q, x⟩ : Exchange) = ⟨.store (.update d), .ok d'⟩ ∧ t.updateRecord d = .ok (d', t') := by
  rcases h with h | h
  · cases q with
    | store call =>
      cases call with
      | insert r =>
        simp only [Answers, Store.answer] at h
        split at h
        · rename_i t'' hinsert
          obtain ⟨rfl, rfl⟩ := Prod.mk.inj h
          exact .inr (.inl ⟨r, rfl, hinsert⟩)
        · exact .inl (Prod.mk.inj h).2.symm
      | update d =>
        simp only [Answers, Store.answer] at h
        split at h
        · rename_i d' t'' hupdate
          obtain ⟨rfl, rfl⟩ := Prod.mk.inj h
          exact .inr (.inr ⟨d, d', rfl, hupdate⟩)
        · exact .inl (Prod.mk.inj h).2.symm
      | _ => exact .inl (Prod.mk.inj h).2.symm
    | _ => exact .inl h
  · exact .inl h.same

end Service

end IdentifierRegistrar
