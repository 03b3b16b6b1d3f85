import IdentifierRegistrar.Proofs.Store.Decoded
import IdentifierRegistrar.Proofs.Store.LedgerWrites

/-! One record in any table that the constraints allow. The other rows need not be records at all.
What the table shows of the record changes by an update of its id only (`Shows.answer`), and an
update made from what it shows succeeds (`Shows.update`). -/

namespace IdentifierRegistrar

theorem Cell.equals_iff {c d : Cell} : c.equals d = true ↔ c ≠ .null ∧ c = d := by
  simp [equals]

theorem Cell.equals_comm (c d : Cell) : c.equals d = d.equals c := by
  rw [Bool.eq_iff_iff, equals_iff, equals_iff]
  constructor
  · rintro ⟨h, rfl⟩
    exact ⟨h, rfl⟩
  · rintro ⟨h, rfl⟩
    exact ⟨h, rfl⟩

namespace Row

def Clashes (r s : Row) : Prop :=
  r.sharesResource s = true ∨ r.value.equals s.value = true ∨ r.id.equals s.id = true

theorem Clashes.symm {r s : Row} (h : r.Clashes s) : s.Clashes r := by
  unfold Clashes sharesResource at h ⊢
  rw [Cell.equals_comm s.value, Cell.equals_comm s.id, Cell.equals_comm s.resourceId,
    Cell.equals_comm s.scheme, Bool.and_comm s.isLive]
  exact h

theorem clashes_of_hasId {r s : Row} {id : RecordId} (hr : r.hasId id = true)
    (hs : s.hasId id = true) : r.Clashes s := by
  rw [hasId, Cell.equals_iff] at hr hs
  exact .inr (.inr (Cell.equals_iff.2 ⟨hr.1, hr.2.trans hs.2.symm⟩))

end Row

namespace Table

def Sound (t : Table) : Prop := t.Pairwise fun r s => ¬ r.Clashes s

theorem check_eq_ok_iff {rows : Table} {r : Row} :
    check rows r = .ok () ↔ r.vacancy? = none ∧ ∀ s ∈ rows, ¬ r.Clashes s := by
  have hconflict : conflict? rows r = none ↔ ∀ s ∈ rows, ¬ r.Clashes s := by
    unfold conflict? Row.Clashes
    split
    · rename_i h
      obtain ⟨s, hs, hshares⟩ := List.any_eq_true.1 h
      exact iff_of_false (by simp) fun hno => hno s hs (.inl hshares)
    split
    · rename_i h
      obtain ⟨s, hs, hvalue⟩ := List.any_eq_true.1 h
      exact iff_of_false (by simp) fun hno => hno s hs (.inr (.inl hvalue))
    split
    · rename_i h
      obtain ⟨s, hs, hid⟩ := List.any_eq_true.1 h
      exact iff_of_false (by simp) fun hno => hno s hs (.inr (.inr hid))
    · rename_i hshares hvalue hid
      simp only [List.any_eq_true, not_exists, not_and] at hshares hvalue hid
      exact iff_of_true rfl fun s hs h =>
        h.elim (hshares s hs) fun h => h.elim (hvalue s hs) (hid s hs)
  unfold check
  cases r.vacancy? with
  | some fault => simp
  | none => cases h : conflict? rows r <;> simp_all

section Sound

variable {t t' : Table}

theorem Sound.eq_of_hasId (h : t.Sound) {r s : Row} {id : RecordId} (hr : r ∈ t) (hs : s ∈ t)
    (hrid : r.hasId id = true) (hsid : s.hasId id = true) : r = s := by
  have : Std.Symm fun r s : Row => ¬ r.Clashes s := ⟨fun _ _ h h' => h h'.symm⟩
  by_contra hne
  exact h.forall hr hs hne (Row.clashes_of_hasId hrid hsid)

theorem Sound.update_go {p : Row → Bool} {f : Row → Row} {before rows : Table}
    (h : (before ++ rows).Sound) (hgo : update.go p f before rows = .ok t') :
    t'.Sound ∧ (∀ r ∈ before, r ∈ t') ∧ ∀ r ∈ rows, p r = false → r ∈ t' := by
  induction rows generalizing before with
  | nil =>
    obtain rfl := Except.ok.inj hgo
    exact ⟨by simpa using h, fun r hr => hr, by simp⟩
  | cons row rows ih =>
    have hsplit : before ++ [row] ++ rows = before ++ row :: rows := by simp
    rw [update.go] at hgo
    by_cases hp : p row = true
    · simp only [hp, if_true] at hgo
      obtain ⟨⟨⟩, hcheck, hgo⟩ := Except.bind_eq_ok_iff.1 hgo
      obtain ⟨-, hno⟩ := check_eq_ok_iff.1 hcheck
      have hsound : (before ++ [(f row).stored] ++ rows).Sound := by
        rw [List.append_assoc]
        exact Ledger.pairwise_replace (fun _ _ h h' => h h'.symm) h hno
      obtain ⟨hs, hbefore, hrows⟩ := ih hsound hgo
      refine ⟨hs, fun r hr => hbefore r (List.mem_append_left _ hr), fun r hr hpr => ?_⟩
      rcases List.mem_cons.1 hr with rfl | hr
      · simp [hp] at hpr
      · exact hrows r hr hpr
    · simp only [hp] at hgo
      obtain ⟨hs, hbefore, hrows⟩ := ih (hsplit ▸ h) hgo
      refine ⟨hs, fun r hr => hbefore r (List.mem_append_left _ hr), fun r hr hpr => ?_⟩
      rcases List.mem_cons.1 hr with rfl | hr
      · exact hbefore _ (by simp)
      · exact hrows r hr hpr

/-- A new row stands behind the others and fits them. -/
theorem append_of_insertRecord {r : Record} (ht : t.insertRecord r = .ok t') :
    t' = t ++ [Row.ofRecord r] ∧ ∀ row ∈ t, ¬ (Row.ofRecord r).Clashes row := by
  have hinsert : t.insert (Row.ofRecord r) = .ok t' := by
    unfold Table.insertRecord at ht
    split at ht
    · rename_i hinsert
      rw [hinsert, Except.ok.inj ht]
    · split at ht
      · cases ht
      · split at ht
        · split at ht <;> cases ht
        · cases ht
    · cases ht
  obtain ⟨⟨⟩, hcheck, hadd⟩ := Except.bind_eq_ok_iff.1 hinsert
  rw [Row.stored_ofRecord] at hcheck hadd
  exact ⟨(Except.ok.inj hadd).symm, (check_eq_ok_iff.1 hcheck).2⟩

theorem Sound.insertRecord {r : Record} (h : t.Sound) (ht : t.insertRecord r = .ok t') :
    t'.Sound ∧ ∀ row ∈ t, row ∈ t' := by
  obtain ⟨rfl, hno⟩ := append_of_insertRecord ht
  refine ⟨?_, fun row hrow => List.mem_append_left _ hrow⟩
  rw [Sound, List.pairwise_append]
  refine ⟨h, List.pairwise_singleton _ _, fun a ha b hb hclash => ?_⟩
  rw [List.mem_singleton.1 hb] at hclash
  exact hno a ha hclash.symm

theorem update_of_updateRecord {d d' : Record} (ht : t.updateRecord d = .ok (d', t')) :
    d' = d.next ∧ t.update (fun row => row.hasId d.id && row.version == .int d.version)
      (Row.updateFrom d) = .ok t' := by
  unfold Table.updateRecord at ht
  dsimp only at ht
  by_cases hany : t.any (fun row => row.hasId d.id && row.version == .int d.version) = true
  · rw [if_pos hany] at ht
    split at ht
    · rename_i t'' hupdate
      obtain ⟨rfl, rfl⟩ := Prod.mk.inj (Except.ok.inj ht)
      exact ⟨rfl, hupdate⟩
    · cases ht
  · rw [if_neg hany] at ht
    split at ht <;> cases ht

theorem Sound.updateRecord {d d' : Record} (h : t.Sound) (ht : t.updateRecord d = .ok (d', t')) :
    t'.Sound ∧ ∀ row ∈ t, row.hasId d.id = false → row ∈ t' := by
  have hstart : Sound ([] ++ t) := h
  obtain ⟨hs, -, hrows⟩ := hstart.update_go (update_of_updateRecord ht).2
  exact ⟨hs, fun row hrow hid => hrows row hrow (by simp [hid])⟩

end Sound

/-- The table breaks no constraint, and its row for the id of `r` is the record `r`. -/
structure Shows (t : Table) (r : Record) : Prop where
  sound : t.Sound
  row : ∃ row ∈ t, row.hasId r.id = true ∧ row.record = .ok r

section Shows

variable {t t' : Table} {r c d : Record}

theorem Shows.stored (h : t.Shows r) : r.stored = r := by
  obtain ⟨row, -, -, hrow⟩ := h.row
  exact Row.stored_of_record hrow

theorem Shows.get? (h : t.Shows r) : t.get? r.id = .ok (some r) := by
  obtain ⟨row, hmem, hid, hrow⟩ := h.row
  have hfilter : row ∈ t.filter (Row.hasId r.id) := List.mem_filter.2 ⟨hmem, hid⟩
  unfold Table.get?
  cases hrows : t.filter (Row.hasId r.id) with
  | nil => simp [hrows] at hfilter
  | cons first rest =>
    have hfirst : first ∈ t.filter (Row.hasId r.id) := by simp [hrows]
    obtain ⟨hmem', hid'⟩ := List.mem_filter.1 hfirst
    obtain rfl := h.sound.eq_of_hasId hmem' hmem hid' hid
    rw [firstRecord?, hrow]
    rfl

theorem id_of_record {row : Row} {id : RecordId} (h : row.record = .ok r)
    (hid : row.hasId id = true) : r.id = id := by
  obtain ⟨u, rfl, hu⟩ := Row.record_eq_ok_iff.1 h
  rw [Row.hasId, Row.Typed.row, Row.equals_text, decide_eq_true_eq] at hid
  have hparse := hu.id
  rw [hid, LocalId.parse_text] at hparse
  exact (Except.ok.inj hparse).symm

theorem Sound.shows {id : RecordId} (h : t.Sound) (hget : t.get? id = .ok (some r)) :
    r.id = id ∧ t.Shows r := by
  unfold Table.get? at hget
  cases hrows : t.filter (Row.hasId id) with
  | nil => simp [hrows, firstRecord?] at hget
  | cons row rest =>
    rw [hrows, firstRecord?] at hget
    have hrow : row ∈ t.filter (Row.hasId id) := by simp [hrows]
    obtain ⟨hmem, hid⟩ := List.mem_filter.1 hrow
    cases hrecord : row.record with
    | error e => simp [hrecord, Except.map] at hget
    | ok s =>
      obtain rfl : s = r := by simpa [hrecord, Except.map] using hget
      have hsid := id_of_record hrecord hid
      exact ⟨hsid, h, row, hmem, hsid ▸ hid, hrecord⟩

theorem hasId_of_ne {row : Row} {id k : RecordId} (hid : row.hasId id = true) (hne : k ≠ id) :
    row.hasId k = false := by
  rw [Row.hasId, Cell.equals_iff] at hid
  rw [← Bool.not_eq_true, Row.hasId, Cell.equals_iff]
  rintro ⟨-, hk⟩
  exact hne (LocalId.text_injective (Cell.text.inj (hk.symm.trans hid.2)))

theorem Sound.answer {row : Row} {id : RecordId} {call : Store.Call} (h : t.Sound) (hrow : row ∈ t)
    (hid : row.hasId id = true)
    (hcall : ∀ d a, call = .update d → (Store.answer t (.update d)).1 = .ok a → d.id ≠ id) :
    (Store.answer t call).2.Sound ∧ row ∈ (Store.answer t call).2 := by
  cases call with
  | insert s =>
    simp only [Store.answer]
    split
    · rename_i t' ht
      obtain ⟨hs, hrows⟩ := h.insertRecord ht
      exact ⟨hs, hrows row hrow⟩
    · exact ⟨h, hrow⟩
  | update d =>
    cases ht : t.updateRecord d with
    | error e =>
      simp only [Store.answer, ht]
      exact ⟨h, hrow⟩
    | ok a =>
      obtain ⟨d', t'⟩ := a
      have hne : d.id ≠ id := hcall d d' rfl (by simp only [Store.answer, ht])
      obtain ⟨hs, hrows⟩ := h.updateRecord ht
      simp only [Store.answer, ht]
      exact ⟨hs, hrows row hrow (hasId_of_ne hid hne)⟩
  | _ => exact ⟨h, hrow⟩

/-- Only an update of its id changes what the table shows of a record. -/
theorem Shows.answer {call : Store.Call} (h : t.Shows r)
    (hcall : ∀ d a, call = .update d → (Store.answer t (.update d)).1 = .ok a → d.id ≠ r.id) :
    (Store.answer t call).2.Shows r := by
  obtain ⟨row, hmem, hid, hrow⟩ := h.row
  obtain ⟨hs, hmem'⟩ := h.sound.answer hmem hid hcall
  exact ⟨hs, row, hmem', hid, hrow⟩

/-- A revision of the record that a table shows still fits the rows around it. -/
theorem Row.not_clashes_updateFrom {row s : Row} (hc : row.record = .ok c.stored)
    (hd : c.Revision d) (h : ¬ row.Clashes s) : ¬ (Row.updateFrom d row).Clashes s := by
  intro hclash
  rcases hclash with hshares | hvalue | hid
  · refine h (.inl ?_)
    simp only [Row.sharesResource, Bool.and_eq_true] at hshares ⊢
    obtain ⟨⟨⟨hlive, hslive⟩, hresource⟩, hscheme⟩ := hshares
    refine ⟨⟨⟨?_, hslive⟩, ?_⟩, hscheme⟩
    · -- A deleted record stays deleted, so a live revision is one of a live row.
      have hlive' : d.status ≠ .deleted := by
        rintro hdel
        simp [Row.isLive, Row.updateFrom, hdel, Status.tag] at hlive
      have hstatus := Row.hasStatus_iff_of_record hc .deleted
      rw [Record.stored_status] at hstatus
      have hcell : ¬ row.hasStatus .deleted = true := by
        rw [hstatus]
        intro hdeleted
        rcases hd.status with h | h
        · exact hlive' (h.trans hdeleted)
        · simp [hdeleted, Status.targets] at h
      obtain ⟨u, rfl, -⟩ := Row.record_eq_ok_iff.1 hc
      simpa [Row.hasStatus, Row.isLive, Row.Typed.row, Cell.equals, Status.tag] using hcell
    · simp only [Row.updateFrom] at hresource
      split at hresource
      · simp [Cell.equals] at hresource
      · exact hresource
  · exact h (.inr (.inl hvalue))
  · exact h (.inr (.inr hid))

theorem Sound.not_clashes_others {before after : Table} {row other : Row}
    (h : Sound (before ++ row :: after)) (hother : other ∈ before ++ after) : ¬ row.Clashes other := by
  rw [Sound, List.pairwise_append, List.pairwise_cons] at h
  obtain ⟨-, ⟨hafter, -⟩, hbefore⟩ := h
  rcases List.mem_append.1 hother with hother | hother
  · exact fun hclash => hbefore other hother row (by simp) hclash.symm
  · exact hafter other hother

theorem Sound.not_hasId_others {before after : Table} {row other : Row} {id : RecordId}
    (h : Sound (before ++ row :: after)) (hid : row.hasId id = true) (hother : other ∈ before ++ after) :
    other.hasId id = false := by
  rw [← Bool.not_eq_true]
  exact fun hid' => h.not_clashes_others hother (Row.clashes_of_hasId hid hid')

/-- A revision of a record is written over its row, and nothing else changes. -/
theorem Sound.updateRecord_split {before after : Table} {row : Row}
    (h : Sound (before ++ row :: after)) (hid : row.hasId c.id = true)
    (hrow : row.record = .ok c.stored) (hd : c.Revision d) :
    Table.updateRecord (before ++ row :: after) d =
        .ok (d.next, before ++ Row.updateFrom d row :: after) ∧
      Sound (before ++ Row.updateFrom d row :: after) := by
  have hid' : row.hasId d.id = true := by rw [hd.id]; exact hid
  have hversion : row.version = .int d.version := by
    rw [Row.version_of_record hrow, hd.version]
    rfl
  let isRead (r : Row) : Bool := r.hasId d.id && r.version == .int d.version
  have hread : isRead row = true := by simp [isRead, hid', hversion]
  have hunread : ∀ s ∈ before ++ after, isRead s = false := by
    intro s hs
    simp [isRead, h.not_hasId_others hid' hs]
  have hnew : ∀ s ∈ before ++ after, ¬ (Row.updateFrom d row).Clashes s := fun s hs =>
    Row.not_clashes_updateFrom hrow hd (h.not_clashes_others hs)
  have hupdate : Table.update (before ++ row :: after) isRead (Row.updateFrom d) =
      .ok (before ++ Row.updateFrom d row :: after) := by
    rw [Ledger.update_split (fun s hs => hunread s (by simp [hs])) hread
      fun s hs => hunread s (by simp [hs]), Row.stored_updateFrom hrow,
      check_eq_ok_iff.2 ⟨Row.vacancy?_updateFrom hrow d, hnew⟩]
    rfl
  refine ⟨?_, Ledger.pairwise_replace (fun _ _ h h' => h h'.symm) h hnew⟩
  have hany : (before ++ row :: after).any isRead = true :=
    List.any_eq_true.2 ⟨row, by simp, hread⟩
  unfold Table.updateRecord
  rw [if_pos hany, hupdate]
  rfl

/-- A revision of what the table shows is written, and the table then shows it. -/
theorem Shows.update (h : t.Shows c.stored) (hd : c.Revision d) :
    ∃ t', t.updateRecord d = .ok (d.next, t') ∧ t'.Shows d.next.stored := by
  obtain ⟨row, hmem, hid, hrow⟩ := h.row
  obtain ⟨before, after, rfl⟩ := List.append_of_mem hmem
  have hid' : row.hasId d.id = true := by rw [hd.id]; exact hid
  obtain ⟨hupdate, hsound⟩ := Sound.updateRecord_split (c := c) h.sound hid hrow hd
  refine ⟨_, hupdate, hsound, Row.updateFrom d row, by simp, hid', ?_⟩
  rw [Row.overwrite_record hrow, hd.overwrite_stored]

end Shows

section Listing

variable {t : Table} {r : Record} {statuses : List Status}

def Decodes (t : Table) (statuses : List Status) : Prop :=
  ∀ row ∈ t, (∃ status ∈ statuses, row.hasStatus status = true) → ∃ s, row.record = .ok s

/-- No row at one of `statuses` spells the id otherwise than the registrar does. -/
def Spells (t : Table) (statuses : List Status) (id : RecordId) : Prop :=
  ∀ row ∈ t, (∃ status ∈ statuses, row.hasStatus status = true) →
    ∀ s, row.record = .ok s → s.id = id → row.hasId id = true

theorem records_eq_ok {rows : Table} (h : ∀ row ∈ rows, ∃ s, row.record = .ok s) :
    ∃ rs, records rows = .ok rs ∧ rows.map Row.record = rs.map .ok := by
  induction rows with
  | nil => exact ⟨[], rfl, rfl⟩
  | cons row rows ih =>
    obtain ⟨rs, hrs, hmap⟩ := ih fun row hrow => h row (List.mem_cons_of_mem _ hrow)
    obtain ⟨s, hs⟩ := h row (by simp)
    obtain ⟨u, hu, hus⟩ := Except.bind_eq_ok_iff.1 hs
    obtain ⟨us, htyped, hrecords⟩ := Except.bind_eq_ok_iff.1 hrs
    refine ⟨s :: rs, ?_, by rw [List.map_cons, List.map_cons, hs, hmap]⟩
    simp only [records, List.mapM_cons, hu, htyped]
    change (u :: us).mapM Row.Typed.record = _
    simp only [List.mapM_cons, hus, hrecords]
    rfl

def rowsAt (t : Table) (statuses : List Status) : Table :=
  statuses.flatMap fun status => (t.filter (Row.hasStatus status)).mergeSort Row.updatedBefore

theorem mem_rowsAt {row : Row} : row ∈ t.rowsAt statuses ↔
    row ∈ t ∧ ∃ status ∈ statuses, row.hasStatus status = true := by
  simp only [rowsAt, List.mem_flatMap, List.mem_mergeSort, List.mem_filter]
  constructor
  · rintro ⟨status, hs, hrow, hst⟩
    exact ⟨hrow, status, hs, hst⟩
  · rintro ⟨hrow, status, hs, hst⟩
    exact ⟨status, hs, hrow, hst⟩

/-- Of the rows of a listing at most one has a given id. -/
theorem Sound.rowsAt_pairwise (h : t.Sound) (hstatuses : statuses.Nodup) (id : RecordId) :
    (t.rowsAt statuses).Pairwise fun u v => ¬ (u.hasId id = true ∧ v.hasId id = true) := by
  have hclash {u v : Row} (hno : ¬ u.Clashes v) : ¬ (u.hasId id = true ∧ v.hasId id = true) :=
    fun hids => hno (Row.clashes_of_hasId hids.1 hids.2)
  refine List.pairwise_flatMap.2 ⟨fun status _ => ?_, hstatuses.imp fun {s s'} hne u hu v hv => ?_⟩
  · refine ((List.mergeSort_perm _ _).pairwise_iff fun h h' => h h'.symm).2 ?_
    exact (h.filter _).imp hclash
  · -- Two rows of one id are one row, and that has one status only.
    simp only [List.mem_mergeSort, List.mem_filter] at hu hv
    rintro ⟨huid, hvid⟩
    obtain rfl := h.eq_of_hasId hu.1 hv.1 huid hvid
    have hus := (Cell.equals_iff.1 hu.2).2
    have hvs := (Cell.equals_iff.1 hv.2).2
    exact hne (Status.tag_injective (Cell.text.inj (hus.symm.trans hvs)))

theorem Shows.listRetryable (h : t.Shows r) (hstatuses : statuses.Nodup)
    (hr : r.status ∈ statuses) (ha : r.attention = none) (hdecodes : t.Decodes statuses)
    (hspells : t.Spells statuses r.id) : ∃ before after,
      t.listRetryable statuses = .ok (before ++ r :: after) ∧ ∀ s ∈ before ++ after, s.id ≠ r.id := by
  obtain ⟨row, hrow, hid, hrecord⟩ := h.row
  have hdecoded (row : Row) (hrow : row ∈ t.rowsAt statuses) : ∃ s, row.record = .ok s :=
    hdecodes row (mem_rowsAt.1 hrow).1 (mem_rowsAt.1 hrow).2
  obtain ⟨rs, hrs, hmap⟩ := records_eq_ok hdecoded
  let both (x y : Except StoreError Record) : Prop :=
    ∃ a b, x = .ok a ∧ y = .ok b ∧ a.id = r.id ∧ b.id = r.id
  have hdistinct : rs.Pairwise fun a b => ¬ (a.id = r.id ∧ b.id = r.id) := by
    have hrows : ((t.rowsAt statuses).map Row.record).Pairwise fun x y => ¬ both x y := by
      refine List.pairwise_map.2 ((h.sound.rowsAt_pairwise hstatuses r.id).imp_of_mem ?_)
      rintro u v hu hv hno ⟨a, b, hua, hvb, haid, hbid⟩
      have hu := mem_rowsAt.1 hu
      have hv := mem_rowsAt.1 hv
      exact hno ⟨hspells u hu.1 hu.2 a hua haid, hspells v hv.1 hv.2 b hvb hbid⟩
    rw [hmap, List.pairwise_map] at hrows
    exact hrows.imp fun hno hids => hno ⟨_, _, rfl, rfl, hids.1, hids.2⟩
  have hlisted : r ∈ rs := by
    have hat : row ∈ t.rowsAt statuses :=
      mem_rowsAt.2 ⟨hrow, r.status, hr, (Row.hasStatus_iff_of_record hrecord _).2 rfl⟩
    have hok : (.ok r : Except StoreError Record) ∈ rs.map Except.ok := by
      rw [← hmap, ← hrecord]
      exact List.mem_map_of_mem hat
    obtain ⟨s, hs, hsr⟩ := List.mem_map.1 hok
    exact Except.ok.inj hsr ▸ hs
  let list := (rs.mergeSort Record.updatedBefore).filter (·.attention.isNone)
  have hpairwise : list.Pairwise fun a b => ¬ (a.id = r.id ∧ b.id = r.id) :=
    (((List.mergeSort_perm _ _).pairwise_iff fun h h' => h h'.symm).2 hdistinct).filter _
  have hmem : r ∈ list := by simp [list, hlisted, ha]
  obtain ⟨before, after, hlist⟩ := List.append_of_mem hmem
  rw [hlist, List.pairwise_append, List.pairwise_cons] at hpairwise
  obtain ⟨-, ⟨hafter, -⟩, hbefore⟩ := hpairwise
  refine ⟨before, after, ?_, fun s hs hsid => ?_⟩
  · rw [← hlist]
    change (records (t.rowsAt statuses) >>= fun rs => _) >>= _ = _
    rw [hrs]
    rfl
  · rcases List.mem_append.1 hs with hs | hs
    · exact hbefore s hs r (by simp) ⟨hsid, rfl⟩
    · exact hafter s hs ⟨rfl, hsid⟩

end Listing

end Table

end IdentifierRegistrar
