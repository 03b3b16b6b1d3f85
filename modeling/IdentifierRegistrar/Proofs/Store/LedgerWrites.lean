import IdentifierRegistrar.Proofs.Store.Ledger
import Mathlib.Data.List.Pairwise

/-! What the store writes, in terms of the records of a ledger: a new record joins them unless it
clashes with one of them, and a change replaces the record of its id if that still has the version
the change was made from. Main result: every call takes the table of a ledger to the table of a
ledger and answers as `Ledger.Answers` says. -/

namespace IdentifierRegistrar

theorem Record.Rivals.symm {r s : Record} (h : r.Rivals s) : s.Rivals r := by
  obtain ⟨hr, hs, hscheme, hbound, hresource⟩ := h
  exact ⟨hs, hr, hscheme.symm, hresource ▸ hbound, hresource.symm⟩

namespace Ledger

theorem not_rivals {l : Ledger} {s t : Record} (hs : s ∈ l.records) (ht : t ∈ l.records)
    (hne : t.id ≠ s.id) : ¬ s.Rivals t := by
  have : Std.Symm fun r s : Record => ¬ r.Rivals s := ⟨fun _ _ h h' => h h'.symm⟩
  exact l.live.forall hs ht fun h => hne (congrArg Record.id h.symm)

section Writing

variable (l : Ledger)

def overwritten (r : Record) : List Record :=
  l.records.map fun s => if s.id = r.id then s.overwrite r else s

theorem conflict?_map (rs : List Record) (r : Record) :
    Table.conflict? (rs.map Row.ofRecord) (Row.ofRecord r) =
      if ∃ s ∈ rs, r.Rivals s then some (.notUnique [.resourceId, .scheme])
      else if ∃ s ∈ rs, r.value = s.value then some (.notUnique [.value])
      else if ∃ s ∈ rs, r.id = s.id then some (.notUnique [.id])
      else none := by
  have hlive : (rs.map Row.ofRecord).any (Row.ofRecord r).sharesResource =
      decide (∃ s ∈ rs, r.Rivals s) := by
    rw [Bool.eq_iff_iff]
    simp [Row.sharesResource_ofRecord]
  have hvalue : ((rs.map Row.ofRecord).any fun s => (Row.ofRecord r).value.equals s.value) =
      decide (∃ s ∈ rs, r.value = s.value) := by
    rw [Bool.eq_iff_iff]
    simp only [List.any_map, List.any_eq_true, Function.comp_apply, decide_eq_true_eq]
    refine exists_congr fun s => and_congr_right fun _ => ?_
    rw [show (Row.ofRecord r).value.equals (Row.ofRecord s).value = decide (r.value = s.value)
      from Row.equals_value_ofRecord r s.value, decide_eq_true_eq]
  have hid : ((rs.map Row.ofRecord).any fun s => (Row.ofRecord r).id.equals s.id) =
      decide (∃ s ∈ rs, r.id = s.id) := by
    rw [Bool.eq_iff_iff]
    simp only [List.any_map, List.any_eq_true, Function.comp_apply, decide_eq_true_eq]
    refine exists_congr fun s => and_congr_right fun _ => ?_
    rw [show (Row.ofRecord r).id.equals (Row.ofRecord s).id = decide (r.id = s.id)
      from Row.hasId_ofRecord r s.id, decide_eq_true_eq]
  simp only [Table.conflict?, hlive, hvalue, hid, decide_eq_true_eq]

theorem check_map (rs : List Record) (r : Record) :
    Table.check (rs.map Row.ofRecord) (Row.ofRecord r) =
      match Table.conflict? (rs.map Row.ofRecord) (Row.ofRecord r) with
      | some fault => .error fault
      | none => .ok () := by
  cases h : Table.conflict? (rs.map Row.ofRecord) (Row.ofRecord r) <;>
    simp [Table.check, Row.vacancy?_ofRecord, h]

inductive Refuses (r : Record) : StoreError → Prop
  | live {resource : ResourceId} (h : ∃ s ∈ l.records, r.Rivals s) (hr : r.resource = some resource) :
    Refuses r (.liveRecordExists resource r.scheme)
  | value (h : ∃ s ∈ l.records, r.value = s.value) : Refuses r (.duplicateValue r.value.text)
  | id (h : ∃ s ∈ l.records, r.id = s.id) : Refuses r (.database (.notUnique [.id]))

theorem nodup_map_concat {α : Type} {f : Record → α} {rs : List Record} {r : Record}
    (h : (rs.map f).Nodup) (hf : ∀ s ∈ rs, f r ≠ f s) : ((rs ++ [r]).map f).Nodup := by
  rw [List.map_append, List.nodup_append]
  refine ⟨h, by simp, fun a ha b hb => ?_⟩
  obtain ⟨s, hs, rfl⟩ := List.mem_map.1 ha
  obtain rfl : b = f r := by simpa using hb
  exact (hf s hs).symm

/-- A record that clashes with none joins the others. -/
theorem exists_added {r : Record} (hlive : ∀ s ∈ l.records, ¬ r.Rivals s)
    (hvalue : ∀ s ∈ l.records, r.value ≠ s.value) (hid : ∀ s ∈ l.records, r.id ≠ s.id) :
    ∃ m : Ledger, m.records = l.records ++ [r.stored] := by
  refine ⟨⟨l.records ++ [r.stored], ?_, nodup_map_concat l.ids hid,
    nodup_map_concat l.values hvalue, ?_⟩, rfl⟩
  · intro s hs
    rcases List.mem_append.1 hs with hs | hs
    · exact l.whole s hs
    · rw [List.mem_singleton.1 hs, Record.stored_stored]
  · rw [List.pairwise_append]
    refine ⟨l.live, by simp, fun s hs t ht => ?_⟩
    rw [List.mem_singleton.1 ht]
    exact fun h => hlive s hs h.symm

theorem insert_table (r : Record) : l.table.insert (Row.ofRecord r) =
    match Table.conflict? (l.records.map Row.ofRecord) (Row.ofRecord r) with
    | some fault => .error fault
    | none => .ok (l.table ++ [Row.ofRecord r]) := by
  rw [Table.insert, Row.stored_ofRecord]
  change (Table.check (l.records.map Row.ofRecord) _ >>= _) = _
  rw [check_map]
  cases Table.conflict? (l.records.map Row.ofRecord) (Row.ofRecord r) <;> rfl

theorem insertRecord_table (r : Record) :
    (∃ m : Ledger, m.records = l.records ++ [r.stored] ∧ l.table.insertRecord r = .ok m.table) ∨
      ∃ e, l.Refuses r e ∧ l.table.insertRecord r = .error e := by
  have hinsert := l.insert_table r
  rw [conflict?_map] at hinsert
  by_cases hlive : ∃ s ∈ l.records, r.Rivals s
  · right
    have hbound : r.resource.isSome := by
      obtain ⟨s, _, h⟩ := hlive
      exact h.2.2.2.1
    obtain ⟨resource, hr⟩ := Option.isSome_iff_exists.1 hbound
    refine ⟨_, .live hlive hr, ?_⟩
    rw [if_pos hlive] at hinsert
    rw [Table.insertRecord, hinsert]
    simp [hr]
  by_cases hvalue : ∃ s ∈ l.records, r.value = s.value
  · right
    refine ⟨_, .value hvalue, ?_⟩
    rw [if_neg hlive, if_pos hvalue] at hinsert
    rw [Table.insertRecord, hinsert]
    simp
  by_cases hid : ∃ s ∈ l.records, r.id = s.id
  · right
    refine ⟨_, .id hid, ?_⟩
    rw [if_neg hlive, if_neg hvalue, if_pos hid] at hinsert
    rw [Table.insertRecord, hinsert]
    cases hr : r.resource <;> simp
  · left
    rw [if_neg hlive, if_neg hvalue, if_neg hid] at hinsert
    push Not at hlive hvalue hid
    obtain ⟨m, hm⟩ := l.exists_added hlive hvalue hid
    refine ⟨m, hm, ?_⟩
    rw [Table.insertRecord, hinsert, table, table, hm, List.map_append]
    rfl

theorem update_go_of_ne {p : Row → Bool} {f : Row → Row} {before rows : Table}
    (h : ∀ row ∈ rows, p row = false) : Table.update.go p f before rows = .ok (before ++ rows) := by
  induction rows generalizing before with
  | nil => simp [Table.update.go]
  | cons row rows ih =>
    rw [Table.update.go, h row (by simp)]
    simp only [Bool.false_eq_true, if_false]
    rw [ih fun r hr => h r (by simp [hr]), List.append_assoc, List.singleton_append]

/-- An update that concerns one row changes that row, if it then fits the others. -/
theorem update_split {p : Row → Bool} {f : Row → Row} {before after : Table} {row : Row}
    (hb : ∀ r ∈ before, p r = false) (hr : p row = true) (ha : ∀ r ∈ after, p r = false) :
    Table.update (before ++ row :: after) p f =
      (Table.check (before ++ after) (f row).stored).map
        fun _ => before ++ (f row).stored :: after := by
  have hgo : ∀ start : Table, Table.update.go p f start (before ++ row :: after) =
      (Table.check (start ++ before ++ after) (f row).stored).map
        fun _ => start ++ before ++ (f row).stored :: after := by
    induction before with
    | nil =>
      intro start
      rw [List.nil_append, Table.update.go, hr, List.append_nil]
      simp only [if_true]
      cases Table.check (start ++ after) (f row).stored with
      | error e => rfl
      | ok u =>
        change Table.update.go p f (start ++ [(f row).stored]) after = _
        rw [update_go_of_ne ha, List.append_assoc, List.singleton_append]
        rfl
    | cons r before ih =>
      intro start
      rw [List.cons_append, Table.update.go, hb r (by simp)]
      simp only [Bool.false_eq_true, if_false]
      rw [ih (fun s hs => hb s (by simp [hs])), List.append_assoc start, List.singleton_append]
  exact hgo []

inductive Misses (r : Record) : StoreError → Prop
  | absent (h : l.find r.id = none) : Misses r (.notFound r.id)
  | stale {s : Record} (h : l.find r.id = some s) (hv : s.version ≠ r.version) :
    Misses r (.versionConflict r.id r.version)
  | rival {s t : Record} (h : l.find r.id = some s) (hv : s.version = r.version)
    (ht : t ∈ l.records) (hne : t.id ≠ s.id) (hr : (s.overwrite r).Rivals t) :
    Misses r (.database (.notUnique [.resourceId, .scheme]))

theorem stored_overwrite {s : Record} (h : s.stored = s) (r : Record) :
    (s.overwrite r).stored = s.overwrite r := by
  have hc : s.createdAt.wholeSecond = s.createdAt := congrArg Record.createdAt h
  simp only [Record.stored, Record.overwrite, hc]
  rfl

theorem pairwise_replace {α : Type} {R : α → α → Prop} (hsymm : ∀ a b, R a b → R b a)
    {before after : List α} {a b : α} (h : (before ++ a :: after).Pairwise R)
    (hb : ∀ c ∈ before ++ after, R b c) : (before ++ b :: after).Pairwise R := by
  rw [List.pairwise_append, List.pairwise_cons] at h ⊢
  obtain ⟨h1, ⟨-, h2⟩, h3⟩ := h
  refine ⟨h1, ⟨fun c hc => hb c (by simp [hc]), h2⟩, fun c hc d hd => ?_⟩
  rcases List.mem_cons.1 hd with rfl | hd
  · exact hsymm _ _ (hb c (by simp [hc]))
  · exact h3 c hc d (by simp [hd])

/-- A record of the ledger, and the others around it. -/
theorem exists_split {s : Record} (hs : s ∈ l.records) :
    ∃ before after, l.records = before ++ s :: after ∧
      ∀ t ∈ before ++ after, t ∈ l.records ∧ t.id ≠ s.id := by
  obtain ⟨before, after, hsplit⟩ := List.append_of_mem hs
  refine ⟨before, after, hsplit, fun t ht => ⟨?_, fun h => ?_⟩⟩
  · rw [hsplit]
    simp only [List.mem_append, List.mem_cons] at ht ⊢
    tauto
  · have hnodup := l.ids
    rw [hsplit, List.map_append, List.map_cons, List.nodup_middle, List.nodup_cons] at hnodup
    apply hnodup.1
    rw [← List.map_append, ← h]
    exact List.mem_map_of_mem ht

theorem overwritten_split {r s : Record} {before after : List Record}
    (hsplit : l.records = before ++ s :: after) (hid : s.id = r.id)
    (hne : ∀ t ∈ before ++ after, t.id ≠ s.id) :
    l.overwritten r = before ++ s.overwrite r :: after := by
  have hkeep : ∀ rs : List Record, (∀ t ∈ rs, t ∈ before ++ after) →
      rs.map (fun t => if t.id = r.id then t.overwrite r else t) = rs := by
    intro rs hrs
    conv_rhs => rw [← List.map_id rs]
    apply List.map_congr_left
    intro t ht
    rw [if_neg fun h => hne t (hrs t ht) (h.trans hid.symm)]
    rfl
  rw [overwritten, hsplit, List.map_append, List.map_cons, if_pos hid,
    hkeep before fun t ht => by simp [ht], hkeep after fun t ht => by simp [ht]]

/-- Another record may take the place of one with its id and value that is no rival of the rest. -/
theorem exists_replaced {s s' : Record} {before after : List Record}
    (hsplit : l.records = before ++ s :: after) (hwhole : s'.stored = s') (hid : s'.id = s.id)
    (hvalue : s'.value = s.value) (hrival : ∀ t ∈ before ++ after, ¬ s'.Rivals t) :
    ∃ m : Ledger, m.records = before ++ s' :: after := by
  have hmem : ∀ t ∈ before ++ after, t ∈ l.records := by
    intro t ht
    rw [hsplit]
    simp only [List.mem_append, List.mem_cons] at ht ⊢
    tauto
  refine ⟨⟨before ++ s' :: after, ?_, ?_, ?_, ?_⟩, rfl⟩
  · intro t ht
    rcases List.mem_append.1 ht with ht | ht
    · exact l.whole t (hmem t (by simp [ht]))
    rcases List.mem_cons.1 ht with rfl | ht
    · exact hwhole
    · exact l.whole t (hmem t (by simp [ht]))
  · have h := l.ids
    rwa [hsplit, List.map_append, List.map_cons, ← hid, ← List.map_cons, ← List.map_append] at h
  · have h := l.values
    rwa [hsplit, List.map_append, List.map_cons, ← hvalue, ← List.map_cons,
      ← List.map_append] at h
  · have h := l.live
    rw [hsplit] at h
    exact pairwise_replace (fun a b hab hba => hab hba.symm) h hrival

/-- The row that an update of `r` is for. -/
theorem isRead_ofRecord (r s : Record) :
    ((Row.ofRecord s).hasId r.id && (Row.ofRecord s).version == .int r.version) =
      decide (s.id = r.id ∧ s.version = r.version) := by
  rw [Row.hasId_ofRecord, Bool.decide_and]
  congr 1
  rw [Bool.eq_iff_iff]
  simp [Row.ofRecord]

theorem any_isRead_table (r : Record) :
    (l.table.any fun row => row.hasId r.id && row.version == .int r.version) =
      decide (∃ s ∈ l.records, s.id = r.id ∧ s.version = r.version) := by
  rw [Bool.eq_iff_iff]
  simp only [table, List.any_map, List.any_eq_true, Function.comp_apply, isRead_ofRecord,
    decide_eq_true_eq]

/-- An update whose row is there checks the new row against the others and puts it in its place. -/
theorem update_table {r s : Record} {before after : List Record}
    (hsplit : l.records = before ++ s :: after) (hid : s.id = r.id) (hv : s.version = r.version)
    (hne : ∀ t ∈ before ++ after, t.id ≠ s.id) :
    l.table.update (fun row => row.hasId r.id && row.version == .int r.version)
        (Row.updateFrom r) =
      (Table.check ((before ++ after).map Row.ofRecord) (Row.ofRecord (s.overwrite r))).map
        fun _ => (before ++ s.overwrite r :: after).map Row.ofRecord := by
  have hunread : ∀ rs : List Record, (∀ t ∈ rs, t ∈ before ++ after) →
      ∀ row ∈ rs.map Row.ofRecord, (row.hasId r.id && row.version == .int r.version) = false := by
    intro rs hrs row hrow
    obtain ⟨t, ht, rfl⟩ := List.mem_map.1 hrow
    rw [isRead_ofRecord, decide_eq_false]
    exact fun h => hne t (hrs t ht) (h.1.trans hid.symm)
  have hread : ((Row.ofRecord s).hasId r.id && (Row.ofRecord s).version == .int r.version) = true := by
    rw [isRead_ofRecord]
    exact decide_eq_true ⟨hid, hv⟩
  rw [table, hsplit, List.map_append, List.map_cons,
    update_split (hunread before fun t ht => by simp [ht]) hread
      (hunread after fun t ht => by simp [ht]),
    Row.updateFrom_ofRecord, Row.stored_ofRecord, ← List.map_append, ← List.map_cons,
    ← List.map_append]

theorem updateRecord_unread {r : Record}
    (h : ¬ ∃ s ∈ l.records, s.id = r.id ∧ s.version = r.version) :
    l.table.updateRecord r = .error (match l.find r.id with
      | some _ => .versionConflict r.id r.version
      | none => .notFound r.id) := by
  have hany := l.any_isRead_table r
  rw [decide_eq_false h] at hany
  cases hf : l.find r.id <;> simp [Table.updateRecord, hany, get?_table, hf]

/-- An update whose row is there is made, or there is a rival to the new row. -/
theorem updateRecord_read {r s : Record} (hf : l.find r.id = some s) (hv : s.version = r.version) :
    (∃ m : Ledger, m.records = l.overwritten r ∧
        l.table.updateRecord r = .ok (r.next, m.table)) ∨
      (∃ t ∈ l.records, t.id ≠ s.id ∧ (s.overwrite r).Rivals t) ∧
        l.table.updateRecord r = .error (.database (.notUnique [.resourceId, .scheme])) := by
  obtain ⟨hs, hid⟩ := find_eq_some_iff.1 hf
  have hany := l.any_isRead_table r
  rw [decide_eq_true ⟨s, hs, hid, hv⟩] at hany
  obtain ⟨before, after, hsplit, hothers⟩ := l.exists_split hs
  have hne : ∀ t ∈ before ++ after, t.id ≠ s.id := fun t ht => (hothers t ht).2
  have hupdate := l.update_table hsplit hid hv hne
  have hvalue : ¬ ∃ t ∈ before ++ after, (s.overwrite r).value = t.value := by
    rintro ⟨t, ht, h⟩
    exact hne t ht (congrArg Record.id
      (List.inj_on_of_nodup_map l.values hs (hothers t ht).1 h)).symm
  have hids : ¬ ∃ t ∈ before ++ after, (s.overwrite r).id = t.id := by
    rintro ⟨t, ht, h⟩
    exact hne t ht h.symm
  rw [check_map, conflict?_map, if_neg hvalue, if_neg hids] at hupdate
  by_cases hrival : ∃ t ∈ before ++ after, (s.overwrite r).Rivals t
  · right
    rw [if_pos hrival] at hupdate
    obtain ⟨t, ht, hr⟩ := hrival
    refine ⟨⟨t, (hothers t ht).1, hne t ht, hr⟩, ?_⟩
    simp only [Table.updateRecord, hany, if_true, hupdate, Except.map]
  · left
    rw [if_neg hrival] at hupdate
    push Not at hrival
    obtain ⟨m, hm⟩ := l.exists_replaced hsplit (stored_overwrite (l.whole s hs) r) rfl rfl hrival
    refine ⟨m, by rw [hm, l.overwritten_split hsplit hid hne], ?_⟩
    have htable : m.table = (before ++ s.overwrite r :: after).map Row.ofRecord := by
      rw [table, hm]
    rw [htable]
    simp only [Table.updateRecord, hany, if_true, hupdate, Except.map]
    rfl

theorem updateRecord_table (r : Record) :
    (∃ (s : Record) (m : Ledger), l.find r.id = some s ∧ s.version = r.version ∧
        m.records = l.overwritten r ∧
        l.table.updateRecord r = .ok (r.next, m.table)) ∨
      ∃ e, l.Misses r e ∧ l.table.updateRecord r = .error e := by
  cases hf : l.find r.id with
  | none =>
    right
    refine ⟨_, .absent hf, ?_⟩
    rw [l.updateRecord_unread, hf]
    rintro ⟨s, hs, hid, -⟩
    exact find_eq_none_iff.1 hf s hs hid
  | some s =>
    by_cases hv : s.version = r.version
    · rcases l.updateRecord_read hf hv with ⟨m, hm, h⟩ | ⟨⟨t, ht, hne, hr⟩, h⟩
      · exact .inl ⟨s, m, rfl, hv, hm, h⟩
      · exact .inr ⟨_, .rival hf hv ht hne hr, h⟩
    · right
      refine ⟨_, .stale hf hv, ?_⟩
      rw [l.updateRecord_unread, hf]
      rintro ⟨t, ht, hid, htv⟩
      obtain rfl := Option.some.inj ((find_eq_some_iff.2 ⟨ht, hid⟩).symm.trans hf)
      exact hv htv

end Writing

section Effects

variable {l m : Ledger} {r : Record}

theorem find_eq_none_of_added (h : m.records = l.records ++ [r.stored]) : l.find r.id = none := by
  rw [find_eq_none_iff]
  intro s hs hid
  have hnodup := m.ids
  rw [h, List.map_append, List.nodup_append] at hnodup
  exact hnodup.2.2 s.id (List.mem_map_of_mem hs) r.id (by simp) hid

theorem find_added_self (h : m.records = l.records ++ [r.stored]) : m.find r.id = some r.stored :=
  find_of_mem (r := r.stored) (by simp [h])

theorem find_added_of_ne (h : m.records = l.records ++ [r.stored]) {id : RecordId}
    (hne : id ≠ r.id) : m.find id = l.find id := by
  rw [find, h, List.find?_append]
  have hlast : [r.stored].find? (fun s => decide (s.id = id)) = none := by
    simp [Ne.symm hne]
  rw [hlast, Option.or_none]
  rfl

theorem find_overwritten_self {s : Record} (h : m.records = l.overwritten r)
    (hf : l.find r.id = some s) : m.find r.id = some (s.overwrite r) := by
  obtain ⟨hs, hid⟩ := find_eq_some_iff.1 hf
  refine find_eq_some_iff.2 ⟨?_, hid⟩
  rw [h, overwritten]
  exact List.mem_map.2 ⟨s, hs, if_pos hid⟩

theorem find_overwritten_of_ne (h : m.records = l.overwritten r) {id : RecordId}
    (hne : id ≠ r.id) : m.find id = l.find id := by
  have hkeep : ∀ s : Record, s.id = id → (if s.id = r.id then s.overwrite r else s) = s :=
    fun s hs => if_neg fun hr => hne (hs.symm.trans hr)
  cases hf : l.find id with
  | some s =>
    obtain ⟨hs, hid⟩ := find_eq_some_iff.1 hf
    refine find_eq_some_iff.2 ⟨?_, hid⟩
    rw [h, overwritten]
    exact List.mem_map.2 ⟨s, hs, hkeep s hid⟩
  | none =>
    rw [find_eq_none_iff] at hf ⊢
    intro t ht
    rw [h, overwritten] at ht
    obtain ⟨s, hs, rfl⟩ := List.mem_map.1 ht
    split
    · exact hf s hs
    · exact hf s hs

end Effects

/-- What a call to the store answers on a ledger, and the ledger it leaves. -/
inductive Answers (l : Ledger) : (call : Store.Call) → Except StoreError call.Result → Ledger → Prop
  | get (id : RecordId) : Answers l (.get id) (.ok (l.find id)) l
  | findByValue (v : IdentifierValue) :
    Answers l (.findByValue v) (.ok (l.records.find? (·.value = v))) l
  | findLive (resource : ResourceId) (scheme : Scheme) :
    Answers l (.findLive resource scheme) (.ok (l.liveOf resource scheme).head?) l
  | listByResource (resource : ResourceId) :
    Answers l (.listByResource resource) (.ok (l.boundTo resource)) l
  | listRetryable (statuses : List Status) :
    Answers l (.listRetryable statuses) (.ok (l.retryable statuses)) l
  | inserted {r : Record} {m : Ledger} (h : m.records = l.records ++ [r.stored]) :
    Answers l (.insert r) (.ok ()) m
  | notInserted {r : Record} {e : StoreError} (h : l.Refuses r e) : Answers l (.insert r) (.error e) l
  | updated {r s : Record} {m : Ledger} (hf : l.find r.id = some s) (hv : s.version = r.version)
    (h : m.records = l.overwritten r) :
    Answers l (.update r) (.ok r.next) m
  | notUpdated {r : Record} {e : StoreError} (h : l.Misses r e) : Answers l (.update r) (.error e) l

def read? (l : Ledger) : (call : Store.Call) → Option call.Result
  | .get id => some (l.find id)
  | .findByValue v => some (l.records.find? (·.value = v))
  | .findLive resource scheme => some (l.liveOf resource scheme).head?
  | .listByResource resource => some (l.boundTo resource)
  | .listRetryable statuses => some (l.retryable statuses)
  | .insert _ | .update _ => none

theorem Answers.of_read? {l m : Ledger} {call : Store.Call} {x : Except StoreError call.Result}
    {y : call.Result} (h : l.Answers call x m) (hy : l.read? call = some y) : x = .ok y ∧ m = l := by
  cases h with
  | inserted _ => cases hy
  | notInserted _ => cases hy
  | updated _ _ _ => cases hy
  | notUpdated _ => cases hy
  | _ => exact ⟨congrArg Except.ok (Option.some.inj hy), rfl⟩

/-- A call that fails leaves the ledger as it was. -/
theorem Answers.of_error {l m : Ledger} {call : Store.Call} {e : StoreError}
    (h : l.Answers call (.error e) m) : m = l := by
  cases h <;> rfl

/-- Every call to the store takes a ledger to a ledger and answers as `Answers` says. -/
theorem answer_table (l : Ledger) (call : Store.Call) :
    ∃ (reply : Except StoreError call.Result) (m : Ledger),
      Store.answer l.table call = (reply, m.table) ∧ l.Answers call reply m := by
  cases call with
  | get id => exact ⟨_, l, congrArg (·, l.table) (l.get?_table id), .get id⟩
  | findByValue v => exact ⟨_, l, congrArg (·, l.table) (l.findByValue?_table v), .findByValue v⟩
  | findLive resource scheme =>
    exact ⟨_, l, congrArg (·, l.table) (l.findLive?_table resource scheme),
      .findLive resource scheme⟩
  | listByResource resource =>
    exact ⟨_, l, congrArg (·, l.table) (l.listByResource_table resource),
      .listByResource resource⟩
  | listRetryable statuses =>
    exact ⟨_, l, congrArg (·, l.table) (l.listRetryable_table statuses),
      .listRetryable statuses⟩
  | insert r =>
    rcases l.insertRecord_table r with ⟨m, hm, h⟩ | ⟨e, he, h⟩
    · exact ⟨_, m, by rw [Store.answer, h], .inserted hm⟩
    · exact ⟨_, l, by rw [Store.answer, h], .notInserted he⟩
  | update r =>
    rcases l.updateRecord_table r with ⟨s, m, hf, hv, hm, h⟩ | ⟨e, he, h⟩
    · exact ⟨_, m, by rw [Store.answer, h], .updated hf hv hm⟩
    · exact ⟨_, l, by rw [Store.answer, h], .notUpdated he⟩

end Ledger

end IdentifierRegistrar
