import IdentifierRegistrar.Proofs.Store.RowReadBack
import Mathlib.Data.List.Nodup

/-! The table as the records it holds. A ledger is a list of records with distinct ids and values
and no two rivals; its table is one row for each. What the store reads from that table is said here
in terms of the records. -/

namespace IdentifierRegistrar

theorem mapM_map_eq_ok {α β γ ε : Type} {f : α → β} {g : β → Except ε γ} {h : α → γ}
    (hg : ∀ a, g (f a) = .ok (h a)) {as : List α} : (as.map f).mapM g = .ok (as.map h) := by
  induction as with
  | nil => rfl
  | cons a as ih =>
    rw [List.map_cons, List.mapM_cons, hg a, ih]
    rfl

structure Ledger where
  records : List Record
  whole : ∀ r ∈ records, r.stored = r
  ids : (records.map (·.id)).Nodup
  values : (records.map (·.value)).Nodup
  live : records.Pairwise fun r s => ¬ r.Rivals s

namespace Ledger

def empty : Ledger := ⟨[], by simp, by simp, by simp, by simp⟩

def table (l : Ledger) : Table := l.records.map Row.ofRecord

def find (l : Ledger) (id : RecordId) : Option Record := l.records.find? (·.id = id)

/-- The records bound to a resource, oldest first. -/
def boundTo (l : Ledger) (resource : ResourceId) : List Record :=
  (l.records.filter (·.resource = some resource)).mergeSort fun r s =>
    (Row.ofRecord r).createdBefore (Row.ofRecord s)

/-- The live records of a scheme bound to a resource, newest first. -/
def liveOf (l : Ledger) (resource : ResourceId) (scheme : Scheme) : List Record :=
  (l.records.filter fun r =>
    r.resource = some resource ∧ r.scheme = scheme ∧ r.status ≠ .deleted).mergeSort fun r s =>
      (Row.ofRecord s).createdBefore (Row.ofRecord r)

/-- The records at one of `statuses`, least recently updated first. -/
def standingAt (l : Ledger) (statuses : List Status) : List Record :=
  (statuses.flatMap fun status => (l.records.filter (·.status = status)).mergeSort fun r s =>
    (Row.ofRecord r).updatedBefore (Row.ofRecord s)).mergeSort Record.updatedBefore

def retryable (l : Ledger) (statuses : List Status) : List Record :=
  (l.standingAt statuses).filter (·.attention.isNone)

theorem ext_records {l m : Ledger} (h : l.records = m.records) : l = m := by
  cases l; cases m; cases h; rfl

theorem table_injective {l m : Ledger} (h : l.table = m.table) : l = m := by
  apply ext_records
  have hmap : ∀ k : Ledger, k.table.map Row.record = k.records.map .ok := by
    intro k
    rw [table, List.map_map]
    apply List.map_congr_left
    intro r hr
    rw [Function.comp_apply, Row.record_ofRecord, k.whole r hr]
  have heq := hmap l
  rw [h, hmap m] at heq
  exact (List.map_injective_iff.2 (fun _ _ => Except.ok.inj) heq).symm

section Find

variable {l : Ledger} {id : RecordId} {r s : Record}

theorem mem_of_find (h : l.find id = some r) : r ∈ l.records := List.mem_of_find?_eq_some h

theorem id_of_find (h : l.find id = some r) : r.id = id := by
  simpa using List.find?_some h

theorem eq_of_id_eq (hr : r ∈ l.records) (hs : s ∈ l.records) (h : r.id = s.id) : r = s :=
  List.inj_on_of_nodup_map l.ids hr hs h

theorem eq_of_value_eq (hr : r ∈ l.records) (hs : s ∈ l.records) (h : r.value = s.value) : r = s :=
  List.inj_on_of_nodup_map l.values hr hs h

theorem find_of_mem (h : r ∈ l.records) : l.find r.id = some r := by
  cases hf : l.find r.id with
  | none => exact absurd (List.find?_eq_none.1 hf r h) (by simp)
  | some s => rw [eq_of_id_eq (mem_of_find hf) h (id_of_find hf)]

theorem find_eq_some_iff : l.find id = some r ↔ r ∈ l.records ∧ r.id = id :=
  ⟨fun h => ⟨mem_of_find h, id_of_find h⟩, fun ⟨h, hid⟩ => hid ▸ find_of_mem h⟩

theorem find_eq_none_iff : l.find id = none ↔ ∀ r ∈ l.records, r.id ≠ id := by
  simp [find]

theorem whole_of_find (h : l.find id = some r) : r.stored = r := l.whole r (mem_of_find h)

end Find

section Reading

variable (l : Ledger)

theorem records_map (rs : List Record) :
    Table.records (rs.map Row.ofRecord) = .ok (rs.map Record.stored) := by
  have htyped : (rs.map Row.ofRecord).mapM Row.typed = .ok (rs.map Row.typedOf) :=
    mapM_map_eq_ok Row.typed_ofRecord
  rw [Table.records, htyped]
  exact mapM_map_eq_ok Row.record_typedOf

theorem map_stored {rs : List Record} (h : ∀ r ∈ rs, r ∈ l.records) : rs.map Record.stored = rs := by
  conv_rhs => rw [← List.map_id rs]
  exact List.map_congr_left fun r hr => l.whole r (h r hr)

theorem filter_table {p : Row → Bool} {q : Record → Bool}
    (h : ∀ r, p (Row.ofRecord r) = q r) :
    l.table.filter p = (l.records.filter q).map Row.ofRecord := by
  rw [table, List.filter_map]
  congr 2
  exact funext h

theorem mergeSort_map (rs : List Record) (le : Row → Row → Bool) :
    (rs.map Row.ofRecord).mergeSort le =
      (rs.mergeSort fun r s => le (Row.ofRecord r) (Row.ofRecord s)).map Row.ofRecord :=
  (List.map_mergeSort (s := le) fun _ _ _ _ => rfl).symm

theorem firstRecord?_map {rs : List Record} (h : ∀ r ∈ rs, r ∈ l.records) :
    Table.firstRecord? (rs.map Row.ofRecord) = .ok rs.head? := by
  cases rs with
  | nil => rfl
  | cons r rs =>
    rw [List.map_cons, Table.firstRecord?, Row.record_ofRecord, l.whole r (h r (by simp))]
    rfl

theorem get?_table (id : RecordId) : l.table.get? id = .ok (l.find id) := by
  rw [Table.get?, l.filter_table fun r => Row.hasId_ofRecord r id,
    l.firstRecord?_map fun r hr => List.mem_of_mem_filter hr, List.head?_filter]
  rfl

theorem findByValue?_table (v : IdentifierValue) :
    l.table.findByValue? v = .ok (l.records.find? (·.value = v)) := by
  rw [Table.findByValue?, l.filter_table fun r => Row.equals_value_ofRecord r v,
    l.firstRecord?_map fun r hr => List.mem_of_mem_filter hr, List.head?_filter]

theorem mem_of_liveOf {resource : ResourceId} {scheme : Scheme} {r : Record}
    (h : r ∈ l.liveOf resource scheme) : r ∈ l.records :=
  List.mem_of_mem_filter (List.mem_mergeSort.1 h)

theorem findLive?_table (resource : ResourceId) (scheme : Scheme) :
    l.table.findLive? resource scheme = .ok (l.liveOf resource scheme).head? := by
  rw [Table.findLive?, l.filter_table fun r => Row.isLiveOf_ofRecord r resource scheme,
    mergeSort_map]
  exact l.firstRecord?_map fun r hr => l.mem_of_liveOf hr

theorem mem_boundTo {resource : ResourceId} {r : Record} :
    r ∈ l.boundTo resource ↔ r ∈ l.records ∧ r.resource = some resource := by
  simp [boundTo]

theorem listByResource_table (resource : ResourceId) :
    l.table.listByResource resource = .ok (l.boundTo resource) := by
  rw [Table.listByResource, l.filter_table fun r => Row.isBoundTo_ofRecord r resource,
    mergeSort_map, records_map]
  exact congrArg _ (l.map_stored fun r hr => ((l.mem_boundTo).1 hr).1)

theorem mem_standingAt {statuses : List Status} {r : Record} :
    r ∈ l.standingAt statuses ↔ r ∈ l.records ∧ r.status ∈ statuses := by
  simp [standingAt]
  tauto

theorem listByStatus_table (statuses : List Status) :
    l.table.listByStatus statuses = .ok (l.standingAt statuses) := by
  have hrows : (statuses.flatMap fun status =>
      (l.table.filter (Row.hasStatus status)).mergeSort Row.updatedBefore) =
      (statuses.flatMap fun status => (l.records.filter (·.status = status)).mergeSort
        fun r s => (Row.ofRecord r).updatedBefore (Row.ofRecord s)).map Row.ofRecord := by
    rw [List.map_flatMap]
    congr 1
    funext status
    rw [l.filter_table fun r => Row.hasStatus_ofRecord r status, mergeSort_map]
  rw [Table.listByStatus, hrows, records_map, l.map_stored]
  · rfl
  · intro r hr
    simp only [List.mem_flatMap, List.mem_mergeSort, List.mem_filter] at hr
    obtain ⟨_, _, hr, _⟩ := hr
    exact hr

theorem mem_retryable {statuses : List Status} {r : Record} :
    r ∈ l.retryable statuses ↔ r ∈ l.records ∧ r.status ∈ statuses ∧ r.attention = none := by
  simp [retryable, mem_standingAt, and_assoc]

theorem listRetryable_table (statuses : List Status) :
    l.table.listRetryable statuses = .ok (l.retryable statuses) := by
  rw [Table.listRetryable, listByStatus_table]
  rfl

end Reading

section Distinct

variable (l : Ledger)

theorem ids_nodup {rs : List Record} (h : rs.Nodup) (hmem : ∀ r ∈ rs, r ∈ l.records) :
    (rs.map (·.id)).Nodup :=
  h.map_on fun _ hr _ hs hid => eq_of_id_eq (hmem _ hr) (hmem _ hs) hid

theorem sorted_nodup (p : Record → Bool) (le : Record → Record → Bool) :
    ((l.records.filter p).mergeSort le).Nodup :=
  (List.mergeSort_perm _ _).nodup_iff.2 ((List.Nodup.of_map _ l.ids).filter _)

theorem boundTo_ids_nodup (resource : ResourceId) : ((l.boundTo resource).map (·.id)).Nodup :=
  l.ids_nodup (l.sorted_nodup _ _) fun _ hr => (l.mem_boundTo.1 hr).1

theorem retryable_nodup {statuses : List Status} (h : statuses.Nodup) :
    (l.retryable statuses).Nodup := by
  refine ((List.mergeSort_perm _ _).nodup_iff.2 (List.nodup_flatMap.2 ⟨?_, ?_⟩)).filter _
  · exact fun status _ => l.sorted_nodup _ _
  · -- A record stands at one status only.
    refine h.imp fun {s t} hne => ?_
    intro r hs ht
    simp only [List.mem_mergeSort, List.mem_filter, decide_eq_true_eq] at hs ht
    exact hne (hs.2.symm.trans ht.2)

theorem retryable_ids_nodup {statuses : List Status} (h : statuses.Nodup) :
    ((l.retryable statuses).map (·.id)).Nodup :=
  l.ids_nodup (l.retryable_nodup h) fun _ hr => (l.mem_retryable.1 hr).1

theorem retryable_values_nodup {statuses : List Status} (h : statuses.Nodup) :
    ((l.retryable statuses).map (·.value)).Nodup :=
  (l.retryable_nodup h).map_on fun _ hr _ hs =>
    eq_of_value_eq (l.mem_retryable.1 hr).1 (l.mem_retryable.1 hs).1

end Distinct

end Ledger

end IdentifierRegistrar
