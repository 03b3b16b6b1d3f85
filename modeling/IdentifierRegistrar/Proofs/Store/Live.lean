import IdentifierRegistrar.Proofs.Store.Revision
import IdentifierRegistrar.Proofs.Store.Standing

/-! The record that stands for a resource in a scheme, among the records of a ledger: there is at most one
(`Ledger.eq_of_stands`), and it is the one that is looked for (`Ledger.head?_liveOf_eq_some_iff`). What
follows on a ledger loses no record, but a record may come to stand for nothing (`Record.Lost`). -/

namespace IdentifierRegistrar

variable {resource : ResourceId} {scheme : Scheme}

namespace Record

structure Stands (resource : ResourceId) (scheme : Scheme) (r : Record) : Prop where
  resource : r.resource = some resource
  scheme : r.scheme = scheme
  status : r.status ≠ .deleted

def Lost (r : Record) : Prop := r.status = .deleted ∨ r.resource = none

instance (r : Record) : Decidable r.Lost := inferInstanceAs (Decidable (_ ∨ _))

theorem Stands.not_lost {r : Record} (h : r.Stands resource scheme) : ¬ r.Lost := by
  rintro (hdeleted | hunbound)
  · exact h.status hdeleted
  · rw [h.resource] at hunbound
    cases hunbound

/-- What stood for a resource stands for it until it is lost. -/
theorem Descends.stands {r s : Record} (h : r.Descends s) (hresource : r.resource = some resource)
    (hscheme : r.scheme = scheme) (hs : ¬ s.Lost) : s.Stands resource scheme where
  resource := (h.resource.resolve_right fun hnone => hs (.inr hnone)).trans hresource
  scheme := (congrArg IdentifierValue.scheme h.value).trans hscheme
  status hdeleted := hs (.inl hdeleted)

theorem Stands.rivals {r s : Record} (hr : r.Stands resource scheme) (hs : s.Stands resource scheme) :
    r.Rivals s := by
  refine ⟨hr.status, hs.status, hr.scheme.trans hs.scheme.symm, ?_, hr.resource.trans hs.resource.symm⟩
  rw [hr.resource]
  rfl

theorem holds_ofRecord_iff {r : Record} :
    (Row.ofRecord r).holds resource scheme = true ↔ r.Stands resource scheme := by
  rw [Row.holds_ofRecord, decide_eq_true_iff]
  exact ⟨fun ⟨hresource, hscheme, hstatus⟩ => ⟨hresource, hscheme, hstatus⟩,
    fun h => ⟨h.resource, h.scheme, h.status⟩⟩

end Record

namespace Ledger

variable {l m n : Ledger} {r s : Record}

theorem eq_of_stands (hr : r ∈ l.records) (hs : s ∈ l.records) (h : r.Stands resource scheme)
    (h' : s.Stands resource scheme) : r = s := by
  by_contra hne
  exact not_rivals hr hs (fun hid => hne (eq_of_id_eq hr hs hid.symm)) (h.rivals h')

theorem mem_liveOf : r ∈ l.liveOf resource scheme ↔ r ∈ l.records ∧ r.Stands resource scheme := by
  simp only [liveOf, List.mem_mergeSort, List.mem_filter, decide_eq_true_eq]
  exact and_congr_right fun _ => ⟨fun ⟨hresource, hscheme, hstatus⟩ => ⟨hresource, hscheme, hstatus⟩,
    fun h => ⟨h.resource, h.scheme, h.status⟩⟩

theorem head?_liveOf_eq_none_iff : (l.liveOf resource scheme).head? = none ↔
    ∀ r ∈ l.records, ¬ r.Stands resource scheme := by
  rw [List.head?_eq_none_iff, List.eq_nil_iff_forall_not_mem]
  exact forall_congr' fun r => (not_congr mem_liveOf).trans not_and

theorem head?_liveOf_eq_some_iff : (l.liveOf resource scheme).head? = some r ↔
    r ∈ l.records ∧ r.Stands resource scheme := by
  constructor
  · intro h
    exact mem_liveOf.1 (List.mem_of_mem_head? h)
  · rintro ⟨hr, h⟩
    cases hhead : (l.liveOf resource scheme).head? with
    | none => exact absurd h (head?_liveOf_eq_none_iff.1 hhead r hr)
    | some s =>
      obtain ⟨hs, h'⟩ := mem_liveOf.1 (List.mem_of_mem_head? hhead)
      rw [eq_of_stands hs hr h' h]

/-- A record that is added differs from all others wherever no two may agree. -/
theorem ne_of_added {α : Type} {f : Record → α} (hm : m.records = l.records ++ [r.stored])
    (hnodup : (m.records.map f).Nodup) (hs : s ∈ l.records) : f s ≠ f r.stored := by
  rw [hm, List.map_append, List.nodup_append] at hnodup
  exact hnodup.2.2 (f s) (List.mem_map_of_mem hs) (f r.stored) (by simp)

def Continues (l m : Ledger) : Prop :=
  ∀ id r, l.find id = some r → ∃ s, m.find id = some s ∧ r.Descends s

theorem Continues.refl (l : Ledger) : l.Continues l := fun _ r h => ⟨r, h, .refl r⟩

theorem Continues.trans (h : l.Continues m) (h' : m.Continues n) : l.Continues n := by
  intro id r hr
  obtain ⟨s, hs, hdescends⟩ := h id r hr
  obtain ⟨q, hq, hdescends'⟩ := h' id s hs
  exact ⟨q, hq, hdescends.trans hdescends'⟩

theorem Answers.continues {call : Store.Call} {x : Except StoreError call.Result} (h : l.Answers call x m) :
    l.Continues m := by
  cases h with
  | @inserted d _ hadded =>
    intro id r hr
    have hne : id ≠ d.id := by
      rintro rfl
      rw [find_eq_none_of_added hadded] at hr
      cases hr
    exact ⟨r, (find_added_of_ne hadded hne).trans hr, .refl r⟩
  | @updated d s _ hf _ hwritten =>
    intro id r hr
    by_cases hid : id = d.id
    · subst hid
      obtain rfl := Option.some.inj (hf.symm.trans hr)
      exact ⟨_, find_overwritten_self hwritten hf, Record.descends_overwrite s d⟩
    · exact ⟨r, (find_overwritten_of_ne hwritten hid).trans hr, .refl r⟩
  | _ => exact .refl l

theorem Continues.rows (h : l.Continues m) {row : Row} (hrow : row ∈ l.table) :
    ∃ row' ∈ m.table, row'.id = row.id ∧ row'.value = row.value := by
  obtain ⟨r, hr, rfl⟩ := List.mem_map.1 hrow
  obtain ⟨s, hs, hdescends⟩ := h r.id r (find_of_mem hr)
  refine ⟨Row.ofRecord s, List.mem_map_of_mem (mem_of_find hs), ?_, ?_⟩
  · simp [Row.ofRecord, hdescends.id]
  · simp [Row.ofRecord, hdescends.value]

end Ledger

end IdentifierRegistrar
