import IdentifierRegistrar.Proofs.Store.RowReadBack

/-! What an operation makes of its copy of a record before it writes it. A copy that is the row, once
revised and written, is the row again (`Revision.overwrite_stored`). -/

namespace IdentifierRegistrar

theorem nextVersion_ne (v : Int) : nextVersion v ≠ v := by
  intro h
  have hmod := congrArg (· % (Word.count : Int)) h
  simp only [nextVersion, Int.bmod_emod, Word.count] at hmod
  omega

theorem bmod_count_inj {a b : Nat} (ha : a < Word.count) (hb : b < Word.count)
    (h : (a : Int).bmod Word.count = (b : Int).bmod Word.count) : a = b := by
  have hmod := congrArg (· % (Word.count : Int)) h
  simp only [Int.bmod_emod] at hmod
  rwa [Int.emod_eq_of_lt (by omega) (by omega), Int.emod_eq_of_lt (by omega) (by omega),
    Int.ofNat_inj] at hmod

namespace Record

structure Fresh (r : Record) : Prop where
  status : r.status = .minted
  bound : r.resource.isSome
  unmarked : r.attention = none
  version : r.version = 0

/-- `d` is `c` with a change made to it: one step along an edge or none, the binding and the marker
kept or cleared, or a new marker where the status stays. -/
structure Revision (c d : Record) : Prop where
  id : d.id = c.id
  value : d.value = c.value
  resourceType : d.resourceType = c.resourceType
  version : d.version = c.version
  createdAt : d.createdAt = c.createdAt
  resource : d.resource = c.resource ∨ d.resource = none
  status : d.status = c.status ∨ d.status ∈ c.status.targets
  attention : d.attention = c.attention ∨ d.attention = none ∨ d.status = c.status

structure Draft (c r : Record) : Prop where
  revision : c.Revision r
  status : r.status = c.status
  attention : r.attention = c.attention ∨ r.attention = none

theorem Draft.refl (r : Record) : r.Draft r where
  revision := ⟨rfl, rfl, rfl, rfl, rfl, .inl rfl, .inl rfl, .inl rfl⟩
  status := rfl
  attention := .inl rfl

theorem clearAttention_attention (r : Record) (t : Instant) :
    (r.clearAttention t).attention = none := by
  unfold Record.clearAttention
  split
  · rfl
  · rename_i h
    simpa using h

theorem Draft.clearAttention {c r : Record} (h : c.Draft r) (t : Instant) :
    c.Draft (r.clearAttention t) := by
  unfold Record.clearAttention
  split
  · exact ⟨⟨h.revision.id, h.revision.value, h.revision.resourceType, h.revision.version,
      h.revision.createdAt, h.revision.resource, h.revision.status, .inr (.inl rfl)⟩, h.status,
      .inr rfl⟩
  · exact h

theorem Draft.clearResource {c r : Record} (h : c.Draft r) (t : Instant) :
    c.Draft (r.clearResource t) := by
  unfold Record.clearResource
  split
  · exact ⟨⟨h.revision.id, h.revision.value, h.revision.resourceType, h.revision.version,
      h.revision.createdAt, .inr rfl, h.revision.status, h.revision.attention⟩, h.status,
      h.attention⟩
  · exact h

theorem Draft.flag {c r : Record} (h : c.Draft r) (message : String) (t : Instant) :
    c.Revision (r.flag message t) :=
  ⟨h.revision.id, h.revision.value, h.revision.resourceType, h.revision.version,
    h.revision.createdAt, h.revision.resource, h.revision.status, .inr (.inr h.status)⟩

def moveTo (r : Record) (target : Status) (t : Instant) : Record :=
  { r with status := target, updatedAt := t }

theorem transition_eq_ok_iff {r d : Record} {target : Status} {t : Instant} :
    r.transition target t = .ok d ↔ target ∈ r.status.targets ∧ d = r.moveTo target t := by
  unfold transition
  cases h : r.status.transition target with
  | ok s =>
    obtain ⟨hmem, rfl⟩ := Status.transition_eq_ok_iff.1 h
    simp [Except.map, moveTo, hmem, eq_comm]
  | error e =>
    have hno : target ∉ r.status.targets := fun hmem => by
      simp [Status.transition_eq_ok_iff.2 ⟨hmem, rfl⟩] at h
    simp [Except.map, hno]

theorem Draft.transition {c r d : Record} {target : Status} {t : Instant} (h : c.Draft r)
    (hd : r.transition target t = .ok d) : c.Revision d := by
  obtain ⟨hmem, rfl⟩ := transition_eq_ok_iff.1 hd
  refine ⟨h.revision.id, h.revision.value, h.revision.resourceType, h.revision.version,
    h.revision.createdAt, h.revision.resource, .inr (h.status ▸ hmem), ?_⟩
  rcases h.attention with h | h
  · exact .inl h
  · exact .inr (.inl h)

structure Descends (r s : Record) : Prop where
  id : s.id = r.id
  value : s.value = r.value
  resourceType : s.resourceType = r.resourceType
  createdAt : s.createdAt = r.createdAt
  resource : s.resource = r.resource ∨ s.resource = none

theorem Descends.refl (r : Record) : r.Descends r := ⟨rfl, rfl, rfl, rfl, .inl rfl⟩

theorem Descends.trans {q r s : Record} (h : q.Descends r) (h' : r.Descends s) : q.Descends s where
  id := h'.id.trans h.id
  value := h'.value.trans h.value
  resourceType := h'.resourceType.trans h.resourceType
  createdAt := h'.createdAt.trans h.createdAt
  resource := h'.resource.elim (fun hs => h.resource.imp hs.trans hs.trans) .inr

theorem descends_overwrite (s d : Record) : s.Descends (s.overwrite d) where
  id := rfl
  value := rfl
  resourceType := rfl
  createdAt := rfl
  resource := by
    unfold overwrite
    dsimp only
    split
    · exact .inr rfl
    · exact .inl rfl

/-- A copy that is the row, once revised and written, is the row again. -/
theorem Revision.overwrite_stored {c d : Record} (h : c.Revision d) :
    c.stored.overwrite d = d.next.stored := by
  obtain ⟨id, value, resource, type, status, attention, version, created, updated⟩ := d
  obtain ⟨hid, hvalue, htype, -, hcreated, hresource, -, -⟩ := h
  simp only at hid hvalue htype hcreated hresource
  simp only [overwrite, stored, next, isOrphaned, hid, hvalue, htype, hcreated]
  congr 1
  rcases hresource with rfl | rfl
  · cases c.resource <;> rfl
  · rfl

end Record

end IdentifierRegistrar
