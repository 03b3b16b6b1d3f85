import IdentifierRegistrar.Proofs.Run.Basic

/-! The rows of the store along a run. A row changes only when an operation writes a revision of a
copy that the store handed to it, with the version that the row has (`row_succ`). So no row
disappears and none changes what it identifies (`row_descends`), and what an operation was handed
the store had (`row_of_handed`). -/

namespace IdentifierRegistrar

open Service Operation

namespace Record

def rebound (r : Record) (b : Option ResourceId) : Record := { r with resource := b }

/-- Of a copy that the row has descended from, a write of a revision leaves all but the binding. -/
theorem Revision.overwrite_descendant {c d s : Record} {b : Option ResourceId}
    (h : c.Revision d) (hs : (c.stored.rebound b).Descends s) : s.overwrite d =
      d.next.stored.rebound (s.overwrite d).resource := by
  obtain ⟨id, value, resource, type, status, attention, version, created, updated⟩ := s
  obtain ⟨rfl, rfl, rfl, rfl, -⟩ := hs
  simp only [overwrite, rebound, stored, next, h.id, h.value, h.resourceType, h.createdAt]

end Record

theorem Status.updateBeforeRegistration_not_mem_targets (s : Status) :
    updateBeforeRegistration ∉ s.targets := by
  cases s <;> decide

namespace Run

variable {g : Registrar} (x : Run g)

def row (t : Nat) (id : RecordId) : Option Record :=
  match (x.moment t).table.get? id with
  | .ok r => r
  | .error _ => none

theorem row_eq (t : Nat) (id : RecordId) : x.row t id = (x.ledger t).find id := by
  rw [row, x.table_eq, Ledger.get?_table]

theorem row_zero (id : RecordId) : x.row 0 id = none := by
  rw [row_eq, ledger_zero]
  rfl

/-- At time `t` operation `i` writes `d`, a revision of its copy `c`, over the row `s`. -/
structure Writes (t i : Nat) (c d s : Record) : Prop where
  answered : x.event t =
    .answer i ⟨.store (.update d), .ok d.next⟩
  copy : ∃ p, (x.moment t).ongoing[i]? = some p ∧ c ∈ handed p.past ∧
    (d.status ≠ c.status → d.status ∈ Status.confirmedOnes → Granted p.past c)
  revision : c.Revision d
  row : x.row t d.id = some s
  version : s.version = d.version
  after : x.row (t + 1) d.id = some (s.overwrite d)

/-- An update that succeeds writes a revision that the errand is licensed to make. -/
theorem licensed_writes_of_updated {t i : Nat} {d r : Record}
    (h : x.event t = .answer i ⟨.store (.update d), .ok r⟩) :
    r = d.next ∧ ∃ p c s, (x.moment t).ongoing[i]? = some p ∧ p.errand.licence.Permits c d ∧
      x.Writes t i c d s := by
  obtain ⟨p, hp, -, c, hc, hd, hpermits, hg⟩ := x.stretch.licensed_of_answer h
  have ha := x.ledger_answers h
  generalize hm : x.ledger (t + 1) = m at ha
  cases ha with
  | @updated _ s _ hf hv hafter =>
    refine ⟨rfl, p, c, s, hp, hpermits, h, ⟨p, hp, hc, hg⟩, hd, (x.row_eq _ _).trans hf, hv, ?_⟩
    rw [row_eq, hm, Ledger.find_overwritten_self hafter hf]

theorem writes_of_updated {t i : Nat} {d r : Record}
    (h : x.event t = .answer i ⟨.store (.update d), .ok r⟩) :
    r = d.next ∧ ∃ c s, x.Writes t i c d s := by
  obtain ⟨hr, -, c, s, -, -, hw⟩ := x.licensed_writes_of_updated h
  exact ⟨hr, c, s, hw⟩

inductive RowStep (t : Nat) (id : RecordId) : Prop
  | same (h : x.row (t + 1) id = x.row t id)
  | inserted {r : Record} (hr : r.Fresh) (hid : r.id = id) (hnone : x.row t id = none)
    (hsome : x.row (t + 1) id = some r.stored)
  | written {i : Nat} {c d s : Record} (hw : x.Writes t i c d s) (hid : d.id = id)

theorem row_succ (t : Nat) (id : RecordId) : x.RowStep t id := by
  rcases x.ledger_succ t with h | ⟨i, call, a, hev⟩
  · exact .same (by rw [row_eq, row_eq, h])
  have h := x.ledger_answers hev
  generalize hm : x.ledger (t + 1) = m at h
  have hrow : x.row (t + 1) id = m.find id := by rw [row_eq, hm]
  cases h with
  | @inserted r _ h =>
    obtain ⟨p, -, -, hr⟩ := x.lawful_of_answer hev
    by_cases hid : r.id = id
    · subst hid
      exact .inserted hr rfl ((x.row_eq _ _).trans (Ledger.find_eq_none_of_added h))
        (hrow.trans (Ledger.find_added_self h))
    · exact .same (by rw [hrow, row_eq, Ledger.find_added_of_ne h (Ne.symm hid)])
  | @updated d s _ hf hv h =>
    by_cases hid : d.id = id
    · obtain ⟨-, c, s, hw⟩ := x.writes_of_updated hev
      exact .written hw hid
    · exact .same (by rw [hrow, row_eq, Ledger.find_overwritten_of_ne h (Ne.symm hid)])
  | _ => exact .same (by rw [hrow, row_eq])

/-- No row disappears, and what names the identifier stays. -/
theorem row_descends {t u : Nat} {id : RecordId} {r : Record} (h : x.row t id = some r)
    (htu : t ≤ u) : ∃ s, x.row u id = some s ∧ r.Descends s := by
  induction htu with
  | refl => exact ⟨r, h, .refl r⟩
  | @step u _ ih =>
    obtain ⟨s, hs, hr⟩ := ih
    cases x.row_succ u id with
    | same hsame => exact ⟨s, hsame.trans hs, hr⟩
    | inserted _ _ hnone _ => exact absurd (hs.symm.trans hnone) (by simp)
    | written hw hid =>
      subst hid
      obtain rfl := Option.some.inj (hs.symm.trans hw.row)
      exact ⟨_, hw.after, hr.trans (Record.descends_overwrite _ _)⟩

/-- A record that an operation is handed stands in the store then, but that its binding may have
been cleared by others. -/
theorem row_of_handed {u i : Nat} {y : Exchange} {r : Record} (h : x.event u = .answer i y)
    (hr : r ∈ handedBy y.1 y.2) : ∃ b, x.row (u + 1) r.id = some (r.stored.rebound b) := by
  induction u using Nat.strongRecOn generalizing i y r with
  | ind u ih =>
    obtain ⟨call, a, rfl⟩ := store_of_mem_handedBy hr
    rcases mem_handedBy (x.ledger_answers h) hr with ⟨hmem, hsame⟩ | ⟨d, rfl, rfl⟩
    · refine ⟨r.resource, ?_⟩
      rw [row_eq, hsame, Ledger.find_of_mem hmem]
      exact congrArg some ((x.ledger u).whole r hmem).symm
    · obtain ⟨-, c, s, hw⟩ := x.writes_of_updated h
      obtain ⟨p, hp, hc, -⟩ := hw.copy
      obtain ⟨v, hv, y, hev, hy⟩ := x.handed_before hp hc
      obtain ⟨b, hrow⟩ := ih v hv hev hy
      obtain ⟨s', hs', hdesc⟩ := x.row_descends hrow hv
      rw [← hw.revision.id, hw.row] at hs'
      obtain rfl := Option.some.inj hs'
      exact ⟨_, hw.after.trans (congrArg some (hw.revision.overwrite_descendant hdesc))⟩

theorem status_ne_updateBeforeRegistration {t : Nat} {id : RecordId} {r : Record}
    (h : x.row t id = some r) : r.status ≠ .updateBeforeRegistration := by
  induction t using Nat.strongRecOn generalizing id r with
  | ind t ih =>
    cases t with
    | zero => simp [x.row_zero] at h
    | succ t =>
      cases x.row_succ t id with
      | same hsame => exact ih t (by omega) (hsame ▸ h)
      | inserted hr _ _ hsome =>
        obtain rfl := Option.some.inj (hsome.symm.trans h)
        rw [Record.stored_status, hr.status]
        decide
      | @written i c d s hw hid =>
        subst hid
        obtain rfl := Option.some.inj (hw.after.symm.trans h)
        obtain ⟨p, hp, hc, -⟩ := hw.copy
        obtain ⟨v, hv, y, hev, hy⟩ := x.handed_before hp hc
        obtain ⟨b, hrow⟩ := x.row_of_handed hev hy
        have hcopy : c.status ≠ .updateBeforeRegistration :=
          ih (v + 1) (by omega) (r := c.stored.rebound b) hrow
        change d.status ≠ _
        rcases hw.revision.status with hd | hd
        · rwa [hd]
        · exact fun hubr => Status.updateBeforeRegistration_not_mem_targets c.status (hubr ▸ hd)

end Run

end IdentifierRegistrar
