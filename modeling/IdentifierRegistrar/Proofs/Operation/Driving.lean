import IdentifierRegistrar.Proofs.Operation.Contract
import IdentifierRegistrar.Registrar.Operations

/-! Driving a record, whatever is said of it. A contract of `resume` or `drive` comes down to the
contracts of the few ends that they can come to: nothing to ask for, no connector, parking, a lookup
that fails, and the call that the record's intent asks for (`resume_meets_of`, `drive_meets_of`). -/

namespace IdentifierRegistrar

def Status.asks? : Status → Option Action
  | toBeReserved => some .reserve
  | toBeRegistered => some .register
  | updateReserved | updateRegistered => some .updateMetadata
  | toBeDeleted => some .delete
  | _ => none

theorem Status.mem_intents_of_confirmed? {s t : Status} (h : s.confirmed? = some t) :
    s ∈ intents := by
  cases s <;> first | decide | cases h

theorem Status.not_mem_intents_of_confirmed? {s t : Status} (h : s.confirmed? = some t) :
    t ∉ intents := by
  cases s <;> cases h <;> decide

/-- A record at an intent rests somewhere once the agency has agreed, unless it has to turn into another
intent first. -/
theorem Status.confirmed?_ne_none {s : Status} (hi : s ∈ intents) (hubr : s ≠ .updateBeforeRegistration) :
    s.confirmed? ≠ none := by
  revert hi hubr
  cases s <;> decide

namespace Agency.Change

def action : Change → Action
  | reserve _ => .reserve
  | register _ => .register
  | updateMetadata _ => .updateMetadata
  | delete _ => .delete

def Suits (c : Change) (r : Record) : Prop := c.value = r.value ∧ r.status.asks? = some c.action

end Agency.Change

/-- The record asks an agency for something: it stands at an intent, and it is known what about. -/
structure Record.Asks (r : Record) : Prop where
  intent : r.status ∈ Status.intents
  ready : r.status ≠ .updateBeforeRegistration
  bound : r.status = .toBeDeleted ∨ r.resource.isSome

theorem Record.Asks.confirmed? {r : Record} (h : r.Asks) : r.status.confirmed? ≠ none :=
  Status.confirmed?_ne_none h.intent h.ready

theorem Agency.Change.Suits.asks {c : Agency.Change} {r : Record} (h : c.Suits r)
    (hbound : r.status = .toBeDeleted ∨ r.resource.isSome) : r.Asks := by
  have hintent : r.status ∈ Status.intents ∧ r.status ≠ .updateBeforeRegistration := by
    have ha : r.status.asks? ≠ none := by simp [h.2]
    revert ha
    cases r.status <;> decide
  exact ⟨hintent.1, hintent.2, hbound⟩

open Operation

namespace Registrar

variable {σ : Type} {S : Setting Service.interface σ} {P : σ → Prop}
  {Q : Except RegistrarError Outcome → σ → Prop} {g : Registrar} {r : Record} {s : σ}

theorem ofIntent_suits {r : Record} {confirmed : Status} (found : Resource)
    (policy : ReleasePolicy) (h : r.status.confirmed? = some confirmed)
    (hd : r.status ≠ .toBeDeleted) :
    (Agency.Change.ofIntent r.status (Payload.build r.value found policy)).Suits r := by
  cases hs : r.status <;> simp_all [Status.confirmed?] <;>
    exact ⟨rfl, by rw [hs]; rfl⟩

/-- The statuses whose drive looks up the resource, and parks a record without one. -/
def Sends (r : Record) : Prop := r.status ∈ Status.intents ∧ r.status ≠ .toBeDeleted

theorem parks_iff : (needsResource r.status && r.isOrphaned) = true ↔ Sends r ∧ r.resource = none := by
  simp [needsResource, Status.isIntent, Record.isOrphaned, Sends]

/-- `P` is what is known where the agency is called: at once for a deletion, else after a lookup that
has found the resource. -/
theorem resume_meets_of (hP : r.status = .toBeDeleted → P s)
    (hrest : r.status.confirmed? = none → Q (.ok (.succeeded r.status)) s)
    (hunconnected : r.status ∈ Status.intents → ¬ g.connected r.scheme →
      Q (.error (.noConnector r.scheme)) s)
    (horphan : Sends r → r.resource = none → (park r orphanMessage).Meets S Q s)
    (hlookup : ∀ resource, Sends r → r.resource = some resource → S.allows s (.lookup resource))
    (hfailed : ∀ resource e s' reason, Sends r → r.resource = some resource →
      S.moves s (.lookup resource) (.error e) s' → Q (.ok (.pendingRetry r.status reason)) s')
    (hmissing : ∀ resource s' message, Sends r → r.resource = some resource →
      S.moves s (.lookup resource) (.ok none) s' → (park r message).Meets S Q s')
    (hfound : ∀ resource found s', Sends r → r.resource = some resource →
      S.moves s (.lookup resource) (.ok (some found)) s' → P s')
    (hcall : ∀ confirmed c s, P s → r.status.confirmed? = some confirmed → c.Suits r →
      (agency r.scheme (.change c) >>= settle r confirmed).Meets S Q s) :
    (g.resume r).Meets S Q s := by
  unfold resume
  cases h : r.status.confirmed? with
  | none => exact hrest h
  | some confirmed =>
    have hi := Status.mem_intents_of_confirmed? h
    by_cases hg : g.connected r.scheme
    · simp only [requireConnector, hg, if_true, Program.pure_eq, Program.done_bind]
      by_cases hd : r.status = .toBeDeleted
      · rw [if_pos hd]
        exact hcall confirmed (.delete r.value) s (hP hd) h ⟨rfl, by rw [hd]; rfl⟩
      · rw [if_neg hd]
        cases hres : r.resource with
        | none => exact horphan ⟨hi, hd⟩ hres
        | some resource =>
          refine ⟨hlookup resource ⟨hi, hd⟩ hres, fun x s' hx => ?_⟩
          rcases x with e | (_ | found)
          · exact hfailed resource e s' _ ⟨hi, hd⟩ hres hx
          · exact hmissing resource s' _ ⟨hi, hd⟩ hres hx
          · exact hcall confirmed _ s' (hfound resource found s' ⟨hi, hd⟩ hres hx) h
              (ofIntent_suits found g.policy h hd)
    · simp only [requireConnector, hg]
      exact hunconnected hi hg

theorem drive_meets_of
    (horphan : Sends r → r.resource = none → (park r orphanMessage).Meets S Q s)
    (hregister : r.status = .updateBeforeRegistration →
      (commit r .toBeRegistered >>= g.resume).Meets S Q s)
    (hresume : r.status ≠ .updateBeforeRegistration → (g.resume r).Meets S Q s) :
    (g.drive r).Meets S Q s := by
  unfold drive
  split
  · rename_i h
    obtain ⟨hsends, ho⟩ := parks_iff.1 h
    exact horphan hsends ho
  split
  · rename_i h
    exact hregister h
  · rename_i h
    exact hresume h

end Registrar

end IdentifierRegistrar
