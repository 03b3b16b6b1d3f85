import IdentifierRegistrar.Agency.Connector
import IdentifierRegistrar.Proofs.Agency.Dealing
import IdentifierRegistrar.Proofs.Operation.Errand
import IdentifierRegistrar.Proofs.Operation.Exchange

/-! Operations down to the requests that go out to a DOI agency. A call to the connector is the
requests that the connector makes of it, so an operation may stop between the two requests of a
deletion. Main result: what is known of an operation whose calls are made or not, each as a whole,
holds of it request by request (`meets_wire`). -/

namespace IdentifierRegistrar

open Agency Service

def Interface.sum (I J : Interface) : Interface := ⟨I.Request ⊕ J.Request, Sum.elim I.Reply J.Reply⟩

def Interface.anyhow (I : Interface) : Setting I Unit where
  allows _ _ := True
  moves _ _ _ _ := True

theorem Program.meets_anyhow {I : Interface} {ε α : Type} (p : Program I ε α) :
    p.Meets I.anyhow (fun _ _ => True) () := by
  induction p with
  | done a => trivial
  | fail e => trivial
  | ask q next ih => exact ⟨trivial, fun r _ _ => ih r⟩

theorem Agency.ArkService.scheme_of_valueOfArk {service : ArkService} {ark : String}
    {v : IdentifierValue} (h : service.valueOfArk ark = .ok v) : v.scheme = .dark := by
  unfold ArkService.valueOfArk at h
  dsimp only at h
  split at h
  · rw [String.append_assoc] at h
    exact (IdentifierValue.eq_of_parse h).1
  · exact IdentifierValue.scheme_of_ofArk h

theorem Connector.mint_scheme (c : Connector) (id : RecordId) :
    (c.perform (.mint id)).Meets Http.interface.anyhow
      (fun x _ => ∀ v : IdentifierValue, x = .ok v → v.scheme = c.scheme) () := by
  have hread (x : Except IdError IdentifierValue) (hx : ∀ v, x = .ok v → v.scheme = c.scheme) :
      (Program.ofExcept (x.mapError AgencyError.malformedValue) : Session IdentifierValue).Meets
        Http.interface.anyhow (fun x _ => ∀ v, x = .ok v → v.scheme = c.scheme) () := by
    cases x with
    | error e => exact fun v h => by cases h
    | ok v =>
      intro v' h
      obtain rfl := Except.ok.inj h
      exact hx v rfl
  cases c with
  | ark service =>
    refine (service.createNew.meets_anyhow).bind (fun ark _ _ => ?_) fun e _ _ v h => by cases h
    exact hread _ fun v hv => ArkService.scheme_of_valueOfArk hv
  | doi service registrant separator => exact hread _ fun v hv => IdentifierValue.scheme_of_ofDoiName hv
  | offline minter =>
    cases minter with
    | doi registrant separator => exact hread _ fun v hv => IdentifierValue.scheme_of_ofDoiName hv
    | dark repository => exact hread _ fun v hv => IdentifierValue.scheme_of_ofArk hv

/-- A DOI agency, the names that are minted for it, and the path below which it keeps its DOIs. -/
structure Wiring where
  service : DoiService
  registrant : String
  separator : String
  root : String

namespace Wiring

variable (a : Wiring)

def connector : Connector := .doi a.service a.registrant a.separator

def nameFor (id : RecordId) : String := a.registrant ++ "/" ++ a.separator ++ id.suffix

abbrev Plain (name : String) : Prop := a.service.Plain a.root name

abbrev interface : Interface := Service.interface.sum Http.interface

/-- What stands for a request: for a call to the DOI connector, what the connector does on it. -/
def handle : (q : Service.Request) → Program interface RegistrarError (Service.Reply q)
  | .agency .doi call =>
    Program.refine (fun q => Program.request (I := interface) (.inr q))
      (Program.attempt (a.connector.perform call))
  | q => Program.request (I := interface) (.inl q)

def wired {α : Type} (p : Operation α) : Program interface RegistrarError α := p.refine a.handle

/-- The ids that are given out make names that stand in addresses as they are, and a connector
mints values of its own scheme. -/
def Fits : (q : Service.Request) → Service.Reply q → Prop
  | .freshId, id => a.Plain (a.nameFor id)
  | .agency scheme (.mint _), x => ∀ v : IdentifierValue, x = .ok v → v.scheme = scheme
  | _, _ => True

inductive Moves (trouble : Prop) :
    Table × Holdings → (q : interface.Request) → interface.Reply q → Table × Holdings → Prop
  | service {t t' : Table} {held : Holdings} {q : Service.Request} {x : Service.Reply q}
    (hq : ∀ call, q ≠ .agency .doi call) (hx : Answers t q x t' ∨ trouble ∧ Fails t q x t')
    (hfits : a.Fits q x) : Moves trouble (t, held) (.inl q) x (t', held)
  | http {t : Table} {held held' : Holdings} {q : Http.Request} {x : Http.Reply}
    (hx : Serves a.root trouble held q x held') : Moves trouble (t, held) (.inr q) x (t, held')

/-- A call to the DOI connector that can only be about names that stand in addresses as they are. -/
def Knows : Service.Request → Prop
  | .agency .doi (.mint id) => a.Plain (a.nameFor id)
  | .agency .doi (.change c) => ∃ name, c.value.doiName? = some name ∧ a.Plain name
  | .agency .doi (.isReserved v) | .agency .doi (.isRegistered v) =>
    ∃ name, v.doiName? = some name ∧ a.Plain name
  | _ => True

inductive Deals (trouble : Prop) :
    Ledger × Holdings → (q : Service.Request) → Service.Reply q → Ledger × Holdings → Prop
  | service {l m : Ledger} {held : Holdings} {q : Service.Request} {x : Service.Reply q}
    (hq : ∀ call, q ≠ .agency .doi call)
    (hx : Answers l.table q x m.table ∨ trouble ∧ Fails l.table q x m.table)
    (hfits : a.Fits q x) : Deals trouble (l, held) q x (m, held)
  | minted {l : Ledger} {held : Holdings} {id : RecordId} :
    Deals trouble (l, held) (.agency .doi (.mint id))
      (((Minter.doi a.registrant a.separator).mint id).mapError .malformedValue) (l, held)
  | changed {l : Ledger} {held held' : Holdings} {c : Change} {name : String}
    {x : Except AgencyError Unit} (hname : c.value.doiName? = some name)
    (hx : Attempted trouble held (Function.update held name ((held name).change c)) x held') :
    Deals trouble (l, held) (.agency .doi (.change c)) x (l, held')
  | reserved {l : Ledger} {held : Holdings} {v : IdentifierValue} {name : String}
    {x : Except AgencyError Bool} (hname : v.doiName? = some name)
    (hx : Inquired trouble (held name == .draft) x) :
    Deals trouble (l, held) (.agency .doi (.isReserved v)) x (l, held)
  | registered {l : Ledger} {held : Holdings} {v : IdentifierValue} {name : String}
    {x : Except AgencyError Bool} (hname : v.doiName? = some name)
    (hx : Inquired trouble (held name == .registered || held name == .findable) x) :
    Deals trouble (l, held) (.agency .doi (.isRegistered v)) x (l, held)

def calls (trouble : Prop) (inv : Ledger → Holdings → Prop) :
    Setting Service.interface (Ledger × Holdings) where
  allows s q := inv s.1 s.2 ∧ a.Knows q
  moves := a.Deals trouble

/-- Operations request by request, at whose requests `inv` holds of what the table holds. The DOI
connector is not called as such. -/
def wire (trouble : Prop) (inv : Ledger → Holdings → Prop) : Setting interface (Table × Holdings) where
  allows s q := (∃ l : Ledger, s.1 = l.table ∧ inv l s.2) ∧ ∀ call, q ≠ .inl (.agency .doi call)
  moves := a.Moves trouble

def Same (s : Ledger × Holdings) (t : Table × Holdings) : Prop := t = (s.1.table, s.2)

section Wire

variable {a} {trouble : Prop} {inv : Ledger → Holdings → Prop} {l : Ledger} {held : Holdings}

/-- What a connector does on a call, in the midst of an operation. -/
theorem session_wire {β : Type} {p : Session β} {Q : Except AgencyError β → Holdings → Prop}
    (h : p.Meets (dealing a.root trouble (inv l)) Q held) :
    (p.attempt.refine fun q => Program.request (I := interface) (.inr q) :
      Program interface RegistrarError (Except AgencyError β)).Meets (a.wire trouble inv)
        (fun x t => ∃ y held', x = .ok y ∧ t = (l.table, held') ∧ Q y held') (l.table, held) := by
  have hattempt : (p.attempt : Program Http.interface RegistrarError (Except AgencyError β)).Meets
      (dealing a.root trouble (inv l)) (fun x held' => ∃ y, x = .ok y ∧ Q y held') held :=
    Program.meets_attempt.2 (h.mono fun y held' hy => ⟨y, rfl, hy⟩)
  refine (hattempt.refine (T := a.wire trouble inv) (E := fun held t => t = (l.table, held)) ?_
    rfl).mono fun x t hx => ?_
  · rintro held _ q rfl hallows
    refine ⟨⟨⟨l, rfl, hallows⟩, fun _ h => by cases h⟩, ?_⟩
    rintro x _ (_ | hx)
    exact ⟨x, _, rfl, hx, rfl⟩
  · obtain ⟨held', rfl, y, rfl, hy⟩ := hx
    exact ⟨y, held', rfl, rfl, hy⟩

/-- What stands for a request comes to what may be replied to it. -/
theorem handle_meets {q : Service.Request} (h : (a.calls trouble inv).allows (l, held) q) :
    (a.handle q).Meets (a.wire trouble inv)
      (fun x t => ∃ y s, x = .ok y ∧ a.Deals trouble (l, held) q y s ∧ Same s t) (l.table, held) := by
  obtain ⟨hinv, hknows⟩ := h
  have hservice (hq : ∀ call, q ≠ .agency .doi call) :
      (Program.request (I := interface) (.inl q) :
        Program interface RegistrarError (Service.Reply q)).Meets (a.wire trouble inv)
      (fun x t => ∃ y s, x = .ok y ∧ a.Deals trouble (l, held) q y s ∧ Same s t) (l.table, held) := by
    refine ⟨⟨⟨l, rfl, hinv⟩, fun call h => hq call (Sum.inl.inj h)⟩, ?_⟩
    rintro x _ ⟨-, hx, hfits⟩
    rename_i t'
    obtain ⟨m, rfl⟩ : ∃ m : Ledger, t' = m.table :=
      hx.elim Answers.ledger fun h => ⟨l, h.2.same⟩
    exact ⟨x, (m, held), rfl, .service hq hx hfits, rfl⟩
  cases q with
  | agency scheme call =>
    cases scheme with
    | dark => exact hservice (by simp)
    | doi =>
      cases call with
      | mint id =>
        have hminted : (a.connector.perform (.mint id)).Meets (dealing a.root trouble (inv l))
            (fun y held' => y = ((Minter.doi a.registrant a.separator).mint id).mapError .malformedValue ∧
              held' = held) held := by
          change (Program.ofExcept _).Meets _ _ _
          cases ((Minter.doi a.registrant a.separator).mint id).mapError AgencyError.malformedValue <;>
            exact ⟨rfl, rfl⟩
        refine (session_wire hminted).mono fun x t hx => ?_
        obtain ⟨y, held', rfl, rfl, rfl, rfl⟩ := hx
        exact ⟨_, _, rfl, .minted, rfl⟩
      | change c =>
        obtain ⟨name, hname, hplain⟩ := hknows
        refine (session_wire (DoiService.change_meets hname hplain hinv)).mono fun x t hx => ?_
        obtain ⟨y, held', rfl, rfl, hy⟩ := hx
        exact ⟨y, (l, held'), rfl, .changed hname hy, rfl⟩
      | isReserved v =>
        obtain ⟨name, hname, hplain⟩ := hknows
        refine (session_wire (DoiService.isReserved_meets hname hplain hinv)).mono fun x t hx => ?_
        obtain ⟨y, held', rfl, rfl, rfl, hy⟩ := hx
        exact ⟨y, _, rfl, .reserved hname hy, rfl⟩
      | isRegistered v =>
        obtain ⟨name, hname, hplain⟩ := hknows
        refine (session_wire (DoiService.isRegistered_meets hname hplain hinv)).mono fun x t hx => ?_
        obtain ⟨y, held', rfl, rfl, rfl, hy⟩ := hx
        exact ⟨y, _, rfl, .registered hname hy, rfl⟩
  | store call => exact hservice (by simp)
  | lookup resource => exact hservice (by simp)
  | freshId => exact hservice (by simp)
  | now => exact hservice (by simp)

/-- What is known of an operation call by call holds of it request by request. -/
theorem meets_wire {α : Type} {p : Operation α} {Q : Except RegistrarError α → Ledger × Holdings → Prop}
    (h : p.Meets (a.calls trouble inv) Q (l, held)) :
    (a.wired p).Meets (a.wire trouble inv)
      (fun x t => ∃ m held', t = (m.table, held') ∧ Q x (m, held')) (l.table, held) := by
  refine (h.refine (T := a.wire trouble inv) (E := Same) ?_ rfl).mono fun x t hx => ?_
  · rintro ⟨m, held'⟩ _ q rfl hallows
    exact handle_meets hallows
  · obtain ⟨⟨m, held'⟩, rfl, hx⟩ := hx
    exact ⟨m, _, rfl, hx⟩

end Wire

end Wiring

end IdentifierRegistrar
