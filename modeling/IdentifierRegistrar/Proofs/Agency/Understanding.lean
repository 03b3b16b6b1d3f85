import IdentifierRegistrar.Config
import IdentifierRegistrar.Proofs.Operation.Wire

/-! What a connector makes of a value. It finds what it needs in every value of its own scheme, and then
no call about the value ends with the word that the value is malformed, whatever the server replies
(`Connector.perform_orderly`). A set that is made by adding connectors has for each scheme one of that
scheme (`Connectors.Built.scheme_of_get?`). -/

namespace IdentifierRegistrar

namespace Connectors

/-- The sets that are made by adding connectors one after the other, each for its own scheme and in the
place of an earlier one. -/
inductive Built : Connectors Connector → Prop
  | none : Built .none
  | add {set : Connectors Connector} (h : Built set) (c : Connector) : Built (set.add c.scheme c)

theorem Built.scheme_of_get? {set : Connectors Connector} (h : set.Built) {scheme : Scheme}
    {c : Connector} (hc : set.get? scheme = some c) : c.scheme = scheme := by
  induction h with
  | none => cases scheme <;> cases hc
  | @add set _ added ih =>
    by_cases hs : added.scheme = scheme
    · subst hs
      rw [get?_add_self] at hc
      obtain rfl := Option.some.inj hc
      rfl
    · rw [get?_add_of_ne _ hs] at hc
      exact ih hc

end Connectors

theorem Config.scheme_darkConnector (s : DarkSettings) : (darkConnector s).scheme = .dark := by
  unfold darkConnector
  split <;> rfl

theorem Config.scheme_doiConnector (s : DoiSettings) : (doiConnector s).scheme = .doi := by
  unfold doiConnector
  split <;> rfl

/-- Any settings make such a set. -/
theorem Config.built_connectors (c : Config) : c.connectors.Built := by
  have hadd : c.connectors = (Connectors.none.add (darkConnector c.dark).scheme (darkConnector c.dark)).add
      (doiConnector c.doi).scheme (doiConnector c.doi) := by
    rw [scheme_darkConnector, scheme_doiConnector]
    rfl
  rw [hadd]
  exact .add (.add .none _) _

namespace Agency

open Program

/-- The value that a call is about. To mint is not about any value yet. -/
def Call.value? : Call → Option IdentifierValue
  | mint _ => none
  | change c => some c.value
  | isReserved v | isRegistered v => some v

/-- A call that was made, was not completed or was refused. Nothing is said against the value. -/
def Ordinary {α : Type} : Except AgencyError α → Prop
  | .ok _ | .error (.unreachable _) | .error (.rejected _ _) => True
  | .error (.malformedValue _) => False

def Orderly {α : Type} (p : Session α) : Prop :=
  p.Meets Http.interface.anyhow (fun x _ => Ordinary x) ()

variable {α β : Type}

theorem Orderly.bind {p : Session α} {f : α → Session β} (h : Orderly p) (hf : ∀ a, Orderly (f a)) :
    Orderly (p >>= f) :=
  Meets.bind h (fun a _ _ => hf a) fun e _ he => by cases e <;> exact he

theorem orderly_done (a : α) : Orderly (.done a) := trivial

theorem send_orderly (q : Http.Request) : Orderly (send q) := by
  refine ⟨trivial, fun x _ _ => ?_⟩
  cases x <;> trivial

theorem accept_orderly (answer : Nat × Http.Body) : Orderly (accept answer) := by
  unfold accept statusError
  split
  · trivial
  · split <;> trivial

theorem readBody_orderly (url : String) (read : Json.Decoder α) (body : Http.Body) :
    Orderly (readBody url read body) := by
  unfold readBody
  split
  · trivial
  · split <;> trivial

theorem submit_orderly (q : Http.Request) :
    Orderly (do let _ ← accept (← send q); return () : Session Unit) :=
  (send_orderly q).bind fun answer => (accept_orderly answer).bind fun _ => orderly_done _

namespace ArkService

variable {service : ArkService} {value : IdentifierValue}

/-- Every dArk value splits into the parts that its address is made of. -/
theorem exists_setUrl (service : ArkService) (h : value.scheme = .dark) :
    ∃ url, service.setUrl value = .done url := by
  obtain ⟨first, second, hparts⟩ := IdentifierValue.exists_arkParts h
  exact ⟨_, by rw [setUrl, hparts]⟩

theorem set_orderly {url : String} (h : service.setUrl value = .done url) (body : Json) :
    Orderly (service.set value body) := by
  rw [set, h]
  exact submit_orderly _

theorem change_orderly {c : Change} {url : String} (h : service.setUrl c.value = .done url) :
    Orderly (service.change c) := by
  cases c with
  | reserve p => exact set_orderly h _
  | updateMetadata p => exact set_orderly h _
  | register p =>
    refine (set_orderly h _).bind fun _ => ?_
    cases p.landingPage with
    | none => exact orderly_done _
    | some page => exact set_orderly h _
  | delete v => exact orderly_done _

end ArkService

namespace DoiService

variable {service : DoiService} {value : IdentifierValue} {name : String}

/-- Every DOI has a name. -/
theorem exists_nameOf (h : value.scheme = .doi) : ∃ name, nameOf value = .done name := by
  obtain ⟨name, hname⟩ := IdentifierValue.exists_doiName h
  exact ⟨name, by rw [nameOf, hname]⟩

theorem nameOf_orderly {f : String → Session α} (h : nameOf value = .done name)
    (hf : Orderly (f name)) : Orderly (nameOf value >>= f) := by
  rw [h]
  exact hf

theorem state?_orderly : Orderly (service.state? name) := by
  refine (send_orderly _).bind fun answer => ?_
  split
  · exact orderly_done _
  · exact (accept_orderly answer).bind fun body =>
      (readBody_orderly _ _ body).bind fun _ => orderly_done _

theorem remove_orderly : Orderly (service.remove name) := by
  refine (send_orderly _).bind fun answer => ?_
  split
  · exact orderly_done _
  · exact (accept_orderly answer).bind fun _ => orderly_done _

theorem change_orderly {c : Change} (h : nameOf c.value = .done name) : Orderly (service.change c) := by
  cases c with
  | reserve p => exact nameOf_orderly h (submit_orderly _)
  | updateMetadata p => exact nameOf_orderly h (submit_orderly _)
  | register p => exact nameOf_orderly h (submit_orderly _)
  | delete v =>
    refine nameOf_orderly h (state?_orderly.bind fun state => ?_)
    match state with
    | none => exact orderly_done _
    | some .draft => exact remove_orderly
    | some .registered | some .findable | some .unknown => exact submit_orderly _

theorem isReserved_orderly (h : nameOf value = .done name) : Orderly (service.isReserved value) :=
  nameOf_orderly h (state?_orderly.bind fun _ => orderly_done _)

theorem isRegistered_orderly (h : nameOf value = .done name) : Orderly (service.isRegistered value) :=
  nameOf_orderly h (state?_orderly.bind fun _ => orderly_done _)

end DoiService

end Agency

namespace Connector

open Agency (ArkService Call DoiService Orderly)

/-- The connector finds in the value of a call what it has to send: the parts of a dArk value, the name of
a DOI. -/
def Understands : Connector → Call → Prop
  | ark service, .change c => ∃ url, service.setUrl c.value = .done url
  | doi _ _ _, .change c => ∃ name, DoiService.nameOf c.value = .done name
  | doi _ _ _, .isReserved v | doi _ _ _, .isRegistered v => ∃ name, DoiService.nameOf v = .done name
  | _, _ => True

theorem understands_of_scheme {c : Connector} {call : Call} {v : IdentifierValue}
    (hv : call.value? = some v) (h : v.scheme = c.scheme) : c.Understands call := by
  cases call with
  | mint id => cases hv
  | change d =>
    obtain rfl := Option.some.inj hv
    cases c with
    | ark service => exact ArkService.exists_setUrl service h
    | doi service registrant separator => exact DoiService.exists_nameOf h
    | offline minter => trivial
  | isReserved w | isRegistered w =>
    obtain rfl := Option.some.inj hv
    cases c with
    | ark service => trivial
    | doi service registrant separator => exact DoiService.exists_nameOf h
    | offline minter => trivial

/-- What the connector understands is made, is not completed or is refused. -/
theorem perform_orderly {c : Connector} {call : Call} {v : IdentifierValue} (hv : call.value? = some v)
    (h : c.Understands call) : Orderly (c.perform call) := by
  cases call with
  | mint id => cases hv
  | change d =>
    cases c with
    | ark service =>
      obtain ⟨url, hurl⟩ := h
      exact ArkService.change_orderly hurl
    | doi service registrant separator =>
      obtain ⟨name, hname⟩ := h
      exact DoiService.change_orderly hname
    | offline minter => trivial
  | isReserved w =>
    cases c with
    | ark service => trivial
    | doi service registrant separator =>
      obtain ⟨name, hname⟩ := h
      exact DoiService.isReserved_orderly hname
    | offline minter => trivial
  | isRegistered w =>
    cases c with
    | ark service => trivial
    | doi service registrant separator =>
      obtain ⟨name, hname⟩ := h
      exact DoiService.isRegistered_orderly hname
    | offline minter => trivial

end Connector

end IdentifierRegistrar
