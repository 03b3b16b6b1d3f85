import IdentifierRegistrar.Proofs.Agency.Client
import IdentifierRegistrar.Proofs.Agency.Dealing

/-! What goes over the wire in one call, whatever the server replies. A DOI is put once, and its deletion
asks for the state first and then removes a draft, hides what is no draft, or leaves it; an ark is posted
its metadata and, if it is registered with a page and the metadata was taken, the page
(`Connector.perform_traced`). A call succeeds only if every request of it was granted, and stops at the
first that was not (`Ended`). -/

namespace IdentifierRegistrar

namespace Agency

open Program

abbrev Transaction := (q : Http.interface.Request) × Http.interface.Reply q

namespace Transaction

/-- To ask for a state or to remove a draft finds an answer also where there is nothing. -/
def Lenient (q : Http.Request) : Prop := q.method = .get ∨ q.method = .delete

/-- An answer of success, whose state can be read if one was asked for; or the word that nothing is there. -/
inductive Granted : Transaction → Prop
  | success {q : Http.Request} {status : Nat} {body : Http.Body} (hstatus : Http.isSuccess status = true)
    (hbody : q.method = .get → ∃ state, Decodes DoiService.readState body state) :
    Granted ⟨q, .answer status body⟩
  | unknown {q : Http.Request} {body : Http.Body} (hq : Lenient q) : Granted ⟨q, .answer Http.notFound body⟩

inductive Rejected : Transaction → Nat → Prop
  | intro {q : Http.Request} {status : Nat} {body : Http.Body} (hsuccess : Http.isSuccess status = false)
    (hserver : Http.isServerError status = false) (hmany : status ≠ Http.tooManyRequests)
    (hfound : status = Http.notFound → ¬Lenient q) : Rejected ⟨q, .answer status body⟩ status

end Transaction

/-- How a session ends, by its transactions: it stops at the first request that is not granted. -/
inductive Ended {α : Type} : List Transaction → Except AgencyError α → Prop
  | granted {trace : List Transaction} {a : α} (h : ∀ e ∈ trace, Transaction.Granted e) : Ended trace (.ok a)
  | rejected {trace : List Transaction} {e : Transaction} {status : Nat} {message : String}
    (h : ∀ e ∈ trace, Transaction.Granted e) (he : Transaction.Rejected e status) :
    Ended (trace ++ [e]) (.error (.rejected status message))
  | undecided {trace : List Transaction} {e : Transaction} {reason : String}
    (h : ∀ e ∈ trace, Transaction.Granted e) (hgranted : ¬Transaction.Granted e)
    (hrejected : ∀ status, ¬Transaction.Rejected e status) :
    Ended (trace ++ [e]) (.error (.unreachable reason))

/-- Against every server the session ends as its transactions say. -/
def Sound {α : Type} (p : Session α) : Prop :=
  ∀ (σ : Type) (server : Answerer Http.interface σ) (s : σ), Ended (p.exchanges server s) (p.run server s).1

variable {α β σ : Type}

theorem sound_done (a : α) : Sound (.done a) := by
  intro σ server s
  exact .granted (List.forall_mem_nil _)

theorem Ended.all_granted {trace : List Transaction} {a : α} (h : Ended trace (.ok a)) :
    ∀ e ∈ trace, Transaction.Granted e := by
  cases h with
  | granted hall => exact hall

/-- What comes after granted requests ends the whole. -/
theorem Ended.after {trace rest : List Transaction} {x : Except AgencyError β}
    (h : ∀ e ∈ trace, Transaction.Granted e) (hrest : Ended rest x) : Ended (trace ++ rest) x := by
  have hall {before : List Transaction} (hbefore : ∀ e ∈ before, Transaction.Granted e) :
      ∀ e ∈ trace ++ before, Transaction.Granted e := by
    intro e he
    rcases List.mem_append.1 he with he | he
    · exact h e he
    · exact hbefore e he
  cases hrest with
  | granted hbefore => exact .granted (hall hbefore)
  | rejected hbefore he =>
    rw [← List.append_assoc]
    exact .rejected (hall hbefore) he
  | undecided hbefore hgranted hrejected =>
    rw [← List.append_assoc]
    exact .undecided (hall hbefore) hgranted hrejected

theorem Sound.bind {p : Session α} {f : α → Session β} (h : Sound p) (hf : ∀ a, Sound (f a)) :
    Sound (p >>= f) := by
  intro σ server s
  have hp := h σ server s
  rw [exchanges_bind, run_bind]
  generalize p.run server s = outcome at hp ⊢
  obtain ⟨x, s'⟩ := outcome
  generalize p.exchanges server s = trace at hp ⊢
  cases hp with
  | granted hall => exact .after hall (hf _ σ server s')
  | rejected hall he =>
    change Ended (_ ++ []) (.error _)
    rw [List.append_nil]
    exact .rejected hall he
  | undecided hall hgranted hrejected =>
    change Ended (_ ++ []) (.error _)
    rw [List.append_nil]
    exact .undecided hall hgranted hrejected

section Transact

variable {q : Http.Request} {absent : Option α} {read : Reader α} {reads : Http.Body → α → Prop}

structure Fits (q : Http.Request) (absent : Option α) (reads : Http.Body → α → Prop) : Prop where
  absent : (∃ a, absent = some a) ↔ Transaction.Lenient q
  body (body : Http.Body) :
    (∃ a, reads body a) ↔ (q.method = .get → ∃ state, Decodes DoiService.readState body state)

theorem Fits.granted_iff (h : Fits q absent reads) (x : Http.Reply) :
    Transaction.Granted ⟨q, x⟩ ↔ ∃ a, Grants absent reads x a := by
  constructor
  · rintro (⟨hstatus, hbody⟩ | hq)
    · obtain ⟨a, ha⟩ := (h.body _).2 hbody
      exact ⟨a, .success hstatus ha⟩
    · obtain ⟨a, ha⟩ := h.absent.2 hq
      exact ⟨a, .absent ha⟩
  · rintro ⟨a, ⟨hstatus, hbody⟩ | ha⟩
    · exact .success hstatus ((h.body _).1 ⟨a, hbody⟩)
    · exact .unknown (h.absent.1 ⟨a, ha⟩)

theorem Fits.rejected_iff (h : Fits q absent reads) (x : Http.Reply) (status : Nat) :
    Transaction.Rejected ⟨q, x⟩ status ↔ Refuses absent x status := by
  have hlenient : ¬Transaction.Lenient q ↔ absent = none := by
    rw [← h.absent]
    cases absent <;> simp
  constructor
  · rintro ⟨hsuccess, hserver, hmany, hfound⟩
    exact ⟨hsuccess, hserver, hmany, fun hs => hlenient.1 (hfound hs)⟩
  · rintro ⟨hsuccess, hserver, hmany, hfound⟩
    exact ⟨hsuccess, hserver, hmany, fun hs => hlenient.2 (hfound hs)⟩

theorem sound_transact (h : Fits q absent reads) (hreads : ∀ body a, read body = .ok a ↔ reads body a) :
    Sound (transact q absent read) := by
  intro σ server s
  rw [transact_exchanges, transact_run]
  obtain ⟨x, hx⟩ : ∃ x : Http.Reply, (server q s).1 = x := ⟨_, rfl⟩
  rw [hx, ← List.nil_append [_]]
  rcases outcome_cases q absent hreads x with
    ⟨a, hx, hgrants⟩ | ⟨status, message, hx, hrefuses⟩ | ⟨⟨reason, hx⟩, hno, hnot⟩
  · rw [hx]
    refine .granted fun e he => ?_
    obtain rfl := List.mem_singleton.1 he
    exact (h.granted_iff x).2 ⟨a, hgrants⟩
  · rw [hx]
    exact .rejected (List.forall_mem_nil _) ((h.rejected_iff x status).2 hrefuses)
  · rw [hx]
    refine .undecided (List.forall_mem_nil _) (fun hgranted => hno ((h.granted_iff x).1 hgranted)) ?_
    intro status hrejected
    exact hnot ⟨status, (h.rejected_iff x status).1 hrejected⟩

/-- What a reply to `q` makes of it, and what the session goes on with. -/
theorem transact_bind_exchanges (f : α → Session β) (server : Answerer Http.interface σ) (s : σ) :
    (transact q absent read >>= f).exchanges server s = ⟨q, (server q s).1⟩ ::
      match outcome q absent read (server q s).1 with
      | .ok a => (f a).exchanges server (server q s).2
      | .error _ => [] := by
  rw [exchanges_bind, transact_exchanges, transact_run]
  cases outcome q absent read (server q s).1 <;> rfl

theorem fits_change (hq : q.method = .put ∨ q.method = .post) :
    Fits q none fun _ (_ : Unit) => True where
  absent := iff_of_false nofun fun h => by
    rcases h with h | h <;> rcases hq with hq | hq <;> cases h.symm.trans hq
  body _ := iff_of_true ⟨(), trivial⟩ fun h => by rcases hq with hq | hq <;> cases h.symm.trans hq

theorem sound_change (hq : q.method = .put ∨ q.method = .post) : Sound (transact q none readNothing) :=
  sound_transact (fits_change hq) readNothing_iff

end Transact

namespace ArkService

variable {service : ArkService} {value : IdentifierValue} {first second : String}

theorem set_sound (hvalue : value.arkParts? = some (first, second)) (body : Json) :
    Sound (service.set value body) := by
  rw [set_transact hvalue]
  exact sound_change (.inr rfl)

theorem change_sound {c : Change} (hvalue : c.value.arkParts? = some (first, second)) :
    Sound (service.change c) := by
  cases c with
  | reserve p => exact set_sound hvalue _
  | updateMetadata p => exact set_sound hvalue _
  | register p =>
    refine (set_sound hvalue _).bind fun _ => ?_
    cases p.landingPage with
    | none => exact sound_done _
    | some page => exact set_sound hvalue _
  | delete v => exact sound_done _

end ArkService

namespace DoiService

variable {service : DoiService} {value : IdentifierValue} {name : String}

theorem fits_state : Fits (service.request .get name none) (some none) Knows where
  absent := iff_of_true ⟨none, rfl⟩ (.inl rfl)
  body body := by
    constructor
    · rintro ⟨_, state, -, hstate⟩ -
      exact ⟨state, hstate⟩
    · intro h
      obtain ⟨state, hstate⟩ := h rfl
      exact ⟨some state, state, rfl, hstate⟩

theorem state?_sound : Sound (service.state? name) := by
  rw [state?_transact]
  exact sound_transact fits_state fun _ _ => readKnown_eq_ok_iff

theorem fits_remove : Fits (service.request .delete name none) (some ()) fun _ (_ : Unit) => True where
  absent := iff_of_true ⟨(), rfl⟩ (.inr rfl)
  body _ := iff_of_true ⟨(), trivial⟩ nofun

theorem remove_sound : Sound (service.remove name) := by
  rw [remove_transact]
  exact sound_transact fits_remove readNothing_iff

theorem sound_of_named {f : String → Session α} (hvalue : value.doiName? = some name) (hf : Sound (f name)) :
    Sound (nameOf value >>= f) := by
  rw [nameOf, hvalue]
  exact hf

theorem change_sound {c : Change} (hvalue : c.value.doiName? = some name) : Sound (service.change c) := by
  cases c with
  | reserve p => exact sound_of_named hvalue (sound_change (.inl rfl))
  | updateMetadata p => exact sound_of_named hvalue (sound_change (.inl rfl))
  | register p => exact sound_of_named hvalue (sound_change (.inl rfl))
  | delete v =>
    refine sound_of_named hvalue (state?_sound.bind fun state => ?_)
    match state with
    | none => exact sound_done _
    | some .draft => exact remove_sound
    | some .registered | some .findable | some .unknown => exact sound_change (.inl rfl)

end DoiService

end Agency

namespace Connector

open Agency (Call Sound)

variable {c : Connector} {call : Call} {v : IdentifierValue}

/-- Every call about a value of the connector's scheme ends as its transactions say. -/
theorem perform_sound (hv : call.value? = some v) (h : v.scheme = c.scheme) : Sound (c.perform call) := by
  cases c with
  | ark service =>
    obtain ⟨first, second, hvalue⟩ := IdentifierValue.exists_arkParts h
    cases call with
    | mint id => cases hv
    | change d =>
      obtain rfl := Option.some.inj hv
      exact Agency.ArkService.change_sound hvalue
    | isReserved w => exact Agency.sound_done _
    | isRegistered w => exact Agency.sound_done _
  | doi service registrant separator =>
    obtain ⟨name, hvalue⟩ := IdentifierValue.exists_doiName h
    cases call with
    | mint id => cases hv
    | change d =>
      obtain rfl := Option.some.inj hv
      exact Agency.DoiService.change_sound hvalue
    | isReserved w | isRegistered w =>
      obtain rfl := Option.some.inj hv
      exact Agency.DoiService.sound_of_named hvalue
        (Agency.DoiService.state?_sound.bind fun _ => Agency.sound_done _)
  | offline minter =>
    cases call with
    | mint id => cases hv
    | change d => exact Agency.sound_done _
    | isReserved w | isRegistered w => exact Agency.sound_done _

end Connector

namespace Agency

def Succeeds (x : Http.Reply) : Prop := ∃ status body, x = .answer status body ∧ Http.isSuccess status = true

def Reports (x : Http.Reply) (state : DoiState) : Prop :=
  ∃ status body, x = .answer status body ∧ Http.isSuccess status = true ∧
    Decodes DoiService.readState body state

def eventMember? (document : Json) : Option Json := do
  ((← (← document.get? "data").get? "attributes").get? "event")

namespace DoiService

def Puts (service : DoiService) (name : String) (event : Option DoiEvent) (q : Http.Request) : Prop :=
  q.method = .put ∧ q.url = service.url name ∧
    ∃ document, q.body = some document ∧ eventMember? document = event.map fun e => .string e.tag

def Asks (service : DoiService) (name : String) (q : Http.Request) : Prop :=
  q.method = .get ∧ q.url = service.url name ∧ q.body = none

def Removes (service : DoiService) (name : String) (q : Http.Request) : Prop :=
  q.method = .delete ∧ q.url = service.url name ∧ q.body = none

inductive Traced (service : DoiService) (name : String) : Call → List Transaction → Prop
  | put {p : Payload} {c : Change} {q : Http.Request} {x : Http.Reply}
    (hc : c = .reserve p ∨ c = .updateMetadata p) (hq : service.Puts name none q) :
    Traced service name (.change c) [⟨q, x⟩]
  | published {p : Payload} {q : Http.Request} {x : Http.Reply} (hq : service.Puts name (some .publish) q) :
    Traced service name (.change (.register p)) [⟨q, x⟩]
  | removed {v : IdentifierValue} {g d : Http.Request} {x y : Http.Reply} (hg : service.Asks name g)
    (hx : Reports x .draft) (hd : service.Removes name d) :
    Traced service name (.change (.delete v)) [⟨g, x⟩, ⟨d, y⟩]
  | hidden {v : IdentifierValue} {g q : Http.Request} {x y : Http.Reply} {state : DoiState}
    (hg : service.Asks name g) (hx : Reports x state) (hstate : state ≠ .draft)
    (hq : service.Puts name (some .hide) q) : Traced service name (.change (.delete v)) [⟨g, x⟩, ⟨q, y⟩]
  | left {v : IdentifierValue} {g : Http.Request} {x : Http.Reply} (hg : service.Asks name g)
    (hx : ∀ state, ¬Reports x state) : Traced service name (.change (.delete v)) [⟨g, x⟩]
  | queried {v : IdentifierValue} {call : Call} {g : Http.Request} {x : Http.Reply}
    (hcall : call = .isReserved v ∨ call = .isRegistered v) (hg : service.Asks name g) :
    Traced service name call [⟨g, x⟩]

end DoiService

namespace ArkService

def Posts (service : ArkService) (ark : String) (body : Json) (q : Http.Request) : Prop :=
  q.method = .post ∧ q.url = service.addressOf ark ∧ q.body = some body

inductive Traced (service : ArkService) (ark : String) : Call → List Transaction → Prop
  | set {p : Payload} {c : Change} {q : Http.Request} {x : Http.Reply}
    (hc : c = .reserve p ∨ c = .updateMetadata p) (hq : service.Posts ark (metadataBody p) q) :
    Traced service ark (.change c) [⟨q, x⟩]
  | paged {p : Payload} {page : String} {q r : Http.Request} {x y : Http.Reply}
    (hq : service.Posts ark (metadataBody p) q) (hx : Succeeds x) (hpage : p.landingPage = some page)
    (hr : service.Posts ark (pageBody page) r) : Traced service ark (.change (.register p)) [⟨q, x⟩, ⟨r, y⟩]
  | unpaged {p : Payload} {q : Http.Request} {x : Http.Reply} (hq : service.Posts ark (metadataBody p) q)
    (hx : ¬(Succeeds x ∧ ∃ page, p.landingPage = some page)) :
    Traced service ark (.change (.register p)) [⟨q, x⟩]
  | nothing {v : IdentifierValue} {call : Call}
    (hcall : call = .change (.delete v) ∨ call = .isReserved v ∨ call = .isRegistered v) :
    Traced service ark call []

end ArkService

namespace DoiService

variable {service : DoiService} {name : String} {call : Call} {trace : List Transaction}

theorem puts_putRequest (p : Payload) (event : Option DoiEvent) :
    service.Puts name event (service.putRequest name p event) := by
  refine ⟨rfl, rfl, document (attributes name p event), rfl, ?_⟩
  rw [← event_attributes name p event]
  rfl

theorem puts_eventRequest (event : DoiEvent) :
    service.Puts name (some event) (service.eventRequest name event) :=
  ⟨rfl, rfl, _, rfl, rfl⟩

theorem grants_iff_reports {x : Http.Reply} {state : DoiState} :
    Grants (some none) Knows x (some state) ↔ Reports x state := by
  constructor
  · intro h
    cases h with
    | success hstatus hbody =>
      obtain ⟨known, hknown, hdecodes⟩ := hbody
      obtain rfl := Option.some.inj hknown
      exact ⟨_, _, rfl, hstatus, hdecodes⟩
    | absent h => cases Option.some.inj h
  · rintro ⟨status, body, rfl, hstatus, hdecodes⟩
    exact .success hstatus ⟨state, rfl, hdecodes⟩

theorem outcome_state_iff {x : Http.Reply} {state : DoiState} :
    outcome (service.request .get name none) (some none) (service.readKnown name) x = .ok (some state) ↔
      Reports x state := by
  rw [outcome_eq_ok_iff fun _ _ => readKnown_eq_ok_iff, grants_iff_reports]

theorem delete_traced {v : IdentifierValue} (hvalue : v.doiName? = some name)
    (server : Answerer Http.interface σ) (s : σ) :
    service.Traced name (.change (.delete v)) ((service.change (.delete v)).exchanges server s) := by
  have hg : service.Asks name (service.request .get name none) := ⟨rfl, rfl, rfl⟩
  rw [change_delete hvalue, transact_bind_exchanges]
  obtain ⟨x, hx⟩ : ∃ x : Http.Reply, (server (service.request .get name none) s).1 = x := ⟨_, rfl⟩
  rw [hx]
  cases hstate : outcome (service.request .get name none) (some none) (service.readKnown name) x with
  | error e =>
    refine .left hg fun state hreports => ?_
    cases hstate.symm.trans (outcome_state_iff.2 hreports)
  | ok state =>
    cases state with
    | none =>
      refine .left hg fun state hreports => ?_
      cases hstate.symm.trans (outcome_state_iff.2 hreports)
    | some state =>
      have hreports : Reports x state := outcome_state_iff.1 hstate
      have hhide (hstate : state ≠ .draft) (s' : σ) : service.Traced name (.change (.delete v))
          (⟨service.request .get name none, x⟩ :: (service.sendEvent name .hide).exchanges server s') := by
        rw [sendEvent_transact, transact_exchanges]
        exact .hidden hg hreports hstate (puts_eventRequest .hide)
      cases state with
      | draft =>
        change service.Traced name _ (_ :: (service.remove name).exchanges server _)
        rw [remove_transact, transact_exchanges]
        exact .removed hg hreports ⟨rfl, rfl, rfl⟩
      | registered => exact hhide nofun _
      | findable => exact hhide nofun _
      | unknown => exact hhide nofun _

theorem change_traced {c : Change} (hvalue : c.value.doiName? = some name)
    (server : Answerer Http.interface σ) (s : σ) :
    service.Traced name (.change c) ((service.change c).exchanges server s) := by
  have hname : nameOf c.value = .done name := by rw [nameOf, hvalue]
  have hput (p : Payload) (event : Option DoiEvent) (h : nameOf p.identifier = .done name) :
      (do service.put (← nameOf p.identifier) p event : Session Unit) =
        transact (service.putRequest name p event) none readNothing := by
    rw [h, Program.done_bind, put_transact]
  cases c with
  | reserve p =>
    rw [change, hput p none hname, transact_exchanges]
    exact .put (.inl rfl) (puts_putRequest p none)
  | updateMetadata p =>
    rw [change, hput p none hname, transact_exchanges]
    exact .put (.inr rfl) (puts_putRequest p none)
  | register p =>
    rw [change, hput p (some .publish) hname, transact_exchanges]
    exact .published (puts_putRequest p (some .publish))
  | delete v => exact delete_traced hvalue server s

theorem question_traced {v : IdentifierValue} (hcall : call = .isReserved v ∨ call = .isRegistered v)
    (hvalue : v.doiName? = some name) (read : Option DoiState → Bool) (server : Answerer Http.interface σ)
    (s : σ) : service.Traced name call
      ((do return read (← service.state? (← nameOf v)) : Session Bool).exchanges server s) := by
  have hquestion : (do return read (← service.state? (← nameOf v)) : Session Bool) =
      transact (service.request .get name none) (some none) (service.readKnown name) >>= fun state =>
        return read state := by
    rw [nameOf, hvalue, Program.done_bind, state?_transact]
  rw [hquestion, transact_bind_exchanges]
  cases outcome (service.request .get name none) (some none) (service.readKnown name)
      (server (service.request .get name none) s).1 with
  | ok state => exact .queried hcall ⟨rfl, rfl, rfl⟩
  | error e => exact .queried hcall ⟨rfl, rfl, rfl⟩

end DoiService

namespace ArkService

variable {service : ArkService} {value : IdentifierValue} {first ark : String}

theorem succeeds_iff {q : Http.Request} {x : Http.Reply} :
    outcome q none readNothing x = .ok () ↔ Succeeds x := by
  rw [outcome_eq_ok_iff readNothing_iff]
  constructor
  · intro h
    cases h with
    | success hstatus _ => exact ⟨_, _, rfl, hstatus⟩
    | absent h => cases h
  · rintro ⟨status, body, rfl, hstatus⟩
    exact .success hstatus trivial

theorem register_traced {p : Payload} (hvalue : p.identifier.arkParts? = some (first, ark))
    (server : Answerer Http.interface σ) (s : σ) :
    service.Traced ark (.change (.register p)) ((service.change (.register p)).exchanges server s) := by
  have hq : service.Posts ark (metadataBody p) (service.post ark (metadataBody p)) := ⟨rfl, rfl, rfl⟩
  rw [change_register hvalue, transact_bind_exchanges]
  obtain ⟨x, hx⟩ : ∃ x : Http.Reply, (server (service.post ark (metadataBody p)) s).1 = x := ⟨_, rfl⟩
  rw [hx]
  cases houtcome : outcome (service.post ark (metadataBody p)) none readNothing x with
  | error e =>
    refine .unpaged hq ?_
    rintro ⟨hsucceeds, -⟩
    cases houtcome.symm.trans (succeeds_iff.2 hsucceeds)
  | ok =>
    have hsucceeds : Succeeds x := succeeds_iff.1 houtcome
    cases hpage : p.landingPage with
    | none =>
      refine .unpaged hq ?_
      rintro ⟨-, page, h⟩
      cases hpage.symm.trans h
    | some page =>
      change service.Traced ark _
        (_ :: (transact (service.post ark (pageBody page)) none readNothing).exchanges server _)
      rw [transact_exchanges]
      exact .paged hq hsucceeds hpage ⟨rfl, rfl, rfl⟩

theorem change_traced {c : Change} (hvalue : c.value.arkParts? = some (first, ark))
    (server : Answerer Http.interface σ) (s : σ) :
    service.Traced ark (.change c) ((service.change c).exchanges server s) := by
  have hset (p : Payload) (h : p.identifier.arkParts? = some (first, ark)) :
      service.setMetadata p = transact (service.post ark (metadataBody p)) none readNothing :=
    set_transact h _
  cases c with
  | reserve p =>
    rw [change, hset p hvalue, transact_exchanges]
    exact .set (.inl rfl) ⟨rfl, rfl, rfl⟩
  | updateMetadata p =>
    rw [change, hset p hvalue, transact_exchanges]
    exact .set (.inr rfl) ⟨rfl, rfl, rfl⟩
  | register p => exact register_traced hvalue server s
  | delete v => exact .nothing (.inl rfl)

end ArkService

def AsksFor (q : Http.Request) (event : DoiEvent) : Prop :=
  ∃ document, q.body = some document ∧ eventMember? document = some (.string event.tag)

/-- What a call may never do: send a request twice, remove what was not reported as a draft, publish
without being asked to register, or hide what was not reported as something else than a draft. -/
structure Orders (call : Call) (trace : List Transaction) : Prop where
  nodup : (trace.map (·.1)).Nodup
  removes : ∀ e ∈ trace, e.1.method = .delete → ∃ v g x, call = .change (.delete v) ∧
    trace = [⟨g, x⟩, e] ∧ g.method = .get ∧ Reports x .draft
  publishes : ∀ e ∈ trace, AsksFor e.1 .publish → ∃ p, call = .change (.register p)
  hides : ∀ e ∈ trace, AsksFor e.1 .hide → ∃ v g x state, call = .change (.delete v) ∧
    trace = [⟨g, x⟩, e] ∧ g.method = .get ∧ Reports x state ∧ state ≠ .draft

section Orders

variable {call : Call} {trace : List Transaction} {g q : Http.Request} {x y : Http.Reply}

theorem orders_nil : Orders call [] :=
  ⟨List.nodup_nil, List.forall_mem_nil _, List.forall_mem_nil _, List.forall_mem_nil _⟩

/-- A request that removes and hides nothing. -/
theorem orders_single (hq : q.method ≠ .delete)
    (hpublish : AsksFor q .publish → ∃ p, call = .change (.register p)) (hhide : ¬AsksFor q .hide) :
    Orders call [⟨q, x⟩] where
  nodup := List.nodup_singleton _
  removes e he hmethod := by
    obtain rfl := List.mem_singleton.1 he
    exact absurd hmethod hq
  publishes e he h := by
    obtain rfl := List.mem_singleton.1 he
    exact hpublish h
  hides e he h := by
    obtain rfl := List.mem_singleton.1 he
    exact absurd h hhide

/-- A second request, after one that neither removes nor asks for an event. -/
theorem orders_pair (hne : g ≠ q) (hg : g.method ≠ .delete) (hquiet : ∀ event, ¬AsksFor g event)
    (hremove : q.method = .delete → ∃ v, call = .change (.delete v) ∧ g.method = .get ∧ Reports x .draft)
    (hpublish : ¬AsksFor q .publish)
    (hhide : AsksFor q .hide → ∃ v state, call = .change (.delete v) ∧ g.method = .get ∧ Reports x state ∧
      state ≠ .draft) : Orders call [⟨g, x⟩, ⟨q, y⟩] where
  nodup := List.nodup_cons.2 ⟨fun h => hne (List.mem_singleton.1 h), List.nodup_singleton _⟩
  removes e he hmethod := by
    rcases List.mem_cons.1 he with rfl | he
    · exact absurd hmethod hg
    · obtain rfl := List.mem_singleton.1 he
      obtain ⟨v, hcall, hget, hreports⟩ := hremove hmethod
      exact ⟨v, g, x, hcall, rfl, hget, hreports⟩
  publishes e he h := by
    rcases List.mem_cons.1 he with rfl | he
    · exact absurd h (hquiet _)
    · obtain rfl := List.mem_singleton.1 he
      exact absurd h hpublish
  hides e he h := by
    rcases List.mem_cons.1 he with rfl | he
    · exact absurd h (hquiet _)
    · obtain rfl := List.mem_singleton.1 he
      obtain ⟨v, state, hcall, hget, hreports, hstate⟩ := hhide h
      exact ⟨v, g, x, state, hcall, rfl, hget, hreports, hstate⟩

theorem not_asksFor_of_bodyless (h : q.body = none) (event : DoiEvent) : ¬AsksFor q event := by
  rintro ⟨document, hbody, -⟩
  cases h.symm.trans hbody

theorem DoiService.Puts.asksFor_iff {service : DoiService} {name : String} {event : Option DoiEvent}
    (h : service.Puts name event q) (other : DoiEvent) : AsksFor q other ↔ event = some other := by
  obtain ⟨-, -, document, hbody, hevent⟩ := h
  constructor
  · rintro ⟨_, hbody', hother⟩
    obtain rfl := Option.some.inj (hbody.symm.trans hbody')
    rw [hevent] at hother
    cases event with
    | none => cases hother
    | some e => cases e <;> cases other <;> first | rfl | simp [DoiEvent.tag] at hother
  · rintro rfl
    exact ⟨document, hbody, hevent⟩

theorem ArkService.Posts.not_asksFor {service : ArkService} {ark : String} {body : Json}
    (h : service.Posts ark body q) (hbody : eventMember? body = none) (event : DoiEvent) :
    ¬AsksFor q event := by
  rintro ⟨document, hdocument, hevent⟩
  obtain rfl := Option.some.inj (h.2.2.symm.trans hdocument)
  cases hbody.symm.trans hevent

end Orders

theorem DoiService.Traced.orders {service : DoiService} {name : String} {call : Call}
    {trace : List Transaction} (h : service.Traced name call trace) : Orders call trace := by
  cases h with
  | put hc hq =>
    refine orders_single (by rw [hq.1]; decide) (fun h => ?_) fun h => ?_
    · cases (hq.asksFor_iff _).1 h
    · cases (hq.asksFor_iff _).1 h
  | @published p q x hq =>
    refine orders_single (by rw [hq.1]; decide) (fun _ => ⟨p, rfl⟩) fun h => ?_
    cases (hq.asksFor_iff _).1 h
  | @removed v g d x y hg hx hd =>
    have hne : g ≠ d := by
      rintro rfl
      cases hg.1.symm.trans hd.1
    refine orders_pair hne (by rw [hg.1]; decide) (not_asksFor_of_bodyless hg.2.2)
      (fun _ => ⟨v, rfl, hg.1, hx⟩) (not_asksFor_of_bodyless hd.2.2 _) fun h => ?_
    exact absurd h (not_asksFor_of_bodyless hd.2.2 _)
  | @hidden v g q x y state hg hx hstate hq =>
    have hne : g ≠ q := by
      rintro rfl
      cases hg.1.symm.trans hq.1
    refine orders_pair hne (by rw [hg.1]; decide) (not_asksFor_of_bodyless hg.2.2) (fun h => ?_) (fun h => ?_)
      fun _ => ⟨v, state, rfl, hg.1, hx, hstate⟩
    · cases hq.1.symm.trans h
    · cases (hq.asksFor_iff _).1 h
  | left hg hx =>
    exact orders_single (by rw [hg.1]; decide) (fun h => absurd h (not_asksFor_of_bodyless hg.2.2 _))
      (not_asksFor_of_bodyless hg.2.2 _)
  | queried hcall hg =>
    exact orders_single (by rw [hg.1]; decide) (fun h => absurd h (not_asksFor_of_bodyless hg.2.2 _))
      (not_asksFor_of_bodyless hg.2.2 _)

theorem ArkService.Traced.orders {service : ArkService} {ark : String} {call : Call}
    {trace : List Transaction} (h : service.Traced ark call trace) : Orders call trace := by
  have hpost {body : Json} {q : Http.Request} {x : Http.Reply} (hq : service.Posts ark body q)
      (hbody : eventMember? body = none) : Orders call [⟨q, x⟩] :=
    orders_single (by rw [hq.1]; decide) (fun h => absurd h (hq.not_asksFor hbody _)) (hq.not_asksFor hbody _)
  cases h with
  | set hc hq => exact hpost hq rfl
  | @paged p page q r x y hq hx hpage hr =>
    have hne : q ≠ r := by
      rintro rfl
      have hbody := Option.some.inj (hq.2.2.symm.trans hr.2.2)
      simp [metadataBody, pageBody] at hbody
    refine orders_pair hne (by rw [hq.1]; decide) (hq.not_asksFor rfl) (fun h => ?_) (hr.not_asksFor rfl _)
      fun h => absurd h (hr.not_asksFor rfl _)
    cases hr.1.symm.trans h
  | unpaged hq hx => exact hpost hq rfl
  | nothing hcall => exact orders_nil

end Agency

namespace Connector

open Agency (Call DoiState Orders Reports Transaction)

/-- What a connector sends in a call about a value, and what it is replied. One that is offline sends
nothing. -/
def Traced (c : Connector) (v : IdentifierValue) (call : Call) (trace : List Transaction) : Prop :=
  match c with
  | ark service => ∃ first second, v.arkParts? = some (first, second) ∧ service.Traced second call trace
  | doi service _ _ => ∃ name, v.doiName? = some name ∧ service.Traced name call trace
  | offline _ => trace = []

variable {c : Connector} {call : Call} {v : IdentifierValue} {σ : Type}

theorem traced (hv : call.value? = some v) (h : v.scheme = c.scheme) (server : Answerer Http.interface σ)
    (s : σ) : c.Traced v call ((c.perform call).exchanges server s) := by
  cases c with
  | ark service =>
    obtain ⟨first, second, hvalue⟩ := IdentifierValue.exists_arkParts h
    refine ⟨first, second, hvalue, ?_⟩
    cases call with
    | mint id => cases hv
    | change d =>
      obtain rfl := Option.some.inj hv
      exact Agency.ArkService.change_traced hvalue server s
    | isReserved w => exact .nothing (.inr (.inl rfl))
    | isRegistered w => exact .nothing (.inr (.inr rfl))
  | doi service registrant separator =>
    obtain ⟨name, hvalue⟩ := IdentifierValue.exists_doiName h
    refine ⟨name, hvalue, ?_⟩
    cases call with
    | mint id => cases hv
    | change d =>
      obtain rfl := Option.some.inj hv
      exact Agency.DoiService.change_traced hvalue server s
    | isReserved w =>
      obtain rfl := Option.some.inj hv
      exact Agency.DoiService.question_traced (.inl rfl) hvalue _ server s
    | isRegistered w =>
      obtain rfl := Option.some.inj hv
      exact Agency.DoiService.question_traced (.inr rfl) hvalue _ server s
  | offline minter =>
    cases call with
    | mint id => cases hv
    | change d => rfl
    | isReserved w | isRegistered w => rfl

theorem Traced.orders {trace : List Transaction} (h : c.Traced v call trace) : Orders call trace := by
  cases c with
  | ark service =>
    obtain ⟨_, _, -, h⟩ := h
    exact h.orders
  | doi service registrant separator =>
    obtain ⟨_, -, h⟩ := h
    exact h.orders
  | offline minter =>
    obtain rfl := h
    exact Agency.orders_nil

def drafting : Answerer Http.interface Unit := fun _ s =>
  (.answer 200 (.whole (Json.object [("data", .object [("attributes",
    .object [("state", .string "draft")])])]).render.toUTF8.toList), s)

def sampleDoi : IdentifierValue := ⟨.doi, "doi:10.5/tides", by decide⟩

def sampleAgency : Connector := .doi (.ofAddress "http://[::1]" none none) "10.5" "/"

end Connector

end IdentifierRegistrar
