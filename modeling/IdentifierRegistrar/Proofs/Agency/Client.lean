import IdentifierRegistrar.Proofs.Agency.HandedOut
import IdentifierRegistrar.Proofs.Agency.Understanding

/-! How replies are taken. A client's call is one request, and what becomes of it is told by the reply
alone: it succeeds after an answer that grants it, it is refused by a status that says so, and in every
other case it is left open (`Translates`). The body of an answer that does not grant the request has no
part in this. -/

namespace IdentifierRegistrar

namespace Program

variable {I : Interface} {ε α β σ : Type}

theorem exchanges_ofExcept (x : Except ε α) (answer : Answerer I σ) (s : σ) :
    (ofExcept x : Program I ε α).exchanges answer s = [] := by
  cases x <;> rfl

end Program

namespace Agency

open Program

variable {α β σ : Type}

/-- The reply grants the request: by a status of success and a body that can be read, or by saying that
there is nothing, where that is an answer. -/
inductive Grants (absent : Option α) (reads : Http.Body → α → Prop) : Http.Reply → α → Prop
  | success {status : Nat} {body : Http.Body} {a : α} (hstatus : Http.isSuccess status = true)
    (hbody : reads body a) : Grants absent reads (.answer status body) a
  | absent {body : Http.Body} {a : α} (h : absent = some a) :
    Grants absent reads (.answer Http.notFound body) a

inductive Refuses (absent : Option α) : Http.Reply → Nat → Prop
  | intro {status : Nat} {body : Http.Body} (hsuccess : Http.isSuccess status = false)
    (hserver : Http.isServerError status = false) (hmany : status ≠ Http.tooManyRequests)
    (hfound : status = Http.notFound → absent = none) : Refuses absent (.answer status body) status

/-- The session is one request, and its result follows from the reply. -/
def Translates (p : Session α) (q : Http.Request) (absent : Option α) (reads : Http.Body → α → Prop) :
    Prop :=
  ∀ (σ : Type) (server : Answerer Http.interface σ) (s : σ),
    p.exchanges server s = [⟨q, (server q s).1⟩] ∧
    (∀ a, (p.run server s).1 = .ok a ↔ Grants absent reads (server q s).1 a) ∧
    (∀ status, (∃ message, (p.run server s).1 = .error (.rejected status message)) ↔
      Refuses absent (server q s).1 status) ∧
    ((∃ reason, (p.run server s).1 = .error (.unreachable reason)) ↔
      ¬(∃ a, Grants absent reads (server q s).1 a) ∧ ¬∃ status, Refuses absent (server q s).1 status)

abbrev Reader (α : Type) := Http.Body → Except String α

/-- One request, whose answer is read. Where `absent` is given a 404 stands for it. -/
def transact (q : Http.Request) (absent : Option α) (read : Reader α) : Session α := do
  let answer ← send q
  match absent with
  | some a => if answer.1 = Http.notFound then return a else finish (← accept answer)
  | none => finish (← accept answer)
where
  finish (body : Http.Body) : Session α := ofExcept ((read body).mapError .unreachable)

def outcome (q : Http.Request) (absent : Option α) (read : Reader α) : Http.Reply → Except AgencyError α
  | .answer status body =>
    match (if status = Http.notFound then absent else none) with
    | some a => .ok a
    | none =>
      if Http.isSuccess status then (read body).mapError .unreachable
      else .error (statusError status (body.text?.getD ""))
  | .timedOut => .error (.unreachable ("timed out: " ++ q.url))
  | .refused => .error (.unreachable ("connection failed: " ++ q.url))
  | .failed => .error (.unreachable ("request failed: " ++ q.url))

variable {q : Http.Request} {absent : Option α} {read : Reader α} {reads : Http.Body → α → Prop}

theorem transact_eq : transact q absent read = ask q fun x => ofExcept (outcome q absent read x) := by
  have hfinish (status : Nat) (body : Http.Body) :
      (accept (status, body) >>= transact.finish read) = ofExcept (if Http.isSuccess status then
        (read body).mapError .unreachable else .error (statusError status (body.text?.getD ""))) := by
    unfold accept
    by_cases hs : Http.isSuccess status = true
    · simp only [hs, if_true]
      rfl
    · simp only [hs]
      rfl
  refine congrArg (Program.ask (I := Http.interface) q) (funext fun x => ?_)
  cases x with
  | answer status body =>
    cases absent with
    | none =>
      have hnone : (if status = Http.notFound then (none : Option α) else none) = none := by split <;> rfl
      simp only [outcome, hnone, ← hfinish]
      rfl
    | some a =>
      by_cases hstatus : status = Http.notFound
      · simp only [outcome, hstatus, if_true]
        rfl
      · simp only [outcome, hstatus, if_false, ← hfinish]
        exact if_neg hstatus
  | timedOut => rfl
  | refused => rfl
  | failed => rfl

theorem transact_run (server : Answerer Http.interface σ) (s : σ) :
    (transact q absent read).run server s =
      (outcome q absent read (server q s).1, (server q s).2) := by
  rw [transact_eq]
  exact run_ofExcept _ _ _

theorem transact_exchanges (server : Answerer Http.interface σ) (s : σ) :
    (transact q absent read).exchanges server s = [⟨q, (server q s).1⟩] := by
  rw [transact_eq]
  exact congrArg (_ :: ·) (exchanges_ofExcept _ _ _)

theorem isSuccess_notFound : Http.isSuccess Http.notFound = false := by decide

theorem outcome_absent {a : α} (h : absent = some a) (body : Http.Body) :
    outcome q absent read (.answer Http.notFound body) = .ok a := by
  simp only [outcome, h, if_true]

theorem outcome_answer {status : Nat} (h : status = Http.notFound → absent = none) (body : Http.Body) :
    outcome q absent read (.answer status body) =
      if Http.isSuccess status then (read body).mapError .unreachable
      else .error (statusError status (body.text?.getD "")) := by
  have hnone : (if status = Http.notFound then absent else none) = none := by
    split
    · rename_i hstatus
      exact h hstatus
    · rfl
  simp only [outcome, hnone]

variable {x : Http.Reply} {a b : α} {status : Nat}

theorem Grants.unique (hreads : ∀ body a, read body = .ok a ↔ reads body a) (ha : Grants absent reads x a)
    (hb : Grants absent reads x b) : a = b := by
  cases ha with
  | success hstatus hbody =>
    cases hb with
    | success _ hbody' => exact Except.ok.inj (((hreads _ _).2 hbody).symm.trans ((hreads _ _).2 hbody'))
    | absent h => simp [isSuccess_notFound] at hstatus
  | absent h =>
    cases hb with
    | success hstatus _ => simp [isSuccess_notFound] at hstatus
    | absent h' => exact Option.some.inj (h.symm.trans h')

theorem Grants.not_refuses (h : Grants absent reads x a) : ¬Refuses absent x status := by
  rintro ⟨hsuccess, -, -, hfound⟩
  cases h with
  | success hstatus _ => simp [hsuccess] at hstatus
  | absent h => simp [hfound rfl] at h

theorem Refuses.unique {status' : Nat} (h : Refuses absent x status) (h' : Refuses absent x status') :
    status = status' := by
  cases h
  cases h'
  rfl

/-- What becomes of a request: it is granted, refused or left open. -/
theorem outcome_cases (q : Http.Request) (absent : Option α)
    (hreads : ∀ body a, read body = .ok a ↔ reads body a) (x : Http.Reply) :
    (∃ a, outcome q absent read x = .ok a ∧ Grants absent reads x a) ∨
    (∃ status message, outcome q absent read x = .error (.rejected status message) ∧
      Refuses absent x status) ∨
    (∃ reason, outcome q absent read x = .error (.unreachable reason)) ∧
      (¬∃ a, Grants absent reads x a) ∧ ¬∃ status, Refuses absent x status := by
  cases x with
  | answer status body =>
    by_cases hfound : status = Http.notFound → absent = none
    · rw [outcome_answer hfound]
      by_cases hs : Http.isSuccess status = true
      · rw [if_pos hs]
        cases hread : read body with
        | ok a => exact .inl ⟨a, rfl, .success hs ((hreads body a).1 hread)⟩
        | error reason =>
          refine .inr (.inr ⟨⟨reason, rfl⟩, ?_, ?_⟩)
          · rintro ⟨a, h⟩
            cases h with
            | success _ hbody => cases hread.symm.trans ((hreads body a).2 hbody)
            | absent h => simp [hfound rfl] at h
          · rintro ⟨_, hsuccess, -⟩
            simp [hs] at hsuccess
      · rw [if_neg hs]
        have hno : ¬∃ a, Grants absent reads (.answer status body) a := by
          rintro ⟨a, h⟩
          cases h with
          | success hs' _ => exact hs hs'
          | absent h => simp [hfound rfl] at h
        by_cases hopen : Http.isServerError status = true ∨ status = Http.tooManyRequests
        · refine .inr (.inr ⟨⟨_, by rw [statusError, if_pos hopen]⟩, hno, ?_⟩)
          rintro ⟨_, -, hserver, hmany, -⟩
          rcases hopen with hopen | hopen
          · simp [hopen] at hserver
          · exact hmany hopen
        · have hserver : Http.isServerError status = false := by simpa using fun h => hopen (.inl h)
          exact .inr (.inl ⟨status, _, by rw [statusError, if_neg hopen],
            ⟨by simpa using hs, hserver, fun h => hopen (.inr h), hfound⟩⟩)
    · obtain ⟨rfl, hne⟩ := Classical.not_imp.1 hfound
      obtain ⟨a, ha⟩ := Option.ne_none_iff_exists'.1 hne
      exact .inl ⟨a, outcome_absent ha body, .absent ha⟩
  | timedOut => exact .inr (.inr ⟨⟨_, rfl⟩, nofun, nofun⟩)
  | refused => exact .inr (.inr ⟨⟨_, rfl⟩, nofun, nofun⟩)
  | failed => exact .inr (.inr ⟨⟨_, rfl⟩, nofun, nofun⟩)

theorem outcome_eq_ok_iff (hreads : ∀ body a, read body = .ok a ↔ reads body a) :
    outcome q absent read x = .ok a ↔ Grants absent reads x a := by
  rcases outcome_cases q absent hreads x with
    ⟨b, hx, hgrants⟩ | ⟨status, message, hx, hrefuses⟩ | ⟨⟨reason, hx⟩, hno, -⟩
  · rw [hx, Except.ok.injEq]
    constructor
    · rintro rfl
      exact hgrants
    · exact hgrants.unique hreads
  · rw [hx]
    exact iff_of_false nofun fun h => h.not_refuses hrefuses
  · rw [hx]
    exact iff_of_false nofun fun h => hno ⟨a, h⟩

theorem outcome_eq_rejected_iff (hreads : ∀ body a, read body = .ok a ↔ reads body a) :
    (∃ message, outcome q absent read x = .error (.rejected status message)) ↔ Refuses absent x status := by
  rcases outcome_cases q absent hreads x with
    ⟨b, hx, hgrants⟩ | ⟨status', message, hx, hrefuses⟩ | ⟨⟨reason, hx⟩, -, hnot⟩
  · rw [hx]
    exact iff_of_false nofun hgrants.not_refuses
  · rw [hx]
    constructor
    · rintro ⟨message', h⟩
      obtain ⟨rfl, -⟩ := AgencyError.rejected.inj (Except.error.inj h)
      exact hrefuses
    · intro h
      exact ⟨message, by rw [hrefuses.unique h]⟩
  · rw [hx]
    exact iff_of_false nofun fun h => hnot ⟨status, h⟩

theorem outcome_eq_unreachable_iff (hreads : ∀ body a, read body = .ok a ↔ reads body a) :
    (∃ reason, outcome q absent read x = .error (.unreachable reason)) ↔
      (¬∃ a, Grants absent reads x a) ∧ ¬∃ status, Refuses absent x status := by
  rcases outcome_cases q absent hreads x with
    ⟨a, hx, hgrants⟩ | ⟨status, message, hx, hrefuses⟩ | ⟨⟨reason, hx⟩, hno, hnot⟩
  · rw [hx]
    exact iff_of_false nofun fun h => h.1 ⟨a, hgrants⟩
  · rw [hx]
    exact iff_of_false nofun fun h => h.2 ⟨status, hrefuses⟩
  · exact iff_of_true ⟨reason, hx⟩ ⟨hno, hnot⟩

theorem translates_transact (hreads : ∀ body a, read body = .ok a ↔ reads body a) :
    Translates (transact q absent read) q absent reads := by
  intro σ server s
  rw [transact_exchanges, transact_run]
  exact ⟨rfl, fun _ => outcome_eq_ok_iff hreads, fun _ => outcome_eq_rejected_iff hreads,
    outcome_eq_unreachable_iff hreads⟩

def readNothing : Reader Unit := fun _ => .ok ()

def readJson (url : String) (decode : Json.Decoder α) : Reader α := fun body =>
  match body.text? with
  | none => .error ("failed to read body from " ++ url)
  | some text =>
    match (Json.parse? text).map decode with
    | some (.ok a) => .ok a
    | _ => .error ("malformed response from " ++ url)

def Decodes (decode : Json.Decoder α) (body : Http.Body) (a : α) : Prop :=
  ∃ text, body.text? = some text ∧ (Json.parse? text).map decode = some (.ok a)

theorem readJson_eq_ok_iff {url : String} {decode : Json.Decoder α} {body : Http.Body} {a : α} :
    readJson url decode body = .ok a ↔ Decodes decode body a := by
  unfold readJson Decodes
  cases body.text? with
  | none => exact iff_of_false nofun nofun
  | some text =>
    simp only [Option.some.injEq, exists_eq_left']
    cases (Json.parse? text).map decode with
    | none => exact iff_of_false nofun nofun
    | some x => cases x <;> simp

theorem readBody_eq (url : String) (decode : Json.Decoder α) (body : Http.Body) :
    readBody url decode body =
      Program.ofExcept ((readJson url decode body).mapError AgencyError.unreachable) := by
  unfold readBody readJson
  cases body.text? with
  | none => rfl
  | some text =>
    simp only
    cases (Json.parse? text).map decode with
    | none => rfl
    | some x => cases x <;> rfl

namespace ArkService

variable {service : ArkService} {value : IdentifierValue} {first second : String}

/-- The ark of a whole body that can be read. An ark of blanks only is none. -/
def Hands (body : Http.Body) (ark : String) : Prop := Decodes readArk body ark ∧ Text.isBlank ark = false

def readNewArk (service : ArkService) : Reader String := fun body =>
  match readJson service.newArk.url readArk body with
  | .ok ark =>
    if Text.isBlank ark then .error ("empty ark in response from " ++ service.newArk.url) else .ok ark
  | .error reason => .error reason

theorem readNewArk_eq_ok_iff {body : Http.Body} {ark : String} :
    service.readNewArk body = .ok ark ↔ Hands body ark := by
  unfold readNewArk Hands
  rw [← readJson_eq_ok_iff]
  cases readJson service.newArk.url readArk body with
  | error reason => exact iff_of_false nofun nofun
  | ok handed =>
    cases hblank : Text.isBlank handed with
    | false =>
      simp only [hblank, Bool.false_eq_true, if_false, Except.ok.injEq]
      constructor
      · rintro rfl
        exact ⟨rfl, hblank⟩
      · exact fun h => h.1
    | true =>
      refine iff_of_false (by simp [hblank]) ?_
      rintro ⟨h, hark⟩
      obtain rfl := Except.ok.inj h
      simp [hblank] at hark

theorem createNew_transact : service.createNew = transact service.newArk none service.readNewArk := by
  rw [createNew_eq]
  refine congrArg (send service.newArk >>= ·) (funext fun answer => ?_)
  refine congrArg (accept answer >>= ·) (funext fun body => ?_)
  rw [readBody_eq, transact.finish, readNewArk]
  cases readJson service.newArk.url readArk body with
  | error reason => rfl
  | ok ark =>
    change (if Text.isBlank ark then _ else _) = _
    cases hblank : Text.isBlank ark <;> simp only [hblank] <;> rfl

def post (service : ArkService) (ark : String) (body : Json) : Http.Request :=
  request .post (service.addressOf ark) (some body) none

def pageBody (page : String) : Json := .object [("external_url", .string page)]

def givePage (service : ArkService) (ark : String) : Option String → Session Unit
  | some page => transact (service.post ark (pageBody page)) none readNothing
  | none => .done ()

theorem set_transact (hvalue : value.arkParts? = some (first, second)) (body : Json) :
    service.set value body = transact (service.post second body) none readNothing := by
  have hurl : service.setUrl value = .done (service.addressOf second) := by rw [setUrl, hvalue]; rfl
  rw [set, hurl]
  rfl

theorem change_register {p : Payload} (hvalue : p.identifier.arkParts? = some (first, second)) :
    service.change (.register p) =
      transact (service.post second (metadataBody p)) none readNothing >>= fun _ =>
        service.givePage second p.landingPage := by
  rw [change, setMetadata, set_transact hvalue]
  refine congrArg (transact (service.post second (metadataBody p)) none readNothing >>= ·)
    (funext fun _ => ?_)
  cases p.landingPage with
  | none => rfl
  | some page => exact set_transact hvalue (pageBody page)

end ArkService

namespace DoiService

variable {service : DoiService} {name : String}

def putRequest (service : DoiService) (name : String) (p : Payload) (event : Option DoiEvent) :
    Http.Request :=
  service.request .put name (some (document (attributes name p event)))

def eventRequest (service : DoiService) (name : String) (event : DoiEvent) : Http.Request :=
  service.request .put name
    (some (document (.object [("doi", .string name), ("event", .string event.tag)])))

theorem put_transact (p : Payload) (event : Option DoiEvent) :
    service.put name p event = transact (service.putRequest name p event) none readNothing := rfl

theorem sendEvent_transact (event : DoiEvent) :
    service.sendEvent name event = transact (service.eventRequest name event) none readNothing := rfl

theorem remove_transact :
    service.remove name = transact (service.request .delete name none) (some ()) readNothing := rfl

def readKnown (service : DoiService) (name : String) : Reader (Option DoiState) := fun body =>
  (readJson (service.url name) readState body).map some

def Knows (body : Http.Body) (state : Option DoiState) : Prop :=
  ∃ known, state = some known ∧ Decodes readState body known

theorem readKnown_eq_ok_iff {body : Http.Body} {state : Option DoiState} :
    service.readKnown name body = .ok state ↔ Knows body state := by
  have hdecodes (known : DoiState) : Decodes readState body known ↔
      readJson (service.url name) readState body = .ok known := readJson_eq_ok_iff.symm
  simp only [readKnown, Knows, hdecodes]
  cases readJson (service.url name) readState body with
  | error reason => exact iff_of_false nofun nofun
  | ok known => simp [Except.map, eq_comm]

theorem state?_transact : service.state? name =
    transact (service.request .get name none) (some none) (service.readKnown name) := by
  refine congrArg (send (service.request .get name none) >>= ·) (funext fun answer => ?_)
  by_cases hstatus : answer.1 = Http.notFound
  · simp only [hstatus, if_true]
  · simp only [hstatus, if_false]
    refine congrArg (accept answer >>= ·) (funext fun body => ?_)
    rw [readBody_eq, transact.finish, readKnown]
    cases readJson (service.url name) readState body <;> rfl

def withdraw (service : DoiService) (name : String) : Option DoiState → Session Unit
  | none => .done ()
  | some .draft => service.remove name
  | some _ => service.sendEvent name .hide

theorem change_delete {v : IdentifierValue} (hvalue : v.doiName? = some name) :
    service.change (.delete v) =
      transact (service.request .get name none) (some none) (service.readKnown name) >>=
        service.withdraw name := by
  rw [← state?_transact, change, nameOf, hvalue]
  refine congrArg (service.state? name >>= ·) (funext fun state => ?_)
  cases state with
  | none => rfl
  | some state => cases state <;> rfl

end DoiService

/-- The calls of the two clients, on values of their schemes: to ask for a state and to remove a draft take a
404 for an answer, and where an ark or a state is asked for the whole body has to be read. -/
structure ClientsTranslate (ark : ArkService) (doi : DoiService) : Prop where
  createNew : Translates ark.createNew ark.newArk none ArkService.Hands
  setMetadata (p : Payload) (h : p.identifier.scheme = .dark) : ∃ first last,
    p.identifier.arkParts? = some (first, last) ∧
    Translates (ark.setMetadata p) (ark.post last (ArkService.metadataBody p)) none fun _ _ => True
  setLandingPage (value : IdentifierValue) (page : String) (h : value.scheme = .dark) : ∃ first last,
    value.arkParts? = some (first, last) ∧
    Translates (ark.setLandingPage value page) (ark.post last (ArkService.pageBody page)) none fun _ _ => True
  put (name : String) (p : Payload) (event : Option DoiEvent) :
    Translates (doi.put name p event) (doi.putRequest name p event) none fun _ _ => True
  sendEvent (name : String) (event : DoiEvent) :
    Translates (doi.sendEvent name event) (doi.eventRequest name event) none fun _ _ => True
  remove (name : String) :
    Translates (doi.remove name) (doi.request .delete name none) (some ()) fun _ _ => True
  state? (name : String) :
    Translates (doi.state? name) (doi.request .get name none) (some none) DoiService.Knows

theorem readNothing_iff (body : Http.Body) (a : Unit) : readNothing body = .ok a ↔ True := by
  simp [readNothing]

theorem clientsTranslate (ark : ArkService) (doi : DoiService) : ClientsTranslate ark doi where
  createNew := by
    rw [ArkService.createNew_transact]
    exact translates_transact fun _ _ => ArkService.readNewArk_eq_ok_iff
  setMetadata p h := by
    obtain ⟨first, last, hvalue⟩ := IdentifierValue.exists_arkParts h
    refine ⟨first, last, hvalue, ?_⟩
    rw [ArkService.setMetadata, ArkService.set_transact hvalue]
    exact translates_transact readNothing_iff
  setLandingPage value page h := by
    obtain ⟨first, last, hvalue⟩ := IdentifierValue.exists_arkParts h
    refine ⟨first, last, hvalue, ?_⟩
    rw [ArkService.setLandingPage, ArkService.set_transact hvalue]
    exact translates_transact readNothing_iff
  put name p event := by
    rw [DoiService.put_transact]
    exact translates_transact readNothing_iff
  sendEvent name event := by
    rw [DoiService.sendEvent_transact]
    exact translates_transact readNothing_iff
  remove name := by
    rw [DoiService.remove_transact]
    exact translates_transact readNothing_iff
  state? name := by
    rw [DoiService.state?_transact]
    exact translates_transact fun _ _ => DoiService.readKnown_eq_ok_iff

end Agency

end IdentifierRegistrar
