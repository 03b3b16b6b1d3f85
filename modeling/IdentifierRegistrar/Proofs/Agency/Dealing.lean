import IdentifierRegistrar.Proofs.Agency.Holding
import IdentifierRegistrar.Proofs.Operation.Contract

/-! What the calls to a DOI connector come to, each as a whole. A change is one request or two; it has
been made, or there is an error and it has been made or not, and in between nothing else is held
(`change_meets`). A question is answered by what is held (`isReserved_meets`, `isRegistered_meets`). -/

namespace IdentifierRegistrar

namespace Agency

def dealing (root : String) (trouble : Prop) (P : Holdings → Prop) :
    Setting Http.interface Holdings where
  allows held _ := P held
  moves held q x held' := Serves root trouble held q x held'

/-- A change that leads from `a` to `b`: it has been made, or there is an error and it has been made
or not. -/
inductive Attempted {α : Type} (trouble : Prop) (a b : α) : Except AgencyError Unit → α → Prop
  | made : Attempted trouble a b (.ok ()) b
  | refused {e : AgencyError} (ht : trouble) : Attempted trouble a b (.error e) a
  | unsaid {e : AgencyError} (ht : trouble) : Attempted trouble a b (.error e) b

theorem Attempted.map {α β : Type} {trouble : Prop} {a b c : α} {x : Except AgencyError Unit}
    (h : Attempted trouble a b x c) (f : α → β) : Attempted trouble (f a) (f b) x (f c) := by
  cases h with
  | made => exact .made
  | refused ht => exact .refused ht
  | unsaid ht => exact .unsaid ht

theorem Attempted.same {α : Type} {trouble : Prop} {a c : α} {x : Except AgencyError Unit}
    (h : Attempted trouble a a x c) : c = a := by
  cases h <;> rfl

/-- An error leaves it open whether the change has been made. -/
theorem Attempted.of_open {α : Type} {trouble : Prop} {a b c : α} {e : AgencyError} (ht : trouble)
    (h : c = a ∨ c = b) : Attempted trouble a b (.error e) c := by
  rcases h with rfl | rfl
  · exact .refused ht
  · exact .unsaid ht

inductive Inquired {α : Type} (trouble : Prop) (a : α) : Except AgencyError α → Prop
  | told : Inquired trouble a (.ok a)
  | refused {e : AgencyError} (ht : trouble) : Inquired trouble a (.error e)

section Sessions

variable {β : Type} {root name : String} {trouble : Prop} {P : Holdings → Prop}
  {held : Holdings} {q : Http.Request}

theorem not_success_of_refused {status : Nat} (h : Refused status) :
    ¬ Http.isSuccess status = true := by
  obtain ⟨hs, -⟩ := h
  simp only [Http.isSuccess, Bool.and_eq_true, decide_eq_true_eq]
  omega

theorem not_success_of_fault {status : Nat}
    (h : Http.isServerError status = true ∨ status = Http.tooManyRequests) :
    ¬ Http.isSuccess status = true ∧ status ≠ Http.notFound := by
  simp only [Http.isSuccess, Http.isServerError, Http.tooManyRequests, Http.notFound,
    Bool.and_eq_true, decide_eq_true_eq] at h ⊢
  omega

theorem ne_notFound_of_success {status : Nat} (h : Http.isSuccess status = true) :
    status ≠ Http.notFound := by
  rintro rfl
  exact absurd h (by decide)

/-- A request that is sent comes to an answer, to an error status, to half an answer or to none at all.
Without an answer it is open whether it was applied. -/
theorem meets_send {f : Nat × Http.Body → Session β} {Q : Except AgencyError β → Holdings → Prop}
    (hq : Names root q name) (hP : P held)
    (hlost : ∀ e held', trouble →
      held' = held ∨ held' = Function.update held name ((held name).after q) → Q (.error e) held')
    (hrefused : ∀ status body held', trouble →
      held' = held ∨ held' = Function.update held name ((held name).after q) →
      ¬ Http.isSuccess status = true → (status = Http.notFound → q.method = .put) →
      (f (status, body)).Meets (dealing root trouble P) Q held')
    (hcut : ∀ status, trouble → q.method = .get → Http.isSuccess status = true →
      (f (status, .cut)).Meets (dealing root trouble P) Q held)
    (hanswered : ∀ status body, Answered q (held name) status body →
      (f (status, body)).Meets (dealing root trouble P) Q
        (Function.update held name ((held name).after q))) :
    (send q >>= f).Meets (dealing root trouble P) Q held := by
  refine ⟨hP, fun x held' hx => ?_⟩
  cases hx with
  | unsent h => simp [Names, h] at hq
  | elsewhere h => exact absurd hq (h name)
  | lost ht hx =>
    cases hx with
    | fault hs =>
      obtain ⟨hno, hfound⟩ := not_success_of_fault hs
      exact hrefused _ _ _ ht (.inl rfl) hno fun h => absurd h hfound
    | _ => exact hlost _ _ ht (.inl rfl)
  | muted ht hq' hx =>
    obtain rfl := hq'.name_eq hq
    cases hx with
    | fault hs =>
      obtain ⟨hno, hfound⟩ := not_success_of_fault hs
      exact hrefused _ _ _ ht (.inr rfl) hno fun h => absurd h hfound
    | _ => exact hlost _ _ ht (.inr rfl)
  | cut ht hget hs => exact hcut _ ht hget hs
  | refused ht hs =>
    refine hrefused _ _ _ ht (.inl rfl) ?_ fun h => ?_
    · rcases hs with hs | ⟨-, rfl⟩
      · exact not_success_of_refused hs
      · decide
    · rcases hs with hs | ⟨hput, -⟩
      · exact absurd h hs.2.2.1
      · exact hput
  | answered hq' hx =>
    obtain rfl := hq'.name_eq hq
    exact hanswered _ _ hx

theorem exists_accept_fail {status : Nat} (h : ¬ Http.isSuccess status = true) (body : Http.Body) :
    ∃ e, accept (status, body) = .fail e := by
  rw [accept, if_neg h]
  exact ⟨_, rfl⟩

theorem accept_success {status : Nat} {body : Http.Body} (h : Http.isSuccess status = true) :
    accept (status, body) = .done body := if_pos h

/-- A document that is sent changes what is held for the name, or it is not known whether it has. -/
theorem submit_meets (hq : Names root q name) (hP : P held) (hput : q.method = .put) :
    (do let _ ← accept (← send q); return () : Session Unit).Meets (dealing root trouble P)
      (Attempted trouble held (Function.update held name ((held name).after q))) held := by
  refine meets_send hq hP (fun e held' ht h => .of_open ht h)
    (fun status body held' ht h hno _ => ?_) (fun status _ hget => by simp [hput] at hget)
    fun status body hx => ?_
  · obtain ⟨e, he⟩ := exists_accept_fail hno body
    rw [he]
    exact .of_open ht h
  · cases hx with
    | put _ hs =>
      rw [accept_success hs]
      exact .made
    | removed hdelete _ _ => simp [hput] at hdelete
    | kept hdelete _ _ => simp [hput] at hdelete
    | unknown hother _ => simp [hput] at hother
    | told hget _ _ _ => simp [hput] at hget

theorem readMembers_append {σ : Type} {shape : Json.RecordShape σ} {members : List (String × Json)}
    (h : ∀ m ∈ members, m.1 ∉ shape.fields) (more : List (String × Json)) (seen : List String) (s : σ) :
    shape.readMembers seen (members ++ more) s = shape.readMembers seen more s := by
  induction members with
  | nil => rfl
  | cons m members ih =>
    rw [List.cons_append, Json.RecordShape.readMembers, if_neg (h m (by simp))]
    exact ih fun m hm => h m (by simp [hm])

def sole {α : Type} (name key : String) (read : Json.Decoder α) : Json.RecordShape (Option α) :=
  ⟨name, [key], [], fun _ v _ => do return some (← read v)⟩

/-- A record of one field is read off the one member of its key, whatever the others are. -/
theorem sole_read {α : Type} {name key : String} {read : Json.Decoder α} {v w : Json} {a : α}
    (hv : Member v key w) (hw : read w = .ok a) :
    (do Json.required key (← (sole name key read).read none v)) = .ok a := by
  obtain ⟨before, after, rfl, hkey⟩ := hv
  have hothers (m : String × Json) (hm : m ∈ before ++ after) : m.1 ∉ (sole name key read).fields := by
    rw [sole, List.mem_singleton]
    rintro rfl
    exact hkey (List.mem_map_of_mem hm)
  have hset : (sole name key read).set key w none = .ok (some a) := by
    simp only [sole, hw]
    rfl
  have hafter := readMembers_append (fun m hm => hothers m (List.mem_append_right before hm)) []
    [key] (some a)
  rw [List.append_nil] at hafter
  rw [Json.RecordShape.read, readMembers_append fun m hm => hothers m (List.mem_append_left after hm),
    Json.RecordShape.readMembers, if_pos (by simp [sole]), if_neg (by simp), hset]
  exact congrArg (· >>= Json.required key) hafter

theorem readState_tells {v data attributes : Json} {state : DoiState} (hv : Member v "data" data)
    (hdata : Member data "attributes" attributes)
    (hstate : Member attributes "state" (.string state.tag)) :
    DoiService.readState v = .ok (DoiState.ofTag state.tag) :=
  sole_read hv (sole_read hdata (sole_read hstate rfl))

theorem DoiEvent.ofTag?_tag (e : DoiEvent) : DoiEvent.ofTag? e.tag = some e := by cases e <;> decide

theorem DoiState.ofTag_tag (s : DoiState) : ofTag s.tag = s := by cases s <;> decide

theorem readBody_tells {url : String} {body : Http.Body} {state : DoiState} (h : Tells body state) :
    readBody url DoiService.readState body = .done state := by
  obtain ⟨text, v, data, attributes, hbody, hparse, hv, hdata, hstate⟩ := h
  simp only [readBody, hbody, hparse, Option.map_some, readState_tells hv hdata hstate,
    DoiState.ofTag_tag]

end Sessions

namespace DoiService

variable {service : DoiService} {root name : String} {trouble : Prop} {P : Holdings → Prop}
  {held : Holdings}

def Plain (service : DoiService) (root name : String) : Prop :=
  (Url.parse? (service.url name)).map Url.target = some (root ++ "/dois/" ++ name)

theorem Plain.names (h : service.Plain root name) (method : Http.Method) (body : Option Json) :
    Names root (service.request method name body) name := h

theorem state?_meets (hname : service.Plain root name) (hP : P held) :
    (service.state? name).Meets (dealing root trouble P)
      (fun x held' => held' = held ∧ Inquired trouble (held name).state? x) held := by
  have hkeep (held' : Holdings) (h : held' = held ∨ held' = Function.update held name (held name)) :
      held' = held := by
    rcases h with rfl | rfl
    · rfl
    · exact Function.update_eq_self _ _
  refine meets_send (hname.names .get none) hP (fun e held' ht h => ⟨hkeep held' h, .refused ht⟩) ?_ ?_ ?_
  · intro status body held' ht h hno hput
    obtain ⟨e, he⟩ := exists_accept_fail hno body
    have hfound : status ≠ Http.notFound := fun h => by cases hput h
    rw [if_neg hfound, he]
    exact ⟨hkeep held' h, .refused ht⟩
  · intro status ht _ hs
    rw [if_neg (ne_notFound_of_success hs), accept_success hs]
    exact ⟨rfl, .refused ht⟩
  · intro status body hx
    rw [show (held name).after (service.request .get name none) = held name from rfl,
      Function.update_eq_self]
    cases hx with
    | put h _ => cases h
    | removed h _ _ => cases h
    | kept h _ _ => cases h
    | unknown _ hh =>
      rw [if_pos rfl, hh]
      exact ⟨rfl, .told⟩
    | told _ hh hs hbody =>
      rw [if_neg (ne_notFound_of_success hs), accept_success hs, Program.done_bind, readBody_tells hbody, hh]
      exact ⟨rfl, .told⟩

theorem eventOf_document (attributes : Json) : eventOf (document attributes) =
    ((attributes.get? "event").bind Json.string?).bind DoiEvent.ofTag? := by
  have hdata : (document attributes).get? "data" =
      some (.object [("type", .string "dois"), ("attributes", attributes)]) := rfl
  have hattributes : Json.get? "attributes" (.object [("type", .string "dois"), ("attributes", attributes)]) =
      some attributes := rfl
  unfold eventOf
  rw [hdata]
  simp only [Option.bind_eq_bind, Option.bind_some, hattributes]
  cases attributes.get? "event" <;> rfl

theorem event_attributes (doi : String) (p : Payload) (event : Option DoiEvent) :
    (attributes doi p event).get? "event" = event.map fun e => .string e.tag := by
  unfold attributes Json.ofPresent Json.get?
  cases event <;> cases p.landingPage.or p.url <;> cases p.title <;> cases p.author <;>
    cases p.year <;> rfl

theorem put_meets (hname : service.Plain root name) (hP : P held) (p : Payload)
    (event : Option DoiEvent) : (service.put name p event).Meets (dealing root trouble P)
      (Attempted trouble held (Function.update held name ((held name).put event))) held := by
  have hevent : eventOf (document (attributes name p event)) = event := by
    rw [eventOf_document, event_attributes]
    cases event with
    | none => rfl
    | some e => exact DoiEvent.ofTag?_tag e
  have hafter : (held name).after (service.request .put name
      (some (document (attributes name p event)))) = (held name).put event :=
    congrArg (held name).put hevent
  rw [← hafter]
  exact submit_meets (hname.names .put _) hP rfl

theorem sendEvent_meets {h : Holding} (hname : service.Plain root name) (hP : P held)
    (hh : held name = h) (event : DoiEvent) :
    (service.sendEvent name event).Meets (dealing root trouble P)
      (Attempted trouble held (Function.update held name (h.put (some event)))) held := by
  subst hh
  have hevent : eventOf (document (.object [("doi", .string name), ("event", .string event.tag)])) =
      some event := by
    rw [eventOf_document]
    exact DoiEvent.ofTag?_tag event
  have hafter : (held name).after (service.request .put name (some (document
      (.object [("doi", .string name), ("event", .string event.tag)])))) = (held name).put (some event) :=
    congrArg (held name).put hevent
  rw [← hafter]
  exact submit_meets (hname.names .put _) hP rfl

theorem remove_meets (hname : service.Plain root name) (hP : P held) (hdraft : held name = .draft) :
    (service.remove name).Meets (dealing root trouble P)
      (Attempted trouble held (Function.update held name .absent)) held := by
  have hafter : (held name).after (service.request .delete name none) = .absent := by
    rw [hdraft]
    rfl
  refine meets_send (hname.names .delete none) hP (fun e held' ht h => .of_open ht (hafter ▸ h)) ?_
    (fun status _ h => by cases h) ?_
  · intro status body held' ht h hno hput
    obtain ⟨e, he⟩ := exists_accept_fail hno body
    have hfound : status ≠ Http.notFound := fun h => by cases hput h
    rw [if_neg hfound, he]
    exact .of_open ht (hafter ▸ h)
  · intro status body hx
    cases hx with
    | put h _ => cases h
    | removed _ _ hs =>
      rw [hafter, if_neg (ne_notFound_of_success hs), accept_success hs]
      exact .made
    | kept _ hh _ => simp [hdraft] at hh
    | unknown _ hh => simp [hdraft] at hh
    | told h _ _ _ => cases h

theorem nameOf_meets {β : Type} {value : IdentifierValue} {f : String → Session β}
    {S : Setting Http.interface Holdings} {Q : Except AgencyError β → Holdings → Prop}
    (hvalue : value.doiName? = some name) (hf : (f name).Meets S Q held) :
    (nameOf value >>= f).Meets S Q held := by
  unfold nameOf
  rw [hvalue]
  exact hf

/-- A change that is asked for is made, or there is an error and it has been made or not. A deletion
asks for the state first: until its second request is applied, the holding stays. -/
theorem change_meets {c : Change} (hvalue : c.value.doiName? = some name)
    (hname : service.Plain root name) (hP : P held) :
    (service.change c).Meets (dealing root trouble P)
      (Attempted trouble held (Function.update held name ((held name).change c))) held := by
  cases c with
  | reserve p => exact nameOf_meets hvalue (put_meets hname hP p none)
  | updateMetadata p => exact nameOf_meets hvalue (put_meets hname hP p none)
  | register p => exact nameOf_meets hvalue (put_meets hname hP p (some .publish))
  | delete v =>
    refine nameOf_meets hvalue ((state?_meets hname hP).bind (fun state held' h => ?_) fun e held' h => ?_)
    · obtain ⟨rfl, ⟨⟩⟩ := h
      -- What is left to do depends on the state that was told.
      cases hh : held' name with
      | absent =>
        rw [show Holding.absent.change (.delete v) = held' name from hh.symm, Function.update_eq_self]
        exact .made
      | draft => exact remove_meets hname hP hh
      | registered => exact sendEvent_meets hname hP hh .hide
      | findable => exact sendEvent_meets hname hP hh .hide
    · obtain ⟨rfl, ⟨⟩⟩ := h
      exact .refused ‹_›

theorem question_meets {v : IdentifierValue} (hvalue : v.doiName? = some name)
    (hname : service.Plain root name) (hP : P held) (test : Option DoiState → Bool) :
    (do return test (← service.state? (← nameOf v)) : Session Bool).Meets (dealing root trouble P)
      (fun x held' => held' = held ∧ Inquired trouble (test (held name).state?) x) held := by
  refine nameOf_meets hvalue ((state?_meets hname hP).bind (fun state held' h => ?_) fun e held' h => ?_)
  · obtain ⟨rfl, ⟨⟩⟩ := h
    exact ⟨rfl, .told⟩
  · obtain ⟨rfl, ⟨⟩⟩ := h
    exact ⟨rfl, .refused ‹_›⟩

theorem isReserved_meets {v : IdentifierValue} (hvalue : v.doiName? = some name)
    (hname : service.Plain root name) (hP : P held) :
    (service.isReserved v).Meets (dealing root trouble P)
      (fun x held' => held' = held ∧ Inquired trouble (held name == .draft) x) held := by
  have hanswer : (held name == .draft) = ((held name).state? == some .draft) := by
    cases held name <;> rfl
  rw [hanswer]
  exact question_meets hvalue hname hP (· == some .draft)

theorem isRegistered_meets {v : IdentifierValue} (hvalue : v.doiName? = some name)
    (hname : service.Plain root name) (hP : P held) :
    (service.isRegistered v).Meets (dealing root trouble P) (fun x held' => held' = held ∧
      Inquired trouble (held name == .registered || held name == .findable) x) held := by
  have hanswer : (held name == .registered || held name == .findable) =
      ((held name).state? == some .registered || (held name).state? == some .findable) := by
    cases held name <;> rfl
  rw [hanswer]
  exact question_meets hvalue hname hP fun state => state == some .registered || state == some .findable

end DoiService

end Agency

end IdentifierRegistrar
