import IdentifierRegistrar.Proofs.Agency.Apart
import IdentifierRegistrar.Proofs.Identifier.Parts

/-! Arks that a dArk service hands out. A mint asks once, and what it makes of the ark in the answer is a
matter of the ark's text: blanks around it and slashes before it are dropped, and an ark without a part of
its own is put below the part of the repository (`ArkService.mint_run`). The value then has the ark as its
second part, and that is the ark that is addressed later. It is otherwise with an ark of slashes only, of
which nothing is left: below a part that holds a slash it still makes a value (`ArkService.mint_follows_iff`,
`ArkService.slash_minted`). -/

namespace IdentifierRegistrar

namespace Program

variable {I : Interface} {ε α β σ : Type} {p : Program I ε α}

def Silent (p : Program I ε α) : Prop := ∃ x, p = ofExcept x

theorem silent_done (a : α) : (done a : Program I ε α).Silent := ⟨.ok a, rfl⟩

theorem silent_fail (e : ε) : (fail e : Program I ε α).Silent := ⟨.error e, rfl⟩

theorem silent_ofExcept (x : Except ε α) : (ofExcept x : Program I ε α).Silent := ⟨x, rfl⟩

theorem Silent.bind {f : α → Program I ε β} (h : p.Silent) (hf : ∀ a, (f a).Silent) : (p >>= f).Silent := by
  obtain ⟨x, rfl⟩ := h
  cases x with
  | ok a => exact hf a
  | error e => exact silent_fail e

theorem Silent.asked (h : p.Silent) (answer : Answerer I σ) (s : σ) : p.asked answer s = [] := by
  obtain ⟨x, rfl⟩ := h
  cases x <;> rfl

theorem run_ofExcept (x : Except ε α) (answer : Answerer I σ) (s : σ) :
    (ofExcept x : Program I ε α).run answer s = (x, s) := by
  cases x <;> rfl

end Program

/-- Behind a first character that is not `c`, the places of `c` are as many. -/
theorem Text.mem_tail_dropLast_iff {cs : List Char} {c : Char} (h : cs.head? ≠ some c) :
    c ∈ cs.tail.dropLast ↔ c ∈ cs.dropLast := by
  cases cs with
  | nil => simp
  | cons d rest =>
    have hd : c ≠ d := by
      rintro rfl
      exact h rfl
    by_cases hrest : rest = []
    · simp [hrest]
    · simp [List.dropLast_cons_of_ne_nil hrest, hd]

namespace Agency

open Program

variable {α σ : Type} {q : Http.Request}

theorem accept_silent (answer : Nat × Http.Body) : (accept answer).Silent := by
  unfold accept
  split
  · exact silent_done _
  · exact silent_fail _

theorem readBody_silent (url : String) (read : Json.Decoder α) (body : Http.Body) :
    (readBody url read body).Silent := by
  unfold readBody
  split
  · exact silent_fail _
  · split
    · exact silent_done _
    · exact silent_fail _

theorem send_asked {f : Nat × Http.Body → Session α} (hf : ∀ answer, (f answer).Silent)
    (server : Answerer Http.interface σ) (s : σ) : (send q >>= f).asked server s = [q] := by
  refine congrArg (q :: ·) ?_
  cases (server q s).1 with
  | answer status body => exact (hf _).asked _ _
  | timedOut => rfl
  | refused => rfl
  | failed => rfl

theorem send_run {server : Answerer Http.interface σ} {s : σ} {status : Nat} {body : Http.Body}
    (h : (server q s).1 = .answer status body) :
    (send q).run server s = (.ok (status, body), (server q s).2) := by
  have hrequest : (Program.request q : Session (Http.interface.Reply q)).run server s =
      (.ok (.answer status body), (server q s).2) := by
    rw [← h]
    rfl
  rw [send, run_bind, hrequest]
  rfl

namespace ArkService

variable {service : ArkService} {ark : String} {value : IdentifierValue}

def newArk (service : ArkService) : Http.Request :=
  request .post (service.base ++ "/core/new") (some (.object [])) none

/-- A successful answer that can be read and holds an ark. -/
inductive HandsOut : Http.Reply → String → Prop
  | intro {status : Nat} {body : Http.Body} {text ark : String} (hstatus : Http.isSuccess status = true)
    (htext : body.text? = some text) (hark : (Json.parse? text).map readArk = some (.ok ark)) :
    HandsOut (.answer status body) ark

/-- The ark without blanks around it and then without slashes before it. -/
def stripped (ark : String) : String :=
  String.ofList ((Text.trimChars ark.toList).dropWhile (· == '/'))

def valueText (service : ArkService) (ark : String) : String :=
  if '/' ∈ ark.toList then "dark:/" ++ ark else "dark:/" ++ service.repository ++ "/" ++ ark

def made (service : ArkService) (ark : String) : Except AgencyError IdentifierValue :=
  (IdentifierValue.parse (service.valueText ark)).mapError .malformedValue

theorem valueOfArk_eq (service : ArkService) (ark : String) :
    service.valueOfArk ark = IdentifierValue.parse (service.valueText (stripped ark)) := by
  unfold valueOfArk valueText stripped
  simp only [String.toList_ofList]
  split
  · rfl
  · rfl

theorem createNew_eq (service : ArkService) : service.createNew = send service.newArk >>= fun answer => do
    let ark ← readBody service.newArk.url readArk (← accept answer)
    if Text.isBlank ark then .fail (.unreachable ("empty ark in response from " ++ service.newArk.url))
    else return ark := rfl

theorem mint_asked (server : Answerer Http.interface σ) (s : σ) :
    service.mint.asked server s = [service.newArk] := by
  rw [mint, createNew_eq, bind_assoc]
  refine send_asked (fun answer => Silent.bind ?_ fun ark => silent_ofExcept _) server s
  refine (accept_silent answer).bind fun body => (readBody_silent _ _ body).bind fun ark => ?_
  split
  · exact silent_fail _
  · exact silent_done _

theorem createNew_run {server : Answerer Http.interface σ} {s : σ}
    (h : HandsOut (server service.newArk s).1 ark) : (service.createNew.run server s).1 =
      if Text.isBlank ark then .error (.unreachable ("empty ark in response from " ++ service.newArk.url))
      else .ok ark := by
  obtain ⟨reply, hreply⟩ : ∃ reply, (server service.newArk s).1 = reply := ⟨_, rfl⟩
  rw [hreply] at h
  obtain ⟨hstatus, htext, hark⟩ := h
  rw [createNew_eq, run_bind, send_run hreply]
  simp only [accept, hstatus, if_true, done_bind, readBody, htext, hark]
  split
  · rfl
  · rfl

/-- What a mint comes to once an ark is handed out. -/
theorem mint_run {server : Answerer Http.interface σ} {s : σ}
    (h : HandsOut (server service.newArk s).1 ark) : (service.mint.run server s).1 =
      if Text.isBlank ark then .error (.unreachable ("empty ark in response from " ++ service.newArk.url))
      else service.made (stripped ark) := by
  have hark := createNew_run h
  rw [mint, run_bind, made, ← valueOfArk_eq]
  obtain ⟨x, s', hrun⟩ : ∃ x s', service.createNew.run server s = (x, s') := ⟨_, _, rfl⟩
  rw [hrun] at hark ⊢
  by_cases hblank : Text.isBlank ark = true
  · rw [if_pos hblank] at hark ⊢
    obtain rfl : x = _ := hark
    rfl
  · rw [if_neg hblank] at hark ⊢
    obtain rfl : x = _ := hark
    exact congrArg Prod.fst (run_ofExcept _ server s')

theorem lead_valueText (service : ArkService) (ark : String) :
    Scheme.dark.lead.toList <+: (service.valueText ark).toList := by
  unfold valueText
  split
  · simp [Scheme.lead]
  · simp [Scheme.lead]

theorem parse_of_made (h : service.made ark = .ok value) :
    IdentifierValue.parse (service.valueText ark) = .ok value := by
  unfold made at h
  cases hparse : IdentifierValue.parse (service.valueText ark) with
  | ok v =>
    rw [hparse] at h
    exact congrArg _ (Except.ok.inj h)
  | error e =>
    rw [hparse] at h
    cases h

theorem made_eq_ok_iff : service.made ark = .ok value ↔ value.text = service.valueText ark := by
  constructor
  · intro h
    exact IdentifierValue.text_of_parse (parse_of_made h)
  · intro h
    rw [made, ← h, IdentifierValue.parse_text]
    rfl

theorem made_malformed_iff : (∃ cause, service.made ark = .error (.malformedValue cause)) ↔
    ¬ Scheme.dark.Writes (service.valueText ark) := by
  rw [← IdentifierValue.exists_parse_iff (service.lead_valueText ark)]
  unfold made
  cases IdentifierValue.parse (service.valueText ark) <;> simp [Except.mapError]

theorem head_stripped (ark : String) : (stripped ark).toList.head? ≠ some '/' := by
  intro h
  rw [stripped, String.toList_ofList] at h
  have hdrop := List.head?_dropWhile_not (· == '/') (Text.trimChars ark.toList)
  rw [h] at hdrop
  simp at hdrop

/-- By the look of it no value can be made of a stripped ark: it is not on one line, its only slash is at
its end, or it has no slash and is empty or is to be put below a part that is empty or not on one line. -/
def Unfit (service : ArkService) (ark : String) : Prop :=
  '\n' ∈ ark.toList ∨
    if '/' ∈ ark.toList then '/' ∉ ark.toList.dropLast
    else ark = "" ∨ service.repository = "" ∨ '\n' ∈ service.repository.toList

/-- Nothing is left of the ark, and the repository's part makes a value without it. -/
def Vanishes (service : ArkService) (ark : String) : Prop :=
  ark = "" ∧ '\n' ∉ service.repository.toList ∧ '/' ∈ service.repository.toList.tail

/-- The text is that of a value if the ark looks like it, and also where the ark vanishes. -/
theorem writes_valueText_iff (hhead : ark.toList.head? ≠ some '/') :
    Scheme.dark.Writes (service.valueText ark) ↔ ¬ service.Unfit ark ∨ service.Vanishes ark := by
  unfold valueText Unfit Vanishes
  by_cases hslash : '/' ∈ ark.toList
  · have hne : ark ≠ "" := by
      rintro rfl
      simp at hslash
    rw [if_pos hslash, if_pos hslash, Scheme.dark_writes_iff, Text.mem_tail_dropLast_iff hhead]
    simp [hne]
  · rw [if_neg hslash, if_neg hslash, Scheme.dark_writes_pair_iff hslash]
    by_cases hempty : ark = ""
    · simp [hempty]
    · simp only [hempty, if_false, false_or, false_and, or_false, not_or]
      tauto

/-- All that is sent about the value is posted to that address, one request for each set. -/
structure PostsTo (service : ArkService) (value : IdentifierValue) (url : String) : Prop where
  set : ∀ (body : Json) {σ : Type} (server : Answerer Http.interface σ) (s : σ),
    (service.set value body).asked server s = [request .post url (some body) none]
  change : ∀ c : Change, c.value = value → (service.change c).Only (To url)

theorem postsTo_address {first second : String} (h : value.arkParts? = some (first, second)) :
    service.PostsTo value (service.addressOf second) where
  set body _ server s := by
    have hurl : service.setUrl value = .done (service.addressOf second) := by rw [setUrl, h]; rfl
    rw [ArkService.set, hurl]
    exact send_asked (fun answer => (accept_silent answer).bind fun _ => silent_done _) server s
  change c hc := change_only (hc ▸ h)

/-- How a stripped ark should fare: it is refused for its looks only, and the value of an ark without a part
of its own has the ark as its second part, and is addressed by it. -/
structure Follows (service : ArkService) (ark : String) (x : Except AgencyError IdentifierValue) : Prop where
  malformed : (∃ cause, x = .error (.malformedValue cause)) ↔ service.Unfit ark
  addressed : ∀ v, x = .ok v → '/' ∉ ark.toList → v.arkParts? = some (service.repository, ark) ∧
    service.PostsTo v (service.addressOf ark)

theorem arkParts?_of_made (h : service.made ark = .ok value) (hfit : ¬ service.Unfit ark)
    (hslash : '/' ∉ ark.toList) : value.arkParts? = some (service.repository, ark) := by
  have htext : value.text = "dark:/" ++ service.repository ++ "/" ++ ark := by
    rw [made_eq_ok_iff.1 h, valueText, if_neg hslash]
  rw [Unfit, if_neg hslash, not_or, not_or, not_or] at hfit
  obtain ⟨-, hark, hrepository, -⟩ := hfit
  refine IdentifierValue.arkParts?_eq_some_iff.2 ⟨?_, ⟨htext, hrepository, hark⟩, fun hmem => ?_⟩
  · exact IdentifierValue.scheme_of_parse (service.lead_valueText ark) (parse_of_made h)
  · exact hslash ((List.dropLast_sublist _).mem hmem)

theorem follows_made_iff (hhead : ark.toList.head? ≠ some '/') :
    service.Follows ark (service.made ark) ↔ ¬ service.Vanishes ark := by
  have hwrites : Scheme.dark.Writes (service.valueText ark) ↔ ¬ service.Unfit ark ∨ service.Vanishes ark :=
    writes_valueText_iff hhead
  constructor
  · intro hfollows hvanishes
    have hunfit : service.Unfit ark := by simp [Unfit, hvanishes.1]
    exact made_malformed_iff.1 (hfollows.malformed.2 hunfit) (hwrites.2 (.inr hvanishes))
  · intro hstays
    have hfit : Scheme.dark.Writes (service.valueText ark) ↔ ¬ service.Unfit ark := by
      rw [hwrites, or_iff_left hstays]
    refine ⟨by rw [made_malformed_iff, hfit, not_not], fun v hv hslash => ?_⟩
    have hmade : Scheme.dark.Writes (service.valueText ark) :=
      (IdentifierValue.exists_parse_iff (service.lead_valueText ark)).1 ⟨v, parse_of_made hv⟩
    have hparts := arkParts?_of_made hv (hfit.1 hmade) hslash
    exact ⟨hparts, postsTo_address hparts⟩

/-- Minting from an ark, for every part of the repository and every server. One request is made, for a
fresh ark, and its answer is what the client's `send` comes to (`Http.Reply`). A blank ark in a successful
answer counts as no answer; of every other one the value has the ark's text, behind the repository's part if
it brings none, and it is malformed exactly if that is no dArk value's text. The ark fares as it should if and
only if it does not vanish. -/
theorem mint_follows_iff (service : ArkService) {σ : Type} (server : Answerer Http.interface σ) (s : σ) :
    service.mint.asked server s = [service.newArk] ∧
    ∀ ark, HandsOut (server service.newArk s).1 ark →
      (Text.isBlank ark = true →
        ∃ reason, (service.mint.run server s).1 = .error (.unreachable reason)) ∧
      (Text.isBlank ark = false →
        (∀ v, (service.mint.run server s).1 = .ok v ↔ v.text = service.valueText (stripped ark)) ∧
        ((∃ cause, (service.mint.run server s).1 = .error (.malformedValue cause)) ↔
          ¬ Scheme.dark.Writes (service.valueText (stripped ark))) ∧
        (service.Follows (stripped ark) (service.mint.run server s).1 ↔
          ¬ service.Vanishes (stripped ark))) := by
  refine ⟨mint_asked server s, fun ark hark => ⟨fun hblank => ?_, fun hblank => ?_⟩⟩
  · exact ⟨_, by rw [mint_run hark, if_pos hblank]⟩
  · have hrun : (service.mint.run server s).1 = service.made (stripped ark) := by
      rw [mint_run hark, hblank]
      rfl
    rw [hrun]
    exact ⟨fun v => made_eq_ok_iff, made_malformed_iff, follows_made_iff (head_stripped ark)⟩

def handed (ark : String) : Json := .object [("ark", .string ark)]

def handing (ark : String) : Answerer Http.interface Unit := fun _ s =>
  (.answer 200 (.whole (handed ark).render.toUTF8.toList), s)

def nested : ArkService := .ofAddress "http://[::1]" "low/tide"

/-- An ark with a slash before it and blanks around it is the second part of its value. -/
theorem nested_minted : HandsOut (handing " /x7k2 " nested.newArk ()).1 " /x7k2 " ∧
    Text.isBlank " /x7k2 " = false ∧ ∃ v, (nested.mint.run (handing " /x7k2 ") ()).1 = .ok v ∧
      v.arkParts? = some ("low/tide", "x7k2") ∧ nested.PostsTo v (nested.addressOf "x7k2") := by
  have htext : (Http.Body.whole (handed " /x7k2 ").render.toUTF8.toList).text? =
      some (handed " /x7k2 ").render := by decide +kernel
  have hark : HandsOut (handing " /x7k2 " nested.newArk ()).1 " /x7k2 " :=
    .intro rfl htext (by decide +kernel)
  have hblank : Text.isBlank " /x7k2 " = false := by decide +kernel
  have hstripped : stripped " /x7k2 " = "x7k2" := by decide +kernel
  obtain ⟨hok, -, hfollows⟩ := ((mint_follows_iff nested (handing " /x7k2 ") ()).2 _ hark).2 hblank
  have hrun := (hok ⟨.dark, "dark:/low/tide/x7k2", by decide +kernel⟩).2 (by decide +kernel)
  rw [hstripped] at hfollows
  have hstays : ¬ nested.Vanishes "x7k2" := fun h => absurd h.1 (by decide)
  obtain ⟨hparts, hposts⟩ := (hfollows.2 hstays).addressed _ hrun (by decide)
  exact ⟨hark, hblank, _, hrun, hparts, hposts⟩

/-- An ark of one slash is not blank, and nothing is left of it. Below a part that holds a slash a value is
made all the same; its second part is the end of the repository's, and that is addressed. -/
theorem slash_minted : HandsOut (handing "/" nested.newArk ()).1 "/" ∧ Text.isBlank "/" = false ∧
    stripped "/" = "" ∧ ∃ v, (nested.mint.run (handing "/") ()).1 = .ok v ∧
      v.text = "dark:/low/tide/" ∧ v.arkParts? = some ("low", "tide/") ∧
      nested.PostsTo v (nested.addressOf "tide/") ∧
      ¬ nested.Follows "" (nested.mint.run (handing "/") ()).1 := by
  have htext : (Http.Body.whole (handed "/").render.toUTF8.toList).text? = some (handed "/").render := by
    decide +kernel
  have hark : HandsOut (handing "/" nested.newArk ()).1 "/" := .intro rfl htext (by decide +kernel)
  have hblank : Text.isBlank "/" = false := by decide +kernel
  have hstripped : stripped "/" = "" := by decide +kernel
  have hrun : (nested.mint.run (handing "/") ()).1 = nested.made "" := by
    rw [mint_run hark, hblank, hstripped]
    rfl
  let v : IdentifierValue := ⟨.dark, "dark:/low/tide/", by decide +kernel⟩
  have hmade : nested.made "" = .ok v := made_eq_ok_iff.2 (by decide +kernel)
  have hparts : v.arkParts? = some ("low", "tide/") := by decide +kernel
  refine ⟨hark, hblank, hstripped, v, by rw [hrun, hmade], rfl, hparts, postsTo_address hparts, ?_⟩
  rw [hrun, follows_made_iff (by decide), not_not]
  exact ⟨rfl, by decide +kernel, by decide +kernel⟩

end ArkService

end Agency

end IdentifierRegistrar
