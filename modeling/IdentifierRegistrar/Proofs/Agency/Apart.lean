import IdentifierRegistrar.Proofs.Agency.Released
import IdentifierRegistrar.Proofs.Http.Target
import IdentifierRegistrar.Proofs.Identifier.ReadBack
import IdentifierRegistrar.Proofs.Operation.Contract

/-! Identifiers are told apart on the wire. All requests of a change go to one address, which ends in a
part of the value, and below a plain address different parts make different targets
(`Connector.targets_apart`). A dArk service is told the last part of a value only, so values that share
it share a target (`Connector.ark_target_shared`). -/

namespace IdentifierRegistrar

namespace Program

variable {I : Interface} {ε α β σ : Type} {P : I.Request → Prop} {p : Program I ε α}

/-- Whatever it is answered, a program makes only requests of which `P` holds. -/
def Only (p : Program I ε α) (P : I.Request → Prop) : Prop :=
  p.Meets ⟨fun _ q => P q, fun _ _ _ _ => True⟩ (fun _ _ => True) ()

theorem only_done (a : α) : (done a : Program I ε α).Only P := trivial

theorem only_fail (e : ε) : (fail e : Program I ε α).Only P := trivial

theorem Only.bind {f : α → Program I ε β} (h : p.Only P) (hf : ∀ a, (f a).Only P) : (p >>= f).Only P :=
  Meets.bind h (fun a _ _ => hf a) fun _ _ _ => trivial

theorem Only.mono {P' : I.Request → Prop} (h : p.Only P) (hP : ∀ q, P q → P' q) : p.Only P' :=
  Meets.allow (S := ⟨fun _ q => P q, fun _ _ _ _ => True⟩) (fun _ q => hP q) rfl h

theorem Only.of_asked (h : p.Only P) (answer : Answerer I σ) (s : σ) : ∀ q ∈ p.asked answer s, P q := by
  induction p generalizing s with
  | done a => simp [asked]
  | fail e => simp [asked]
  | ask q next ih =>
    intro q' hq'
    rcases List.mem_cons.1 hq' with rfl | hq'
    · exact h.1
    · exact ih _ (h.2 _ () trivial) _ q' hq'

end Program

namespace Agency

open Program

variable {P : Http.Request → Prop} {q : Http.Request}

def To (url : String) (q : Http.Request) : Prop := q.url = url

theorem To.target? {url : String} (h : To url q) : q.target? = (Url.parse? url).map Url.target := by
  rw [Http.Request.target?, h]

theorem send_only (h : P q) : (send q).Only P := by
  refine ⟨h, fun x _ _ => ?_⟩
  cases x <;> trivial

theorem accept_only (answer : Nat × Http.Body) : (accept answer).Only P := by
  unfold accept
  split
  · exact only_done _
  · exact only_fail _

theorem readBody_only {α : Type} (url : String) (read : Json.Decoder α) (body : Http.Body) :
    (readBody url read body).Only P := by
  unfold readBody
  split
  · exact only_fail _
  · split
    · exact only_done _
    · exact only_fail _

/-- A request whose answer is taken and not read. -/
theorem submit_only (h : P q) :
    (do let _ ← accept (← send q); return () : Session Unit).Only P :=
  (send_only h).bind fun answer => (accept_only answer).bind fun _ => only_done _

namespace ArkService

variable {service : ArkService} {value : IdentifierValue} {first second : String}

def addressOf (service : ArkService) (ark : String) : String :=
  service.base ++ "/core/set/" ++ service.repository ++ "/" ++ ark

theorem set_only (hvalue : value.arkParts? = some (first, second)) (body : Json) :
    (service.set value body).Only (To (service.addressOf second)) := by
  have hurl : service.setUrl value = .done (service.addressOf second) := by rw [setUrl, hvalue]; rfl
  rw [set, hurl]
  exact submit_only rfl

theorem change_only {c : Change} (hvalue : c.value.arkParts? = some (first, second)) :
    (service.change c).Only (To (service.addressOf second)) := by
  cases c with
  | reserve p => exact set_only hvalue _
  | updateMetadata p => exact set_only hvalue _
  | register p =>
    refine (set_only hvalue _).bind fun _ => ?_
    cases p.landingPage with
    | none => exact only_done _
    | some page => exact set_only hvalue _
  | delete v => exact only_done _

end ArkService

namespace DoiService

variable {service : DoiService} {value : IdentifierValue} {name : String}

theorem request_to (method : Http.Method) (body : Option Json) :
    To (service.url name) (service.request method name body) := rfl

theorem state?_only : (service.state? name).Only (To (service.url name)) := by
  refine (send_only (request_to _ _)).bind fun answer => ?_
  split
  · exact only_done _
  · exact (accept_only answer).bind fun body => (readBody_only _ _ body).bind fun _ => only_done _

theorem remove_only : (service.remove name).Only (To (service.url name)) := by
  refine (send_only (request_to _ _)).bind fun answer => ?_
  split
  · exact only_done _
  · exact (accept_only answer).bind fun _ => only_done _

theorem nameOf_only {α : Type} {P : Http.Request → Prop} {f : String → Session α}
    (hvalue : value.doiName? = some name) (hf : (f name).Only P) : (nameOf value >>= f).Only P := by
  rw [nameOf, hvalue]
  exact hf

theorem change_only {c : Change} (hvalue : c.value.doiName? = some name) :
    (service.change c).Only (To (service.url name)) := by
  cases c with
  | reserve p => exact nameOf_only hvalue (submit_only rfl)
  | updateMetadata p => exact nameOf_only hvalue (submit_only rfl)
  | register p => exact nameOf_only hvalue (submit_only rfl)
  | delete v =>
    refine nameOf_only hvalue (state?_only.bind fun state => ?_)
    match state with
    | none => exact only_done _
    | some .draft => exact remove_only
    | some .registered | some .findable | some .unknown => exact submit_only rfl

end DoiService

end Agency

namespace Connector

open Agency (ArkService Change DoiService)

def addressed? : Connector → IdentifierValue → Option String
  | ark _, v => v.arkParts?.map (·.2)
  | doi _ _ _, v => v.doiName?
  | offline _, _ => none

/-- The connectors that talk to a server at a plain address. -/
inductive Remote : Connector → Prop
  | ark {address repository : String} (h : Url.Plain address) (hr : '#' ∉ repository.toList) :
    Remote (.ark (.ofAddress address repository))
  | doi {address registrant separator : String} {name password : Option String} (h : Url.Plain address) :
    Remote (.doi (.ofAddress address name password) registrant separator)

/-- The values that a connector has to tell apart: all, and of dArk those that end differently. -/
def Distinguishes : Connector → IdentifierValue → IdentifierValue → Prop
  | ark _, v, w => v.arkParts?.map (·.2) ≠ w.arkParts?.map (·.2)
  | doi _ _ _, v, w | offline _, v, w => v ≠ w

/-- All requests of the changes to a value have one target: behind a beginning that is the same for all
values, the part of the value as it is spelled. -/
theorem Remote.exists_root {c : Connector} (hc : c.Remote) : ∃ root, ∀ v name,
    c.addressed? v = some name → Url.Legible name.toList → ∃ text, Url.Spells name.toList text ∧
      ∀ d : Change, d.value = v →
        (c.perform (.change d)).Only fun q => q.target? = some (String.ofList (root ++ text)) := by
  cases hc with
  | @ark address repository h hr =>
    have hmiddle : '#' ∉ ("core/set/" ++ repository).toList := by
      simp [String.toList_append, hr]
    obtain ⟨root, hroot⟩ := h.exists_root hmiddle
    refine ⟨root, fun v name hname hlegible => ?_⟩
    obtain ⟨⟨first, second⟩, hparts, rfl⟩ := Option.map_eq_some_iff.1 hname
    obtain ⟨text, hspells, htarget⟩ := hroot second hlegible
    refine ⟨text, hspells, fun d hd => ?_⟩
    subst hd
    have hurl : (ArkService.ofAddress address repository).addressOf second =
        Text.dropSlashes address ++ String.ofList ('/' :: ("core/set/" ++ repository).toList) ++ "/" ++
          second := by
      simp [ArkService.addressOf, ArkService.ofAddress, String.ext_iff]
    exact (ArkService.change_only hparts).mono fun q hq => by rw [hq.target?, hurl, htarget]
  | @doi address registrant separator username password h =>
    have hmiddle : '#' ∉ "dois".toList := by decide
    obtain ⟨root, hroot⟩ := h.exists_root hmiddle
    refine ⟨root, fun v name hname hlegible => ?_⟩
    obtain ⟨text, hspells, htarget⟩ := hroot name hlegible
    refine ⟨text, hspells, fun d hd => ?_⟩
    subst hd
    have hurl : (DoiService.ofAddress address username password).url name =
        Text.dropSlashes address ++ String.ofList ('/' :: "dois".toList) ++ "/" ++ name := by
      simp [DoiService.url, DoiService.ofAddress, String.ext_iff]
    exact (DoiService.change_only hname).mono fun q hq => by rw [hq.target?, hurl, htarget]

theorem Remote.exists_addressed {c : Connector} (hc : c.Remote) {v : IdentifierValue}
    (hv : v.scheme = c.scheme) : ∃ name, c.addressed? v = some name := by
  cases hc with
  | ark h hr =>
    obtain ⟨first, second, hparts⟩ := IdentifierValue.exists_arkParts hv
    exact ⟨second, by rw [addressed?, hparts, Option.map_some]⟩
  | doi h => exact IdentifierValue.exists_doiName hv

theorem Remote.addressed?_ne {c : Connector} (hc : c.Remote) {v w : IdentifierValue}
    (hv : v.scheme = c.scheme) (hne : c.Distinguishes v w) : c.addressed? v ≠ c.addressed? w := by
  cases hc with
  | ark h hr => exact hne
  | doi h =>
    obtain ⟨name, hname⟩ := IdentifierValue.exists_doiName hv
    intro heq
    exact hne (IdentifierValue.doiName?_injective hname (heq.symm.trans hname))

/-- No change to one identifier is sent to where a change to another is sent. Every request of the one
and every request of the other have a target, and the targets differ, whatever the servers answer. The
values are read off their addresses as they were written: each is legible, and neither writes out the
escape of a character that the other holds. -/
theorem targets_apart {c : Connector} (hc : c.Remote) {v w : IdentifierValue} (hv : v.scheme = c.scheme)
    (hw : w.scheme = c.scheme) (hne : c.Distinguishes v w)
    (hread : ∀ name ∈ c.addressed? v, ∀ name' ∈ c.addressed? w, Url.Legible name.toList ∧
      Url.Legible name'.toList ∧ Url.Unmixed name.toList name'.toList)
    {d d' : Change} (hd : d.value = v) (hd' : d'.value = w) {σ τ : Type}
    (server : Answerer Http.interface σ) (s : σ) (server' : Answerer Http.interface τ) (t : τ) :
    ∀ q ∈ (c.perform (.change d)).asked server s, ∀ q' ∈ (c.perform (.change d')).asked server' t,
      ∃ target target', q.target? = some target ∧ q'.target? = some target' ∧ target ≠ target' := by
  obtain ⟨root, hroot⟩ := hc.exists_root
  obtain ⟨name, hname⟩ := hc.exists_addressed hv
  obtain ⟨name', hname'⟩ := hc.exists_addressed hw
  obtain ⟨hlegible, hlegible', hmixed⟩ := hread name hname name' hname'
  obtain ⟨text, hspells, honly⟩ := hroot v name hname hlegible
  obtain ⟨text', hspells', honly'⟩ := hroot w name' hname' hlegible'
  intro q hq q' hq'
  refine ⟨_, _, (honly d hd).of_asked server s q hq, (honly' d' hd').of_asked server' t q' hq', ?_⟩
  intro heq
  have htext : text = text' := by simpa using congrArg String.toList heq
  subst htext
  have hsame : name = name' := String.ext_iff.2 (hspells.eq hspells' hmixed)
  exact hc.addressed?_ne hv hne (by rw [hname, hname', hsame])

def localDoi : Connector := .doi (.ofAddress "http://[::1]" none none) "10.1" "."

def spacedDoi : IdentifierValue := ⟨.doi, "doi:10.1/low tide", by decide⟩

def dashedDoi : IdentifierValue := ⟨.doi, "doi:10.1/low-tide", by decide⟩

def unanswered : Answerer Http.interface Unit := fun _ s => (.refused, s)

def reservation (c : Connector) (value : IdentifierValue) : List Http.Request :=
  (c.perform (.change (.reserve (.bare value)))).asked unanswered ()

/-- Reservations of two names that differ by a blank go to different targets. -/
theorem doi_targets_apart : localDoi.Remote ∧ localDoi.Distinguishes spacedDoi dashedDoi ∧
    ∃ q ∈ localDoi.reservation spacedDoi, ∃ q' ∈ localDoi.reservation dashedDoi,
      ∃ target target', q.target? = some target ∧ q'.target? = some target' ∧ target ≠ target' := by
  have hremote : localDoi.Remote := .doi (by decide +kernel)
  have hne : localDoi.Distinguishes spacedDoi dashedDoi := show spacedDoi ≠ dashedDoi by decide
  obtain ⟨q, hq⟩ : ∃ q, q ∈ localDoi.reservation spacedDoi := ⟨_, List.mem_singleton.2 rfl⟩
  obtain ⟨q', hq'⟩ : ∃ q, q ∈ localDoi.reservation dashedDoi := ⟨_, List.mem_singleton.2 rfl⟩
  refine ⟨hremote, hne, q, hq, q', hq',
    targets_apart hremote rfl rfl hne (fun name hname name' hname' => ?_) rfl rfl _ _ _ _ q hq q' hq'⟩
  obtain rfl : "10.1/low tide" = name := Option.some.inj hname
  obtain rfl : "10.1/low-tide" = name' := Option.some.inj hname'
  exact ⟨by decide +kernel, by decide +kernel, Url.unmixed_of_no_percent (by decide) (by decide)⟩

def Reserves (c : Connector) (value : IdentifierValue) (target : String) : Prop :=
  ∃ q ∈ c.reservation value, q.method ≠ .get ∧ q.target? = some target

instance (c : Connector) (value : IdentifierValue) (target : String) :
    Decidable (c.Reserves value target) :=
  inferInstanceAs (Decidable (∃ q ∈ c.reservation value, q.method ≠ .get ∧ q.target? = some target))

def localArk : Connector := .ark (.ofAddress "http://[::1]" "r")

def eastArk : IdentifierValue := ⟨.dark, "dark:/east/tide", by decide⟩

def westArk : IdentifierValue := ⟨.dark, "dark:/west/tide", by decide⟩

/-- DOIs that are not read off an address as they were written, the DOIs that they are read for, and
where both are sent. -/
def misread : List (IdentifierValue × IdentifierValue × String) :=
  [(⟨.doi, "doi:10.1/tide#low", by decide⟩, ⟨.doi, "doi:10.1/tide", by decide⟩, "/dois/10.1/tide"),
   (⟨.doi, "doi:10.1/low\\tide", by decide⟩, ⟨.doi, "doi:10.1/low/tide", by decide⟩, "/dois/10.1/low/tide"),
   (⟨.doi, "doi:10.1/low\ttide", by decide⟩, ⟨.doi, "doi:10.1/lowtide", by decide⟩, "/dois/10.1/lowtide"),
   (⟨.doi, "doi:10.1/tide ", by decide⟩, ⟨.doi, "doi:10.1/tide", by decide⟩, "/dois/10.1/tide"),
   (⟨.doi, "doi:10.1/low/../tide", by decide⟩, ⟨.doi, "doi:10.1/tide", by decide⟩, "/dois/10.1/tide"),
   (⟨.doi, "doi:10.1/low%20tide", by decide⟩, spacedDoi, "/dois/10.1/low%20tide")]

/-- Without these conditions targets are shared. The dArk service knows an ark by its last part, so what
is sent for another that ends alike goes to the same place; so does what is sent for a DOI that its
address spells like another. -/
theorem targets_shared :
    (eastArk ≠ westArk ∧ localArk.Reserves eastArk "/core/set/r/tide" ∧
      localArk.Reserves westArk "/core/set/r/tide") ∧
    ∀ p ∈ misread, p.1 ≠ p.2.1 ∧ localDoi.Reserves p.1 p.2.2 ∧ localDoi.Reserves p.2.1 p.2.2 := by
  decide +kernel

end Connector

end IdentifierRegistrar
