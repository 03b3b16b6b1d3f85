import IdentifierRegistrar.Agency.Doi
import Mathlib.Logic.Function.Basic

/-! A DOI agency as it is seen through its requests. For each name it holds nothing, a draft, or a
DOI that is registered or findable. A request may be lost, may be applied without an answer that
says so, may be refused, or is applied and answered (`Serves`). -/

namespace IdentifierRegistrar

namespace Agency

inductive Holding
  | absent
  | draft
  | registered
  | findable
  deriving DecidableEq, Repr

abbrev Holdings := String → Holding

def DoiEvent.ofTag? (tag : String) : Option DoiEvent := [publish, hide].find? (·.tag == tag)

def eventOf (document : Json) : Option DoiEvent := do
  let attributes ← (← document.get? "data").get? "attributes"
  DoiEvent.ofTag? (← (← attributes.get? "event").string?)

namespace Holding

/-- The state by which it is reported; none if there is nothing to report. -/
def state? : Holding → Option DoiState
  | absent => none
  | draft => some .draft
  | registered => some .registered
  | findable => some .findable

/-- Without an event a name that is not held becomes a draft. Publishing makes it findable, and
hiding takes a public one back. -/
def put (h : Holding) : Option DoiEvent → Holding
  | none => if h = absent then draft else h
  | some .publish => findable
  | some .hide => if h = findable then registered else h

def remove (h : Holding) : Holding := if h = draft then absent else h

def after (h : Holding) (q : Http.Request) : Holding :=
  match q.method with
  | .put => h.put (q.body.bind eventOf)
  | .delete => h.remove
  | .get | .post => h

def change (h : Holding) : Change → Holding
  | .reserve _ | .updateMetadata _ => h.put none
  | .register _ => h.put (some .publish)
  | .delete _ => if h = draft then h.remove else h.put (some .hide)

end Holding

def Member (v : Json) (key : String) (w : Json) : Prop :=
  ∃ before after, v = .object (before ++ (key, w) :: after) ∧ key ∉ (before ++ after).map (·.1)

def Tells (body : Http.Body) (state : DoiState) : Prop :=
  ∃ text v data attributes, body.text? = some text ∧ Json.parse? text = some v ∧
    Member v "data" data ∧ Member data "attributes" attributes ∧
    Member attributes "state" (.string state.tag)

/-- A refusal that says no more than that. A 404 says that nothing is held, and a 429 that the request
may be made again. -/
def Refused (status : Nat) : Prop :=
  400 ≤ status ∧ status < 500 ∧ status ≠ Http.notFound ∧ status ≠ Http.tooManyRequests

/-- A reply that does not say whether the request was applied. -/
inductive Mute : Http.Reply → Prop
  | timedOut : Mute .timedOut
  | refused : Mute .refused
  | failed : Mute .failed
  | fault {status : Nat} {body : Http.Body}
    (h : Http.isServerError status = true ∨ status = Http.tooManyRequests) : Mute (.answer status body)

inductive Answered (q : Http.Request) (h : Holding) : Nat → Http.Body → Prop
  | put {status : Nat} {body : Http.Body} (hq : q.method = .put)
    (hs : Http.isSuccess status = true) : Answered q h status body
  | removed {status : Nat} {body : Http.Body} (hq : q.method = .delete) (hh : h = .draft)
    (hs : Http.isSuccess status = true) : Answered q h status body
  | kept {status : Nat} {body : Http.Body} (hq : q.method = .delete)
    (hh : h = .registered ∨ h = .findable) (hs : Refused status) : Answered q h status body
  | unknown {body : Http.Body} (hq : q.method = .delete ∨ q.method = .get) (hh : h = .absent) :
    Answered q h Http.notFound body
  | told {status : Nat} {body : Http.Body} {state : DoiState} (hq : q.method = .get)
    (hh : h.state? = some state) (hs : Http.isSuccess status = true) (hbody : Tells body state) :
    Answered q h status body

/-- The request is about a name: the agency keeps its DOIs below the path `root`. -/
def Names (root : String) (q : Http.Request) (name : String) : Prop :=
  q.target? = some (root ++ "/dois/" ++ name)

/-- What becomes of a request, and of what the agency holds. Without `trouble` each is applied and
answered. A request that has no address is not sent, and one about no name changes nothing. -/
inductive Serves (root : String) (trouble : Prop) (held : Holdings) (q : Http.Request) :
    Http.Reply → Holdings → Prop
  | unsent (hq : q.target? = none) : Serves root trouble held q .failed held
  | elsewhere {x : Http.Reply} (hq : ∀ name, ¬ Names root q name) : Serves root trouble held q x held
  | lost {x : Http.Reply} (ht : trouble) (hx : Mute x) : Serves root trouble held q x held
  | muted {name : String} {x : Http.Reply} (ht : trouble) (hq : Names root q name) (hx : Mute x) :
    Serves root trouble held q x (Function.update held name ((held name).after q))
  | cut {status : Nat} (ht : trouble) (hq : q.method = .get) (hs : Http.isSuccess status = true) :
    Serves root trouble held q (.answer status .cut) held
  | refused {status : Nat} {body : Http.Body} (ht : trouble)
    (hs : Refused status ∨ q.method = .put ∧ status = Http.notFound) :
    Serves root trouble held q (.answer status body) held
  | answered {name : String} {status : Nat} {body : Http.Body} (hq : Names root q name)
    (hx : Answered q (held name) status body) :
    Serves root trouble held q (.answer status body) (Function.update held name ((held name).after q))

theorem Names.name_eq {root : String} {q : Http.Request} {m n : String} (h : Names root q m)
    (h' : Names root q n) : m = n := by
  have heq := Option.some.inj (h.symm.trans h')
  have hlist := congrArg String.toList heq
  simp only [String.toList_append, List.append_cancel_left_eq] at hlist
  exact String.ext_iff.2 hlist

end Agency

end IdentifierRegistrar
