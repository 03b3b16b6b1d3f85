import IdentifierRegistrar.Agency.Ark
import IdentifierRegistrar.Agency.Doi

/-!
Connectors: who takes the registrar's calls for a scheme. One that is offline mints values and
agrees to everything without a request. A set of connectors has at most one for each scheme.
-/

namespace IdentifierRegistrar

inductive Connector
  | ark (service : Agency.ArkService)
  | doi (service : Agency.DoiService) (registrant separator : String)
  | offline (minter : Minter)
  deriving DecidableEq, Repr

namespace Connector

open Agency (Call Session)

def scheme : Connector → Scheme
  | ark _ => .dark
  | doi _ _ _ => .doi
  | offline minter => minter.scheme

def perform : Connector → (call : Call) → Session call.Result
  | ark service, .mint _ => service.mint
  | ark service, .change c => service.change c
  | ark _, .isReserved _ | ark _, .isRegistered _ => .done false
  | doi _ registrant separator, .mint record => mintHere (.doi registrant separator) record
  | doi service _ _, .change c => service.change c
  | doi service _ _, .isReserved v => service.isReserved v
  | doi service _ _, .isRegistered v => service.isRegistered v
  | offline minter, .mint record => mintHere minter record
  | offline _, .change _ => .done ()
  | offline _, .isReserved _ | offline _, .isRegistered _ => .done false
where
  mintHere (minter : Minter) (record : RecordId) : Session IdentifierValue :=
    Program.ofExcept ((minter.mint record).mapError .malformedValue)

end Connector

structure Connectors (κ : Type) where
  doi : Option κ
  dark : Option κ

namespace Connectors

variable {κ : Type}

def none : Connectors κ := ⟨.none, .none⟩

def add (set : Connectors κ) (scheme : Scheme) (c : κ) : Connectors κ :=
  match scheme with
  | .doi => { set with doi := some c }
  | .dark => { set with dark := some c }

def get? (set : Connectors κ) : Scheme → Option κ
  | .doi => set.doi
  | .dark => set.dark

def schemes (set : Connectors κ) : List Scheme := Scheme.all.filter fun s => (set.get? s).isSome

def description (set : Connectors κ) : String :=
  let name : Scheme → String
    | .doi => "Doi"
    | .dark => "Dark"
  "Connectors \x7b schemes: [" ++ ", ".intercalate (set.schemes.map name) ++ "] \x7d"

@[simp] theorem get?_add_self (set : Connectors κ) (s : Scheme) (c : κ) :
    (set.add s c).get? s = some c := by cases s <;> rfl

theorem get?_add_of_ne (set : Connectors κ) {s t : Scheme} (h : s ≠ t) (c : κ) :
    (set.add s c).get? t = set.get? t := by
  cases s <;> cases t <;> first | rfl | exact absurd rfl h

end Connectors

end IdentifierRegistrar
