import IdentifierRegistrar.Identifier.Error

/-!
The ids that the registrar gives out itself: a tag for the kind of thing, an underscore and a
ULID. Two kinds never share a text, and one id has one written form.
-/

namespace IdentifierRegistrar

inductive IdKind
  | record
  | request
  deriving DecidableEq, Repr

def IdKind.tag : IdKind → String
  | record => "pid"
  | request => "req"

structure LocalId (kind : IdKind) where
  ulid : Ulid
  deriving DecidableEq, Repr

abbrev RecordId := LocalId .record

abbrev RequestId := LocalId .request

namespace LocalId

variable {kind : IdKind}

def text (id : LocalId kind) : String := kind.tag ++ "_" ++ id.ulid.text

/-- The ULID in lower case, as it is put into identifier values. -/
def suffix (id : LocalId kind) : String := String.ofList (id.ulid.chars.map Char.toLower)

def le (a b : LocalId kind) : Bool := a.ulid ≤ b.ulid

def parse (kind : IdKind) (s : String) : Except IdError (LocalId kind) :=
  if s.isEmpty then .error .empty
  else
    match Text.cutFirst '_' s.toList with
    | none => .error .missingSeparator
    | some (tag, rest) =>
      if String.ofList tag ≠ kind.tag then .error (.invalidTag kind.tag (String.ofList tag))
      else
        match Ulid.parse rest with
        | .ok ulid => .ok ⟨ulid⟩
        | .error cause => .error (.invalidUlid cause)

end LocalId

end IdentifierRegistrar
