import IdentifierRegistrar.Text.Base32

/-!
Lexicographically sortable ids: 128-bit numbers written as 26 base-32 digits. The first digit
carries three bits only; what a larger first digit has above them is dropped.
-/

namespace IdentifierRegistrar

abbrev Ulid := BitVec 128

namespace Ulid

inductive ParseError
  | length
  | character
  deriving DecidableEq, Repr

def ParseError.message : ParseError → String
  | length => "invalid length"
  | character => "invalid character"

def chars (u : Ulid) : List Char := (Radix.toDigits 32 26 u.toNat).map Base32.symbol

def text (u : Ulid) : String := String.ofList u.chars

/-- The length is counted in bytes and decides before any character does. -/
def parse (cs : List Char) : Except ParseError Ulid :=
  if (String.ofList cs).utf8ByteSize ≠ 26 then .error .length
  else
    match cs.mapM Base32.digit? with
    | none => .error .character
    | some digits => .ok (BitVec.ofNat 128 (Radix.ofDigits 32 digits))

end Ulid

end IdentifierRegistrar
