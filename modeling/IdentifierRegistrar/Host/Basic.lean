import IdentifierRegistrar.Host.Address
import IdentifierRegistrar.Host.Name
import IdentifierRegistrar.Text.Utf8

/-! Hosts as an address of the web names them: by a name, or by an address in numbers. -/

namespace IdentifierRegistrar

inductive Host
  | name (s : String)
  /-- An address of 32 bits. -/
  | short (n : Nat)
  /-- An address of 128 bits, by its groups. -/
  | long (groups : List Nat)
  deriving DecidableEq, Repr

namespace Host

def byte? : List Char → Option Nat
  | a :: b :: _ => do return 16 * (← Hex.digit? a) + (← Hex.digit? b)
  | _ => none

/-- The bytes of a text, with each `%` and two digits as one byte; the next `skip` characters have
been read. -/
def percentBytes : (skip : Nat) → List Char → List UInt8
  | _, [] => []
  | skip + 1, _ :: rest => percentBytes skip rest
  | 0, c :: rest =>
    match if c = '%' then byte? rest else none with
    | some n => UInt8.ofNat n :: percentBytes 2 rest
    | none => String.utf8EncodeChar c ++ percentBytes 0 rest

def parse? (cs : List Char) : Option Host :=
  match cs with
  | '[' :: rest =>
    if rest.getLast? = some ']' then (readLong? rest.dropLast).map .long else none
  | cs => do
    let name ← readName? (Utf8.decode (percentBytes 0 cs)).toList
    if name = [] then none
    else if endsInNumber name then (readShort? name).map .short
    else return .name (String.ofList name)

end Host

end IdentifierRegistrar
