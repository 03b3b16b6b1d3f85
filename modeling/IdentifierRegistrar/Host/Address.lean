import IdentifierRegistrar.Text.Cut
import IdentifierRegistrar.Text.Hex

/-!
Addresses of hosts in numbers. An address of 32 bits is written as up to four numbers with points
between them, of which the last one fills what is left; an address of 128 bits as eight groups with
colons between them, where two colons stand for groups of zero and the last two groups may be
written as an address of 32 bits.
-/

namespace IdentifierRegistrar.Host

/-- A number in digits, octal after `0`, hexadecimal after `0x`. -/
def readPart? (cs : List Char) : Option Nat :=
  let read (base : Nat) (ds : List Char) :=
    ((ds.mapM Hex.digit?).filter (·.all (· < base))).map (Radix.ofDigits base)
  match cs with
  | [] => none
  | '0' :: x :: ds => if x == 'x' || x == 'X' then read 16 ds else read 8 (x :: ds)
  | ds => read 10 ds

def numberParts (name : List Char) : List (List Char) :=
  let parts := Text.split '.' name
  if parts.length > 1 ∧ parts.getLast? = some [] then parts.dropLast else parts

/-- Whether a name ends in a number: then it is an address or nothing. -/
def endsInNumber (name : List Char) : Bool :=
  match (numberParts name).getLast? with
  | some last => last ≠ [] && (last.all Char.isDigit || (readPart? last).isSome)
  | none => false

def readShort? (name : List Char) : Option Nat := do
  let ns ← (numberParts name).mapM readPart?
  let last ← ns.getLast?
  if ns.length ≤ 4 ∧ ns.dropLast.all (· < 256) ∧ last < Nat.pow 256 (5 - ns.length) then
    return Radix.ofDigits 256 ns.dropLast * Nat.pow 256 (5 - ns.length) + last
  else none

def readGroup? (cs : List Char) : Option Nat :=
  if cs = [] ∨ 4 < cs.length then none else (cs.mapM Hex.digit?).map (Radix.ofDigits 16)

/-- A number below 256 in decimal digits, without zeros in front. -/
def readOctet? (cs : List Char) : Option Nat :=
  if cs = [] ∨ !cs.all Char.isDigit ∨ (1 < cs.length ∧ cs.head? = some '0') then none
  else
    let n := Radix.ofDigits 10 (cs.map fun c => c.toNat - 48)
    if n < 256 then some n else none

/-- The two groups that four numbers with points between them make. -/
def readQuad? (cs : List Char) : Option (List Nat) := do
  match ← (Text.split '.' cs).mapM readOctet? with
  | [a, b, c, d] => return [a * 256 + b, c * 256 + d]
  | _ => none

/-- The groups of one side of two colons; only the last of them may be a quad. -/
def readGroups? : List (List Char) → Option (List Nat)
  | [] => some []
  | [last] => ((readGroup? last).map ([·])).or (readQuad? last)
  | group :: groups => do return (← readGroup? group) :: (← readGroups? groups)

def cutGap : List Char → Option (List Char × List Char)
  | ':' :: ':' :: rest => some ([], rest)
  | c :: rest => (cutGap rest).map fun (before, after) => (c :: before, after)
  | [] => none

def readSide? (cs : List Char) : Option (List Nat) :=
  if cs = [] then some [] else readGroups? (Text.split ':' cs)

def readLong? (cs : List Char) : Option (List Nat) :=
  match cutGap cs with
  | none => (readSide? cs).filter (·.length == 8)
  | some (before, after) => do
    let head ← (if before.contains '.' then none else readSide? before)
    let tail ← readSide? after
    if head.length + tail.length < 8 then
      return head ++ List.replicate (8 - head.length - tail.length) 0 ++ tail
    else none

end IdentifierRegistrar.Host
