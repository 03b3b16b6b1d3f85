/-!
Labels that are spelled in ASCII. The characters that are in ASCII stand before the last hyphen;
after it come numbers that say, one after the other, how far to count on until the next character
is put in. The digits of a number are little-endian, with a threshold at each place that adapts to
the numbers before it.
-/

namespace IdentifierRegistrar.Host.Punycode

/-- Letters are the digits up to 25, figures the ten after them. -/
def digit? (c : Char) : Option Nat :=
  if 'a' ≤ c && c ≤ 'z' then some (c.toNat - 97)
  else if '0' ≤ c && c ≤ '9' then some (c.toNat - 22)
  else none

def threshold (position bias : Nat) : Nat := min 26 (max 1 (position - bias))

/-- Numbers and weights stay below this. -/
def limit : Nat := 0x100000000

def readNumber (bias : Nat) (position weight i : Nat) : List Char → Option (Nat × List Char)
  | [] => none
  | c :: rest =>
    match digit? c with
    | none => none
    | some d =>
      let t := threshold position bias
      let i := i + d * weight
      if limit ≤ i then none
      else if d < t then some (i, rest)
      else if limit ≤ weight * (36 - t) then none
      else readNumber bias (position + 36) (weight * (36 - t)) i rest

/-- Divides by 35 until the rest is small; each time counts for a place. -/
def settle : (fuel : Nat) → (delta position : Nat) → Nat × Nat
  | 0, delta, position => (delta, position)
  | fuel + 1, delta, position =>
    if 455 < delta then settle fuel (delta / 35) (position + 36) else (delta, position)

/-- The bias after a number: `count` characters are in, and a word takes seven divisions at most. -/
def adapt (delta count : Nat) (first : Bool) : Nat :=
  let delta := if first then delta / 700 else delta / 2
  let (delta, position) := settle 7 (delta + delta / count) 0
  position + 36 * delta / (delta + 38)

/-- Puts in the characters that the digits tell; each takes one of `fuel`, and there are no more of
them than digits. -/
def insertAll : (fuel : Nat) → (bias code i : Nat) → (done : List Char) → List Char →
    Option (List Char)
  | _, _, _, _, done, [] => some done
  | 0, _, _, _, _, _ => none
  | fuel + 1, bias, code, i, done, cs =>
    match readNumber bias 36 1 i cs with
    | none => none
    | some (j, rest) =>
      let count := done.length + 1
      let code := code + j / count
      if code.isValidChar then
        insertAll fuel (adapt (j - i) count (i == 0)) code (j % count + 1)
          (done.insertIdx (j % count) (Char.ofNat code)) rest
      else none

/-- The characters before the last hyphen and what comes after it. A hyphen that nothing precedes
belongs to the digits. -/
def cutBasic (cs : List Char) : List Char × List Char :=
  let tail := (cs.reverse.takeWhile (· != '-')).reverse
  let basic := cs.take (cs.length - tail.length - 1)
  if basic = [] then ([], cs) else (basic, tail)

def decode? (cs : List Char) : Option (List Char) :=
  let (basic, digits) := cutBasic cs
  insertAll digits.length 72 128 0 basic digits

end IdentifierRegistrar.Host.Punycode
