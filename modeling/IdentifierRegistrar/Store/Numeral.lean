import IdentifierRegistrar.Number.Extended
import IdentifierRegistrar.Number.Word
import IdentifierRegistrar.Text.Radix

/-!
Decimal numbers in texts, as the table reads them. Digits count as long as they fit into a word;
the others of the whole part hold a place, those of the fraction are passed over.
-/

namespace IdentifierRegistrar

structure Numeral where
  negative : Bool
  whole : List Nat
  fraction : List Nat
  exponent : Int
  /-- Whether it is written without point and exponent. -/
  integral : Bool
  deriving DecidableEq, Repr

namespace Numeral

def isGap (c : Char) : Bool := c == ' ' || ('\t' ≤ c && c ≤ '\r')

def digits (cs : List Char) : List Nat × List Char :=
  let (ds, rest) := cs.span Char.isDigit
  (ds.map fun c => c.toNat - 48, rest)

/-- The sign in front, if any: whether it is a minus, and what follows. -/
def sign : List Char → Bool × List Char
  | '-' :: rest => (true, rest)
  | '+' :: rest => (false, rest)
  | cs => (false, cs)

/-- The exponent that is left to digits once they reach five places is a fixed one: it is out of
range already. -/
def exponentOf (ds : List Nat) : Nat :=
  ds.foldl (fun e d => if e < 10000 then e * 10 + d else 10000) 0

/-- An exponent, zero if none is written; `none` if a letter for one has no digits after it. -/
def readExponent : List Char → Option (Int × Bool × List Char)
  | e :: rest =>
    if e == 'e' || e == 'E' then
      let (minus, rest) := sign rest
      match digits rest with
      | ([], _) => none
      | (ds, rest) =>
        let n : Int := exponentOf ds
        some (if minus then -n else n, true, rest)
    else some (0, false, e :: rest)
  | [] => some (0, false, [])

/-- The number that a text is, blanks around it allowed. -/
def parse? (s : String) : Option Numeral :=
  let (negative, cs) := sign (s.toList.dropWhile isGap)
  let (whole, cs) := digits cs
  let (point, fraction, cs) :=
    match cs with
    | '.' :: rest => let (ds, rest) := digits rest; (true, ds, rest)
    | cs => (false, [], cs)
  match readExponent cs with
  | none => none
  | some (exponent, letter, cs) =>
    if whole ++ fraction = [] ∨ cs.dropWhile isGap ≠ [] then none
    else some ⟨negative, whole, fraction, exponent, !point && !letter⟩

def toInt? (n : Numeral) : Option Int :=
  let size : Nat := Radix.ofDigits 10 n.whole
  let value : Int := if n.negative then -size else size
  if n.integral ∧ Word.leastSigned ≤ value ∧ value ≤ Word.greatestSigned then some value else none

/-- The least number that takes no further digit. -/
def full : Nat := (Word.count - 10) / 10

/-- One more digit before the point: it counts, or it holds a place. -/
def takeWhole : Nat × Int → Nat → Nat × Int
  | (m, k), d => if m < full then (m * 10 + d, k) else (m, k + 1)

def takeFraction : Nat × Int → Nat → Nat × Int
  | (m, k), d => if m < full then (m * 10 + d, k - 1) else (m, k)

/-- The digits that count, and the power of ten that they stand for. -/
def significand (n : Numeral) : Nat × Int :=
  n.fraction.foldl takeFraction (n.whole.foldl takeWhole (0, n.exponent))

/-- Moves powers of ten into the digits while they fit into a word. -/
def absorb : (fuel : Nat) → Nat × Int → Nat × Int
  | 0, x => x
  | fuel + 1, (m, k) =>
    if 0 < k ∧ m < (Word.count - 1) / 10 then absorb fuel (m * 10, k - 1) else (m, k)

/-- Moves zeros at the end of the digits out of a fraction. -/
def release : (fuel : Nat) → Nat × Int → Nat × Int
  | 0, x => x
  | fuel + 1, (m, k) => if k < 0 ∧ m % 10 = 0 then release fuel (m / 10, k + 1) else (m, k)

/-- The value as a binary number; none beyond the largest. A word has 20 digits at most. -/
def toBinary? (n : Numeral) : Option Binary64 :=
  match n.significand with
  | (0, _) => some ⟨n.negative, 0, 0⟩
  | digits =>
    let (m, k) := release 20 (absorb 20 digits)
    if k = 0 then Binary64.ofRatio? n.negative m 1
    else ((Extended.ofRatio m 1).shift k).toBinary? n.negative

end Numeral

end IdentifierRegistrar
