import IdentifierRegistrar.Store.Numeral

/-!
What a column of the table holds. A column prefers text or whole numbers and turns what it is
given into that, where nothing is lost by it; all else is kept as it is.
-/

namespace IdentifierRegistrar

inductive Cell
  | null
  | int (n : Int)
  | real (x : Binary64)
  /-- A number beyond the largest. -/
  | infinite (negative : Bool)
  | text (s : String)
  deriving DecidableEq, Repr

inductive Affinity
  | text
  | integer
  deriving DecidableEq, Repr

namespace Cell

def kind : Cell → String
  | null => "Null"
  | int _ => "Integer"
  | real _ | infinite _ => "Real"
  | text _ => "Text"

/-- Real numbers are written with 15 digits, and zero without a sign. -/
def realStyle : NumberStyle := ⟨-4, 14, true, 2, true⟩

def realText (x : Binary64) : String :=
  if x.mantissa = 0 then realStyle.render false ⟨0, 0⟩
  else realStyle.render x.negative ((Extended.ofBinary x).toDigits 15).normal

/-- A real number as a whole number, if it is one of 64 bits that is not at the end of them. -/
def wholeOrReal (x : Binary64) : Cell :=
  match x.toInt? with
  | some n => if Word.leastSigned < n ∧ n < Word.greatestSigned then int n else real x
  | none => real x

/-- A number in a text becomes that number. -/
def ofNumeral (s : String) : Cell :=
  match Numeral.parse? s with
  | none => text s
  | some n =>
    match n.toInt?, n.toBinary? with
    | some i, _ => int i
    | none, some x => wholeOrReal x
    | none, none => infinite n.negative

/-- The cell as a column of the given preference keeps it. -/
def stored : Affinity → Cell → Cell
  | .text, int n => text (toString n)
  | .text, real x => text (realText x)
  | .text, infinite negative => text (if negative then "-Inf" else "Inf")
  | .integer, real x => wholeOrReal x
  | .integer, text s => ofNumeral s
  | _, c => c

/-- The order of sorted queries: nothing, then numbers by size, then texts. -/
def le : Cell → Cell → Bool
  | null, _ => true
  | _, null => false
  | int m, int n => m ≤ n
  | int m, real y => let (n, d) := y.signedRatio; m * d ≤ n
  | real x, int n => let (m, d) := x.signedRatio; m ≤ n * d
  | real x, real y => x.le y
  | infinite low, infinite high => low || !high
  | infinite low, int _ | infinite low, real _ => low
  | int _, infinite high | real _, infinite high => !high
  | text s, text t => !(t < s)
  | text _, _ => false
  | _, text _ => true

/-- Equality in a condition: nothing equals no cell, not even itself. -/
def equals (c d : Cell) : Bool := c != null && c == d

end Cell

end IdentifierRegistrar
