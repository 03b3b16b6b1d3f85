import IdentifierRegistrar.Json.Basic
import IdentifierRegistrar.Number.Word

/-!
The number that digits stand for. Digits are taken as long as they fit into a word, the word is
rounded to a binary number, and that is multiplied or divided by a power of ten: near the exact
value and, for long numbers, not always nearest to it.
-/

namespace IdentifierRegistrar.JsonNumber

/-- Takes digits while the number fits into a word; how many were left. -/
def takeWord : Nat → List Nat → Nat × Nat
  | m, [] => (m, 0)
  | m, d :: ds => if m * 10 + d < Word.count then takeWord (m * 10 + d) ds else (m, ds.length + 1)

/-- A word times `10 ^ k`. Small numbers are divided by the largest power of ten first, `fuel` times
at most: four times bring every word to zero. -/
def scaled? (x : Binary64) (k : Int) : (fuel : Nat) → Option Binary64
  | 0 => some { x with mantissa := 0, exponent := 0 }
  | fuel + 1 =>
    if x.mantissa = 0 then some x
    else if 308 < k then none
    else if 0 ≤ k then x.mul? (Binary64.powerOfTen k.toNat)
    else if -308 ≤ k then x.div? (Binary64.powerOfTen (-k).toNat)
    else do scaled? (← x.div? (Binary64.powerOfTen 308)) (k + 308) fuel

def ofDigits (negative : Bool) (whole fraction : List Nat) (exponent : Option Int) : JsonNumber :=
  let (m, left) := takeWord 0 whole
  let value : Int := if negative then -m else m
  let signed := !negative || (m != 0 && Word.leastSigned ≤ value)
  if fraction.isEmpty && exponent.isNone && left == 0 && signed then .whole value
  else
    let (m, passed) := takeWord m fraction
    let k : Int := exponent.getD 0 + left - (fraction.length - passed)
    match Binary64.ofRatio? negative m 1 with
    | some x => ((scaled? x k 5).map .fraction).getD .infinite
    | none => .infinite

end IdentifierRegistrar.JsonNumber
