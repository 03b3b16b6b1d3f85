/-!
Decimal numbers, the binary numbers of 64 bits nearest to them, and the shortest decimal that
reads back as a given binary number. All arithmetic is exact.
-/

namespace IdentifierRegistrar

/-- `digits * 10 ^ exponent`. -/
structure Decimal where
  digits : Nat
  exponent : Int
  deriving DecidableEq, Repr

/-- `mantissa * 2 ^ exponent`, with the sign kept apart: zero has one too. -/
structure Binary64 where
  negative : Bool
  mantissa : Nat
  exponent : Int
  deriving DecidableEq, Repr

def digitCount (n : Nat) : Nat := if n = 0 then 0 else (Nat.toDigits 10 n).length

/-- `num / den` rounded to the nearest whole number, a tie to the even one. -/
def roundHalfEven (num den : Nat) : Nat :=
  let q := num / den
  let r := num % den
  if 2 * r < den then q else if den < 2 * r then q + 1 else q + q % 2

/-- `num / den * base ^ e` as a quotient of whole numbers. -/
def scale (base : Nat) (num den : Nat) (e : Int) : Nat × Nat :=
  if 0 ≤ e then (num * Nat.pow base e.toNat, den)
  else (num, den * Nat.pow base (-e).toNat)

/-- The exponent `e` with `least * 2 ^ e ≤ num / den < 2 * least * 2 ^ e`, for a power `least` of
two. -/
def grid (least num den : Nat) : Int :=
  let guess : Int := (num.log2 : Int) - den.log2 - least.log2
  let (n, d) := scale 2 num den (-guess)
  if n < least * d then guess - 1 else guess

/-- The nearest mantissa on the grid of `2 ^ e`, moved to the next grid if it is twice `least`. -/
def onGrid (least num den : Nat) (e : Int) : Nat × Int :=
  let (n, d) := scale 2 num den (-e)
  let m := roundHalfEven n d
  if m = 2 * least then (least, e + 1) else (m, e)

namespace Decimal

def toRatio (d : Decimal) : Nat × Nat := scale 10 d.digits 1 d.exponent

def normal (d : Decimal) : Decimal := go (digitCount d.digits) d
where
  go : Nat → Decimal → Decimal
    | 0, d => d
    | n + 1, d =>
      if d.digits ≠ 0 ∧ d.digits % 10 = 0 then go n ⟨d.digits / 10, d.exponent + 1⟩ else d

end Decimal

namespace Binary64

def zero : Binary64 := ⟨false, 0, 0⟩

/-- The least number of 53 bits: the mantissa above the finest grid is not smaller. -/
def leastMantissa : Nat := 0x10000000000000

/-- The binary number nearest to `num / den`; none if it lies beyond the largest. -/
def ofRatio? (negative : Bool) (num den : Nat) : Option Binary64 :=
  if num = 0 then some ⟨negative, 0, 0⟩
  else
    let (m, e) := onGrid leastMantissa num den (max (-1074) (grid leastMantissa num den))
    if 971 < e then none else if m = 0 then some ⟨negative, 0, 0⟩ else some ⟨negative, m, e⟩

/-- A decimal far beyond the range is told by its size, without being written out. -/
def ofDecimal? (negative : Bool) (d : Decimal) : Option Binary64 :=
  let order := d.exponent + digitCount d.digits
  if d.digits = 0 ∨ order < -400 then some ⟨negative, 0, 0⟩
  else if 400 < order then none
  else
    let (num, den) := d.toRatio
    ofRatio? negative num den

def toRatio (b : Binary64) : Nat × Nat := scale 2 b.mantissa 1 b.exponent

/-- `10 ^ k ≤ b < 10 ^ (k + 1)` for a number that is not zero. -/
def order (b : Binary64) : Int :=
  let (num, den) := b.toRatio
  let guess : Int := (digitCount num : Int) - digitCount den
  let (n, d) := scale 10 num den (-guess)
  if n < d then guess - 1 else guess

/-- The two neighbours of `b` on the grid of `10 ^ k`, the nearer one first, the even one first
in a tie. -/
def neighbours (b : Binary64) (k : Int) : List Decimal :=
  let (num, den) := b.toRatio
  let (n, d) := scale 10 num den (-k)
  let near := roundHalfEven n d
  let far := if near = n / d then n / d + 1 else n / d
  [⟨near, k⟩, ⟨far, k⟩]

/-- The decimal of fewest digits that is nearest to `b` among all binary numbers. -/
def shortest (b : Binary64) : Decimal :=
  if b.mantissa = 0 then ⟨0, 0⟩
  else
    let hits := (List.range 17).flatMap fun (n : Nat) =>
      (b.neighbours (b.order - n)).filter fun d => ofDecimal? b.negative d == some b
    (hits.headD ⟨0, 0⟩).normal

def toInt? (b : Binary64) : Option Int :=
  let (num, den) := b.toRatio
  if num % den ≠ 0 then none
  else some (if b.negative then -(num / den : Nat) else (num / den : Nat))

def signedRatio (b : Binary64) : Int × Nat :=
  let (num, den) := b.toRatio
  (if b.negative then -num else num, den)

def le (a b : Binary64) : Bool :=
  let (n, d) := a.signedRatio
  let (m, e) := b.signedRatio
  n * e ≤ m * d

def ofInt (n : Int) : Binary64 :=
  (ofRatio? (n < 0) n.natAbs 1).getD zero

def mul? (a b : Binary64) : Option Binary64 :=
  let (n, d) := a.toRatio
  let (m, e) := b.toRatio
  ofRatio? (a.negative != b.negative) (n * m) (d * e)

def div? (a b : Binary64) : Option Binary64 :=
  let (n, d) := a.toRatio
  let (m, e) := b.toRatio
  ofRatio? (a.negative != b.negative) (n * e) (d * m)

def powerOfTen (k : Nat) : Binary64 := (ofRatio? false (Nat.pow 10 k) 1).getD zero

end Binary64

/-- How the text of a number chooses between positional and scientific notation. -/
structure NumberStyle where
  /-- Least and greatest power of ten of the leading digit that are written positionally. -/
  leastPower : Int
  greatestPower : Int
  /-- Whether a single digit before the exponent is followed by `.0`. -/
  pointBeforeExponent : Bool
  /-- Least number of digits of the exponent, and whether a plus sign stands before them. -/
  exponentDigits : Nat
  plus : Bool

namespace NumberStyle

def zeros (n : Nat) : String := String.ofList (List.replicate n '0')

/-- The text of `d`, whose digits do not end in zero. -/
def render (style : NumberStyle) (negative : Bool) (d : Decimal) : String :=
  let digits := (Nat.toDigits 10 d.digits)
  let power : Int := d.exponent + digits.length - 1
  let sign := if negative then "-" else ""
  if d.digits = 0 then sign ++ "0.0"
  else if style.leastPower ≤ power ∧ power ≤ style.greatestPower then
    if 0 ≤ d.exponent then
      sign ++ String.ofList digits ++ zeros d.exponent.toNat ++ ".0"
    else if 0 ≤ power then
      let whole := (power + 1).toNat
      sign ++ String.ofList (digits.take whole) ++ "." ++ String.ofList (digits.drop whole)
    else sign ++ "0." ++ zeros (-power - 1).toNat ++ String.ofList digits
  else
    let fraction :=
      if digits.length = 1 then if style.pointBeforeExponent then ".0" else ""
      else "." ++ String.ofList (digits.drop 1)
    let size := toString power.natAbs
    sign ++ String.ofList (digits.take 1) ++ fraction ++ "e"
      ++ (if power < 0 then "-" else if style.plus then "+" else "")
      ++ zeros (style.exponentDigits - size.length) ++ size

end NumberStyle

end IdentifierRegistrar
