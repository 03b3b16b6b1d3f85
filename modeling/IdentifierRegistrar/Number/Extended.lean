import IdentifierRegistrar.Number.Binary64

/-!
Positive numbers of 64 bits of precision. They are brought to a decimal scale by a hundred powers
of ten at a time, then ten, then one, and every product on the way is rounded: what is read or
written by way of them is near the exact value and not always nearest to it.
-/

namespace IdentifierRegistrar

/-- `mantissa * 2 ^ exponent`; the mantissa of a number that is not zero has 64 bits. -/
structure Extended where
  mantissa : Nat
  exponent : Int
  deriving DecidableEq, Repr

namespace Extended

def leastMantissa : Nat := 0x8000000000000000

/-- The number nearest to `num / den`, in a tie the one with the even mantissa. -/
def ofRatio (num den : Nat) : Extended :=
  if num = 0 then ⟨0, 0⟩
  else
    let (m, e) := onGrid leastMantissa num den (grid leastMantissa num den)
    ⟨m, e⟩

def ofBinary (x : Binary64) : Extended :=
  let (num, den) := x.toRatio
  ofRatio num den

def toRatio (x : Extended) : Nat × Nat := scale 2 x.mantissa 1 x.exponent

def toBinary? (negative : Bool) (x : Extended) : Option Binary64 :=
  let (num, den) := x.toRatio
  Binary64.ofRatio? negative num den

def mul (x y : Extended) : Extended :=
  let product := ofRatio (x.mantissa * y.mantissa) 1
  ⟨product.mantissa, product.exponent + x.exponent + y.exponent⟩

def ten (k : Int) : Extended :=
  let (num, den) := scale 10 1 1 k
  ofRatio num den

def lt (x y : Extended) : Bool :=
  x.exponent < y.exponent || (x.exponent == y.exponent && x.mantissa < y.mantissa)

/-- The product with a number, taken so many times. -/
def mulTimes (factor : Extended) : Nat → Extended → Extended
  | 0, x => x
  | n + 1, x => mulTimes factor n (x.mul factor)

def shift (x : Extended) (k : Int) : Extended :=
  let n := k.natAbs
  mulTimes (ten k.sign) (n % 10) (mulTimes (ten (10 * k.sign)) (n % 100 / 10)
    (mulTimes (ten (100 * k.sign)) (n / 100) x))

abbrev Scaled := Extended × Int

/-- Takes out `step` powers of ten at a time until the number is below `10 ^ limit`; a dozen times
are enough for all binary numbers of 64 bits. -/
def lower (limit step : Int) : (fuel : Nat) → Scaled → Scaled
  | 0, x => x
  | fuel + 1, (x, k) =>
    if x.lt (ten limit) then (x, k) else lower limit step fuel (x.mul (ten (-step)), k + step)

/-- Puts in `step` powers of ten at a time until the number is not below `10 ^ limit`. -/
def raise (limit step : Int) : (fuel : Nat) → Scaled → Scaled
  | 0, x => x
  | fuel + 1, (x, k) =>
    if x.lt (ten limit) then raise limit step fuel (x.mul (ten step), k - step) else (x, k)

/-- The number scaled to 18 or 19 digits before the point. -/
def scaled (x : Extended) : Scaled :=
  [(119, 100), (29, 10), (19, 1)].foldl (fun x (limit, step) => lower limit step 12 x)
    ([(-97, 100), (7, 10), (17, 1)].foldl (fun x (limit, step) => raise limit step 12 x) (x, 0))

/-- The number to `n` digits, at most 17: a next digit of five or more rounds up. -/
def toDigits (x : Extended) (n : Nat) : Decimal :=
  let (y, k) := x.scaled
  let (num, den) := y.toRatio
  let cut := digitCount (num / den) - n
  ⟨(num / den / Nat.pow 10 (cut - 1) + 5) / 10, k + cut⟩

end Extended

end IdentifierRegistrar
