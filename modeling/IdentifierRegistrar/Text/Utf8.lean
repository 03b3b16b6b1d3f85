/-!
Bytes read as UTF-8. `decodeChars` finds no character in each longest part that could have begun
one and does not go on as one; `decode` puts one replacement character in its place.
-/

namespace IdentifierRegistrar.Utf8

/-- The least and the greatest second byte after a first one, and how many bytes follow in all. -/
def follow? (first : UInt8) : Option (UInt8 × UInt8 × Nat) :=
  if 0xC2 ≤ first && first ≤ 0xDF then some (0x80, 0xBF, 1)
  else if first == 0xE0 then some (0xA0, 0xBF, 2)
  else if first == 0xED then some (0x80, 0x9F, 2)
  else if 0xE1 ≤ first && first ≤ 0xEF then some (0x80, 0xBF, 2)
  else if first == 0xF0 then some (0x90, 0xBF, 3)
  else if 0xF1 ≤ first && first ≤ 0xF3 then some (0x80, 0xBF, 3)
  else if first == 0xF4 then some (0x80, 0x8F, 3)
  else none

def leadBits (first : UInt8) (n : Nat) : Nat := first.toNat % Nat.pow 2 (6 - n)

/-- The rest of a character: `n` bytes are wanted, the first of them within `low` and `high`. The
character, if all are there, and how many bytes have been taken. -/
def tail (code : Nat) (low high : UInt8) : (n : Nat) → List UInt8 → Option Char × Nat
  | 0, _ => (some (Char.ofNat code), 0)
  | n + 1, b :: bs =>
    if low ≤ b && b ≤ high then
      let (c, taken) := tail (code * 64 + b.toNat % 64) 0x80 0xBF n bs
      (c, taken + 1)
    else (none, 0)
  | _ + 1, [] => (none, 0)

/-- The next character or none where there is no character, and what follows. -/
def next (first : UInt8) (rest : List UInt8) : Option Char × List UInt8 :=
  if first < 0x80 then (some (Char.ofNat first.toNat), rest)
  else
    match follow? first with
    | none => (none, rest)
    | some (low, high, n) =>
      let (c, taken) := tail (leadBits first n) low high n rest
      (c, rest.drop taken)

theorem length_next_le (first : UInt8) (rest : List UInt8) :
    (next first rest).2.length ≤ rest.length := by
  unfold next
  split
  · exact Nat.le_refl _
  · split
    · exact Nat.le_refl _
    · simp

def decodeChars : List UInt8 → List (Option Char)
  | [] => []
  | first :: rest => (next first rest).1 :: decodeChars (next first rest).2
termination_by bytes => bytes.length
decreasing_by
  have := length_next_le first rest
  simp only [List.length_cons]
  omega

def decode (bytes : List UInt8) : String :=
  String.ofList ((decodeChars bytes).map (·.getD '\uFFFD'))

end IdentifierRegistrar.Utf8
