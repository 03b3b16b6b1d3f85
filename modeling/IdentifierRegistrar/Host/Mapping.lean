import IdentifierRegistrar.Host.Joining
import IdentifierRegistrar.Host.Mapping.Table
import IdentifierRegistrar.Text.Unseen

/-!
What each character of a host name stands for: capitals for small letters, characters that only
look different for the plain ones, some for nothing at all, and some have no place in a name.
-/

namespace IdentifierRegistrar.Host

def ignored : Text.Ranges :=
  [(0xAD, 0xAD), (0x34F, 0x34F), (0x115F, 0x1160), (0x17B4, 0x17B5), (0x180B, 0x180F),
    (0x200B, 0x200B), (0x2060, 0x2064), (0x206A, 0x206F), (0x3164, 0x3164), (0xFE00, 0xFE0F),
    (0xFEFF, 0xFEFF), (0xFFA0, 0xFFA0), (0x1BCA0, 0x1BCA3), (0x1D173, 0x1D17A), (0xE0100, 0xE01EF)]

def refused : Text.Ranges :=
  [(0x2024, 0x2026), (0x2488, 0x249B), (0x2FF0, 0x2FFF), (0x31EF, 0x31EF), (0x33C2, 0x33C2),
    (0x33C7, 0x33C7), (0x33D8, 0x33D8), (0xFE12, 0xFE12), (0xFE19, 0xFE19), (0xFE30, 0xFE30),
    (0xFE52, 0xFE52), (0xFFFC, 0xFFFD), (0x1F100, 0x1F100)]

def shifted? (c : Nat) : Option Nat :=
  (shifts.find? fun (first, last, step, _) =>
    first ≤ c && c ≤ last && (c - first) % step == 0).map fun (_, _, _, move) =>
      (c + move).toNat

/-- The characters that the character stands for; none if it has no place in a name. -/
def image? (c : Char) : Option (List Char) :=
  if ignored.has c then some []
  else
    match shifted? c.toNat, replacement? c.toNat with
    | some d, _ => some [Char.ofNat d]
    | none, some ds => some (ds.map Char.ofNat)
    | none, none =>
      if !isJoiner c && (Text.isUnseen c || refused.has c) then none else some [c]

end IdentifierRegistrar.Host
