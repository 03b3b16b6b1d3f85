import IdentifierRegistrar.Text.Radix

/-! Hexadecimal digits, read in either case. -/

namespace IdentifierRegistrar.Hex

def lower (d : Nat) : Char := "0123456789abcdef".toList.getD d '0'

def upper (d : Nat) : Char := "0123456789ABCDEF".toList.getD d '0'

def digit? (c : Char) : Option Nat :=
  if '0' ≤ c && c ≤ '9' then some (c.toNat - 48)
  else if 'a' ≤ c && c ≤ 'f' then some (c.toNat - 87)
  else if 'A' ≤ c && c ≤ 'F' then some (c.toNat - 55)
  else none

def isDigit (c : Char) : Bool := (digit? c).isSome

end IdentifierRegistrar.Hex
