import IdentifierRegistrar.Text.Radix

/-!
The base-32 alphabet without the letters I, L, O and U. Digits are written in upper case and read
in either case.
-/

namespace IdentifierRegistrar.Base32

def alphabet : List Char := "0123456789ABCDEFGHJKMNPQRSTVWXYZ".toList

def symbol (d : Nat) : Char := alphabet.getD d '0'

def digit? (c : Char) : Option Nat := alphabet.idxOf? c.toUpper

end IdentifierRegistrar.Base32
