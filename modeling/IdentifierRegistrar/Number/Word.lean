/-! The ranges of whole numbers of 64 bits, signed and unsigned. -/

namespace IdentifierRegistrar.Word

def count : Nat := 0x10000000000000000

def leastSigned : Int := -0x8000000000000000

def greatestSigned : Int := 0x7FFFFFFFFFFFFFFF

end IdentifierRegistrar.Word
