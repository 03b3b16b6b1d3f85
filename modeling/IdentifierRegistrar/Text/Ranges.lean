/-! Classes of characters, given by the first and the last character of each of their ranges. -/

namespace IdentifierRegistrar.Text

abbrev Ranges := List (Nat × Nat)

def Ranges.has (ranges : Ranges) (c : Char) : Bool :=
  ranges.any fun (first, last) => first ≤ c.toNat && c.toNat ≤ last

end IdentifierRegistrar.Text
