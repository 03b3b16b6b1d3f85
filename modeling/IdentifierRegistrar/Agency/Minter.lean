import IdentifierRegistrar.Identifier.Local
import IdentifierRegistrar.Identifier.Value

/-!
Minting without an agency. A value ends with the record's own suffix, so no two records share one.
-/

namespace IdentifierRegistrar

inductive Minter
  | doi (registrant separator : String)
  | dark (repository : String)
  deriving DecidableEq, Repr

namespace Minter

def scheme : Minter → Scheme
  | doi _ _ => .doi
  | dark _ => .dark

def mint (record : RecordId) : Minter → Except IdError IdentifierValue
  | doi registrant separator =>
    IdentifierValue.ofDoiName (registrant ++ "/" ++ separator ++ record.suffix)
  | dark repository => IdentifierValue.ofArk repository record.suffix

end Minter

end IdentifierRegistrar
