import IdentifierRegistrar.Identifier.Scheme
import IdentifierRegistrar.Identifier.Ulid
import IdentifierRegistrar.Identifier.Uuid

/-! Why a text is no id or no identifier value. -/

namespace IdentifierRegistrar

inductive IdError
  | empty
  | invalidTag (expected actual : String)
  | missingSeparator
  | invalidUlid (cause : Ulid.ParseError)
  | invalidUuid (cause : Uuid.ParseError)
  | unknownScheme (text : String)
  | malformed (scheme : Scheme) (text : String)
  deriving DecidableEq, Repr

namespace IdError

def message : IdError → String
  | empty => "ID cannot be empty"
  | invalidTag expected actual =>
    "invalid ID prefix: expected '" ++ expected ++ "', got '" ++ actual ++ "'"
  | missingSeparator => "ID missing underscore separator"
  | invalidUlid cause => "invalid ULID: " ++ cause.message
  | invalidUuid cause => "invalid resource UUID: " ++ cause.message
  | unknownScheme text => "unknown identifier scheme in '" ++ text ++ "'"
  | malformed scheme text => "malformed " ++ scheme.tag ++ " identifier '" ++ text ++ "'"

def isEmpty : IdError → Bool
  | empty => true
  | _ => false

def isMalformedValue : IdError → Bool
  | unknownScheme _ | malformed _ _ => true
  | _ => false

end IdError

end IdentifierRegistrar
