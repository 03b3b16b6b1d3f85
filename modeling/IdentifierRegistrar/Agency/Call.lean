import IdentifierRegistrar.Identifier.Local
import IdentifierRegistrar.Payload

/-!
What the registrar asks of a registration agency, and how the agency can fail to do it. A change
may be asked for again when it is not known whether it arrived.
-/

namespace IdentifierRegistrar

inductive AgencyError
  /-- The call was not completed; a later one may be. -/
  | unreachable (reason : String)
  /-- The agency refused. -/
  | rejected (status : Nat) (message : String)
  /-- The value does not fit the agency's scheme. -/
  | malformedValue (cause : IdError)
  deriving DecidableEq, Repr

def AgencyError.message : AgencyError → String
  | unreachable reason => "unreachable: " ++ reason
  | rejected status message => "rejected (" ++ toString status ++ "): " ++ message
  | malformedValue cause => cause.message

namespace Agency

inductive Change
  | reserve (payload : Payload)
  | register (payload : Payload)
  | updateMetadata (payload : Payload)
  | delete (value : IdentifierValue)
  deriving DecidableEq, Repr

def Change.value : Change → IdentifierValue
  | reserve p | register p | updateMetadata p => p.identifier
  | delete v => v

inductive Call
  /-- A fresh value for a new record. -/
  | mint (record : RecordId)
  | change (c : Change)
  | isReserved (value : IdentifierValue)
  | isRegistered (value : IdentifierValue)
  deriving DecidableEq, Repr

def Call.Result : Call → Type
  | mint _ => IdentifierValue
  | change _ => Unit
  | isReserved _ | isRegistered _ => Bool

end Agency

end IdentifierRegistrar
