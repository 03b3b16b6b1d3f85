import IdentifierRegistrar.Agency.Call
import IdentifierRegistrar.Directory.Basic
import IdentifierRegistrar.Status
import IdentifierRegistrar.Store.Error

/-! Why an operation of the registrar ends without an outcome. -/

namespace IdentifierRegistrar

inductive RegistrarError
  | illegalTransition (cause : IllegalTransition)
  | malformedIdentifier (cause : IdError)
  | unreachable (reason : String)
  | rejected (status : Nat) (message : String)
  | notFound (id : RecordId)
  | unknownValue (text : String)
  | resourceMissing (resource : ResourceId)
  | noConnector (scheme : Scheme)
  | store (cause : StoreError)
  | directory (cause : DirectoryError)
  | queueFull
  | workerStopped
  deriving DecidableEq, Repr

namespace RegistrarError

def ofAgency : AgencyError → RegistrarError
  | .unreachable reason => unreachable reason
  | .rejected status message => rejected status message
  | .malformedValue cause => malformedIdentifier cause

def message : RegistrarError → String
  | illegalTransition cause => cause.message
  | malformedIdentifier cause => "malformed identifier: " ++ cause.message
  | unreachable reason => "provider unreachable: " ++ reason
  | rejected status message =>
    "provider rejected request (" ++ toString status ++ "): " ++ message
  | notFound id => "identifier record not found: " ++ id.text
  | unknownValue text => "no identifier with value " ++ text
  | resourceMissing resource => "resource not found: " ++ resource.text
  | noConnector scheme => "no connector configured for scheme " ++ scheme.tag
  | store cause => "store error: " ++ cause.message
  | directory cause => "resource directory error: " ++ cause.message
  | queueFull => "registration queue is full"
  | workerStopped => "registration worker has stopped"

def isTransient : RegistrarError → Bool
  | unreachable _ | directory _ | store (.versionConflict _ _) => true
  | _ => false

end RegistrarError

end IdentifierRegistrar
