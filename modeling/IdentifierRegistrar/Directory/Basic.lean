import IdentifierRegistrar.Http.Status
import IdentifierRegistrar.Resource

/-! Why a directory cannot say what it knows of a resource. -/

namespace IdentifierRegistrar

inductive DirectoryError
  /-- No answer came. -/
  | unreachable (id : ResourceId)
  | refused (id : ResourceId) (status : Nat) (body : String)
  | malformed (id : ResourceId)
  /-- The directory says why. -/
  | outage (reason : String)
  deriving DecidableEq, Repr

def DirectoryError.message : DirectoryError → String
  | unreachable id => "failed to fetch resource " ++ id.text
  | refused id status body =>
    "resource lookup for " ++ id.text ++ " failed: " ++ Http.statusText status ++ " - " ++ body
  | malformed id => "malformed resource response for " ++ id.text
  | outage reason => reason

end IdentifierRegistrar
