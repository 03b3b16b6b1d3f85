import IdentifierRegistrar.Identifier.Local

/-! Who asks for an operation, and under which id the request is known. -/

namespace IdentifierRegistrar

structure RequestContext where
  request : RequestId
  actor : String
  deriving DecidableEq, Repr

def RequestContext.system (request : RequestId) : RequestContext := ⟨request, "system"⟩

end IdentifierRegistrar
