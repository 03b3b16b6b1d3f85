import IdentifierRegistrar.Identifier.Error

/-! References to the repository's resources, which are UUIDs. -/

namespace IdentifierRegistrar

structure ResourceId where
  uuid : Uuid
  deriving DecidableEq, Repr

namespace ResourceId

def text (id : ResourceId) : String := id.uuid.text

def parse (s : String) : Except IdError ResourceId :=
  if s.isEmpty then .error .empty
  else
    match Uuid.parse s.toList with
    | .ok uuid => .ok ⟨uuid⟩
    | .error cause => .error (.invalidUuid cause)

end ResourceId

end IdentifierRegistrar
