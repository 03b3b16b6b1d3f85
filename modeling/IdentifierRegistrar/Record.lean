import IdentifierRegistrar.Identifier.Local
import IdentifierRegistrar.Identifier.Value
import IdentifierRegistrar.Instant
import IdentifierRegistrar.Resource
import IdentifierRegistrar.Status

/-!
The record of one identifier. Id, value, resource type and time of creation never change. The
binding to a resource can be cleared and never points elsewhere. The marker `attention` says why
the record waits for an operator. `version` is that of the stored row the record was read from.
-/

namespace IdentifierRegistrar

structure Record where
  id : RecordId
  value : IdentifierValue
  resource : Option ResourceId
  resourceType : ResourceType
  status : Status
  attention : Option String
  version : Int
  createdAt : Instant
  updatedAt : Instant
  deriving DecidableEq, Repr

namespace Record

def mint (id : RecordId) (value : IdentifierValue) (resource : Resource) (now : Instant) :
    Record where
  id := id
  value := value
  resource := some resource.id
  resourceType := resource.type
  status := .minted
  attention := none
  version := 0
  createdAt := now
  updatedAt := now

def scheme (r : Record) : Scheme := r.value.scheme

def isOrphaned (r : Record) : Bool := r.resource.isNone

def transition (r : Record) (target : Status) (now : Instant) : Except IllegalTransition Record :=
  (r.status.transition target).map fun status => { r with status, updatedAt := now }

/-- Clears the binding. The resource type stays. -/
def clearResource (r : Record) (now : Instant) : Record :=
  if r.resource.isSome then { r with resource := none, updatedAt := now } else r

def flag (r : Record) (message : String) (now : Instant) : Record :=
  { r with attention := some message, updatedAt := now }

def clearAttention (r : Record) (now : Instant) : Record :=
  if r.attention.isSome then { r with attention := none, updatedAt := now } else r

end Record

end IdentifierRegistrar
