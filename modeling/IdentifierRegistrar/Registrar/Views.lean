import IdentifierRegistrar.Registrar.Operations

/-!
The operations that change nothing: what the agency holds beside what is stored, the identifiers
of a resource, and what an identifier value points at.
-/

namespace IdentifierRegistrar

structure RemoteState where
  record : RecordId
  value : IdentifierValue
  status : Status
  reserved : Bool
  registered : Bool
  deriving DecidableEq, Repr

/-- Whether the agency backs the status. An intent is under way and always counts as backed,
unless it is an update of what was confirmed before. -/
def RemoteState.isConsistent (s : RemoteState) : Bool :=
  match s.status with
  | .isReserved | .updateReserved => s.reserved
  | .isRegistered | .updateRegistered => s.registered
  | _ => true

structure Summary where
  record : RecordId
  scheme : Scheme
  value : IdentifierValue
  /-- Absent while the value is not meant to be shown. -/
  shown : Option IdentifierValue
  status : Status
  attention : Option String
  deriving DecidableEq, Repr

def Record.summary (r : Record) : Summary where
  record := r.id
  scheme := r.scheme
  value := r.value
  shown := if r.status = .minted ∨ r.status = .deleted then none else some r.value
  status := r.status
  attention := r.attention

/-- What an identifier is bound to: a resource, or only the type of the one it was bound to. -/
inductive Binding
  | bound (resource : ResourceId)
  | orphaned (type : ResourceType)
  deriving DecidableEq, Repr

def Record.binding (r : Record) : Binding :=
  match r.resource with
  | some resource => .bound resource
  | none => .orphaned r.resourceType

structure Resolution where
  record : RecordId
  value : IdentifierValue
  scheme : Scheme
  status : Status
  binding : Binding
  deriving DecidableEq, Repr

namespace Registrar

open Operation

def question (scheme : Scheme) (call : Agency.Call) : Operation call.Result := do
  match ← agency scheme call with
  | .ok answer => return answer
  | .error e => .fail (.ofAgency e)

variable (g : Registrar)

def reconcile (id : RecordId) : Operation RemoteState := do
  let r ← load id
  g.requireConnector r.scheme
  let reserved ← question r.scheme (.isReserved r.value)
  let registered ← question r.scheme (.isRegistered r.value)
  return ⟨r.id, r.value, r.status, reserved, registered⟩

def identifiersFor (resource : ResourceId) : Operation (List Summary) := do
  return (← Operation.store (.listByResource resource)).map Record.summary

def resolve (text : String) : Operation Resolution := do
  match IdentifierValue.parse text with
  | .error e => .fail (.malformedIdentifier e)
  | .ok value =>
    match ← Operation.store (.findByValue value) with
    | some r => return ⟨r.id, value, r.scheme, r.status, r.binding⟩
    | none => .fail (.unknownValue value.text)

end Registrar

end IdentifierRegistrar
