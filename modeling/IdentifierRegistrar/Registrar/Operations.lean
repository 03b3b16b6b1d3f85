import IdentifierRegistrar.Registrar.Drive

/-!
The operations that change records: minting, holding, carrying out a request, releasing a
resource, and the sweep that resumes what was left at an intent.
-/

namespace IdentifierRegistrar

structure SweepStats where
  examined : Nat
  confirmed : Nat
  pending : Nat
  needsAttention : Nat
  failed : Nat
  deriving DecidableEq, Repr

namespace SweepStats

def zero : SweepStats := ⟨0, 0, 0, 0, 0⟩

def count (s : SweepStats) : Except RegistrarError Outcome → SweepStats
  | .ok (.succeeded _) => { s with examined := s.examined + 1, confirmed := s.confirmed + 1 }
  | .ok (.pendingRetry _ _) => { s with examined := s.examined + 1, pending := s.pending + 1 }
  | .ok (.needsAttention _ _) =>
    { s with examined := s.examined + 1, needsAttention := s.needsAttention + 1 }
  | .error _ => { s with examined := s.examined + 1, failed := s.failed + 1 }

end SweepStats

namespace Registrar

open Operation

def load (id : RecordId) : Operation Record := do
  match ← Operation.store (.get id) with
  | some r => return r
  | none => .fail (.notFound id)

variable (g : Registrar)

/-- Mints a value for a resource and stores its record. If another operation has stored a live
record for the resource meanwhile, that one counts. -/
def mintNew (resource : Resource) (scheme : Scheme) (wanted : ResourceId) : Operation Record := do
  g.requireConnector scheme
  let id ← freshId
  match ← agency scheme (.mint id) with
  | .error e => .fail (.ofAgency e)
  | .ok value =>
    let r := Record.mint id value resource (← now)
    match ← request (.store (.insert r)) with
    | .ok _ => return r
    | .error (.liveRecordExists _ _) =>
      match ← Operation.store (.findLive wanted scheme) with
      | some winner => return winner
      | none => .fail (.resourceMissing wanted)
    | .error e => .fail (.store e)

/-- The live record of a scheme for a resource; a new one if there is none. -/
def mint (resource : ResourceId) (scheme : Scheme) : Operation Record := do
  match ← Operation.store (.findLive resource scheme) with
  | some r => return r
  | none =>
    match ← lookup resource with
    | .ok (some found) => g.mintNew found scheme resource
    | .ok none => .fail (.resourceMissing resource)
    | .error e => .fail (.directory e)

def hold (id : RecordId) : Operation Record := do commit (← load id) .pending

/-- A request is the operator's word to go on: the marker is cleared. It is written by itself
only if the plan writes nothing else. -/
def unmark (r : Record) (steps : List Status) : Operation Record := do
  if r.attention.isNone then return r
  else
    let r := r.clearAttention (← now)
    if steps.isEmpty then write r else return r

def execute (id : RecordId) (action : Action) : Operation Outcome := do
  let r ← load id
  match action.plan r.status with
  | .error e => .fail (.illegalTransition e)
  | .ok .alreadyDone => return .succeeded r.status
  | .ok (.drive steps) =>
    let r ← unmark r steps
    g.drive (← through commit r steps)

/-- Unbinds a record and drives it to deletion. The binding is cleared in the same write that
commits the next status. -/
def releaseRecord (r : Record) : Operation (RecordId × Outcome) := do
  let r := r.clearResource (← now)
  match Action.delete.plan r.status with
  | .ok .alreadyDone =>
    let r ← write r
    return (r.id, .succeeded r.status)
  | .ok (.drive []) =>
    let r ← write r
    return (r.id, ← g.drive r)
  | .ok (.drive steps) =>
    let r ← through commit r steps
    return (r.id, ← g.drive r)
  | .error e => return (r.id, ← park r e.message)

/-- The resource is gone: each identifier bound to it is unbound and driven to deletion. -/
def release (resource : ResourceId) : Operation (List (RecordId × Outcome)) := do
  forEach g.releaseRecord (← Operation.store (.listByResource resource))

/-- Resumes every record that was left at an intent and does not wait for an operator. A failure
with one record does not stop the others. -/
def sweep : Operation SweepStats := do
  let records ← Operation.store (.listRetryable Status.intents)
  let results ← forEach (fun r => (g.drive r).attempt) records
  return results.foldl SweepStats.count SweepStats.zero

end Registrar

end IdentifierRegistrar
