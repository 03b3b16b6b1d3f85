import IdentifierRegistrar.Registrar.Plan
import IdentifierRegistrar.Registrar.Services

/-!
Driving an intent. The intent stands in the store before the agency is called, and the status it
comes to rest at is written only after the agency has agreed. Where an operation stops in between,
the intent is left for a later one to resume.
-/

namespace IdentifierRegistrar

/-- How an operation on a record ended, with the record's status after it. -/
inductive Outcome
  /-- The status that was asked for is stored. -/
  | succeeded (status : Status)
  /-- The agency or the directory did not answer; the intent stays. -/
  | pendingRetry (status : Status) (reason : String)
  /-- The record waits for an operator. -/
  | needsAttention (status : Status) (message : String)
  deriving DecidableEq, Repr

namespace Outcome

def status : Outcome → Status
  | succeeded s | pendingRetry s _ | needsAttention s _ => s

def tag : Outcome → String
  | succeeded _ => "succeeded"
  | pendingRetry _ _ => "pending_retry"
  | needsAttention _ _ => "needs_attention"

end Outcome

/-- What a registrar is set up with: the schemes that have a connector, and what it releases. -/
structure Registrar where
  connected : Scheme → Bool
  policy : ReleasePolicy

def Agency.Change.ofIntent (s : Status) (p : Payload) : Agency.Change :=
  match s with
  | .toBeReserved => .reserve p
  | .toBeRegistered => .register p
  | _ => .updateMetadata p

namespace Registrar

open Operation

def write (r : Record) : Operation Record := Operation.store (.update r)

def commit (r : Record) (target : Status) : Operation Record := do
  match r.transition target (← now) with
  | .ok r => write r
  | .error e => .fail (.illegalTransition e)

def park (r : Record) (message : String) : Operation Outcome := do
  let r ← write (r.flag message (← now))
  return .needsAttention r.status message

/-- What the agency's answer makes of a record at an intent that rests at `confirmed`. -/
def settle (r : Record) (confirmed : Status) : Except AgencyError Unit → Operation Outcome
  | .ok () => do
    let _ ← commit r confirmed
    return .succeeded confirmed
  | .error (.unreachable reason) => return .pendingRetry r.status reason
  | .error (.rejected status message) =>
    park r (AgencyError.rejected status message).message
  | .error (.malformedValue cause) => .fail (.malformedIdentifier cause)

def orphanMessage : String := "record has no bound resource"

def needsResource (s : Status) : Bool := s.isIntent && s != .toBeDeleted

variable (g : Registrar)

def requireConnector (scheme : Scheme) : Operation Unit :=
  if g.connected scheme then return () else .fail (.noConnector scheme)

def send (r : Record) (confirmed : Status) (resource : ResourceId) : Operation Outcome := do
  match ← lookup resource with
  | .ok (some found) =>
    let change := Agency.Change.ofIntent r.status (Payload.build r.value found g.policy)
    settle r confirmed (← agency r.scheme (.change change))
  | .ok none => park r ("resource " ++ resource.text ++ " not found")
  | .error e => return .pendingRetry r.status ("resource lookup failed: " ++ e.message)

/-- Sends what a record at rest or at an intent asks for. At rest it asks for nothing. -/
def resume (r : Record) : Operation Outcome := do
  match r.status.confirmed? with
  | none => return .succeeded r.status
  | some confirmed =>
    g.requireConnector r.scheme
    if r.status = .toBeDeleted then
      settle r confirmed (← agency r.scheme (.change (.delete r.value)))
    else
      match r.resource with
      | some resource => g.send r confirmed resource
      | none => park r orphanMessage

/-- Drives a record as far as the agency lets it. An update before registration turns into a
registration first. -/
def drive (r : Record) : Operation Outcome := do
  if needsResource r.status && r.isOrphaned then park r orphanMessage
  else if r.status = .updateBeforeRegistration then g.resume (← commit r .toBeRegistered)
  else g.resume r

end Registrar

end IdentifierRegistrar
