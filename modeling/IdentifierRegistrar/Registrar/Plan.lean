import IdentifierRegistrar.Status

/-!
What a request means for a record. Either the record is already where the request leads, or the
statuses of the plan are committed one after the other and the intent they end in is driven.
-/

namespace IdentifierRegistrar

inductive Action
  | reserve
  | register
  | updateMetadata
  | delete
  deriving DecidableEq, Repr

inductive Plan
  | alreadyDone
  | drive (steps : List Status)
  deriving DecidableEq, Repr

namespace Action

def tag : Action → String
  | reserve => "reserve"
  | register => "register"
  | updateMetadata => "update_metadata"
  | delete => "delete"

def ofTag? (tag : String) : Option Action :=
  [reserve, register, updateMetadata, delete].find? (·.tag == tag)

def reservePlan (s : Status) : Except IllegalTransition Plan :=
  match s with
  | .isReserved => .ok .alreadyDone
  | .toBeReserved => .ok (.drive [])
  | .minted | .pending => .ok (.drive [.toBeReserved])
  | _ => .error ⟨s, .toBeReserved⟩

def registerPlan (s : Status) : Except IllegalTransition Plan :=
  match s with
  | .isRegistered => .ok .alreadyDone
  | .toBeRegistered => .ok (.drive [])
  | .minted | .pending | .isReserved | .updateBeforeRegistration => .ok (.drive [.toBeRegistered])
  | _ => .error ⟨s, .toBeRegistered⟩

/-- An update of what is not yet reserved or registered has nothing to send. -/
def updatePlan (s : Status) : Except IllegalTransition Plan :=
  match s with
  | .isReserved => .ok (.drive [.updateReserved])
  | .isRegistered => .ok (.drive [.updateRegistered])
  | .toBeReserved | .toBeRegistered | .updateReserved | .updateRegistered
  | .updateBeforeRegistration => .ok (.drive [])
  | .minted | .pending => .ok .alreadyDone
  | .toBeDeleted | .deleted => .error ⟨s, .updateRegistered⟩

/-- A record that was only minted is held before it can go. -/
def deletePlan (s : Status) : Except IllegalTransition Plan :=
  match s with
  | .deleted => .ok .alreadyDone
  | .toBeDeleted => .ok (.drive [])
  | .minted => .ok (.drive [.pending, .toBeDeleted])
  | .updateBeforeRegistration => .error ⟨s, .toBeDeleted⟩
  | _ => .ok (.drive [.toBeDeleted])

def plan : Action → Status → Except IllegalTransition Plan
  | reserve => reservePlan
  | register => registerPlan
  | updateMetadata => updatePlan
  | delete => deletePlan

end Action

end IdentifierRegistrar
