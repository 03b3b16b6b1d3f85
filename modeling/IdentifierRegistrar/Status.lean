/-!
The life of an identifier. A status is an intent, recorded here and not yet confirmed by the
registry, or a state of rest. A status changes along the edges of `targets` and in no other way.
-/

namespace IdentifierRegistrar

inductive Status
  | minted
  | pending
  | toBeReserved
  | isReserved
  | toBeRegistered
  | isRegistered
  | updateReserved
  | updateRegistered
  | updateBeforeRegistration
  | toBeDeleted
  | deleted
  deriving DecidableEq, Repr

structure IllegalTransition where
  source : Status
  target : Status
  deriving DecidableEq, Repr

namespace Status

def all : List Status :=
  [minted, pending, toBeReserved, isReserved, toBeRegistered, isRegistered, updateReserved,
    updateRegistered, updateBeforeRegistration, toBeDeleted, deleted]

/-- The statuses whose remote effect is asked for and not confirmed, in the order of a sweep. -/
def intents : List Status :=
  [toBeReserved, toBeRegistered, updateReserved, updateRegistered, updateBeforeRegistration,
    toBeDeleted]

def targets : Status → List Status
  | minted => [pending, toBeRegistered, toBeReserved]
  | pending => [toBeRegistered, toBeReserved, toBeDeleted]
  | toBeReserved => [isReserved, toBeDeleted]
  | isReserved => [updateReserved, toBeRegistered, toBeDeleted]
  | updateReserved => [isReserved, toBeDeleted]
  | toBeRegistered => [isRegistered, toBeDeleted]
  | isRegistered => [updateRegistered, toBeDeleted]
  | updateRegistered => [isRegistered, toBeDeleted]
  | updateBeforeRegistration => [toBeRegistered]
  | toBeDeleted => [deleted]
  | deleted => []

def transition (source target : Status) : Except IllegalTransition Status :=
  if target ∈ source.targets then .ok target else .error ⟨source, target⟩

def tag : Status → String
  | minted => "minted"
  | pending => "pending"
  | toBeReserved => "to_be_reserved"
  | isReserved => "is_reserved"
  | toBeRegistered => "to_be_registered"
  | isRegistered => "is_registered"
  | updateReserved => "update_reserved"
  | updateRegistered => "update_registered"
  | updateBeforeRegistration => "update_before_registration"
  | toBeDeleted => "to_be_deleted"
  | deleted => "deleted"

def ofTag? (tag : String) : Option Status := all.find? (·.tag == tag)

def label : Status → String
  | minted => "Minted"
  | pending => "Pending approval"
  | toBeReserved => "Queued for reservation"
  | isReserved => "Reserved"
  | toBeRegistered => "Queued for registration"
  | isRegistered => "Registered"
  | updateReserved => "Reserved, metadata update queued"
  | updateRegistered => "Registered, metadata update queued"
  | updateBeforeRegistration => "Metadata update queued before registration"
  | toBeDeleted => "Queued for deletion"
  | deleted => "Deleted"

def isIntent (s : Status) : Bool := s ∈ intents

/-- The status that an intent comes to rest at once the registry has answered. An update before
registration has none: it turns into a registration first. -/
def confirmed? : Status → Option Status
  | toBeReserved | updateReserved => some isReserved
  | toBeRegistered | updateRegistered => some isRegistered
  | toBeDeleted => some deleted
  | _ => none

theorem mem_all (s : Status) : s ∈ all := by cases s <;> decide

theorem ofTag?_tag (s : Status) : ofTag? s.tag = some s := by cases s <;> decide

theorem transition_eq_ok_iff {source target s : Status} :
    source.transition target = .ok s ↔ target ∈ source.targets ∧ s = target := by
  unfold transition
  split <;> simp_all [eq_comm]

theorem confirmed?_mem_targets {s t : Status} (h : s.confirmed? = some t) : t ∈ s.targets := by
  cases s <;> simp [confirmed?, targets] at h ⊢ <;> simp [← h]

end Status

def IllegalTransition.message (e : IllegalTransition) : String :=
  "illegal status transition: " ++ e.source.tag ++ " -> " ++ e.target.tag

end IdentifierRegistrar
