import IdentifierRegistrar.Proofs.Operation.Errand
import IdentifierRegistrar.Proofs.Operation.Driving

/-! Who adds records to the store, and for want of what an operation ends. A mint inserts records, and no
other operation does, whatever it is answered (`Errand.operation_addsNothing`); and where an operation ends
because a connector is missing, it is one of a scheme that has none (`Errand.operation_proper`). -/

namespace IdentifierRegistrar

def Service.adding : Setting Service.interface Unit where
  allows _ q := ∀ r, q ≠ .store (.insert r)
  moves _ _ _ _ := True

def Service.inserting (adds : Prop) : Setting Service.interface Unit where
  allows _ q := adds ∨ ∀ r, q ≠ .store (.insert r)
  moves _ _ _ _ := True

open Service Operation

namespace Operation

variable {α β : Type} {g : Registrar} {adds : Prop}

def AddsNothing (p : Operation α) : Prop := p.Meets adding (fun _ _ => True) ()

/-- Records are inserted only if `adds`, and only a connector that is not there is missed. -/
def Proper (g : Registrar) (adds : Prop) (p : Operation α) : Prop :=
  p.Meets (inserting adds) (fun x _ => ∀ scheme, x = .error (.noConnector scheme) → ¬g.connected scheme) ()

theorem Proper.addsNothing {p : Operation α} (h : Proper g adds p) (hadds : ¬adds) : AddsNothing p :=
  Program.Meets.allow (S := inserting adds) (fun _ _ hallows => Or.resolve_left hallows hadds) rfl
    (h.mono fun _ _ _ => trivial)

/-- With a connector for each scheme nothing ends for want of one. -/
theorem Proper.run_ne {σ : Type} {p : Operation α} (h : Proper g adds p)
    (hg : ∀ scheme, g.connected scheme) (answer : Answerer Service.interface σ) (s : σ) (scheme : Scheme) :
    (p.run answer s).1 ≠ .error (.noConnector scheme) :=
  fun herror => (Program.Meets.exchanges h (fun _ _ _ => trivial) s).2 scheme herror (hg scheme)

theorem proper_done (a : α) : Proper g adds (.done a) := nofun

theorem proper_fail {e : RegistrarError} (h : ∀ scheme, e ≠ .noConnector scheme) :
    Proper g adds (.fail e : Operation α) := fun scheme he => absurd (Except.error.inj he) (h scheme)

theorem Proper.bind {p : Operation α} {f : α → Operation β} (h : Proper g adds p)
    (hf : ∀ a, Proper g adds (f a)) : Proper g adds (p >>= f) :=
  Program.Meets.bind h (fun a _ _ => hf a) fun _ _ he scheme hx =>
    he scheme (congrArg Except.error (Except.error.inj hx))

theorem Proper.attempt {p : Operation α} (h : Proper g adds p) :
    Proper g adds (p.attempt : Operation (Except RegistrarError α)) :=
  Program.meets_attempt.2 (h.mono fun _ _ _ => nofun)

theorem request_proper {q : Service.Request} (hq : adds ∨ ∀ r, q ≠ .store (.insert r)) :
    Proper g adds (request q) :=
  ⟨hq, fun x _ _ => proper_done x⟩

theorem store_proper {call : Store.Call} (hcall : ∀ r, call ≠ .insert r) :
    Proper g adds (Operation.store call) := by
  refine (request_proper (.inr fun r h => hcall r (Service.Request.store.inj h))).bind fun x => ?_
  cases x with
  | ok result => exact proper_done result
  | error e => exact proper_fail nofun

theorem through_proper {f : α → β → Operation α} (hf : ∀ a b, Proper g adds (f a b)) (a : α)
    (bs : List β) : Proper g adds (through f a bs) := by
  induction bs generalizing a with
  | nil => exact proper_done a
  | cons b bs ih => exact (hf a b).bind fun a => ih a

theorem forEach_proper {f : α → Operation β} (hf : ∀ a, Proper g adds (f a)) (as : List α) :
    Proper g adds (forEach f as) := by
  induction as with
  | nil => exact proper_done []
  | cons a as ih => exact (hf a).bind fun b => ih.bind fun bs => proper_done (b :: bs)

end Operation

namespace Registrar

variable {g : Registrar} {adds : Prop}

theorem requireConnector_proper (scheme : Scheme) : Proper g adds (g.requireConnector scheme) := by
  unfold requireConnector
  split
  · exact proper_done ()
  · rename_i hg
    intro scheme' h
    cases h
    exact hg

theorem now_proper : Proper g adds now := request_proper (.inr (by simp))

theorem write_proper (r : Record) : Proper g adds (write r) := store_proper (by simp)

theorem commit_proper (r : Record) (target : Status) : Proper g adds (commit r target) := by
  refine now_proper.bind fun t => ?_
  cases r.transition target t with
  | ok d => exact write_proper d
  | error e => exact proper_fail nofun

theorem park_proper (r : Record) (message : String) : Proper g adds (park r message) :=
  now_proper.bind fun _ => (write_proper _).bind fun _ => proper_done _

theorem settle_proper (r : Record) (confirmed : Status) (x : Except AgencyError Unit) :
    Proper g adds (settle r confirmed x) := by
  rcases x with e | ⟨⟩
  · cases e with
    | unreachable reason => exact proper_done _
    | rejected status message => exact park_proper r _
    | malformedValue cause => exact proper_fail nofun
  · exact (commit_proper r confirmed).bind fun _ => proper_done _

theorem resume_proper (r : Record) : Proper g adds (g.resume r) := by
  refine resume_meets_of (P := fun _ => True) (fun _ => trivial) (fun _ => nofun) ?_
    (fun _ _ => park_proper r _) (fun _ _ _ => .inr fun _ h => by cases h) (fun _ _ _ _ _ _ _ => nofun)
    (fun _ _ _ _ _ _ => park_proper r _) (fun _ _ _ _ _ _ => trivial) fun _ _ _ _ _ _ => ?_
  · intro _ hg scheme h
    cases h
    exact hg
  · exact Proper.bind (request_proper (.inr (by simp))) (settle_proper r _)

theorem drive_proper (r : Record) : Proper g adds (g.drive r) :=
  drive_meets_of (fun _ _ => park_proper r _)
    (fun _ => Proper.bind (commit_proper r _) resume_proper)
    fun _ => resume_proper r

theorem load_proper (id : RecordId) : Proper g adds (load id) := by
  refine (store_proper (by simp)).bind fun found => ?_
  cases found with
  | some r => exact proper_done r
  | none => exact proper_fail nofun

theorem unmark_proper (r : Record) (steps : List Status) : Proper g adds (unmark r steps) := by
  unfold unmark
  split
  · exact proper_done r
  · refine now_proper.bind fun t => ?_
    dsimp only
    split
    · exact write_proper _
    · exact proper_done _

theorem execute_proper (id : RecordId) (action : Action) : Proper g adds (g.execute id action) := by
  refine (load_proper id).bind fun r => ?_
  split
  · exact proper_fail nofun
  · exact proper_done _
  · rename_i steps _
    exact (unmark_proper r steps).bind fun d =>
      (through_proper commit_proper d steps).bind drive_proper

theorem releaseRecord_proper (r : Record) : Proper g adds (g.releaseRecord r) := by
  refine now_proper.bind fun t => ?_
  have hdrive (d : Record) : Proper g adds (g.drive d >>= fun o => pure (d.id, o)) :=
    (drive_proper d).bind fun o => proper_done _
  dsimp only
  split
  · exact (write_proper _).bind fun d => proper_done _
  · exact (write_proper _).bind hdrive
  · exact (through_proper commit_proper _ _).bind hdrive
  · exact (park_proper _ _).bind fun o => proper_done _

theorem release_proper (resource : ResourceId) : Proper g adds (g.release resource) :=
  (store_proper (by simp)).bind fun rs => forEach_proper releaseRecord_proper rs

theorem sweep_proper : Proper g adds g.sweep :=
  (store_proper (by simp)).bind fun rs =>
    (forEach_proper (fun r => (drive_proper r).attempt) rs).bind fun _ => proper_done _

theorem ofAgency_ne (e : AgencyError) (scheme : Scheme) :
    RegistrarError.ofAgency e ≠ .noConnector scheme := by
  cases e <;> nofun

theorem question_proper (scheme : Scheme) (call : Agency.Call) :
    Proper g adds (question scheme call) := by
  refine (request_proper (.inr (by simp))).bind fun x => ?_
  cases x with
  | ok answer => exact proper_done answer
  | error e => exact proper_fail (ofAgency_ne e)

theorem reconcile_proper (id : RecordId) : Proper g adds (g.reconcile id) :=
  (load_proper id).bind fun r => (requireConnector_proper r.scheme).bind fun _ =>
    (question_proper _ _).bind fun _ => (question_proper _ _).bind fun _ => proper_done _

theorem hold_proper (id : RecordId) : Proper g adds (hold id) :=
  (load_proper id).bind fun r => commit_proper r _

theorem identifiersFor_proper (resource : ResourceId) : Proper g adds (identifiersFor resource) :=
  (store_proper (by simp)).bind fun rs => proper_done _

theorem resolve_proper (text : String) : Proper g adds (resolve text) := by
  unfold resolve
  split
  · exact proper_fail nofun
  · refine (store_proper (by simp)).bind fun found => ?_
    cases found with
    | some r => exact proper_done _
    | none => exact proper_fail nofun

theorem mintNew_proper (hadds : adds) (resource : Resource) (scheme : Scheme) (wanted : ResourceId) :
    Proper g adds (g.mintNew resource scheme wanted) := by
  refine (requireConnector_proper scheme).bind fun _ => (request_proper (.inl hadds)).bind fun id =>
    (request_proper (.inl hadds)).bind fun x => ?_
  cases x with
  | error e => exact proper_fail (ofAgency_ne e)
  | ok value =>
    refine now_proper.bind fun t => (request_proper (.inl hadds)).bind fun inserted => ?_
    rcases inserted with e | done
    · cases e with
      | liveRecordExists resource scheme =>
        refine (store_proper (by simp)).bind fun found => ?_
        cases found with
        | some winner => exact proper_done winner
        | none => exact proper_fail nofun
      | _ => exact proper_fail nofun
    · exact proper_done _

theorem mint_proper (hadds : adds) (resource : ResourceId) (scheme : Scheme) :
    Proper g adds (g.mint resource scheme) := by
  refine (store_proper (by simp)).bind fun found => ?_
  cases found with
  | some r => exact proper_done r
  | none =>
    refine (request_proper (.inl hadds)).bind fun x => ?_
    rcases x with e | (_ | resource')
    · exact proper_fail nofun
    · exact proper_fail nofun
    · exact mintNew_proper hadds resource' scheme resource

end Registrar

theorem Errand.operation_proper (g : Registrar) (e : Errand) :
    Proper g (∃ resource scheme, e = .mint resource scheme) (e.operation g) := by
  cases e with
  | mint resource scheme =>
    exact (Registrar.mint_proper ⟨_, _, rfl⟩ resource scheme).bind fun _ => proper_done _
  | hold id => exact (Registrar.hold_proper id).bind fun _ => proper_done _
  | execute id action => exact (Registrar.execute_proper id action).bind fun _ => proper_done _
  | release resource => exact (Registrar.release_proper resource).bind fun _ => proper_done _
  | sweep => exact Registrar.sweep_proper.bind fun _ => proper_done _
  | reconcile id => exact (Registrar.reconcile_proper id).bind fun _ => proper_done _
  | identifiersFor resource => exact (Registrar.identifiersFor_proper resource).bind fun _ => proper_done _
  | resolve text => exact (Registrar.resolve_proper text).bind fun _ => proper_done _

theorem Errand.operation_addsNothing (g : Registrar) {e : Errand}
    (he : ∀ resource scheme, e ≠ .mint resource scheme) : AddsNothing (e.operation g) :=
  (e.operation_proper g).addsNothing fun ⟨resource, scheme, h⟩ => he resource scheme h

end IdentifierRegistrar
