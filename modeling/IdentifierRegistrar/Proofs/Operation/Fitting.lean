import IdentifierRegistrar.Proofs.Agency.Understanding
import IdentifierRegistrar.Proofs.Operation.InPlace
import IdentifierRegistrar.Proofs.Operation.Tracked

/-! Operations on what has been minted. Each call to an agency is about a value of the scheme that it is
made for, so the registrar's connectors understand every one of them, and no operation ends with the word
that an identifier is malformed, nor does it come to that with any one record
(`Connectors.Built.no_foreign_value`). -/

namespace IdentifierRegistrar

theorem Except.exists_of_mapM_error {α β ε : Type} {f : α → Except ε β} {as : List α} {e : ε}
    (h : as.mapM f = .error e) : ∃ a ∈ as, f a = .error e := by
  induction as with
  | nil => cases h
  | cons a as ih =>
    rw [List.mapM_cons] at h
    cases ha : f a with
    | error e' =>
      rw [ha] at h
      obtain rfl : e' = e := Except.error.inj h
      exact ⟨a, by simp, ha⟩
    | ok b =>
      rw [ha] at h
      cases has : as.mapM f with
      | error e' =>
        rw [has] at h
        obtain rfl : e' = e := Except.error.inj h
        obtain ⟨a', ha', hfa⟩ := ih has
        exact ⟨a', List.mem_cons_of_mem _ ha', hfa⟩
      | ok bs =>
        rw [has] at h
        cases h

inductive Errand.Later : Errand → Prop
  | execute (id : RecordId) (action : Action) : Later (.execute id action)
  | release (resource : ResourceId) : Later (.release resource)
  | sweep : Later .sweep
  | reconcile (id : RecordId) : Later (.reconcile id)

/-- An end other than that an identifier is malformed. -/
def WellFormed {α : Type} (x : Except RegistrarError α) : Prop :=
  ∀ cause, x ≠ .error (.malformedIdentifier cause)

namespace Service

open Agency (Ordinary)

/-- A call to an agency is about a value of the scheme that it is made for, and the scheme has a
connector. -/
def Apt (g : Registrar) : Request → Prop
  | .agency scheme call => g.connected scheme ∧ ∃ v, call.value? = some v ∧ v.scheme = scheme
  | _ => True

def fitting (g : Registrar) : Setting interface Unit where
  allows _ := Apt g
  moves
    | _, .agency _ _, x, _ => Ordinary x
    | _, _, _, _ => True

end Service

open Service Operation

namespace Operation

variable {α β : Type} {g : Registrar}

/-- An operation whose calls are apt, and which ends well-formed if they end as calls may. -/
def Fitting (g : Registrar) (p : Operation α) : Prop := p.Meets (fitting g) (fun x _ => WellFormed x) ()

theorem Fitting.bind {p : Operation α} {f : α → Operation β} (h : Fitting g p)
    (hf : ∀ a, Fitting g (f a)) : Fitting g (p >>= f) := by
  refine Program.Meets.bind h (fun a _ _ => hf a) fun e _ he cause hx => ?_
  obtain rfl := Except.error.inj hx
  exact he cause rfl

theorem fitting_done (a : α) : Fitting g (.done a) := fun _ h => by cases h

theorem request_fitting {q : Service.Request} (hq : ∀ scheme call, q ≠ .agency scheme call) :
    Fitting g (request q) := by
  refine ⟨?_, fun x _ _ => fitting_done x⟩
  cases q with
  | agency scheme call => exact absurd rfl (hq scheme call)
  | _ => trivial

theorem store_fitting (call : Store.Call) : Fitting g (Operation.store call) := by
  refine (request_fitting (by simp)).bind fun x => ?_
  cases x with
  | ok result => exact fitting_done result
  | error e => exact fun _ h => by cases h

theorem agency_fitting {scheme : Scheme} {call : Agency.Call} {v : IdentifierValue}
    {f : Except AgencyError call.Result → Operation β} (hg : g.connected scheme)
    (hv : call.value? = some v) (hs : v.scheme = scheme)
    (hf : ∀ x, Agency.Ordinary x → Fitting g (f x)) : Fitting g (agency scheme call >>= f) :=
  ⟨⟨hg, v, hv, hs⟩, fun x _ hx => hf x hx⟩

theorem through_fitting {f : α → β → Operation α} (hf : ∀ a b, Fitting g (f a b)) (a : α) (bs : List β) :
    Fitting g (through f a bs) := by
  induction bs generalizing a with
  | nil => exact fitting_done a
  | cons b bs ih => exact (hf a b).bind fun a => ih a

end Operation

namespace Registrar

variable {g : Registrar} {r : Record}

theorem commit_fitting (r : Record) (target : Status) : Fitting g (commit r target) := by
  refine (request_fitting (by simp)).bind fun t => ?_
  cases r.transition target t with
  | ok d => exact store_fitting _
  | error e => exact fun _ h => by cases h

theorem park_fitting (r : Record) (message : String) : Fitting g (park r message) :=
  (request_fitting (by simp)).bind fun _ => (store_fitting _).bind fun _ => fitting_done _

theorem settle_fitting (r : Record) (confirmed : Status) {x : Except AgencyError Unit}
    (hx : Agency.Ordinary x) : Fitting g (settle r confirmed x) := by
  match x, hx with
  | .ok (), _ => exact (commit_fitting r confirmed).bind fun _ => fitting_done _
  | .error (.unreachable reason), _ => exact fitting_done _
  | .error (.rejected status message), _ => exact park_fitting r _

theorem requireConnector_fitting {α : Type} {scheme : Scheme} {f : Unit → Operation α}
    (hf : g.connected scheme → Fitting g (f ())) : Fitting g (g.requireConnector scheme >>= f) := by
  unfold requireConnector
  split
  · rename_i hg
    exact hf hg
  · exact fun _ h => by cases h

theorem send_fitting (hg : g.connected r.scheme) (confirmed : Status) (resource : ResourceId) :
    Fitting g (g.send r confirmed resource) := by
  refine (request_fitting (by simp)).bind fun x => ?_
  match x with
  | .ok (some found) =>
    refine agency_fitting (v := r.value) hg ?_ rfl fun y hy => settle_fitting r confirmed hy
    unfold Agency.Change.ofIntent
    split <;> rfl
  | .ok none => exact park_fitting r _
  | .error e => exact fitting_done _

theorem resume_fitting (g : Registrar) (r : Record) : Fitting g (g.resume r) := by
  unfold resume
  split
  · exact fitting_done _
  · rename_i confirmed _
    refine requireConnector_fitting fun hg => ?_
    split
    · exact agency_fitting hg rfl rfl fun y hy => settle_fitting r confirmed hy
    · split
      · exact send_fitting hg confirmed _
      · exact park_fitting r _

theorem drive_fitting (g : Registrar) (r : Record) : Fitting g (g.drive r) := by
  unfold drive
  split
  · exact park_fitting r _
  split
  · exact (commit_fitting r _).bind fun d => resume_fitting g d
  · exact resume_fitting g r

theorem load_fitting (id : RecordId) : Fitting g (load id) := by
  refine (store_fitting _).bind fun r => ?_
  cases r with
  | some r => exact fitting_done r
  | none => exact fun _ h => by cases h

theorem unmark_fitting (r : Record) (steps : List Status) : Fitting g (unmark r steps) := by
  unfold unmark
  split
  · exact fitting_done r
  · refine (request_fitting (by simp)).bind fun t => ?_
    split
    · exact store_fitting _
    · exact fitting_done _

theorem execute_fitting (g : Registrar) (id : RecordId) (action : Action) :
    Fitting g (g.execute id action) := by
  refine (load_fitting id).bind fun r => ?_
  split
  · exact fun _ h => by cases h
  · exact fitting_done _
  · rename_i steps _
    exact (unmark_fitting r steps).bind fun d =>
      (through_fitting commit_fitting d steps).bind fun e => drive_fitting g e

theorem releaseRecord_fitting (g : Registrar) (r : Record) : Fitting g (g.releaseRecord r) := by
  refine (request_fitting (by simp)).bind fun t => ?_
  have hdrive (d : Record) : Fitting g (g.drive d >>= fun o => pure (d.id, o)) :=
    (drive_fitting g d).bind fun o => fitting_done _
  dsimp only
  split
  · exact (store_fitting _).bind fun d => fitting_done _
  · exact (store_fitting _).bind fun d => hdrive d
  · exact (through_fitting commit_fitting _ _).bind fun d => hdrive d
  · exact (park_fitting _ _).bind fun o => fitting_done _

theorem question_fitting {r : Record} {call : Agency.Call} (hg : g.connected r.scheme)
    (hv : call.value? = some r.value) : Fitting g (question r.scheme call) := by
  refine agency_fitting hg hv rfl fun x hx => ?_
  match x, hx with
  | .ok answer, _ => exact fitting_done answer
  | .error (.unreachable reason), _ => exact fun _ h => by cases h
  | .error (.rejected status message), _ => exact fun _ h => by cases h

theorem reconcile_fitting (g : Registrar) (id : RecordId) : Fitting g (g.reconcile id) :=
  (load_fitting id).bind fun _ => requireConnector_fitting fun hg =>
    (question_fitting hg rfl).bind fun _ => (question_fitting hg rfl).bind fun _ => fitting_done _

end Registrar

def Log.Clean (log : Log) : Prop := ∀ entry ∈ log, WellFormed entry.2

theorem Log.Clean.outcomes {log : Log} (h : log.Clean) :
    WellFormed log.outcomes := by
  intro cause hcause
  obtain ⟨⟨id, x⟩, hentry, hx⟩ := Except.exists_of_mapM_error hcause
  cases x with
  | ok o => cases hx
  | error e =>
    obtain rfl : e = .malformedIdentifier cause := Except.error.inj hx
    exact h _ hentry cause rfl

namespace Registrar

variable {g : Registrar}

/-- What is known of each record holds of the log of all that were gone through. -/
theorem track_fitting {f : Record → Operation (RecordId × Outcome)} (hf : ∀ r, Fitting g (f r))
    (goesOn : Bool) (rs : List Record) :
    (track f goesOn rs).Meets (fitting g) (fun x _ => ∃ log, x = .ok log ∧ log.Clean) () := by
  induction rs with
  | nil => exact ⟨[], rfl, by simp [Log.Clean]⟩
  | cons r rs ih =>
    refine (hf r).attempt_bind fun x _ hx => ?_
    have hentry : WellFormed (entry r x).2 := by
      intro cause hcause
      cases x with
      | ok y => cases hcause
      | error e =>
        obtain rfl : e = .malformedIdentifier cause := Except.error.inj hcause
        exact hx cause rfl
    split
    · refine ih.bind (fun log _ hlog => ?_) fun e _ he => ?_
      · obtain ⟨_, heq, hlog⟩ := hlog
        obtain rfl := Except.ok.inj heq
        exact ⟨_, rfl, List.forall_mem_cons.2 ⟨hentry, hlog⟩⟩
      · obtain ⟨_, he, -⟩ := he
        cases he
    · exact ⟨_, rfl, List.forall_mem_cons.2 ⟨hentry, by simp⟩⟩

/-- The postcondition of an operation with a log: neither the operation nor what it came to with a record
is that an identifier is malformed. -/
def Clear (x : Except RegistrarError (Log × Except RegistrarError Report)) : Prop :=
  ∃ log report, x = .ok (log, report) ∧ log.Clean ∧ WellFormed report

theorem trackList_fitting {list : Operation (List Record)} {f : Record → Operation (RecordId × Outcome)}
    {report : Log → Except RegistrarError Report} (hlist : Fitting g list) (hf : ∀ r, Fitting g (f r))
    (goesOn : Bool) (hreport : ∀ log : Log, log.Clean → WellFormed (report log)) :
    (trackList list f goesOn report).Meets (fitting g) (fun x _ => Clear x) () := by
  refine hlist.attempt_bind fun x _ hx => ?_
  cases x with
  | error e =>
    refine ⟨[], _, rfl, by simp [Log.Clean], fun cause hcause => ?_⟩
    obtain rfl := Except.error.inj hcause
    exact hx cause rfl
  | ok rs =>
    refine (track_fitting hf goesOn rs).bind (fun log _ hlog => ?_) fun e _ he => ?_
    · obtain ⟨_, heq, hlog⟩ := hlog
      obtain rfl := Except.ok.inj heq
      exact ⟨log, _, rfl, hlog, hreport log hlog⟩
    · obtain ⟨_, he, -⟩ := he
      cases he

end Registrar

open Registrar

theorem WellFormed.map {α β : Type} {x : Except RegistrarError α} (h : WellFormed x) (f : α → β) :
    WellFormed (x.map f) := by
  cases x with
  | ok a => exact fun _ h => by cases h
  | error e => exact fun cause hcause => h cause (congrArg _ (Except.error.inj hcause))

theorem Errand.Later.tracked_fitting {e : Errand} (he : e.Later) (g : Registrar) :
    (e.tracked g).Meets (fitting g) (fun x _ => Clear x) () := by
  cases he with
  | execute id action =>
    refine (execute_fitting g id action).attempt_bind fun x _ hx => ?_
    exact ⟨_, _, rfl, by simpa [Log.Clean] using hx, hx.map _⟩
  | release resource =>
    exact trackList_fitting (store_fitting _) (releaseRecord_fitting g) false fun log h => h.outcomes.map _
  | sweep =>
    exact trackList_fitting (store_fitting _)
      (fun r => (drive_fitting g r).bind fun o => fitting_done _) true fun log _ _ h => by cases h
  | reconcile id =>
    refine Program.Meets.attempt_bind (R := fun x _ => WellFormed x) ?_ fun x _ hx =>
      ⟨[], x, rfl, by simp [Log.Clean], hx⟩
    exact (reconcile_fitting g id).bind fun _ => fitting_done _

theorem Errand.Later.operation_fitting {e : Errand} (he : e.Later) (g : Registrar) :
    Fitting g (e.operation g) := by
  refine Errand.meets_operation ((he.tracked_fitting g).mono fun x _ hx => ?_)
  obtain ⟨log, report, rfl, -, hreport⟩ := hx
  exact ⟨(log, report), rfl, hreport⟩

namespace Connectors

def registrar (set : Connectors Connector) (policy : ReleasePolicy) : Registrar :=
  ⟨fun scheme => (set.get? scheme).isSome, policy⟩

/-- Agencies are called through these connectors: a call comes to what the connector of its scheme comes to
with some server. Everything else may be answered in any way. -/
def Behind {σ : Type} (set : Connectors Connector) (answer : Answerer Service.interface σ) : Prop :=
  ∀ scheme call c s, set.get? scheme = some c → ∃ (τ : Type) (server : Answerer Http.interface τ) (t : τ),
    (answer (.agency scheme call) s).1 = ((c.perform call).run server t).1

variable {set : Connectors Connector} {policy : ReleasePolicy} {scheme : Scheme} {call : Agency.Call}

theorem Built.understands (h : set.Built) (hapt : Apt (set.registrar policy) (.agency scheme call)) :
    ∃ c v, set.get? scheme = some c ∧ call.value? = some v ∧ v.scheme = c.scheme ∧ c.Understands call := by
  obtain ⟨hconnected, v, hv, hscheme⟩ := hapt
  obtain ⟨c, hc⟩ := Option.isSome_iff_exists.1 hconnected
  have hsame : v.scheme = c.scheme := hscheme.trans (h.scheme_of_get? hc).symm
  exact ⟨c, v, hc, hv, hsame, Connector.understands_of_scheme hv hsame⟩

/-- Behind connectors as settings make them, an operation whose calls are apt is answered as the contracts of
operations have it. -/
theorem Behind.fitting {σ : Type} {answer : Answerer Service.interface σ} (hset : set.Built)
    (hanswer : set.Behind answer) (policy : ReleasePolicy) (q : Service.Request) (s : σ)
    (hq : (fitting (set.registrar policy)).allows () q) :
    (fitting (set.registrar policy)).moves () q (answer q s).1 () := by
  cases q with
  | agency scheme call =>
    obtain ⟨c, v, hc, hv, -, hunderstands⟩ := hset.understands hq
    obtain ⟨τ, server, t, hx⟩ := hanswer scheme call c s hc
    have hend : Agency.Ordinary ((c.perform call).run server t).1 :=
      ((Connector.perform_orderly hv hunderstands).exchanges (fun _ _ _ => trivial) t).2
    change Agency.Ordinary (answer (.agency scheme call) s).1
    rw [hx]
    exact hend
  | _ => trivial

/-- No connector is given a value of another scheme. Let a registrar be set up with connectors of any
configuration, each added for its own scheme, and let it carry out a request, release a resource, sweep or
reconcile. Whatever the store, the directory and the servers answer, every call to an agency is about a
value that the connector of the call's scheme understands, and it is made, is not completed or is refused.
Neither the operation nor what it came to with any record is that an identifier is malformed. -/
theorem Built.no_foreign_value (hset : set.Built) (policy : ReleasePolicy) {e : Errand} (he : e.Later)
    {σ : Type} {answer : Answerer Service.interface σ} (hanswer : set.Behind answer) (s : σ) :
    (∀ scheme call x, (⟨.agency scheme call, x⟩ : Exchange) ∈
        (e.operation (set.registrar policy)).exchanges answer s →
      ∃ c v, set.get? scheme = some c ∧ call.value? = some v ∧ v.scheme = c.scheme ∧
        c.Understands call ∧ Agency.Ordinary x) ∧
    WellFormed ((e.operation (set.registrar policy)).run answer s).1 ∧
    Clear ((e.tracked (set.registrar policy)).run answer s).1 := by
  have hmoves := Behind.fitting hset hanswer policy
  obtain ⟨hexchanges, hend⟩ := (he.operation_fitting (set.registrar policy)).exchanges hmoves s
  refine ⟨fun scheme call x hx => ?_, hend,
    ((he.tracked_fitting (set.registrar policy)).exchanges hmoves s).2⟩
  obtain ⟨hapt, hordinary⟩ := hexchanges _ hx
  obtain ⟨c, v, hc, hv, hsame, hunderstands⟩ := hset.understands hapt
  exact ⟨c, v, hc, hv, hsame, hunderstands, hordinary⟩

def world {σ : Type} (set : Connectors Connector) (server : Answerer Http.interface σ) : World σ where
  lookup resource s := (.ok (some ⟨resource, .item, Option.none, []⟩), s)
  agency scheme call s :=
    match set.get? scheme with
    | some c => (c.perform call).run server s
    | .none => (.error (.unreachable "no connector"), s)
  freshId s := (⟨0⟩, s)
  now s := (.epoch, s)

theorem behind_world {σ : Type} (set : Connectors Connector) (server : Answerer Http.interface σ) :
    set.Behind (set.world server).answer := by
  intro scheme call c s hc
  refine ⟨σ, server, s.2, ?_⟩
  change ((set.world server).agency scheme call s.2).1 = _
  unfold world
  dsimp only
  rw [hc]

def sample : Connectors Connector :=
  (Connectors.none.add .dark (.offline (.dark "k"))).add .dark (.ark (.ofAddress "http://dark" "k"))

theorem built_sample : sample.Built := .add (.add .none (.offline (.dark "k"))) (.ark _)

def sampleRecord : Record :=
  ⟨⟨10⟩, ⟨.dark, "dark:/k/l", by decide⟩, some ⟨0⟩, .item, .toBeRegistered, .none, 1, .epoch, .epoch⟩

def sampleCall : Agency.Call :=
  .change (.register (.build sampleRecord.value ⟨⟨0⟩, .item, .none, []⟩ ⟨[], .none⟩))

def sampleServer : Answerer Http.interface Unit := fun _ s => (.answer 200 (.whole []), s)

theorem sampleCall_mem : (⟨.agency .dark sampleCall, .ok ()⟩ : Exchange) ∈
    ((Errand.execute ⟨10⟩ .register).operation (sample.registrar ⟨[], .none⟩)).exchanges
      (sample.world sampleServer).answer ([Row.ofRecord sampleRecord], ()) := by
  have hfound : Table.get? [Row.ofRecord sampleRecord] ⟨10⟩ = .ok (some sampleRecord) := by
    decide +kernel
  have hget : Store.answer [Row.ofRecord sampleRecord] (.get ⟨10⟩) =
      (.ok (some sampleRecord), [Row.ofRecord sampleRecord]) := by
    rw [Store.answer, hfound]
    rfl
  rw [Errand.operation, Registrar.execute, Registrar.load]
  simp only [Program.exchanges_bind, Program.run_bind, World.run_store, World.exchanges_store, hget]
  exact .tail _ (.tail _ (.head _))

/-- The service that is called understands what it is called with. -/
theorem sample_understands : ∃ c v, sample.get? .dark = some c ∧ sampleCall.value? = some v ∧
    v.scheme = c.scheme ∧ c.Understands sampleCall ∧ Agency.Ordinary (.ok () : Except AgencyError Unit) :=
  (built_sample.no_foreign_value ⟨[], .none⟩ (.execute ⟨10⟩ .register) (sample.behind_world sampleServer)
    ([Row.ofRecord sampleRecord], ())).1 .dark sampleCall (.ok ()) sampleCall_mem

end Connectors

end IdentifierRegistrar
