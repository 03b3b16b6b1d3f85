import IdentifierRegistrar.Proofs.Course.Sweeps
import IdentifierRegistrar.Proofs.Operation.Preparing

/-! A request whose answers are lost, and which is made again or taken up by sweeps. Each time the change
is asked for once, and nothing is written until an answer comes; then the record rests, and whatever comes
after finds nothing to do. Main result: `lost_answers_converge`. -/

namespace IdentifierRegistrar

open Service Operation

namespace Service

def agencyCalls (es : List Exchange) : List (Scheme × Agency.Call) :=
  es.filterMap fun
    | ⟨.agency scheme call, _⟩ => some (scheme, call)
    | _ => none

end Service

namespace Registrar

section Preparing

variable {σ : Type} {w : World σ} {calls : σ → Nat} {row : Row} {c d r : Record} {steps : List Status}

theorem agencyCalls_append (es es' : List Exchange) :
    agencyCalls (es ++ es') = agencyCalls es ++ agencyCalls es' := List.filterMap_append

theorem agencyCalls_of_remotes {es : List Exchange} (h : remotes es = []) : agencyCalls es = [] := by
  rw [remotes, List.filter_eq_nil_iff] at h
  rw [agencyCalls, List.filterMap_eq_nil_iff]
  rintro ⟨q, y⟩ hy
  have hlocal := h _ hy
  cases q with
  | agency scheme call => exact absurd rfl hlocal
  | _ => rfl

/-- A request begins with the writes of its plan; then it drives the record. -/
theorem execute_begins {a : Action} (g : Registrar) (hnow : ∀ u, calls (w.now u).2 = calls u)
    (hrow : row.Keeps r) (hplan : a.plan r.status = .ok (.drive steps)) (u : σ) : ∃ e mid u₁ es₁,
      mid.Keeps e.stored ∧ r.Stage e ∧ e.attention = none ∧ e.status = steps.getLastD r.status ∧
      agencyCalls es₁ = [] ∧ calls u₁ = calls u ∧
      (∀ before after, Table.Sound (before ++ row :: after) → Table.Sound (before ++ mid :: after)) ∧
      ∀ {x left u' es}, InPlace w (g.drive e) mid u₁ x left u' es →
        InPlace w (g.execute r.id a) row u x left u' (es₁ ++ es) := by
  obtain ⟨e, mid, u₁, es₁, hmid, hstage, hmark, hstatus, hquiet, -, hcalls, hsound, hexecute⟩ :=
    execute_prepares _ g hnow hrow hplan u
  exact ⟨e, mid, u₁, es₁, hmid, hstage, hmark, hstatus, agencyCalls_of_remotes hquiet, hcalls, hsound,
    hexecute⟩

end Preparing

end Registrar

section Intents

variable {a : Action} {s intent confirmed : Status} {steps : List Status}

/-- The intent that a request is carried out by. An update has several. -/
def Action.intent? : Action → Option Status
  | reserve => some .toBeReserved
  | register => some .toBeRegistered
  | delete => some .toBeDeleted
  | updateMetadata => none

theorem Action.getLastD_eq_intent (ha : a.intent? = some intent)
    (h : a.plan s = .ok (.drive steps)) : steps.getLastD s = intent := by
  cases a <;> cases ha <;> cases s <;> cases h <;> rfl

theorem Action.plan_intent (ha : a.intent? = some intent) : a.plan intent = .ok (.drive []) := by
  cases a <;> cases ha <;> rfl

theorem Action.plan_confirmed (ha : a.intent? = some intent) (hc : intent.confirmed? = some confirmed) :
    a.plan confirmed = .ok .alreadyDone := by
  cases a <;> cases ha <;> cases hc <;> rfl

theorem Action.asks_intent (ha : a.intent? = some intent) : intent.asks? = some a := by
  cases a <;> cases ha <;> rfl

theorem Action.intent_mem (ha : a.intent? = some intent) : intent ∈ Status.intents := by
  cases a <;> cases ha <;> decide

theorem Action.confirmed_not_mem (ha : a.intent? = some intent) (hc : intent.confirmed? = some confirmed) :
    confirmed ∉ Status.intents := by
  cases a <;> cases ha <;> cases hc <;> decide

end Intents

/-- The answers to the first `n` changes are lost, and then the agencies agree; the resource is found.
`calls` counts the changes that were asked for. -/
structure World.Recovers {σ : Type} (w : World σ) (resource : ResourceId) (n : Nat) (calls : σ → Nat) :
    Prop where
  now : ∀ u, calls (w.now u).2 = calls u
  found : ∀ u, ∃ x, (w.lookup resource u).1 = .ok (some x)
  looks : ∀ u, calls (w.lookup resource u).2 = calls u
  counts : ∀ scheme c u, calls (w.agency scheme (.change c) u).2 = calls u + 1
  lost : ∀ scheme c u, calls u < n →
    ∃ reason, (w.agency scheme (.change c) u).1 = .error (.unreachable reason)
  agrees : ∀ scheme c u, n ≤ calls u → (w.agency scheme (.change c) u).1 = .ok ()

namespace Registrar

section Driving

variable {σ : Type} {w : World σ} {calls : σ → Nat} {n : Nat} {resource : ResourceId} {g : Registrar}
  {row : Row} {e : Record} {confirmed : Status}

/-- The record stands at an intent and can be driven: what `drive` needs to come to the agency. -/
structure Due (g : Registrar) (resource : ResourceId) (confirmed : Status) (e : Record) : Prop where
  connected : g.connected e.scheme
  bound : e.resource = some resource
  confirmed : e.status.confirmed? = some confirmed

theorem Due.stored (h : Due g resource confirmed e) : Due g resource confirmed e.stored :=
  ⟨h.connected, h.bound, h.confirmed⟩

/-- Driving a record that is due comes to the change that it asks for, and goes on with the answer. -/
theorem drive_asks (hw : w.Recovers resource n calls) (he : Due g resource confirmed e) (row : Row)
    (u : σ) : ∃ c u₁ es₁, c.Suits e ∧ agencyCalls es₁ = [] ∧ writes es₁ = [] ∧ calls u₁ = calls u ∧
      ∀ {x left u' es}, InPlace w (agency e.scheme (.change c) >>= settle e confirmed) row u₁ x left u' es →
        InPlace w (g.drive e) row u x left u' (es₁ ++ es) := by
  have hubr : e.status ≠ .updateBeforeRegistration := by
    intro h
    have := he.confirmed
    simp [h, Status.confirmed?] at this
  have hdrive : g.drive e = g.resume e := by
    unfold drive
    rw [if_neg (by simp [Record.isOrphaned, he.bound]), if_neg hubr]
  have hresume : g.resume e = (if e.status = .toBeDeleted then
      agency e.scheme (.change (.delete e.value)) >>= settle e confirmed
    else g.send e confirmed resource) := by
    unfold resume requireConnector
    simp only [he.confirmed, he.connected, if_true, Program.pure_eq, Program.done_bind, he.bound]
  rw [hdrive, hresume]
  by_cases hd : e.status = .toBeDeleted
  · refine ⟨.delete e.value, u, [], ⟨rfl, by rw [hd]; rfl⟩, rfl, rfl, rfl, fun {x left u' es} h => ?_⟩
    rw [if_pos hd]
    exact h
  · obtain ⟨found, hfound⟩ := hw.found u
    refine ⟨_, (w.lookup resource u).2, [⟨.lookup resource, .ok (some found)⟩],
      ofIntent_suits found g.policy he.confirmed hd, rfl, rfl, hw.looks u, fun {x left u' es} h => ?_⟩
    rw [if_neg hd]
    refine InPlace.ask (.of_world (fun t => ?_) row) h
    change ((w.lookup resource u).1, t, (w.lookup resource u).2) = _
    rw [hfound]
    rfl

def AsksOnce (e : Record) (es : List Exchange) : Prop :=
  ∃ c, c.Suits e ∧ agencyCalls es = [(e.scheme, .change c)]

theorem agency_in_place {c : Agency.Change} {x : Except AgencyError Unit}
    {f : Except AgencyError Unit → Operation Outcome} {y : Except RegistrarError Outcome} {left : Row} {u u' : σ}
    {es : List Exchange}
    (hx : (w.agency e.scheme (.change c) u).1 = x)
    (h : InPlace w (f x) row (w.agency e.scheme (.change c) u).2 y left u' es) :
    InPlace w (agency e.scheme (.change c) >>= f) row u y left u'
      (⟨.agency e.scheme (.change c), x⟩ :: es) := by
  subst hx
  exact (change_in_place e.scheme c row w u).bind h

theorem drive_lost (hw : w.Recovers resource n calls) (he : Due g resource confirmed e) (row : Row)
    {u : σ} (hu : calls u < n) : ∃ reason u' es,
      InPlace w (g.drive e) row u (.ok (.pendingRetry e.status reason)) row u' es ∧ AsksOnce e es ∧
      writes es = [] ∧ calls u' = calls u + 1 := by
  obtain ⟨c, u₁, es₁, hc, hquiet, hwrites, hcalls, hdrive⟩ := drive_asks hw he row u
  obtain ⟨reason, hreason⟩ := hw.lost e.scheme c u₁ (hcalls ▸ hu)
  refine ⟨reason, _, _, hdrive (agency_in_place hreason (.done w _ row _)), ⟨c, hc, ?_⟩, ?_, ?_⟩
  · rw [agencyCalls_append, hquiet]
    rfl
  · rw [writes_append, hwrites]
    rfl
  · rw [hw.counts, hcalls]

theorem drive_agreed (hw : w.Recovers resource n calls) (he : Due g resource confirmed e)
    (hrow : row.Keeps e.stored) {u : σ} (hu : n ≤ calls u) : ∃ d left u' es,
      InPlace w (g.drive e) row u (.ok (.succeeded confirmed)) left u' es ∧ left.Keeps d.next.stored ∧
      e.Stage d ∧ d.status = confirmed ∧ d.attention = e.attention ∧ AsksOnce e es ∧ writes es = [d] ∧
      calls u' = calls u + 1 := by
  obtain ⟨c, u₁, es₁, hc, hquiet, hwrites, hcalls, hdrive⟩ := drive_asks hw he row u
  have hok := hw.agrees e.scheme c u₁ (hcalls ▸ hu)
  have htarget := Status.confirmed?_mem_targets he.confirmed
  have hcommit := commit_in_place hrow (.refl e) htarget w (w.agency e.scheme (.change c) u₁).2
  have hrevision : e.Revision (e.moveTo confirmed (w.now (w.agency e.scheme (.change c) u₁).2).1) :=
    (Record.Draft.refl e).transition (Record.transition_eq_ok_iff.2 ⟨htarget, rfl⟩)
  refine ⟨_, _, _, _, hdrive (agency_in_place hok (.bind hcommit (.done w _ _ _))),
    hrow.updateFrom hrevision, ⟨rfl, rfl, rfl⟩, rfl, rfl, ⟨c, hc, ?_⟩, ?_, ?_⟩
  · rw [agencyCalls_append, hquiet]
    rfl
  · rw [writes_append, hwrites]
    rfl
  · rw [hw.now, hw.counts, hcalls]

end Driving

section Again

variable {σ : Type} {w : World σ} {g : Registrar} {row left : Row} {r : Record} {a : Action} {u u' : σ}
  {x : Except RegistrarError Outcome} {es : List Exchange}

theorem execute_again (hrow : row.Keeps r) (hplan : a.plan r.status = .ok (.drive []))
    (hm : r.attention = none) (hdrive : InPlace w (g.drive r) row u x left u' es) :
    InPlace w (g.execute r.id a) row u x left u' (⟨.store (.get r.id), .ok (some r)⟩ :: es) := by
  refine InPlace.bind (load_in_place hrow w u) ?_
  have hunmark : unmark r [] = .done r := by
    rw [unmark, if_pos (by rw [hm]; rfl)]
    rfl
  rw [hplan]
  change InPlace w (unmark r [] >>= fun r => through commit r [] >>= g.drive) row u x left u' es
  rw [hunmark]
  exact hdrive

end Again

end Registrar

def Errand.reports (o : Outcome) : Errand → Report
  | sweep => .stats (SweepStats.tally [.ok o])
  | _ => .outcome o

def Errand.reportsRest (confirmed : Status) : Errand → Report
  | sweep => .stats .zero
  | _ => .outcome (.succeeded confirmed)

structure Visit where
  errand : Errand
  result : Except RegistrarError Report
  table : Table
  exchanges : List Exchange

def visits {σ : Type} (g : Registrar) (w : World σ) : List Errand → Table × σ → List Visit
  | [], _ => []
  | e :: errands, s =>
    let (result, s') := (e.operation g).run w.answer s
    ⟨e, result, s'.1, (e.operation g).exchanges w.answer s⟩ :: visits g w errands s'

/-- One change was asked for: what `a` is carried out by, for the value of `r`. -/
def AsksFor (a : Action) (r : Record) (es : List Exchange) : Prop :=
  ∃ c : Agency.Change, c.action = a ∧ c.value = r.value ∧ agencyCalls es = [(r.scheme, .change c)]

theorem AsksFor.of_eq {a : Action} {r : Record} {es es' : List Exchange} (h : AsksFor a r es)
    (heq : agencyCalls es' = agencyCalls es) : AsksFor a r es' := by
  obtain ⟨c, haction, hvalue, hcalls⟩ := h
  exact ⟨c, haction, hvalue, heq.trans hcalls⟩

namespace Visit

structure Waits (a : Action) (r : Record) (intent : Status) (waiting : Table) (v : Visit) : Prop where
  result : ∃ reason, v.result = .ok (v.errand.reports (.pendingRetry intent reason))
  table : v.table = waiting
  asks : AsksFor a r v.exchanges

structure Confirms (a : Action) (r : Record) (confirmed : Status) (resting : Table) (v : Visit) :
    Prop where
  result : v.result = .ok (v.errand.reports (.succeeded confirmed))
  table : v.table = resting
  asks : AsksFor a r v.exchanges

structure Rests (confirmed : Status) (resting : Table) (v : Visit) : Prop where
  result : v.result = .ok (v.errand.reportsRest confirmed)
  table : v.table = resting
  quiet : agencyCalls v.exchanges = []
  writes : writes v.exchanges = []

end Visit

section Errands

open Registrar

variable {σ : Type} {w : World σ} {g : Registrar} {row left : Row} {r : Record} {a : Action} {u u' : σ}
  {before after : Table} {o : Outcome} {es : List Exchange} {errand : Errand}

/-- The errands that come to the record of `id`: the request, and a sweep if there is nothing else that
it would come to. -/
def ComesTo (id : RecordId) (a : Action) (before after : Table) (errand : Errand) : Prop :=
  errand = .execute id a ∨ errand = .sweep ∧ Table.Lone Status.intents before after

theorem visit_of_execute {x : Except RegistrarError Outcome} {id : RecordId}
    (hsound : Table.Sound (before ++ row :: after))
    (h : InPlace w (g.execute id a) row u x left u' es) :
    ((Errand.execute id a).operation g).run w.answer (before ++ row :: after, u) =
        (x.map .outcome, before ++ left :: after, u') ∧
      ((Errand.execute id a).operation g).exchanges w.answer (before ++ row :: after, u) = es := by
  rw [Errand.operation, Program.run_bind, Program.exchanges_bind, h.run before after hsound,
    h.exchanges before after hsound]
  cases x with
  | ok o => exact ⟨rfl, List.append_nil es⟩
  | error e => exact ⟨rfl, List.append_nil es⟩

/-- The errand asks no agency and writes `ws`, and with the row at `mid` it drives `e`. -/
def Drives (g : Registrar) (w : World σ) (before after : Table) (errand : Errand) (row : Row) (u : σ)
    (ws : List Record) (e : Record) (mid : Row) (u₁ : σ) : Prop :=
  ∀ {o left u' es}, InPlace w (g.drive e) mid u₁ (.ok o) left u' es →
    (errand.operation g).run w.answer (before ++ row :: after, u) =
        (.ok (errand.reports o), before ++ left :: after, u') ∧
      agencyCalls ((errand.operation g).exchanges w.answer (before ++ row :: after, u)) =
        agencyCalls es ∧
      writes ((errand.operation g).exchanges w.answer (before ++ row :: after, u)) = ws ++ writes es

/-- An errand that comes to a record at the intent of `a` drives it at once. -/
theorem ComesTo.drives {intent : Status} (he : ComesTo r.id a before after errand)
    (hsound : Table.Sound (before ++ row :: after)) (hrow : row.Keeps r) (ha : a.intent? = some intent)
    (hi : r.status = intent) (hm : r.attention = none) (u : σ) :
    Drives g w before after errand row u [] r row u := by
  intro o left u' es h
  rcases he with rfl | ⟨rfl, hlone⟩
  · have hplan : a.plan r.status = .ok (.drive []) := by rw [hi, Action.plan_intent ha]
    obtain ⟨hrun, hexchanges⟩ := visit_of_execute hsound (execute_again hrow hplan hm h)
    rw [hexchanges]
    exact ⟨hrun, rfl, rfl⟩
  · have hretry : row.isRetryable Status.intents = true := by
      rw [Row.isRetryable_iff_of_record hrow.record]
      exact ⟨hi ▸ Action.intent_mem ha, hm⟩
    have hlist := hlone.listRetryable (by decide) hrow.record hretry
    obtain ⟨hrun, hexchanges⟩ := sweep_only hsound hlist h
    rw [Errand.operation, Program.run_bind, Program.exchanges_bind, hrun, hexchanges]
    refine ⟨rfl, ?_, ?_⟩
    · exact (agencyCalls_append (_ :: es) []).trans (List.append_nil _)
    · exact (writes_append (_ :: es) []).trans (List.append_nil _)

theorem visit_rests {intent confirmed : Status} (he : ComesTo r.id a before after errand)
    (hsound : Table.Sound (before ++ row :: after)) (hrow : row.Keeps r) (ha : a.intent? = some intent)
    (hc : intent.confirmed? = some confirmed) (hr : r.status = confirmed) (w : World σ) (u : σ) :
    (errand.operation g).run w.answer (before ++ row :: after, u) =
        (.ok (errand.reportsRest confirmed), before ++ row :: after, u) ∧
      agencyCalls ((errand.operation g).exchanges w.answer (before ++ row :: after, u)) = [] ∧
      writes ((errand.operation g).exchanges w.answer (before ++ row :: after, u)) = [] := by
  rcases he with rfl | ⟨rfl, hlone⟩
  · have hplan : a.plan r.status = .ok .alreadyDone := by rw [hr, Action.plan_confirmed ha hc]
    obtain ⟨hrun, hexchanges⟩ := visit_of_execute hsound (execute_rested (g := g) hrow hplan w u)
    rw [hexchanges, hrun, ← hr]
    exact ⟨rfl, rfl, rfl⟩
  · have hretry : ¬ row.isRetryable Status.intents = true := by
      rw [Row.isRetryable_iff_of_record hrow.record, hr]
      exact fun h => Action.confirmed_not_mem ha hc h.1
    have hlist := hlone.listRetryable_eq_nil (by decide) hrow.record hretry
    obtain ⟨hrun, hexchanges⟩ := sweep_empty g w u hlist
    rw [Errand.operation, Program.run_bind, Program.exchanges_bind, hrun, hexchanges]
    exact ⟨rfl, rfl, rfl⟩

variable {intent confirmed : Status} {e : Record} {errands : List Errand}

theorem visits_cons {result : Except RegistrarError Report} {s s' : Table × σ}
    (h : (errand.operation g).run w.answer s = (result, s')) (errands : List Errand) :
    visits g w (errand :: errands) s =
      ⟨errand, result, s'.1, (errand.operation g).exchanges w.answer s⟩ :: visits g w errands s' := by
  rw [visits, h]

theorem length_visits (g : Registrar) (w : World σ) (errands : List Errand) (s : Table × σ) :
    (visits g w errands s).length = errands.length := by
  induction errands generalizing s with
  | nil => rfl
  | cons errand errands ih => exact congrArg (· + 1) (ih _)

theorem Registrar.AsksOnce.asksFor (h : AsksOnce e es) (hstage : r.Stage e)
    (ha : a.intent? = some intent) (hi : e.status = intent) : AsksFor a r es := by
  obtain ⟨c, ⟨hvalue, hasks⟩, hcalls⟩ := h
  rw [hi, Action.asks_intent ha] at hasks
  refine ⟨c, (Option.some.inj hasks).symm, hvalue.trans hstage.value, ?_⟩
  rw [hcalls, show e.scheme = r.scheme from congrArg IdentifierValue.scheme hstage.value]

/-- Once the record rests, nothing happens any more. -/
theorem visits_rest (hsound : Table.Sound (before ++ row :: after)) (hrow : row.Keeps e)
    (ha : a.intent? = some intent) (hc : intent.confirmed? = some confirmed) (hi : e.status = confirmed)
    (w : World σ) (u : σ) (herrands : ∀ errand ∈ errands, ComesTo e.id a before after errand) :
    ∀ v ∈ visits g w errands (before ++ row :: after, u), v.Rests confirmed (before ++ row :: after) := by
  induction errands with
  | nil => intro v hv; cases hv
  | cons errand errands ih =>
    obtain ⟨hrun, hquiet, hwrites⟩ := visit_rests (g := g) (herrands errand (by simp)) hsound hrow ha hc hi w u
    rw [visits_cons hrun]
    intro v hv
    rcases List.mem_cons.1 hv with rfl | hv
    · exact ⟨rfl, rfl, hquiet, hwrites⟩
    · exact ih (fun errand herrand => herrands errand (by simp [herrand])) v hv

/-- Visits to a record whose answers are lost at first: they wait, one confirms, and the rest find
nothing to do. -/
structure Converges (a : Action) (r : Record) (intent confirmed : Status) (waiting resting : Table)
    (lost : List Visit) (last : Visit) (rested : List Visit) : Prop where
  wait : ∀ v ∈ lost, v.Waits a r intent waiting
  confirm : last.Confirms a r confirmed resting
  rest : ∀ v ∈ rested, v.Rests confirmed resting
  atIntent : lost ≠ [] → ∃ s, waiting.get? r.id = .ok (some s) ∧ s.status = intent
  atRest : ∃ s, resting.get? r.id = .ok (some s) ∧ s.status = confirmed

theorem Converges.nil {waiting : Table} {v : Visit}
    (hv : v.Confirms a r confirmed (before ++ left :: after))
    (hsound : Table.Sound (before ++ left :: after)) (hleft : left.Keeps e) (hid : e.id = r.id)
    (ha : a.intent? = some intent) (hc : intent.confirmed? = some confirmed) (hi : e.status = confirmed)
    (w : World σ) (u : σ) (herrands : ∀ errand ∈ errands, ComesTo r.id a before after errand) :
    Converges a r intent confirmed waiting (before ++ left :: after) [] v
      (visits g w errands (before ++ left :: after, u)) := by
  refine ⟨by simp, hv, visits_rest hsound hleft ha hc hi w u (hid ▸ herrands), by simp, e, ?_, hi⟩
  rw [← hid]
  exact (hleft.shows hsound).get?

theorem Converges.cons {resting : Table} {v : Visit} {lost : List Visit} {last : Visit}
    {rested : List Visit} (hv : v.Waits a r intent (before ++ row :: after))
    (hsound : Table.Sound (before ++ row :: after)) (hrow : row.Keeps e) (hid : e.id = r.id)
    (hi : e.status = intent)
    (h : Converges a r intent confirmed (before ++ row :: after) resting lost last rested) :
    Converges a r intent confirmed (before ++ row :: after) resting (v :: lost) last rested := by
  refine ⟨fun v' hv' => ?_, h.confirm, h.rest, fun _ => ⟨e, ?_, hi⟩, h.atRest⟩
  · rcases List.mem_cons.1 hv' with rfl | hv'
    · exact hv
    · exact h.wait v' hv'
  · rw [← hid]
    exact (hrow.shows hsound).get?

/-- The calls of all visits are those of the visits that wait, and the one that is agreed to. -/
theorem Converges.calls {waiting resting : Table} {lost : List Visit} {last : Visit}
    {rested : List Visit} (h : Converges a r intent confirmed waiting resting lost last rested) :
    ((lost ++ last :: rested).flatMap fun v => agencyCalls v.exchanges).length = lost.length + 1 ∧
    ∀ call ∈ (lost ++ last :: rested).flatMap fun v => agencyCalls v.exchanges, call.1 = r.scheme ∧
      ∃ c : Agency.Change, call.2 = .change c ∧ c.action = a ∧ c.value = r.value := by
  have hone (v : Visit) (hv : v ∈ lost ++ [last]) : AsksFor a r v.exchanges := by
    rcases List.mem_append.1 hv with hv | hv
    · exact (h.wait v hv).asks
    · exact List.mem_singleton.1 hv ▸ h.confirm.asks
  have hnone : (rested.flatMap fun v => agencyCalls v.exchanges) = [] :=
    List.flatMap_eq_nil_iff.2 fun v hv => (h.rest v hv).quiet
  have hall : ((lost ++ last :: rested).flatMap fun v => agencyCalls v.exchanges) =
      (lost ++ [last]).flatMap fun v => agencyCalls v.exchanges := by
    rw [← List.singleton_append, ← List.append_assoc, List.flatMap_append, hnone, List.append_nil]
  rw [hall]
  constructor
  · have hlengths : ((lost ++ [last]).map fun v => (agencyCalls v.exchanges).length) =
        (lost ++ [last]).map fun _ => 1 := by
      refine List.map_congr_left fun v hv => ?_
      obtain ⟨c, -, -, hcalls⟩ := hone v hv
      rw [hcalls]
      rfl
    rw [List.length_flatMap, hlengths]
    simp
  · intro call hcall
    obtain ⟨v, hv, hcall⟩ := List.mem_flatMap.1 hcall
    obtain ⟨c, haction, hvalue, hcalls⟩ := hone v hv
    rw [hcalls, List.mem_singleton] at hcall
    rw [hcall]
    exact ⟨rfl, c, rfl, haction, hvalue⟩

/-- An errand that drives the record to the answer, and those that come after it. -/
theorem visits_wait {resource : ResourceId} {calls : σ → Nat} {n k m : Nat} {mid : Row} {u₁ : σ}
    {ws : List Record} (hw : w.Recovers resource n calls)
    (hdrives : Drives g w before after errand row u ws e mid u₁)
    (hsound : Table.Sound (before ++ mid :: after)) (hmid : mid.Keeps e.stored)
    (hdue : Due g resource confirmed e) (hstage : r.Stage e) (ha : a.intent? = some intent)
    (hi : e.status = intent) (hm : e.attention = none)
    (herrands : ∀ errand ∈ errands, ComesTo r.id a before after errand) (hcalls : calls u₁ + k = n)
    (hlength : errands.length = k + m) : ∃ lost last rested resting,
      visits g w (errand :: errands) (before ++ row :: after, u) = lost ++ last :: rested ∧
      lost.length = k ∧ rested.length = m ∧
      Converges a r intent confirmed (before ++ mid :: after) resting lost last rested ∧
      (∀ v ∈ lost.tail, writes v.exchanges = []) ∧
      (ws = [] → ∀ v ∈ lost, writes v.exchanges = []) ∧
      (k ≠ 0 ∨ ws = [] → ∃ d, writes last.exchanges = [d] ∧ d.status = confirmed) := by
  have hc : intent.confirmed? = some confirmed := hi ▸ hdue.confirmed
  induction k generalizing errand errands row u ws e u₁ with
  | zero =>
    obtain ⟨d, left, u', es, hdrive, hleft, hmoved, hstatus, -, hasks, hwrites, -⟩ :=
      drive_agreed hw hdue hmid (u := u₁) (by omega)
    obtain ⟨hrun, hagency, hwritten⟩ := hdrives hdrive
    rw [visits_cons hrun]
    refine ⟨[], _, _, _, rfl, rfl, ?_, .nil ⟨rfl, rfl, ?_⟩ (hdrive.sound before after hsound) hleft
      (hmoved.id.trans hstage.id) ha hc hstatus w u' herrands, by simp, by simp, fun hws => ⟨d, ?_, hstatus⟩⟩
    · rw [length_visits]
      omega
    · exact (hasks.asksFor hstage ha hi).of_eq hagency
    · rw [hwritten, hwrites, hws.resolve_left (absurd rfl), List.nil_append]
  | succ k ih =>
    obtain ⟨next, errands, rfl⟩ := List.exists_cons_of_length_pos (l := errands) (by omega)
    rw [List.length_cons] at hlength
    obtain ⟨reason, u', es, hdrive, hasks, hwrites, hcalls'⟩ :=
      drive_lost (g := g) hw hdue mid (u := u₁) (by omega)
    obtain ⟨hrun, hagency, hwritten⟩ := hdrives hdrive
    have hstage' : r.Stage e.stored := hstage.trans (.stored e)
    have hnext : ComesTo e.stored.id a before after next := hstage'.id ▸ herrands next (by simp)
    have hrest : ∀ errand ∈ errands, ComesTo r.id a before after errand :=
      fun errand herrand => herrands errand (List.mem_cons_of_mem _ herrand)
    have hsame : e.stored.stored = e.stored := Row.stored_of_record hmid.record
    obtain ⟨lost, last, rested, resting, hvisits, hlost, hrested, hconverges, -, hnone, hlast⟩ :=
      ih (hnext.drives hsound hmid ha hi hm u') (hsame.symm ▸ hmid) hdue.stored hstage' hi hm
        hrest (by omega) (by omega)
    rw [visits_cons hrun, hvisits]
    refine ⟨_ :: lost, last, rested, resting, rfl, by rw [List.length_cons, hlost], hrested,
      hconverges.cons ⟨⟨reason, by rw [← hi]⟩, rfl, ?_⟩ hsound hmid hstage'.id hi, hnone rfl,
      fun hws v hv => ?_, fun _ => hlast (.inr rfl)⟩
    · exact (hasks.asksFor hstage ha hi).of_eq hagency
    · rcases List.mem_cons.1 hv with rfl | hv
      · rw [hwritten, hwrites, hws, List.nil_append]
      · exact hnone rfl v hv

/-- A request that is made again and again, its answers lost at first. The first `n` visits leave the
intent, and nothing is written after the first of them; the next writes the status at rest, and the
others find nothing to do. So there are as many changes asked for as answers were lost, and one: each
the same, for the record's value. Instead of the request a sweep may come after the first visit, where
nothing is listed for it but this record. -/
theorem lost_answers_converge {t : Table} {id : RecordId} {steps : List Status} {resource : ResourceId}
    {calls : σ → Nat} {n m : Nat} (hsound : t.Sound) (hr : t.get? id = .ok (some r))
    (ha : a.intent? = some intent) (hc : intent.confirmed? = some confirmed)
    (hplan : a.plan r.status = .ok (.drive steps)) (hbound : r.resource = some resource)
    (hg : g.connected r.scheme) (hw : w.Recovers resource n calls) (hu : calls u = 0)
    (hlength : errands.length = n + m)
    (herrands : ∀ errand ∈ errands, errand = .execute id a ∨ errand = .sweep ∧
      ∃ rs, t.listRetryable Status.intents = .ok rs ∧ ∀ s ∈ rs, s = r) :
    ∃ lost last rested waiting resting,
      visits g w (.execute id a :: errands) (t, u) = lost ++ last :: rested ∧
      lost.length = n ∧ rested.length = m ∧
      Converges a r intent confirmed waiting resting lost last rested ∧
      (∀ v ∈ lost.tail, writes v.exchanges = []) ∧
      (n ≠ 0 → ∃ d, writes last.exchanges = [d] ∧ d.status = confirmed) ∧
      ((lost ++ last :: rested).flatMap fun v => agencyCalls v.exchanges).length = n + 1 ∧
      ∀ call ∈ (lost ++ last :: rested).flatMap fun v => agencyCalls v.exchanges,
        call.1 = r.scheme ∧ ∃ c : Agency.Change, call.2 = .change c ∧ c.action = a ∧ c.value = r.value := by
  obtain ⟨rfl, hshows⟩ := hsound.shows hr
  obtain ⟨row, hmem, hrow⟩ := hshows.keeps
  obtain ⟨before, after, rfl⟩ := List.append_of_mem hmem
  have hcome : ∀ errand ∈ errands, ComesTo r.id a before after errand := by
    intro errand herrand
    rcases herrands errand herrand with h | ⟨h, rs, hread, hrs⟩
    · exact .inl h
    · exact .inr ⟨h, Table.lone_of_listRetryable hsound hrow.record (by decide) hread hrs⟩
  obtain ⟨e, mid, u₁, es₁, hmid, hstage, hmark, hstatus, hquiet, hcalls, hsound', hexecute⟩ :=
    execute_begins g hw.now hrow hplan u
  have hi : e.status = intent := hstatus.trans (Action.getLastD_eq_intent ha hplan)
  have hdue : Due g resource confirmed e := by
    refine ⟨?_, hstage.resource.trans hbound, hi ▸ hc⟩
    rw [show e.scheme = r.scheme from congrArg IdentifierValue.scheme hstage.value]
    exact hg
  -- The first request writes the statuses of its plan; those that follow drive the record at once.
  have hfirst : Drives g w before after (.execute r.id a) row u (writes es₁) e mid u₁ := by
    intro o left u' es hdrive
    obtain ⟨hrun, hexchanges⟩ := visit_of_execute hsound (hexecute hdrive)
    rw [hexchanges, agencyCalls_append, hquiet, List.nil_append, writes_append]
    exact ⟨hrun, rfl, rfl⟩
  obtain ⟨lost, last, rested, resting, hvisits, hlost, hrested, hconverges, hnone, -, hlast⟩ :=
    visits_wait (k := n) (m := m) hw hfirst (hsound' before after hsound) hmid hdue hstage ha hi hmark
      hcome (by omega) hlength
  refine ⟨lost, last, rested, _, resting, hvisits, hlost, hrested, hconverges, hnone,
    fun hn => hlast (.inl hn), ?_⟩
  rw [← hlost]
  exact hconverges.calls

def losingTwo (k : Nat) : Except AgencyError Unit × Nat :=
  (if k < 2 then .error (.unreachable "offline") else .ok (), k + 1)

theorem losingTwo_recovers : (World.rehearsal losingTwo).Recovers ⟨0⟩ 2 id where
  now _ := rfl
  found _ := ⟨_, rfl⟩
  looks _ := rfl
  counts _ _ _ := rfl
  lost _ _ _ hk := ⟨"offline", if_pos hk⟩
  agrees _ _ _ hk := if_neg (Nat.not_lt.2 hk)

/-- Two answers are lost to a registration. It is made again once, and sweeps come in its stead. -/
theorem registration_converges : ∃ lost last rested,
    visits ⟨fun _ => true, .standard⟩ (.rehearsal losingTwo)
      [.execute ⟨10⟩ .register, .sweep, .execute ⟨10⟩ .register, .sweep]
      ([Row.ofRecord .sampleBound], 0) = lost ++ last :: rested ∧
    lost.length = 2 ∧ rested.length = 1 ∧
    ((lost ++ last :: rested).flatMap fun v => agencyCalls v.exchanges).length = 3 := by
  have hfound : Table.get? [Row.ofRecord .sampleBound] ⟨10⟩ = .ok (some .sampleBound) := by
    decide +kernel
  have hlist : Table.listRetryable [Row.ofRecord .sampleBound] Status.intents = .ok [.sampleBound] := by
    have hlone : Table.Lone Status.intents [] [] := ⟨by simp [Table.Decodes], by simp⟩
    exact hlone.listRetryable (by decide) (Row.record_ofRecord _) (by decide +kernel)
  have herrands : ∀ errand ∈ [Errand.sweep, .execute ⟨10⟩ .register, .sweep],
      errand = .execute ⟨10⟩ .register ∨ errand = .sweep ∧ ∃ rs,
        Table.listRetryable [Row.ofRecord .sampleBound] Status.intents = .ok rs ∧
        ∀ s ∈ rs, s = .sampleBound := by
    intro errand herrand
    simp only [List.mem_cons, List.not_mem_nil, or_false] at herrand
    rcases herrand with rfl | rfl | rfl
    · exact .inr ⟨rfl, _, hlist, fun s hs => List.mem_singleton.1 hs⟩
    · exact .inl rfl
    · exact .inr ⟨rfl, _, hlist, fun s hs => List.mem_singleton.1 hs⟩
  obtain ⟨lost, last, rested, -, -, hvisits, hlost, hrested, -, -, -, hcalls, -⟩ :=
    lost_answers_converge (g := ⟨fun _ => true, .standard⟩) (m := 1) (List.pairwise_singleton _ _)
      hfound rfl rfl rfl rfl rfl losingTwo_recovers rfl rfl herrands
  exact ⟨lost, last, rested, hvisits, hlost, hrested, hcalls⟩

end Errands

end IdentifierRegistrar
