import IdentifierRegistrar.Proofs.Course.LostAnswers
import IdentifierRegistrar.Proofs.Course.Outcomes
import IdentifierRegistrar.Proofs.Course.Rerun

/-! Requests that end with an error. Some are refused before anything is written or asked
(`Registrar.Refused`). The others have written their plan to its end, and then the agency was not there or
could not read the value: the record waits at its intent without a marker, and the same request succeeds
once the agency agrees (`Registrar.execute_failed`). -/

namespace IdentifierRegistrar

open Service Operation

theorem getLastD_append {α : Type} (as bs : List α) (a : α) :
    (as ++ bs).getLastD a = bs.getLastD (as.getLastD a) := by
  induction as generalizing a with
  | nil => rfl
  | cons b as ih => rw [List.cons_append, List.getLastD_cons, List.getLastD_cons, ih]

/-- What driving a status writes before the agency is asked: an update before registration turns into a
registration. -/
def Status.turning : Status → List Status
  | updateBeforeRegistration => [toBeRegistered]
  | _ => []

theorem Status.turning_of_ne {s : Status} (h : s ≠ .updateBeforeRegistration) : s.turning = [] := by
  cases s <;> first | rfl | exact absurd rfl h

section Plans

variable {a : Action} {s confirmed : Status} {steps : List Status}

theorem Action.isChain_turning (h : a.plan s = .ok (.drive steps)) :
    (s :: (steps ++ (steps.getLastD s).turning)).IsChain fun s t => t ∈ s.targets := by
  cases a <;> cases s <;> cases h <;> simp [Status.targets, Status.turning]

theorem Action.turned_mem_intents (h : a.plan s = .ok (.drive steps)) :
    (steps ++ (steps.getLastD s).turning).getLastD s ∈ Status.intents := by
  cases a <;> cases s <;> cases h <;> decide

theorem Action.turned_ne (h : a.plan s = .ok (.drive steps)) :
    (steps ++ (steps.getLastD s).turning).getLastD s ≠ .updateBeforeRegistration := by
  cases a <;> cases s <;> cases h <;> decide

/-- A request that is made again where its plan has been written has nothing more to write. -/
theorem Action.plan_turned (h : a.plan s = .ok (.drive steps)) :
    a.plan ((steps ++ (steps.getLastD s).turning).getLastD s) = .ok (.drive []) := by
  cases a <;> cases s <;> cases h <;> rfl

/-- What a request has written when it comes to the agency is not what the agency is to confirm. -/
theorem Action.confirmed_not_mem_written (h : a.plan s = .ok (.drive steps))
    (hc : ((steps ++ (steps.getLastD s).turning).getLastD s).confirmed? = some confirmed) :
    confirmed ∉ steps ++ (steps.getLastD s).turning ∧ (steps = [] → confirmed ≠ s) := by
  cases a <;> cases s <;> cases h <;> cases hc <;> decide

end Plans

theorem Succeeds.stage {τ : Type} {r s : Record} {goal : Status}
    {x : Except RegistrarError Outcome × Table × τ} (h : Succeeds s goal x) (hs : r.Stage s) :
    Succeeds r goal x := by
  obtain ⟨hresult, s', hget, hstatus, hmark, hvalue, hresource⟩ := h
  rw [hs.id] at hget
  exact ⟨hresult, s', hget, hstatus, hmark, hvalue.trans hs.value, hresource.trans hs.resource⟩

namespace Registrar

section Breaking

variable {σ : Type} {w : World σ} {row : Row} {c r s : Record} {confirmed : Status} {g : Registrar}
  {mark : Option String} {statuses statuses' : List Status} {e : RegistrarError} {es es' : List Exchange}

/-- `r` was written at `statuses`, and then its agency was not there or could not read its value. -/
structure Breaks (g : Registrar) (r : Record) (mark : Option String) (statuses : List Status)
    (e : RegistrarError) (es : List Exchange) (s : Record) : Prop where
  cause : (e = .noConnector r.scheme ∧ ¬ g.connected r.scheme ∧ remotes es = []) ∨
    ∃ cause, e = .malformedIdentifier cause ∧ changes (remotes es) = [.error (.malformedValue cause)]
  stage : r.Stage s
  attention : s.attention = mark
  status : s.status = statuses.getLastD r.status
  written : r.Written statuses es

theorem Breaks.after (h : Breaks g s mark statuses' e es' c) (hw : r.Written statuses es) (hs : r.Stage s)
    (hstatus : s.status = statuses.getLastD r.status) (hquiet : remotes es = []) :
    Breaks g r mark (statuses ++ statuses') e (es ++ es') c := by
  have hremotes : remotes (es ++ es') = remotes es' := by rw [remotes_append, hquiet, List.nil_append]
  have hscheme : s.scheme = r.scheme := congrArg IdentifierValue.scheme hs.value
  refine ⟨?_, hs.trans h.stage, h.attention, ?_, hw.append hs h.written⟩
  · rw [hremotes, ← hscheme]
    exact h.cause
  · rw [h.status, hstatus, getLastD_append]

theorem ends_of_ok {p : Operation Outcome} {o : Outcome} {left : Row} {u u' : σ}
    {P : RegistrarError → List Exchange → Record → Prop} (hplace : InPlace w p row u (.ok o) left u' es)
    (hleft : left.Keeps s) : EndsInPlace w p row u fun x es s => ∀ e, x = .error e → P e es s := by
  refine ⟨_, _, _, _, _, hplace, hleft, ?_⟩
  rintro e ⟨⟩

theorem park_ends (hrow : row.Keeps r.stored) (message : String) (w : World σ) (u : σ)
    {P : RegistrarError → List Exchange → Record → Prop} :
    EndsInPlace w (park r message) row u fun x es s => ∀ e, x = .error e → P e es s :=
  ends_of_ok (park_in_place hrow (.refl r) message w u)
    (hrow.updateFrom ((Record.Draft.refl r).flag message (w.now u).1))

theorem settle_ends (hrow : row.Keeps r.stored) (hc : r.status.confirmed? = some confirmed)
    (y : Except AgencyError Unit) (u : σ) : EndsInPlace w (settle r confirmed y) row u fun x es s =>
      ∀ e, x = .error e → ∃ cause, y = .error (.malformedValue cause) ∧
        e = .malformedIdentifier cause ∧ es = [] ∧ s = r.stored := by
  rcases y with e | ⟨⟩
  · cases e with
    | unreachable reason => exact ends_of_ok (.done w _ row u) hrow
    | rejected code text => exact park_ends hrow _ w u
    | malformedValue cause =>
      refine ⟨_, _, _, _, _, .fail w _ row u, hrow, ?_⟩
      rintro e ⟨⟩
      exact ⟨cause, rfl, rfl, rfl, rfl⟩
  · have ht := Status.confirmed?_mem_targets hc
    have hrevision : r.Revision (r.moveTo confirmed (w.now u).1) :=
      (Record.Draft.refl r).transition (Record.transition_eq_ok_iff.2 ⟨ht, rfl⟩)
    exact ends_of_ok ((commit_in_place hrow (.refl r) ht w u).bind (.done w _ _ _))
      (hrow.updateFrom hrevision)

theorem call_ends (hrow : row.Keeps r.stored) (hc : r.status.confirmed? = some confirmed)
    (c : Agency.Change) (u : σ) :
    EndsInPlace w (agency r.scheme (.change c) >>= settle r confirmed) row u fun x es s =>
      ∀ e, x = .error e → ∃ cause, e = .malformedIdentifier cause ∧
        es = [⟨.agency r.scheme (.change c), .error (.malformedValue cause)⟩] ∧ s = r.stored := by
  refine .bind (change_in_place r.scheme c row w u) ((settle_ends hrow hc _ _).mono ?_)
  intro x es s hends e hx
  obtain ⟨cause, hy, he, rfl, hs⟩ := hends e hx
  refine ⟨cause, he, ?_, hs⟩
  rw [hy]
  rfl

theorem resume_breaks (hrow : row.Keeps r.stored) (u : σ) : EndsInPlace w (g.resume r) row u
    fun x es s => ∀ e, x = .error e → Breaks g r r.attention [] e es s := by
  unfold resume requireConnector
  cases hc : r.status.confirmed? with
  | none => exact ends_of_ok (.done w _ row u) hrow
  | some confirmed =>
  by_cases hg : g.connected r.scheme
  · simp only [hg, if_true, Program.pure_eq, Program.done_bind]
    by_cases hd : r.status = .toBeDeleted
    · rw [if_pos hd]
      refine (call_ends hrow hc (.delete r.value) u).mono ?_
      intro x es s hends e hx
      obtain ⟨cause, he, rfl, rfl⟩ := hends e hx
      exact ⟨.inr ⟨cause, he, rfl⟩, .stored r, rfl, rfl, .nil r rfl⟩
    · rw [if_neg hd]
      cases hb : r.resource with
      | none => exact park_ends hrow _ w u
      | some resource =>
      refine .bind (lookup_in_place resource row w u) ?_
      generalize (w.lookup resource u).1 = y
      rcases y with e | (_ | found)
      · exact ends_of_ok (.done w _ row _) hrow
      · exact park_ends hrow _ w _
      · refine (call_ends hrow hc _ _).mono ?_
        intro x es s hends e hx
        obtain ⟨cause, he, rfl, rfl⟩ := hends e hx
        exact ⟨.inr ⟨cause, he, rfl⟩, .stored r, rfl, rfl, .nil r rfl⟩
  · simp only [hg]
    refine ⟨_, _, _, _, _, .fail w _ row u, hrow, ?_⟩
    rintro e ⟨⟩
    exact ⟨.inl ⟨rfl, hg, rfl⟩, .stored r, rfl, rfl, .nil r rfl⟩

theorem drive_breaks (hrow : row.Keeps r.stored) (u : σ) : EndsInPlace w (g.drive r) row u
    fun x es s => ∀ e, x = .error e → Breaks g r r.attention r.status.turning e es s := by
  unfold drive
  by_cases hparks : needsResource r.status && r.isOrphaned
  · rw [if_pos hparks]
    exact park_ends hrow _ w u
  rw [if_neg hparks]
  by_cases hubr : r.status = .updateBeforeRegistration
  · rw [if_pos hubr, hubr]
    have ht : Status.toBeRegistered ∈ r.status.targets := by rw [hubr]; decide
    have hrevision : r.Revision (r.moveTo .toBeRegistered (w.now u).1) :=
      (Record.Draft.refl r).transition (Record.transition_eq_ok_iff.2 ⟨ht, rfl⟩)
    refine .bind (commit_in_place hrow (.refl r) ht w u) ?_
    refine (resume_breaks (hrow.updateFrom hrevision) _).mono ?_
    intro x es s hends e hx
    have hone : r.Stage (r.moveTo .toBeRegistered (w.now u).1) := ⟨rfl, rfl, rfl⟩
    exact (hends e hx).after (.single hone rfl) (.moved r .toBeRegistered (w.now u).1) rfl rfl
  · rw [if_neg hubr, Status.turning_of_ne hubr]
    exact resume_breaks hrow u

variable {a : Action} {steps : List Status}

theorem getLastD_unmarking (r : Record) (steps : List Status) :
    (r.unmarking steps ++ steps).getLastD r.status = steps.getLastD r.status := by
  rw [getLastD_append, Record.unmarking]
  split <;> rfl

/-- All of the plan has been written when a request breaks. -/
theorem execute_breaks (hrow : row.Keeps r) (hplan : a.plan r.status = .ok (.drive steps)) (u : σ) :
    EndsInPlace w (g.execute r.id a) row u fun x es s => ∀ e, x = .error e →
      Breaks g r none (r.unmarking steps ++ steps ++ (steps.getLastD r.status).turning) e es s := by
  obtain ⟨d, mid, u₁, es₁, hmid, hstage, hmark, hstatus, hquiet, hwritten, -, -, hexecute⟩ :=
    execute_prepares (fun _ => 0) g (fun _ => rfl) hrow hplan u
  obtain ⟨x, left, s, u', es, hplace, hleft, hends⟩ := drive_breaks (w := w) (g := g) hmid u₁
  refine ⟨x, left, s, u', es₁ ++ es, hexecute hplace, hleft, fun e hx => ?_⟩
  have hbreaks := hends e hx
  rw [hmark, hstatus] at hbreaks
  refine hbreaks.after hwritten hstage ?_ hquiet
  rw [hstatus, getLastD_unmarking]

end Breaking

section Agreement

variable {σ : Type} {w : World σ} {row : Row} {r s : Record} {confirmed : Status} {g : Registrar} {a : Action}

/-- The agency of `s` is there and agrees to every change of its value, and the resource is found if the
intent of `s` has something to tell of it. -/
structure Agrees (g : Registrar) (w : World σ) (s : Record) : Prop where
  connected : g.connected s.scheme
  agency : ∀ c u, c.value = s.value → (w.agency s.scheme (.change c) u).1 = .ok ()
  found : s.status ≠ .toBeDeleted → ∃ resource, s.resource = some resource ∧
    ∀ u, ∃ found, (w.lookup resource u).1 = .ok (some found)

theorem call_agrees (hrow : row.Keeps r.stored) (hc : r.status.confirmed? = some confirmed)
    (hagrees : Agrees g w r) {c : Agency.Change} (hvalue : c.value = r.value) (u : σ) :
    EndsInPlace w (agency r.scheme (.change c) >>= settle r confirmed) row u
      fun x _ s => Came r confirmed r.attention x s := by
  have ht := Status.confirmed?_mem_targets hc
  have hrevision (now : Instant) : r.Revision (r.moveTo confirmed now) :=
    (Record.Draft.refl r).transition (Record.transition_eq_ok_iff.2 ⟨ht, rfl⟩)
  refine .bind (change_in_place r.scheme c row w u) ?_
  rw [hagrees.agency c u hvalue]
  exact ⟨_, _, _, _, _, (commit_in_place hrow (.refl r) ht w _).bind (.done w _ _ _),
    hrow.updateFrom (hrevision _), rfl, rfl, rfl, (Record.Stage.moved r confirmed _).trans (.stored _)⟩

theorem drive_agrees (hrow : row.Keeps r.stored) (hc : r.status.confirmed? = some confirmed)
    (hagrees : Agrees g w r) (u : σ) :
    EndsInPlace w (g.drive r) row u fun x _ s => Came r confirmed r.attention x s := by
  have hubr : r.status ≠ .updateBeforeRegistration := by
    intro h
    rw [h] at hc
    cases hc
  have hgoes : ¬ (Sends r ∧ r.resource = none) := by
    rintro ⟨hsends, ho⟩
    obtain ⟨resource, hb, -⟩ := hagrees.found hsends.2
    rw [ho] at hb
    cases hb
  unfold drive
  rw [if_neg (mt parks_iff.1 hgoes), if_neg hubr]
  unfold resume requireConnector
  simp only [hc, hagrees.connected, if_true, Program.pure_eq, Program.done_bind]
  by_cases hd : r.status = .toBeDeleted
  · rw [if_pos hd]
    exact call_agrees hrow hc hagrees rfl u
  · obtain ⟨resource, hb, hfound⟩ := hagrees.found hd
    obtain ⟨found, hlook⟩ := hfound u
    simp only [hd, if_false, hb]
    refine .bind (lookup_in_place resource row w u) ?_
    rw [hlook]
    exact call_agrees hrow hc hagrees (ofIntent_suits found g.policy hc hd).1 _

/-- A request at an intent, unmarked, succeeds where the agency agrees. -/
theorem execute_agrees {t : Table} (ht : t.Shows r) (hplan : a.plan r.status = .ok (.drive []))
    (hm : r.attention = none) (hc : r.status.confirmed? = some confirmed) (hagrees : Agrees g w r) (u : σ) :
    Succeeds r confirmed ((g.execute r.id a).run w.answer (t, u)) := by
  obtain ⟨row, hmem, hrow⟩ := ht.keeps
  obtain ⟨before, after, rfl⟩ := List.append_of_mem hmem
  have hrow' : row.Keeps r.stored := by rwa [ht.stored]
  obtain ⟨x, left, s, u', es, hdrive, hleft, hcame⟩ := drive_agrees hrow' hc hagrees u
  have hplace := execute_again hrow hplan hm hdrive
  have hshows := hleft.shows (hplace.sound before after ht.sound)
  rw [hplace.run before after ht.sound]
  exact ⟨hcame.outcome, hshows.rests hcame.stage hcame.status (hcame.attention.trans hm)⟩

end Agreement

section Requests

variable {σ : Type} {w : World σ} {g : Registrar} {a : Action} {t t' : Table} {u u' : σ} {id : RecordId}
  {e : RegistrarError} {r : Record} {row : Row} {steps : List Status}

theorem load_reads (w : World σ) (t : Table) (u : σ) (id : RecordId) :
    (load id).run w.answer (t, u) =
        ((t.get? id).mapError .store >>= fun r => r.elim (.error (.notFound id)) .ok, t, u) ∧
      (load id).exchanges w.answer (t, u) = [⟨.store (.get id), t.get? id⟩] := by
  rw [load, Program.run_bind, Program.exchanges_bind, World.run_store, World.exchanges_store, Store.answer]
  rcases t.get? id with fault | (_ | r)
  · exact ⟨rfl, rfl⟩
  · exact ⟨rfl, rfl⟩
  · exact ⟨rfl, rfl⟩

/-- Without its record a request does nothing. -/
theorem execute_unread (g : Registrar) (a : Action) (h : (load id).run w.answer (t, u) = (.error e, t, u)) :
    (g.execute id a).run w.answer (t, u) = (.error e, t, u) ∧
      (g.execute id a).exchanges w.answer (t, u) = [⟨.store (.get id), t.get? id⟩] := by
  rw [execute, Program.run_bind, Program.exchanges_bind, h, (load_reads w t u id).2]
  exact ⟨rfl, rfl⟩

/-- A request that is refused: there is no such record, its row is none, or its status does not admit the
request. -/
inductive Refused (a : Action) (t : Table) (id : RecordId) : RegistrarError → Prop
  | notFound (h : t.get? id = .ok none) : Refused a t id (.notFound id)
  | unreadable {fault : StoreError} (h : t.get? id = .error fault) : Refused a t id (.store fault)
  | illegal {r : Record} {cause : IllegalTransition} (h : t.get? id = .ok (some r))
    (hplan : a.plan r.status = .error cause) : Refused a t id (.illegalTransition cause)

/-- A request that has written `r` at the statuses of its plan and has left it at `s`, which waits: its
agency was not there or could not read the value. -/
structure Halted (g : Registrar) (a : Action) (r s : Record) (steps : List Status) (t' : Table)
    (e : RegistrarError) (es : List Exchange) : Prop where
  cause : (e = .noConnector r.scheme ∧ ¬ g.connected r.scheme ∧ remotes es = []) ∨
    ∃ cause, e = .malformedIdentifier cause ∧ changes (remotes es) = [.error (.malformedValue cause)]
  stage : r.Stage s
  intent : s.status ∈ Status.intents
  attention : s.attention = none
  status : s.status = (steps ++ (steps.getLastD r.status).turning).getLastD r.status
  written : r.Written (r.unmarking steps ++ steps ++ (steps.getLastD r.status).turning) es
  legal : (r.status :: (steps ++ (steps.getLastD r.status).turning)).IsChain fun s t => t ∈ s.targets
  /-- The status that is to be confirmed is one step away and was never written; the same request comes to
  it. -/
  resumes : ∃ confirmed, s.status.confirmed? = some confirmed ∧ confirmed ∈ s.status.targets ∧
    (∀ d ∈ writes es, d.status ≠ confirmed) ∧
    ∀ {τ : Type} (f : Registrar) (w : World τ) (u : τ), Agrees f w s →
      Succeeds r confirmed ((f.execute r.id a).run w.answer (t', u))

theorem Breaks.halted {s : Record} {es : List Exchange} (h : Breaks g r none
      (r.unmarking steps ++ steps ++ (steps.getLastD r.status).turning) e es s)
    (hplan : a.plan r.status = .ok (.drive steps)) (ht : t'.Shows s) :
    Halted g a r s steps t' e es := by
  have hstatus : s.status = (steps ++ (steps.getLastD r.status).turning).getLastD r.status := by
    rw [h.status, getLastD_append, getLastD_unmarking, getLastD_append]
  have hi := Action.turned_mem_intents hplan
  have hne := Action.turned_ne hplan
  have hagain := Action.plan_turned hplan
  rw [← hstatus] at hi hne hagain
  obtain ⟨confirmed, hc⟩ := Option.ne_none_iff_exists'.1 (Status.confirmed?_ne_none hi hne)
  have hturned := hc
  rw [hstatus] at hturned
  obtain ⟨hno, hstart⟩ := Action.confirmed_not_mem_written hplan hturned
  refine ⟨h.cause, h.stage, hi, h.attention, hstatus, h.written, Action.isChain_turning hplan, confirmed, hc,
    Status.confirmed?_mem_targets hc, fun d hd => ?_, fun f w u hagrees => ?_⟩
  · have hmem : d.status ∈ r.unmarking steps ++ steps ++ (steps.getLastD r.status).turning := by
      rw [← h.written.statuses]
      exact List.mem_map_of_mem hd
    rintro rfl
    rw [List.append_assoc] at hmem
    rcases List.mem_append.1 hmem with hmem | hmem
    · unfold Record.unmarking at hmem
      split at hmem
      · rename_i hfirst
        exact hstart hfirst.1 (List.mem_singleton.1 hmem)
      · cases hmem
    · exact hno hmem
  · have hsucceeds := execute_agrees ht hagain h.attention hc hagrees u
    rw [h.stage.id] at hsucceeds
    exact hsucceeds.stage h.stage

/-- A request that ends with an error, in any table and whatever is answered outside. Either it was refused,
and nothing is written or asked; or it has written its plan, and the record waits at its intent for the same
request to be made again. No other row changes. -/
theorem execute_failed (hsound : t.Sound)
    (h : (g.execute id a).run w.answer (t, u) = (.error e, t', u')) :
    (Refused a t id e ∧ t' = t ∧ remotes ((g.execute id a).exchanges w.answer (t, u)) = [] ∧
      writes ((g.execute id a).exchanges w.answer (t, u)) = []) ∨
    ∃ before row left after r s steps, t = before ++ row :: after ∧ t' = before ++ left :: after ∧
      row.hasId id = true ∧ t.get? id = .ok (some r) ∧ t'.get? id = .ok (some s) ∧
      a.plan r.status = .ok (.drive steps) ∧
      Halted g a r s steps t' e ((g.execute id a).exchanges w.answer (t, u)) := by
  have hload := (load_reads w t u id).1
  rcases hr : t.get? id with fault | (_ | r)
  · rw [hr] at hload
    obtain ⟨hrun, hexchanges⟩ := execute_unread g a hload
    rw [hrun] at h
    cases h
    rw [hexchanges]
    exact .inl ⟨.unreadable hr, rfl, rfl, rfl⟩
  · rw [hr] at hload
    obtain ⟨hrun, hexchanges⟩ := execute_unread g a hload
    rw [hrun] at h
    cases h
    rw [hexchanges]
    exact .inl ⟨.notFound hr, rfl, rfl, rfl⟩
  obtain ⟨rfl, hshows⟩ := hsound.shows hr
  obtain ⟨row, hmem, hrow⟩ := hshows.keeps
  obtain ⟨before, after, rfl⟩ := List.append_of_mem hmem
  cases hplan : a.plan r.status with
  | error cause =>
    have hplace := execute_refused (g := g) hrow hplan w u
    rw [hplace.run before after hsound] at h
    cases h
    rw [hplace.exchanges before after hsound]
    exact .inl ⟨.illegal hr hplan, rfl, rfl, rfl⟩
  | ok plan =>
    cases plan with
    | alreadyDone =>
      rw [(execute_rested (g := g) hrow hplan w u).run before after hsound] at h
      cases h
    | drive steps =>
      obtain ⟨x, left, s, u'', hrun, hsound', hleft, hsid, hends⟩ :=
        (execute_breaks (w := w) (g := g) hrow hplan u).run hsound hrow.id
      rw [hrun] at h
      cases h
      have hshows' := hleft.shows hsound'
      exact .inr ⟨before, row, left, after, r, s, steps, rfl, rfl, hrow.id, rfl, hsid ▸ hshows'.get?, hplan,
        (hends e rfl).halted hplan hshows'⟩

def sampleEarly : Record :=
  ⟨⟨10⟩, ⟨.dark, "dark:/n/early", by decide⟩, some ⟨0⟩, .item, .updateBeforeRegistration, some "late", 1,
    .epoch, .epoch⟩

/-- The agency cannot read the value: the update has become a registration, and is made up for later. -/
theorem sampleEarly_halted : ∃ t' u' s,
    (execute ⟨fun _ => true, .standard⟩ ⟨10⟩ .updateMetadata).run
      (World.rehearsal fun n => (.error (.malformedValue .empty), n + 1)).answer
      ([Row.ofRecord sampleEarly], 0) = (.error (.malformedIdentifier .empty), t', u') ∧
    t'.get? ⟨10⟩ = .ok (some s) ∧ s.status = .toBeRegistered ∧ s.attention = none ∧
    Succeeds sampleEarly .isRegistered ((execute ⟨fun _ => true, .standard⟩ ⟨10⟩ .updateMetadata).run
      (World.rehearsal fun n => (.ok (), n)).answer (t', 0)) := by
  have hresult : ((execute ⟨fun _ => true, .standard⟩ ⟨10⟩ .updateMetadata).run
      (World.rehearsal fun n => (.error (.malformedValue .empty), n + 1)).answer
      ([Row.ofRecord sampleEarly], 0)).1 = .error (.malformedIdentifier .empty) := by
    decide +kernel
  have hrun := Prod.ext hresult rfl
  have hread : Table.get? [Row.ofRecord sampleEarly] ⟨10⟩ = .ok (some sampleEarly) := by decide +kernel
  rcases execute_failed (List.pairwise_singleton _ _) hrun with
    ⟨hrefused, -⟩ | ⟨_, _, _, _, r, s, steps, _, _, _, hget, hget', hplan, hhalted⟩
  · cases hrefused
  obtain rfl : sampleEarly = r := Option.some.inj (Except.ok.inj (hread.symm.trans hget))
  obtain rfl : steps = [] := Plan.drive.inj (Except.ok.inj hplan.symm)
  obtain ⟨confirmed, hc, -, -, hresumes⟩ := hhalted.resumes
  have hstatus : s.status = .toBeRegistered := hhalted.status
  rw [hstatus] at hc
  obtain rfl := Option.some.inj hc
  refine ⟨_, _, s, hrun, hget', hstatus, hhalted.attention, hresumes _ _ _ ?_⟩
  refine ⟨rfl, fun c n _ => rfl, fun _ => ⟨⟨0⟩, hhalted.stage.resource, fun n => ⟨_, rfl⟩⟩⟩

end Requests

end Registrar

end IdentifierRegistrar
