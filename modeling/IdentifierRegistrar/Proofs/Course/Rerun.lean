import IdentifierRegistrar.Proofs.Course.Interruption
import IdentifierRegistrar.Proofs.Operation.Amid

/-! A request that stops on its way, because the store fails it, because it is killed or because the
directory or the agency does not go along, is made up for by the same request again. Wherever it
stopped, the record is at a status from which the request leads to the same rest as before
(`execute_underway`), although the plan from there is another one. A sweep makes up for it too once
the plan is written, unless a row of another identifier spells the same id by hand. -/

namespace IdentifierRegistrar

open Service Operation

namespace Action

variable {a : Action} {s t goal : Status} {steps : List Status}

/-- Where a request leads to does not change by what it writes on its way. -/
theorem goal?_of_mem (h : a.plan s = .ok (.drive steps)) (ht : t ∈ steps) : a.goal? t = a.goal? s := by
  cases a <;> cases s <;> cases h <;> simp at ht <;> (try rcases ht with rfl | rfl) <;> rfl

theorem goal?_of_confirmed? (h : s.confirmed? = some t) (hgoal : a.goal? s = some goal) :
    a.goal? t = some goal := by
  cases s <;> cases h <;> cases a <;> first | exact hgoal | cases hgoal

theorem goal?_toBeRegistered (hgoal : a.goal? .updateBeforeRegistration = some goal) :
    a.goal? .toBeRegistered = some goal := by
  cases a <;> first | exact hgoal | cases hgoal

theorem plan_ne_alreadyDone (h : s ∈ Status.intents) : a.plan s ≠ .ok .alreadyDone := by
  cases s <;> first | cases a <;> decide | exact absurd h (by decide)

end Action

section Stop

variable {a : Action} {goal : Status} {r s : Record} {g : Registrar} {t t₀ : Table}

structure Underway (a : Action) (goal : Status) (r s : Record) : Prop where
  stage : r.Stage s
  goal : a.goal? s.status = some goal
  unmarked : a.plan s.status = .ok .alreadyDone → s.attention = none

def Outside.wild : Outside Unit := ⟨True, fun _ _ => True, fun _ _ _ _ => True⟩

theorem Underway.carries (a : Action) (goal : Status) (r : Record) : Outside.wild.Carries
    (fun s _ => Underway a goal r s ∧ s.attention = none) (fun s _ => Underway a goal r s) where
  holds h := h.1
  registers := by
    rintro s h t ⟨hs, ha⟩ hubr
    have hgoal := hs.goal
    rw [Record.stored_status, hubr] at hgoal
    refine ⟨⟨⟨hs.stage.id, hs.stage.value, hs.stage.resource⟩, Action.goal?_toBeRegistered hgoal, ?_⟩, ha⟩
    exact fun _ => ha
  parks := by
    rintro s h message t ⟨hs, ha⟩ hi
    refine ⟨⟨hs.stage.id, hs.stage.value, hs.stage.resource⟩, hs.goal, fun hdone => ?_⟩
    exact absurd hdone (Action.plan_ne_alreadyDone hi)
  asks h _ _ := h
  confirms := by
    rintro s h c h' confirmed t ⟨hs, ha⟩ - - hrest
    exact ⟨⟨hs.stage.id, hs.stage.value, hs.stage.resource⟩,
      Action.goal?_of_confirmed? hrest hs.goal, fun _ => ha⟩

/-- Wherever a request stops, the table shows a record on its way to where the request leads. -/
theorem execute_underway {p : Operation Outcome} (hr : t₀.Shows r)
    (hplan : a.plan r.status ≠ .ok .alreadyDone) (hgoal : a.goal? r.status = some goal)
    (hstop : Program.Reaches (Replies ⟨True, True⟩) (g.execute r.id a) t₀ p t) :
    ∃ s, t.Shows s ∧ Underway a goal r s := by
  have hstart : Underway a goal r r := ⟨.refl r, hgoal, fun h => absurd h hplan⟩
  have hsolo := Registrar.execute_solo (g := g) (h := ()) (Underway.carries a goal r) a hr.stored
    hstart fun steps hsteps s hs hm hst => by
      have hgoals : a.goal? s.status = some goal := by
        rcases hst with hst | ⟨-, hst⟩
        · rw [Action.goal?_of_mem hsteps hst, hgoal]
        · rw [hst, hgoal]
      exact ⟨⟨hs, hgoals, fun _ => hm⟩, hm⟩
  have hmoves (t : Table) (q : Service.Request) (x : Reply q) (t' : Table)
      (hx : Replies ⟨True, True⟩ t q x t') : Amid .wild t q x t' := by
    refine ⟨hx.imp And.left fun h => ⟨trivial, h.2⟩, ?_⟩
    cases q with
    | agency scheme call => cases call <;> trivial
    | _ => trivial
  let shown (t : Table) : Prop := ∃ s, t.Shows s ∧ Underway a goal r s
  have hmeets : (g.execute r.id a).Meets (among .wild fun s _ => Underway a goal r s)
      (fun _ => shown) t₀ := (meets_among hsolo hr).mono fun x t hx => by
    obtain ⟨s, hs, hcarried⟩ := hx
    exact ⟨s, hs, hcarried.kept⟩
  have hnow : shown t := (hmeets.reaches (hstop.mono hmoves)).now fun _ _ h => h
  exact hnow

end Stop

section Rerun

variable {τ : Type} {a : Action} {goal : Status} {r s : Record} {g : Registrar} {t t₀ : Table}
  {answer : Answerer interface (Table × τ)}

/-- Nothing goes wrong for `r`: a change of its value is agreed to, and its resource is found if
something is to be sent about it. -/
def Outside.obliging (r : Record) (sends : Prop) : Outside Unit where
  fails := False
  lookup resource x := sends → r.resource = some resource → ∃ found, x = .ok (some found)
  change _ c x _ := c.value = r.value → x = .ok ()

theorem Outside.obliging_kind (r : Record) (sends : Prop) : (Outside.obliging r sends).Kind r sends :=
  ⟨id, fun hs _ _ hb hx => hx hs hb, fun _ _ _ _ hc hx => hx hc⟩

/-- An answerer that answers from the table, and lets nothing go wrong for carrying out `a` for `r`. -/
def Obliges (a : Action) (r : Record) (answer : Answerer interface (Table × τ)) : Prop :=
  ∀ q s, Amid (.obliging r (a ≠ .delete)) s.1 q (answer q s).1 (answer q s).2.1

/-- The record of `r` rests at `goal`, unmarked, with the value and the binding of `r`. -/
def Rests (r : Record) (goal : Status) (t : Table) : Prop :=
  ∃ s, t.get? r.id = .ok (some s) ∧ s.status = goal ∧ s.attention = none ∧ s.value = r.value ∧
    s.resource = r.resource

def Succeeds (r : Record) (goal : Status) (x : Except RegistrarError Outcome × Table × τ) : Prop :=
  x.1 = .ok (.succeeded goal) ∧ Rests r goal x.2.1

theorem Table.Shows.rests (ht : t.Shows s) (hs : r.Stage s) (hstatus : s.status = goal)
    (hmark : s.attention = none) : Rests r goal t :=
  ⟨s, hs.id ▸ ht.get?, hstatus, hmark, hs.value, hs.resource⟩

/-- A request that nothing goes wrong with, from any status that leads to `goal`. -/
theorem execute_succeeds (ht : t.Shows s) (hs : r.Stage s) (hgoal : a.goal? s.status = some goal)
    (hmark : a.plan s.status = .ok .alreadyDone → s.attention = none) (hable : Registrar.Able g a s)
    (hw : Obliges a r answer) (x : τ) : Succeeds r goal ((g.execute r.id a).run answer (t, x)) := by
  have hcarries : (Outside.obliging r (a ≠ .delete)).Carries (fun _ _ => True) (fun _ _ => True) := by
    constructor <;> simp
  have hsolo := Registrar.execute_solo (g := g) (h := ()) hcarries a ht.stored trivial
    fun _ _ _ _ _ _ => trivial
  have hrun := (meets_among hsolo ht).run (s := (t, x)) hw
  rw [hs.id] at hrun
  obtain ⟨s', ht', hcarried⟩ := hrun
  have hkind := (Outside.obliging_kind r (a ≠ .delete)).stage hs id
  have hcame := hcarried.came hkind hable hmark goal hgoal
  exact ⟨hcame.outcome, ht'.rests (hs.trans hcame.stage) hcame.status hcame.attention⟩

/-- Every status of the plan from `r` is written, and the confirming one is not: `s` is at the last
of them, or at the registration that an update before registration has turned into. -/
def Planned (steps : List Status) (r s : Record) : Prop :=
  s.status = steps.getLastD r.status ∨
    steps.getLastD r.status = .updateBeforeRegistration ∧ s.status = .toBeRegistered

theorem Planned.goal_eq {steps : List Status} (h : Planned steps r s) :
    s.status.goal = (steps.getLastD r.status).goal := by
  rcases h with h | ⟨hlast, h⟩
  · rw [h]
  · rw [hlast, h]
    rfl

theorem Planned.mem_intents {steps : List Status} (h : Planned steps r s)
    (hplan : a.plan r.status = .ok (.drive steps)) : s.status ∈ Status.intents := by
  rcases h with h | ⟨-, h⟩
  · rw [h]
    exact Action.getLastD_mem_intents hplan
  · rw [h]
    decide

theorem Planned.ne_delete {steps : List Status} (h : Planned steps r s)
    (hplan : a.plan r.status = .ok (.drive steps)) (hne : s.status ≠ .toBeDeleted) : a ≠ .delete := by
  refine Action.ne_delete_of_getLastD hplan ?_
  rcases h with h | ⟨hlast, -⟩
  · rw [← h]
    exact hne
  · rw [hlast]
    decide

end Rerun

/-- Wherever a request stops that is to drive a record, whatever it was answered until then: the same
request again succeeds if nothing goes wrong with it, and leaves the record as the uninterrupted
request leaves it. If the stop came after the plan was written and the record is not marked, so does
one sweep, provided that all rows at intents decode and none of them is another spelling of the id. -/
theorem rerun_converges {f g : Registrar} {t₀ t : Table} {r : Record} {id : RecordId} {a : Action}
    {steps : List Status} {p : Operation Outcome} (hsound : t₀.Sound)
    (hr : t₀.get? id = .ok (some r)) (hplan : a.plan r.status = .ok (.drive steps))
    (hable : Registrar.Able g a r)
    (hstop : Program.Reaches (Replies ⟨True, True⟩) (f.execute id a) t₀ p t) :
    ∃ goal s, t.get? id = .ok (some s) ∧
      ∀ {τ : Type} (answer : Answerer interface (Table × τ)) (x : τ), Obliges a r answer →
        Succeeds r goal ((g.execute id a).run answer (t₀, x)) ∧
        Succeeds r goal ((g.execute id a).run answer (t, x)) ∧
        (Planned steps r s → s.attention = none → t.Decodes Status.intents →
          t.Spells Status.intents id →
          (∃ stats, (g.sweep.run answer (t, x)).1 = .ok stats) ∧
            Rests r goal (g.sweep.run answer (t, x)).2.1) := by
  obtain ⟨rfl, hshows⟩ := hsound.shows hr
  have hgoal := Action.goal?_of_drive hplan
  have hdone : a.plan r.status ≠ .ok .alreadyDone := by simp [hplan]
  obtain ⟨s, ht, hs⟩ := execute_underway hshows hdone hgoal hstop
  refine ⟨(steps.getLastD r.status).goal, s, hs.stage.id ▸ ht.get?,
    fun answer x hw => ⟨?_, ?_, fun hwritten hmark hdec hspell => ?_⟩⟩
  · exact execute_succeeds hshows (.refl r) hgoal (fun h => absurd h hdone) hable hw x
  · exact execute_succeeds ht hs.stage hs.goal hs.unmarked (hable.stage hs.stage) hw x
  · have hsends := hwritten.ne_delete hplan
    have hswept := (Registrar.sweep_among ht ((Outside.obliging_kind r _).stage hs.stage hsends)
      (hable.ready hs.stage hsends) (hwritten.mem_intents hplan) hmark hdec
      (hs.stage.id.symm ▸ hspell)).run (s := (t, x)) hw
    obtain ⟨hends, s', ht', hstatus, hmark', hstage⟩ := hswept
    exact ⟨hends, ht'.rests (hs.stage.trans hstage) (hstatus.trans hwritten.goal_eq) hmark'⟩

section Rehearsal

theorem agreeing_obliges (a : Action) (r : Record) : Obliges a r (rehearsal agreeing).answer := by
  intro q s
  refine ⟨.inl (rehearsal_answers agreeing q s), ?_⟩
  cases q with
  | lookup resource => exact fun _ _ => ⟨_, rfl⟩
  | agency scheme call =>
    cases call with
    | change c => exact fun _ => rfl
    | _ => trivial
  | _ => trivial

def tenth (status : Status) (version : Int) : Record :=
  ⟨⟨10⟩, rehearsed, some ⟨0⟩, .item, status, none, version, .epoch, .epoch⟩

def halted (others : Table) (calls : Nat) : Except RegistrarError Outcome × Table × Nat :=
  (Registrar.execute ⟨fun _ => true, .standard⟩ ⟨10⟩ .register).run faltering
    (others ++ [Row.ofRecord (tenth .minted 0)], calls)

theorem halted_reaches (others : Table) (calls : Nat) : Program.Reaches (Replies ⟨True, True⟩)
    (Registrar.execute ⟨fun _ => true, .standard⟩ ⟨10⟩ .register)
    (others ++ [Row.ofRecord (tenth .minted 0)]) (.ofExcept (halted others calls).1)
    (halted others calls).2.1 :=
  Program.reaches_run faltering_replies _ (others ++ [Row.ofRecord (tenth .minted 0)], calls)

theorem halted_alone : (halted [] 2).2.1 = [Row.ofRecord (tenth .toBeRegistered 1)] := by
  decide +kernel

/-- A registration that stops before its confirming write is made up for, by itself and by a sweep. -/
theorem registration_rerun : ∃ goal,
    Succeeds (tenth .minted 0) goal ((Registrar.execute ⟨fun _ => true, .standard⟩ ⟨10⟩ .register).run
      (rehearsal agreeing).answer ((halted [] 2).2.1, 0)) ∧
    Rests (tenth .minted 0) goal ((Registrar.sweep ⟨fun _ => true, .standard⟩).run
      (rehearsal agreeing).answer ((halted [] 2).2.1, 0)).2.1 := by
  have hsound : Table.Sound ([] ++ [Row.ofRecord (tenth .minted 0)]) := List.pairwise_singleton _ _
  obtain ⟨goal, s, hs, hruns⟩ := rerun_converges (g := ⟨fun _ => true, .standard⟩) hsound
    (r := tenth .minted 0) (by decide +kernel) rfl ⟨rfl, fun _ => rfl⟩ (halted_reaches [] 2)
  obtain ⟨-, hagain, hswept⟩ := hruns (rehearsal agreeing).answer 0 (agreeing_obliges _ _)
  have hget : (halted [] 2).2.1.get? ⟨10⟩ = .ok (some (tenth .toBeRegistered 1)) := by
    rw [halted_alone]
    decide +kernel
  obtain rfl : tenth .toBeRegistered 1 = s := Option.some.inj (Except.ok.inj (hget.symm.trans hs))
  refine ⟨goal, hagain, (hswept (.inl rfl) rfl ?_ ?_).2⟩
  · intro row hrow _
    rw [halted_alone] at hrow
    rw [List.mem_singleton.1 hrow]
    exact ⟨_, Row.record_ofRecord _⟩
  · intro row hrow _ u _ _
    rw [halted_alone] at hrow
    rw [List.mem_singleton.1 hrow]
    decide +kernel

/-- A record that was read from a row whose id was spelled by hand, in lower case. -/
def misread : Record :=
  ⟨⟨10⟩, ⟨.dark, "dark:/a/c", by decide⟩, some ⟨1⟩, .item, .toBeReserved, none, 1, .epoch, .epoch⟩

def spelled : Row := { Row.ofRecord misread with id := .text "pid_0000000000000000000000000a" }

theorem halted_spelled :
    (halted [spelled] 2).2.1 = [spelled, Row.ofRecord (tenth .toBeRegistered 1)] := by
  decide +kernel

theorem listRetryable_spelled :
    (halted [spelled] 2).2.1.listRetryable Status.intents =
      .ok [misread, tenth .toBeRegistered 1] := by
  have hrows : (halted [spelled] 2).2.1.rowsAt Status.intents =
      [spelled, Row.ofRecord (tenth .toBeRegistered 1)] := by
    rw [halted_spelled]
    decide +kernel
  have hrecords : Table.records [spelled, Row.ofRecord (tenth .toBeRegistered 1)] =
      .ok [misread, tenth .toBeRegistered 1] := by
    decide +kernel
  have hsorted : [misread, tenth .toBeRegistered 1].mergeSort Record.updatedBefore =
      [misread, tenth .toBeRegistered 1] :=
    List.mergeSort_of_pairwise (by decide +kernel)
  change (Table.records ((halted [spelled] 2).2.1.rowsAt Status.intents) >>= fun rs =>
    pure (rs.mergeSort Record.updatedBefore)) >>= (fun rs => pure (rs.filter _)) = _
  rw [hrows, hrecords]
  change Except.ok (([misread, tenth .toBeRegistered 1].mergeSort Record.updatedBefore).filter _) = _
  rw [hsorted]
  rfl

/-- A sweep does not make up for the registration where a row of another identifier spells the same id
in lower case: it writes what it confirms for that one over the row of the record. -/
theorem sweep_misses_registration : ∃ t₀ r steps p t s, Table.Sound t₀ ∧
    t₀.get? ⟨10⟩ = .ok (some r) ∧ Action.register.plan r.status = .ok (.drive steps) ∧
    Registrar.Able ⟨fun _ => true, .standard⟩ .register r ∧
    Program.Reaches (Replies ⟨True, True⟩)
      (Registrar.execute ⟨fun _ => true, .standard⟩ ⟨10⟩ .register) t₀ p t ∧
    t.get? ⟨10⟩ = .ok (some s) ∧ Planned steps r s ∧ s.attention = none ∧
    t.Decodes Status.intents ∧ Obliges .register r (rehearsal agreeing).answer ∧
    Succeeds r .isRegistered ((Registrar.execute ⟨fun _ => true, .standard⟩ ⟨10⟩ .register).run
      (rehearsal agreeing).answer (t₀, 0)) ∧
    ¬ Rests r .isRegistered ((Registrar.sweep ⟨fun _ => true, .standard⟩).run
      (rehearsal agreeing).answer (t, 0)).2.1 := by
  refine ⟨_, tenth .minted 0, _, _, _, tenth .toBeRegistered 1, ?_, ?_, rfl, ⟨rfl, fun _ => rfl⟩,
    halted_reaches [spelled] 2, ?_, .inl rfl, rfl, ?_, agreeing_obliges _ _, ?_, ?_⟩
  · refine List.pairwise_pair.2 ?_
    unfold Row.Clashes
    decide +kernel
  · decide +kernel
  · rw [halted_spelled]
    decide +kernel
  · intro row hrow _
    rw [halted_spelled] at hrow
    rcases List.mem_pair.1 hrow with rfl | rfl
    · exact ⟨misread, by decide +kernel⟩
    · exact ⟨_, Row.record_ofRecord _⟩
  · refine ⟨by decide +kernel, tenth .isRegistered 2, by decide +kernel, rfl, rfl, rfl, rfl⟩
  · have hswept : ((Registrar.sweep ⟨fun _ => true, .standard⟩).run (rehearsal agreeing).answer
        ((halted [spelled] 2).2.1, 0)).2.1.get? ⟨10⟩ = .ok (some (tenth .isReserved 2)) := by
      have hlisted : (Operation.store (.listRetryable Status.intents)).run (rehearsal agreeing).answer
          ((halted [spelled] 2).2.1, 0) =
            (.ok [misread, tenth .toBeRegistered 1], ((halted [spelled] 2).2.1, 0)) :=
        Surroundings.run_store _ (by rw [Store.answer, listRetryable_spelled]; rfl)
      rw [Registrar.sweep, Program.run_bind, hlisted, halted_spelled]
      decide +kernel
    rintro ⟨s, hs, hstatus, -⟩
    obtain rfl : tenth .isReserved 2 = s := Option.some.inj (Except.ok.inj (hswept.symm.trans hs))
    cases hstatus

end Rehearsal

end IdentifierRegistrar
