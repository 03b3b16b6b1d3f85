import IdentifierRegistrar.Proofs.Operation.Custody

/-! One record by itself. Driving a record, or carrying out a request for it, touches the row of that
record and what lies outside the store for it, and nothing else: so both are looked at here over
those two alone, whatever the outside is. Main results: what is kept on the way (`drive_solo`,
`execute_solo`, `releaseRecord_solo`), and that in a world where nothing goes wrong the record comes
to the rest that its intent is for. -/

namespace IdentifierRegistrar

def Status.goal : Status → Status
  | updateBeforeRegistration => isRegistered
  | s => s.confirmed?.getD s

/-- `s` is `r` at another stage: the same identifier, bound as before. Status, marker, version and
times may differ. -/
structure Record.Stage (r s : Record) : Prop where
  id : s.id = r.id
  value : s.value = r.value
  resource : s.resource = r.resource

theorem Record.Stage.refl (r : Record) : r.Stage r := ⟨rfl, rfl, rfl⟩

theorem Record.Stage.trans {r s t : Record} (h : r.Stage s) (h' : s.Stage t) : r.Stage t :=
  ⟨h'.id.trans h.id, h'.value.trans h.value, h'.resource.trans h.resource⟩

theorem Record.Stage.stored (r : Record) : r.Stage r.stored := ⟨rfl, rfl, rfl⟩

theorem Record.Stage.clearAttention (r : Record) (t : Instant) : r.Stage (r.clearAttention t) := by
  unfold Record.clearAttention
  split <;> exact ⟨rfl, rfl, rfl⟩

theorem Record.Stage.moved (r : Record) (target : Status) (t : Instant) :
    r.Stage (r.moveTo target t).next := ⟨rfl, rfl, rfl⟩

/-- What lies outside the store: whether the store may fail, what the directory may answer, and how
a change asked of the agency may be answered and what it makes of the outside. -/
structure Outside (τ : Type) where
  fails : Prop
  lookup : ResourceId → Except DirectoryError (Option Resource) → Prop
  change : τ → Agency.Change → Except AgencyError Unit → τ → Prop

namespace Outside

variable {τ : Type}

/-- Nothing goes wrong for `r`: the agency agrees, and if something is to be sent about the resource,
it is found. -/
structure Kind (w : Outside τ) (r : Record) (sends : Prop) : Prop where
  store : ¬ w.fails
  found : sends → ∀ resource x, r.resource = some resource → w.lookup resource x →
    ∃ found, x = .ok (some found)
  agrees : ∀ h c x h', c.value = r.value → w.change h c x h' → x = .ok ()

theorem Kind.stage {w : Outside τ} {r s : Record} {sends sends' : Prop} (h : w.Kind r sends)
    (hs : r.Stage s) (hsends : sends' → sends) : w.Kind s sends' :=
  ⟨h.store, fun hs' => hs.resource ▸ h.found (hsends hs'), hs.value ▸ h.agrees⟩

inductive Gives (w : Outside τ) : Record × τ → (q : Service.Request) → Service.Reply q → Record × τ → Prop
  | got {s : Record} {h : τ} : Gives w (s, h) (.store (.get s.id)) (.ok (some s)) (s, h)
  | wrote {s d : Record} {h : τ} :
    Gives w (s, h) (.store (.update d)) (.ok d.next) (d.next.stored, h)
  | failed {s : Record × τ} {call : Store.Call} {e : StoreError} (hw : w.fails) :
    Gives w s (.store call) (.error e) s
  | lookup {s : Record × τ} {resource : ResourceId} {x : Except DirectoryError (Option Resource)}
    (hx : w.lookup resource x) : Gives w s (.lookup resource) x s
  | changed {s : Record} {h h' : τ} {scheme : Scheme} {c : Agency.Change}
    {x : Except AgencyError Unit} (hx : w.change h c x h') :
    Gives w (s, h) (.agency scheme (.change c)) x (s, h')
  | now {s : Record × τ} {t : Instant} : Gives w s .now t s

end Outside

namespace Service

/-- A request that concerns only the record whose row is `s`, and writes only what was made of it. -/
def Minds (s : Record) : Request → Prop
  | .store (.get id) => id = s.id
  | .store (.update d) => ∃ c : Record, c.stored = s ∧ c.Revision d
  | .lookup resource => s.resource = some resource
  | .agency scheme (.change c) => scheme = s.scheme ∧ c.Suits s
  | .now => True
  | _ => False

def solo {τ : Type} (w : Outside τ) (J : Record → τ → Prop) : Setting interface (Record × τ) where
  allows s q := J s.1 s.2 ∧ Minds s.1 q
  moves := w.Gives

end Service

open Service Operation

/-- `J` is kept while a record is driven: `K` holds of it until it is parked or comes to rest. -/
structure Outside.Carries {τ : Type} (w : Outside τ) (K J : Record → τ → Prop) : Prop where
  holds : ∀ {s h}, K s h → J s h
  registers : ∀ {r : Record} {h t}, K r.stored h → r.status = .updateBeforeRegistration →
    K (r.moveTo .toBeRegistered t).next.stored h
  parks : ∀ {r : Record} {h message t}, K r.stored h → r.status ∈ Status.intents →
    J (r.flag message t).next.stored h
  asks : ∀ {r : Record} {h c x h'}, K r.stored h → c.Suits r → w.change h c x h' → K r.stored h'
  confirms : ∀ {r : Record} {h c h' confirmed t}, K r.stored h → c.Suits r → w.change h c (.ok ()) h' →
    r.status.confirmed? = some confirmed → J (r.moveTo confirmed t).next.stored h'

section Rules

variable {α β τ : Type} {w : Outside τ} {K J : Record → τ → Prop} {c r d : Record} {h : τ}
  {Q : Except RegistrarError β → Record × τ → Prop}

theorem meets_now_solo {f : Instant → Operation β} {s : Record × τ} (hJ : J s.1 s.2)
    (hf : ∀ t, (f t).Meets (solo w J) Q s) : (now >>= f).Meets (solo w J) Q s := by
  have hminds : Minds s.1 .now := trivial
  refine ⟨⟨hJ, hminds⟩, ?_⟩
  rintro t _ ⟨⟩
  exact hf t

theorem meets_load_solo {f : Record → Operation β} (hJ : J r h)
    (hf : (f r).Meets (solo w J) Q (r, h)) (herror : ∀ e, w.fails → Q (.error e) (r, h)) :
    (Registrar.load r.id >>= f).Meets (solo w J) Q (r, h) := by
  refine ⟨⟨hJ, rfl⟩, ?_⟩
  rintro x _ (⟨⟩ | ⟨⟩ | hw)
  · exact hf
  · exact herror _ hw

theorem meets_write_solo {f : Record → Operation β} (hJ : J c.stored h) (hd : c.Revision d)
    (hf : (f d.next).Meets (solo w J) Q (d.next.stored, h))
    (herror : ∀ e, w.fails → Q (.error e) (c.stored, h)) :
    (Registrar.write d >>= f).Meets (solo w J) Q (c.stored, h) := by
  refine ⟨⟨hJ, c, rfl, hd⟩, ?_⟩
  rintro x _ (⟨⟩ | ⟨⟩ | hw)
  · exact hf
  · exact herror _ hw

theorem meets_commit_solo {f : Record → Operation β} {target : Status} (hJ : J c.stored h)
    (hr : c.Draft r) (htarget : target ∈ r.status.targets)
    (hf : ∀ t, (f (r.moveTo target t).next).Meets (solo w J) Q ((r.moveTo target t).next.stored, h))
    (herror : ∀ e, w.fails → Q (.error e) (c.stored, h)) :
    (Registrar.commit r target >>= f).Meets (solo w J) Q (c.stored, h) := by
  unfold Registrar.commit
  rw [Program.bind_assoc]
  refine meets_now_solo hJ fun t => ?_
  have hd : r.transition target t = .ok (r.moveTo target t) :=
    Record.transition_eq_ok_iff.2 ⟨htarget, rfl⟩
  rw [hd]
  exact meets_write_solo hJ (hr.transition hd) (hf t) herror

theorem park_solo {message : String} {Q : Except RegistrarError Outcome → Record × τ → Prop}
    (hJ : J c.stored h) (hr : c.Draft r)
    (hQ : ∀ t, Q (.ok (.needsAttention r.status message)) ((r.flag message t).next.stored, h))
    (herror : ∀ e, w.fails → Q (.error e) (c.stored, h)) :
    (Registrar.park r message).Meets (solo w J) Q (c.stored, h) :=
  meets_now_solo hJ fun t => meets_write_solo hJ (hr.flag message t) (hQ t) herror

end Rules

namespace Registrar

variable {τ : Type} {w : Outside τ} {K J : Record → τ → Prop} {r : Record} {h : τ} {g : Registrar}

/-- All that a drive of `r` to its goal needs of the registrar and of the binding. -/
structure Ready (g : Registrar) (r : Record) : Prop where
  connected : g.connected r.scheme
  bound : r.status ≠ .toBeDeleted → r.resource.isSome

structure Came (r : Record) (target : Status) (mark : Option String)
    (x : Except RegistrarError Outcome) (s : Record) : Prop where
  outcome : x = .ok (.succeeded target)
  status : s.status = target
  attention : s.attention = mark
  stage : r.Stage s

structure Comes (w : Outside τ) (J : Record → τ → Prop) (g : Registrar) (r : Record)
    (x : Except RegistrarError Outcome) (s : Record × τ) : Prop where
  kept : J s.1 s.2
  came : w.Kind r (r.status ≠ .toBeDeleted) → Ready g r → Came r r.status.goal r.attention x s.1

theorem Status.goal_of_confirmed? {s t : Status} (h : s.confirmed? = some t) : s.goal = t := by
  cases s <;> simp_all [Status.goal, Status.confirmed?]

theorem settle_solo (hw : w.Carries K J) {c : Agency.Change} {confirmed : Status}
    {x : Except AgencyError Unit} {h₀ : τ} (hK₀ : K r.stored h₀) (hc : c.Suits r)
    (hx : w.change h₀ c x h) (hrest : r.status.confirmed? = some confirmed) :
    (settle r confirmed x).Meets (solo w J) (Comes w J g r) (r.stored, h) := by
  have hK := hw.asks hK₀ hc hx
  have hi := Status.mem_intents_of_confirmed? hrest
  rcases x with e | ⟨⟩
  · have hno {sends : Prop} (hk : w.Kind r sends) : False := by cases hk.agrees _ _ _ _ hc.1 hx
    cases e with
    | unreachable reason => exact ⟨hw.holds hK, fun hk => (hno hk).elim⟩
    | rejected status message =>
      exact park_solo (hw.holds hK) (.refl r) (fun t => ⟨hw.parks hK hi, fun hk => (hno hk).elim⟩)
        fun e _ => ⟨hw.holds hK, fun hk => (hno hk).elim⟩
    | malformedValue cause => exact ⟨hw.holds hK, fun hk => (hno hk).elim⟩
  · refine meets_commit_solo (hw.holds hK) (.refl r) (Status.confirmed?_mem_targets hrest)
      (fun t => ⟨hw.confirms hK₀ hc hx hrest, fun _ _ => ?_⟩)
      fun e hfails => ⟨hw.holds hK, fun hk => absurd hfails hk.store⟩
    rw [Status.goal_of_confirmed? hrest]
    exact ⟨rfl, rfl, rfl, (Record.Stage.moved r confirmed t).trans (.stored _)⟩

theorem resume_solo (hw : w.Carries K J) (hK : K r.stored h)
    (hubr : r.status ≠ .updateBeforeRegistration) :
    (g.resume r).Meets (solo w J) (Comes w J g r) (r.stored, h) := by
  have hJ := hw.holds hK
  have hparked {message : String} (hs : Sends r)
      (hno : w.Kind r (r.status ≠ .toBeDeleted) → Ready g r → False) :
      (park r message).Meets (solo w J) (Comes w J g r) (r.stored, h) :=
    park_solo hJ (.refl r) (fun t => ⟨hw.parks hK hs.1, fun hk hr => (hno hk hr).elim⟩)
      fun e hfails => ⟨hJ, fun hk => absurd hfails hk.store⟩
  refine resume_meets_of (P := fun s => s = (r.stored, h)) (fun _ => rfl) ?_ ?_ ?_ ?_ ?_ ?_ ?_ ?_
  · intro hrest
    refine ⟨hJ, fun _ _ => ?_⟩
    have hgoal : r.status.goal = r.status := by
      cases hs : r.status <;> simp_all [Status.goal, Status.confirmed?]
    rw [hgoal]
    exact ⟨rfl, rfl, rfl, .stored r⟩
  · exact fun _ hg => ⟨hJ, fun _ hr => absurd hr.connected hg⟩
  · intro hs hb
    refine hparked hs fun _ hr => ?_
    have hbound := hr.bound hs.2
    simp [hb] at hbound
  · exact fun resource _ hb => ⟨hJ, hb⟩
  · rintro resource e _ reason hs hb ⟨⟩
    rename_i hx
    refine ⟨hJ, fun hk _ => ?_⟩
    obtain ⟨found, h⟩ := hk.found hs.2 resource _ hb hx
    cases h
  · rintro resource _ message hs hb ⟨⟩
    rename_i hx
    refine hparked hs fun hk _ => ?_
    obtain ⟨found, h⟩ := hk.found hs.2 resource _ hb hx
    cases h
  · rintro resource found _ hs hb ⟨⟩
    rfl
  · rintro confirmed c _ rfl hrest hc
    refine ⟨⟨hJ, rfl, hc⟩, ?_⟩
    rintro x _ ⟨⟩
    rename_i hx
    exact settle_solo hw hK hc hx hrest

/-- Driving a record keeps `J`, and brings it to its goal if nothing goes wrong. -/
theorem drive_solo (hw : w.Carries K J) (hK : K r.stored h) :
    (g.drive r).Meets (solo w J) (Comes w J g r) (r.stored, h) := by
  have hJ := hw.holds hK
  refine drive_meets_of (fun hs hb => ?_) (fun hubr => ?_) fun hne => resume_solo hw hK hne
  · refine park_solo hJ (.refl r) (fun t => ⟨hw.parks hK hs.1, fun _ hr => ?_⟩)
      fun e hfails => ⟨hJ, fun hk => absurd hfails hk.store⟩
    have hbound := hr.bound hs.2
    simp [hb] at hbound
  · refine meets_commit_solo hJ (.refl r) (by rw [hubr]; decide) (fun t => ?_)
      fun e hfails => ⟨hJ, fun hk => absurd hfails hk.store⟩
    have hstage := Record.Stage.moved r .toBeRegistered t
    have hgoal : r.status.goal = Status.goal .toBeRegistered := by rw [hubr]; rfl
    refine (resume_solo hw (hw.registers hK hubr) (by simp [Record.moveTo])).mono fun x s hs => ?_
    refine ⟨hs.kept, fun hk hr => ?_⟩
    have hsends : r.status ≠ .toBeDeleted := by simp [hubr]
    have hcame := hs.came (hk.stage hstage fun _ => hsends) ⟨hr.connected, fun _ => hr.bound hsends⟩
    rw [hgoal]
    exact ⟨hcame.outcome, hcame.status, hcame.attention, hstage.trans hcame.stage⟩

end Registrar

namespace Action

/-- The rest that a request leads to from a status, if it has a plan there. -/
def goal? (a : Action) (s : Status) : Option Status :=
  match a.plan s with
  | .ok .alreadyDone => some s
  | .ok (.drive steps) => some (steps.getLastD s).goal
  | .error _ => none

theorem goal?_of_drive {a : Action} {s : Status} {steps : List Status}
    (h : a.plan s = .ok (.drive steps)) : a.goal? s = some (steps.getLastD s).goal := by
  rw [goal?, h]

/-- The statuses of a plan follow one another along the edges of the life cycle. -/
theorem isChain_plan {a : Action} {s : Status} {steps : List Status}
    (h : a.plan s = .ok (.drive steps)) : (s :: steps).IsChain fun s t => t ∈ s.targets := by
  cases a <;> cases s <;> cases h <;> simp [Status.targets]

/-- A plan ends at an intent. -/
theorem getLastD_mem_intents {a : Action} {s : Status} {steps : List Status}
    (h : a.plan s = .ok (.drive steps)) : steps.getLastD s ∈ Status.intents := by
  cases a <;> cases s <;> cases h <;> decide

/-- Only a deletion has a plan that ends without something to send. -/
theorem ne_delete_of_getLastD {a : Action} {s : Status} {steps : List Status}
    (h : a.plan s = .ok (.drive steps)) (hne : steps.getLastD s ≠ .toBeDeleted) : a ≠ .delete := by
  rintro rfl
  cases s <;> cases h <;> exact hne rfl

end Action

namespace Registrar

variable {τ α : Type} {w : Outside τ} {K J : Record → τ → Prop} {r : Record} {h : τ} {g : Registrar}

/-- The statuses of a plan are written one after the other; what follows, `f`, begins at the last. -/
theorem through_solo {steps : List Status} {c d : Record} {f : Record → Operation α}
    {Q : Except RegistrarError α → Record × τ → Prop} (hw : w.Carries K J) (hJ : J c.stored h)
    (hd : c.Draft d) (hchain : (d.status :: steps).IsChain fun s t => t ∈ s.targets)
    (hnone : steps = [] → c = d ∧ K d.stored h)
    (hK : ∀ e, d.Stage e → e.attention = d.attention → e.status ∈ steps → K e h)
    (hf : ∀ e, d.Stage e → e.attention = d.attention → e.status = steps.getLastD d.status →
      K e.stored h → (f e).Meets (solo w J) Q (e.stored, h))
    (herror : ∀ e s, w.fails → J s h → Q (.error e) (s, h)) :
    (through commit d steps >>= f).Meets (solo w J) Q (c.stored, h) := by
  induction steps generalizing c d with
  | nil =>
    obtain ⟨rfl, hKd⟩ := hnone rfl
    exact hf c (.refl c) rfl rfl hKd
  | cons target steps ih =>
    rw [List.isChain_cons_cons] at hchain
    rw [through, Program.bind_assoc]
    refine meets_commit_solo hJ hd hchain.1 (fun t => ?_) fun e hfails => herror e _ hfails hJ
    have hstage := Record.Stage.moved d target t
    have hKe : K (d.moveTo target t).next.stored h :=
      hK _ (hstage.trans (.stored _)) rfl (by simp [Record.moveTo])
    refine ih (hw.holds hKe) (.refl _) hchain.2 (fun _ => ⟨rfl, hKe⟩) ?_ ?_
    · exact fun e he hm hs => hK e (hstage.trans he) hm (List.mem_cons_of_mem _ hs)
    · intro e he hm hs
      rw [List.getLastD_cons] at hf
      exact hf e (hstage.trans he) hm hs

/-- `d` is `r` without its marker. The row `c` is that already if no status is to be written. -/
structure Cleared (r : Record) (steps : List Status) (c d : Record) : Prop where
  draft : c.Draft d
  stage : r.Stage d
  status : d.status = r.status
  attention : d.attention = none
  written : steps = [] → c = d

theorem unmark_solo {steps : List Status} {f : Record → Operation α}
    {Q : Except RegistrarError α → Record × τ → Prop} (hJ : J r.stored h)
    (hclear : steps = [] → ∀ s, r.Stage s → s.attention = none → s.status = r.status → J s h)
    (hf : ∀ c d, Cleared r steps c d → J c.stored h → (f d).Meets (solo w J) Q (c.stored, h))
    (herror : ∀ e s, w.fails → J s h → Q (.error e) (s, h)) :
    (unmark r steps >>= f).Meets (solo w J) Q (r.stored, h) := by
  unfold unmark
  by_cases hm : r.attention = none
  · simp only [hm, Option.isNone_none, if_true, Program.pure_eq, Program.done_bind]
    exact hf r r ⟨.refl r, .refl r, rfl, hm, fun _ => rfl⟩ hJ
  · rw [if_neg (by simpa using hm), Program.bind_assoc]
    refine meets_now_solo hJ fun t => ?_
    have hdraft := (Record.Draft.refl r).clearAttention t
    have hstage := Record.Stage.clearAttention r t
    have hmark := r.clearAttention_attention t
    by_cases hn : steps = []
    · have hJd : J (r.clearAttention t).next.stored h :=
        hclear hn _ (hstage.trans ⟨rfl, rfl, rfl⟩) hmark hdraft.status
      simp only [hn, List.isEmpty_nil, if_true]
      refine meets_write_solo hJ hdraft.revision (hf _ _ ?_ hJd) fun e hfails => herror e _ hfails hJ
      exact ⟨.refl _, hstage.trans ⟨rfl, rfl, rfl⟩, hdraft.status, hmark, fun _ => rfl⟩
    · simp only [List.isEmpty_iff, hn, if_false]
      exact hf r _ ⟨hdraft, hstage, hdraft.status, hmark, fun h => absurd h hn⟩ hJ

structure Able (g : Registrar) (a : Action) (r : Record) : Prop where
  connected : g.connected r.scheme
  bound : a ≠ .delete → r.resource.isSome

theorem Able.stage {a : Action} {e : Record} (h : Able g a r) (hstage : r.Stage e) : Able g a e := by
  refine ⟨?_, fun ha => ?_⟩
  · rw [show e.scheme = r.scheme from congrArg IdentifierValue.scheme hstage.value]
    exact h.connected
  · rw [hstage.resource]
    exact h.bound ha

theorem Able.ready {a : Action} {e : Record} (h : Able g a r) (hstage : r.Stage e)
    (hsends : e.status ≠ .toBeDeleted → a ≠ .delete) : Ready g e :=
  ⟨(h.stage hstage).connected, fun hne => (h.stage hstage).bound (hsends hne)⟩

/-- What carrying out `a` for `r` comes to: `J` holds, and if nothing goes wrong `r` has come to the
rest that the request leads to, unmarked. -/
structure Carried (w : Outside τ) (J : Record → τ → Prop) (g : Registrar) (a : Action) (r : Record)
    (x : Except RegistrarError Outcome) (s : Record × τ) : Prop where
  kept : J s.1 s.2
  came : w.Kind r (a ≠ .delete) → Able g a r → (a.plan r.status = .ok .alreadyDone → r.attention = none) →
    ∀ goal, a.goal? r.status = some goal → Came r goal none x s.1

/-- Carrying out a request keeps `J`, if the statuses that its plan writes carry `K`; if it writes
none, the status that it begins with. -/
theorem execute_solo (hw : w.Carries K J) (a : Action) (hr : r.stored = r) (hJ : J r h)
    (hplan : ∀ steps, a.plan r.status = .ok (.drive steps) → ∀ s, r.Stage s → s.attention = none →
      (s.status ∈ steps ∨ steps = [] ∧ s.status = r.status) → K s h) :
    (g.execute r.id a).Meets (solo w J) (Carried w J g a r) (r, h) := by
  have herror (e : RegistrarError) (s : Record) (hfails : w.fails) (hs : J s h) :
      Carried w J g a r (.error e) (s, h) := ⟨hs, fun hk => absurd hfails hk.store⟩
  refine meets_load_solo hJ ?_ fun e hfails => herror e r hfails hJ
  cases hsteps : a.plan r.status with
  | error e =>
    refine ⟨hJ, fun _ _ _ goal hgoal => ?_⟩
    simp [Action.goal?, hsteps] at hgoal
  | ok plan =>
  cases plan with
  | alreadyDone =>
    refine ⟨hJ, fun _ _ hmark goal hgoal => ?_⟩
    obtain rfl : r.status = goal := by simpa [Action.goal?, hsteps] using hgoal
    exact ⟨rfl, rfl, hmark hsteps, .refl r⟩
  | drive steps =>
    have hK := hplan steps hsteps
    have hrow : J r.stored h := hr.symm ▸ hJ
    suffices hunmarked : (unmark r steps >>= fun d => through commit d steps >>= g.drive).Meets
        (solo w J) (Carried w J g a r) (r.stored, h) by rwa [hr] at hunmarked
    refine unmark_solo hrow (fun hn s hs hm hst => hw.holds (hK s hs hm (.inr ⟨hn, hst⟩)))
      (fun c d hd hc => ?_) herror
    refine through_solo hw hc hd.draft (hd.status ▸ Action.isChain_plan hsteps)
      (fun hn => ⟨hd.written hn, ?_⟩)
      (fun e he hm hs => hK e (hd.stage.trans he) (hm.trans hd.attention) (.inl hs))
      (fun e he hm hs hKe => ?_) herror
    · exact hK _ (hd.stage.trans (.stored d)) hd.attention (.inr ⟨hn, hd.status⟩)
    · have hstage := hd.stage.trans he
      have hm := hm.trans hd.attention
      rw [hd.status] at hs
      refine (drive_solo hw hKe).mono fun x s hx => ⟨hx.kept, fun hk hable _ goal hgoal => ?_⟩
      have hsends (hne : e.status ≠ .toBeDeleted) : a ≠ .delete :=
        Action.ne_delete_of_getLastD hsteps (hs ▸ hne)
      have hcame := hx.came (hk.stage hstage hsends) (hable.ready hstage hsends)
      rw [Action.goal?_of_drive hsteps, ← hs] at hgoal
      obtain rfl := Option.some.inj hgoal
      exact ⟨hcame.outcome, hcame.status, hcame.attention.trans hm, hstage.trans hcame.stage⟩

theorem hold_solo (hr : r.stored = r) (hJ : J r h)
    (hheld : .pending ∈ r.status.targets → ∀ t, J (r.moveTo .pending t).next.stored h) :
    (hold r.id).Meets (solo w J) (fun _ s => J s.1 s.2) (r, h) := by
  refine meets_load_solo hJ ?_ fun _ _ => hJ
  have hrow : J r.stored h := hr.symm ▸ hJ
  suffices hcommit : (commit r .pending).Meets (solo w J) (fun _ s => J s.1 s.2) (r.stored, h) by
    rwa [hr] at hcommit
  by_cases htarget : .pending ∈ r.status.targets
  · rw [← Program.bind_done (commit r .pending)]
    exact meets_commit_solo hrow (.refl r) htarget (fun t => hheld htarget t) fun _ _ => hrow
  · refine meets_now_solo hrow fun t => ?_
    cases hd : r.transition .pending t with
    | error e => exact hrow
    | ok d => exact absurd (Record.transition_eq_ok_iff.1 hd).1 htarget

/-- Releasing a record keeps `J`, if its row does without the binding, and the statuses that the plan
writes carry `K`. -/
theorem releaseRecord_solo (hw : w.Carries K J) (hr : r.stored = r) (hJ : J r h)
    (hclear : ∀ s, s.value = r.value → s.status = r.status → J s h)
    (hplan : ∀ steps, Action.delete.plan r.status = .ok (.drive steps) → ∀ s, s.value = r.value →
      (s.status ∈ steps ∨ steps = [] ∧ s.status = r.status) → K s h) :
    (g.releaseRecord r).Meets (solo w J) (fun _ s => J s.1 s.2) (r, h) := by
  have hrow : J r.stored h := hr.symm ▸ hJ
  suffices hrelease : (g.releaseRecord r).Meets (solo w J) (fun _ s => J s.1 s.2) (r.stored, h) by
    rwa [hr] at hrelease
  refine meets_now_solo hrow fun t => ?_
  have hdraft := (Record.Draft.refl r).clearResource t
  have hvalue : (r.clearResource t).value = r.value := hdraft.revision.value
  have hdrive (d : Record) (hK : K d.stored h) : (g.drive d >>= fun o => pure (d.id, o)).Meets
      (solo w J) (fun _ s => J s.1 s.2) (d.stored, h) :=
    (drive_solo hw hK).bind (fun _ _ hx => hx.kept) fun _ _ hx => hx.kept
  cases hsteps : Action.delete.plan (r.clearResource t).status with
  | error e =>
    simp only [hsteps]
    have hparked (t' : Instant) : J ((r.clearResource t).flag e.message t').next.stored h :=
      hclear _ hvalue hdraft.status
    exact (park_solo (Q := fun _ s => J s.1 s.2) hrow hdraft hparked fun _ _ => hrow).bind
      (fun _ _ hs => hs) fun _ _ hs => hs
  | ok plan =>
  cases plan with
  | alreadyDone =>
    simp only [hsteps]
    exact meets_write_solo hrow hdraft.revision (hclear _ hvalue hdraft.status) fun _ _ => hrow
  | drive steps =>
    have hK := hplan steps (hdraft.status ▸ hsteps)
    cases steps with
    | nil =>
      simp only [hsteps]
      exact meets_write_solo hrow hdraft.revision (hdrive _ (hK _ hvalue (.inr ⟨rfl, hdraft.status⟩)))
        fun _ _ => hrow
    | cons s steps =>
      simp only [hsteps]
      refine through_solo hw hrow hdraft (Action.isChain_plan hsteps) (by simp)
        (fun e he _ hs => hK e (he.value.trans hvalue) (.inl hs))
        (fun e he _ _ hKe => hdrive e hKe) fun _ _ _ hs => hs

end Registrar

end IdentifierRegistrar
