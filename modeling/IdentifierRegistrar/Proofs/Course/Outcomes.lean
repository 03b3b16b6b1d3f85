import IdentifierRegistrar.Proofs.Course.Sweeps
import IdentifierRegistrar.Proofs.Operation.Preparing

/-! What the outcome of a request tells. A request ends in one of a few ways, and each goes with one answer
of the directory or the agency and one state of the row (`drive_yields`, `drive_orphaned`); so the outcome
says what the row is and what has passed outside (`execute_truthful`). -/

namespace IdentifierRegistrar

open Service Operation

namespace Service

def lookups (es : List Exchange) : List (Except DirectoryError (Option Resource)) :=
  es.filterMap fun
    | ⟨.lookup _, y⟩ => some y
    | _ => none

def changes (es : List Exchange) : List (Except AgencyError Unit) :=
  es.filterMap fun
    | ⟨.agency _ (.change _), y⟩ => some y
    | _ => none

end Service

/-- The intent that an intent is driven as: an update before registration turns into a registration. -/
def Status.driven : Status → Status
  | updateBeforeRegistration => toBeRegistered
  | s => s

namespace Status

variable {s : Status}

theorem driven_of_ne (h : s ≠ .updateBeforeRegistration) : s.driven = s := by
  cases s <;> first | rfl | exact absurd rfl h

theorem driven_mem_intents (h : s ∈ intents) : s.driven ∈ intents := by
  revert h
  cases s <;> decide

end Status

namespace Registrar

section Yields

variable {σ α β : Type} {w : World σ} {row mid : Row} {u u₁ : σ} {es : List Exchange}
  {P Q : Except RegistrarError α → List Exchange → Record → Prop}

/-- In place, the operation ends with a result, has passed some exchanges with those outside and leaves a
record, and `P` holds of the three. -/
def Yields (w : World σ) (p : Operation α) (row : Row) (u : σ)
    (P : Except RegistrarError α → List Exchange → Record → Prop) : Prop :=
  ∃ x left s u' es, InPlace w p row u x left u' es ∧ left.Keeps s ∧ P x (remotes es) s

theorem Yields.ends {p : Operation α} (h : Yields w p row u P) :
    EndsInPlace w p row u fun x es s => P x (remotes es) s := h

theorem Yields.mono {p : Operation α} (h : Yields w p row u P) (hPQ : ∀ x rs s, P x rs s → Q x rs s) :
    Yields w p row u Q :=
  EndsInPlace.mono h fun x es s hP => hPQ x (remotes es) s hP

theorem Yields.of_inPlace {p : Operation α} {x : Except RegistrarError α} {left : Row} {u' : σ}
    (h : Yields w p row u P) (hplace : InPlace w p row u x left u' es) :
    ∃ s, left.Keeps s ∧ P x (remotes es) s :=
  h.ends.of_inPlace hplace

theorem Yields.bind {p : Operation β} {f : β → Operation α} {b : β}
    (hp : InPlace w p row u (.ok b) mid u₁ es)
    (h : Yields w (f b) mid u₁ fun x rs s => P x (remotes es ++ rs) s) : Yields w (p >>= f) row u P := by
  refine EndsInPlace.bind (P := fun x es s => P x (remotes es) s) hp (EndsInPlace.mono h fun x es' s hP => ?_)
  rw [remotes_append]
  exact hP

/-- What an operation yields in place it yields in any table, and only the row of its record changes. -/
theorem Yields.run {p : Operation α} {before after : Table} {id : RecordId} (h : Yields w p row u P)
    (hsound : Table.Sound (before ++ row :: after)) (hid : row.hasId id = true) :
    ∃ x left s u', p.run w.answer (before ++ row :: after, u) = (x, before ++ left :: after, u') ∧
      Table.get? (before ++ left :: after) id = .ok (some s) ∧
      P x (remotes (p.exchanges w.answer (before ++ row :: after, u))) s := by
  obtain ⟨x, left, s, u', hrun, hsound', hleft, hsid, hP⟩ := h.ends.run hsound hid
  exact ⟨x, left, s, u', hrun, hsid ▸ (hleft.shows hsound').get?, hP⟩

end Yields

structure GivenUp (status : Status) (message : String) (x : Except RegistrarError Outcome)
    (rs : List Exchange) (s : Record) : Prop where
  result : x = .ok (.needsAttention status message)
  quiet : rs = []
  status : s.status = status
  marker : s.attention = some message

inductive Answered (i : Status) (mark : Option String) :
    Except AgencyError Unit → Except RegistrarError Outcome → Record → Prop
  | confirmed {s : Record} (hs : i.confirmed? = some s.status) :
    Answered i mark (.ok ()) (.ok (.succeeded s.status)) s
  | unreachable {reason : String} {s : Record} (hs : s.status = i) (hm : s.attention = mark) :
    Answered i mark (.error (.unreachable reason)) (.ok (.pendingRetry s.status reason)) s
  | rejected {code : Nat} {text message : String} {s : Record} (hs : s.status = i)
    (hm : s.attention = some message) :
    Answered i mark (.error (.rejected code text)) (.ok (.needsAttention s.status message)) s
  | malformed {cause : IdError} {s : Record} :
    Answered i mark (.error (.malformedValue cause)) (.error (.malformedIdentifier cause)) s

/-- What driving a record to its agency comes to, if it is bound or need not be: `v` is its value, `b` what
it is bound to, `i` the intent that the agency is asked for, and `mark` the marker that it carries. -/
inductive Reached (g : Registrar) (v : IdentifierValue) (b : Option ResourceId) (i : Status)
    (mark : Option String) : Except RegistrarError Outcome → List Exchange → Record → Prop
  | unconnected {s : Record} (hg : ¬ g.connected v.scheme) :
    Reached g v b i mark (.error (.noConnector v.scheme)) [] s
  | unlooked {resource : ResourceId} {e : DirectoryError} {reason : String} {s : Record}
    (hi : i ≠ .toBeDeleted) (hb : b = some resource) (hs : s.status = i) (hm : s.attention = mark) :
    Reached g v b i mark (.ok (.pendingRetry s.status reason)) [⟨.lookup resource, .error e⟩] s
  | missing {resource : ResourceId} {message : String} {s : Record} (hi : i ≠ .toBeDeleted)
    (hb : b = some resource) (hs : s.status = i) (hm : s.attention = some message) :
    Reached g v b i mark (.ok (.needsAttention s.status message)) [⟨.lookup resource, .ok none⟩] s
  | sent {resource : ResourceId} {found : Resource} {c : Agency.Change} {y : Except AgencyError Unit}
    {x : Except RegistrarError Outcome} {s : Record} (hi : i ≠ .toBeDeleted) (hb : b = some resource)
    (hc : c.value = v ∧ i.asks? = some c.action) (h : Answered i mark y x s) :
    Reached g v b i mark x
      [⟨.lookup resource, .ok (some found)⟩, ⟨.agency v.scheme (.change c), y⟩] s
  | withdrawn {c : Agency.Change} {y : Except AgencyError Unit} {x : Except RegistrarError Outcome}
    {s : Record} (hi : i = .toBeDeleted) (hc : c.value = v ∧ i.asks? = some c.action)
    (h : Answered i mark y x s) : Reached g v b i mark x [⟨.agency v.scheme (.change c), y⟩] s

section InPlace

variable {σ : Type} {w : World σ} {row : Row} {c r : Record} {confirmed : Status} {g : Registrar}

theorem park_in_place (hrow : row.Keeps c.stored) (hr : c.Draft r) (message : String) (w : World σ) (u : σ) :
    InPlace w (park r message) row u (.ok (.needsAttention r.status message))
      (Row.updateFrom (r.flag message (w.now u).1) row) (w.now u).2
      [⟨.now, (w.now u).1⟩, ⟨.store (.update (r.flag message (w.now u).1)),
        .ok (r.flag message (w.now u).1).next⟩] := by
  refine InPlace.bind (now_in_place row w u) ?_
  exact InPlace.bind (write_in_place hrow (hr.flag message (w.now u).1) w _) (.done w _ _ _)

theorem park_yields (hrow : row.Keeps r.stored) (message : String) (u : σ) :
    Yields w (park r message) row u (GivenUp r.status message) :=
  ⟨_, _, _, _, _, park_in_place hrow (.refl r) message w u,
    hrow.updateFrom ((Record.Draft.refl r).flag message (w.now u).1), rfl, rfl, rfl, rfl⟩

theorem settle_yields (hrow : row.Keeps r.stored) (hc : r.status.confirmed? = some confirmed)
    (y : Except AgencyError Unit) (u : σ) : Yields w (settle r confirmed y) row u
      fun x rs s => rs = [] ∧ Answered r.status r.attention y x s := by
  rcases y with e | ⟨⟩
  · cases e with
    | unreachable reason =>
      exact ⟨_, _, _, _, _, .done w _ row u, hrow, rfl, .unreachable (s := r.stored) rfl rfl⟩
    | rejected code text =>
      refine (park_yields hrow _ u).mono ?_
      rintro x rs s ⟨rfl, hquiet, hstatus, hmark⟩
      refine ⟨hquiet, ?_⟩
      rw [← hstatus]
      exact .rejected rfl hmark
    | malformedValue cause => exact ⟨_, _, _, _, _, .fail w _ row u, hrow, rfl, .malformed⟩
  · have ht := Status.confirmed?_mem_targets hc
    have hrevision : r.Revision (r.moveTo confirmed (w.now u).1) :=
      (Record.Draft.refl r).transition (Record.transition_eq_ok_iff.2 ⟨ht, rfl⟩)
    refine ⟨_, _, _, _, _, (commit_in_place hrow (.refl r) ht w u).bind (.done w _ _ _),
      hrow.updateFrom hrevision, rfl, .confirmed (s := (r.moveTo confirmed (w.now u).1).next.stored) hc⟩

theorem call_yields (hrow : row.Keeps r.stored) (hconfirmed : r.status.confirmed? = some confirmed)
    (c : Agency.Change) (u : σ) : Yields w (agency r.scheme (.change c) >>= settle r confirmed) row u
      fun x rs s => ∃ y, rs = [⟨.agency r.scheme (.change c), y⟩] ∧ Answered r.status r.attention y x s := by
  refine .bind (change_in_place r.scheme c row w u) ((settle_yields hrow hconfirmed _ _).mono ?_)
  rintro x rs s ⟨rfl, hanswered⟩
  exact ⟨_, rfl, hanswered⟩

theorem resume_yields (hrow : row.Keeps r.stored) (hi : r.status ∈ Status.intents)
    (hubr : r.status ≠ .updateBeforeRegistration)
    (hbound : r.status ≠ .toBeDeleted → r.resource.isSome) (u : σ) :
    Yields w (g.resume r) row u (Reached g r.value r.resource r.status r.attention) := by
  obtain ⟨confirmed, hc⟩ := Option.ne_none_iff_exists'.1 (Status.confirmed?_ne_none hi hubr)
  unfold resume requireConnector
  simp only [hc]
  by_cases hg : g.connected r.scheme
  · simp only [hg, if_true, Program.pure_eq, Program.done_bind]
    by_cases hd : r.status = .toBeDeleted
    · rw [if_pos hd]
      refine (call_yields hrow hc (.delete r.value) u).mono ?_
      rintro x rs s ⟨y, rfl, hanswered⟩
      exact .withdrawn hd ⟨rfl, by rw [hd]; rfl⟩ hanswered
    · obtain ⟨resource, hb⟩ := Option.isSome_iff_exists.1 (hbound hd)
      simp only [hd, if_false, hb]
      refine .bind (lookup_in_place resource row w u) ?_
      generalize (w.lookup resource u).1 = y
      rcases y with e | (_ | found)
      · exact ⟨_, _, _, _, _, .done w _ row _, hrow, .unlooked (s := r.stored) hd rfl rfl rfl⟩
      · refine (park_yields hrow _ _).mono ?_
        rintro x rs s ⟨rfl, rfl, hstatus, hmark⟩
        rw [← hstatus] at hd ⊢
        exact .missing hd rfl rfl hmark
      · refine (call_yields hrow hc _ _).mono ?_
        rintro x rs s ⟨y, rfl, hanswered⟩
        exact .sent hd rfl (ofIntent_suits found g.policy hc hd) hanswered
  · simp only [hg]
    exact ⟨_, _, _, _, _, .fail w _ row u, hrow, .unconnected hg⟩

/-- A record that is bound, or is to be deleted, is driven to its agency. -/
theorem drive_yields (hrow : row.Keeps r.stored) (hi : r.status ∈ Status.intents)
    (hbound : r.status ≠ .toBeDeleted → r.resource.isSome) (u : σ) :
    Yields w (g.drive r) row u (Reached g r.value r.resource r.status.driven r.attention) := by
  have hgoes : ¬ (Sends r ∧ r.resource = none) := by
    rintro ⟨hsends, ho⟩
    have hb := hbound hsends.2
    rw [ho] at hb
    cases hb
  unfold drive
  rw [if_neg (mt parks_iff.1 hgoes)]
  by_cases hubr : r.status = .updateBeforeRegistration
  · rw [if_pos hubr]
    have ht : Status.toBeRegistered ∈ r.status.targets := by rw [hubr]; decide
    have hrevision : r.Revision (r.moveTo .toBeRegistered (w.now u).1) :=
      (Record.Draft.refl r).transition (Record.transition_eq_ok_iff.2 ⟨ht, rfl⟩)
    refine .bind (commit_in_place hrow (.refl r) ht w u) ?_
    rw [hubr]
    refine resume_yields (hrow.updateFrom hrevision) ?_ ?_ (fun _ => hbound (by simp [hubr])) _
    · exact show Status.toBeRegistered ∈ Status.intents by decide
    · exact show Status.toBeRegistered ≠ .updateBeforeRegistration by decide
  · rw [if_neg hubr, Status.driven_of_ne hubr]
    exact resume_yields hrow hi hubr hbound u

/-- A record without a resource that is needed is parked, and nobody outside is asked. -/
theorem drive_orphaned (hrow : row.Keeps r.stored) (hsends : Sends r) (ho : r.resource = none) (u : σ) :
    Yields w (g.drive r) row u (GivenUp r.status orphanMessage) := by
  unfold drive
  rw [if_pos (parks_iff.2 ⟨hsends, ho⟩)]
  exact park_yields hrow orphanMessage u

variable {a : Action} {steps : List Status}

/-- A request comes to what driving the record comes to, unmarked and at the last status of the plan. -/
theorem execute_drives {P : Except RegistrarError Outcome → List Exchange → Record → Prop}
    (hrow : row.Keeps r) (hplan : a.plan r.status = .ok (.drive steps)) (u : σ)
    (h : ∀ e mid u₁, mid.Keeps e.stored → r.Stage e → e.attention = none →
      e.status = steps.getLastD r.status → Yields w (g.drive e) mid u₁ P) :
    Yields w (g.execute r.id a) row u P := by
  obtain ⟨e, mid, u₁, es₁, hmid, hstage, hmark, hstatus, hquiet, -, -, -, hexecute⟩ :=
    execute_prepares (fun _ => 0) g (fun _ => rfl) hrow hplan u
  obtain ⟨x, left, s, u', es, hplace, hleft, hP⟩ := h e mid u₁ hmid hstage hmark hstatus
  refine ⟨x, left, s, u', es₁ ++ es, hexecute hplace, hleft, ?_⟩
  rw [remotes_append, hquiet, List.nil_append]
  exact hP

end InPlace

end Registrar

section Plans

variable {a : Action} {s : Status} {steps : List Status}

theorem Action.getLastD_eq_toBeDeleted_iff (h : a.plan s = .ok (.drive steps)) :
    steps.getLastD s = .toBeDeleted ↔ a = .delete := by
  cases a <;> cases s <;> cases h <;> decide

theorem Action.not_mem_intents_of_done (h : a.plan s = .ok .alreadyDone) : s ∉ Status.intents := by
  cases a <;> cases s <;> cases h <;> decide

end Plans

/-- The request has something to tell of the record's resource, and there is none. -/
def Action.Lacks (a : Action) (r : Record) : Prop :=
  r.resource = none ∧ a ≠ .delete ∧ ∃ steps, a.plan r.status = .ok (.drive steps)

/-- What an outcome of a request tells is so: `r` was the record and `s` is what is left of it, and `rs`
has passed with those outside. -/
structure Outcome.Holds (a : Action) (r s : Record) (rs : List Exchange) (o : Outcome) : Prop where
  status : s.status = o.status
  succeeded : (∃ st, o = .succeeded st) ↔
    a.plan r.status = .ok .alreadyDone ∨ changes rs = [.ok ()]
  pending : (∃ st reason, o = .pendingRetry st reason) ↔
    (∃ e, lookups rs = [.error e]) ∨ ∃ reason, changes rs = [.error (.unreachable reason)]
  attention : (∃ st message, o = .needsAttention st message) ↔
    a.Lacks r ∨ lookups rs = [.ok none] ∨ ∃ code text, changes rs = [.error (.rejected code text)]
  rests : ∀ st, o = .succeeded st → s.status ∉ Status.intents
  waits : ∀ st reason, o = .pendingRetry st reason → s.status ∈ Status.intents ∧ s.attention = none
  marked : ∀ st message, o = .needsAttention st message →
    s.status ∈ Status.intents ∧ s.attention = some message
  once : (lookups rs).length ≤ 1 ∧ (changes rs).length ≤ 1
  /-- Nothing else is asked, and of no other resource or value. -/
  outside : ∀ y ∈ rs, (∃ resource, r.resource = some resource ∧ y.1 = .lookup resource) ∨
    ∃ c, c.value = r.value ∧ y.1 = .agency r.scheme (.change c)

namespace Outcome.Holds

variable {a : Action} {r s : Record} {rs : List Exchange} {o : Outcome} {steps : List Status} {i : Status}
  {g : Registrar}

theorem of_done (hplan : a.plan r.status = .ok .alreadyDone) : Holds a r r [] (.succeeded r.status) where
  status := rfl
  succeeded := by simp [hplan]
  pending := by simp [lookups, changes]
  attention := by simp [Action.Lacks, hplan, lookups, changes]
  rests _ _ := Action.not_mem_intents_of_done hplan
  waits := by simp
  marked := by simp
  once := by simp [lookups, changes]
  outside := by simp

/-- The agency has answered, after a lookup that has found the resource or none. -/
theorem of_answered {y : Except AgencyError Unit} (hplan : a.plan r.status = .ok (.drive steps))
    (hlacks : ¬ a.Lacks r) (hlooks : lookups rs = [] ∨ ∃ found, lookups rs = [.ok (some found)])
    (hchanges : changes rs = [y])
    (houtside : ∀ y ∈ rs, (∃ resource, r.resource = some resource ∧ y.1 = .lookup resource) ∨
      ∃ c, c.value = r.value ∧ y.1 = .agency r.scheme (.change c))
    (hi : i ∈ Status.intents) (h : Registrar.Answered i none y (.ok o) s) : o.Holds a r s rs := by
  have honce : (lookups rs).length ≤ 1 ∧ (changes rs).length ≤ 1 := by
    rcases hlooks with hlooks | ⟨found, hlooks⟩ <;> simp [hlooks, hchanges]
  have hno (z : Except DirectoryError (Option Resource)) (hz : ∀ found, z ≠ .ok (some found)) :
      lookups rs ≠ [z] := by
    rcases hlooks with hlooks | ⟨found, hlooks⟩
    · simp [hlooks]
    · simpa [hlooks] using Ne.symm (hz found)
  have hnone : lookups rs ≠ [.ok none] := hno _ (by simp)
  have herror (e : DirectoryError) : lookups rs ≠ [.error e] := hno _ (by simp)
  cases h with
  | confirmed hs =>
    have hrests := Status.not_mem_intents_of_confirmed? hs
    refine ⟨rfl, ?_, ?_, ?_, fun _ _ => hrests, by simp, by simp, honce, houtside⟩
    · simp [hchanges]
    · simp [herror, hchanges]
    · simp [hlacks, hnone, hchanges]
  | unreachable hs hm =>
    subst hs
    refine ⟨rfl, ?_, ?_, ?_, by simp, fun _ _ _ => ⟨hi, hm⟩, by simp, honce, houtside⟩
    · simp [hplan, hchanges]
    · simp [hchanges]
    · simp [hlacks, hnone, hchanges]
  | rejected hs hm =>
    subst hs
    refine ⟨rfl, ?_, ?_, ?_, by simp, by simp, ?_, honce, houtside⟩
    · simp [hplan, hchanges]
    · simp [herror, hchanges]
    · simp [hchanges]
    · rintro _ _ ⟨⟩
      exact ⟨hi, hm⟩

theorem of_reached (hplan : a.plan r.status = .ok (.drive steps)) (hlacks : ¬ a.Lacks r)
    (hi : i ∈ Status.intents) (h : Registrar.Reached g r.value r.resource i none (.ok o) rs s) :
    o.Holds a r s rs := by
  generalize hx : (.ok o : Except RegistrarError Outcome) = x at h
  cases h with
  | unconnected _ => cases hx
  | unlooked _ hb hs hm =>
    cases hx
    subst hs
    constructor <;> simp [lookups, changes, hplan, hlacks, hi, hm, hb, Outcome.status]
  | missing _ hb hs hm =>
    cases hx
    subst hs
    constructor <;> simp [lookups, changes, hplan, hlacks, hi, hm, hb, Outcome.status]
  | @sent resource found c y x s _ hb hc h =>
    subst hx
    refine of_answered hplan hlacks (.inr ⟨found, rfl⟩) rfl ?_ hi h
    intro y hy
    rcases List.mem_cons.1 hy with rfl | hy
    · exact .inl ⟨resource, hb, rfl⟩
    · obtain rfl := List.mem_singleton.1 hy
      exact .inr ⟨c, hc.1, rfl⟩
  | @withdrawn c y x s _ hc h =>
    subst hx
    refine of_answered hplan hlacks (.inl rfl) rfl ?_ hi h
    intro y hy
    obtain rfl := List.mem_singleton.1 hy
    exact .inr ⟨c, hc.1, rfl⟩

theorem of_orphaned (hlacks : a.Lacks r) {message : String} (hs : s.status ∈ Status.intents)
    (hm : s.attention = some message) : Holds a r s [] (.needsAttention s.status message) := by
  obtain ⟨-, -, steps, hplan⟩ := id hlacks
  constructor <;> simp [lookups, changes, hplan, hlacks, hs, hm, Outcome.status]

end Outcome.Holds

namespace Registrar

variable {σ : Type} {g : Registrar} {w : World σ} {t t' : Table} {u u' : σ} {id : RecordId} {a : Action}
  {o : Outcome} {r : Record} {row : Row} {steps : List Status}

/-- A request for a record that lacks nothing comes to what its agency answers. -/
theorem execute_reaches (hrow : row.Keeps r) (hplan : a.plan r.status = .ok (.drive steps))
    (hlacks : ¬ a.Lacks r) (u : σ) :
    Yields w (g.execute r.id a) row u
      (Reached g r.value r.resource (steps.getLastD r.status).driven none) := by
  refine execute_drives hrow hplan u fun e mid u₁ hmid hstage hmark hstatus => ?_
  have hi := Action.getLastD_mem_intents hplan
  rw [← hstatus] at hi
  have hbound (hd : e.status ≠ .toBeDeleted) : e.resource.isSome := by
    rw [hstatus, ne_eq, Action.getLastD_eq_toBeDeleted_iff hplan] at hd
    rw [hstage.resource, Option.isSome_iff_ne_none]
    exact fun ho => hlacks ⟨ho, hd, steps, hplan⟩
  have hyields := drive_yields (w := w) (g := g) hmid hi hbound u₁
  rwa [hstage.value, hstage.resource, hmark, hstatus] at hyields

/-- One for a record that lacks its resource is given up at the last status of the plan. -/
theorem execute_parks (hrow : row.Keeps r) (hplan : a.plan r.status = .ok (.drive steps))
    (ho : r.resource = none) (ha : a ≠ .delete) (u : σ) :
    Yields w (g.execute r.id a) row u (GivenUp (steps.getLastD r.status) orphanMessage) := by
  refine execute_drives hrow hplan u fun e mid u₁ hmid hstage _ hstatus => ?_
  have hsends : Sends e := by
    rw [Sends, hstatus, ne_eq, Action.getLastD_eq_toBeDeleted_iff hplan]
    exact ⟨Action.getLastD_mem_intents hplan, ha⟩
  rw [← hstatus]
  exact drive_orphaned hmid hsends (hstage.resource.trans ho) u₁

theorem get?_of_execute (h : (g.execute id a).run w.answer (t, u) = (.ok o, t', u')) :
    ∃ r, t.get? id = .ok (some r) := by
  rw [execute, Program.run_bind, load, Program.run_bind, World.run_store, Store.answer] at h
  rcases hr : t.get? id with e | (_ | r)
  · simp [hr, Except.mapError] at h
  · simp [hr, Except.mapError, Program.run] at h
  · exact ⟨r, rfl⟩

/-- Whatever a request that comes to an outcome says is so, in any table and whatever is answered outside;
and it leaves the rows of all other records as they are. If there was nothing to do, nothing is done. -/
theorem execute_truthful (hsound : t.Sound)
    (h : (g.execute id a).run w.answer (t, u) = (.ok o, t', u')) :
    ∃ before row left after r s, t = before ++ row :: after ∧ t' = before ++ left :: after ∧
      row.hasId id = true ∧ t.get? id = .ok (some r) ∧ t'.get? id = .ok (some s) ∧
      o.Holds a r s (remotes ((g.execute id a).exchanges w.answer (t, u))) ∧
      (a.plan r.status = .ok .alreadyDone →
        t' = t ∧ remotes ((g.execute id a).exchanges w.answer (t, u)) = []) := by
  obtain ⟨r, hr⟩ := get?_of_execute h
  obtain ⟨rfl, hshows⟩ := hsound.shows hr
  obtain ⟨row, hmem, hrow⟩ := hshows.keeps
  obtain ⟨before, after, rfl⟩ := List.append_of_mem hmem
  cases hplan : a.plan r.status with
  | error e =>
    rw [(execute_refused (g := g) hrow hplan w u).run before after hsound] at h
    cases h
  | ok plan =>
    cases plan with
    | alreadyDone =>
      have hplace := execute_rested (g := g) hrow hplan w u
      rw [hplace.run before after hsound] at h
      cases h
      rw [hplace.exchanges before after hsound]
      exact ⟨before, row, row, after, r, r, rfl, rfl, hrow.id, hr, hr, .of_done hplan, fun _ => ⟨rfl, rfl⟩⟩
    | drive steps =>
      by_cases hlacks : a.Lacks r
      · obtain ⟨ho, ha, -⟩ := id hlacks
        obtain ⟨x, left, s, u'', hrun, hget, rfl, hquiet, hs, hm⟩ :=
          (execute_parks (w := w) (g := g) hrow hplan ho ha u).run hsound hrow.id
        rw [hrun] at h
        cases h
        rw [hquiet, ← hs]
        refine ⟨before, row, left, after, r, s, rfl, rfl, hrow.id, hr, hget,
          .of_orphaned hlacks ?_ hm, fun hdone => by simp [hplan] at hdone⟩
        rw [hs]
        exact Action.getLastD_mem_intents hplan
      · obtain ⟨x, left, s, u'', hrun, hget, hreached⟩ :=
          (execute_reaches (w := w) (g := g) hrow hplan hlacks u).run hsound hrow.id
        rw [hrun] at h
        cases h
        have hi := Status.driven_mem_intents (Action.getLastD_mem_intents hplan)
        exact ⟨before, row, left, after, r, s, rfl, rfl, hrow.id, hr, hget,
          .of_reached hplan hlacks hi hreached, fun hdone => by simp [hplan] at hdone⟩

/-- A registration that the agency refuses: the record waits for an operator, and its row says why. -/
theorem refusal_truthful : ∃ t' u' s,
    (execute ⟨fun _ => true, .standard⟩ ⟨10⟩ .register).run
      (World.rehearsal fun n => (.error (.rejected 422 "no title"), n + 1)).answer
      ([Row.ofRecord .sampleBound], 0) =
        (.ok (.needsAttention .toBeRegistered "rejected (422): no title"), t', u') ∧
    t'.get? ⟨10⟩ = .ok (some s) ∧ s.status = .toBeRegistered ∧
    s.attention = some "rejected (422): no title" := by
  have hresult : ((execute ⟨fun _ => true, .standard⟩ ⟨10⟩ .register).run
      (World.rehearsal fun n => (.error (.rejected 422 "no title"), n + 1)).answer
      ([Row.ofRecord .sampleBound], 0)).1 =
        .ok (.needsAttention .toBeRegistered "rejected (422): no title") := by
    decide +kernel
  have hrun := Prod.ext hresult rfl
  obtain ⟨_, _, _, _, _, s, _, _, _, _, hget, hholds, -⟩ :=
    execute_truthful (List.pairwise_singleton _ _) hrun
  exact ⟨_, _, s, hrun, hget, hholds.status, (hholds.marked _ _ rfl).2⟩

end Registrar

end IdentifierRegistrar
