import IdentifierRegistrar.Proofs.Operation.Alone

/-! What carrying out a request on a record and releasing a record make of its row, by an operation
that has the store to itself. For a release this is said of every state on the way as well. -/

namespace IdentifierRegistrar

namespace Record

@[simp] theorem clearResource_id (r : Record) (t : Instant) : (r.clearResource t).id = r.id := by
  unfold clearResource; split <;> rfl

@[simp] theorem clearResource_value (r : Record) (t : Instant) :
    (r.clearResource t).value = r.value := by
  unfold clearResource; split <;> rfl

@[simp] theorem clearResource_status (r : Record) (t : Instant) :
    (r.clearResource t).status = r.status := by
  unfold clearResource; split <;> rfl

@[simp] theorem clearResource_attention (r : Record) (t : Instant) :
    (r.clearResource t).attention = r.attention := by
  unfold clearResource; split <;> rfl

@[simp] theorem clearResource_resource (r : Record) (t : Instant) :
    (r.clearResource t).resource = none := by
  unfold clearResource
  split
  · rfl
  · rename_i h
    exact Option.not_isSome_iff_eq_none.1 h

/-- What the row of `r` is while `r` is released, and where the release stops. -/
inductive Releasing (r : Record) : Record → Prop
  | untouched : Releasing r r.stored
  /-- A record that was only minted is held first, and unbound by that already. -/
  | held {s : Record} (hr : r.status = .minted) (hs : s.status = .pending) (hb : s.resource = none)
    (ha : s.attention = r.attention) : Releasing r s
  | intended {s : Record} (hs : s.status = .toBeDeleted) (hb : s.resource = none)
    (ha : s.attention = r.attention) : Releasing r s
  | rejected {s : Record} {status : Nat} {text : String} (hs : s.status = .toBeDeleted)
    (hb : s.resource = none) (ha : s.attention = some (AgencyError.rejected status text).message) :
    Releasing r s
  | gone {s : Record} (hs : s.status = .deleted) (hb : s.resource = none)
    (ha : s.attention = r.attention) : Releasing r s
  /-- A record that cannot be deleted yet is unbound and waits. -/
  | refused {s : Record} {message : String} (hr : r.status = .updateBeforeRegistration)
    (hs : s.status = r.status) (ha : s.attention = some message) : Releasing r s

end Record

inductive Action.DeletePlans (s : Status) : Except IllegalTransition Plan → Prop
  | done (hs : s = .deleted) : DeletePlans s (.ok .alreadyDone)
  | stands (hs : s = .toBeDeleted) : DeletePlans s (.ok (.drive []))
  | held (hs : s = .minted) : DeletePlans s (.ok (.drive [.pending, .toBeDeleted]))
  | direct (ht : .toBeDeleted ∈ s.targets) : DeletePlans s (.ok (.drive [.toBeDeleted]))
  | refused {e : IllegalTransition} (hs : s = .updateBeforeRegistration) : DeletePlans s (.error e)

theorem Action.deletePlans (s : Status) : DeletePlans s (delete.plan s) := by
  cases s
  case minted => exact .held rfl
  case updateBeforeRegistration => exact .refused rfl
  case toBeDeleted => exact .stands rfl
  case deleted => exact .done rfl
  all_goals exact .direct (by decide)

/-- How a record is left by what was done with it: `kept` is the marker that it then has, unless it
was marked. -/
inductive Record.Left (r : Record) (kept : Option String) :
    Except RegistrarError Outcome → Record → Prop
  | succeeded {status : Status} {s : Record} (ha : s.attention = kept) :
    Left r kept (.ok (.succeeded status)) s
  | waits {status : Status} {reason : String} {s : Record} (hs : s.status ∈ Status.intents)
    (ha : s.attention = kept) : Left r kept (.ok (.pendingRetry status reason)) s
  | marked {status : Status} {message : String} {s : Record} (hs : s.status ∈ Status.intents)
    (ha : s.attention = some message) : Left r kept (.ok (.needsAttention status message)) s
  | failed {e : RegistrarError} {s : Record}
    (hs : r.status ∈ Status.intents → s.status ∈ Status.intents) (ha : s.attention = kept) : Left r kept (.error e) s

theorem Record.Left.of_intent {d r s : Record} {kept : Option String}
    {x : Except RegistrarError Outcome} (h : d.Left kept x s)
    (hi : r.status ∈ Status.intents → d.status ∈ Status.intents) : r.Left kept x s := by
  cases h with
  | succeeded ha => exact .succeeded ha
  | waits hs ha => exact .waits hs ha
  | marked hs ha => exact .marked hs ha
  | failed hs ha => exact .failed (fun h => hs (hi h)) ha

open Service Operation

namespace Registrar

section Left

variable {w : Trouble} {g : Registrar} {r s : Record}

theorem Resumed.left {x : Except RegistrarError Outcome} (h : Resumed w g r x s) :
    r.Left r.attention x s := by
  cases h with
  | rested _ => exact .succeeded (s := r.stored) rfl
  | confirmed _ ha _ => exact .succeeded ha
  | waits hi _ => exact .waits (s := r.stored) hi rfl
  | parked hi hs ha _ _ => exact .marked (hs ▸ hi) ha
  | failed _ _ => exact .failed (s := r.stored) id rfl

theorem Driven.left {x : Except RegistrarError Outcome} (h : Driven w g r x s) :
    r.Left r.attention x s := by
  cases h with
  | resumed h => exact h.left
  | @registers d hr hd ha h =>
    rw [← ha]
    exact h.left.of_intent fun _ => by rw [hd]; decide

end Left

inductive Released (w : Trouble) (g : Registrar) (r : Record) :
    Except RegistrarError (RecordId × Outcome) → Record → Prop
  | gone {s : Record} (hs : s.status = .deleted) (hb : s.resource = none)
    (ha : s.attention = r.attention) : Released w g r (.ok (r.id, .succeeded .deleted)) s
  | waits {s : Record} {reason : String} (hs : s.status = .toBeDeleted) (hb : s.resource = none)
    (ha : s.attention = r.attention) (hw : w.agency) :
    Released w g r (.ok (r.id, .pendingRetry .toBeDeleted reason)) s
  | rejected {s : Record} {status : Nat} {text : String} (hs : s.status = .toBeDeleted)
    (hb : s.resource = none) (ha : s.attention = some (AgencyError.rejected status text).message)
    (hw : w.agency) : Released w g r
      (.ok (r.id, .needsAttention .toBeDeleted (AgencyError.rejected status text).message)) s
  | refused {s : Record} {message : String} (hr : r.status = .updateBeforeRegistration)
    (hs : s.status = r.status) (ha : s.attention = some message) :
    Released w g r (.ok (r.id, .needsAttention r.status message)) s
  | stopped {e : RegistrarError} {s : Record} (h : r.Releasing s) (ha : s.attention = r.attention)
    (hs : s.status = .deleted → r.status = .deleted)
    (hw : g.connected r.scheme → w.store ∨ w.agency) : Released w g r (.error e) s

variable {w : Trouble} {g : Registrar} {I : Ledger → Prop} {l : Ledger} {r : Record}

theorem Released.releasing {x : Except RegistrarError (RecordId × Outcome)} {s : Record}
    (h : Released w g r x s) : r.Releasing s := by
  cases h with
  | gone hs hb ha => exact .gone hs hb ha
  | waits hs hb ha _ => exact .intended hs hb ha
  | rejected hs hb ha _ => exact .rejected hs hb ha
  | refused hr hs ha => exact .refused hr hs ha
  | stopped h _ _ _ => exact h

theorem Released.left {x : Except RegistrarError (RecordId × Outcome)} {s : Record}
    (h : Released w g r x s) : r.Left r.attention (x.map (·.2)) s := by
  have hdeleted {s : Record} (hs : s.status = .toBeDeleted) : s.status ∈ Status.intents := by
    rw [hs]
    decide
  cases h with
  | gone _ _ ha => exact .succeeded ha
  | waits hs _ ha _ => exact .waits (hdeleted hs) ha
  | rejected hs _ ha _ => exact .marked (hdeleted hs) ha
  | refused hr hs ha => exact .marked (by rw [hs, hr]; decide) ha
  | stopped h ha hs _ =>
    refine .failed (fun hi => ?_) ha
    cases h with
    | untouched => exact hi
    | held hr => exact absurd hi (by rw [hr]; decide)
    | intended hs _ _ => exact hdeleted hs
    | rejected hs _ _ => exact hdeleted hs
    | gone hd _ _ => exact absurd hi (by rw [hs hd]; decide)
    | refused hr hs _ => rw [hs, hr]; decide

theorem Released.id_eq {id : RecordId} {o : Outcome} {s : Record}
    (h : Released w g r (.ok (id, o)) s) : id = r.id := by
  cases h <;> rfl

def Swept (w : Trouble) (g : Registrar) (r : Record)
    (x : Except RegistrarError (RecordId × Outcome)) (s : Record) : Prop :=
  (∀ id o, x = .ok (id, o) → id = r.id) ∧ Driven w g r (x.map (·.2)) s

theorem sweepRecord_alone (g : Registrar) (hI : I l) (hr : l.Has r)
    (hubr : r.status = .updateBeforeRegistration → ∀ m, l.SameBut r.id m → I m) :
    (do return (r.id, ← g.drive r) : Operation (RecordId × Outcome)).Meets (alone w I)
      (Makes l r (Swept w g r)) l := by
  refine (g.drive_alone hI hr hubr).bind (fun o m h => ?_) fun e m h => ?_
  · obtain ⟨hsame, s, hs, h⟩ := h
    refine ⟨hsame, s, hs, fun id o' hx => ?_, h⟩
    exact (congrArg Prod.fst (Except.ok.inj hx)).symm
  · obtain ⟨hsame, s, hs, h⟩ := h
    exact ⟨hsame, s, hs, by simp, h⟩

/-- The last part of a release: the deletion is intended, and driven. -/
theorem Resumed.released {d s : Record} {x : Except RegistrarError Outcome} (hid : d.id = r.id)
    (hscheme : d.scheme = r.scheme) (hd : d.status = .toBeDeleted) (hb : d.resource = none)
    (ha : d.attention = r.attention) (h : Resumed w g d x s) :
    Released w g r (x.map fun o => (d.id, o)) s := by
  cases h with
  | rested h => simp [hd, Status.confirmed?] at h
  | confirmed hs ha' hb' =>
    have hs : s.status = .deleted := by simpa [hd, Status.confirmed?] using hs.symm
    simp only [Except.map, hid, hs]
    exact .gone hs (hb'.trans hb) (ha'.trans ha)
  | waits _ hw =>
    simp only [Except.map, hid, hd]
    exact .waits (s := d.stored) hd hb ha (hw hd)
  | parked _ hs ha' hb' hw =>
    obtain ⟨hrefused, status, text, rfl⟩ := hw hd
    simp only [Except.map, hid, hd]
    exact .rejected (hs.trans hd) (hb'.trans hb) ha' hrefused
  | failed _ hw =>
    refine .stopped (.intended (s := d.stored) hd hb ha) ha ?_ fun hg => hw hd (hscheme ▸ hg)
    simp [hd]

structure Unbound (l : Ledger) (r d : Record) (m : Ledger) : Prop where
  same : l.SameBut r.id m
  id : d.id = r.id
  scheme : d.scheme = r.scheme
  resource : d.resource = none
  attention : d.attention = r.attention

theorem drive_released {d : Record} {m : Ledger} (hI : I m) (hm : m.Has d) (h : Unbound l r d m)
    (hd : d.status = .toBeDeleted) :
    (g.drive d >>= fun o => pure (d.id, o)).Meets (alone w I) (Makes l r (Released w g r)) m := by
  have hdrive := g.drive_alone (w := w) hI hm fun hu => absurd (hd.symm.trans hu) (by decide)
  have hmade {x : Except RegistrarError Outcome} {n : Ledger} (hx : Makes m d (Driven w g d) x n) :
      Makes l r (Released w g r) (x.map fun o => (d.id, o)) n := by
    obtain ⟨hsame, s, hs, hx⟩ := hx
    rw [h.id] at hsame hs
    refine ⟨h.same.trans hsame, s, hs, ?_⟩
    cases hx with
    | resumed hx => exact hx.released h.id h.scheme hd h.resource h.attention
    | registers hu => exact absurd (hd.symm.trans hu) (by decide)
  exact hdrive.bind (fun _ _ h => hmade h) fun _ _ h => hmade h

theorem commit_released {c d : Record} {m : Ledger}
    (hI : ∀ m s, l.SameBut r.id m → m.find r.id = some s → r.Releasing s → I m) (hIm : I m)
    (hm : m.Has c) (hdraft : c.Draft d) (h : Unbound l r d m)
    (ht : .toBeDeleted ∈ d.status.targets)
    (hstop : ∀ e, w.store → Makes l r (Released w g r) (.error e) m) :
    (commit d .toBeDeleted >>= fun d => g.drive d >>= fun o => pure (d.id, o)).Meets (alone w I)
      (Makes l r (Released w g r)) m := by
  refine (commit_alone hIm hm hdraft).bind (fun d' n hd => ?_) fun e n hd => ?_
  · cases hd with
    | @moved t _ _ hn hsame =>
      have h' : Unbound l r (d.moveTo .toBeDeleted t).next n :=
        ⟨h.same.trans (h.id ▸ hsame), h.id, h.scheme, h.resource, h.attention⟩
      have hrow : n.find r.id = some (d.moveTo .toBeDeleted t).next.stored :=
        hn.find_eq h'.id
      exact drive_released (hI n _ h'.same hrow (.intended rfl h.resource h.attention)) hn h' rfl
  · cases hd with
    | stopped hw => exact hstop e (hw ht)

theorem held_released {d : Record}
    (hI : ∀ m s, l.SameBut r.id m → m.find r.id = some s → r.Releasing s → I m) (hr : l.Has r)
    (hdraft : r.Draft d) (h : Unbound l r d l) (hs : r.status = .minted)
    (hstop : ∀ e, w.store → Makes l r (Released w g r) (.error e) l) :
    (commit d .pending >>= fun d => commit d .toBeDeleted >>= fun d =>
      g.drive d >>= fun o => pure (d.id, o)).Meets (alone w I) (Makes l r (Released w g r)) l := by
  refine (commit_alone (hI l _ h.same hr .untouched) hr hdraft).bind (fun d' m hd => ?_)
    fun e m hd => ?_
  · cases hd with
    | @moved t _ _ hm hsame =>
      have h' : Unbound l r (d.moveTo .pending t).next m :=
        ⟨h.id ▸ hsame, h.id, h.scheme, h.resource, h.attention⟩
      have hrow : m.find r.id = some (d.moveTo .pending t).next.stored := hm.find_eq h'.id
      have hheld : r.Releasing (d.moveTo .pending t).next.stored :=
        .held hs rfl h.resource h.attention
      refine commit_released hI (hI m _ h'.same hrow hheld) hm (.refl _) h'
        (show Status.toBeDeleted ∈ Status.pending.targets by decide) fun e hw => ?_
      exact ⟨h'.same, _, hrow, .stopped hheld h.attention (fun hd => by cases hd) fun _ => .inl hw⟩
  · cases hd with
    | stopped hw => exact hstop e (hw (by rw [hdraft.status, hs]; decide))

/-- `I` is to hold of whatever a release makes of the row. -/
theorem releaseRecord_alone (g : Registrar)
    (hI : ∀ m s, l.SameBut r.id m → m.find r.id = some s → r.Releasing s → I m) (hr : l.Has r) :
    (g.releaseRecord r).Meets (alone w I) (Makes l r (Released w g r)) l := by
  have hstart : I l := hI l _ (.refl l r.id) hr .untouched
  refine meets_now hstart fun t => ?_
  have hdraft := (Record.Draft.refl r).clearResource t
  have hcopy {m : Ledger} (hsame : l.SameBut r.id m) : Unbound l r (r.clearResource t) m :=
    ⟨hsame, by simp, by simp [Record.scheme], by simp, by simp⟩
  have hstop (e : RegistrarError) (hw : w.store) : Makes l r (Released w g r) (.error e) l :=
    ⟨.refl l r.id, _, hr, .stopped .untouched rfl id fun _ => .inl hw⟩
  have hplan := Action.deletePlans (r.clearResource t).status
  generalize hp : Action.delete.plan (r.clearResource t).status = plan at hplan
  simp only [hp]
  cases hplan with
  | done hs =>
    refine (write_alone hstart hr hdraft.revision).bind (fun d m hd => ?_) fun e m hd => ?_
    · cases hd with
      | wrote hm hsame =>
        have h := hcopy (r.clearResource_id t ▸ hsame)
        refine ⟨h.same, _, hm.find_eq h.id, ?_⟩
        rw [Record.next_id, h.id, Record.next_status, hs]
        exact .gone hs h.resource h.attention
    · cases hd with
      | failed hw => exact hstop e hw
  | stands hs =>
    refine (write_alone hstart hr hdraft.revision).bind (fun d m hd => ?_) fun e m hd => ?_
    · cases hd with
      | wrote hm hsame =>
        have h := hcopy (r.clearResource_id t ▸ hsame)
        refine drive_released (hI m _ h.same (hm.find_eq h.id) ?_) hm
          ⟨h.same, h.id, h.scheme, h.resource, h.attention⟩ hs
        exact .intended hs h.resource h.attention
    · cases hd with
      | failed hw => exact hstop e hw
  | direct ht =>
    simp only [through, Program.bind_assoc, Program.pure_eq, Program.done_bind]
    exact commit_released hI hstart hr hdraft (hcopy (.refl l r.id)) ht hstop
  | held hs =>
    simp only [through, Program.bind_assoc, Program.pure_eq, Program.done_bind]
    exact held_released hI hr hdraft (hcopy (.refl l r.id)) (by simpa using hs) hstop
  | refused hs =>
    refine (park_alone hstart hr hdraft).bind (fun o m hd => ?_) fun e m hd => ?_
    · cases hd with
      | @parked t' _ hm hsame =>
        have h := hcopy (r.clearResource_id t ▸ hsame)
        refine ⟨h.same, _, hm.find_eq h.id, ?_⟩
        rw [h.id, Record.clearResource_status]
        exact .refused (by simpa using hs) (by simp [Record.flag]) rfl
    · cases hd with
      | failed hw => exact hstop e hw

inductive Stepped (l : Ledger) (c : Record) (steps : List Status) :
    Except RegistrarError Record → Ledger → Prop
  | stopped {e : RegistrarError} {s : Record} {m : Ledger} (hsame : l.SameBut c.id m)
    (hrow : m.find c.id = some s) (ha : s.attention = none ∨ s.attention = c.attention)
    (hs : s.status = c.status ∨ s.status ∈ steps) : Stepped l c steps (.error e) m
  | done {d : Record} {m : Ledger} (hsame : l.SameBut c.id m) (hm : m.Has d) (hid : d.id = c.id)
    (ha : d.attention = none) (hs : d.status = c.status ∨ d.status ∈ steps) :
    Stepped l c steps (.ok d) m

theorem Stepped.after {c e : Record} {t : Status} {steps : List Status}
    {x : Except RegistrarError Record} {m : Ledger} (h : Stepped l e steps x m) (hid : e.id = c.id)
    (ha : e.attention = none) (hs : e.status = t) : Stepped l c (t :: steps) x m := by
  have hstep {s : Record} (h : s.status = e.status ∨ s.status ∈ steps) :
      s.status = c.status ∨ s.status ∈ t :: steps :=
    .inr (List.mem_cons.2 (h.imp_left fun h => h.trans hs))
  cases h with
  | stopped hsame hrow ha' hs' =>
    rw [ha, or_self] at ha'
    exact .stopped (hid ▸ hsame) (hid ▸ hrow) (.inl ha') (hstep hs')
  | done hsame hm hid' ha' hs' => exact .done (hid ▸ hsame) hm (hid'.trans hid) ha' (hstep hs')

theorem through_alone {c d : Record} {m : Ledger} {steps : List Status}
    (hI : ∀ n, l.SameBut c.id n → I n) (hsame : l.SameBut c.id m) (hm : m.Has c) (hd : c.Draft d)
    (ha : d.attention = none) (hnone : steps = [] → d = c) :
    (through commit d steps).Meets (alone w I) (Stepped l c steps) m := by
  induction steps generalizing c d m with
  | nil =>
    obtain rfl := hnone rfl
    exact .done hsame hm rfl ha (.inl rfl)
  | cons t steps ih =>
    refine (commit_alone (hI m hsame) hm hd).bind (fun e n he => ?_) fun e n he => ?_
    · cases he with
      | @moved t' _ _ hn hsame' =>
        have hid : (d.moveTo t t').next.id = c.id := hd.revision.id
        have hsame : l.SameBut c.id n := hsame.trans (hd.revision.id ▸ hsame')
        exact (ih (c := (d.moveTo t t').next) (hid ▸ hI) (hid ▸ hsame) hn (.refl _) ha
          fun _ => rfl).mono fun _ _ h => h.after hid ha rfl
    · cases he with
      | stopped _ => exact .stopped hsame hm (.inr rfl) (.inl rfl)

inductive Unmarked (l : Ledger) (r : Record) (steps : List Status) :
    Except RegistrarError Record → Ledger → Prop
  | stopped {e : RegistrarError} : Unmarked l r steps (.error e) l
  | done {c d : Record} {m : Ledger} (hsame : l.SameBut r.id m) (hm : m.Has c) (hid : c.id = r.id)
    (hs : c.status = r.status) (hc : c.attention = none ∨ c.attention = r.attention)
    (hd : c.Draft d) (ha : d.attention = none) (hnone : steps = [] → d = c) :
    Unmarked l r steps (.ok d) m

theorem unmark_alone (steps : List Status) (hI : I l) (hr : l.Has r) :
    (unmark r steps).Meets (alone w I) (Unmarked l r steps) l := by
  unfold unmark
  split
  · rename_i ha
    exact .done (.refl l r.id) hr rfl rfl (.inr rfl) (.refl r) (Option.isNone_iff_eq_none.1 ha)
      fun _ => rfl
  · refine meets_now hI fun t => ?_
    have hd := (Record.Draft.refl r).clearAttention t
    have hnone := r.clearAttention_attention t
    split
    · refine (write_alone hI hr hd.revision).mono fun x m h => ?_
      cases h with
      | failed _ => exact .stopped
      | wrote hm hsame =>
        exact .done (c := (r.clearAttention t).next) (hd.revision.id ▸ hsame) hm hd.revision.id
          hd.status (.inl hnone) (.refl _) hnone fun _ => rfl
    · rename_i hsteps
      exact .done (.refl l r.id) hr rfl rfl (.inr rfl) hd hnone fun h => absurd (by simp [h]) hsteps

/-- What a request for a record comes to. A record that was marked at an intent is unmarked or marked
anew, unless the request fails. -/
inductive Executed (l : Ledger) (id : RecordId) : Except RegistrarError Outcome → Ledger → Prop
  | absent {e : RegistrarError} (h : l.find id = none) : Executed l id (.error e) l
  | left {r s : Record} {x : Except RegistrarError Outcome} {m : Ledger} {kept : Option String}
    (hr : l.find id = some r) (hs : m.find id = some s) (hsame : l.SameBut id m)
    (h : r.Left kept x s) (hkept : kept = none ∨
      kept = r.attention ∧ (r.status ∈ Status.intents → ∃ e, x = .error e)) : Executed l id x m

/-- A plan leads from an intent to intents only. -/
theorem plan_intents {a : Action} {s : Status} {steps : List Status}
    (h : a.plan s = .ok (.drive steps)) (hs : s ∈ Status.intents) :
    ∀ t ∈ steps, t ∈ Status.intents := by
  cases a <;> cases s <;> cases h <;> first | decide | exact absurd hs (by decide)

theorem plan_alreadyDone {a : Action} {s : Status} (h : a.plan s = .ok .alreadyDone) :
    s ∉ Status.intents := by
  cases a <;> cases s <;> first | decide | cases h

/-- The last part of a request: the record is unmarked, taken along the plan and driven. -/
theorem unmarked_executed {steps : List Status} {d : Record} {m : Ledger}
    (hI : ∀ m, l.SameBut r.id m → I m) (hfind : l.find r.id = some r)
    (hplan : r.status ∈ Status.intents → ∀ t ∈ steps, t ∈ Status.intents)
    (hd : Unmarked l r steps (.ok d) m) :
    (through commit d steps >>= g.drive).Meets (alone w I) (Executed l r.id) m := by
  cases hd with
  | @done c _ _ hsame hm hid hs hc hd ha hnone =>
    have hintent {s : Status} (h : s = c.status ∨ s ∈ steps) (hi : r.status ∈ Status.intents) :
        s ∈ Status.intents := h.elim (fun h => by rwa [h, hs]) (hplan hi s)
    refine (through_alone (w := w) (l := l) (hid ▸ hI) (hid ▸ hsame) hm hd ha hnone).bind
      (fun d n h => ?_) fun e n h => ?_
    · cases h with
      | done hsame hn hid' ha hs' =>
        rw [hid] at hsame hid'
        refine (g.drive_alone (hI n hsame) hn fun _ m h =>
          hI m (hsame.trans (hid' ▸ h))).mono fun x m h => ?_
        obtain ⟨hsame', s, hrow, hdriven⟩ := h
        rw [hid'] at hsame' hrow
        have hleft := hdriven.left.of_intent (hintent hs')
        exact .left hfind hrow (hsame.trans hsame') hleft (.inl ha)
    · cases h with
      | stopped hsame hrow ha hs' =>
        rw [hid] at hsame hrow
        refine .left hfind hrow hsame (.failed (hintent hs') rfl) ?_
        rcases ha with ha | ha
        · exact .inl ha
        · exact hc.imp ha.trans fun hc => ⟨ha.trans hc, fun _ => ⟨e, rfl⟩⟩

theorem execute_alone (id : RecordId) (action : Action) (hI : ∀ m, l.SameBut id m → I m) :
    (g.execute id action).Meets (alone w I) (Executed l id) l := by
  have hstart := hI l (.refl l id)
  have hfailed (e : RegistrarError) : Executed l id (.error e) l := by
    cases hfind : l.find id with
    | none => exact .absent hfind
    | some r =>
      exact .left hfind hfind (.refl l id) (.failed (fun h => h) rfl)
        (.inr ⟨rfl, fun _ => ⟨e, rfl⟩⟩)
  unfold execute load
  rw [Program.bind_assoc]
  refine meets_read rfl hstart ?_ fun e _ => hfailed _
  cases hfind : l.find id with
  | none => exact hfailed _
  | some r =>
    obtain rfl := Ledger.id_of_find hfind
    simp only [Program.pure_eq, Program.done_bind]
    cases hplan : action.plan r.status with
    | error e => exact hfailed _
    | ok plan =>
      cases plan with
      | alreadyDone =>
        exact .left hfind hfind (.refl l r.id) (.succeeded rfl)
          (.inr ⟨rfl, fun hi => absurd hi (plan_alreadyDone hplan)⟩)
      | drive steps =>
        refine (unmark_alone steps hstart (l.has_of_find hfind)).bind (fun d m hd => ?_)
          fun e m hd => ?_
        · exact unmarked_executed hI hfind (plan_intents hplan) hd
        · cases hd with
          | stopped => exact hfailed e

end Registrar

end IdentifierRegistrar
