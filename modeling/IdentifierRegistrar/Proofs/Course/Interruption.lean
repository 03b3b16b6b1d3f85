import IdentifierRegistrar.Proofs.Course.Attention

/-! A release that stops on its way, because the store fails it or because it is killed, is made up
for by the same release run again and a sweep after it: the release comes to what is still bound,
the sweep to what was unbound with the deletion intended. What they do not come to is what was marked
on the way, and a minted record that was held and not yet intended for deletion, for the write that
holds it unbinds it already. -/

namespace IdentifierRegistrar

open Service Operation

/-- Unbound and without an intent: neither a release nor a sweep comes to the record. -/
def Record.Stranded (s : Record) : Prop := s.resource = none ∧ s.status = .pending

def Registrar.redo (g : Registrar) (resource : ResourceId) : Operation Report := do
  let _ ← (Errand.release resource).operation g
  Errand.sweep.operation g

section Stop

variable {w : Trouble} {g : Registrar} {l : Ledger} {resource : ResourceId} {r : Record}

/-- At every point of a release the row of a record that was bound to the resource is one that the
release makes of it. -/
theorem release_stands (hr : r ∈ l.boundTo resource) {p : Operation Report} {t : Table}
    (h : Program.Reaches (Replies w) ((Errand.release resource).operation g) l.table p t) :
    ∃ m : Ledger, t = m.table ∧ ∃ s, m.find r.id = some s ∧ r.Releasing s := by
  let I (m : Ledger) : Prop := ∃ s, m.find r.id = some s ∧ r.Releasing s
  have hmem := (l.mem_boundTo.1 hr).1
  have hstart : I l := ⟨r, Ledger.find_of_mem hmem, l.whole r hmem ▸ .untouched⟩
  have hmeets : ((Errand.release resource).operation g).Meets (alone w I) (fun _ => I) l := by
    refine Errand.meets_operation ((g.trackRelease_alone resource hstart ?_).mono fun x m h => ?_)
    · intro r' hr' m n s hm hsame hs hrel
      by_cases hid : r'.id = r.id
      · obtain rfl := Ledger.eq_of_id_eq (l.mem_boundTo.1 hr').1 hmem hid
        exact ⟨s, hs, hrel⟩
      · obtain ⟨s, hs, hrel⟩ := hm
        exact ⟨s, (hsame r.id (Ne.symm hid)).trans hs, hrel⟩
    · obtain ⟨hI, y, hy, -⟩ := h
      exact ⟨y, hy, hI⟩
  obtain ⟨m, rfl, hm⟩ := reaches_ledger (I := I) h
  have hI : I m := (hmeets.reaches hm).now fun _ _ h => h
  exact ⟨m, rfl, hI⟩

end Stop

section Redo

variable {g : Registrar} {l m : Ledger} {resource : ResourceId} {rs : List Record} {s : Record}
  {due : Record → Prop}

/-- An operation goes through rows to the end, those that are due are then deleted, and every other
row is as it was. -/
structure Clears (l : Ledger) (rs : List Record) (due : Record → Prop)
    (x : Except RegistrarError Report) (m : Ledger) : Prop where
  ends : ∃ report, x = .ok report
  deleted : ∀ r ∈ rs, due r → ∃ s, m.find r.id = some s ∧ s.status = .deleted
  others : ∀ s ∈ l.records, s ∉ rs → m.find s.id = some s

theorem Registrar.Listed.clears {w : Trouble} {goesOn : Bool}
    {P : Record → Except RegistrarError (RecordId × Outcome) → Record → Prop}
    {report : Log → Except RegistrarError Report} {y : Log × Except RegistrarError Report}
    (h : Listed w P goesOn l rs report y m) (hw : ¬ w.store) (hrs : ∀ r ∈ rs, r ∈ l.records)
    (hgoes : goesOn = true ∨ ∀ r ∈ rs, ∀ x s, P r x s → x.isOk)
    (hreport : ∀ log, (goesOn = true ∨ ∀ e ∈ log, e.2.isOk) → ∃ r, report log = .ok r)
    (hdue : ∀ r ∈ rs, ∀ x s, P r x s → due r → s.status = .deleted) : Clears l rs due y.2 m := by
  cases h with
  | unread h => exact absurd h hw
  | @went log _ h =>
    have hok : goesOn = true ∨ ∀ e ∈ log, e.2.isOk := hgoes.imp_right fun hP e he => by
      obtain ⟨r, hr, x, s, rfl, -, hx⟩ := h.entries e he
      have := hP r hr x s hx
      cases x <;> first | rfl | cases this
    have hids := h.all hok
    refine ⟨hreport log hok, fun r hr hd => ?_, fun s hs hn => ?_⟩
    · have hmem : r.id ∈ log.map (·.1) := hids ▸ List.mem_map_of_mem hr
      obtain ⟨e, he, hid⟩ := List.mem_map.1 hmem
      obtain ⟨r', hr', x, s, rfl, hs, hx⟩ := h.entries e he
      obtain rfl := Ledger.eq_of_id_eq (hrs r' hr') (hrs r hr) hid
      exact ⟨s, hs, hdue _ hr' x s hx hd⟩
    · rw [h.others s.id, Ledger.find_of_mem hs]
      rw [hids]
      intro hmem
      obtain ⟨r, hr, hid⟩ := List.mem_map.1 hmem
      exact hn (Ledger.eq_of_id_eq (hrs r hr) hs hid ▸ hr)

theorem Log.exists_outcomes {log : Log} (h : ∀ e ∈ log, e.2.isOk) : ∃ os, log.outcomes = .ok os := by
  induction log with
  | nil => exact ⟨[], rfl⟩
  | cons e log ih =>
    obtain ⟨os, hos⟩ := ih fun e he => h e (by simp [he])
    have he := h e (by simp)
    obtain ⟨id, x | o⟩ := e
    · cases he
    · exact ⟨(id, o) :: os, by rw [outcomes, List.mapM_cons, ← outcomes, hos]; rfl⟩

/-- Where nothing goes wrong a release deletes what was bound. -/
theorem release_clears (hg : ∀ scheme, g.connected scheme) (l : Ledger) (resource : ResourceId) :
    ((Errand.release resource).operation g).Meets (alone ⟨False, False⟩ fun _ => True)
      (Clears l (l.boundTo resource) (·.status ≠ .updateBeforeRegistration)) l := by
  refine Errand.meets_operation ((g.trackRelease_alone resource trivial
    fun _ _ _ _ _ _ _ _ _ => trivial).mono fun x m h => ?_)
  obtain ⟨-, y, hy, h⟩ := h
  refine ⟨y, hy, h.clears id (fun r hr => (l.mem_boundTo.1 hr).1) (.inr fun r _ x s h => ?_)
    (fun log hok => ?_) fun r _ x s h hd => ?_⟩
  · cases h with
    | stopped _ _ _ hw => exact (hw (hg _)).elim False.elim False.elim
    | _ => rfl
  · obtain ⟨os, hos⟩ := Log.exists_outcomes (hok.resolve_left (by simp))
    exact ⟨.outcomes os, by rw [hos]; rfl⟩
  · cases h with
    | gone hs _ _ => exact hs
    | waits _ _ _ hw => exact hw.elim
    | rejected _ _ _ hw => exact hw.elim
    | refused hr _ _ => exact absurd hr hd
    | stopped _ _ _ hw => exact (hw (hg _)).elim False.elim False.elim

/-- Where nothing goes wrong a sweep deletes what is intended for deletion. -/
theorem sweep_clears (hg : ∀ scheme, g.connected scheme) (l : Ledger) :
    (Errand.sweep.operation g).Meets (alone ⟨False, False⟩ fun _ => True)
      (Clears l (l.retryable Status.intents) (·.status = .toBeDeleted)) l := by
  refine Errand.meets_operation ((g.trackSweep_alone fun _ => trivial).mono fun x m h => ?_)
  obtain ⟨-, y, hy, h⟩ := h
  refine ⟨y, hy, h.clears id (fun r hr => (l.mem_retryable.1 hr).1) (.inl rfl)
    (fun log _ => ⟨_, rfl⟩) fun r _ x s h hd => ?_⟩
  obtain ⟨-, h⟩ := h
  cases h with
  | registers hu _ _ _ => exact absurd (hd.symm.trans hu) (by decide)
  | resumed h =>
    generalize x.map (·.2) = o at h
    cases h with
    | rested h => simp [hd, Status.confirmed?] at h
    | confirmed hs _ _ => simpa [hd, Status.confirmed?] using hs.symm
    | waits _ hw => exact (hw hd).elim
    | parked _ _ _ _ hw => exact (hw hd).1.elim
    | failed _ hw => exact (hw hd (hg _)).elim False.elim False.elim

structure Redone (l : Ledger) (resource : ResourceId) (x : Except RegistrarError Report)
    (n : Ledger) : Prop where
  ends : ∃ report, x = .ok report
  bound : ∀ s ∈ l.records, s.resource = some resource → s.status ≠ .updateBeforeRegistration →
    ∃ s', n.find s.id = some s' ∧ s'.status = .deleted
  intended : ∀ s ∈ l.records, s.resource = none → s.status = .toBeDeleted → s.attention = none →
    ∃ s', n.find s.id = some s' ∧ s'.status = .deleted
  settled : ∀ s ∈ l.records, s.resource = none →
    (s.status ∉ Status.intents ∨ s.attention ≠ none) → n.find s.id = some s

theorem redo_alone (hg : ∀ scheme, g.connected scheme) (l : Ledger) (resource : ResourceId) :
    (g.redo resource).Meets (alone ⟨False, False⟩ fun _ => True) (Redone l resource) l := by
  refine (release_clears hg l resource).bind (fun report m hm => ?_) fun e m hm => ?_
  · refine (sweep_clears hg m).mono fun x n hn => ?_
    have hunbound {s : Record} (hs : s ∈ l.records) (hb : s.resource = none) : m.find s.id = some s :=
      hm.others s hs fun h => absurd (hb.symm.trans (l.mem_boundTo.1 h).2) (by simp)
    refine ⟨hn.ends, fun s hs hb hu => ?_, fun s hs hb hd ha => ?_, fun s hs hb hi => ?_⟩
    · obtain ⟨s', hs', hd⟩ := hm.deleted s (l.mem_boundTo.2 ⟨hs, hb⟩) hu
      have hkept := hn.others s' (Ledger.mem_of_find hs') fun h =>
        absurd (m.mem_retryable.1 h).2.1 (by rw [hd]; decide)
      exact ⟨s', Ledger.id_of_find hs' ▸ hkept, hd⟩
    · have hmem := Ledger.mem_of_find (hunbound hs hb)
      exact hn.deleted s (m.mem_retryable.2 ⟨hmem, by rw [hd]; decide, ha⟩) hd
    · refine hn.others s (Ledger.mem_of_find (hunbound hs hb)) fun h => ?_
      obtain ⟨-, hintent, ha⟩ := m.mem_retryable.1 h
      exact hi.elim (· hintent) (· ha)
  · obtain ⟨report, h⟩ := hm.ends
    cases h

end Redo

section Record

variable {r s : Record}

/-- A released record that is unbound has its deletion intended, unless it was only minted. -/
theorem Record.Releasing.unbound {resource : ResourceId} (h : r.Releasing s)
    (hbound : r.resource = some resource) (hubr : r.status ≠ .updateBeforeRegistration)
    (hs : s.resource = none) :
    s.status = .toBeDeleted ∨ s.status = .deleted ∨ r.status = .minted ∧ s.Stranded := by
  cases h with
  | untouched => exact absurd (hbound.symm.trans hs) (by simp)
  | held hr hs hb _ => exact .inr (.inr ⟨hr, hb, hs⟩)
  | intended hs _ _ => exact .inl hs
  | rejected hs _ _ => exact .inl hs
  | gone hs _ _ => exact .inr (.inl hs)
  | refused hr _ _ => exact absurd hr hubr

/-- A released record is marked only by a rejection of its deletion. -/
theorem Record.Releasing.marked (h : r.Releasing s) (hmark : r.attention = none)
    (hubr : r.status ≠ .updateBeforeRegistration) :
    s.attention = none ∨ s.status = .toBeDeleted ∧ ∃ status text,
      s.attention = some (AgencyError.rejected status text).message := by
  cases h with
  | untouched => exact .inl hmark
  | held _ _ _ ha => exact .inl (ha.trans hmark)
  | intended _ _ ha => exact .inl (ha.trans hmark)
  | rejected hs _ ha => exact .inr ⟨hs, _, _, ha⟩
  | gone _ _ ha => exact .inl (ha.trans hmark)
  | refused hr _ _ => exact absurd hr hubr

theorem Redone.deleted_iff {m n : Ledger} {resource : ResourceId} {x : Except RegistrarError Report}
    (hn : Redone m resource x n) (hs : s ∈ m.records) (h : r.Releasing s)
    (hbound : r.resource = some resource) (hmark : r.attention = none)
    (hubr : r.status ≠ .updateBeforeRegistration) :
    ∃ s', n.find s.id = some s' ∧ (s'.status = .deleted ↔ ¬ s.Stranded ∧ s.attention = none) := by
  have hdeleted (hok : ¬ s.Stranded ∧ s.attention = none)
      (h : ∃ s', n.find s.id = some s' ∧ s'.status = .deleted) :
      ∃ s', n.find s.id = some s' ∧ (s'.status = .deleted ↔ ¬ s.Stranded ∧ s.attention = none) :=
    h.imp fun _ h => ⟨h.1, fun _ => hok, fun _ => h.2⟩
  cases h with
  | untouched =>
    refine hdeleted ⟨fun h => ?_, hmark⟩ (hn.bound _ hs hbound hubr)
    exact absurd (hbound.symm.trans h.1) (by simp)
  | held _ hp hb ha =>
    -- Not bound, so not released again; not at an intent, so not swept.
    refine ⟨s, hn.settled s hs hb (.inl (by rw [hp]; decide)), ?_⟩
    simp [hp, Record.Stranded, hb]
  | intended hd hb ha =>
    refine hdeleted ⟨fun h => ?_, ha.trans hmark⟩ (hn.intended s hs hb hd (ha.trans hmark))
    exact absurd (hd.symm.trans h.2) (by decide)
  | rejected hd hb ha =>
    refine ⟨s, hn.settled s hs hb (.inr (by simp [ha])), ?_⟩
    simp [hd, ha]
  | gone hd hb ha =>
    have hrow := hn.settled s hs hb (.inl (by rw [hd]; decide))
    refine hdeleted ⟨fun h => ?_, ha.trans hmark⟩ ⟨s, hrow, hd⟩
    exact absurd (hd.symm.trans h.2) (by decide)
  | refused hr _ _ => exact absurd hr hubr

end Record

/-- Wherever a release stops, a record that was bound to the resource, unmarked and not at an update
before its registration is deleted by the release run again and a sweep, if the agencies agree,
unless the stop has stranded it or its agency has rejected the deletion before. Only a record that
was minted is stranded; every other that is unbound has its deletion intended. -/
theorem release_interrupted {f g : Registrar} (hg : ∀ scheme, g.connected scheme) {l : Ledger}
    {resource : ResourceId} {p : Operation Report} {t : Table}
    (hstop : Program.Reaches (Replies ⟨True, True⟩) ((Errand.release resource).operation f) l.table
      p t)
    {r : Record} (hr : r ∈ l.records) (hbound : r.resource = some resource)
    (hmark : r.attention = none) (hubr : r.status ≠ .updateBeforeRegistration) :
    ∃ s, t.get? r.id = .ok (some s) ∧
      (s.resource = none → s.status = .toBeDeleted ∨ s.status = .deleted ∨
        r.status = .minted ∧ s.Stranded) ∧
      (s.attention = none ∨ s.status = .toBeDeleted ∧ ∃ status text,
        s.attention = some (AgencyError.rejected status text).message) ∧
      ∀ x t', Program.Reaches (Replies ⟨False, False⟩) (g.redo resource) t (.ofExcept x) t' →
        (∃ report, x = .ok report) ∧ ∃ s', t'.get? r.id = .ok (some s') ∧
          (s'.status = .deleted ↔ ¬ s.Stranded ∧ s.attention = none) := by
  obtain ⟨m, rfl, s, hs, hrel⟩ := release_stands (l.mem_boundTo.2 ⟨hr, hbound⟩) hstop
  refine ⟨s, by rw [Ledger.get?_table, hs], hrel.unbound hbound hubr, hrel.marked hmark hubr, ?_⟩
  intro x t' h
  obtain ⟨n, rfl, hn⟩ := reaches_ledger (I := fun _ => True) h
  have hredone : Redone m resource x n := by
    have hend := (redo_alone hg m resource).reaches hn
    cases x <;> exact hend
  obtain ⟨s', hs', hiff⟩ := hredone.deleted_iff (Ledger.mem_of_find hs) hrel hbound hmark hubr
  rw [Ledger.id_of_find hs] at hs'
  exact ⟨hredone.ends, s', by rw [Ledger.get?_table, hs'], hiff⟩

section Rehearsal

def agreeing (calls : Nat) : Except AgencyError Unit × Nat := (.ok (), calls)

def faltering : Answerer interface (Table × Nat)
  | .store call, (t, calls + 1) => ((Store.answer t call).1, ((Store.answer t call).2, calls))
  | .store _, (t, 0) => (.error .poisoned, (t, 0))
  | q, s => (rehearsal agreeing).answer q s

theorem faltering_replies (q : Request) (s : Table × Nat) :
    Replies ⟨True, True⟩ s.1 q (faltering q s).1 (faltering q s).2.1 := by
  cases q with
  | store call =>
    obtain ⟨t, calls⟩ := s
    cases calls with
    | zero => exact .inr ⟨trivial, ⟨_, rfl⟩, rfl⟩
    | succ calls => exact .inl ⟨rfl, fun _ => trivial⟩
  | agency scheme call => exact .inl ⟨rehearsal_answers agreeing _ s, fun _ => trivial⟩
  | _ => exact .inl ⟨rfl, fun _ => trivial⟩

theorem agreeing_replies (q : Request) (s : Table × Nat) :
    Replies ⟨False, False⟩ s.1 q ((rehearsal agreeing).answer q s).1
      ((rehearsal agreeing).answer q s).2.1 := by
  refine .inl ⟨rehearsal_answers agreeing q s, fun h => ?_⟩
  cases q with
  | agency scheme call =>
    cases call with
    | change c => exact h rfl
    | _ => exact h
  | _ => exact h

def specimen (status : Status) : Record :=
  ⟨⟨0⟩, rehearsed, some ⟨0⟩, .item, status, none, 0, .epoch, .epoch⟩

def lone (status : Status) : Ledger where
  records := [specimen status]
  whole := List.forall_mem_singleton.2 rfl
  ids := List.nodup_singleton _
  values := List.nodup_singleton _
  live := List.pairwise_singleton _ _

def stopped (status : Status) : Except RegistrarError Report × Table × Nat :=
  ((Errand.release ⟨0⟩).operation ⟨fun _ => true, .standard⟩).run faltering
    ((lone status).table, 2)

theorem stopped_reaches (status : Status) : Program.Reaches (Replies ⟨True, True⟩)
    ((Errand.release ⟨0⟩).operation ⟨fun _ => true, .standard⟩) (lone status).table
    (.ofExcept (stopped status).1) (stopped status).2.1 :=
  Program.reaches_run faltering_replies _ ((lone status).table, 2)

/-- A registered record is deleted later, unless its agency has rejected the deletion. -/
theorem registered_deleted_later : ∃ s, (stopped .isRegistered).2.1.get? ⟨0⟩ = .ok (some s) ∧
    ∀ x t', Program.Reaches (Replies ⟨False, False⟩)
      (Registrar.redo ⟨fun _ => true, .standard⟩ ⟨0⟩) (stopped .isRegistered).2.1 (.ofExcept x) t' →
        ∃ s', t'.get? ⟨0⟩ = .ok (some s') ∧ (s'.status = .deleted ↔ s.attention = none) := by
  obtain ⟨s, hs, hunbound, -, hredo⟩ := release_interrupted (g := ⟨fun _ => true, .standard⟩)
    (fun _ => rfl) (stopped_reaches .isRegistered) (r := specimen .isRegistered) (by simp [lone])
    rfl rfl (by decide)
  have hnot : ¬ s.Stranded := fun h => by
    rcases hunbound h.1 with hd | hd | ⟨hr, -⟩
    · exact absurd (hd.symm.trans h.2) (by decide)
    · exact absurd (hd.symm.trans h.2) (by decide)
    · cases hr
  refine ⟨s, hs, fun x t' h => ?_⟩
  obtain ⟨-, s', hs', hiff⟩ := hredo x t' h
  exact ⟨s', hs', hiff.trans (and_iff_right hnot)⟩

/-- A minted record is stranded by such a stop, and stays pending. -/
theorem minted_stranded : ∃ p t x t',
    Program.Reaches (Replies ⟨True, True⟩)
      ((Errand.release ⟨0⟩).operation ⟨fun _ => true, .standard⟩)
      (lone .minted).table p t ∧
    Program.Reaches (Replies ⟨False, False⟩) (Registrar.redo ⟨fun _ => true, .standard⟩ ⟨0⟩) t
      (.ofExcept x) t' ∧
    ((t'.get? ⟨0⟩).toOption.bind id).map (fun s => (s.status, s.resource)) =
      some (.pending, none) := by
  refine ⟨_, _, _, _, stopped_reaches .minted,
    Program.reaches_run agreeing_replies _ ((stopped .minted).2.1, 0), ?_⟩
  decide +kernel

end Rehearsal

end IdentifierRegistrar
