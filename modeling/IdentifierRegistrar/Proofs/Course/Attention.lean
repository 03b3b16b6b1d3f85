import IdentifierRegistrar.Proofs.Course.Turns

/-! What waits for an operator is seen, and what does not is swept. Operations run one after the
other from the empty store; the last outcome for a marked record tells the marker, what is pending
is found by the next sweep, and what succeeded is unmarked. A release carries the marker of a record
along, so all this holds exactly as long as no release reports anything but the need of attention
for a record that was marked when it began. -/

namespace IdentifierRegistrar

open Service Operation

namespace Log

variable {log more : Log} {id : RecordId} {x : Except RegistrarError Outcome}

theorem last_append : (log ++ more).last id = (more.last id).or (log.last id) := by
  simp only [last, List.filterMap_append, List.getLast?_append]

theorem last_cons_of_ne {y : RecordId × Except RegistrarError Outcome} (h : y.1 ≠ id) :
    last (y :: log) id = log.last id := by
  simp [last, h]

theorem last_of_not_mem (h : id ∉ log.map (·.1)) : log.last id = none := by
  induction log with
  | nil => rfl
  | cons y log ih =>
    rw [List.map_cons, List.mem_cons, not_or] at h
    rw [last_cons_of_ne (Ne.symm h.1), ih h.2]

theorem last_of_mem (hids : (log.map (·.1)).Nodup) (h : (id, x) ∈ log) :
    log.last id = x.toOption := by
  induction log with
  | nil => cases h
  | cons y log ih =>
    rw [List.map_cons, List.nodup_cons] at hids
    rcases List.mem_cons.1 h with rfl | h
    · have hrest := last_of_not_mem hids.1
      change last ([(id, x)] ++ log) id = _
      rw [last_append, hrest, Option.none_or]
      cases x <;> simp [last, Except.toOption]
    · have hne : y.1 ≠ id := fun hy => hids.1 (hy ▸ List.mem_map_of_mem h)
      rw [last_cons_of_ne hne, ih hids.2 h]

end Log

structure Turn where
  before : Table
  errand : Errand
  log : Log
  result : Except RegistrarError Report
  after : Table

/-- The operation of the turn ends so, with some replies of the store, the directory and the
agencies. -/
def Turn.Happens (g : Registrar) (τ : Turn) : Prop :=
  Program.Reaches (Replies ⟨True, True⟩) (τ.errand.tracked g) τ.before
    (.done (τ.log, τ.result)) τ.after

/-- A release reports nothing but the need of attention for what was marked when it began. -/
def Turn.Heeds (τ : Turn) : Prop :=
  ∀ resource, τ.errand = .release resource → ∀ id o, (id, .ok o) ∈ τ.log → ∀ r,
    τ.before.get? id = .ok (some r) → r.attention.isSome → ∃ status message,
      o = .needsAttention status message

section Course

variable (turns : List Turn)

def tableAfter : Table := (turns.getLast?.map (·.after)).getD []

def logOf : Log := turns.flatMap (·.log)

inductive Course (g : Registrar) : List Turn → Prop
  | nil : Course g []
  | snoc {turns : List Turn} {τ : Turn} (h : Course g turns) (hbefore : τ.before = tableAfter turns)
    (hτ : τ.Happens g) : Course g (turns ++ [τ])

structure Seen (turns : List Turn) : Prop where
  marked : ∀ id r message, (tableAfter turns).get? id = .ok (some r) →
    r.attention = some message → r.status ∈ Status.intents ∧
      ∃ status, (logOf turns).last id = some (.needsAttention status message)
  pending : ∀ id status reason, (logOf turns).last id = some (.pendingRetry status reason) →
    ∃ rs, (tableAfter turns).listRetryable Status.intents = .ok rs ∧ ∃ r ∈ rs, r.id = id
  succeeded : ∀ id status, (logOf turns).last id = some (.succeeded status) →
    ∃ r, (tableAfter turns).get? id = .ok (some r) ∧ r.attention = none

/-- Nothing waits unseen, at any time. -/
structure Visible (turns : List Turn) : Prop where
  seen : ∀ pre, pre <+: turns → Seen pre
  /-- What an operation reports of a record is then the last outcome for it. -/
  reported : ∀ pre τ, pre ++ [τ] <+: turns → ∀ id o, (id, .ok o) ∈ τ.log →
    (logOf (pre ++ [τ])).last id = some o
  /-- A sweep comes to all that is pending, unless the store fails it. -/
  swept : ∀ pre τ, pre ++ [τ] <+: turns → τ.errand = .sweep → ∀ report, τ.result = .ok report →
    ∀ id status reason, (logOf pre).last id = some (.pendingRetry status reason) →
      id ∈ τ.log.map (·.1)

end Course

def Kept (o : Option Outcome) : Option Record → Prop
  | none => o = none
  | some r => (∀ message, r.attention = some message →
      r.status ∈ Status.intents ∧ ∃ status, o = some (.needsAttention status message)) ∧
        ∀ status reason, o = some (.pendingRetry status reason) → r.status ∈ Status.intents

namespace Kept

variable {o : Option Outcome} {row row' : Option Record}

theorem calm (h : Kept o row) (hc : Calm row row') : Kept o row' := by
  cases hc with
  | same => exact h
  | minted ha =>
    have ho : o = none := h
    subst ho
    exact ⟨by simp [ha], by simp⟩
  | held hr ha =>
    refine ⟨fun message hm => ?_, fun status reason ho => ?_⟩
    · exact absurd (h.1 message (ha ▸ hm)).1 hr
    · exact absurd (h.2 status reason ho) hr

/-- Whoever reports neither a failure nor the need of attention has found the record unmarked or has
unmarked it, if a release heeds the marker. -/
theorem unmarked {e : Errand} {r : Record} {x : Outcome} {kept : Option String}
    (h : Kept o (some r)) (hkept : e.Keeps r (.ok x) kept)
    (hheeds : ∀ resource, e = .release resource → r.attention.isSome →
      ∃ status message, x = .needsAttention status message)
    (hx : ∀ status message, x ≠ .needsAttention status message) : kept = none := by
  have hnone (hk : kept = none ∨ kept = r.attention ∧
      (r.status ∈ Status.intents → ∃ e, (.ok x : Except RegistrarError Outcome) = .error e)) :
      kept = none := by
    rcases hk with hk | ⟨hk, hi⟩
    · exact hk
    · cases ha : r.attention with
      | none => exact hk.trans ha
      | some message =>
        obtain ⟨e, he⟩ := hi (h.1 message ha).1
        cases he
  cases e with
  | release resource =>
    refine Eq.trans hkept ?_
    by_contra hne
    obtain ⟨status, message, h⟩ := hheeds resource rfl (Option.isSome_iff_ne_none.2 hne)
    exact hx status message h
  | _ => exact hnone hkept

theorem entry {e : Errand} {x : Except RegistrarError Outcome} (h : Kept o row)
    (he : Entry e row x row') (hheeds : ∀ resource, e = .release resource → ∀ o, x = .ok o →
      ∀ r, row = some r → r.attention.isSome →
        ∃ status message, o = .needsAttention status message) : Kept (x.toOption.or o) row' := by
  cases he with
  | absent => exact h
  | @left r s x kept hleft hkept =>
    cases hleft with
    | succeeded ha =>
      have hnone := h.unmarked hkept (fun resource he => hheeds resource he _ rfl r rfl) (by simp)
      have hs := ha.trans hnone
      exact ⟨by simp [hs], by simp [Except.toOption]⟩
    | waits hi ha =>
      have hnone := h.unmarked hkept (fun resource he => hheeds resource he _ rfl r rfl) (by simp)
      have hs := ha.trans hnone
      exact ⟨by simp [hs], fun _ _ _ => hi⟩
    | @marked status message _ hi ha =>
      refine ⟨fun m hm => ⟨hi, status, ?_⟩, by simp [Except.toOption]⟩
      obtain rfl := Option.some.inj (ha.symm.trans hm)
      rfl
    | failed hi ha =>
      refine ⟨fun message hm => ?_, fun status reason ho => hi (h.2 status reason ho)⟩
      have hr : r.attention = some message := by
        have hk : kept = some message := ha.symm.trans hm
        rcases hkept.cases with h | h
        · exact absurd (hk.symm.trans h) (by simp)
        · exact h.symm.trans hk
      exact ⟨hi (h.1 message hr).1, (h.1 message hr).2⟩

end Kept

section Course

variable {g : Registrar} {turns pre : List Turn} {τ : Turn}

@[simp] theorem tableAfter_concat : tableAfter (turns ++ [τ]) = τ.after := by
  simp [tableAfter]

@[simp] theorem logOf_concat : logOf (turns ++ [τ]) = logOf turns ++ τ.log := by
  simp [logOf]

theorem Course.earlier (h : Course g turns) (hpre : pre <+: turns) : Course g pre := by
  induction h with
  | nil => exact List.prefix_nil.1 hpre ▸ .nil
  | snoc h hbefore hτ ih =>
    rcases List.prefix_concat_iff.1 hpre with rfl | hpre
    · exact .snoc h hbefore hτ
    · exact ih hpre

theorem Course.last (h : Course g (pre ++ [τ])) : τ.before = tableAfter pre ∧ τ.Happens g := by
  generalize hturns : pre ++ [τ] = turns at h
  cases h with
  | nil => simp at hturns
  | snoc _ hbefore hτ =>
    obtain ⟨rfl, hlast⟩ := List.append_inj' hturns rfl
    obtain rfl := (List.cons.inj hlast).1
    exact ⟨hbefore, hτ⟩

theorem Turn.Happens.ends {l : Ledger} (h : τ.Happens g) (hbefore : τ.before = l.table) :
    ∃ m : Ledger, τ.after = m.table ∧ τ.errand.Ends l (τ.log, τ.result) m := by
  rw [Turn.Happens, hbefore] at h
  obtain ⟨m, hm, hreaches⟩ := reaches_ledger (I := fun _ => True) h
  obtain ⟨y, hy, hends⟩ := (τ.errand.tracked_alone g l).reaches hreaches
  obtain rfl := Except.ok.inj hy
  exact ⟨m, hm, hends⟩

theorem Course.exists_ledger (h : Course g turns) : ∃ l : Ledger, tableAfter turns = l.table := by
  induction h with
  | nil => exact ⟨.empty, rfl⟩
  | snoc _ hbefore hτ ih =>
    obtain ⟨l, hl⟩ := ih
    obtain ⟨m, hm, -⟩ := hτ.ends (hbefore.trans hl)
    exact ⟨m, by rw [tableAfter_concat, hm]⟩

/-- What one more turn adds to the course. -/
theorem Course.turn (h : Course g (pre ++ [τ])) : ∃ l m : Ledger, tableAfter pre = l.table ∧
    τ.before = l.table ∧ tableAfter (pre ++ [τ]) = m.table ∧
      τ.errand.Ends l (τ.log, τ.result) m := by
  obtain ⟨hbefore, hτ⟩ := h.last
  obtain ⟨l, hl⟩ := (h.earlier (List.prefix_append _ _)).exists_ledger
  obtain ⟨m, hm, hends⟩ := hτ.ends (hbefore.trans hl)
  exact ⟨l, m, hl, hbefore.trans hl, tableAfter_concat.trans hm, hends⟩

theorem Course.kept (h : Course g turns) (hheeds : ∀ τ ∈ turns, τ.Heeds) {l : Ledger}
    (hl : tableAfter turns = l.table) (id : RecordId) :
    Kept ((logOf turns).last id) (l.find id) := by
  induction h generalizing l with
  | nil =>
    obtain rfl : l = .empty := Ledger.table_injective hl.symm
    rfl
  | @snoc turns τ h hbefore hτ ih =>
    obtain ⟨l₀, m, hl₀, hbefore', hm, heffect, -⟩ := (Course.snoc h hbefore hτ).turn
    obtain rfl : l = m := Ledger.table_injective (hl.symm.trans hm)
    have hkept := ih (fun τ hτ => hheeds τ (by simp [hτ])) hl₀
    rw [logOf_concat, Log.last_append]
    by_cases hid : id ∈ τ.log.map (·.1)
    · obtain ⟨y, hy, rfl⟩ := List.mem_map.1 hid
      rw [Log.last_of_mem heffect.ids hy]
      refine hkept.entry (heffect.entries y hy) fun resource he o ho r hr hmarked => ?_
      refine hheeds τ (by simp) resource he y.1 o (ho ▸ hy) r ?_ hmarked
      rw [hbefore', Ledger.get?_table, hr]
    · rw [Log.last_of_not_mem hid, Option.none_or]
      exact hkept.calm (heffect.others id hid)

theorem seen_of_kept {l : Ledger} (hl : tableAfter turns = l.table)
    (h : ∀ id, Kept ((logOf turns).last id) (l.find id)) : Seen turns := by
  have hrow {id : RecordId} {o : Outcome} (ho : (logOf turns).last id = some o) :
      ∃ r, l.find id = some r := by
    cases hf : l.find id with
    | none =>
      have hnone := h id
      rw [hf, ho] at hnone
      cases hnone
    | some r => exact ⟨r, rfl⟩
  have hunmarked {id : RecordId} {o : Outcome} {r : Record} (hr : l.find id = some r)
      (ho : (logOf turns).last id = some o)
      (hne : ∀ status message, o ≠ .needsAttention status message) : r.attention = none := by
    have hkept := h id
    rw [hr, ho] at hkept
    cases ha : r.attention with
    | none => rfl
    | some message =>
      obtain ⟨status, h⟩ := (hkept.1 message ha).2
      exact absurd (Option.some.inj h) (hne status message)
  refine ⟨fun id r message hr ha => ?_, fun id status reason ho => ?_, fun id status ho => ?_⟩
  · rw [hl, Ledger.get?_table] at hr
    have hkept := h id
    rw [Except.ok.inj hr] at hkept
    exact hkept.1 message ha
  · obtain ⟨r, hr⟩ := hrow ho
    have hkept := h id
    rw [hr] at hkept
    refine ⟨l.retryable Status.intents, by rw [hl, Ledger.listRetryable_table], r, ?_,
      Ledger.id_of_find hr⟩
    exact l.mem_retryable.2
      ⟨Ledger.mem_of_find hr, hkept.2 status reason ho, hunmarked hr ho (by simp)⟩
  · obtain ⟨r, hr⟩ := hrow ho
    exact ⟨r, by rw [hl, Ledger.get?_table, hr], hunmarked hr ho (by simp)⟩

theorem Course.reported (h : Course g (pre ++ [τ])) {id : RecordId} {o : Outcome}
    (ho : (id, .ok o) ∈ τ.log) : (logOf (pre ++ [τ])).last id = some o := by
  obtain ⟨l, m, -, -, -, heffect, -⟩ := h.turn
  rw [logOf_concat, Log.last_append, Log.last_of_mem heffect.ids ho]
  rfl

/-- What a release says of a record that it does not mark, the record's marker does not. -/
theorem Course.heeds (h : Course g (pre ++ [τ])) (hseen : Seen (pre ++ [τ])) : τ.Heeds := by
  intro resource he id o ho r hr hmarked
  obtain ⟨l, m, -, hbefore, hafter, heffect, -⟩ := h.turn
  rw [hbefore, Ledger.get?_table] at hr
  have hentry := heffect.entries _ ho
  simp only [Except.ok.inj hr] at hentry
  have hlast := h.reported ho
  generalize hs : m.find id = row at hentry
  obtain ⟨message, hmessage⟩ := Option.isSome_iff_exists.1 hmarked
  -- The marker is carried along, so it tells of an outcome before this one.
  have hcontra {s : Record} {kept : Option String} (hkept : τ.errand.Keeps r (.ok o) kept)
      (hrow : row = some s) (ha : s.attention = kept) : ∃ status message,
        o = .needsAttention status message := by
    rw [he] at hkept
    have hget : (tableAfter (pre ++ [τ])).get? id = .ok (some s) := by
      rw [hafter, Ledger.get?_table, hs, hrow]
    obtain ⟨-, status, h⟩ := hseen.marked id s message hget (ha.trans (hkept.trans hmessage))
    exact ⟨status, message, Option.some.inj (hlast.symm.trans h)⟩
  cases hentry with
  | left hleft hkept =>
    cases hleft with
    | succeeded ha => exact hcontra hkept rfl ha
    | waits _ ha => exact hcontra hkept rfl ha
    | marked _ _ => exact ⟨_, _, rfl⟩

/-- Nothing waits unseen along a course exactly if no release of it reports anything but the need of
attention for a record that was marked when it began. -/
theorem visible_iff (h : Course g turns) : Visible turns ↔ ∀ τ ∈ turns, τ.Heeds := by
  constructor
  · intro hvisible τ hτ
    obtain ⟨pre, post, rfl⟩ := List.append_of_mem hτ
    have hpre : pre ++ [τ] <+: pre ++ τ :: post := ⟨post, by simp⟩
    exact (h.earlier hpre).heeds (hvisible.seen _ hpre)
  · intro hheeds
    have hseen : ∀ pre, pre <+: turns → Seen pre := fun pre hpre => by
      obtain ⟨l, hl⟩ := (h.earlier hpre).exists_ledger
      exact seen_of_kept hl ((h.earlier hpre).kept (fun τ hτ => hheeds τ (hpre.subset hτ)) hl)
    refine ⟨hseen, fun pre τ hpre id o => (h.earlier hpre).reported, ?_⟩
    intro pre τ hpre he report hreport id status reason ho
    obtain ⟨l, m, hl, -, -, -, hswept⟩ := (h.earlier hpre).turn
    rw [hswept he report hreport]
    obtain ⟨rs, hrs, r, hr, rfl⟩ :=
      (hseen pre ((List.prefix_append _ _).trans hpre)).pending id status reason ho
    rw [hl, Ledger.listRetryable_table] at hrs
    exact List.mem_map_of_mem (Except.ok.inj hrs ▸ hr)

end Course

section Rehearsal

variable {σ : Type}

def rehearsed : IdentifierValue := ⟨.dark, "dark:/a/b", by decide⟩

/-- A world that knows every resource and mints one value, and in which `change` answers what is
asked of the agencies. -/
def rehearsal (change : σ → Except AgencyError Unit × σ) : Surroundings σ where
  lookup resource s := (.ok (some ⟨resource, .item, none, []⟩), s)
  agency _ call s := match call with
    | .mint _ => (.ok rehearsed, s)
    | .change _ => ((change s.2).1, (s.1, (change s.2).2))
    | .isReserved _ | .isRegistered _ => (.ok false, s)
  freshId s := (⟨0⟩, s)
  now s := (.epoch, s)

theorem rehearsal_answers (change : σ → Except AgencyError Unit × σ) (q : Request) (s : Table × σ) :
    Answers s.1 q ((rehearsal change).answer q s).1 ((rehearsal change).answer q s).2.1 := by
  cases q with
  | agency scheme call => cases call <;> rfl
  | _ => rfl

def scripted (script : List (Except AgencyError Unit)) :
    Except AgencyError Unit × List (Except AgencyError Unit) := (script.headD (.ok ()), script.tail)

def rehearse (g : Registrar) (turns : List Turn) (script : List (Except AgencyError Unit)) :
    List Errand → List Turn
  | [] => turns
  | e :: errands =>
    match (e.tracked g).run (rehearsal scripted).answer (tableAfter turns, script) with
    | (.ok (log, result), (table, script)) =>
      rehearse g (turns ++ [⟨tableAfter turns, e, log, result, table⟩]) script errands
    | (.error _, _) => turns

variable {g : Registrar} {turns : List Turn}

/-- After every course each errand can be the next, and comes to an end. -/
theorem Course.rehearse (h : Course g turns) (script : List (Except AgencyError Unit))
    (errands : List Errand) : Course g (rehearse g turns script errands) ∧
      (rehearse g turns script errands).map (·.errand) = turns.map (·.errand) ++ errands := by
  induction errands generalizing turns script with
  | nil => exact ⟨h, (List.append_nil _).symm⟩
  | cons e errands ih =>
    obtain ⟨l, hl⟩ := h.exists_ledger
    have hreaches : Program.Reaches (Replies ⟨True, True⟩) (e.tracked g) (tableAfter turns) _ _ :=
      Program.reaches_run (fun q s => .inl ⟨rehearsal_answers scripted q s, fun _ => trivial⟩)
        (e.tracked g) (tableAfter turns, script)
    rw [IdentifierRegistrar.rehearse]
    generalize (e.tracked g).run (rehearsal scripted).answer (tableAfter turns, script) = ending
      at hreaches ⊢
    obtain ⟨x | y, table, script'⟩ := ending
    · rw [hl] at hreaches
      obtain ⟨m, -, hm⟩ := reaches_ledger (I := fun _ => True) hreaches
      obtain ⟨y, hy, -⟩ := (e.tracked_alone g l).reaches hm
      cases hy
    · obtain ⟨hcourse, herrands⟩ := ih
        (h.snoc (τ := ⟨tableAfter turns, e, y.1, y.2, table⟩) rfl hreaches) script'
      exact ⟨hcourse, by simpa using herrands⟩

/-- Nothing waits unseen after a refused registration. -/
theorem visible_of_refused_registration : ∃ turns,
    Course ⟨fun _ => true, .standard⟩ turns ∧
      turns.map (·.errand) = [.mint ⟨0⟩ .dark, .execute ⟨0⟩ .register] ∧ Visible turns := by
  obtain ⟨hcourse, herrands⟩ := (Course.nil (g := ⟨fun _ => true, .standard⟩)).rehearse
    [.error (.rejected 422 "no title")] [.mint ⟨0⟩ .dark, .execute ⟨0⟩ .register]
  refine ⟨_, hcourse, herrands, (visible_iff hcourse).2 fun τ hτ resource he => ?_⟩
  have hmem := List.mem_map_of_mem (f := (·.errand)) hτ
  rw [herrands] at hmem
  simp [he] at hmem

def refusedThenReleased : List Turn :=
  rehearse ⟨fun _ => true, .standard⟩ []
    [.error (.rejected 422 "no title"), .error (.unreachable "down")]
    [.mint ⟨0⟩ .dark, .execute ⟨0⟩ .register, .release ⟨0⟩]

/-- The deletion is reported to be retried, and no sweep will retry it. -/
theorem not_visible_of_release :
    Course ⟨fun _ => true, .standard⟩ refusedThenReleased ∧ ¬ Visible refusedThenReleased := by
  refine ⟨(Course.nil.rehearse _ _).1, fun h => ?_⟩
  have hreported : (logOf refusedThenReleased).last ⟨0⟩ =
      some (.pendingRetry .toBeDeleted "down") := by
    decide +kernel
  have hretryable : ((tableAfter refusedThenReleased).listRetryable Status.intents).toOption =
      some [] := by
    decide +kernel
  obtain ⟨rs, hrs, r, hr, -⟩ := (h.seen _ (List.prefix_refl _)).pending _ _ _ hreported
  rw [hrs] at hretryable
  obtain rfl : rs = [] := Option.some.inj hretryable
  cases hr

end Rehearsal

end IdentifierRegistrar
