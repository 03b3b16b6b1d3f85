import IdentifierRegistrar.Proofs.Run.Rows

/-! Runs that a schedule lays down: a list of commands says which operation begins or takes its next
step, and an answerer gives the replies. After its last command such a run is idle. -/

namespace IdentifierRegistrar

open Service Operation

inductive Command
  | start (e : Errand)
  /-- The operation sends out what it has come to ask, or has it answered. -/
  | go (i : Nat)
  deriving DecidableEq, Repr

section Schedule

variable {σ : Type} (g : Registrar) (answer : Answerer interface (Table × σ))

def Command.exec (s : Moment) (w : σ) : Command → Event × Moment × σ
  | start e => (.start e, ⟨s.table, s.ongoing ++ [.begin g e]⟩, w)
  | go i =>
    match s.ongoing[i]? with
    | none => (.idle, s, w)
    | some p =>
      match p.rest with
      | .done _ | .fail _ => (.idle, s, w)
      | .ask q next =>
        if p.waits = q.isRemote then
          match answer q (s.table, w) with
          | (r, (t, w)) => (.answer i ⟨q, r⟩, ⟨t, s.ongoing.set i (p.receive ⟨q, r⟩ (next r))⟩, w)
        else if p.waits then (.idle, s, w)
        else (.issue i q, ⟨s.table, s.ongoing.set i p.send⟩, w)

def scheduled (w : σ) (commands : List Command) : Moment × σ :=
  commands.foldl (fun s c => (c.exec g answer s.1 s.2).2) (⟨[], []⟩, w)

variable {answer}

theorem Command.exec_step (hanswer : ∀ q s, Answers s.1 q (answer q s).1 (answer q s).2.1)
    (c : Command) (s : Moment) (w : σ) :
    Step g s (c.exec g answer s w).1 (c.exec g answer s w).2.1 := by
  cases c with
  | start e => exact .start s e
  | go i =>
    cases hp : s.ongoing[i]? with
    | none =>
      simp only [Command.exec, hp]
      exact .idle s
    | some p =>
      cases hrest : p.rest with
      | done a =>
        simp only [Command.exec, hp, hrest]
        exact .idle s
      | fail e =>
        simp only [Command.exec, hp, hrest]
        exact .idle s
      | ask q next =>
        simp only [Command.exec, hp, hrest]
        split
        · rename_i hwaits
          exact .answer hp hrest hwaits (.inl (hanswer q (s.table, w)))
        · rename_i hwaits
          split
          · exact .idle s
          · rename_i hnot
            rw [Bool.not_eq_true] at hnot
            rw [hnot] at hwaits
            exact .issue hp hrest hnot (by simpa using hwaits)

theorem Command.eq_of_starts {c : Command} {s : Moment} {w : σ} {e : Errand}
    (h : (c.exec g answer s w).1 = .start e) : c = .start e := by
  unfold Command.exec at h
  split at h
  · cases h
    rfl
  · split at h
    · cases h
    · split at h
      · cases h
      · cases h
      · split at h
        · cases h
        · split at h <;> cases h

theorem Command.reply_of_answers {c : Command} {s : Moment} {w : σ} {i : Nat} {q : Request} {y : Reply q}
    (h : (c.exec g answer s w).1 = .answer i ⟨q, y⟩) : ∃ before, (answer q before).1 = y := by
  unfold Command.exec at h
  split at h
  · cases h
  · split at h
    · cases h
    · split at h
      · cases h
      · cases h
      · split at h
        · cases h
          exact ⟨_, rfl⟩
        · split at h <;> cases h

def Run.ofSchedule (hanswer : ∀ q s, Answers s.1 q (answer q s).1 (answer q s).2.1) (w : σ)
    (commands : List Command) : Run g where
  moment t := (scheduled g answer w (commands.take t)).1
  event t :=
    match commands[t]? with
    | none => .idle
    | some c =>
      (c.exec g answer (scheduled g answer w (commands.take t)).1
        (scheduled g answer w (commands.take t)).2).1
  initial := rfl
  step t := by
    cases hc : commands[t]? with
    | none =>
      have hend : commands.length ≤ t := List.getElem?_eq_none_iff.1 hc
      rw [List.take_of_length_le hend, List.take_of_length_le (Nat.le_succ_of_le hend)]
      exact .idle _
    | some c =>
      rw [List.take_add_one, hc, Option.toList_some, scheduled, scheduled, List.foldl_append]
      exact c.exec_step g hanswer _ _

variable {g} (hanswer : ∀ q s, Answers s.1 q (answer q s).1 (answer q s).2.1) {w : σ}
  {commands : List Command} {t : Nat}

theorem Run.mem_of_starts {e : Errand} (h : (Run.ofSchedule g hanswer w commands).event t = .start e) :
    .start e ∈ commands := by
  simp only [Run.ofSchedule] at h
  split at h
  · cases h
  · rename_i c hc
    exact Command.eq_of_starts g h ▸ List.mem_of_getElem? hc

theorem Run.reply_of_answers {i : Nat} {q : Request} {y : Reply q}
    (h : (Run.ofSchedule g hanswer w commands).event t = .answer i ⟨q, y⟩) :
    ∃ before, (answer q before).1 = y := by
  simp only [Run.ofSchedule] at h
  split at h
  · cases h
  · exact Command.reply_of_answers g h

end Schedule

def Event.asks? : Event → Option (Nat × Scheme × Agency.Change)
  | issue i (.agency scheme (.change c)) => some (i, scheme, c)
  | _ => none

theorem Event.eq_of_asks? {ev : Event} {i : Nat} {scheme : Scheme} {c : Agency.Change}
    (h : ev.asks? = some (i, scheme, c)) : ev = .issue i (.agency scheme (.change c)) := by
  cases ev with
  | issue j q =>
    cases q with
    | agency scheme' call =>
      cases call with
      | change c' =>
        cases h
        rfl
      | _ => cases h
    | _ => cases h
  | _ => cases h

def Run.asksAt {g : Registrar} (x : Run g) (t : Nat) :
    Option (Errand × Nat × Scheme × Agency.Change) :=
  (x.event t).asks?.bind fun c => (x.moment t).ongoing[c.1]?.map fun p => (p.errand, c)

theorem Run.issue_of_asksAt {g : Registrar} {x : Run g} {t i : Nat} {e : Errand} {scheme : Scheme}
    {c : Agency.Change} (h : x.asksAt t = some (e, i, scheme, c)) :
    x.event t = .issue i (.agency scheme (.change c)) ∧
      ∃ p, (x.moment t).ongoing[i]? = some p ∧ p.errand = e := by
  obtain ⟨c', hev, hmap⟩ := Option.bind_eq_some_iff.1 h
  obtain ⟨p, hp, heq⟩ := Option.map_eq_some_iff.1 hmap
  cases heq
  exact ⟨Event.eq_of_asks? hev, p, hp, rfl⟩

def Event.actor? : Event → Option Nat
  | idle | start _ => none
  | issue i _ | answer i _ => some i

/-- An operation that others may go before: it has not begun, waits for a reply from outside or has
come to its end. -/
def Ongoing.pauses (p : Ongoing) : Bool :=
  p.past.isEmpty || p.waits ||
    match p.rest with
    | .ask _ _ => false
    | _ => true

def Moment.yieldsTo (s : Moment) (j : Nat) : Bool :=
  (List.range s.ongoing.length).all fun i => i == j || s.ongoing[i]?.all Ongoing.pauses

/-- Operations take turns only where they wait for a reply from outside. -/
def Run.Cooperative {g : Registrar} (x : Run g) : Prop :=
  ∀ t j, (x.event t).actor? = some j → (x.moment t).yieldsTo j = true

end IdentifierRegistrar
