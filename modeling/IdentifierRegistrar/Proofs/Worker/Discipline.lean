import IdentifierRegistrar.Registrar.Worker
import Mathlib.Tactic.Common

/-! What may happen to a worker, in any order: calls ask for places in the queue through its handles, jobs
come to the places that they were promised or give them up, words to stop or to go on are given, and the
worker takes any branch of its loop that is open. However these come, jobs are taken in the order in which
they came into the queue and none is lost before the worker stops, the queue keeps to its capacity, a call
is refused only when every place is taken or promised, and nothing but a word to stop ends a worker whose
sweeps have an interval (`queue_disciplined`). -/

namespace IdentifierRegistrar.Worker

inductive Event
  | reserved (j : Job) (x : Offer)
  | sent (j : Job) (x : Offer)
  | entered (j : Job)
  | gaveUp (i : Nat)
  | withdrew (i : Nat)
  | cloned
  | dropped
  | notified (stop : Bool)
  | launched
  | swept
  | received (j : Job)
  | ceased
  | heeded
  deriving DecidableEq

/-- A call needs a handle until it is done. A job that was promised a place comes to it some time later, and
others may go before it. -/
inductive Happens : Worker → Event → Worker → Prop
  | reserve {w : Worker} (j : Job) (h : w.handles ≠ 0) :
    Happens w (.reserved j (w.reserve j).1) (w.reserve j).2
  | send {w : Worker} (j : Job) (h : w.handles ≠ 0) : Happens w (.sent j (w.send j).1) (w.send j).2
  | enter {w : Worker} {j : Job} (i : Nat) (h : w.promised[i]? = some j) :
    Happens w (.entered j) (w.enter i)
  | giveUp {w : Worker} (i : Nat) : Happens w (.gaveUp i) (w.giveUp i)
  | withdraw {w : Worker} (i : Nat) : Happens w (.withdrew i) (w.withdraw i)
  | clone {w : Worker} (h : w.handles ≠ 0) : Happens w .cloned w.cloneHandle
  | drop {w : Worker} (h : w.handles ≤ 1 → w.promised = [] ∧ w.waiting = []) :
    Happens w .dropped w.dropHandle
  | notify {w : Worker} (stop : Bool) : Happens w (.notified stop) (w.notify stop)
  | launch {w : Worker} (now : Nat) : Happens w .launched (w.launch now)
  | tick {w w' : Worker} (now : Nat) (h : w.tick? now = some w') : Happens w .swept w'
  | receive {w w' : Worker} {j : Job} (h : w.receive? = some (j, w')) : Happens w (.received j) w'
  | cease {w w' : Worker} (h : w.cease? = some w') : Happens w .ceased w'
  | heed {w : Worker} : Happens w .heeded w.heed

/-- From one state of a worker to another, by what happens in between. -/
inductive Path (w : Worker) : List Event → Worker → Prop
  | nil : Path w [] w
  | snoc {w' w'' : Worker} {es : List Event} {e : Event} (h : Path w es w')
    (he : Happens w' e w'') : Path w (es ++ [e]) w''

theorem Path.single {w w' : Worker} {e : Event} (h : Happens w e w') : Path w [e] w' :=
  .snoc .nil h

theorem Path.append {w w' w'' : Worker} {es es' : List Event} (h : Path w es w')
    (h' : Path w' es' w'') : Path w (es ++ es') w'' := by
  induction h' with
  | nil => rwa [List.append_nil]
  | snoc _ he ih =>
    rw [← List.append_assoc]
    exact ih.snoc he

namespace Event

def accepts : Event → List Job
  | entered j => [j]
  | _ => []

def executes : Event → List Job
  | received j => [j]
  | _ => []

def turn? : Event → Option Turn
  | swept => some .sweep
  | received j => some (.job j)
  | _ => none

end Event

def accepted (es : List Event) : List Job := es.flatMap Event.accepts

def executed (es : List Event) : List Job := es.flatMap Event.executes

theorem accepted_snoc (es : List Event) (e : Event) :
    accepted (es ++ [e]) = accepted es ++ e.accepts := by
  simp [accepted]

theorem executed_snoc (es : List Event) (e : Event) :
    executed (es ++ [e]) = executed es ++ e.executes := by
  simp [executed]

/-- How a call is answered that asks for a place: where the worker stands when there is one, and where when
there is none. -/
inductive Answered (w given denied : Worker) : Offer × Worker → Prop
  | accepted (ht : w.takesJobs = true) (hroom : w.queue.length + w.promised.length < w.capacity) :
    Answered w given denied (.accepted, given)
  | full (ht : w.takesJobs = true) (hfull : w.capacity ≤ w.queue.length + w.promised.length) :
    Answered w given denied (.full, denied)
  | stopped (ht : w.takesJobs = false) : Answered w given denied (.stopped, w)

/-- What a worker has wherever a call may leave it, it has where the call leaves it. -/
theorem Answered.leaves {P : Worker → Prop} {w given denied : Worker} {answer : Offer × Worker}
    (h : Answered w given denied answer)
    (hgiven : w.queue.length + w.promised.length < w.capacity → P given)
    (hdenied : w.capacity ≤ w.queue.length + w.promised.length → P denied) (hsame : P w) : P answer.2 := by
  cases h with
  | accepted _ hroom => exact hgiven hroom
  | full _ hfull => exact hdenied hfull
  | stopped _ => exact hsame

theorem reserved (w : Worker) (j : Job) :
    Answered w { w with promised := w.promised ++ [j] } w (w.reserve j) := by
  unfold reserve hasRoom
  cases ht : w.takesJobs with
  | false => exact .stopped ht
  | true =>
    by_cases hroom : w.queue.length + w.promised.length < w.capacity
    · simp only [Bool.not_true, Bool.false_eq_true, if_false, hroom, decide_true, if_true]
      exact .accepted ht hroom
    · simp only [Bool.not_true, Bool.false_eq_true, if_false, hroom, decide_false]
      exact .full ht (Nat.le_of_not_lt hroom)

theorem offered (w : Worker) (j : Job) :
    Answered w { w with queue := w.queue ++ [j] } w (w.offer j) := by
  have hnone : w.enter w.promised.length = w := by simp [enter]
  have hown : ({ w with promised := w.promised ++ [j] } : Worker).enter w.promised.length =
      { w with queue := w.queue ++ [j] } := by
    simp [enter, List.eraseIdx_append_of_length_le]
  have hreserved := w.reserved j
  unfold offer
  generalize w.reserve j = answer at hreserved ⊢
  cases hreserved with
  | accepted ht hroom =>
    simp only [hown]
    exact .accepted ht hroom
  | full ht hfull =>
    simp only [hnone]
    exact .full ht hfull
  | stopped ht =>
    simp only [hnone]
    exact .stopped ht

theorem sent (w : Worker) (j : Job) : Answered w { w with promised := w.promised ++ [j] }
    { w with waiting := w.waiting ++ [j] } (w.send j) := by
  have hreserved := w.reserved j
  unfold send
  generalize w.reserve j = answer at hreserved ⊢
  cases hreserved with
  | accepted ht hroom => exact .accepted ht hroom
  | full ht hfull => exact .full ht hfull
  | stopped ht => exact .stopped ht

theorem enter_of_getElem? {w : Worker} {i : Nat} {j : Job} (h : w.promised[i]? = some j) :
    w.enter i = { w with queue := w.queue ++ [j], promised := w.promised.eraseIdx i } := by
  simp only [enter, h]

theorem withdraw_cases (w : Worker) (i : Nat) : w.withdraw i = w ∨
    i < w.promised.length ∧ w.withdraw i = { w with promised := w.promised.eraseIdx i }.passOn := by
  unfold withdraw
  split
  · rename_i hget
    exact .inr ⟨(List.getElem?_eq_some_iff.1 hget).1, rfl⟩
  · exact .inl rfl

@[simp] theorem passOn_queue (w : Worker) : w.passOn.queue = w.queue := by
  unfold passOn
  split <;> rfl

@[simp] theorem passOn_phase (w : Worker) : w.passOn.phase = w.phase := by
  unfold passOn
  split <;> rfl

theorem receive?_eq_some {w w' : Worker} {j : Job} (h : w.receive? = some (j, w')) :
    ∃ due queue, w.phase = .running due ∧ w.listens = true ∧ w.queue = j :: queue ∧
      w' = { w with queue }.passOn := by
  unfold receive? at h
  split at h
  · rename_i due _ queue hphase hlistens hqueue
    cases h
    exact ⟨due, queue, hphase, hlistens, hqueue, rfl⟩
  · cases h

theorem cease?_eq_some {w w' : Worker} (h : w.cease? = some w') :
    w.queue = [] ∧ w.handles = 0 ∧ w' = { w with listens := false } := by
  unfold cease? at h
  split at h
  · rename_i hqueue hhandles
    cases h
    exact ⟨hqueue, hhandles, rfl⟩
  · cases h

theorem tick?_eq_some {w w' : Worker} {now : Nat} (h : w.tick? now = some w') :
    ∃ due, w.phase = .running due ∧ w' = { w with phase := .running (due + w.interval) } := by
  unfold tick? at h
  split at h
  · rename_i due hphase
    split at h
    · cases h
      exact ⟨due, hphase, rfl⟩
    · cases h
  · cases h

/-- Where a worker comes to when it takes note of the last word. -/
theorem heed_cases (w : Worker) : w.heed = w ∨ w.heed = { w with news := false } ∨
    w.told = true ∧ w.heed = w.stop := by
  unfold heed
  split
  · split
    · split
      · rename_i htold
        exact .inr (.inr ⟨htold, rfl⟩)
      · exact .inr (.inl rfl)
    · exact .inl rfl
  · exact .inl rfl

theorem launch_cases (w : Worker) (now : Nat) : w.phase ≠ .idle ∧ w.launch now = w ∨
    w.phase = .idle ∧ (w.interval ≠ 0 ∧ w.launch now = { w with phase := .running now } ∨
      w.interval = 0 ∧ w.launch now = w.stop) := by
  unfold launch
  split
  · rename_i hphase
    by_cases hz : w.interval = 0
    · exact .inr ⟨hphase, .inr ⟨hz, by simp [hz]⟩⟩
    · exact .inr ⟨hphase, .inl ⟨hz, by simp [hz]⟩⟩
  · rename_i hphase
    exact .inl ⟨hphase, rfl⟩

/-- The places of a queue: there are as many as it has capacity for, and nobody waits while one is free. -/
structure Placed (capacity : Nat) (w : Worker) : Prop where
  capacity : w.capacity = max capacity 1
  room : w.queue.length + w.promised.length ≤ w.capacity
  waits : w.waiting ≠ [] → w.queue.length + w.promised.length = w.capacity
  /-- A call that is not done has a handle. -/
  borrowed : w.handles = 0 → w.promised = [] ∧ w.waiting = []
  /-- The worker ceases to mind the queue only when nothing can come any more. -/
  deaf : w.listens = false → w.handles = 0 ∧ w.queue = []

namespace Placed

variable {capacity : Nat} {e : Event} {w w' : Worker} {j : Job}

theorem created (interval capacity : Nat) : Placed capacity (create interval capacity) where
  capacity := rfl
  room := Nat.zero_le _
  waits h := absurd rfl h
  borrowed h := by cases h
  deaf h := by cases h

theorem promise (h : Placed capacity w) (hh : w.handles ≠ 0)
    (hroom : w.queue.length + w.promised.length < w.capacity) (j : Job) :
    Placed capacity { w with promised := w.promised ++ [j] } where
  capacity := h.capacity
  room := by
    rw [List.length_append, ← Nat.add_assoc]
    exact hroom
  waits hw := absurd (h.waits hw) (Nat.ne_of_lt hroom)
  borrowed hno := absurd hno hh
  deaf := h.deaf

theorem reserve (h : Placed capacity w) (hh : w.handles ≠ 0) (j : Job) :
    Placed capacity (w.reserve j).2 :=
  (w.reserved j).leaves (fun hroom => h.promise hh hroom j) (fun _ => h) h

theorem send (h : Placed capacity w) (hh : w.handles ≠ 0) (j : Job) :
    Placed capacity (w.send j).2 := by
  refine (w.sent j).leaves (fun hroom => h.promise hh hroom j) (fun hfull => ?_) h
  exact ⟨h.capacity, h.room, fun _ => Nat.le_antisymm h.room hfull, fun hno => absurd hno hh, h.deaf⟩

/-- A job that comes to its place takes the place that it was promised. -/
theorem enter (h : Placed capacity w) {i : Nat} (hi : w.promised[i]? = some j) :
    Placed capacity (w.enter i) := by
  obtain ⟨hlt, -⟩ := List.getElem?_eq_some_iff.1 hi
  have hpromised := List.length_pos_of_mem (List.mem_of_getElem? hi)
  have hhandles : w.handles ≠ 0 := by
    intro hno
    simp [(h.borrowed hno).1] at hlt
  have hplaces : (w.queue ++ [j]).length + (w.promised.eraseIdx i).length =
      w.queue.length + w.promised.length := by
    rw [List.length_append, List.length_singleton, List.length_eraseIdx_of_lt hlt]
    omega
  rw [enter_of_getElem? hi]
  refine ⟨h.capacity, ?_, fun hw => ?_, fun hno => absurd hno hhandles,
    fun hl => absurd (h.deaf hl).1 hhandles⟩
  · rw [hplaces]
    exact h.room
  · rw [hplaces]
    exact h.waits hw

theorem giveUp (h : Placed capacity w) (i : Nat) : Placed capacity (w.giveUp i) := by
  refine ⟨h.capacity, h.room, fun hw => h.waits fun hnone => hw ?_, fun hno => ?_, h.deaf⟩
  · simp [Worker.giveUp, hnone]
  · obtain ⟨hpromised, hwaiting⟩ := h.borrowed hno
    exact ⟨hpromised, by simp [Worker.giveUp, hwaiting]⟩

/-- A place that falls free is promised to one who waits, or nobody waits. -/
theorem passOn (h : Placed capacity w) (hcapacity : w'.capacity = w.capacity)
    (hplaces : w'.queue.length + w'.promised.length + 1 = w.queue.length + w.promised.length)
    (hwaiting : w'.waiting = w.waiting)
    (hborrowed : w'.handles = 0 → w'.promised = [] ∧ w'.waiting = [])
    (hdeaf : w'.listens = false → w'.handles = 0 ∧ w'.queue = []) : Placed capacity w'.passOn := by
  have hroom := h.room
  have hwaits := h.waits
  rw [← hplaces, ← hcapacity] at hroom hwaits
  unfold Worker.passOn
  cases hnext : w'.waiting with
  | nil =>
    exact ⟨hcapacity.trans h.capacity, Nat.le_of_succ_le hroom, fun hw => absurd hnext hw, hborrowed, hdeaf⟩
  | cons j waiting =>
    have hfull : w'.queue.length + (w'.promised ++ [j]).length = w'.capacity := by
      rw [List.length_append, ← Nat.add_assoc]
      exact hwaits (by simp [← hwaiting, hnext])
    have hhandles : w'.handles ≠ 0 := by
      intro hno
      simp [(hborrowed hno).2] at hnext
    exact ⟨hcapacity.trans h.capacity, Nat.le_of_eq hfull, fun _ => hfull, fun hno => absurd hno hhandles,
      hdeaf⟩

theorem withdraw (h : Placed capacity w) (i : Nat) : Placed capacity (w.withdraw i) := by
  rcases w.withdraw_cases i with heq | ⟨hlt, heq⟩
  · rw [heq]
    exact h
  · have hplaces : w.queue.length + (w.promised.eraseIdx i).length + 1 =
        w.queue.length + w.promised.length := by
      rw [List.length_eraseIdx_of_lt hlt]
      omega
    rw [heq]
    refine h.passOn rfl hplaces rfl (fun hno => ?_) h.deaf
    simp [(h.borrowed hno).1] at hlt

theorem receive (h : Placed capacity w) (hr : w.receive? = some (j, w')) : Placed capacity w' := by
  obtain ⟨due, queue, -, hlistens, hqueue, rfl⟩ := receive?_eq_some hr
  have hplaces : queue.length + w.promised.length + 1 = w.queue.length + w.promised.length := by
    rw [hqueue, List.length_cons, Nat.add_right_comm]
  refine h.passOn rfl hplaces rfl h.borrowed (fun hl => ?_)
  rw [hlistens] at hl
  cases hl

theorem stop (h : Placed capacity w) : Placed capacity w.stop where
  capacity := h.capacity
  room := by simpa [Worker.stop] using Nat.le_trans (Nat.le_add_left _ _) h.room
  waits hw := absurd rfl hw
  borrowed hno := ⟨(h.borrowed hno).1, rfl⟩
  deaf hl := ⟨(h.deaf hl).1, rfl⟩

theorem happens (h : Placed capacity w) (he : Happens w e w') : Placed capacity w' := by
  cases he with
  | reserve j hh => exact h.reserve hh j
  | send j hh => exact h.send hh j
  | enter i hi => exact h.enter hi
  | giveUp i => exact h.giveUp i
  | withdraw i => exact h.withdraw i
  | clone hh =>
    exact ⟨h.capacity, h.room, h.waits, fun hno => absurd hno (Nat.succ_ne_zero _),
      fun hl => absurd (h.deaf hl).1 hh⟩
  | drop hlast =>
    refine ⟨h.capacity, h.room, h.waits, fun hno => hlast (Nat.sub_eq_zero_iff_le.1 hno), fun hl => ?_⟩
    obtain ⟨hhandles, hqueue⟩ := h.deaf hl
    exact ⟨by simp [dropHandle, hhandles], hqueue⟩
  | notify stop => exact ⟨h.capacity, h.room, h.waits, h.borrowed, h.deaf⟩
  | launch now =>
    rcases w.launch_cases now with ⟨-, heq⟩ | ⟨-, ⟨-, heq⟩ | ⟨-, heq⟩⟩
    · rw [heq]
      exact h
    · rw [heq]
      exact ⟨h.capacity, h.room, h.waits, h.borrowed, h.deaf⟩
    · rw [heq]
      exact h.stop
  | tick now ht =>
    obtain ⟨due, -, rfl⟩ := tick?_eq_some ht
    exact ⟨h.capacity, h.room, h.waits, h.borrowed, h.deaf⟩
  | receive hr => exact h.receive hr
  | cease hc =>
    obtain ⟨hqueue, hhandles, rfl⟩ := cease?_eq_some hc
    exact ⟨h.capacity, h.room, h.waits, h.borrowed, fun _ => ⟨hhandles, hqueue⟩⟩
  | heed =>
    rcases w.heed_cases with heq | heq | ⟨-, heq⟩
    · rw [heq]
      exact h
    · rw [heq]
      exact ⟨h.capacity, h.room, h.waits, h.borrowed, h.deaf⟩
    · rw [heq]
      exact h.stop

end Placed

/-- The queue holds what has come into it and was not taken, in its order. -/
structure Ordered (es : List Event) (w : Worker) : Prop where
  past : executed es <+: accepted es
  kept : w.phase ≠ .stopped → accepted es = executed es ++ w.queue

namespace Ordered

variable {es : List Event} {e : Event} {w w' : Worker} {j : Job}

theorem created (interval capacity : Nat) : Ordered [] (create interval capacity) where
  past := List.prefix_refl _
  kept _ := rfl

theorem same (h : Ordered es w) (hqueue : w'.queue = w.queue)
    (hphase : w'.phase ≠ .stopped → w.phase ≠ .stopped) (ha : e.accepts = []) (hx : e.executes = []) :
    Ordered (es ++ [e]) w' := by
  refine ⟨?_, fun hp => ?_⟩
  · rw [accepted_snoc, executed_snoc, ha, hx, List.append_nil, List.append_nil]
    exact h.past
  · rw [accepted_snoc, executed_snoc, ha, hx, List.append_nil, List.append_nil, hqueue]
    exact h.kept (hphase hp)

theorem stop (h : Ordered es w) (ha : e.accepts = []) (hx : e.executes = []) :
    Ordered (es ++ [e]) w.stop := by
  refine ⟨?_, fun hp => absurd rfl hp⟩
  rw [accepted_snoc, executed_snoc, ha, hx, List.append_nil, List.append_nil]
  exact h.past

theorem enter (h : Ordered es w) {i : Nat} (hi : w.promised[i]? = some j) :
    Ordered (es ++ [.entered j]) (w.enter i) := by
  have hlog : executed (es ++ [.entered j]) = executed es := by
    rw [executed_snoc]
    exact List.append_nil _
  rw [enter_of_getElem? hi]
  refine ⟨?_, fun hp => ?_⟩
  · rw [hlog, accepted_snoc]
    exact h.past.trans (List.prefix_append _ _)
  · rw [hlog, accepted_snoc, h.kept hp]
    exact List.append_assoc _ _ _

theorem receive (h : Ordered es w) (hr : w.receive? = some (j, w')) :
    Ordered (es ++ [.received j]) w' := by
  obtain ⟨due, queue, hphase, -, hqueue, rfl⟩ := receive?_eq_some hr
  have hkept := h.kept (by simp [hphase])
  rw [hqueue] at hkept
  have hlog : accepted (es ++ [.received j]) = executed (es ++ [.received j]) ++ queue := by
    rw [accepted_snoc, executed_snoc, hkept]
    simp [Event.accepts, Event.executes]
  refine ⟨?_, fun _ => ?_⟩
  · rw [hlog]
    exact List.prefix_append _ _
  · rw [hlog, passOn_queue]

theorem happens (h : Ordered es w) (he : Happens w e w') : Ordered (es ++ [e]) w' := by
  cases he with
  | reserve j _ =>
    refine (w.reserved j).leaves (P := Ordered _) (fun _ => ?_) (fun _ => ?_) ?_ <;>
      exact h.same rfl id rfl rfl
  | send j _ =>
    refine (w.sent j).leaves (P := Ordered _) (fun _ => ?_) (fun _ => ?_) ?_ <;>
      exact h.same rfl id rfl rfl
  | enter i hi => exact h.enter hi
  | giveUp i => exact h.same rfl id rfl rfl
  | withdraw i =>
    rcases w.withdraw_cases i with heq | ⟨-, heq⟩
    · rw [heq]
      exact h.same rfl id rfl rfl
    · rw [heq]
      exact h.same (passOn_queue _) (by simp) rfl rfl
  | clone _ => exact h.same rfl id rfl rfl
  | drop _ => exact h.same rfl id rfl rfl
  | notify stop => exact h.same rfl id rfl rfl
  | launch now =>
    rcases w.launch_cases now with ⟨-, heq⟩ | ⟨hidle, ⟨-, heq⟩ | ⟨-, heq⟩⟩
    · rw [heq]
      exact h.same rfl id rfl rfl
    · rw [heq]
      exact h.same rfl (fun _ => by simp [hidle]) rfl rfl
    · rw [heq]
      exact h.stop rfl rfl
  | tick now ht =>
    obtain ⟨due, hphase, rfl⟩ := tick?_eq_some ht
    exact h.same rfl (fun _ => by simp [hphase]) rfl rfl
  | receive hr => exact h.receive hr
  | cease hc =>
    obtain ⟨-, -, rfl⟩ := cease?_eq_some hc
    exact h.same rfl id rfl rfl
  | heed =>
    rcases w.heed_cases with heq | heq | ⟨-, heq⟩
    · rw [heq]
      exact h.same rfl id rfl rfl
    · rw [heq]
      exact h.same rfl id rfl rfl
    · rw [heq]
      exact h.stop rfl rfl

end Ordered

/-- Whether the worker runs is a matter of words only, if its sweeps have an interval. -/
structure Governed (interval : Nat) (es : List Event) (w : Worker) : Prop where
  spaced : w.interval = interval
  told : w.told = true → .notified true ∈ es
  stopped : w.phase = .stopped → .notified true ∈ es ∨ interval = 0
  launched : .launched ∈ es → w.phase ≠ .idle
  kept : w.phase ≠ .discarded

namespace Governed

variable {interval : Nat} {es : List Event} {e : Event} {w w' : Worker}

theorem created (interval capacity : Nat) : Governed interval [] (create interval capacity) where
  spaced := rfl
  told h := by cases h
  stopped h := by cases h
  launched h := by cases h
  kept h := by cases h

theorem same (h : Governed interval es w) (hi : w'.interval = w.interval) (ht : w'.told = w.told)
    (hp : w'.phase = w.phase) (he : e ≠ .launched) : Governed interval (es ++ [e]) w' where
  spaced := hi.trans h.spaced
  told hw := List.mem_append_left _ (h.told (ht ▸ hw))
  stopped hw := (h.stopped (hp ▸ hw)).imp_left (List.mem_append_left _)
  launched hw := by
    rcases List.mem_append.1 hw with hw | hw
    · exact hp ▸ h.launched hw
    · exact absurd (List.mem_singleton.1 hw).symm he
  kept := hp ▸ h.kept

theorem stop (h : Governed interval es w) (hwhy : .notified true ∈ es ∨ interval = 0) :
    Governed interval (es ++ [e]) w.stop where
  spaced := h.spaced
  told hw := List.mem_append_left _ (h.told hw)
  stopped _ := hwhy.imp_left (List.mem_append_left _)
  launched _ hw := by cases hw
  kept hw := by cases hw

theorem run (h : Governed interval es w) (due : Nat) :
    Governed interval (es ++ [e]) { w with phase := .running due } where
  spaced := h.spaced
  told hw := List.mem_append_left _ (h.told hw)
  stopped hw := by cases hw
  launched _ hw := by cases hw
  kept hw := by cases hw

/-- What is done about the places of a queue is no word and no matter of words. -/
theorem passOn_same (w : Worker) : w.passOn.interval = w.interval ∧ w.passOn.told = w.told ∧
    w.passOn.phase = w.phase := by
  unfold passOn
  split <;> exact ⟨rfl, rfl, rfl⟩

theorem enter_same (w : Worker) (i : Nat) : (w.enter i).interval = w.interval ∧
    (w.enter i).told = w.told ∧ (w.enter i).phase = w.phase := by
  unfold enter
  split <;> exact ⟨rfl, rfl, rfl⟩

theorem happens (h : Governed interval es w) (he : Happens w e w') :
    Governed interval (es ++ [e]) w' := by
  cases he with
  | reserve j _ =>
    refine (w.reserved j).leaves (P := Governed interval _) (fun _ => ?_) (fun _ => ?_) ?_ <;>
      exact h.same rfl rfl rfl (by simp)
  | send j _ =>
    refine (w.sent j).leaves (P := Governed interval _) (fun _ => ?_) (fun _ => ?_) ?_ <;>
      exact h.same rfl rfl rfl (by simp)
  | enter i _ =>
    obtain ⟨hi, ht, hp⟩ := enter_same w i
    exact h.same hi ht hp (by simp)
  | giveUp i => exact h.same rfl rfl rfl (by simp)
  | withdraw i =>
    rcases w.withdraw_cases i with heq | ⟨-, heq⟩
    · rw [heq]
      exact h.same rfl rfl rfl (by simp)
    · obtain ⟨hi, ht, hp⟩ := passOn_same { w with promised := w.promised.eraseIdx i }
      rw [heq]
      exact h.same hi ht hp (by simp)
  | clone _ => exact h.same rfl rfl rfl (by simp)
  | drop _ => exact h.same rfl rfl rfl (by simp)
  | notify stop =>
    have hsame : Governed interval (es ++ [.notified stop]) w := h.same rfl rfl rfl (by simp)
    refine ⟨hsame.spaced, fun hw => ?_, hsame.stopped, hsame.launched, hsame.kept⟩
    obtain rfl : stop = true := hw
    exact List.mem_append_right _ (List.mem_singleton.2 rfl)
  | launch now =>
    rcases w.launch_cases now with ⟨hno, heq⟩ | ⟨hidle, ⟨-, heq⟩ | ⟨hz, heq⟩⟩
    · rw [heq]
      exact ⟨h.spaced, fun hw => List.mem_append_left _ (h.told hw),
        fun hw => (h.stopped hw).imp_left (List.mem_append_left _), fun _ => hno, h.kept⟩
    · rw [heq]
      exact h.run now
    · rw [heq]
      exact h.stop (.inr (h.spaced.symm.trans hz))
  | tick now ht =>
    obtain ⟨due, -, rfl⟩ := tick?_eq_some ht
    exact h.run _
  | receive hr =>
    obtain ⟨due, queue, -, -, -, rfl⟩ := receive?_eq_some hr
    obtain ⟨hi, ht, hp⟩ := passOn_same { w with queue }
    exact h.same hi ht hp (by simp)
  | cease hc =>
    obtain ⟨-, -, rfl⟩ := cease?_eq_some hc
    exact h.same rfl rfl rfl (by simp)
  | heed =>
    rcases w.heed_cases with heq | heq | ⟨htold, heq⟩
    · rw [heq]
      exact h.same rfl rfl rfl (by simp)
    · rw [heq]
      exact h.same rfl rfl rfl (by simp)
    · rw [heq]
      exact h.stop (.inl (h.told htold))

end Governed

section Path

variable {interval capacity : Nat} {es : List Event} {w w' : Worker} {turn : Turn} {now : Nat}

theorem Path.placed (h : Path (create interval capacity) es w) : Placed capacity w := by
  induction h with
  | nil => exact .created interval capacity
  | snoc _ he ih => exact ih.happens he

theorem Path.ordered (h : Path (create interval capacity) es w) : Ordered es w := by
  induction h with
  | nil => exact .created interval capacity
  | snoc _ he ih => exact ih.happens he

theorem Path.governed (h : Path (create interval capacity) es w) : Governed interval es w := by
  induction h with
  | nil => exact .created interval capacity
  | snoc _ he ih => exact ih.happens he

/-- A job that is offered asks for a place and comes to it if it has one, and nothing happens in between. -/
theorem offer_path (hh : w.handles ≠ 0) (j : Job) : Path w (.reserved j (w.offer j).1 ::
    if (w.offer j).1 = .accepted then [.entered j] else []) (w.offer j).2 := by
  have hasked : Path w [.reserved j (w.reserve j).1] (w.reserve j).2 := .single (.reserve j hh)
  have hnone : w.enter w.promised.length = w := by simp [enter]
  have hreserved := w.reserved j
  unfold offer
  generalize w.reserve j = answer at hreserved hasked ⊢
  cases hreserved with
  | accepted _ _ => exact hasked.append (.single (.enter _ (by simp)))
  | full _ _ =>
    simp only [hnone]
    exact hasked
  | stopped _ =>
    simp only [hnone]
    exact hasked

theorem submit_path (hh : w.handles ≠ 0) (j : Job) : ∃ es, Path w es (w.submit j).2 ∧
    accepted es = if (w.submit j).1 = .ok () then [j] else [] := by
  have hpath := offer_path hh j
  unfold submit
  generalize w.offer j = answer at hpath ⊢
  rcases answer with ⟨_ | _ | _, w'⟩
  · exact ⟨_, hpath, rfl⟩
  · exact ⟨_, hpath, rfl⟩
  · exact ⟨_, hpath, rfl⟩

theorem start_path (w : Worker) (now : Nat) : Path w [.launched, .heeded] (w.start now) :=
  .append (.single (.launch now)) (.single .heed)

theorem signal_path (w : Worker) (stop : Bool) :
    Path w [.notified stop, .heeded] (w.signal stop) :=
  .append (.single (.notify stop)) (.single .heed)

theorem next?_happens (h : w.next? now = some (turn, w')) :
    ∃ e, Happens w e w' ∧ e.turn? = some turn := by
  unfold next? at h
  split at h
  · rename_i ht
    cases h
    exact ⟨.swept, .tick now ht, rfl⟩
  · obtain ⟨⟨j, w''⟩, hr, heq⟩ := Option.map_eq_some_iff.1 h
    cases heq
    exact ⟨.received j, .receive hr, rfl⟩

/-- What a worker does by itself up to a time is one of the things that may happen. -/
theorem turns_path (w : Worker) (now : Nat) :
    ∃ es, Path w es (w.turns now).2 ∧ es.filterMap Event.turn? = (w.turns now).1 := by
  have hgo (n : Nat) (w : Worker) : ∃ es, Path w es (turns.go now n w).2 ∧
      es.filterMap Event.turn? = (turns.go now n w).1 := by
    induction n generalizing w with
    | zero => exact ⟨[], .nil, rfl⟩
    | succ n ih =>
      cases hn : w.next? now with
      | none =>
        simp only [turns.go, hn]
        exact ⟨[], .nil, rfl⟩
      | some next =>
        obtain ⟨e, he, hturn⟩ := next?_happens hn
        obtain ⟨es, hpath, hturns⟩ := ih next.2
        simp only [turns.go, hn]
        refine ⟨e :: es, .append (.single he) hpath, ?_⟩
        rw [List.filterMap_cons_some hturn, hturns]
  exact hgo _ w

theorem takesJobs_iff (hh : w.handles ≠ 0) (hp : w.phase ≠ .discarded) :
    w.takesJobs = true ↔ w.phase ≠ .stopped := by
  unfold takesJobs
  split <;> simp_all

/-- While someone may call, a place is refused only when none is free or at the worker's end. -/
theorem Answered.iff {given denied : Worker} {answer : Offer × Worker}
    (h : Path (create interval capacity) es w) (hh : w.handles ≠ 0)
    (ha : Answered w given denied answer) :
    (answer.1 = .accepted ↔
      w.phase ≠ .stopped ∧ w.queue.length + w.promised.length < max capacity 1) ∧
    (answer.1 = .full ↔
      w.phase ≠ .stopped ∧ w.queue.length + w.promised.length = max capacity 1) ∧
    (answer.1 = .stopped ↔ w.phase = .stopped) := by
  have htakes := takesJobs_iff hh h.governed.kept
  have hroom := h.placed.room
  rw [← h.placed.capacity]
  cases ha with
  | accepted ht hlt =>
    have hp := htakes.1 ht
    simp [hp, hlt, Nat.ne_of_lt hlt]
  | full ht hfull =>
    have hp := htakes.1 ht
    simp [hp, Nat.le_antisymm hroom hfull]
  | stopped ht =>
    have hp : w.phase = .stopped := by
      by_contra hne
      simp [htakes.2 hne] at ht
    simp [hp]

/-- A submit that is refused leaves everything as it is. -/
theorem submit_iff (h : Path (create interval capacity) es w) (hh : w.handles ≠ 0) (j : Job) :
    ((w.submit j).1 = .ok () ↔
      w.phase ≠ .stopped ∧ w.queue.length + w.promised.length < max capacity 1) ∧
    ((w.submit j).1 = .error .queueFull ↔
      w.phase ≠ .stopped ∧ w.queue.length + w.promised.length = max capacity 1) ∧
    ((w.submit j).1 = .error .workerStopped ↔ w.phase = .stopped) ∧
    ((w.submit j).1 ≠ .ok () → (w.submit j).2 = w) := by
  obtain ⟨haccepted, hfull, hstopped⟩ := (w.offered j).iff h hh
  have hoffered := w.offered j
  rw [← haccepted, ← hfull, ← hstopped]
  unfold submit
  generalize w.offer j = answer at hoffered ⊢
  cases hoffered <;> simp

/-- A worker that was started and never told to stop runs, whether or not a handle is left. -/
theorem running_of_launched (h : Path (create interval capacity) es w) (hi : interval ≠ 0)
    (hl : .launched ∈ es) (ht : .notified true ∉ es) : ∃ due, w.phase = .running due := by
  have hgoverned := h.governed
  cases hp : w.phase with
  | idle => exact absurd hp (hgoverned.launched hl)
  | running due => exact ⟨due, rfl⟩
  | stopped =>
    rcases hgoverned.stopped hp with hmem | hz
    · exact absurd hmem ht
    · exact absurd hz hi
  | discarded => exact absurd hp hgoverned.kept

/-- A worker that runs sweeps when a sweep is due, and takes a job while there is one. -/
theorem happens_of_running (h : Path (create interval capacity) es w) {due : Nat}
    (hp : w.phase = .running due) : (∀ now, due ≤ now → ∃ w', w.tick? now = some w') ∧
      (w.queue ≠ [] → ∃ j w', Happens w (.received j) w') := by
  constructor
  · intro now hdue
    refine ⟨{ w with phase := .running (due + w.interval) }, ?_⟩
    simp [tick?, hp, hdue]
  · intro hqueue
    obtain ⟨j, queue, hqueue⟩ := List.exists_cons_of_ne_nil hqueue
    have hlistens : w.listens = true := by
      by_contra hno
      have hnone := (h.placed.deaf (by simpa using hno)).2
      simp [hqueue] at hnone
    have hr : w.receive? = some (j, { w with queue }.passOn) := by
      unfold receive?
      simp only [hp, hlistens, hqueue]
    exact ⟨j, _, .receive hr⟩

/-- Whatever has happened to a worker, in whatever order: the jobs that it has taken are the first of
those that came into the queue, in their order; until it stops the queue holds the others, and never more
than its capacity, the places that are promised included; a call is refused at the worker's end or when
every place is taken or promised only, and told which, and a job that is submitted comes into the queue if
it is not refused; and a worker whose sweeps have an interval stops only after a word to stop, and sweeps
whenever it is due until then, whether or not a handle is left. -/
theorem queue_disciplined (h : Path (create interval capacity) es w) :
    (executed es <+: accepted es ∧
      (w.phase ≠ .stopped → accepted es = executed es ++ w.queue)) ∧
    (w.queue.length + w.promised.length ≤ max capacity 1 ∧
      (w.waiting ≠ [] → w.queue.length + w.promised.length = max capacity 1)) ∧
    (w.handles ≠ 0 → ∀ j,
      ((w.submit j).1 = .ok () ↔
        w.phase ≠ .stopped ∧ w.queue.length + w.promised.length < max capacity 1) ∧
      ((w.submit j).1 = .error .queueFull ↔
        w.phase ≠ .stopped ∧ w.queue.length + w.promised.length = max capacity 1) ∧
      ((w.submit j).1 = .error .workerStopped ↔ w.phase = .stopped) ∧
      ((w.submit j).1 ≠ .ok () → (w.submit j).2 = w) ∧
      (∃ es', Path w es' (w.submit j).2 ∧
        accepted es' = if (w.submit j).1 = .ok () then [j] else []) ∧
      ((w.send j).1 = .full ↔
        w.phase ≠ .stopped ∧ w.queue.length + w.promised.length = max capacity 1) ∧
      ((w.send j).1 = .stopped ↔ w.phase = .stopped)) ∧
    (interval ≠ 0 → w.phase = .stopped → .notified true ∈ es) ∧
    (interval ≠ 0 → .launched ∈ es → .notified true ∉ es → ∃ due, w.phase = .running due ∧
      (∀ now, due ≤ now → ∃ w', w.tick? now = some w') ∧
      (w.queue ≠ [] → ∃ j w', Happens w (.received j) w')) := by
  have hplaced := h.placed
  have hcapacity := hplaced.capacity
  refine ⟨⟨h.ordered.past, h.ordered.kept⟩, ⟨hcapacity ▸ hplaced.room, hcapacity ▸ hplaced.waits⟩,
    fun hh j => ?_, fun hi hp => ?_, fun hi hl ht => ?_⟩
  · obtain ⟨hok, hfull, hstopped, hsame⟩ := submit_iff h hh j
    obtain ⟨-, hwaits, hended⟩ := (w.sent j).iff h hh
    exact ⟨hok, hfull, hstopped, hsame, submit_path hh j, hwaits, hended⟩
  · exact (h.governed.stopped hp).resolve_right hi
  · obtain ⟨due, hp⟩ := running_of_launched h hi hl ht
    exact ⟨due, hp, happens_of_running h hp⟩

/-- One place in the queue. The first job has it, a second is refused and a third waits; the place is promised
to the third when the first is taken, so a fourth is refused too, and the third comes in after that. The
handle is dropped and the worker told to go on; it has carried out both jobs, and sweeps. -/
theorem disciplined_without_handles : ∃ es w, Path (create 1000 1) es w ∧ w.handles = 0 ∧
    executed es = [⟨⟨1⟩, .register⟩, ⟨⟨3⟩, .delete⟩] ∧
    executed es <+: accepted es ∧ ∃ due, w.phase = .running due := by
  have hoffered : Path (create 1000 1) _ _ :=
    (offer_path (by decide) ⟨⟨1⟩, .register⟩).append (offer_path (by decide) ⟨⟨2⟩, .reserve⟩)
  have hstarted := (hoffered.snoc (.send ⟨⟨3⟩, .delete⟩ (by decide))).append (start_path _ 0)
  have htaken := (hstarted.snoc (.tick 0 rfl)).snoc (.receive rfl)
  have hentered := (htaken.append (offer_path (by decide) ⟨⟨4⟩, .register⟩)).snoc (.enter 0 rfl)
  have hdropped := (hentered.snoc (.drop (by decide))).snoc (.receive rfl)
  have hpath := (hdropped.snoc (.cease rfl)).append (signal_path _ false)
  obtain ⟨⟨hpast, -⟩, -, -, -, hruns⟩ := queue_disciplined hpath
  obtain ⟨due, hdue, -⟩ := hruns (by decide) (by decide) (by decide)
  exact ⟨_, _, hpath, rfl, rfl, hpast, due, hdue⟩

/-- The job of the one place is taken, and the place promised to a send: the queue is empty, and a submit is
told that it is full. And without an interval between its sweeps a worker ends where it begins, though
nobody has told it to. -/
theorem full_while_empty_stopped_untold : (∃ es w, Path (create 1000 1) es w ∧ w.handles ≠ 0 ∧
      w.phase ≠ .stopped ∧ w.queue = [] ∧ (w.submit ⟨⟨3⟩, .reserve⟩).1 = .error .queueFull) ∧
    ∃ es w, Path (create 0 4) es w ∧ w.handles ≠ 0 ∧ .notified true ∉ es ∧ w.phase = .stopped ∧
      (w.submit ⟨⟨1⟩, .register⟩).1 = .error .workerStopped := by
  have hoffered : Path (create 1000 1) _ _ := offer_path (by decide) ⟨⟨1⟩, .register⟩
  have hstarted := (hoffered.snoc (.send ⟨⟨2⟩, .delete⟩ (by decide))).append (start_path _ 0)
  exact ⟨⟨_, _, hstarted.snoc (.receive rfl), by decide, by decide, rfl, rfl⟩,
    _, _, start_path _ 0, by decide, by decide, rfl, rfl⟩

end Path

end IdentifierRegistrar.Worker
