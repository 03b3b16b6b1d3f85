import IdentifierRegistrar.Proofs.Operation.Errand
import IdentifierRegistrar.Proofs.Operation.Effects

/-! Operations with a log of the outcomes that they produce, one entry for each record that they come
to. A release gives its outcomes only if it comes to the end, and a sweep only counts them; the log
has them all. Leaving out the log gives the operation itself (`operation_eq_tracked`). -/

namespace IdentifierRegistrar

namespace Program

variable {I : Interface} {ε ε' α β : Type}

theorem attempt_bind (p : Program I ε α) (f : α → Program I ε β) :
    ((p >>= f).attempt : Program I ε' (Except ε β)) = p.attempt >>= fun x => match x with
      | .ok a => (f a).attempt
      | .error e => done (.error e) := by
  induction p with
  | done a => rfl
  | fail e => rfl
  | ask q next ih =>
    simp only [ask_bind, attempt]
    congr 1
    funext r
    exact ih r

/-- A sequence, with the error of the first taken up where it is raised again. -/
theorem bind_eq_attempt (p : Program I ε α) (f : α → Program I ε β) :
    p >>= f = p.attempt >>= fun x => match x with
      | .ok a => f a
      | .error e => fail e := by
  induction p with
  | done a => rfl
  | fail e => rfl
  | ask q next ih =>
    simp only [ask_bind, attempt]
    congr 1
    funext r
    exact ih r

theorem eq_attempt (p : Program I ε α) : p = p.attempt >>= ofExcept := by
  conv_lhs => rw [← bind_done p, bind_eq_attempt]
  rfl

end Program

open Operation Program

abbrev Log := List (RecordId × Except RegistrarError Outcome)

namespace Log

def outcomes (log : Log) : Except RegistrarError (List (RecordId × Outcome)) :=
  log.mapM fun e => e.2.map fun o => (e.1, o)

def stats (log : Log) : SweepStats := (log.map (·.2)).foldl SweepStats.count SweepStats.zero

def last (log : Log) (id : RecordId) : Option Outcome :=
  (log.filterMap fun e => if e.1 = id then e.2.toOption else none).getLast?

theorem ofExcept_outcomes_cons (id : RecordId) (o : Outcome) (log : Log) :
    (ofExcept (outcomes ((id, .ok o) :: log)) : Operation (List (RecordId × Outcome))) =
      ofExcept (outcomes log) >>= fun os => done ((id, o) :: os) := by
  rw [outcomes, outcomes, List.mapM_cons]
  cases log.mapM fun e : RecordId × Except RegistrarError Outcome =>
    e.2.map fun o => (e.1, o) <;> rfl

end Log

namespace Registrar

def entry (r : Record) : Except RegistrarError (RecordId × Outcome) →
    RecordId × Except RegistrarError Outcome
  | .ok (id, o) => (id, .ok o)
  | .error e => (r.id, .error e)

/-- `f` for each record in turn, and with those after an error only if `goesOn`. -/
def track (f : Record → Operation (RecordId × Outcome)) (goesOn : Bool) :
    List Record → Operation Log
  | [] => return []
  | r :: rs => do
    let x ← (f r).attempt
    if x.isOk || goesOn then return entry r x :: (← track f goesOn rs)
    else return [entry r x]

theorem forEach_eq_track (f : Record → Operation (RecordId × Outcome)) (rs : List Record) :
    forEach f rs = track f false rs >>= fun log => ofExcept log.outcomes := by
  induction rs with
  | nil => rfl
  | cons r rs ih =>
    rw [forEach, track, bind_eq_attempt, bind_assoc]
    congr 1
    funext x
    cases x with
    | error e => rfl
    | ok y =>
      obtain ⟨id, o⟩ := y
      simp only [ih, Except.isOk, Except.toBool, Bool.true_or, if_true, bind_assoc, pure_eq,
        done_bind, entry, Log.ofExcept_outcomes_cons]

theorem forEach_attempt_eq_track (f : Record → Operation Outcome) (rs : List Record) :
    forEach (fun r => (f r).attempt) rs =
      track (fun r => do return (r.id, ← f r)) true rs >>= fun log => pure (log.map (·.2)) := by
  induction rs with
  | nil => rfl
  | cons r rs ih =>
    rw [forEach, track, ih, attempt_bind, bind_assoc, bind_assoc]
    congr 1
    funext x
    cases x <;> simp only [attempt, pure_eq, done_bind, Bool.or_true, if_true, bind_assoc, entry,
      List.map_cons]

/-- What going through records with distinct ids comes to: each record that was come to has an entry
and is as `P` says, and every other row is as it was. -/
structure Went (P : Record → Except RegistrarError (RecordId × Outcome) → Record → Prop)
    (goesOn : Bool) (l : Ledger) (rs : List Record) (log : Log) (m : Ledger) : Prop where
  ids : log.map (·.1) <+: rs.map (·.id)
  entries : ∀ e ∈ log, ∃ r ∈ rs, ∃ x s, e = (r.id, x.map (·.2)) ∧ m.find r.id = some s ∧ P r x s
  others : ∀ id, id ∉ log.map (·.1) → m.find id = l.find id
  all : (goesOn = true ∨ ∀ e ∈ log, e.2.isOk) → log.map (·.1) = rs.map (·.id)

section Loop

variable {P : Record → Except RegistrarError (RecordId × Outcome) → Record → Prop} {goesOn : Bool}
  {l m n : Ledger} {r s : Record} {rs : List Record}
  {x : Except RegistrarError (RecordId × Outcome)}

theorem entry_eq (hid : ∀ id o, x = .ok (id, o) → id = r.id) : entry r x = (r.id, x.map (·.2)) := by
  cases x with
  | error e => rfl
  | ok y => rw [entry, hid y.1 y.2 rfl]; rfl

theorem Went.nil : Went P goesOn l [] [] l :=
  ⟨List.prefix_refl _, by simp, fun _ _ => rfl, fun _ => rfl⟩

theorem Went.stop (hx : x.isOk = false) (hgo : goesOn = false) (hs : m.find r.id = some s)
    (hP : P r x s) (hsame : l.SameBut r.id m) :
    Went P goesOn l (r :: rs) [(r.id, x.map (·.2))] m := by
  have hno : (x.map (·.2)).isOk = false := by cases x <;> first | rfl | cases hx
  refine ⟨⟨rs.map (·.id), rfl⟩, fun e he => ?_, fun id hid => hsame id (by simpa using hid), ?_⟩
  · rw [List.mem_singleton.1 he]
    exact ⟨r, by simp, x, s, rfl, hs, hP⟩
  · rintro (h | h)
    · simp [hgo] at h
    · simp [hno] at h

theorem Went.cons {log : Log} (hnodup : ((r :: rs).map (·.id)).Nodup) (hs : m.find r.id = some s)
    (hP : P r x s) (hsame : l.SameBut r.id m) (h : Went P goesOn m rs log n) :
    Went P goesOn l (r :: rs) ((r.id, x.map (·.2)) :: log) n := by
  rw [List.map_cons, List.nodup_cons] at hnodup
  have hnot : r.id ∉ log.map (·.1) := fun hr => hnodup.1 (h.ids.subset hr)
  refine ⟨?_, fun e he => ?_, fun id hid => ?_, fun hall => ?_⟩
  · rw [List.map_cons, List.map_cons, List.prefix_cons_inj]
    exact h.ids
  · rcases List.mem_cons.1 he with rfl | he
    · exact ⟨r, by simp, x, s, rfl, (h.others r.id hnot).trans hs, hP⟩
    · obtain ⟨r', hr', hrest⟩ := h.entries e he
      exact ⟨r', by simp [hr'], hrest⟩
  · rw [List.map_cons, List.mem_cons, not_or] at hid
    exact (h.others id hid.2).trans (hsame id hid.1)
  · rw [List.map_cons, List.map_cons, h.all (hall.imp id fun hok e he => hok e (by simp [he]))]

variable {w : Service.Trouble} {I : Ledger → Prop}

theorem track_alone {f : Record → Operation (RecordId × Outcome)}
    (hid : ∀ r id o s, P r (.ok (id, o)) s → id = r.id) (hnodup : (rs.map (·.id)).Nodup)
    (hrows : ∀ r ∈ rs, l.Has r) (hI : I l)
    (hf : ∀ r ∈ rs, ∀ l, l.Has r → I l → (f r).Meets (Service.alone w I)
      (fun x m => I m ∧ Makes l r (P r) x m) l) :
    (track f goesOn rs).Meets (Service.alone w I)
      (fun y m => I m ∧ ∃ log, y = .ok log ∧ Went P goesOn l rs log m) l := by
  induction rs generalizing l with
  | nil => exact ⟨hI, [], rfl, .nil⟩
  | cons r rs ih =>
    refine (hf r (by simp) l (hrows r (by simp)) hI).attempt_bind fun x m h => ?_
    obtain ⟨hIm, hsame, s, hs, hP⟩ := h
    have hentry : entry r x = (r.id, x.map (·.2)) :=
      entry_eq fun id o h => hid r id o s (h ▸ hP)
    simp only [hentry]
    split
    · rename_i hgo
      have hne : ∀ r' ∈ rs, r'.id ≠ r.id := fun r' hr' h =>
        (List.nodup_cons.1 hnodup).1 (List.mem_map.2 ⟨r', hr', h⟩)
      have hrest := ih (List.nodup_cons.1 hnodup).2
        (fun r' hr' => (hsame _ (hne r' hr')).trans (hrows r' (by simp [hr']))) hIm
        fun r' hr' => hf r' (by simp [hr'])
      refine hrest.bind (fun log n h => ?_) fun e n h => ?_
      · obtain ⟨hIn, log, hlog, hwent⟩ := h
        obtain rfl := Except.ok.inj hlog
        exact ⟨hIn, _, rfl, .cons hnodup hs hP hsame hwent⟩
      · obtain ⟨_, _, h, _⟩ := h
        cases h
    · rename_i hstop
      rw [Bool.or_eq_true, not_or, Bool.not_eq_true, Bool.not_eq_true] at hstop
      exact ⟨hIm, _, rfl, .stop hstop.1 hstop.2 hs hP hsame⟩

end Loop

/-- `f` for each record of a list that is asked for first, with the log and the report on it. -/
def trackList (list : Operation (List Record)) (f : Record → Operation (RecordId × Outcome))
    (goesOn : Bool) (report : Log → Except RegistrarError Report) :
    Operation (Log × Except RegistrarError Report) := do
  match ← list.attempt with
  | .error e => return ([], .error e)
  | .ok rs =>
    let log ← track f goesOn rs
    return (log, report log)

theorem bind_eq_trackList {list : Operation (List Record)} {h : List Record → Operation Report}
    {f : Record → Operation (RecordId × Outcome)} {goesOn : Bool}
    {report : Log → Except RegistrarError Report}
    (hloop : ∀ rs, h rs = track f goesOn rs >>= fun log => ofExcept (report log)) :
    list >>= h = trackList list f goesOn report >>= fun y => ofExcept y.2 := by
  rw [trackList, bind_eq_attempt, bind_assoc]
  congr 1
  funext x
  cases x with
  | error e => rfl
  | ok rs => simp only [hloop, bind_assoc, pure_eq, done_bind]

inductive Listed (w : Service.Trouble)
    (P : Record → Except RegistrarError (RecordId × Outcome) → Record → Prop) (goesOn : Bool)
    (l : Ledger) (rs : List Record) (report : Log → Except RegistrarError Report) :
    Log × Except RegistrarError Report → Ledger → Prop
  | unread {e : RegistrarError} (h : w.store) : Listed w P goesOn l rs report ([], .error e) l
  | went {log : Log} {m : Ledger} (h : Went P goesOn l rs log m) :
    Listed w P goesOn l rs report (log, report log) m

theorem trackList_alone {P : Record → Except RegistrarError (RecordId × Outcome) → Record → Prop}
    {goesOn : Bool} {l : Ledger} {rs : List Record} {w : Service.Trouble} {I : Ledger → Prop}
    {list : Operation (List Record)} {f : Record → Operation (RecordId × Outcome)}
    {report : Log → Except RegistrarError Report}
    (hlist : list.Meets (Service.alone w I)
      (fun x m => m = l ∧ (x = .ok rs ∨ ∃ e, w.store ∧ x = .error (.store e))) l)
    (hid : ∀ r id o s, P r (.ok (id, o)) s → id = r.id) (hnodup : (rs.map (·.id)).Nodup)
    (hrows : ∀ r ∈ rs, l.Has r) (hI : I l)
    (hf : ∀ r ∈ rs, ∀ l, l.Has r → I l → (f r).Meets (Service.alone w I)
      (fun x m => I m ∧ Makes l r (P r) x m) l) :
    (trackList list f goesOn report).Meets (Service.alone w I)
      (fun x m => I m ∧ ∃ y, x = .ok y ∧ Listed w P goesOn l rs report y m) l := by
  refine hlist.attempt_bind fun x m h => ?_
  obtain ⟨rfl, rfl | ⟨e, hw, rfl⟩⟩ := h
  · refine Meets.bind (track_alone hid hnodup hrows hI hf) (fun log n h => ?_) fun e n h => ?_
    · obtain ⟨hIn, log, hlog, hwent⟩ := h
      obtain rfl := Except.ok.inj hlog
      exact ⟨hIn, _, rfl, .went hwent⟩
    · obtain ⟨-, log, h, -⟩ := h
      cases h
  · exact ⟨hI, _, rfl, .unread hw⟩

variable (g : Registrar)

def trackRelease (resource : ResourceId) : Operation (Log × Except RegistrarError Report) :=
  trackList (Operation.store (.listByResource resource)) g.releaseRecord false
    fun log => log.outcomes.map .outcomes

def trackSweep : Operation (Log × Except RegistrarError Report) :=
  trackList (Operation.store (.listRetryable Status.intents))
    (fun r => do return (r.id, ← g.drive r)) true fun log => .ok (.stats log.stats)

variable {w : Service.Trouble} {I : Ledger → Prop} {l : Ledger}

/-- `I` is to hold of whatever a release makes of one row. -/
theorem trackRelease_alone (resource : ResourceId) (hI : I l)
    (hstep : ∀ r ∈ l.boundTo resource, ∀ m n s, I m → m.SameBut r.id n → n.find r.id = some s →
      r.Releasing s → I n) :
    (g.trackRelease resource).Meets (Service.alone w I)
      (fun x m => I m ∧ ∃ y, x = .ok y ∧ Listed w (Released w g) false l (l.boundTo resource)
        (fun log => log.outcomes.map .outcomes) y m) l := by
  refine trackList_alone (read_alone rfl hI)
    (fun r id o s h => h.id_eq) (l.boundTo_ids_nodup resource)
    (fun r hr => l.has_of_mem (l.mem_boundTo.1 hr).1) hI fun r hr m hm hIm => ?_
  refine (releaseRecord_alone g (fun n s => hstep r hr m n s hIm) hm).mono fun x n h => ⟨?_, h⟩
  obtain ⟨hsame, s, hs, h⟩ := h
  exact hstep r hr m n s hIm hsame hs h.releasing

theorem trackSweep_alone (hI : ∀ m, I m) : g.trackSweep.Meets (Service.alone w I)
    (fun x m => I m ∧ ∃ y, x = .ok y ∧ Listed w (Swept w g) true l (l.retryable Status.intents)
      (fun log => .ok (.stats log.stats)) y m) l :=
  trackList_alone (read_alone rfl (hI l))
    (fun r id o s h => h.1 id o rfl) (l.retryable_ids_nodup (by decide))
    (fun r hr => l.has_of_mem (l.mem_retryable.1 hr).1) (hI l) fun r _ m hm hIm =>
      (sweepRecord_alone g hIm hm fun _ _ _ => hI _).mono fun _ n h => ⟨hI n, h⟩

end Registrar

def Errand.tracked (g : Registrar) : Errand → Operation (Log × Except RegistrarError Report)
  | execute id action => do
    let x ← (g.execute id action).attempt
    return ([(id, x)], x.map .outcome)
  | release resource => g.trackRelease resource
  | sweep => g.trackSweep
  | e => do return ([], ← (e.operation g).attempt)

theorem Errand.operation_eq_tracked (g : Registrar) (e : Errand) :
    e.operation g = e.tracked g >>= fun y => ofExcept y.2 := by
  have hplain : e.operation g =
      (e.operation g).attempt >>= fun x => done (([], x) : Log × Except RegistrarError Report) >>=
        fun y => ofExcept y.2 := eq_attempt _
  cases e with
  | execute id action =>
    rw [operation, tracked, bind_eq_attempt, bind_assoc]
    congr 1
    funext x
    cases x <;> rfl
  | release resource =>
    rw [operation, Registrar.release, bind_assoc]
    refine Registrar.bind_eq_trackList fun rs => ?_
    rw [Registrar.forEach_eq_track, bind_assoc]
    refine congrArg (Registrar.track g.releaseRecord false rs >>= ·) (funext fun log => ?_)
    cases log.outcomes <;> rfl
  | sweep =>
    rw [operation, Registrar.sweep, bind_assoc]
    refine Registrar.bind_eq_trackList fun rs => ?_
    rw [Registrar.forEach_attempt_eq_track, bind_assoc, bind_assoc]
    rfl
  | _ =>
    refine hplain.trans ?_
    exact (Program.bind_assoc _ _ _).symm

theorem Errand.meets_operation {σ : Type} {S : Setting Service.interface σ} {g : Registrar}
    {e : Errand} {s : σ} {Q : Except RegistrarError Report → σ → Prop}
    (h : (e.tracked g).Meets S (fun x s => ∃ y, x = .ok y ∧ Q y.2 s) s) :
    (e.operation g).Meets S Q s := by
  rw [operation_eq_tracked]
  refine h.bind (fun y s h => ?_) fun e s h => ?_
  · obtain ⟨y, hy, h⟩ := h
    obtain rfl := Except.ok.inj hy
    obtain ⟨log, x | report⟩ := y <;> exact h
  · obtain ⟨y, hy, -⟩ := h
    cases hy

end IdentifierRegistrar
