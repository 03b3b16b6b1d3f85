import IdentifierRegistrar.Proofs.Operation.Custody

/-! Runs of any number of operations over one store: from the empty store, or from a store that held
rows before. At each step one operation has one request answered, sends one out, or begins; so calls
to the store come one after the other, and between two calls of one operation the others may do
anything. An operation that is never answered again has been stopped. -/

namespace IdentifierRegistrar

open Service Operation

/-- An operation under way: what it is to do, what it was answered so far, what is left of it, and
whether the request it has come to was sent out and is waited for. -/
structure Ongoing where
  errand : Errand
  past : List Exchange
  rest : Operation Report
  waits : Bool

namespace Ongoing

def ends? (p : Ongoing) : Option (Except RegistrarError Report) :=
  match p.rest with
  | .done a => some (.ok a)
  | .fail e => some (.error e)
  | .ask _ _ => none

theorem rest_eq_done {p : Ongoing} {a : Report} (h : p.ends? = some (.ok a)) : p.rest = .done a := by
  unfold ends? at h
  split at h
  · cases h
    assumption
  · cases h
  · cases h

variable (g : Registrar)

def begin (e : Errand) : Ongoing := ⟨e, [], e.operation g, false⟩

def send (p : Ongoing) : Ongoing := { p with waits := true }

def receive (p : Ongoing) (x : Exchange) (rest : Operation Report) : Ongoing :=
  ⟨p.errand, p.past ++ [x], rest, false⟩

end Ongoing

structure Moment where
  table : Table
  ongoing : List Ongoing

inductive Event
  | idle
  | start (e : Errand)
  | issue (i : Nat) (q : Request)
  | answer (i : Nat) (x : Exchange)

/-- One step. The store answers from the table or fails; everyone else answers at will. What leaves
the process is sent out first and answered later. -/
inductive Step (g : Registrar) : Moment → Event → Moment → Prop
  | idle (s : Moment) : Step g s .idle s
  | start (s : Moment) (e : Errand) :
    Step g s (.start e) ⟨s.table, s.ongoing ++ [.begin g e]⟩
  | issue {s : Moment} {i : Nat} {p : Ongoing} {q : Request} {next : Reply q → Operation Report}
    (hp : s.ongoing[i]? = some p) (hrest : p.rest = .ask q next) (hwaits : p.waits = false)
    (hq : q.isRemote) : Step g s (.issue i q) ⟨s.table, s.ongoing.set i p.send⟩
  | answer {s : Moment} {i : Nat} {p : Ongoing} {q : Request} {next : Reply q → Operation Report}
    {r : Reply q} {t : Table} (hp : s.ongoing[i]? = some p) (hrest : p.rest = .ask q next)
    (hwaits : p.waits = q.isRemote) (hr : Answers s.table q r t ∨ Fails s.table q r t) :
    Step g s (.answer i ⟨q, r⟩) ⟨t, s.ongoing.set i (p.receive ⟨q, r⟩ (next r))⟩

/-- Any number of operations that begin while others are under way, in a store as it is. -/
structure Stretch (g : Registrar) where
  moment : Nat → Moment
  event : Nat → Event
  fresh : (moment 0).ongoing = []
  step : ∀ t, Step g (moment t) (event t) (moment (t + 1))

/-- A run from the empty store. After its last step a finite run is idle. -/
structure Run (g : Registrar) where
  moment : Nat → Moment
  event : Nat → Event
  initial : moment 0 = ⟨[], []⟩
  step : ∀ t, Step g (moment t) (event t) (moment (t + 1))

section Steps

variable {g : Registrar} {s s' : Moment} {ev : Event} {i : Nat} {p : Ongoing}

inductive Ongoing.Origin (g : Registrar) (s : Moment) (ev : Event) (i : Nat) : Ongoing → Prop
  | begun {e : Errand} (hev : ev = .start e) : Origin g s ev i (.begin g e)
  | kept {p : Ongoing} (hp : s.ongoing[i]? = some p) : Origin g s ev i p
  | sent {p : Ongoing} {q : Request} {next : Reply q → Operation Report} (hev : ev = .issue i q)
    (hp : s.ongoing[i]? = some p) (hrest : p.rest = .ask q next) : Origin g s ev i p.send
  | received {p : Ongoing} {q : Request} {next : Reply q → Operation Report} {r : Reply q}
    (hev : ev = .answer i ⟨q, r⟩) (hp : s.ongoing[i]? = some p) (hrest : p.rest = .ask q next)
    (hwaits : p.waits = q.isRemote) : Origin g s ev i (p.receive ⟨q, r⟩ (next r))

theorem getElem?_set_cases {ps : List Ongoing} {j : Nat} {p' : Ongoing}
    (h : (ps.set j p')[i]? = some p) : j = i ∧ p = p' ∨ ps[i]? = some p := by
  rw [List.getElem?_set] at h
  split at h
  · rename_i hj
    split at h
    · exact .inl ⟨hj, (Option.some.inj h).symm⟩
    · simp at h
  · exact .inr h

theorem Step.origin (h : Step g s ev s') (hp : s'.ongoing[i]? = some p) :
    Ongoing.Origin g s ev i p := by
  cases h with
  | idle => exact .kept hp
  | start e =>
    rw [List.getElem?_append] at hp
    split at hp
    · exact .kept hp
    · obtain rfl := List.mem_singleton.1 (List.mem_of_getElem? hp)
      exact .begun rfl
  | issue hp' hrest _ _ =>
    rcases getElem?_set_cases hp with ⟨rfl, rfl⟩ | hp
    · exact .sent rfl hp' hrest
    · exact .kept hp
  | answer hp' hrest hwaits _ =>
    rcases getElem?_set_cases hp with ⟨rfl, rfl⟩ | hp
    · exact .received rfl hp' hrest hwaits
    · exact .kept hp

theorem Step.forward (h : Step g s ev s') (hp : s.ongoing[i]? = some p) :
    ∃ p', s'.ongoing[i]? = some p' ∧ p'.errand = p.errand ∧ p.past <+: p'.past := by
  have hset {j : Nat} {p₀ p' : Ongoing} (hj : s.ongoing[j]? = some p₀)
      (herrand : p'.errand = p₀.errand) (hpast : p₀.past <+: p'.past) :
      ∃ p'', (s.ongoing.set j p')[i]? = some p'' ∧ p''.errand = p.errand ∧ p.past <+: p''.past := by
    rw [List.getElem?_set]
    by_cases hji : j = i
    · subst hji
      obtain rfl := Option.some.inj (hj.symm.trans hp)
      rw [if_pos rfl, if_pos (List.getElem?_eq_some_iff.1 hp).1]
      exact ⟨p', rfl, herrand, hpast⟩
    · rw [if_neg hji]
      exact ⟨p, hp, rfl, List.prefix_refl _⟩
  cases h with
  | idle => exact ⟨p, hp, rfl, List.prefix_refl _⟩
  | start e =>
    rw [List.getElem?_append_left (List.getElem?_eq_some_iff.1 hp).1]
    exact ⟨p, hp, rfl, List.prefix_refl _⟩
  | issue hj _ _ _ => exact hset hj rfl (List.prefix_refl _)
  | answer hj _ _ _ => exact hset hj rfl (List.prefix_append _ _)

end Steps

namespace Stretch

variable {g : Registrar} (x : Stretch g)

theorem origin {t i : Nat} {p : Ongoing} (h : (x.moment (t + 1)).ongoing[i]? = some p) :
    Ongoing.Origin g (x.moment t) (x.event t) i p := (x.step t).origin h

theorem ongoing_zero {i : Nat} : (x.moment 0).ongoing[i]? = none := by rw [x.fresh]; rfl

theorem forward {t u i : Nat} {p : Ongoing} (h : (x.moment t).ongoing[i]? = some p) (htu : t ≤ u) :
    ∃ p', (x.moment u).ongoing[i]? = some p' ∧ p'.errand = p.errand ∧ p.past <+: p'.past := by
  induction htu with
  | refl => exact ⟨p, h, rfl, List.prefix_refl _⟩
  | @step u _ ih =>
    obtain ⟨p', hp', herrand, hpast⟩ := ih
    obtain ⟨p'', hp'', herrand', hpast'⟩ := (x.step u).forward hp'
    exact ⟨p'', hp'', herrand'.trans herrand, hpast.trans hpast'⟩

/-- An operation goes on with its errand. -/
theorem errand_eq {t u i : Nat} {p p' : Ongoing} (htu : t ≤ u)
    (hp : (x.moment t).ongoing[i]? = some p) (hp' : (x.moment u).ongoing[i]? = some p') :
    p.errand = p'.errand := by
  obtain ⟨p'', hp'', herrand, -⟩ := x.forward hp htu
  obtain rfl := Option.some.inj (hp''.symm.trans hp')
  exact herrand.symm

theorem started {t i : Nat} {p : Ongoing} (h : (x.moment t).ongoing[i]? = some p) :
    ∃ u, x.event u = .start p.errand := by
  induction t generalizing p with
  | zero => simp [x.ongoing_zero] at h
  | succ t ih =>
    cases x.origin h with
    | begun hev => exact ⟨t, hev⟩
    | kept hp => exact ih hp
    | @sent p₀ _ _ _ hp _ => exact ih (p := p₀) hp
    | @received p₀ _ _ _ _ hp _ _ => exact ih (p := p₀) hp

/-- What an operation keeps to from its beginning, whatever is left of it keeps to. -/
theorem rest_meets_of {S : Setting interface (List Exchange)}
    {Q : Except RegistrarError Report → List Exchange → Prop} {e : Errand}
    (he : (e.operation g).Meets S Q [])
    (hmoves : ∀ {t i : Nat} {q : Request} {r : Reply q} (past : List Exchange),
      x.event t = .answer i ⟨q, r⟩ → S.moves past q r (past ++ [⟨q, r⟩]))
    {t i : Nat} {p : Ongoing} (h : (x.moment t).ongoing[i]? = some p) (hp : p.errand = e) :
    p.rest.Meets S Q p.past := by
  induction t generalizing i p with
  | zero => simp [x.ongoing_zero] at h
  | succ t ih =>
    cases x.origin h with
    | begun _ =>
      subst hp
      exact he
    | kept hp' => exact ih hp' hp
    | @sent p' _ _ _ hp' _ => exact ih (p := p') hp' hp
    | @received p' q _ r hev hp' hrest _ =>
      have hmeets := ih (p := p') hp' hp
      rw [hrest] at hmeets
      exact hmeets.2 _ _ (hmoves p'.past hev)

theorem answered {t i : Nat} {p : Ongoing} (h : (x.moment t).ongoing[i]? = some p)
    {pre post : List Exchange} {y : Exchange} (hy : p.past = pre ++ y :: post) :
    ∃ u < t, x.event u = .answer i y ∧
      ∃ p₀, (x.moment u).ongoing[i]? = some p₀ ∧ p₀.past = pre ∧ p₀.waits = y.1.isRemote ∧
        ∃ next, p₀.rest = .ask y.1 next := by
  induction t generalizing p post with
  | zero => simp [x.ongoing_zero] at h
  | succ t ih =>
    have hkeep : ∀ {p₀ : Ongoing} {post}, (x.moment t).ongoing[i]? = some p₀ →
        p₀.past = pre ++ y :: post → ∃ u < t + 1, x.event u = .answer i y ∧
          ∃ p₀, (x.moment u).ongoing[i]? = some p₀ ∧ p₀.past = pre ∧ p₀.waits = y.1.isRemote ∧
            ∃ next, p₀.rest = .ask y.1 next := fun hp hy => by
      obtain ⟨u, hu, h⟩ := ih hp hy
      exact ⟨u, by omega, h⟩
    cases x.origin h with
    | begun _ => exact absurd hy (by simp [Ongoing.begin])
    | kept hp => exact hkeep hp hy
    | sent _ hp _ => exact hkeep hp hy
    | @received p₀ q next r hev hp hrest hwaits =>
      -- The last exchange is that of this step, all others are older.
      rcases List.eq_nil_or_concat post with rfl | ⟨post, z, rfl⟩
      · obtain ⟨hpre, hlast⟩ := List.append_inj' (show p₀.past ++ [⟨q, r⟩] = pre ++ [y] from hy) rfl
        obtain rfl := (List.cons.inj hlast).1
        exact ⟨t, by omega, hev, p₀, hp, hpre, hwaits, next, hrest⟩
      · have hsnoc : p₀.past ++ [⟨q, r⟩] = pre ++ y :: post.concat z := hy
        rw [List.concat_eq_append, ← List.cons_append, ← List.append_assoc] at hsnoc
        exact hkeep hp (List.append_inj' hsnoc rfl).1

/-- An operation forgets no answer. -/
theorem answer_mem_past {t u i : Nat} {y : Exchange} {p : Ongoing} (h : x.event u = .answer i y)
    (hut : u < t) (hp : (x.moment t).ongoing[i]? = some p) : y ∈ p.past := by
  have hnext : ∃ p', (x.moment (u + 1)).ongoing[i]? = some p' ∧ y ∈ p'.past := by
    have hstep := x.step u
    rw [h] at hstep
    generalize x.moment (u + 1) = s' at hstep
    cases hstep with
    | @answer _ p₀ q next r _ hp₀ _ _ _ =>
      refine ⟨p₀.receive ⟨q, r⟩ (next r), ?_, by simp [Ongoing.receive]⟩
      rw [List.getElem?_set_self (List.getElem?_eq_some_iff.1 hp₀).1]
  obtain ⟨p', hp', hy⟩ := hnext
  obtain ⟨p'', hp'', -, hgrows⟩ := x.forward hp' hut
  obtain rfl := Option.some.inj (hp''.symm.trans hp)
  exact hgrows.subset hy

theorem issued {t i : Nat} {p : Ongoing} (h : (x.moment t).ongoing[i]? = some p)
    (hwaits : p.waits = true) {q : Request} {next : Reply q → Operation Report}
    (hrest : p.rest = .ask q next) :
    ∃ u < t, x.event u = .issue i q ∧
      ∃ p₀, (x.moment u).ongoing[i]? = some p₀ ∧ p₀.past = p.past := by
  induction t generalizing p with
  | zero => simp [x.ongoing_zero] at h
  | succ t ih =>
    cases x.origin h with
    | begun _ => cases hwaits
    | kept hp =>
      obtain ⟨u, hu, h⟩ := ih hp hwaits hrest
      exact ⟨u, by omega, h⟩
    | @sent p₀ q' next' hev hp hrest' =>
      have hsame : (Program.ask q next : Operation Report) = .ask q' next' :=
        hrest.symm.trans hrest'
      cases hsame
      exact ⟨t, by omega, hev, p₀, hp, rfl⟩
    | received => cases hwaits

theorem rest_supervised {t i : Nat} {p : Ongoing} (h : (x.moment t).ongoing[i]? = some p) :
    p.rest.Meets (supervised p.errand.licence) (Goes []) p.past :=
  x.rest_meets_of (p.errand.operation_supervised g) (fun _ _ => rfl) h rfl

/-- Whatever is answered had been asked, and waited for if it is remote. -/
theorem asked {t i : Nat} {q : Request} {r : Reply q} (h : x.event t = .answer i ⟨q, r⟩) :
    (∃ p next, (x.moment t).ongoing[i]? = some p ∧ p.rest = .ask q next ∧ p.waits = q.isRemote) ∧
      (Answers (x.moment t).table q r (x.moment (t + 1)).table ∨
        Fails (x.moment t).table q r (x.moment (t + 1)).table) := by
  have hstep := x.step t
  rw [h] at hstep
  generalize x.moment (t + 1) = s' at hstep ⊢
  cases hstep with
  | answer hp hrest hwaits hr => exact ⟨⟨_, _, hp, hrest, hwaits⟩, hr⟩

/-- It had been allowed, by whatever the operation keeps to. -/
theorem allows_of_answer {S : Setting interface (List Exchange)}
    {Q : Except RegistrarError Report → List Exchange → Prop} {t i : Nat} {q : Request} {r : Reply q}
    (h : x.event t = .answer i ⟨q, r⟩) {p : Ongoing} (hp : (x.moment t).ongoing[i]? = some p)
    (hmeets : p.rest.Meets S Q p.past) : S.allows p.past q := by
  obtain ⟨⟨p', next, hp', hrest, -⟩, -⟩ := x.asked h
  obtain rfl := Option.some.inj (hp'.symm.trans hp)
  rw [hrest] at hmeets
  exact hmeets.1

/-- The operation was licensed to ask. -/
theorem licensed_of_answer {t i : Nat} {q : Request} {r : Reply q}
    (h : x.event t = .answer i ⟨q, r⟩) : ∃ p, (x.moment t).ongoing[i]? = some p ∧
      p.waits = q.isRemote ∧ Licensed p.errand.licence p.past q := by
  obtain ⟨⟨p, -, hp, -, hwaits⟩, -⟩ := x.asked h
  exact ⟨p, hp, hwaits, x.allows_of_answer h hp (x.rest_supervised hp)⟩

end Stretch

namespace Run

variable {g : Registrar} (x : Run g)

def stretch : Stretch g := ⟨x.moment, x.event, by rw [x.initial], x.step⟩

theorem exists_ledger (t : Nat) : ∃ l : Ledger, (x.moment t).table = l.table := by
  induction t with
  | zero => exact ⟨.empty, by rw [x.initial]; rfl⟩
  | succ t ih =>
    obtain ⟨l, hl⟩ := ih
    have h := x.step t
    generalize x.event t = ev at h
    generalize x.moment (t + 1) = s' at h ⊢
    cases h with
    | idle => exact ⟨l, hl⟩
    | start => exact ⟨l, hl⟩
    | issue => exact ⟨l, hl⟩
    | answer _ _ _ hr =>
      rcases hr with hr | hr
      · exact (hl ▸ hr).ledger
      · exact ⟨l, hr.same.trans hl⟩

noncomputable def ledger (t : Nat) : Ledger := Classical.choose (x.exists_ledger t)

theorem table_eq (t : Nat) : (x.moment t).table = (x.ledger t).table :=
  Classical.choose_spec (x.exists_ledger t)

theorem ledger_zero : x.ledger 0 = .empty := by
  apply Ledger.table_injective
  rw [← x.table_eq, x.initial]
  rfl

/-- What the store answers is what the ledger says, and leaves the next ledger. -/
theorem ledger_answers {t i : Nat} {call : Store.Call} {a : call.Result}
    (h : x.event t = .answer i ⟨.store call, .ok a⟩) :
    (x.ledger t).Answers call (.ok a) (x.ledger (t + 1)) := by
  have hstep := x.step t
  rw [h] at hstep
  generalize hs : x.moment (t + 1) = s' at hstep
  cases hstep with
  | answer _ _ _ hr =>
    have htable := x.table_eq (t + 1)
    rw [hs] at htable
    obtain rfl := htable
    rw [x.table_eq t] at hr
    rcases hr with hr | ⟨⟨e, he⟩, _⟩
    · exact hr.store
    · cases he

theorem ledger_succ (t : Nat) : x.ledger (t + 1) = x.ledger t ∨
    ∃ i call a, x.event t = .answer i ⟨.store call, .ok a⟩ := by
  have hsame : (x.moment (t + 1)).table = (x.moment t).table → x.ledger (t + 1) = x.ledger t := by
    rw [x.table_eq, x.table_eq]
    exact Ledger.table_injective
  have hstep := x.step t
  generalize x.event t = ev at hstep
  generalize hs : x.moment (t + 1) = s' at hstep hsame
  cases hstep with
  | idle => exact .inl (hsame rfl)
  | start => exact .inl (hsame rfl)
  | issue => exact .inl (hsame rfl)
  | @answer i p q next r table _ _ _ hr =>
    rcases hr with hr | hr
    · have htable := x.table_eq (t + 1)
      rw [hs] at htable
      obtain rfl := htable
      rw [x.table_eq t] at hr
      cases q with
      | store call =>
        cases r with
        | ok a => exact .inr ⟨i, call, a, rfl⟩
        | error e => exact .inl hr.store.of_error
      | lookup _ => exact .inl (hr.other (by simp))
      | agency _ _ => exact .inl (hr.other (by simp))
      | freshId => exact .inl (hr.other (by simp))
      | now => exact .inl (hr.other (by simp))
    · exact .inl (hsame hr.same)

theorem rest_meets_of {S : Setting interface (List Exchange)}
    {Q : Except RegistrarError Report → List Exchange → Prop} {e : Errand}
    (he : (e.operation g).Meets S Q [])
    (hmoves : ∀ {t i : Nat} {q : Request} {r : Reply q} (past : List Exchange),
      x.event t = .answer i ⟨q, r⟩ → S.moves past q r (past ++ [⟨q, r⟩]))
    {t i : Nat} {p : Ongoing} (h : (x.moment t).ongoing[i]? = some p) (hp : p.errand = e) :
    p.rest.Meets S Q p.past := x.stretch.rest_meets_of he hmoves h hp

theorem rest_meets {t i : Nat} {p : Ongoing} (h : (x.moment t).ongoing[i]? = some p) :
    p.rest.Meets custody (Goes []) p.past :=
  x.rest_meets_of (p.errand.operation_meets g) (fun _ _ => rfl) h rfl

/-- Whatever is answered was lawful to ask, and waited for if it is remote. -/
theorem lawful_of_answer {t i : Nat} {q : Request} {r : Reply q}
    (h : x.event t = .answer i ⟨q, r⟩) : ∃ p, (x.moment t).ongoing[i]? = some p ∧
      p.waits = q.isRemote ∧ Lawful p.past q := by
  obtain ⟨p, hp, hwaits, hlicensed⟩ := x.stretch.licensed_of_answer h
  exact ⟨p, hp, hwaits, hlicensed.lawful⟩

theorem lawful_of_issue {t i : Nat} {q : Request} (h : x.event t = .issue i q) :
    ∃ p, (x.moment t).ongoing[i]? = some p ∧ Lawful p.past q := by
  have hstep := x.step t
  rw [h] at hstep
  generalize x.moment (t + 1) = s' at hstep
  cases hstep with
  | @issue _ p _ _ hp hrest _ _ =>
    have hmeets := x.rest_meets hp
    rw [hrest] at hmeets
    exact ⟨p, hp, hmeets.1⟩

theorem answered {t i : Nat} {p : Ongoing} (h : (x.moment t).ongoing[i]? = some p)
    {pre post : List Exchange} {y : Exchange} (hy : p.past = pre ++ y :: post) :
    ∃ u < t, x.event u = .answer i y ∧
      ∃ p₀, (x.moment u).ongoing[i]? = some p₀ ∧ p₀.past = pre ∧ p₀.waits = y.1.isRemote ∧
        ∃ next, p₀.rest = .ask y.1 next := x.stretch.answered h hy

theorem answer_mem_past {t u i : Nat} {y : Exchange} {p : Ongoing} (h : x.event u = .answer i y)
    (hut : u < t) (hp : (x.moment t).ongoing[i]? = some p) : y ∈ p.past :=
  x.stretch.answer_mem_past h hut hp

theorem issued {t i : Nat} {p : Ongoing} (h : (x.moment t).ongoing[i]? = some p)
    (hwaits : p.waits = true) {q : Request} {next : Reply q → Operation Report}
    (hrest : p.rest = .ask q next) :
    ∃ u < t, x.event u = .issue i q ∧
      ∃ p₀, (x.moment u).ongoing[i]? = some p₀ ∧ p₀.past = p.past := x.stretch.issued h hwaits hrest

/-- A record that an operation holds was handed to it at an earlier time. -/
theorem handed_before {t i : Nat} {p : Ongoing} {r : Record}
    (h : (x.moment t).ongoing[i]? = some p) (hr : r ∈ handed p.past) :
    ∃ u < t, ∃ y, x.event u = .answer i y ∧ r ∈ handedBy y.1 y.2 := by
  obtain ⟨pre, y, post, hpast, hy⟩ := mem_handed_iff.1 hr
  obtain ⟨u, hu, hev, -⟩ := x.answered h hpast
  exact ⟨u, hu, y, hev, hy⟩

end Run

end IdentifierRegistrar
