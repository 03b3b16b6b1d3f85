import IdentifierRegistrar.Program
import Mathlib.Tactic.Common

/-! What a program does whatever it is answered. A setting says which requests may be made in a
state and how a reply moves the state; a program meets a setting if every request it comes to is
allowed and every end it comes to satisfies a postcondition. Contracts compose along `bind`; they
hold of whatever a program has become on its way (`Meets.reaches`), and of a run against one answerer
and all that passes in it (`Meets.run`, `Meets.exchanges`). -/

namespace IdentifierRegistrar

structure Setting (I : Interface) (σ : Type) where
  allows : σ → I.Request → Prop
  moves : σ → (q : I.Request) → I.Reply q → σ → Prop

namespace Program

variable {I : Interface} {σ ε ε' α β : Type} {S : Setting I σ}
  {Q R : Except ε α → σ → Prop} {p : Program I ε α} {s s' : σ}

def Meets (S : Setting I σ) (Q : Except ε α → σ → Prop) : Program I ε α → σ → Prop
  | done a, s => Q (.ok a) s
  | fail e, s => Q (.error e) s
  | ask q next, s => S.allows s q ∧ ∀ r s', S.moves s q r s' → (next r).Meets S Q s'

theorem meets_ask {q : I.Request} {next : I.Reply q → Program I ε α} :
    (ask q next).Meets S Q s ↔
      S.allows s q ∧ ∀ r s', S.moves s q r s' → (next r).Meets S Q s' := Iff.rfl

theorem Meets.mono (h : p.Meets S R s) (hQ : ∀ x s, R x s → Q x s) : p.Meets S Q s := by
  induction p generalizing s with
  | done a => exact hQ _ _ h
  | fail e => exact hQ _ _ h
  | ask q next ih => exact ⟨h.1, fun r s' hm => ih r (h.2 r s' hm)⟩

theorem meets_bind {f : α → Program I ε β} {Q : Except ε β → σ → Prop} :
    (p >>= f).Meets S Q s ↔
      p.Meets S (fun x s => match x with
        | .ok a => (f a).Meets S Q s
        | .error e => Q (.error e) s) s := by
  induction p generalizing s with
  | done a => exact Iff.rfl
  | fail e => exact Iff.rfl
  | ask q next ih =>
    rw [ask_bind, meets_ask, meets_ask]
    exact and_congr_right fun _ => forall_congr' fun r => forall_congr' fun s' =>
      imp_congr_right fun _ => ih r

/-- What keeps to a setting keeps to one that allows more. -/
theorem Meets.allow {T : Setting I σ} (hallows : ∀ s q, S.allows s q → T.allows s q)
    (hmoves : T.moves = S.moves) (h : p.Meets S Q s) : p.Meets T Q s := by
  induction p generalizing s with
  | done a => exact h
  | fail e => exact h
  | ask q next ih => exact ⟨hallows s q h.1, fun r s' hm => ih r (h.2 r s' (hmoves ▸ hm))⟩

/-- The contract of a sequence: where the first ends well the second begins, and where it fails
the whole has failed. -/
theorem Meets.bind {f : α → Program I ε β} {Q : Except ε β → σ → Prop} (h : p.Meets S R s)
    (hok : ∀ a s, R (.ok a) s → (f a).Meets S Q s)
    (herror : ∀ e s, R (.error e) s → Q (.error e) s) : (p >>= f).Meets S Q s := by
  refine meets_bind.2 (h.mono fun x s hx => ?_)
  cases x with
  | ok a => exact hok a s hx
  | error e => exact herror e s hx

theorem meets_attempt {Q : Except ε' (Except ε α) → σ → Prop} :
    (p.attempt : Program I ε' (Except ε α)).Meets S Q s ↔
      p.Meets S (fun x s => Q (.ok x) s) s := by
  induction p generalizing s with
  | done a => exact Iff.rfl
  | fail e => exact Iff.rfl
  | ask q next ih =>
    rw [attempt, meets_ask, meets_ask]
    exact and_congr_right fun _ => forall_congr' fun r => forall_congr' fun s' =>
      imp_congr_right fun _ => ih r

/-- What follows an attempt follows its end, good or bad. -/
theorem Meets.attempt_bind {f : Except ε α → Program I ε' β} {Q : Except ε' β → σ → Prop}
    (h : p.Meets S R s) (hf : ∀ x s, R x s → (f x).Meets S Q s) :
    (p.attempt >>= f).Meets S Q s :=
  meets_bind.2 (meets_attempt.2 (h.mono hf))

/-- A contract holds also where states show only what is related to them, if every request stays
allowed there and every reply there is one that the related state knows. -/
theorem Meets.simulate {τ : Type} {T : Setting I τ} {rel : σ → τ → Prop} {t : τ}
    (hallows : ∀ s t q, rel s t → S.allows s q → T.allows t q)
    (hmoves : ∀ s t q x t', rel s t → S.allows s q → T.moves t q x t' →
      ∃ s', S.moves s q x s' ∧ rel s' t')
    (h : p.Meets S Q s) (hst : rel s t) : p.Meets T (fun x t => ∃ s, rel s t ∧ Q x s) t := by
  induction p generalizing s t with
  | done a => exact ⟨s, hst, h⟩
  | fail e => exact ⟨s, hst, h⟩
  | ask q next ih =>
    refine ⟨hallows s t q hst h.1, fun x t' ht => ?_⟩
    obtain ⟨s', hs, hst'⟩ := hmoves s t q x t' hst h.1 ht
    exact ih x (h.2 x s' hs) hst'

def refine {J : Interface} (handle : (q : I.Request) → Program J ε (I.Reply q)) :
    Program I ε α → Program J ε α
  | done a => done a
  | fail e => fail e
  | ask q next => handle q >>= fun r => (next r).refine handle

/-- A contract holds of a program in terms of another service, if what stands for a request that is
allowed comes to a reply that may be given to the request. -/
theorem Meets.refine {J : Interface} {τ : Type} {T : Setting J τ} {E : σ → τ → Prop}
    {handle : (q : I.Request) → Program J ε (I.Reply q)} {t : τ}
    (hhandle : ∀ s t q, E s t → S.allows s q →
      (handle q).Meets T (fun x t' => ∃ y s', x = .ok y ∧ S.moves s q y s' ∧ E s' t') t)
    (h : p.Meets S Q s) (hst : E s t) :
    (p.refine handle).Meets T (fun x t => ∃ s, E s t ∧ Q x s) t := by
  induction p generalizing s t with
  | done a => exact ⟨s, hst, h⟩
  | fail e => exact ⟨s, hst, h⟩
  | ask q next ih =>
    refine (hhandle s t q hst h.1).bind (fun x t' hx => ?_) fun e t' hx => ?_
    · obtain ⟨y, s', hy, hm, hst'⟩ := hx
      obtain rfl := Except.ok.inj hy
      exact ih x (h.2 x s' hm) hst'
    · obtain ⟨y, s', hy, -⟩ := hx
      cases hy

/-- What a program and a state have become after some requests were answered. -/
inductive Reaches (moves : σ → (q : I.Request) → I.Reply q → σ → Prop) :
    Program I ε α → σ → Program I ε α → σ → Prop
  | here {p : Program I ε α} {s : σ} : Reaches moves p s p s
  | answered {q : I.Request} {next : I.Reply q → Program I ε α} {r : I.Reply q} {s s' s'' : σ}
    {p : Program I ε α} (h : moves s q r s') (rest : Reaches moves (next r) s' p s'') :
    Reaches moves (ask q next) s p s''

theorem Meets.reaches {p' : Program I ε α} (h : p.Meets S Q s)
    (hr : Reaches S.moves p s p' s') : p'.Meets S Q s' := by
  induction hr with
  | here => exact h
  | answered hm _ ih => exact ih (h.2 _ _ hm)

/-- The state of a program on its way: one at which its next request is allowed, or its end. -/
theorem Meets.now {inv : σ → Prop} (hallows : ∀ s q, S.allows s q → inv s)
    (h : p.Meets S (fun _ s => inv s) s) : inv s := by
  cases p with
  | done a => exact h
  | fail e => exact h
  | ask q next => exact hallows s q h.1

theorem Reaches.mono {moves moves' : σ → (q : I.Request) → I.Reply q → σ → Prop}
    {p' : Program I ε α} (hmoves : ∀ s q r s', moves s q r s' → moves' s q r s')
    (h : Reaches moves p s p' s') : Reaches moves' p s p' s' := by
  induction h with
  | here => exact .here
  | answered hm _ ih => exact .answered (hmoves _ _ _ _ hm) ih

/-- What holds of every move holds of all of them together. -/
theorem Reaches.related {moves : σ → (q : I.Request) → I.Reply q → σ → Prop} {p' : Program I ε α}
    {R : σ → σ → Prop} (hrefl : ∀ s, R s s) (htrans : ∀ {s s' s''}, R s s' → R s' s'' → R s s'')
    (hmoves : ∀ s q r s', moves s q r s' → R s s') (h : Reaches moves p s p' s') : R s s' := by
  induction h with
  | here => exact hrefl _
  | answered hm _ ih => exact htrans (hmoves _ _ _ _ hm) ih

theorem reaches_run {τ : Type} {answer : Answerer I (σ × τ)}
    {moves : σ → (q : I.Request) → I.Reply q → σ → Prop}
    (h : ∀ q s, moves s.1 q (answer q s).1 (answer q s).2.1) (p : Program I ε α) (s : σ × τ) :
    Reaches moves p s.1 (ofExcept (p.run answer s).1) (p.run answer s).2.1 := by
  induction p generalizing s with
  | done a => exact .here
  | fail e => exact .here
  | ask q next ih => exact .answered (h q s) (ih _ _)

/-- The same for an answerer that knows only the requests that a contract allows. -/
theorem Meets.reaches_run {τ : Type} {answer : Answerer I (σ × τ)} {s : σ × τ} (h : p.Meets S Q s.1)
    (hanswer : ∀ q s, S.allows s.1 q → S.moves s.1 q (answer q s).1 (answer q s).2.1) :
    Reaches S.moves p s.1 (ofExcept (p.run answer s).1) (p.run answer s).2.1 := by
  induction p generalizing s with
  | done a => exact .here
  | fail e => exact .here
  | ask q next ih =>
    have hmoves := hanswer q s h.1
    exact .answered hmoves (ih _ (h.2 _ _ hmoves))

/-- What a contract says of the run against an answerer. -/
theorem Meets.run {τ : Type} {answer : Answerer I (σ × τ)} {s : σ × τ} (h : p.Meets S Q s.1)
    (hanswer : ∀ q s, S.moves s.1 q (answer q s).1 (answer q s).2.1) :
    Q (p.run answer s).1 (p.run answer s).2.1 := by
  induction p generalizing s with
  | done a => exact h
  | fail e => exact h
  | ask q next ih => exact ih _ (h.2 _ _ (hanswer q s))

def exchanges (answer : Answerer I σ) : Program I ε α → σ → List ((q : I.Request) × I.Reply q)
  | done _, _ => []
  | fail _, _ => []
  | ask q next, s =>
    ⟨q, (answer q s).1⟩ :: (next (answer q s).1).exchanges answer (answer q s).2

theorem exchanges_bind (answer : Answerer I σ) (p : Program I ε α) (f : α → Program I ε β) (s : σ) :
    (p >>= f).exchanges answer s = p.exchanges answer s ++
      match p.run answer s with
      | (.ok a, s) => (f a).exchanges answer s
      | (.error _, _) => [] := by
  induction p generalizing s with
  | done a => rfl
  | fail e => rfl
  | ask q next ih => exact congrArg (_ :: ·) (ih _ _)

theorem run_attempt (answer : Answerer I σ) (p : Program I ε α) (s : σ) :
    (p.attempt : Program I ε' (Except ε α)).run answer s =
      (.ok (p.run answer s).1, (p.run answer s).2) := by
  induction p generalizing s with
  | done a => rfl
  | fail e => rfl
  | ask q next ih => exact ih _ _

theorem exchanges_attempt (answer : Answerer I σ) (p : Program I ε α) (s : σ) :
    (p.attempt : Program I ε' (Except ε α)).exchanges answer s = p.exchanges answer s := by
  induction p generalizing s with
  | done a => rfl
  | fail e => rfl
  | ask q next ih => exact congrArg (_ :: ·) (ih _ _)

/-- What a contract that keeps no account says of a run against an answerer that knows the requests it
allows: of every exchange, and of the end. -/
theorem Meets.exchanges {S : Setting I Unit} {Q : Except ε α → Unit → Prop} {answer : Answerer I σ}
    (h : p.Meets S Q ()) (hanswer : ∀ q s, S.allows () q → S.moves () q (answer q s).1 ()) (s : σ) :
    (∀ y ∈ p.exchanges answer s, S.allows () y.1 ∧ S.moves () y.1 y.2 ()) ∧
      Q (p.run answer s).1 () := by
  induction p generalizing s with
  | done a => exact ⟨by simp [Program.exchanges], h⟩
  | fail e => exact ⟨by simp [Program.exchanges], h⟩
  | ask q next ih =>
    have hmoves := hanswer q s h.1
    obtain ⟨hrest, hend⟩ := ih _ (h.2 _ () hmoves) (answer q s).2
    refine ⟨fun y hy => ?_, hend⟩
    rcases List.mem_cons.1 hy with rfl | hy
    · exact ⟨h.1, hmoves⟩
    · exact hrest y hy

end Program

end IdentifierRegistrar
