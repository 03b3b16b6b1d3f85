/-!
Programs that talk to a service by requests. A program is a tree: it ends with a value or an
error, or it makes one request and goes on with the reply. What a run does is then a matter of
who answers: `run` threads a state through one answerer, and a statement about every reply
quantifies over the tree.
-/

namespace IdentifierRegistrar

structure Interface where
  Request : Type
  Reply : Request → Type

/-- Who answers: a reply to every request, and the state that the reply leaves. -/
abbrev Answerer (I : Interface) (σ : Type) := (q : I.Request) → σ → I.Reply q × σ

inductive Program (I : Interface) (ε : Type) (α : Type) : Type
  | done (a : α)
  | fail (e : ε)
  | ask (q : I.Request) (next : I.Reply q → Program I ε α)

namespace Program

variable {I : Interface} {ε ε' α β γ σ : Type}

def bind : Program I ε α → (α → Program I ε β) → Program I ε β
  | done a, f => f a
  | fail e, _ => fail e
  | ask q next, f => ask q fun r => (next r).bind f

instance : Monad (Program I ε) where
  pure := done
  bind := bind

def request (q : I.Request) : Program I ε (I.Reply q) := ask q done

def ofExcept : Except ε α → Program I ε α
  | .ok a => done a
  | .error e => fail e

def attempt : Program I ε α → Program I ε' (Except ε α)
  | done a => done (.ok a)
  | fail e => done (.error e)
  | ask q next => ask q fun r => (next r).attempt

def mapError (f : ε → ε') : Program I ε α → Program I ε' α
  | done a => done a
  | fail e => fail (f e)
  | ask q next => ask q fun r => (next r).mapError f

def run (answer : Answerer I σ) : Program I ε α → σ → Except ε α × σ
  | done a, s => (.ok a, s)
  | fail e, s => (.error e, s)
  | ask q next, s =>
    let (r, s) := answer q s
    (next r).run answer s

@[simp] theorem pure_eq (a : α) : (pure a : Program I ε α) = done a := rfl

@[simp] theorem done_bind (a : α) (f : α → Program I ε β) :
    (done a : Program I ε α) >>= f = f a := rfl

@[simp] theorem fail_bind (e : ε) (f : α → Program I ε β) :
    (fail e : Program I ε α) >>= f = fail e := rfl

@[simp] theorem ask_bind (q : I.Request) (next : I.Reply q → Program I ε α)
    (f : α → Program I ε β) : ask q next >>= f = ask q fun r => next r >>= f := rfl

theorem bind_done (p : Program I ε α) : p >>= done = p := by
  induction p with
  | done a => rfl
  | fail e => rfl
  | ask q next ih => rw [ask_bind]; congr 1; funext r; exact ih r

theorem bind_assoc (p : Program I ε α) (f : α → Program I ε β) (g : β → Program I ε γ) :
    p >>= f >>= g = p >>= fun a => f a >>= g := by
  induction p with
  | done a => rfl
  | fail e => rfl
  | ask q next ih => simp only [ask_bind]; congr 1; funext r; exact ih r

/-- A run of two programs in sequence is a run of the second from where the first ended. -/
theorem run_bind (answer : Answerer I σ) (p : Program I ε α) (f : α → Program I ε β) (s : σ) :
    (p >>= f).run answer s =
      match p.run answer s with
      | (.ok a, s) => (f a).run answer s
      | (.error e, s) => (.error e, s) := by
  induction p generalizing s with
  | done a => rfl
  | fail e => rfl
  | ask q next ih => exact ih _ _

end Program

end IdentifierRegistrar
