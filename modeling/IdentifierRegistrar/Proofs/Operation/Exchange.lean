import IdentifierRegistrar.Proofs.Store.LedgerWrites
import IdentifierRegistrar.Registrar.Services

/-! A request of an operation together with its reply, and what the world may reply. The store
answers from its table; the directory, the agencies, the clock and the source of ids may answer
anything and do not touch the table. A record is handed to an operation by a reply of the store. -/

namespace IdentifierRegistrar.Service

abbrev Exchange := (q : Request) × Reply q

/-- Requests that leave the process, and are waited for. -/
def Request.isRemote : Request → Bool
  | .lookup _ | .agency _ _ => true
  | .store _ | .freshId | .now => false

/-- The reply that the world may give to a request, and the table after it. -/
def Answers (t : Table) : (q : Request) → Reply q → Table → Prop
  | .store call, r, t' => Store.answer t call = (r, t')
  | .lookup _, _, t' | .agency _ _, _, t' | .freshId, _, t' | .now, _, t' => t' = t

/-- A call to the store that comes to nothing: the database fails. -/
def Fails (t : Table) : (q : Request) → Reply q → Table → Prop
  | .store _, r, t' => (∃ e, r = .error e) ∧ t' = t
  | .lookup _, _, _ | .agency _ _, _, _ | .freshId, _, _ | .now, _, _ => False

def handedBy : (q : Request) → Reply q → List Record
  | .store (.get _), .ok r | .store (.findByValue _), .ok r | .store (.findLive _ _), .ok r =>
    Option.toList r
  | .store (.listByResource _), .ok rs | .store (.listRetryable _), .ok rs => rs
  | .store (.update _), .ok r => [r]
  | _, _ => []

def handed (past : List Exchange) : List Record := past.flatMap fun x => handedBy x.1 x.2

theorem handed_append (past more : List Exchange) :
    handed (past ++ more) = handed past ++ handed more := List.flatMap_append

theorem mem_handed_snoc {past : List Exchange} {q : Request} {x : Reply q} {r : Record} :
    r ∈ handed (past ++ [⟨q, x⟩]) ↔ r ∈ handed past ∨ r ∈ handedBy q x := by
  rw [handed_append, List.mem_append]
  exact or_congr_right (by simp [handed])

theorem mem_handed_last {past : List Exchange} {q : Request} {x : Reply q} {r : Record}
    (hr : r ∈ handedBy q x) : r ∈ handed (past ++ [⟨q, x⟩]) :=
  mem_handed_snoc.2 (.inr hr)

theorem mem_handed_later {past later : List Exchange} (h : past <+: later) {r : Record}
    (hr : r ∈ handed past) : r ∈ handed later := by
  obtain ⟨more, rfl⟩ := h
  rw [handed_append]
  exact List.mem_append_left _ hr

theorem mem_handed_iff {past : List Exchange} {r : Record} :
    r ∈ handed past ↔ ∃ pre x post, past = pre ++ x :: post ∧ r ∈ handedBy x.1 x.2 := by
  constructor
  · intro h
    obtain ⟨x, hx, hr⟩ := List.mem_flatMap.1 h
    obtain ⟨pre, post, rfl⟩ := List.append_of_mem hx
    exact ⟨pre, x, post, rfl, hr⟩
  · rintro ⟨pre, x, post, rfl, hr⟩
    exact List.mem_flatMap.2 ⟨x, by simp, hr⟩

/-- Whatever is answered, a ledger's table becomes a ledger's table; the store answers as the
ledger says. -/
theorem Answers.ledger {l : Ledger} {q : Request} {r : Reply q} {t : Table}
    (h : Answers l.table q r t) : ∃ m : Ledger, t = m.table := by
  cases q with
  | store call =>
    obtain ⟨reply, m, hm, -⟩ := l.answer_table call
    exact ⟨m, congrArg Prod.snd (h.symm.trans hm)⟩
  | lookup resource => exact ⟨l, h⟩
  | agency scheme call => exact ⟨l, h⟩
  | freshId => exact ⟨l, h⟩
  | now => exact ⟨l, h⟩

theorem Answers.store {l m : Ledger} {call : Store.Call} {r : Reply (.store call)}
    (h : Answers l.table (.store call) r m.table) : l.Answers call r m := by
  obtain ⟨reply, m', hm, ha⟩ := l.answer_table call
  have heq := h.symm.trans hm
  obtain rfl : r = reply := congrArg Prod.fst heq
  obtain rfl : m = m' := Ledger.table_injective (congrArg Prod.snd heq)
  exact ha

theorem Answers.other {l m : Ledger} {q : Request} {r : Reply q}
    (hq : ∀ call, q ≠ .store call) (h : Answers l.table q r m.table) : m = l := by
  cases q with
  | store call => exact absurd rfl (hq call)
  | lookup resource => exact Ledger.table_injective h
  | agency scheme call => exact Ledger.table_injective h
  | freshId => exact Ledger.table_injective h
  | now => exact Ledger.table_injective h

theorem Fails.same {t t' : Table} {q : Request} {r : Reply q} (h : Fails t q r t') : t' = t := by
  cases q with
  | store call => exact h.2
  | lookup resource => exact h.elim
  | agency scheme call => exact h.elim
  | freshId => exact h.elim
  | now => exact h.elim

theorem store_of_mem_handedBy {y : Exchange} {r : Record} (h : r ∈ handedBy y.1 y.2) :
    ∃ (call : Store.Call) (a : call.Result), y = ⟨.store call, .ok a⟩ := by
  obtain ⟨q, reply⟩ := y
  cases q with
  | store call =>
    cases reply with
    | ok a => exact ⟨call, a, rfl⟩
    | error e => cases call <;> cases h
  | _ => cases h

/-- A record that the store hands over stands in the ledger, or was written just now. -/
theorem mem_handedBy {l m : Ledger} {call : Store.Call} {a : call.Result} {r : Record}
    (h : l.Answers call (.ok a) m) (hr : r ∈ handedBy (.store call) (.ok a)) :
    (r ∈ l.records ∧ m = l) ∨ ∃ d, call = .update d ∧
      r = d.next := by
  cases h with
  | get id => exact .inl ⟨Ledger.mem_of_find (Option.mem_toList.1 hr), rfl⟩
  | findByValue v => exact .inl ⟨List.mem_of_find?_eq_some (Option.mem_toList.1 hr), rfl⟩
  | findLive resource scheme =>
    exact .inl ⟨l.mem_of_liveOf (List.mem_of_mem_head? (Option.mem_toList.1 hr)), rfl⟩
  | listByResource resource => exact .inl ⟨(l.mem_boundTo.1 hr).1, rfl⟩
  | listRetryable statuses => exact .inl ⟨(l.mem_retryable.1 hr).1, rfl⟩
  | inserted _ => cases hr
  | @updated d _ _ _ _ _ => exact .inr ⟨d, rfl, List.mem_singleton.1 hr⟩

end IdentifierRegistrar.Service

namespace IdentifierRegistrar

open Service Operation

/-- A call to the store that succeeds. -/
theorem Surroundings.run_store {σ : Type} (w : Surroundings σ) {call : Store.Call} {a : call.Result}
    {t t' : Table} {x : σ} (h : Store.answer t call = (.ok a, t')) :
    (Operation.store call).run w.answer (t, x) = (.ok a, (t', x)) := by
  have hreply : w.answer (.store call) (t, x) = (.ok a, (t', x)) := by
    change ((Store.answer t call).1, ((Store.answer t call).2, x)) = _
    rw [h]
    rfl
  have hrequest : (request (.store call)).run w.answer (t, x) =
      ((.ok (.ok a), (t', x)) : Except RegistrarError (Except StoreError call.Result) × Table × σ) := by
    change (Except.ok (w.answer (.store call) (t, x)).1, (w.answer (.store call) (t, x)).2) = _
    rw [hreply]
    rfl
  rw [Operation.store, Program.run_bind, hrequest]
  rfl

end IdentifierRegistrar
