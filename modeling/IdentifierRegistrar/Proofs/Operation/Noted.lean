import IdentifierRegistrar.Proofs.Operation.Alone
import IdentifierRegistrar.Proofs.Operation.Preparing
import IdentifierRegistrar.Proofs.Store.Live

/-! Operations that have the store to themselves, with all that passes between them and their services.
What such a contract says it says of every run (`noted_run`), and of what an operation has become where it
was stopped (`noted_reaches`). By it, a mint finds the record that stands for the resource and asks nobody
else, or it adds one record or none (`mint_noted`). -/

namespace IdentifierRegistrar

namespace Service

def noted (w : Trouble) (I : Ledger → Prop) : Setting interface (Ledger × List Exchange) where
  allows s _ := I s.1
  moves s q x s' := Replies w s.1.table q x s'.1.table ∧ s'.2 = s.2 ++ [⟨q, x⟩]

def Trouble.any : Trouble := ⟨True, True⟩

def Attends {σ : Type} (w : Trouble) (answer : Answerer interface (Table × σ)) : Prop :=
  ∀ q s, Replies w s.1 q (answer q s).1 (answer q s).2.1

end Service

open Service Operation

/-- A world around the store does, and the store does not fail. -/
theorem World.attends {σ : Type} {w : Trouble} (hw : w.agency) (world : World σ) :
    Attends w world.answer := by
  intro q s
  refine .inl ⟨?_, fun _ => hw⟩
  cases q with
  | store call => exact rfl
  | _ => exact rfl

namespace Operation

variable {α β σ : Type} {w : Trouble} {I : Ledger → Prop} {l : Ledger} {past : List Exchange}

/-- What is noted of an operation it comes to in every run. -/
theorem noted_run {p : Operation α} {Q : Except RegistrarError α → Ledger × List Exchange → Prop}
    {answer : Answerer interface (Table × σ)} (h : p.Meets (noted w I) Q (l, past)) (hanswer : Attends w answer)
    (u : σ) : ∃ (m : Ledger) (es : List Exchange), (p.run answer (l.table, u)).2.1 = m.table ∧
      p.exchanges answer (l.table, u) = es ∧ Q (p.run answer (l.table, u)).1 (m, past ++ es) := by
  generalize hs : (l.table, u) = s
  replace hs : s.1 = l.table := hs ▸ rfl
  induction p generalizing l past s with
  | done a => exact ⟨l, [], hs, rfl, by rwa [List.append_nil]⟩
  | fail e => exact ⟨l, [], hs, rfl, by rwa [List.append_nil]⟩
  | ask q next ih =>
    have hreplies := hanswer q s
    rw [hs] at hreplies
    obtain ⟨m, hm⟩ := hreplies.ledger
    obtain ⟨n, es, hn, hes, hQ⟩ := ih _ (h.2 _ (m, past ++ [⟨q, (answer q s).1⟩]) ⟨hm ▸ hreplies, rfl⟩) _ hm
    refine ⟨n, ⟨q, (answer q s).1⟩ :: es, hn, congrArg _ hes, ?_⟩
    rw [List.append_assoc] at hQ
    exact hQ

/-- Where an operation is stopped, what is left of it meets what is left of its contract. -/
theorem noted_reaches {p p' : Operation α} {Q : Except RegistrarError α → Ledger × List Exchange → Prop}
    {E : (q : Service.Request) → Reply q → Prop} {t' : Table} (h : p.Meets (noted w I) Q (l, past))
    (hreaches : Program.Reaches (fun t q x t' => Replies w t q x t' ∧ E q x) p l.table p' t') :
    ∃ (m : Ledger) (es : List Exchange), t' = m.table ∧ (∀ y ∈ es, E y.1 y.2) ∧
      p'.Meets (noted w I) Q (m, past ++ es) := by
  generalize ht : l.table = t at hreaches
  induction hreaches generalizing l past with
  | here => exact ⟨l, [], ht.symm, by simp, by rwa [List.append_nil]⟩
  | @answered q _ x _ _ _ _ hx _ ih =>
    subst ht
    obtain ⟨m, rfl⟩ := hx.1.ledger
    obtain ⟨n, es, hn, hes, hmeets⟩ := ih (h.2 x (m, past ++ [⟨q, x⟩]) ⟨hx.1, rfl⟩) rfl
    refine ⟨n, ⟨q, x⟩ :: es, hn, List.forall_mem_cons.2 ⟨hx.2, hes⟩, ?_⟩
    rw [List.append_assoc] at hmeets
    exact hmeets

section Steps

variable {Q : Except RegistrarError β → Ledger × List Exchange → Prop}

theorem noted_other {q : Service.Request} {f : Reply q → Operation β} (hq : ∀ call, q ≠ .store call)
    (hI : I l) (h : ∀ x, (f x).Meets (noted w I) Q (l, past ++ [⟨q, x⟩])) :
    (request q >>= f).Meets (noted w I) Q (l, past) := by
  refine ⟨hI, ?_⟩
  rintro x ⟨m, _⟩ ⟨hx, rfl⟩
  obtain ⟨rfl, -⟩ := Replies.of_other (m := m) hq hx
  exact h x

theorem noted_read {call : Store.Call} {f : call.Result → Operation β} {a : call.Result}
    (ha : l.read? call = some a) (hI : I l)
    (hok : (f a).Meets (noted w I) Q (l, past ++ [⟨.store call, .ok a⟩]))
    (herror : ∀ e, w.store → Q (.error (.store e)) (l, past ++ [⟨.store call, .error e⟩])) :
    (store call >>= f).Meets (noted w I) Q (l, past) := by
  refine ⟨hI, ?_⟩
  rintro x ⟨m, _⟩ ⟨hx, rfl⟩
  obtain ⟨rfl, rfl | ⟨hw, e, rfl⟩⟩ := Replies.of_read (m := m) ha hx
  · exact hok
  · exact herror e hw

theorem noted_insert {r : Record} {f : Except StoreError Unit → Operation β} (hI : I l)
    (hok : ∀ m, m.records = l.records ++ [r.stored] →
      (f (.ok ())).Meets (noted w I) Q (m, past ++ [⟨.store (.insert r), .ok ()⟩]))
    (herror : ∀ e, (f (.error e)).Meets (noted w I) Q (l, past ++ [⟨.store (.insert r), .error e⟩])) :
    (request (.store (.insert r)) >>= f).Meets (noted w I) Q (l, past) := by
  refine ⟨hI, ?_⟩
  rintro x ⟨m, _⟩ ⟨hx, rfl⟩
  obtain ⟨rfl, hm⟩ | ⟨rfl, e, rfl⟩ := Replies.of_insert (m := m) hx
  · exact hok m hm
  · exact herror e

end Steps

end Operation

namespace Registrar

variable {w : Trouble} {l : Ledger} {resource : ResourceId} {scheme : Scheme}

/-- What a mint comes to, after what has passed: it has found the record that stands for the resource and
has asked nobody else; the store has not answered; it has failed; or it has added a record for what the
directory has found. -/
inductive Mints (g : Registrar) (w : Trouble) (resource : ResourceId) (scheme : Scheme) (l : Ledger)
    (es : List Exchange) : Except RegistrarError Record → Ledger → Prop
  | stood {r : Record} (hr : r ∈ l.records) (hstands : r.Stands resource scheme)
    (hquiet : remotes es = []) : Mints g w resource scheme l es (.ok r) l
  | unread {e : StoreError} (hw : w.store) (hquiet : remotes es = []) :
    Mints g w resource scheme l es (.error (.store e)) l
  | failed {e : RegistrarError} (hnone : ∀ r ∈ l.records, ¬ r.Stands resource scheme) :
    Mints g w resource scheme l es (.error e) l
  | added {found : Resource} {id : RecordId} {value : IdentifierValue} {t : Instant} {m : Ledger}
    (hnone : ∀ r ∈ l.records, ¬ r.Stands resource scheme) (hg : g.connected scheme)
    (hfound : ⟨.lookup resource, .ok (some found)⟩ ∈ es)
    (hvalue : ⟨.agency scheme (.mint id), .ok value⟩ ∈ es)
    (hm : m.records = l.records ++ [(Record.mint id value found t).stored]) :
    Mints g w resource scheme l es (.ok (.mint id value found t)) m

variable (g : Registrar)

theorem mintNew_noted {found : Resource} {past : List Exchange}
    (hnone : ∀ r ∈ l.records, ¬ r.Stands resource scheme)
    (hfound : ⟨.lookup resource, .ok (some found)⟩ ∈ past) :
    (g.mintNew found scheme resource).Meets (noted w (· = l))
      (fun x s => Mints g w resource scheme l s.2 x s.1) (l, past) := by
  unfold mintNew requireConnector
  split
  · rename_i hg
    simp only [Program.pure_eq, Program.done_bind]
    refine noted_other (by simp) rfl fun id => noted_other (by simp) rfl fun x => ?_
    cases x with
    | error e => exact .failed hnone
    | ok value =>
      refine noted_other (by simp) rfl fun t => noted_insert rfl (fun m hm => ?_) fun e => ?_
      · refine .added hnone hg (List.mem_append_left _ ?_) ?_ hm
        · simp [hfound]
        · simp
      · cases e with
        | liveRecordExists _ _ =>
          -- The store was not changed meanwhile, so nothing stands for the resource still.
          refine noted_read rfl rfl ?_ fun e _ => .failed hnone
          rw [Ledger.head?_liveOf_eq_none_iff.2 hnone]
          exact .failed hnone
        | _ => exact .failed hnone
  · exact .failed hnone

/-- A mint that has the store to itself is all or nothing. -/
theorem mint_noted (resource : ResourceId) (scheme : Scheme) :
    (g.mint resource scheme).Meets (noted w (· = l))
      (fun x s => Mints g w resource scheme l s.2 x s.1) (l, []) := by
  refine noted_read rfl rfl ?_ fun e hw => .unread hw rfl
  cases hhead : (l.liveOf resource scheme).head? with
  | some r =>
    obtain ⟨hr, hstands⟩ := Ledger.head?_liveOf_eq_some_iff.1 hhead
    exact .stood hr hstands rfl
  | none =>
    have hnone := Ledger.head?_liveOf_eq_none_iff.1 hhead
    refine noted_other (by simp) rfl fun x => ?_
    rcases x with e | (_ | found)
    · exact .failed hnone
    · exact .failed hnone
    · exact g.mintNew_noted hnone (by simp)

end Registrar

end IdentifierRegistrar
