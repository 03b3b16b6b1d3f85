import IdentifierRegistrar.Proofs.Operation.Driving
import IdentifierRegistrar.Proofs.Operation.Exchange
import IdentifierRegistrar.Proofs.Store.Revision
import Mathlib.Data.List.Pairwise

/-! Operations that have the store to themselves. A copy that an operation holds is the row, so what
it writes is written unless the store fails, and nothing else changes. What driving a record and
releasing one make of its row is said here for every answer of the directory and the agencies. -/

namespace IdentifierRegistrar

namespace Service

structure Trouble where
  store : Prop
  agency : Prop

def Refuses : (q : Request) → Reply q → Prop
  | .agency _ (.change _), x => x ≠ .ok ()
  | _, _ => False

def Replies (w : Trouble) (t : Table) (q : Request) (x : Reply q) (t' : Table) : Prop :=
  (Answers t q x t' ∧ (Refuses q x → w.agency)) ∨ (w.store ∧ Fails t q x t')

def alone (w : Trouble) (I : Ledger → Prop) : Setting interface Ledger where
  allows l _ := I l
  moves l q x m := Replies w l.table q x m.table

end Service

namespace Ledger

def Has (l : Ledger) (r : Record) : Prop := l.find r.id = some r.stored

theorem Has.find_eq {l : Ledger} {r : Record} {id : RecordId} (h : l.Has r) (hid : r.id = id) :
    l.find id = some r.stored := hid ▸ h

theorem has_of_find {l : Ledger} {r : Record} {id : RecordId} (h : l.find id = some r) : l.Has r := by
  rw [Has, id_of_find h, h, l.whole_of_find h]

theorem has_of_mem {l : Ledger} {r : Record} (h : r ∈ l.records) : l.Has r :=
  has_of_find (find_of_mem h)

def SameBut (l : Ledger) (id : RecordId) (m : Ledger) : Prop := ∀ k ≠ id, m.find k = l.find k

theorem SameBut.refl (l : Ledger) (id : RecordId) : l.SameBut id l := fun _ _ => rfl

theorem SameBut.trans {l m n : Ledger} {id : RecordId} (h : l.SameBut id m) (h' : m.SameBut id n) :
    l.SameBut id n := fun k hk => (h' k hk).trans (h k hk)

/-- A revision of the row never misses it. -/
theorem not_misses {l : Ledger} {c d : Record} {e : StoreError} (hc : l.Has c) (hd : c.Revision d) :
    ¬ l.Misses d e := by
  have hrow : l.find d.id = some c.stored := hd.id ▸ hc
  intro h
  cases h with
  | absent h => exact absurd (hrow.symm.trans h) (by simp)
  | stale h hv =>
    obtain rfl := Option.some.inj (hrow.symm.trans h)
    exact hv hd.version.symm
  | @rival _ t h _ ht hne hr =>
    obtain rfl := Option.some.inj (hrow.symm.trans h)
    obtain ⟨hlive, htlive, hscheme, hbound, hresource⟩ := hr
    refine not_rivals (mem_of_find hrow) ht hne ⟨fun hdeleted => ?_, htlive, hscheme, ?_⟩
    · rcases hd.status with h | h
      · exact hlive (h.trans hdeleted)
      · rw [Record.stored_status] at hdeleted
        simp [hdeleted, Status.targets] at h
    · simp only [Record.overwrite] at hbound hresource
      split at hbound
      · simp at hbound
      · rename_i hkept
        rw [if_neg hkept] at hresource
        exact ⟨hbound, hresource⟩

end Ledger

open Service Operation

theorem Service.Replies.ledger {w : Trouble} {l : Ledger} {q : Request} {x : Reply q} {t : Table}
    (h : Replies w l.table q x t) : ∃ m : Ledger, t = m.table :=
  h.elim (fun h => h.1.ledger) fun h => ⟨l, h.2.same⟩

namespace Service.Replies

variable {w : Trouble} {l m : Ledger}

/-- Nobody but the store changes it. -/
theorem of_other {q : Request} {x : Reply q} (hq : ∀ call, q ≠ .store call)
    (h : Replies w l.table q x m.table) : m = l ∧ (Refuses q x → w.agency) := by
  rcases h with ⟨hx, hrefuses⟩ | ⟨-, hfails⟩
  · exact ⟨hx.other hq, hrefuses⟩
  · cases q with
    | store call => exact absurd rfl (hq call)
    | _ => exact hfails.elim

theorem of_read {call : Store.Call} {x : Reply (.store call)} {a : call.Result}
    (ha : l.read? call = some a) (h : Replies w l.table (.store call) x m.table) :
    m = l ∧ (x = .ok a ∨ w.store ∧ ∃ e, x = .error e) := by
  rcases h with ⟨hx, -⟩ | ⟨hw, hfailed, hsame⟩
  · obtain ⟨hok, hml⟩ := hx.store.of_read? ha
    exact ⟨hml, .inl hok⟩
  · exact ⟨Ledger.table_injective hsame, .inr ⟨hw, hfailed⟩⟩

theorem of_insert {r : Record} {x : Reply (.store (.insert r))}
    (h : Replies w l.table (.store (.insert r)) x m.table) :
    x = .ok () ∧ m.records = l.records ++ [r.stored] ∨ m = l ∧ ∃ e, x = .error e := by
  rcases h with ⟨hx, -⟩ | ⟨-, hfailed, hsame⟩
  · cases hx.store with
    | inserted hm => exact .inl ⟨rfl, hm⟩
    | notInserted _ => exact .inr ⟨rfl, _, rfl⟩
  · exact .inr ⟨Ledger.table_injective hsame, hfailed⟩

end Service.Replies

/-- Whatever is replied along the way, a ledger's table becomes a ledger's table. -/
theorem Operation.reaches_ledger {α : Type} {w : Trouble} {I : Ledger → Prop} {p p' : Operation α}
    {l : Ledger} {t' : Table} (h : Program.Reaches (Replies w) p l.table p' t') :
    ∃ m : Ledger, t' = m.table ∧ Program.Reaches (alone w I).moves p l p' m := by
  generalize ht : l.table = t at h
  induction h generalizing l with
  | here => exact ⟨l, ht.symm, .here⟩
  | answered hx _ ih =>
    subst ht
    obtain ⟨m, rfl⟩ := hx.ledger
    obtain ⟨n, hn, hreaches⟩ := ih rfl
    exact ⟨n, hn, .answered hx hreaches⟩

namespace Operation

variable {α β : Type} {w : Trouble} {I : Ledger → Prop} {l : Ledger}
  {Q : Except RegistrarError β → Ledger → Prop}

theorem meets_alone {q : Service.Request} {f : Service.Reply q → Operation β}
    (hq : ∀ call, q ≠ .store call) (hI : I l)
    (h : ∀ x, (Refuses q x → w.agency) → (f x).Meets (alone w I) Q l) :
    (request q >>= f).Meets (alone w I) Q l := by
  refine ⟨hI, fun x m hx => ?_⟩
  obtain ⟨rfl, hrefuses⟩ := hx.of_other hq
  exact h x hrefuses

theorem meets_now {f : Instant → Operation β} (hI : I l)
    (h : ∀ t, (f t).Meets (alone w I) Q l) : (now >>= f).Meets (alone w I) Q l :=
  meets_alone (by simp) hI fun t _ => h t

/-- A call to the store that only reads. -/
theorem meets_read {call : Store.Call} {f : call.Result → Operation β} {a : call.Result}
    (ha : l.read? call = some a) (hI : I l) (hok : (f a).Meets (alone w I) Q l)
    (herror : ∀ e, w.store → Q (.error (.store e)) l) :
    (store call >>= f).Meets (alone w I) Q l := by
  refine ⟨hI, fun x m hx => ?_⟩
  obtain ⟨rfl, rfl | ⟨hw, e, rfl⟩⟩ := Replies.of_read ha hx
  · exact hok
  · exact herror e hw

theorem read_alone {call : Store.Call} {a : call.Result} (ha : l.read? call = some a) (hI : I l) :
    (store call).Meets (alone w I)
      (fun x m => m = l ∧ (x = .ok a ∨ ∃ e, w.store ∧ x = .error (.store e))) l := by
  rw [← Program.bind_done (store call)]
  exact meets_read ha hI ⟨rfl, .inl rfl⟩ fun e hw => ⟨rfl, .inr ⟨e, hw, rfl⟩⟩

theorem meets_insert {r : Record} {f : Except StoreError Unit → Operation β} (hI : I l)
    (hok : ∀ m, m.records = l.records ++ [r.stored] → (f (.ok ())).Meets (alone w I) Q m)
    (herror : ∀ e, (f (.error e)).Meets (alone w I) Q l) :
    (request (.store (.insert r)) >>= f).Meets (alone w I) Q l := by
  refine ⟨hI, fun x m hx => ?_⟩
  obtain ⟨rfl, hm⟩ | ⟨rfl, e, rfl⟩ := Replies.of_insert hx
  · exact hok m hm
  · exact herror e

end Operation

namespace Registrar

variable {w : Trouble} {I : Ledger → Prop} {l : Ledger} {c r : Record}

inductive Wrote (w : Trouble) (l : Ledger) (d : Record) :
    Except RegistrarError Record → Ledger → Prop
  | failed {e : RegistrarError} (h : w.store) : Wrote w l d (.error e) l
  | wrote {m : Ledger} (h : m.Has d.next) (hsame : l.SameBut d.id m) : Wrote w l d (.ok d.next) m

theorem write_alone {d : Record} (hI : I l) (hc : l.Has c) (hd : c.Revision d) :
    (write d).Meets (alone w I) (Wrote w l d) l := by
  refine ⟨hI, ?_⟩
  rintro x m (⟨hx, -⟩ | ⟨hw, ⟨e, rfl⟩, hsame⟩)
  · have hrow : l.find d.id = some c.stored := hd.id ▸ hc
    cases hx.store with
    | updated hf _ hm =>
      obtain rfl := Option.some.inj (hrow.symm.trans hf)
      refine .wrote ?_ fun k hk => Ledger.find_overwritten_of_ne hm hk
      rw [Ledger.Has, ← hd.overwrite_stored]
      exact Ledger.find_overwritten_self hm hrow
    | notUpdated he => exact absurd he (Ledger.not_misses hc hd)
  · obtain rfl := Ledger.table_injective hsame
    exact .failed hw

inductive Committed (w : Trouble) (l : Ledger) (r : Record) (target : Status) :
    Except RegistrarError Record → Ledger → Prop
  | stopped {e : RegistrarError} (h : target ∈ r.status.targets → w.store) :
    Committed w l r target (.error e) l
  | moved {t : Instant} {m : Ledger} (htarget : target ∈ r.status.targets)
    (h : m.Has (r.moveTo target t).next) (hsame : l.SameBut r.id m) :
    Committed w l r target (.ok (r.moveTo target t).next) m

theorem commit_alone {target : Status} (hI : I l) (hc : l.Has c) (hr : c.Draft r) :
    (commit r target).Meets (alone w I) (Committed w l r target) l := by
  refine meets_now hI fun t => ?_
  cases hd : r.transition target t with
  | error e =>
    refine .stopped fun h => ?_
    have hok : r.transition target t = .ok (r.moveTo target t) :=
      Record.transition_eq_ok_iff.2 ⟨h, rfl⟩
    exact absurd (hd.symm.trans hok) (by simp)
  | ok d =>
    refine (write_alone hI hc (hr.transition hd)).mono fun x m h => ?_
    obtain ⟨htarget, rfl⟩ := Record.transition_eq_ok_iff.1 hd
    cases h with
    | failed h => exact .stopped fun _ => h
    | wrote h hsame => exact .moved htarget h hsame

inductive Parked (w : Trouble) (l : Ledger) (r : Record) (message : String) :
    Except RegistrarError Outcome → Ledger → Prop
  | failed {e : RegistrarError} (h : w.store) : Parked w l r message (.error e) l
  | parked {t : Instant} {m : Ledger} (h : m.Has (r.flag message t).next) (hsame : l.SameBut r.id m) :
    Parked w l r message (.ok (.needsAttention r.status message)) m

theorem park_alone {message : String} (hI : I l) (hc : l.Has c) (hr : c.Draft r) :
    (park r message).Meets (alone w I) (Parked w l r message) l := by
  refine meets_now hI fun t => ?_
  refine (write_alone hI hc (hr.flag message t)).bind (fun d m h => ?_) fun e m h => ?_
  · cases h with
    | wrote h hsame => exact .parked h hsame
  · cases h with
    | failed h => exact .failed h

inductive Resumed (w : Trouble) (g : Registrar) (r : Record) :
    Except RegistrarError Outcome → Record → Prop
  | rested (h : r.status.confirmed? = none) : Resumed w g r (.ok (.succeeded r.status)) r.stored
  | confirmed {s : Record} (hs : r.status.confirmed? = some s.status)
    (ha : s.attention = r.attention) (hb : s.resource = r.resource) :
    Resumed w g r (.ok (.succeeded s.status)) s
  | waits {reason : String} (h : r.status ∈ Status.intents)
    (hw : r.status = .toBeDeleted → w.agency) :
    Resumed w g r (.ok (.pendingRetry r.status reason)) r.stored
  | parked {s : Record} {message : String} (h : r.status ∈ Status.intents)
    (hs : s.status = r.status) (ha : s.attention = some message) (hb : s.resource = r.resource)
    (hw : r.status = .toBeDeleted → w.agency ∧ ∃ status text,
      message = (AgencyError.rejected status text).message) :
    Resumed w g r (.ok (.needsAttention r.status message)) s
  | failed {e : RegistrarError} (h : r.status ∈ Status.intents)
    (hw : r.status = .toBeDeleted → g.connected r.scheme → w.store ∨ w.agency) :
    Resumed w g r (.error e) r.stored

/-- The postcondition that only the row of `r` has changed, and how. -/
def Makes {ξ : Type} (l : Ledger) (r : Record) (P : ξ → Record → Prop) (x : ξ) (m : Ledger) : Prop :=
  l.SameBut r.id m ∧ ∃ s, m.find r.id = some s ∧ P x s

variable (g : Registrar)

theorem Parked.makes {message : String} (hr : l.Has r) (hi : r.status ∈ Status.intents)
    (hw : r.status = .toBeDeleted → w.agency ∧ ∃ status text,
      message = (AgencyError.rejected status text).message)
    {x : Except RegistrarError Outcome} {m : Ledger} (h : Parked w l r message x m) :
    Makes l r (Resumed w g r) x m := by
  cases h with
  | failed h => exact ⟨.refl l r.id, _, hr, .failed hi fun _ _ => .inl h⟩
  | parked h hsame => exact ⟨hsame, _, h, .parked hi rfl rfl rfl hw⟩

theorem settle_alone {confirmed : Status} {x : Except AgencyError Unit} (hI : I l) (hr : l.Has r)
    (h : r.status.confirmed? = some confirmed) (hw : x ≠ .ok () → w.agency) :
    (settle r confirmed x).Meets (alone w I) (Makes l r (Resumed w g r)) l := by
  have hi := Status.mem_intents_of_confirmed? h
  rcases x with e | ⟨⟩
  · have hrefused : w.agency := hw (by simp)
    cases e with
    | unreachable reason => exact ⟨.refl l r.id, _, hr, .waits hi fun _ => hrefused⟩
    | rejected status text =>
      exact (park_alone hI hr (.refl r)).mono fun _ _ h =>
        h.makes g hr hi fun _ => ⟨hrefused, status, text, rfl⟩
    | malformedValue cause => exact ⟨.refl l r.id, _, hr, .failed hi fun _ _ => .inr hrefused⟩
  · refine (commit_alone hI hr (.refl r)).bind (fun d m hd => ?_) fun e m hd => ?_
    · cases hd with
      | moved _ hm hsame => exact ⟨hsame, _, hm, .confirmed (s := (r.moveTo confirmed _).next.stored)
          h rfl rfl⟩
    · cases hd with
      | stopped hw =>
        exact ⟨.refl l r.id, _, hr, .failed hi fun _ _ => .inl (hw (Status.confirmed?_mem_targets h))⟩

theorem call_alone {confirmed : Status} {c : Agency.Change} (hI : I l) (hr : l.Has r)
    (h : r.status.confirmed? = some confirmed) :
    (agency r.scheme (.change c) >>= settle r confirmed).Meets (alone w I)
      (Makes l r (Resumed w g r)) l :=
  meets_alone (by simp) hI fun x hx => settle_alone g hI hr h hx

theorem resume_alone (hI : I l) (hr : l.Has r) :
    (g.resume r).Meets (alone w I) (Makes l r (Resumed w g r)) l := by
  have hpark {message : String} (h : Sends r) :
      (park r message).Meets (alone w I) (Makes l r (Resumed w g r)) l :=
    (park_alone hI hr (.refl r)).mono fun _ _ hp => hp.makes g hr h.1 fun hd => absurd hd h.2
  have hlookup {resource : ResourceId} {x : Reply (.lookup resource)} {m : Ledger}
      (h : (alone w I).moves l (.lookup resource) x m) : m = l :=
    (Replies.of_other (by simp) h).1
  refine resume_meets_of (P := fun m => m = l) (fun _ => rfl) ?_ ?_ ?_ ?_ ?_ ?_ ?_ ?_
  · exact fun h => ⟨.refl l r.id, _, hr, .rested h⟩
  · exact fun hi hg => ⟨.refl l r.id, _, hr, .failed hi fun _ h => absurd h hg⟩
  · exact fun h _ => hpark h
  · exact fun _ _ _ => hI
  · intro _ _ m _ h _ hx
    rw [hlookup hx]
    exact ⟨.refl l r.id, _, hr, .waits h.1 fun hd => absurd hd h.2⟩
  · intro _ m _ h _ hx
    rw [hlookup hx]
    exact hpark h
  · exact fun _ _ _ _ _ hx => hlookup hx
  · intro _ _ m hm h _
    subst hm
    exact call_alone g hI hr h

inductive Driven (w : Trouble) (g : Registrar) (r : Record) (x : Except RegistrarError Outcome)
    (s : Record) : Prop
  | resumed (h : Resumed w g r x s)
  | registers {d : Record} (hr : r.status = .updateBeforeRegistration)
    (hd : d.status = .toBeRegistered) (ha : d.attention = r.attention) (h : Resumed w g d x s)

/-- `I` is to hold at the one state in between, if there is one. -/
theorem drive_alone (hI : I l) (hr : l.Has r)
    (hubr : r.status = .updateBeforeRegistration → ∀ m, l.SameBut r.id m → I m) :
    (g.drive r).Meets (alone w I) (Makes l r (Driven w g r)) l := by
  have hresumed {x : Except RegistrarError Outcome} {m : Ledger}
      (h : Makes l r (Resumed w g r) x m) : Makes l r (Driven w g r) x m :=
    ⟨h.1, h.2.imp fun _ h => ⟨h.1, .resumed h.2⟩⟩
  have hparked (h : Sends r) :
      (park r orphanMessage).Meets (alone w I) (Makes l r (Driven w g r)) l :=
    (park_alone hI hr (.refl r)).mono fun _ _ hp =>
      hresumed (hp.makes g hr h.1 fun hd => absurd hd h.2)
  refine drive_meets_of (fun h _ => hparked h) (fun hu => ?_)
    fun _ => (g.resume_alone hI hr).mono fun _ _ => hresumed
  have hi : r.status ∈ Status.intents := by rw [hu]; decide
  refine (commit_alone hI hr (.refl r)).bind (fun d m hd => ?_) fun e m hd => ?_
  · cases hd with
    | @moved t _ _ hm hsame =>
      refine (g.resume_alone (hubr hu m hsame) hm).mono fun x n h => ?_
      obtain ⟨hsame', s, hs, h⟩ := h
      exact ⟨hsame.trans hsame', s, hs,
        .registers (d := (r.moveTo .toBeRegistered t).next) hu rfl rfl h⟩
  · cases hd with
    | stopped hw =>
      refine hresumed ⟨.refl l r.id, _, hr, .failed hi fun _ _ => .inl (hw ?_)⟩
      rw [hu]
      decide

end Registrar

end IdentifierRegistrar
