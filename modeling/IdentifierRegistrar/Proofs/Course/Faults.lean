import IdentifierRegistrar.Proofs.Agency.Traces
import IdentifierRegistrar.Proofs.Course.Outcomes
import IdentifierRegistrar.Proofs.Operation.Fitting

/-! What the replies of a server make of a record. A record that is driven rests if every request of its
agency's call was granted, waits for an operator if one was refused for good, and stays for the next sweep
in every other case; without its resource it waits for an operator too, and nobody is asked
(`Connectors.replies_settle`). -/

namespace IdentifierRegistrar

open Agency Operation Service

namespace Connectors

variable {σ α : Type} {set : Connectors Connector} {w : World σ} {server : Answerer Http.interface σ}

def overWire (set : Connectors Connector) (w : World σ) (server : Answerer Http.interface σ) :
    World (σ × List Transaction) where
  lookup resource s := ((w.lookup resource s.1).1, ((w.lookup resource s.1).2, s.2))
  agency scheme call s :=
    match set.get? scheme with
    | some c =>
      let result := (c.perform call).run server s.1
      (result.1, (result.2, s.2 ++ (c.perform call).exchanges server s.1))
    | .none => (.error (.unreachable "no connector"), s)
  freshId s := ((w.freshId s.1).1, ((w.freshId s.1).2, s.2))
  now s := ((w.now s.1).1, ((w.now s.1).2, s.2))

/-- What goes over the wire for what passes between an operation and its services: for a call to an agency
the transactions of its connector, and else nothing. -/
inductive Unfolds (set : Connectors Connector) (server : Answerer Http.interface σ) :
    List Exchange → List Transaction → Prop
  | nil : Unfolds set server [] []
  | call {scheme : Scheme} {call : Call} {c : Connector} {s : σ} {es : List Exchange}
    {trace : List Transaction} (hc : set.get? scheme = some c) (rest : Unfolds set server es trace) :
    Unfolds set server (⟨.agency scheme call, ((c.perform call).run server s).1⟩ :: es)
      ((c.perform call).exchanges server s ++ trace)
  | quiet {y : Exchange} {es : List Exchange} {trace : List Transaction}
    (hy : ∀ scheme call, y.1 = .agency scheme call → set.get? scheme = Option.none)
    (rest : Unfolds set server es trace) : Unfolds set server (y :: es) trace

theorem answer_unfolds (set : Connectors Connector) (w : World σ) (server : Answerer Http.interface σ)
    (q : Service.Request) (t : Table) (u : σ) (log : List Transaction) :
    ∃ head, ((set.overWire w server).answer q (t, u, log)).2.2.2 = log ++ head ∧
      ∀ es trace, set.Unfolds server es trace → set.Unfolds server
        (⟨q, ((set.overWire w server).answer q (t, u, log)).1⟩ :: es) (head ++ trace) := by
  cases q with
  | agency scheme call =>
    change ∃ head, ((set.overWire w server).agency scheme call (u, log)).2.2 = log ++ head ∧
      ∀ es trace, set.Unfolds server es trace → set.Unfolds server
        (⟨.agency scheme call, ((set.overWire w server).agency scheme call (u, log)).1⟩ :: es)
        (head ++ trace)
    unfold overWire
    dsimp only
    cases hc : set.get? scheme with
    | some c => exact ⟨_, rfl, fun es trace h => .call hc h⟩
    | none =>
      refine ⟨[], (List.append_nil log).symm, fun es trace h => .quiet (fun other call' heq => ?_) h⟩
      cases heq
      exact hc
  | store call => exact ⟨[], (List.append_nil log).symm, fun es trace h => .quiet (by simp) h⟩
  | lookup resource => exact ⟨[], (List.append_nil log).symm, fun es trace h => .quiet (by simp) h⟩
  | freshId => exact ⟨[], (List.append_nil log).symm, fun es trace h => .quiet (by simp) h⟩
  | now => exact ⟨[], (List.append_nil log).symm, fun es trace h => .quiet (by simp) h⟩

/-- What is noted of an operation is what its exchanges unfold into. -/
theorem run_unfolds (set : Connectors Connector) (w : World σ) (server : Answerer Http.interface σ)
    (p : Operation α) (t : Table) (u : σ) (log : List Transaction) :
    ∃ trace, (p.run (set.overWire w server).answer (t, u, log)).2.2.2 = log ++ trace ∧
      set.Unfolds server (p.exchanges (set.overWire w server).answer (t, u, log)) trace := by
  induction p generalizing t u log with
  | done a => exact ⟨[], (List.append_nil log).symm, .nil⟩
  | fail e => exact ⟨[], (List.append_nil log).symm, .nil⟩
  | ask q next ih =>
    obtain ⟨head, hlog, hhead⟩ := answer_unfolds set w server q t u log
    rw [Program.run, Program.exchanges]
    generalize (set.overWire w server).answer q (t, u, log) = answer at hlog hhead ⊢
    obtain ⟨y, t', u', log'⟩ := answer
    obtain rfl : log' = log ++ head := hlog
    obtain ⟨trace, hrest, htrace⟩ := ih y t' u' (log ++ head)
    refine ⟨head ++ trace, ?_, hhead _ _ htrace⟩
    rw [← List.append_assoc]
    exact hrest

theorem Unfolds.remotes {es : List Exchange} {trace : List Transaction} (h : set.Unfolds server es trace) :
    set.Unfolds server (remotes es) trace := by
  induction h with
  | nil => exact .nil
  | call hc rest ih => exact .call hc ih
  | @quiet y es trace hy rest ih =>
    rw [Service.remotes, List.filter_cons]
    split
    · exact .quiet hy ih
    · exact ih

end Connectors

theorem Service.lookups_remotes (es : List Exchange) : lookups (remotes es) = lookups es := by
  induction es with
  | nil => rfl
  | cons y es ih =>
    obtain ⟨q, x⟩ := y
    cases q with
    | lookup resource => exact congrArg (x :: ·) ih
    | agency scheme call => exact ih
    | store call => exact ih
    | freshId => exact ih
    | now => exact ih

namespace Registrar

variable {conn : Connector} {r s : Record} {looked : List (Except DirectoryError (Option Resource))}
  {trace : List Transaction} {x : Except RegistrarError Outcome}

/-- The agency is asked for what the record's intent is for, and nothing was in the way of that. -/
structure Asked (r : Record) (looked : List (Except DirectoryError (Option Resource))) (c : Change) :
    Prop where
  value : c.value = r.value
  action : r.status.driven.asks? = some c.action
  looked : ∀ y ∈ looked, ∃ found, y = .ok (some found)

/-- What driving a record comes to, and what is left of it, by what the directory has answered and what has
gone over the wire. A call without any request, such as the deletion of an ark, is granted. -/
inductive Fate (conn : Connector) (r : Record) (looked : List (Except DirectoryError (Option Resource))) :
    List Transaction → Except RegistrarError Outcome → Record → Prop
  | confirmed {c : Change} {trace : List Transaction} {s : Record} (hc : Asked r looked c)
    (hsent : conn.Traced r.value (.change c) trace) (hgranted : ∀ e ∈ trace, e.Granted)
    (hs : r.status.driven.confirmed? = some s.status) :
    Fate conn r looked trace (.ok (.succeeded s.status)) s
  | refused {c : Change} {trace : List Transaction} {e : Transaction} {code : Nat} {message : String}
    {s : Record} (hc : Asked r looked c) (hsent : conn.Traced r.value (.change c) (trace ++ [e]))
    (hgranted : ∀ e ∈ trace, e.Granted) (he : e.Rejected code) (hs : s.status = r.status.driven)
    (hm : s.attention = some message) :
    Fate conn r looked (trace ++ [e]) (.ok (.needsAttention s.status message)) s
  | undecided {c : Change} {trace : List Transaction} {e : Transaction} {reason : String} {s : Record}
    (hc : Asked r looked c) (hsent : conn.Traced r.value (.change c) (trace ++ [e]))
    (hgranted : ∀ e ∈ trace, e.Granted) (hno : ¬e.Granted) (hnot : ∀ code, ¬e.Rejected code)
    (hs : s.status = r.status.driven) (hm : s.attention = r.attention) :
    Fate conn r looked (trace ++ [e]) (.ok (.pendingRetry s.status reason)) s
  | unlooked {error : DirectoryError} {reason : String} {s : Record} (hlooked : looked = [.error error])
    (hs : s.status = r.status.driven) (hm : s.attention = r.attention) :
    Fate conn r looked [] (.ok (.pendingRetry s.status reason)) s
  | missing {message : String} {s : Record} (hlooked : looked = [.ok none])
    (hs : s.status = r.status.driven) (hm : s.attention = some message) :
    Fate conn r looked [] (.ok (.needsAttention s.status message)) s
  | orphaned {message : String} {s : Record} (hr : r.status ≠ .toBeDeleted ∧ r.resource = none)
    (hlooked : looked = []) (hs : s.status = r.status) (hm : s.attention = some message) :
    Fate conn r looked [] (.ok (.needsAttention s.status message)) s

/-- What an answer makes of a record is what the transactions make of it that the answer comes from. -/
theorem fate_of_answered {c : Change} {y : Except AgencyError Unit} (hc : Asked r looked c)
    (hsent : conn.Traced r.value (.change c) trace) (hended : Ended trace y)
    (h : Answered r.status.driven r.attention y x s) : Fate conn r looked trace x s := by
  cases hended with
  | granted hall =>
    cases h with
    | confirmed hs => exact .confirmed hc hsent hall hs
  | rejected hall he =>
    cases h with
    | rejected hs hm => exact .refused hc hsent hall he hs hm
  | undecided hall hno hnot =>
    cases h with
    | unreachable hs hm => exact .undecided hc hsent hall hno hnot hs hm

/-- Of a record that was not marked, the sweep comes again to what is pending and to nothing else. -/
theorem Fate.waits_iff (h : Fate conn r looked trace x s) (hi : r.status ∈ Status.intents)
    (hr : r.attention = none) :
    s.status ∈ Status.intents ∧ s.attention = none ↔
      ∃ reason, x = .ok (.pendingRetry s.status reason) := by
  have hdriven := Status.driven_mem_intents hi
  cases h with
  | confirmed hc hsent hgranted hs =>
    have hrests := Status.not_mem_intents_of_confirmed? hs
    simp [hrests]
  | refused hc hsent hgranted he hs hm => simp [hm]
  | undecided hc hsent hgranted hno hnot hs hm => simp [hs, hdriven, hm, hr]
  | unlooked hlooked hs hm => simp [hs, hdriven, hm, hr]
  | missing hlooked hs hm => simp [hm]
  | orphaned hr hlooked hs hm => simp [hm]

end Registrar

namespace Connectors

open Registrar (Answered Asked Fate Reached)

variable {σ : Type} {set : Connectors Connector} {w : World σ} {server : Answerer Http.interface σ}
  {conn : Connector} {r s : Record} {x : Except RegistrarError Outcome} {es : List Exchange}
  {trace : List Transaction}

theorem Unfolds.eq_nil (h : set.Unfolds server es trace) (hes : ∀ y ∈ es, ∀ scheme call,
    y.1 = .agency scheme call → set.get? scheme = Option.none) : trace = [] := by
  induction h with
  | nil => rfl
  | @call scheme call c s es trace hc rest ih =>
    have hnone := hes _ List.mem_cons_self scheme call rfl
    rw [hc] at hnone
    cases hnone
  | quiet hy rest ih => exact ih fun y hy => hes y (List.mem_cons_of_mem _ hy)

/-- One call comes to what the connector comes to with the server. -/
theorem Unfolds.of_call {scheme : Scheme} {call : Call} {y : Except AgencyError call.Result}
    (h : set.Unfolds server [⟨.agency scheme call, y⟩] trace) (hc : set.get? scheme = some conn) :
    ∃ s, y = ((conn.perform call).run server s).1 ∧ trace = (conn.perform call).exchanges server s := by
  cases h with
  | @call _ _ c s _ _ hc' rest =>
    obtain rfl := Option.some.inj (hc.symm.trans hc')
    cases rest
    exact ⟨s, rfl, List.append_nil _⟩
  | quiet hy rest =>
    have hnone := hy scheme call rfl
    rw [hc] at hnone
    cases hnone

/-- What a drive comes to at its agency it comes to over the wire. -/
theorem fate_of_reached {policy : ReleasePolicy} (hset : set.Built) (hc : set.get? r.scheme = some conn)
    (h : Reached (set.registrar policy) r.value r.resource r.status.driven r.attention x es s)
    (hu : set.Unfolds server es trace) : Fate conn r (lookups es) trace x s := by
  have hcalled {change : Change} {y : Except AgencyError Unit} {looked} {trace' : List Transaction}
      (hasked : Asked r looked change) (hanswered : Answered r.status.driven r.attention y x s)
      (hcall : set.Unfolds server [⟨.agency r.scheme (.change change), y⟩] trace') :
      Fate conn r looked trace' x s := by
    obtain ⟨u, rfl, rfl⟩ := hcall.of_call hc
    have hv : (Call.change change).value? = some r.value := congrArg some hasked.value
    have hscheme : r.value.scheme = conn.scheme := (hset.scheme_of_get? hc).symm
    exact Registrar.fate_of_answered hasked (Connector.traced hv hscheme server u)
      (Connector.perform_sound hv hscheme σ server u) hanswered
  cases h with
  | unconnected hg =>
    have hconnected : (set.registrar policy).connected r.value.scheme = true := by
      change (set.get? r.scheme).isSome = true
      rw [hc]
      rfl
    exact absurd hconnected hg
  | unlooked hi hb hs hm =>
    obtain rfl := hu.eq_nil (by simp)
    exact .unlooked rfl hs hm
  | missing hi hb hs hm =>
    obtain rfl := hu.eq_nil (by simp)
    exact .missing rfl hs hm
  | @sent resource found change y x s hi hb hchange hanswered =>
    cases hu with
    | quiet _ rest =>
      refine hcalled ⟨hchange.1, hchange.2, ?_⟩ hanswered rest
      intro y hy
      obtain rfl := List.mem_singleton.1 hy
      exact ⟨found, rfl⟩
  | withdrawn hi hchange hanswered => exact hcalled ⟨hchange.1, hchange.2, nofun⟩ hanswered hu

/-- Driving a record over the wire leaves it as the replies have it. -/
theorem drive_fated {policy : ReleasePolicy} {before after : Table} {row : Row} (hset : set.Built)
    (hc : set.get? r.scheme = some conn) (hrow : row.Keeps r) (hi : r.status ∈ Status.intents)
    (hsound : Table.Sound (before ++ row :: after)) (u : σ) (log : List Transaction) :
    ∃ x left s u' trace,
      ((set.registrar policy).drive r).run (set.overWire w server).answer (before ++ row :: after, u, log) =
        (x, before ++ left :: after, u', log ++ trace) ∧
      left.Keeps s ∧ s.id = r.id ∧
      Fate conn r (lookups (((set.registrar policy).drive r).exchanges (set.overWire w server).answer
        (before ++ row :: after, u, log))) trace x s := by
  have hstored : row.Keeps r.stored := by rwa [Row.stored_of_record hrow.record]
  obtain ⟨trace, hlog, hunfolds⟩ := run_unfolds set w server
    ((set.registrar policy).drive r) (before ++ row :: after) u log
  have hlooked := lookups_remotes (((set.registrar policy).drive r).exchanges (set.overWire w server).answer
    (before ++ row :: after, u, log))
  by_cases hb : r.status ≠ .toBeDeleted → r.resource.isSome
  · obtain ⟨x, left, s, u', hrun, -, hleft, hid, hreached⟩ :=
      (Registrar.drive_yields (w := set.overWire w server) (g := set.registrar policy) hstored hi hb
        (u, log)).ends.run hsound hrow.id
    rw [hrun] at hlog
    obtain ⟨u', log'⟩ := u'
    obtain rfl : log' = log ++ trace := hlog
    have hfate := fate_of_reached hset hc hreached hunfolds.remotes
    rw [hlooked] at hfate
    exact ⟨x, left, s, u', trace, hrun, hleft, hid, hfate⟩
  · obtain ⟨hd, hnone⟩ := Classical.not_imp.1 hb
    have ho : r.resource = .none := by simpa using hnone
    obtain ⟨x, left, s, u', hrun, -, hleft, hid, hgiven⟩ :=
      (Registrar.drive_orphaned (w := set.overWire w server) (g := set.registrar policy) hstored ⟨hi, hd⟩ ho
        (u, log)).ends.run hsound hrow.id
    rw [hrun] at hlog
    obtain ⟨u', log'⟩ := u'
    obtain rfl : log' = log ++ trace := hlog
    obtain ⟨hx, hquiet, hstatus, hmark⟩ := hgiven
    rw [← hstatus] at hx
    obtain rfl := hx
    have hunfolds := hunfolds.remotes
    rw [hquiet] at hunfolds hlooked
    obtain rfl := hunfolds.eq_nil (List.forall_mem_nil _)
    exact ⟨_, left, s, u', [], hrun, hleft, hid, .orphaned ⟨hd, ho⟩ hlooked.symm hstatus hmark⟩

/-- The replies of the servers settle what becomes of a record. A request of a client is granted by an answer
of success, of which an ark or a state can be read where one is asked for, and by a 404 where that is an
answer; it is refused by any other status that is no error of the server and not that of too many requests,
whatever its body; and else it is left open. A record that is driven rests only if its call was granted
throughout. It waits for an operator, under a new marker, only after such a refusal or for want of a resource.
In every other case it stays at its intent with the marker that it had; the sweep comes to it again if it had
none. An answer is what the client's `send` comes to (`Http.Reply`). -/
theorem replies_settle :
    (∀ (ark : ArkService) (doi : DoiService), ClientsTranslate ark doi) ∧
    ∀ (set : Connectors Connector) (policy : ReleasePolicy) (conn : Connector) (r : Record) (σ : Type)
      (w : World σ) (server : Answerer Http.interface σ) (before after : Table) (row : Row) (u : σ)
      (log : List Transaction), set.Built → set.get? r.scheme = some conn → row.Keeps r →
      r.status ∈ Status.intents → Table.Sound (before ++ row :: after) →
      ∃ x left s u' trace,
        ((set.registrar policy).drive r).run (set.overWire w server).answer
          (before ++ row :: after, u, log) = (x, before ++ left :: after, u', log ++ trace) ∧
        left.Keeps s ∧ s.id = r.id ∧
        Fate conn r (lookups (((set.registrar policy).drive r).exchanges (set.overWire w server).answer
          (before ++ row :: after, u, log))) trace x s ∧
        (r.attention = .none → (left.isRetryable Status.intents = true ↔
          ∃ reason, x = .ok (.pendingRetry s.status reason))) := by
  refine ⟨clientsTranslate, ?_⟩
  intro set policy conn r σ w server before after row u log hset hc hrow hi hsound
  obtain ⟨x, left, s, u', trace, hrun, hleft, hid, hfate⟩ := drive_fated hset hc hrow hi hsound u log
  refine ⟨x, left, s, u', trace, hrun, hleft, hid, hfate, fun hr => ?_⟩
  rw [Row.isRetryable_iff_of_record hleft.record]
  exact hfate.waits_iff hi hr

def refusing : Answerer Http.interface Unit := fun _ s => (.answer 422 .cut, s)

def quietWorld : World Unit := .rehearsal fun u => (.ok (), u)

def refusedDrive (r : Record) : Except RegistrarError Outcome × Table × Unit × List Transaction :=
  ((sample.registrar ⟨[], .none⟩).drive r).run (sample.overWire quietWorld refusing).answer
    ([Row.ofRecord r], (), [])

/-- A refusal without a reason is a refusal still. -/
theorem refusal_settles : ∃ left s trace,
    refusedDrive .sampleBound =
      (.ok (.needsAttention .toBeRegistered "rejected (422): "), [left], (), trace) ∧
    left.Keeps s ∧ s.attention = some "rejected (422): " ∧ ∃ e ∈ trace, ∃ code, e.Rejected code := by
  obtain ⟨x, left, s, u', trace, hrun, hleft, -, hfate, -⟩ := replies_settle.2 sample ⟨[], .none⟩
    (.ark (.ofAddress "http://dark" "k")) .sampleBound Unit quietWorld refusing [] []
    (Row.ofRecord .sampleBound) () [] built_sample rfl ⟨by decide +kernel, Row.record_ofRecord _⟩ (by decide)
    (List.pairwise_singleton _ _)
  have hdrive : refusedDrive .sampleBound = (x, [left], u', trace) := hrun
  have hx : (refusedDrive .sampleBound).1 = .ok (.needsAttention .toBeRegistered "rejected (422): ") := by
    decide +kernel
  have hlength : (refusedDrive .sampleBound).2.2.2.length = 1 := by decide +kernel
  rw [hdrive] at hx hlength
  refine ⟨left, s, trace, hdrive.trans (Prod.ext hx rfl), hleft, ?_⟩
  cases hfate with
  | refused hc hsent hgranted he hs hm =>
    obtain ⟨-, rfl⟩ := Outcome.needsAttention.inj (Except.ok.inj hx)
    exact ⟨hm, _, List.mem_append_right _ List.mem_cons_self, _, he⟩
  | confirmed hc hsent hgranted hs => cases hx
  | undecided hc hsent hgranted hno hnot hs hm => cases hx
  | unlooked hlooked hs hm => cases hx
  | missing hlooked hs hm => cases hlength
  | orphaned hr hlooked hs hm => cases hlength

def sampleWithdrawn : Record :=
  ⟨⟨12⟩, ⟨.dark, "dark:/k/m", by decide⟩, some ⟨0⟩, .item, .toBeDeleted, .none, 1, .epoch, .epoch⟩

/-- There is not always a reply that settles the record: one without a resource waits for an operator, and an
ark that is to be deleted rests, and nothing has gone over the wire. -/
theorem settled_unasked :
    (∃ left s, refusedDrive .sampleOrphan =
        (.ok (.needsAttention .toBeReserved Registrar.orphanMessage), [left], (), []) ∧
      left.Keeps s ∧ s.attention = some Registrar.orphanMessage) ∧
    ∃ left s, refusedDrive sampleWithdrawn = (.ok (.succeeded .deleted), [left], (), []) ∧
      left.Keeps s ∧ s.status = .deleted := by
  constructor
  · refine ⟨Row.ofRecord { Record.sampleOrphan with attention := some Registrar.orphanMessage, version := 2 },
      _, ?_, ⟨?_, Row.record_ofRecord _⟩, rfl⟩
    · rfl
    · decide +kernel
  · refine ⟨Row.ofRecord { sampleWithdrawn with status := .deleted, version := 2 }, _, ?_,
      ⟨?_, Row.record_ofRecord _⟩, rfl⟩
    · rfl
    · decide +kernel

end Connectors

end IdentifierRegistrar
