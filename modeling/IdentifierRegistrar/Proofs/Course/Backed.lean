import IdentifierRegistrar.Proofs.Operation.Backing

/-! One operation after another, from an empty store and an empty agency, over the requests that the
connector makes of the agency. Each of them may be lost, applied without an answer or refused, and an
operation may stop anywhere. Main result: at every moment the agency holds what the stored statuses
say, and a reconciliation whose queries are answered reports what it holds and finds it so
(`Reachable.status_backed`). -/

namespace IdentifierRegistrar

open Agency Service

namespace Wiring

/-- A moment of a run, in the midst of an operation or after it. What an operation leaves where it stops
is what the next one begins with. -/
inductive Reachable (a : Wiring) (g : Registrar) : Table × Holdings → Prop
  | empty : Reachable a g ([], fun _ => .absent)
  | goes {s s' : Table × Holdings} {e : Errand} {p : Program interface RegistrarError Report}
    (h : Reachable a g s) (hr : Program.Reaches (a.Moves True) (a.wired (e.operation g)) s p s') :
    Reachable a g s'

def Upholds (a : Wiring) (s : Table × Holdings) : Prop := ∃ l : Ledger, s.1 = l.table ∧ a.Backed l s.2

variable {a : Wiring} {g : Registrar} {s : Table × Holdings}

theorem wired_meets {α : Type} {p : Operation α} (h : a.Upholds s)
    (hp : ∀ l held, a.Backed l held →
      p.Meets (a.calls True a.Backed) (Registrar.Backs a) (l, held)) :
    (a.wired p).Meets (a.wire True a.Backed) (fun _ t => a.Upholds t) s := by
  obtain ⟨t, held⟩ := s
  obtain ⟨l, rfl, hs⟩ := h
  refine (meets_wire (hp l held hs)).mono fun x t hx => ?_
  obtain ⟨m, held', rfl, hm⟩ := hx
  exact ⟨m, rfl, hm⟩

/-- Whatever an operation is at, and wherever it stops, all records are backed. -/
theorem Reachable.upholds (h : a.Reachable g s) : a.Upholds s := by
  induction h with
  | empty => exact ⟨.empty, rfl, .empty a⟩
  | goes _ hr ih =>
    exact Program.Meets.now (S := a.wire True a.Backed) (fun _ _ hallows => hallows.1)
      ((wired_meets ih fun _ _ => Errand.backed_calls g _).reaches hr)

/-- At every moment a DOI record is backed by what the agency holds for its name. To reconcile it
changes nothing, and unless a query is not answered it comes to the true report of what is held, which
finds it backed. -/
theorem Reachable.status_backed {id : RecordId} {r : Record} (h : a.Reachable g s)
    (hget : s.1.get? id = .ok (some r)) (hdoi : r.scheme = .doi) :
    ∃ name, r.value.doiName? = some name ∧ r.status.Backs (s.2 name) ∧
      (g.connected .doi → ∀ trouble x s',
        Program.Reaches (a.Moves trouble) (a.wired (g.reconcile id)) s (.ofExcept x) s' →
          s' = s ∧ Registrar.Reconciled trouble r (s.2 name) x) := by
  obtain ⟨l, hl, hs⟩ := h.upholds
  obtain ⟨t, held⟩ := s
  obtain rfl := hl
  rw [Ledger.get?_table] at hget
  have hr := Except.ok.inj hget
  obtain rfl := Ledger.id_of_find hr
  obtain ⟨name, hname⟩ := IdentifierValue.exists_doiName hdoi
  refine ⟨name, hname, hs.backs r.id r name hr hname, fun hg trouble x s' hreaches => ?_⟩
  have hend := (meets_wire (Registrar.reconcile_calls hs hr hdoi hname hg)).reaches hreaches
  cases x <;> obtain ⟨m, held', rfl, hsame, hx⟩ := hend
  · obtain ⟨rfl, rfl⟩ := Prod.mk.inj hsame
    exact ⟨rfl, hx⟩
  · obtain ⟨rfl, rfl⟩ := Prod.mk.inj hsame
    exact ⟨rfl, hx⟩

end Wiring

namespace Agency

section Serving

variable {root name : String} {held : Holdings} {q : Http.Request}

def nameIn? (root : String) (q : Http.Request) : Option String :=
  q.target?.bind fun t => (Text.dropLead (root ++ "/dois/").toList t.toList).map String.ofList

theorem nameIn?_eq_some_iff : nameIn? root q = some name ↔ Names root q name := by
  unfold nameIn? Names
  simp only [Option.bind_eq_some_iff, Option.map_eq_some_iff, Text.dropLead_eq_some_iff]
  constructor
  · rintro ⟨t, ht, rest, hrest, rfl⟩
    rw [ht, Option.some_inj, String.ext_iff, hrest]
    simp
  · intro h
    exact ⟨_, h, name.toList, by simp, String.ofList_toList⟩

def stateDocument (state : DoiState) : Json :=
  .object [("data", .object [("attributes", .object [("state", .string state.tag)])])]

def answerTo (q : Http.Request) (h : Holding) : Http.Reply :=
  match q.method with
  | .get => match h.state? with
    | some state => .answer 200 (.whole (stateDocument state).render.toUTF8.toList)
    | none => .answer Http.notFound (.whole [])
  | .delete => match h with
    | .absent => .answer Http.notFound (.whole [])
    | .draft => .answer 204 (.whole [])
    | .registered | .findable => .answer 405 (.whole [])
  | .put => .answer 200 (.whole [])
  | .post => .timedOut

def serve (root : String) (q : Http.Request) (held : Holdings) : Http.Reply × Holdings :=
  match nameIn? root q with
  | some name => (answerTo q (held name), Function.update held name ((held name).after q))
  | none => (.failed, held)

/-- Values have no decidable equality, but whether one is this document can be checked. -/
def isStateDocument (state : DoiState) : Json → Bool
  | .object [(a, .object [(b, .object [(c, .string s)])])] =>
    a == "data" && b == "attributes" && c == "state" && s == state.tag
  | _ => false

theorem eq_stateDocument {state : DoiState} {v : Json} (h : isStateDocument state v) :
    v = stateDocument state := by
  unfold isStateDocument at h
  split at h
  · simp only [Bool.and_eq_true, beq_iff_eq] at h
    obtain ⟨⟨⟨rfl, rfl⟩, rfl⟩, rfl⟩ := h
    rfl
  · cases h

theorem parse?_stateDocument (state : DoiState) :
    Json.parse? (stateDocument state).render = some (stateDocument state) := by
  have h : (Json.parse? (stateDocument state).render).any (isStateDocument state) := by
    cases state <;> decide +kernel
  obtain ⟨v, hv, his⟩ := (Option.any_eq_true _ _).1 h
  rw [hv, eq_stateDocument his]

theorem tells_stateDocument (state : DoiState) :
    Tells (.whole (stateDocument state).render.toUTF8.toList) state := by
  have htext : (Http.Body.whole (stateDocument state).render.toUTF8.toList).text? =
      some (stateDocument state).render := by cases state <;> decide +kernel
  exact ⟨_, _, _, _, htext, parse?_stateDocument state, ⟨[], [], rfl, by simp⟩, ⟨[], [], rfl, by simp⟩,
    ⟨[], [], rfl, by simp⟩⟩

theorem answered_answerTo {h : Holding} (hq : q.method ≠ .post) :
    ∃ status body, answerTo q h = .answer status body ∧ Answered q h status body := by
  unfold answerTo
  cases hm : q.method with
  | get =>
    cases hh : h.state? with
    | none =>
      refine ⟨_, _, rfl, .unknown (.inr hm) ?_⟩
      cases h <;> simp [Holding.state?] at hh ⊢
    | some state => exact ⟨_, _, rfl, .told hm hh (by decide) (tells_stateDocument state)⟩
  | delete =>
    have hkept : Refused 405 := by unfold Refused; decide
    cases h with
    | absent => exact ⟨_, _, rfl, .unknown (.inl hm) rfl⟩
    | draft => exact ⟨_, _, rfl, .removed hm rfl (by decide)⟩
    | registered => exact ⟨_, _, rfl, .kept hm (.inl rfl) hkept⟩
    | findable => exact ⟨_, _, rfl, .kept hm (.inr rfl) hkept⟩
  | put => exact ⟨_, _, rfl, .put hm (by decide)⟩
  | post => exact absurd hm hq

theorem serves_serve : Serves root True held q (serve root q held).1 (serve root q held).2 := by
  unfold serve
  cases hn : nameIn? root q with
  | none =>
    refine .elsewhere fun name hname => ?_
    rw [nameIn?_eq_some_iff.2 hname] at hn
    cases hn
  | some name =>
    have hname := nameIn?_eq_some_iff.1 hn
    by_cases hq : q.method = .post
    · have hmute : answerTo q (held name) = .timedOut := by
        unfold answerTo
        rw [hq]
      simp only [hmute]
      exact .muted trivial hname .timedOut
    · obtain ⟨status, body, hanswer, hx⟩ := answered_answerTo (h := held name) hq
      simp only [hanswer]
      exact .answered hname hx

/-- What such an agency does may be done without an answer. -/
theorem serves_timedOut : Serves root True held q .timedOut (serve root q held).2 := by
  unfold serve
  cases hn : nameIn? root q with
  | none => exact .lost trivial .timedOut
  | some name => exact .muted trivial (nameIn?_eq_some_iff.1 hn) .timedOut

end Serving

end Agency

namespace Wiring

/-- A world that answers everything, except that the first request to the agency is applied without an
answer. All records have one id, and all resources are `found`. -/
def rehearsal (a : Wiring) (id : RecordId) (found : Resource) :
    Answerer interface ((Table × Holdings) × Nat)
  | .inl (.store call), ((t, held), n) => ((Store.answer t call).1, (((Store.answer t call).2, held), n))
  | .inl (.lookup _), s => (.ok (some found), s)
  | .inl (.agency _ _), s => (.error (.unreachable "offline"), s)
  | .inl .freshId, s => (id, s)
  | .inl .now, s => (.epoch, s)
  | .inr q, ((t, held), n) =>
    let (x, held') := serve a.root q held
    (if n = 0 then .timedOut else x, ((t, held'), n + 1))

theorem rehearsal_moves {a : Wiring} {id : RecordId} {found : Resource} (hid : a.Plain (a.nameFor id))
    {q : interface.Request} {s : (Table × Holdings) × Nat} (hq : ∀ call, q ≠ .inl (.agency .doi call)) :
    a.Moves True s.1 q (a.rehearsal id found q s).1 (a.rehearsal id found q s).2.1 := by
  obtain ⟨⟨t, held⟩, n⟩ := s
  rcases q with q | q
  · cases q with
    | store call => exact .service (by simp) (.inl rfl) trivial
    | lookup resource => exact .service (by simp) (.inl rfl) trivial
    | agency scheme call =>
      cases scheme with
      | doi => exact absurd rfl (hq call)
      | dark =>
        refine .service (by simp) (.inl rfl) ?_
        cases call with
        | mint id =>
          intro v hv
          cases hv
        | _ => trivial
    | freshId => exact .service (by simp) (.inl rfl) hid
    | now => exact .service (by simp) (.inl rfl) trivial
  · rcases n with _ | n
    · exact .http serves_timedOut
    · exact .http serves_serve

def nearby : Wiring := ⟨⟨"http://[::1]:8080", none⟩, "10.1234", "x.", ""⟩

theorem nearby_plain : nearby.Plain (nearby.nameFor ⟨10⟩) := by
  unfold Plain DoiService.Plain
  decide +kernel

def rehearse {α : Type} (p : Operation α) (s : (Table × Holdings) × Nat) :
    Except RegistrarError α × (Table × Holdings) × Nat :=
  (nearby.wired p).run (nearby.rehearsal ⟨10⟩ ⟨⟨1⟩, .item, none, []⟩) s

theorem rehearse_reaches {α : Type} {p : Operation α} {s : (Table × Holdings) × Nat}
    (h : nearby.Upholds s.1) (hp : ∀ l held, nearby.Backed l held →
      p.Meets (nearby.calls True nearby.Backed) (Registrar.Backs nearby) (l, held)) :
    Program.Reaches (nearby.Moves True) (nearby.wired p) s.1 (.ofExcept (rehearse p s).1)
      (rehearse p s).2.1 :=
  (wired_meets h hp).reaches_run fun _ _ hallows => rehearsal_moves nearby_plain hallows.2

def rehearsed (es : List Errand) (s : (Table × Holdings) × Nat) : (Table × Holdings) × Nat :=
  es.foldl (fun s e => (rehearse (e.operation ⟨fun _ => true, .standard⟩) s).2) s

theorem rehearsed_reachable (es : List Errand) {s : (Table × Holdings) × Nat}
    (h : nearby.Reachable ⟨fun _ => true, .standard⟩ s.1) :
    nearby.Reachable ⟨fun _ => true, .standard⟩ (rehearsed es s).1 := by
  induction es generalizing s with
  | nil => exact h
  | cons e es ih =>
    exact ih (.goes h (rehearse_reaches h.upholds fun l held hs => e.backed_calls _ hs))

def retried : Record :=
  ⟨⟨10⟩, ⟨.doi, "doi:10.1234/x.0000000000000000000000000a", by decide⟩, some ⟨1⟩, .item, .isReserved, none,
    2, .epoch, .epoch⟩

def settled : (Table × Holdings) × Nat :=
  rehearsed [.mint ⟨1⟩ .doi, .execute ⟨10⟩ .reserve, .sweep] (([], fun _ => .absent), 0)

/-- The record is found there, and reconciling it comes to a report. -/
theorem settled_reconcile : settled.1.1.get? ⟨10⟩ = .ok (some retried) ∧
    (rehearse (Registrar.reconcile ⟨fun _ => true, .standard⟩ ⟨10⟩) settled).1.toOption.isSome := by
  decide +kernel

/-- The agency holds the draft, and a reconciliation finds it. -/
theorem reservation_backed : ∃ name report, nearby.Reachable ⟨fun _ => true, .standard⟩ settled.1 ∧
    retried.value.doiName? = some name ∧ settled.1.2 name = .draft ∧
    (rehearse (Registrar.reconcile ⟨fun _ => true, .standard⟩ ⟨10⟩) settled).1 = .ok report ∧
    report.reserved = true ∧ report.isConsistent = true := by
  obtain ⟨hget, hsome⟩ := settled_reconcile
  have hreach : nearby.Reachable ⟨fun _ => true, .standard⟩ settled.1 := rehearsed_reachable _ .empty
  obtain ⟨name, hname, hbacks, hreconcile⟩ := Reachable.status_backed hreach hget rfl
  obtain ⟨-, hreport⟩ := hreconcile rfl True _ _
    (rehearse_reaches hreach.upholds fun _ _ => Registrar.reconcile_backs ⟨10⟩)
  generalize (rehearse (Registrar.reconcile ⟨fun _ => true, .standard⟩ ⟨10⟩) settled).1 = x at *
  cases hreport with
  | told h => exact ⟨name, _, hreach, hname, hbacks, rfl, beq_iff_eq.2 hbacks, h⟩
  | failed _ => cases hsome

end Wiring

end IdentifierRegistrar
