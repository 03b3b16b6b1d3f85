import IdentifierRegistrar.Proofs.Operation.Misfit
import IdentifierRegistrar.Proofs.Operation.Thorough
import IdentifierRegistrar.Proofs.Run.Sweeping

/-! What becomes of a record whose value its agency found malformed. The operation that is told so
ends, or goes on with other records, and leaves no trace of it in the row. So a later sweep asks the
agency again exactly if the record carries no marker, and it carries one only if it was marked before
and a release has driven it all the same (`malformed_resumed`). -/

namespace IdentifierRegistrar

open Service Operation

namespace Service

def CalledFor (past : List Exchange) (v : IdentifierValue) : Prop :=
  ∃ scheme c x, (⟨.agency scheme (.change c), x⟩ : Exchange) ∈ past ∧ c.value = v

theorem Lists.unique {past : List Exchange} {rs rs' : List Record} (h : Lists past rs)
    (h' : Lists past rs') : rs = rs' := by
  cases Option.some.inj (h.symm.trans h')
  rfl

theorem Called.calledFor {past : List Exchange} {r : Record} (h : Called past r) :
    CalledFor past r.value := by
  obtain ⟨c, x, hmem, hc⟩ := h
  exact ⟨r.scheme, c, x, hmem, hc.1⟩

end Service

namespace Run

variable {g : Registrar} (x : Run g)

theorem regular_of_answer {t i : Nat} {q : Request} {r : Reply q}
    (h : x.event t = .answer i ⟨q, r⟩) : Regular q r := by
  cases q with
  | store call =>
    cases r with
    | error e => cases call <;> trivial
    | ok a =>
      have ha := x.ledger_answers h
      generalize x.ledger (t + 1) = m at ha
      cases ha with
      | listRetryable statuses =>
        exact fun hs => ⟨(x.ledger t).retryable_values_nodup hs,
          fun r hr => ((x.ledger t).mem_retryable.1 hr).2.2⟩
      | updated _ _ _ => rfl
      | _ => trivial
  | _ => trivial

theorem rest_leaving {t i : Nat} {p : Ongoing} (hp : (x.moment t).ongoing[i]? = some p) :
    p.rest.Meets (leaving p.errand.Heedful) (fun _ _ => True) p.past :=
  x.rest_meets_of (p.errand.operation_leaving g) (fun _ hev => ⟨rfl, x.regular_of_answer hev⟩) hp rfl

/-- A record that an operation holds has its row. -/
theorem row_of_held {t u i : Nat} {p : Ongoing} {r : Record}
    (hp : (x.moment t).ongoing[i]? = some p) (hr : r ∈ handed p.past) (htu : t ≤ u) :
    ∃ s, x.row u r.id = some s ∧ s.value = r.value := by
  obtain ⟨v, hv, y, hev, hy⟩ := x.handed_before hp hr
  obtain ⟨b, hrow⟩ := x.row_of_handed hev hy
  obtain ⟨s, hs, hdesc⟩ := x.row_descends hrow (show v + 1 ≤ u by omega)
  exact ⟨s, hs, hdesc.value⟩

theorem row_eq_of_value {t : Nat} {id id' : RecordId} {r s : Record} (hr : x.row t id = some r)
    (hs : x.row t id' = some s) (h : r.value = s.value) : r = s := by
  rw [row_eq] at hr hs
  exact Ledger.eq_of_value_eq (Ledger.mem_of_find hr) (Ledger.mem_of_find hs) h

/-- A change is asked for about a record that the operation holds, and only a release asks for what a
marked one asks. -/
theorem held_of_change {t i : Nat} {scheme : Scheme} {c : Agency.Change}
    {y : Except AgencyError Unit} (h : x.event t = .answer i ⟨.agency scheme (.change c), y⟩) :
    ∃ p r, (x.moment t).ongoing[i]? = some p ∧ r ∈ handed p.past ∧ r.scheme = scheme ∧ c.Suits r ∧
      r.Asks ∧ (p.errand.Heedful → r.attention = none) := by
  obtain ⟨⟨p, -, hp, -⟩, -⟩ := x.stretch.asked h
  obtain ⟨r, hr, hscheme, hc, hasks, hmark⟩ := x.stretch.allows_of_answer h hp (x.rest_leaving hp)
  exact ⟨p, r, hp, hr, hscheme, hc, hasks, hmark⟩

/-- Who was told that a value is malformed writes nothing under it. -/
theorem value_ne_of_malformed {t v i : Nat} {scheme : Scheme} {c : Agency.Change} {cause : IdError}
    (h : x.event t = .answer i ⟨.agency scheme (.change c), .error (.malformedValue cause)⟩)
    (htv : t < v) {d d' : Record} (hd : x.event v = .answer i ⟨.store (.update d), .ok d'⟩) :
    d.value ≠ c.value := by
  obtain ⟨⟨p, -, hp, -⟩, -⟩ := x.stretch.asked hd
  have hallows := x.stretch.allows_of_answer hd hp (x.rest_leaving hp)
  intro hv
  exact hallows ⟨scheme, c, cause, x.answer_mem_past h htv hp, hv.symm⟩

/-- What a sweep has asked an agency for, it has listed before. -/
theorem listed_of_called {w j : Nat} {q : Ongoing} (hq : (x.moment w).ongoing[j]? = some q)
    (hs : q.errand = .sweep) {scheme : Scheme} {c : Agency.Change} {y : Except AgencyError Unit}
    (hmem : (⟨.agency scheme (.change c), y⟩ : Exchange) ∈ q.past) :
    ∃ rs, Lists q.past rs ∧ ∃ r ∈ rs, c.value = r.value := by
  obtain ⟨pre, post, hpast⟩ := List.append_of_mem hmem
  obtain ⟨v, hv, -, p, hp, hppast, -, next, hrest⟩ := x.answered hq hpast
  obtain ⟨q', hq', herrand, -⟩ := x.stretch.forward hp (Nat.le_of_lt hv)
  obtain rfl := Option.some.inj (hq'.symm.trans hq)
  have hmeets := x.sweep_rest_meets hp (herrand.symm.trans hs)
  rw [hrest] at hmeets
  obtain ⟨r, ⟨rs, hrs, listed, hlisted, hid, hsame⟩, -, hc⟩ := hmeets.1
  have hlists : Lists q'.past rs := by
    rw [hpast, ← hppast]
    exact hrs.append _
  obtain ⟨past, hhead⟩ := List.head?_eq_some_iff.1 hlists
  rw [← List.nil_append (_ :: past)] at hhead
  obtain ⟨u, hu, hev, -⟩ := x.answered hq hhead
  obtain ⟨hrow, -⟩ := x.row_of_listed hev hlisted
  obtain ⟨rfl, -⟩ := hsame (x.status_ne_updateBeforeRegistration hrow)
  exact ⟨rs, hlists, listed, hlisted, hc.1⟩

/-- A sweep that has come to its end has tried all that it listed. -/
theorem tried_of_done {w j : Nat} {q : Ongoing} {report : Report}
    (hq : (x.moment w).ongoing[j]? = some q) (hs : q.errand = .sweep) (hdone : q.rest = .done report) :
    ∃ rs, Lists q.past rs ∧ ∀ r ∈ rs, Tried g q.past r := by
  have hmeets := x.rest_meets_of (S := replies) (e := .sweep) (Q := fun y later =>
    ∀ report, y = .ok report → ∃ rs, Lists later rs ∧ ∀ r ∈ rs, Tried g later r)
    (g.sweep_tries.bind (fun _ _ h _ _ => h _ rfl) fun _ _ _ => by simp) (fun _ _ => rfl) hq hs
  rw [hdone] at hmeets
  exact hmeets report rfl

/-- A listing at the head of what a sweep was answered came after the sweep had begun. -/
theorem listed_at {t w j : Nat} {q : Ongoing} {rs : List Record}
    (hlater : (x.moment t).ongoing[j]? = none) (hq : (x.moment w).ongoing[j]? = some q)
    (hlists : Lists q.past rs) :
    ∃ u, t < u ∧ u < w ∧ x.event u = .answer j ⟨.store (.listRetryable Status.intents), .ok rs⟩ := by
  obtain ⟨past, hpast⟩ := List.head?_eq_some_iff.1 hlists
  rw [← List.nil_append (_ :: past)] at hpast
  obtain ⟨u, hu, hev, p, hp, -⟩ := x.answered hq hpast
  refine ⟨u, Nat.lt_of_not_le fun hut => ?_, hu, hev⟩
  obtain ⟨p', hp', -⟩ := x.stretch.forward hp hut
  exact absurd (hp'.symm.trans hlater) (by simp)

/-- A request has written to the row of `id`, from time `t` on and before `u`. -/
def Requested (t u : Nat) (id : RecordId) : Prop :=
  ∃ v j p d d' id' a, t ≤ v ∧ v < u ∧ x.event v = .answer j ⟨.store (.update d), .ok d'⟩ ∧ d.id = id ∧
    (x.moment v).ongoing[j]? = some p ∧ p.errand = .execute id' a

/-- A marker stays until a request clears it. -/
theorem marked_until_requested {t u : Nat} {id : RecordId} {s : Record} (htu : t ≤ u)
    (hs : x.row t id = some s) (hmark : s.attention.isSome)
    (hlen : (x.history id u).length ≤ Word.count) (h : ¬ x.Requested t u id) :
    ∃ s', x.row u id = some s' ∧ s'.attention.isSome := by
  induction htu with
  | refl => exact ⟨s, hs, hmark⟩
  | @step u htu ih =>
    have hgrows : x.history id u <+: x.history id (u + 1) := x.history_grows (Nat.le_succ u)
    have hlen' := Nat.le_trans hgrows.length_le hlen
    obtain ⟨s', hs', hmark'⟩ := ih hlen' fun ⟨v, j, p, d, d', id', a, htv, hvu, hrest⟩ =>
      h ⟨v, j, p, d, d', id', a, htv, by omega, hrest⟩
    cases x.row_succ u id with
    | same hsame => exact ⟨s', hsame.trans hs', hmark'⟩
    | inserted _ _ hnone _ => exact absurd (hs'.symm.trans hnone) (by simp)
    | @written j _ d _ hw hid =>
      subst hid
      obtain ⟨-, p, c, s'', hp, hpermits, hw⟩ := x.licensed_writes_of_updated hw.answered
      obtain rfl := Option.some.inj (hs'.symm.trans hw.row)
      -- The copy that was written back is the row, so it was marked.
      have hc : c.attention.isSome := by
        rw [← hw.copy_eq hlen'] at hmark'
        exact hmark'
      refine ⟨_, hw.after, (hpermits.marker hc).resolve_right fun hunmarks => ?_⟩
      cases he : p.errand with
      | execute id' a => exact h ⟨u, j, p, d, _, id', a, htu, by omega, hw.answered, rfl, hp, he⟩
      | _ => rw [he] at hunmarks; exact hunmarks

/-- An agency has found a value malformed. The record is one that the operation holds, unmarked unless
the operation is a release, and the operation does not write to it any more. A sweep that begins later
asks for no change to it if its row was marked then and no request has written to it since; and if the
sweep finds the row as it was driven, and can ask, it asks exactly if the record is unmarked. -/
theorem malformed_resumed {t i : Nat} {scheme : Scheme} {c : Agency.Change} {cause : IdError}
    (h : x.event t = .answer i ⟨.agency scheme (.change c), .error (.malformedValue cause)⟩) :
    ∃ p r, (x.moment t).ongoing[i]? = some p ∧ r ∈ handed p.past ∧ r.scheme = scheme ∧ c.Suits r ∧
      (p.errand.Heedful → r.attention = none) ∧
      (∀ v d d', t < v → x.event v = .answer i ⟨.store (.update d), .ok d'⟩ → d.id ≠ r.id) ∧
      ∀ w j q, (x.moment t).ongoing[j]? = none → (x.moment w).ongoing[j]? = some q →
        q.errand = .sweep →
        (∀ s, x.row t r.id = some s → s.attention.isSome → ¬ x.Requested t w r.id →
          (x.history r.id w).length ≤ Word.count → ¬ CalledFor q.past r.value) ∧
        ∀ report, q.rest = .done report → ∃ (u : Nat) (rs : List Record), t < u ∧ u < w ∧
          x.event u = .answer j ⟨.store (.listRetryable Status.intents), .ok rs⟩ ∧
          (x.row (u + 1) r.id = some r → g.connected scheme → Located q.past r →
            (CalledFor q.past r.value ↔ r.attention = none)) := by
  obtain ⟨p, r, hp, hr, rfl, hc, hasks, hmark⟩ := x.held_of_change h
  have hvalue {u : Nat} {s : Record} (htu : t ≤ u) (hs : x.row u r.id = some s) :
      s.value = r.value := by
    obtain ⟨s', hs', hv⟩ := x.row_of_held hp hr htu
    obtain rfl := Option.some.inj (hs'.symm.trans hs)
    exact hv
  refine ⟨p, r, hp, hr, rfl, hc, hmark, fun v d d' htv hd hid => ?_, fun w j q hlater hq hs => ?_⟩
  · -- What is written is written under the value of its row.
    obtain ⟨-, c', s, hw⟩ := x.writes_of_updated hd
    obtain ⟨p', hp', hc', -⟩ := hw.copy
    obtain ⟨s', hs', hv⟩ := x.row_of_held hp' hc' (Nat.le_refl v)
    rw [← hw.revision.id] at hs'
    refine x.value_ne_of_malformed h htv hd ?_
    rw [hw.revision.value, ← hv, hvalue (Nat.le_of_lt htv) (hid ▸ hs'), hc.1]
  -- A call for the value belongs to the row, which the sweep has listed unmarked.
  have hunmarked {u : Nat} {rs : List Record} {s : Record} (hlists : Lists q.past rs) (htu : t < u)
      (hev : x.event u = .answer j ⟨.store (.listRetryable Status.intents), .ok rs⟩)
      (hrow : x.row (u + 1) r.id = some s) (hcalled : CalledFor q.past r.value) :
      s.attention = none := by
    obtain ⟨scheme', c', y, hmem, hv⟩ := hcalled
    obtain ⟨rs', hlists', listed, hlisted, hv'⟩ := x.listed_of_called hq hs hmem
    obtain rfl := hlists.unique hlists'
    obtain ⟨hrow', hnone⟩ := x.row_of_listed hev hlisted
    obtain rfl := x.row_eq_of_value hrow hrow'
      ((hvalue (Nat.le_succ_of_le (Nat.le_of_lt htu)) hrow).trans (hv.symm.trans hv'))
    exact hnone
  refine ⟨fun s hrow hmarked hrequested hlen hcalled => ?_, fun report hdone => ?_⟩
  · obtain ⟨scheme', c', y, hmem, -⟩ := id hcalled
    obtain ⟨rs, hlists, -⟩ := x.listed_of_called hq hs hmem
    obtain ⟨u, htu, huw, hev⟩ := x.listed_at hlater hq hlists
    have hgrows : x.history r.id (u + 1) <+: x.history r.id w := x.history_grows huw
    obtain ⟨s', hs', hmarked'⟩ := x.marked_until_requested (show t ≤ u + 1 by omega) hrow hmarked
      (Nat.le_trans hgrows.length_le hlen) fun ⟨v, j, p, d, d', id', a, htv, hvu, hrest⟩ =>
        hrequested ⟨v, j, p, d, d', id', a, htv, by omega, hrest⟩
    rw [hunmarked hlists htu hev hs' hcalled] at hmarked'
    cases hmarked'
  · obtain ⟨rs, hlists, htried⟩ := x.tried_of_done hq hs hdone
    obtain ⟨u, htu, huw, hev⟩ := x.listed_at hlater hq hlists
    refine ⟨u, rs, htu, huw, hev, fun hrow hconn hlocated => ⟨hunmarked hlists htu hev hrow, ?_⟩⟩
    intro hnone
    have hlisted : r ∈ rs := by
      have ha := x.ledger_answers hev
      rw [row_eq] at hrow
      generalize x.ledger (u + 1) = m at ha hrow
      cases ha with
      | listRetryable _ => exact (Ledger.mem_retryable _).2 ⟨Ledger.mem_of_find hrow, hasks.intent, hnone⟩
    exact (htried r hlisted hasks hconn hlocated).calledFor

/-- What was found malformed is spared: no sweep that begins later asks for a change under the value
until a request has begun. -/
def Spares : Prop :=
  ∀ t i scheme c cause,
    x.event t = .answer i ⟨.agency scheme (.change c), .error (.malformedValue cause)⟩ →
    ∀ v j q scheme' c', t < v → (x.moment t).ongoing[j]? = none →
      (x.moment v).ongoing[j]? = some q → q.errand = .sweep →
      x.event v = .issue j (.agency scheme' (.change c')) → c'.value = c.value →
        ∃ k id a, t < k ∧ k < v ∧ x.event k = .start (.execute id a)

end Run

section Doubting

def doubt : AgencyError := .malformedValue (.malformed .dark onlyValue.text)

def doubting : Surroundings Nat where
  lookup := obliging.lookup
  agency scheme call s := match call with
    | .change _ => (.error doubt, s)
    | call => obliging.agency scheme call s
  freshId := obliging.freshId
  now := obliging.now

theorem doubting_answers (q : Request) (s : Table × Nat) :
    Answers s.1 q (doubting.answer q s).1 (doubting.answer q s).2.1 := by
  cases q with
  | agency scheme call => cases call <;> rfl
  | _ => rfl

/-- An identifier is minted, its registration ends because the agency finds the value malformed, and
then a sweep runs to its end. -/
def runDoubted : Run ⟨fun _ => true, .standard⟩ :=
  .ofSchedule _ doubting_answers 0 <|
    .start (.mint ⟨0⟩ .dark) :: List.replicate 8 (.go 0) ++
    .start (.execute ⟨0⟩ .register) :: List.replicate 7 (.go 1) ++
    .start .sweep :: List.replicate 5 (.go 2)

def Event.requests : Event → Bool
  | .start (.execute _ _) => true
  | _ => false

def Event.malformed? : Event → Option (Nat × Scheme × Agency.Change × IdError)
  | .answer i ⟨.agency scheme (.change c), .error (.malformedValue cause)⟩ => some (i, scheme, c, cause)
  | _ => none

theorem Event.eq_of_malformed? {ev : Event} {i : Nat} {scheme : Scheme} {c : Agency.Change}
    {cause : IdError} (h : ev.malformed? = some (i, scheme, c, cause)) :
    ev = .answer i ⟨.agency scheme (.change c), .error (.malformedValue cause)⟩ := by
  unfold Event.malformed? at h
  split at h
  · cases h
    rfl
  · cases h

theorem runDoubted_malformed : runDoubted.event 16 = .answer 1
    ⟨.agency .dark (.change bareRegistration), .error doubt⟩ :=
  Event.eq_of_malformed? (by decide +kernel)

def doubted : Record := ⟨⟨0⟩, onlyValue, some ⟨0⟩, .item, .toBeRegistered, none, 1, .epoch, .epoch⟩

/-- The registration held the record as it was minted and as it was to be registered. -/
theorem runDoubted_holds : ((runDoubted.moment 16).ongoing[1]?.map fun p => (p.errand, handed p.past)) =
    some (.execute ⟨0⟩ .register, [{ doubted with status := .minted, version := 0 }, doubted]) := by
  decide +kernel

theorem runDoubted_located {w j : Nat} {q : Ongoing} (hq : (runDoubted.moment w).ongoing[j]? = some q)
    (r : Record) : Located q.past r := by
  intro resource y _ hmem
  obtain ⟨pre, post, hpast⟩ := List.append_of_mem hmem
  obtain ⟨u, -, hev, -⟩ := runDoubted.answered hq hpast
  obtain ⟨before, rfl⟩ := Run.reply_of_answers doubting_answers hev
  exact ⟨_, rfl⟩

/-- The registration had asked for what an unmarked record asks, and the sweep has asked for it again. -/
theorem malformed_unmarked : ∃ r q, bareRegistration.Suits r ∧ r.attention = none ∧
    (runDoubted.moment 23).ongoing[2]? = some q ∧ q.errand = .sweep ∧ CalledFor q.past r.value := by
  obtain ⟨p, r, hp, hr, -, hc, hmark, -, hlater⟩ := runDoubted.malformed_resumed runDoubted_malformed
  have hholds := runDoubted_holds
  rw [hp] at hholds
  obtain ⟨he, hhanded⟩ := Prod.mk.inj (Option.some.inj hholds)
  have hunmarked : r.attention = none := hmark fun resource => by simp [he]
  have hr : r = doubted := by
    rw [hhanded] at hr
    rcases List.mem_pair.1 hr with rfl | rfl
    · cases hc.2
    · rfl
  subst hr
  have hends : ((runDoubted.moment 23).ongoing[2]?.map fun q => (q.errand, q.ends?)) =
      some (.sweep, some (.ok (.stats ⟨1, 0, 0, 0, 1⟩))) := by
    decide +kernel
  obtain ⟨q, hq, heq⟩ := Option.map_eq_some_iff.1 hends
  obtain ⟨hs, hdone⟩ := Prod.mk.inj heq
  obtain ⟨-, htries⟩ := hlater 23 2 q (by decide +kernel) hq hs
  obtain ⟨u, rs, hu, hu', -, hcalled⟩ := htries _ (Ongoing.rest_eq_done hdone)
  have hrow : ∀ v < 23, 16 < v → runDoubted.row (v + 1) ⟨0⟩ = some doubted := by
    decide +kernel
  exact ⟨doubted, q, hc, hunmarked, hq, hs,
    (hcalled (hrow u hu' hu) rfl (runDoubted_located hq doubted)).2 hunmarked⟩

/-- The sweep asks for the registration again. -/
theorem not_spares_malformed : ¬ runDoubted.Spares := by
  intro h
  have hasks : runDoubted.asksAt 21 = some (.sweep, 2, .dark, bareRegistration) := by
    decide +kernel
  obtain ⟨hev, q, hq, hs⟩ := Run.issue_of_asksAt hasks
  have hnone : (runDoubted.moment 16).ongoing.length = 2 := by
    decide +kernel
  obtain ⟨k, id, a, hk, hk', hstart⟩ := h 16 1 .dark bareRegistration _ runDoubted_malformed 21 2 q
    .dark bareRegistration (by decide) (by simp [hnone]) hq hs hev rfl
  have hquiet : ∀ k < 21, 16 < k → (runDoubted.event k).requests = false := by
    decide +kernel
  have hrequest := hquiet k hk' hk
  rw [hstart] at hrequest
  cases hrequest

end Doubting

end IdentifierRegistrar
