import IdentifierRegistrar.Proofs.Operation.Sweep
import IdentifierRegistrar.Proofs.Run.History
import IdentifierRegistrar.Proofs.Run.Schedule

/-! A sweep among other operations. Between the listing of a record and its turn the row may have
been written to by others: the sweep asks the agency for what the record asked when it was listed,
and that is what the row asks at the time exactly if nobody has written to it since. -/

namespace IdentifierRegistrar

open Service Operation

namespace Run

variable {g : Registrar} (x : Run g)

/-- After `u` and before `t` another operation than `i` has written to the row of `id`. -/
def Overtaken (u t i : Nat) (id : RecordId) : Prop :=
  ∃ v j d, u < v ∧ v < t ∧ j ≠ i ∧ d.id = id ∧ x.event v = .answer j ⟨.store (.update d), .ok d.next⟩

theorem plausible_of_answer {t i : Nat} {q : Request} {r : Reply q}
    (h : x.event t = .answer i ⟨q, r⟩) : Plausible q r := by
  cases q with
  | store call =>
    cases r with
    | error e => cases call <;> trivial
    | ok a =>
      have ha := x.ledger_answers h
      generalize x.ledger (t + 1) = m at ha
      cases ha with
      | listRetryable statuses => exact (x.ledger t).retryable_ids_nodup
      | updated _ _ _ => rfl
      | _ => trivial
  | _ => trivial

theorem sweep_rest_meets {t i : Nat} {p : Ongoing} (hp : (x.moment t).ongoing[i]? = some p)
    (hs : p.errand = .sweep) : p.rest.Meets turns (fun _ _ => True) p.past := by
  refine x.rest_meets_of (S := turns) ?_ (fun past hev => ⟨rfl, x.plausible_of_answer hev⟩) hp hs
  exact g.sweep_turns.bind (fun _ _ _ => trivial) fun _ _ _ => trivial

/-- A record that is listed is the row, and unmarked. -/
theorem row_of_listed {u i : Nat} {statuses : List Status} {rs : List Record} {r : Record}
    (h : x.event u = .answer i ⟨.store (.listRetryable statuses), .ok rs⟩) (hr : r ∈ rs) :
    x.row (u + 1) r.id = some r ∧ r.attention = none := by
  have ha := x.ledger_answers h
  generalize hm : x.ledger (u + 1) = m at ha
  cases ha with
  | listRetryable statuses =>
    obtain ⟨hmem, -, hmark⟩ := (x.ledger u).mem_retryable.1 hr
    rw [row_eq, hm]
    exact ⟨Ledger.find_of_mem hmem, hmark⟩

/-- A row changes only by a write. -/
theorem row_of_unwritten {u t : Nat} {id : RecordId} {r : Record} (hut : u ≤ t)
    (hr : x.row u id = some r)
    (h : ∀ v j d, u ≤ v → v < t → d.id = id →
      x.event v ≠ .answer j ⟨.store (.update d), .ok d.next⟩) : x.row t id = some r := by
  induction hut with
  | refl => exact hr
  | @step t hut ih =>
    have hrow := ih fun v j d huv hvt => h v j d huv (by omega)
    cases x.row_succ t id with
    | same hsame => exact hsame.trans hrow
    | inserted _ _ hnone _ => exact absurd (hrow.symm.trans hnone) (by simp)
    | @written j c d s hw hid => exact absurd hw.answered (h t j d hut (by omega) hid)

theorem row_of_not_overtaken {u t i : Nat} {r : Record} {p : Ongoing} (hut : u < t)
    (hp : (x.moment t).ongoing[i]? = some p) (hclean : Untouched p.past r.id)
    (hr : x.row (u + 1) r.id = some r) (h : ¬ x.Overtaken u t i r.id) :
    x.row t r.id = some r := by
  refine x.row_of_unwritten hut hr fun v j d huv hvt hid hev => ?_
  by_cases hj : j = i
  · subst hj
    exact hclean d d.next (x.answer_mem_past hev hvt hp) hid
  · exact h ⟨v, j, d, by omega, hvt, hj, hid, hev⟩

/-- Who is overtaken finds another row. -/
theorem row_ne_of_overtaken {u t i : Nat} {r : Record} (hr : x.row (u + 1) r.id = some r)
    (hlen : (x.history r.id t).length ≤ Word.count) (h : x.Overtaken u t i r.id) :
    x.row t r.id ≠ some r := by
  intro ht
  obtain ⟨v, j, d, huv, hvt, -, hid, hev⟩ := h
  have hsame {k : Nat} (huk : u + 1 ≤ k) (hkt : k ≤ t) : x.row k d.id = some r :=
    hid ▸ x.row_between hr ht (by omega) rfl hlen huk hkt
  obtain ⟨s, hs⟩ := x.history_updated hev
  have heq : x.history d.id (v + 1) = x.history d.id v :=
    x.history_succ_of_eq ((hsame (by omega) (by omega)).trans (hsame (by omega) (by omega)).symm)
  exact absurd (hs.symm.trans heq) (by simp)

/-- What a sweep asks an agency for is what an unmarked record asked for when the sweep listed it, and
what its row still asks for exactly if no other operation has overtaken the sweep. -/
theorem sweep_asks {t i : Nat} {scheme : Scheme} {c : Agency.Change} {p : Ongoing}
    (h : x.event t = .issue i (.agency scheme (.change c)))
    (hp : (x.moment t).ongoing[i]? = some p) (hs : p.errand = .sweep) :
    ∃ u < t, ∃ rs : List Record, x.event u = .answer i ⟨.store (.listRetryable Status.intents), .ok rs⟩ ∧
      ∃ r ∈ rs, r.scheme = scheme ∧ c.Suits r ∧ r.attention = none ∧
        x.row (u + 1) r.id = some r ∧ (x.row t r.id = some r ∨ x.Overtaken u t i r.id) ∧
        ((x.history r.id t).length ≤ Word.count →
          (x.row t r.id = some r ↔ ¬ x.Overtaken u t i r.id)) := by
  have hmeets := x.sweep_rest_meets hp hs
  have hstep := x.step t
  rw [h] at hstep
  generalize x.moment (t + 1) = s' at hstep
  cases hstep with
  | @issue _ p' _ next hp' hrest _ _ =>
    obtain rfl := Option.some.inj (hp'.symm.trans hp)
    rw [hrest] at hmeets
    obtain ⟨r, ⟨rs, hrs, listed, hmem, hid, hsame⟩, hscheme, hsuits⟩ := hmeets.1
    obtain ⟨past, hpast⟩ := List.head?_eq_some_iff.1 hrs
    rw [← List.nil_append (_ :: past)] at hpast
    obtain ⟨u, hut, hev, -⟩ := x.answered hp hpast
    obtain ⟨hrow, hmark⟩ := x.row_of_listed hev hmem
    obtain ⟨rfl, hclean⟩ := hsame (x.status_ne_updateBeforeRegistration hrow)
    have hkept := x.row_of_not_overtaken hut hp hclean hrow
    refine ⟨u, hut, rs, hev, listed, hmem, hscheme, hsuits, hmark, hrow, ?_, fun hlen => ?_⟩
    · by_cases hover : x.Overtaken u t i listed.id
      · exact .inr hover
      · exact .inl (hkept hover)
    · exact ⟨fun h hover => x.row_ne_of_overtaken hrow hlen hover h, hkept⟩

end Run

section Overtaking

def onlyValue : IdentifierValue := ⟨.dark, "dark:/e/f", by decide⟩

def obliging : Surroundings Nat where
  lookup resource s := (.ok (some ⟨resource, .item, none, []⟩), s)
  agency _ call s := match call with
    | .mint _ => (.ok onlyValue, s)
    | .change _ => (.ok (), s)
    | .isReserved _ | .isRegistered _ => (.ok false, s)
  freshId n := (⟨n⟩, n + 1)
  now n := (.epoch, n)

theorem obliging_answers (q : Request) (s : Table × Nat) :
    Answers s.1 q (obliging.answer q s).1 (obliging.answer q s).2.1 := by
  cases q with
  | agency scheme call => cases call <;> rfl
  | _ => rfl

/-- An identifier is minted, and its registration stops at the agency. A sweep lists it and asks the
directory for its resource; others go on meanwhile, and then the sweep goes on. -/
def sweepAmid (others : List Command) : List Command :=
  .start (.mint ⟨0⟩ .dark) :: List.replicate 8 (.go 0) ++
  .start (.execute ⟨0⟩ .register) :: List.replicate 6 (.go 1) ++
  .start .sweep :: List.replicate 2 (.go 2) ++ others ++ List.replicate 2 (.go 2)

def runAmid (others : List Command) : Run ⟨fun _ => true, .standard⟩ :=
  .ofSchedule _ obliging_answers 0 (sweepAmid others)

def bareRegistration : Agency.Change := .register (.bare onlyValue)

/-- A sweep that nobody comes in between asks for what the row asks for. -/
theorem sweep_asks_undisturbed : ∃ r : Record, bareRegistration.Suits r ∧ r.attention = none ∧
    (runAmid []).row 20 r.id = some r := by
  have hasks : (runAmid []).asksAt 20 = some (.sweep, 2, .dark, bareRegistration) := by
    decide +kernel
  obtain ⟨hev, p, hp, hs⟩ := Run.issue_of_asksAt hasks
  obtain ⟨u, hu, rs, hlist, r, -, -, hsuits, hmark, -, hrow | hover, -⟩ :=
    (runAmid []).sweep_asks hev hp hs
  · exact ⟨r, hsuits, hmark, hrow⟩
  · -- From the listing on all steps are the sweep's.
    obtain ⟨v, j, d, huv, hv, hj, -, hwrite⟩ := hover
    have hown : ∀ v < 20, ((runAmid []).event v).actor? = some 2 ↔ 17 ≤ v := by
      decide +kernel
    have hu17 := (hown u hu).1 (by rw [hlist]; rfl)
    have hactor := (hown v hv).2 (by omega)
    rw [hwrite] at hactor
    exact absurd (Option.some.inj hactor) hj

def deletion : List Command := .start (.execute ⟨0⟩ .delete) :: List.replicate 7 (.go 3)

theorem cooperative_amid_deletion : (runAmid deletion).Cooperative := by
  have hwithin : ∀ t < (sweepAmid deletion).length, (((runAmid deletion).event t).actor?.all
      ((runAmid deletion).moment t).yieldsTo) = true := by
    decide +kernel
  intro t j hj
  by_cases ht : t < (sweepAmid deletion).length
  · have h := hwithin t ht
    rw [hj] at h
    exact h
  · have hidle : (runAmid deletion).event t = .idle := by
      have hnone : (sweepAmid deletion)[t]? = none :=
        List.getElem?_eq_none_iff.2 (Nat.le_of_not_lt ht)
      simp only [runAmid, Run.ofSchedule, hnone]
    rw [hidle] at hj
    cases hj

/-- The identifier is deleted while the sweep waits for the directory; then the sweep asks for its
registration. -/
theorem deleted_registered : ∃ t i p r, (runAmid deletion).Cooperative ∧
    (runAmid deletion).event t = .issue i (.agency .dark (.change bareRegistration)) ∧
    ((runAmid deletion).moment t).ongoing[i]? = some p ∧ p.errand = .sweep ∧
    bareRegistration.value = r.value ∧ (runAmid deletion).row t r.id = some r ∧
    r.status = .deleted := by
  have hasks : (runAmid deletion).asksAt 28 = some (.sweep, 2, .dark, bareRegistration) := by
    decide +kernel
  have hrow : ∃ r, (runAmid deletion).row 28 ⟨0⟩ = some r ∧ r.id = ⟨0⟩ ∧
      r.value = bareRegistration.value ∧ r.status = .deleted := by
    refine ⟨⟨⟨0⟩, bareRegistration.value, some ⟨0⟩, .item, .deleted, none, 3, .epoch, .epoch⟩, ?_⟩
    decide +kernel
  obtain ⟨hev, p, hp, hs⟩ := Run.issue_of_asksAt hasks
  obtain ⟨r, hr, hid, hvalue, hdeleted⟩ := hrow
  exact ⟨28, 2, p, r, cooperative_amid_deletion, hev, hp, hs, hvalue.symm, hid.symm ▸ hr, hdeleted⟩

end Overtaking

end IdentifierRegistrar
