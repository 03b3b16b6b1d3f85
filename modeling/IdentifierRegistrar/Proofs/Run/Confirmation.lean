import IdentifierRegistrar.Proofs.Run.Sweeping

/-! A status of rest stands for what the agency has agreed to. The write that brings a record to rest
comes from an operation that asked the agency for what the record's intent asks and was told yes,
and from before it asked until that write nobody else wrote to the row. -/

namespace IdentifierRegistrar

open Service Operation

namespace Run

variable {g : Registrar} (x : Run g)

/-- Before time `t`, operation `i` asked the agency for what the intent of `r` asks and was told yes.
From then on, until time `t`, the row was `r`. -/
def Agreed (t i : Nat) (r : Record) : Prop :=
  ∃ u v c, u < v ∧ v < t ∧ x.event u = .issue i (.agency r.scheme (.change c)) ∧
    x.event v = .answer i ⟨.agency r.scheme (.change c), .ok ()⟩ ∧ c.Suits r ∧
    ∀ k, u ≤ k → k ≤ t → x.row k r.id = some r

/-- Before time `t`, operation `i` had `r` from the store, by reading or by writing it, and the row
stood at it then. -/
def Held (t i : Nat) (r : Record) : Prop :=
  ∃ u y c, u < t ∧ x.event u = .answer i y ∧ c ∈ handedBy y.1 y.2 ∧ r.id = c.id ∧
    r.version = c.version ∧ r.status = c.status ∧ x.row (u + 1) r.id = some r

theorem Writes.agreed {x : Run g} {t i : Nat} {c d s : Record} (hw : x.Writes t i c d s)
    (hne : d.status ≠ s.status) (hrest : d.status ∈ Status.confirmedOnes)
    (hlen : (x.history d.id t).length ≤ Word.count) : x.Agreed t i s := by
  have hcopy := hw.copy_eq hlen
  obtain ⟨p, hp, hc, hg⟩ := hw.copy
  obtain ⟨pre, change, post, hpast, hpre, hsuits⟩ := hg (by rwa [← hcopy] at hne) hrest
  -- The call was answered at `v` and sent out at `u`, when the operation held its copy already.
  obtain ⟨v, hv, hanswer, q, hq, hqpast, hwaits, next, hrest⟩ := x.answered hp hpast
  obtain ⟨u, hu, hissue, q', hq', hqpast'⟩ := x.issued hq hwaits hrest
  obtain ⟨w, hwu, y, hev, hy⟩ := x.handed_before hq' (by rwa [hqpast', hqpast])
  have hrow := x.row_of_handed_eq hev hy (hw.revision.id ▸
    Nat.le_trans (x.history_grows (by omega)).length_le hlen)
  subst hcopy
  refine ⟨u, v, change, hu, hv, hissue, hanswer, hsuits, fun k huk hkt => ?_⟩
  have hk := hw.row_between hrow (by omega) hlen (by omega : w < k) hkt
  rwa [hw.revision.id] at hk

/-- A record is brought to rest, at a status it was not at, only by an operation whose agency agreed
to what the record's intent asks, with the row unchanged all the while; and an operation asks an
agency for a change only if it held a record from the store whose intent asks for it. -/
theorem confirmed_of_agreed :
    (∀ (t : Nat) (id : RecordId) (r s : Record), x.row t id = some r → x.row (t + 1) id = some s →
      s.status ≠ r.status → s.status ∈ Status.confirmedOnes →
      (x.history id t).length ≤ Word.count →
        ∃ i d d', x.event t = .answer i ⟨.store (.update d), .ok d'⟩ ∧ x.Agreed t i r) ∧
      ∀ (t i : Nat) (scheme : Scheme) (c : Agency.Change),
        x.event t = .issue i (.agency scheme (.change c)) →
          ∃ r, x.Held t i r ∧ r.scheme = scheme ∧ c.Suits r := by
  constructor
  · intro t id r s hr hs hne hrest hlen
    cases x.row_succ t id with
    | same h =>
      obtain rfl := Option.some.inj (hs.symm.trans (h.trans hr))
      exact absurd rfl hne
    | inserted _ _ hnone _ => exact absurd (hr.symm.trans hnone) (by simp)
    | @written i c d _ hw hid =>
      subst hid
      obtain rfl := Option.some.inj (hr.symm.trans hw.row)
      obtain rfl := Option.some.inj (hs.symm.trans hw.after)
      exact ⟨i, d, _, hw.answered, hw.agreed hne hrest hlen⟩
  · intro t i scheme c h
    obtain ⟨p, hp, r, hr, hscheme, hsuits⟩ := x.lawful_of_issue h
    obtain ⟨u, hu, y, hev, hy⟩ := x.handed_before hp hr
    obtain ⟨b, hrow⟩ := x.row_of_handed hev hy
    exact ⟨r.stored.rebound b, ⟨u, y, r, hu, hev, hy, rfl, rfl, rfl, hrow⟩, hscheme, hsuits⟩

/-- The identifier is deleted while a sweep waits: the operation that wrote so had been told yes, and had
held the record before it asked. -/
theorem deletion_agreed : ∃ i r r', (runAmid deletion).Agreed 26 i r ∧ r.status = .toBeDeleted ∧
    (runAmid deletion).Held 23 3 r' ∧ (Agency.Change.delete onlyValue).Suits r' := by
  have hrows : (runAmid deletion).row 26 ⟨0⟩ =
        some ⟨⟨0⟩, onlyValue, some ⟨0⟩, .item, .toBeDeleted, none, 2, .epoch, .epoch⟩ ∧
      (runAmid deletion).row 27 ⟨0⟩ =
        some ⟨⟨0⟩, onlyValue, some ⟨0⟩, .item, .deleted, none, 3, .epoch, .epoch⟩ := by
    decide +kernel
  have hlen : ((runAmid deletion).history ⟨0⟩ 26).length ≤ Word.count := by
    decide +kernel
  have hasks : (runAmid deletion).asksAt 23 = some (.execute ⟨0⟩ .delete, 3, .dark, .delete onlyValue) := by
    decide +kernel
  obtain ⟨hconfirmed, hheld⟩ := (runAmid deletion).confirmed_of_agreed
  obtain ⟨i, -, -, -, hagreed⟩ := hconfirmed 26 ⟨0⟩ _ _ hrows.1 hrows.2 (by decide) (by decide) hlen
  obtain ⟨r', hr', -, hsuits⟩ := hheld 23 3 _ _ (issue_of_asksAt hasks).1
  exact ⟨i, _, r', hagreed, rfl, hr', hsuits⟩

end Run

end IdentifierRegistrar
