import IdentifierRegistrar.Proofs.Course.Outcomes

/-! Records that have lost their resource and are to tell of it. Whoever drives one leaves it for an operator
and asks nobody outside. A request has written the statuses of its plan by then: it leaves the status as it
was exactly if there were none to write. A sweep writes none (`orphan_parked`). -/

namespace IdentifierRegistrar

open Service Operation Handling

theorem Action.getLastD_eq_self_iff {a : Action} {s : Status} {steps : List Status}
    (h : a.plan s = .ok (.drive steps)) : steps.getLastD s = s ↔ steps = [] := by
  cases a <;> cases s <;> cases h <;> decide

namespace Registrar

variable {σ : Type} {g : Registrar} {w : World σ} {t : Table}

/-- A sweep leaves each orphaned record that it finds, unless it is to be deleted, for an operator, at the
status at which it was. -/
theorem Round.parks {u u' : σ} {hs : List (Handling σ)} (hround : g.Round w t u hs u')
    (hcanonical : ∀ row ∈ t, row.isRetryable Status.intents = true → row.Canonical) {row : Row} {r : Record}
    (hrow : row ∈ t) (hr : row.record = .ok r) (hsends : Sends r) (hm : r.attention = none)
    (ho : r.resource = none) : ∃ h ∈ hs, h.row = row ∧ h.record = r ∧
      ∃ s, Table.get? (t.map (leftOf hs)) r.id = .ok (some s) ∧
        GivenUp r.status orphanMessage h.result (remotes h.exchanges) s := by
  have hretry : row.isRetryable Status.intents = true :=
    (Row.isRetryable_iff_of_record hr).2 ⟨hsends.1, hm⟩
  obtain ⟨h, hh, rfl⟩ := List.mem_map.1 ((hround.mem hrow).1 hretry)
  obtain rfl := Except.ok.inj ((hround.decoded h hh).symm.trans hr)
  have hkeeps : h.row.Keeps h.record := ⟨(hcanonical _ hrow hretry).hasId hr, hr⟩
  have hstored : h.row.Keeps h.record.stored := by rwa [Row.stored_of_record hr]
  obtain ⟨s, hleft, hgiven⟩ :=
    (drive_orphaned (g := g) hstored hsends ho h.start).of_inPlace (hround.alone h hh)
  exact ⟨h, hh, rfl, rfl, s, hround.get? hh hkeeps hleft, hgiven⟩

/-- A record that is to tell of its resource and has none is left for an operator, by a request as well as
by a sweep, with the reason as its marker, and nobody outside is asked. A request leaves it at the last
status of its plan, so at the status where it was exactly if the plan writes none; a sweep leaves it where
it was. -/
theorem orphan_parked (g : Registrar) (w : World σ) (hsound : t.Sound) (u : σ) :
    (∀ id r a steps, t.get? id = .ok (some r) → r.resource = none → a ≠ .delete →
      a.plan r.status = .ok (.drive steps) →
      ∃ before row left after s u', t = before ++ row :: after ∧
        (g.execute id a).run w.answer (t, u) =
          (.ok (.needsAttention s.status orphanMessage), before ++ left :: after, u') ∧
        remotes ((g.execute id a).exchanges w.answer (t, u)) = [] ∧
        Table.get? (before ++ left :: after) id = .ok (some s) ∧ s.attention = some orphanMessage ∧
        s.status = steps.getLastD r.status ∧ (s.status = r.status ↔ steps = [])) ∧
    ((∀ row ∈ t, row.isRetryable Status.intents = true → row.Canonical) →
      t.Decodes Status.intents → ∃ hs u', g.Round w t u hs u' ∧
        ∀ row ∈ t, ∀ r, row.record = .ok r → Sends r → r.attention = none → r.resource = none →
          ∃ h ∈ hs, h.row = row ∧ h.record = r ∧
            ∃ s, Table.get? (t.map (leftOf hs)) r.id = .ok (some s) ∧
              GivenUp r.status orphanMessage h.result (remotes h.exchanges) s) := by
  constructor
  · intro id r a steps hr ho ha hplan
    obtain ⟨rfl, hshows⟩ := hsound.shows hr
    obtain ⟨row, hmem, hrow⟩ := hshows.keeps
    obtain ⟨before, after, rfl⟩ := List.append_of_mem hmem
    obtain ⟨x, left, s, u', hrun, hget, hgiven⟩ :=
      (execute_parks (w := w) (g := g) hrow hplan ho ha u).run hsound hrow.id
    refine ⟨before, row, left, after, s, u', rfl, ?_, hgiven.quiet, hget, hgiven.marker, hgiven.status, ?_⟩
    · rw [hrun, hgiven.result, hgiven.status]
    · rw [hgiven.status]
      exact Action.getLastD_eq_self_iff hplan
  · intro hcanonical hdecodes
    obtain ⟨hs, u', hround⟩ := exists_round g w hsound hcanonical hdecodes u
    refine ⟨hs, u', hround, fun row hrow r hr hsends hm ho => ?_⟩
    exact hround.parks hcanonical hrow hr hsends hm ho

/-- The orphan of the sample is at its intent, so a request for its reservation leaves it where it is, as a
sweep does. -/
theorem sampleOrphan_parked :
    (∃ t' u' s, (execute ⟨fun _ => true, .standard⟩ ⟨11⟩ .reserve).run
        (World.rehearsal fun n : Nat => (.ok (), n + 1)).answer (Table.sample, 0) =
          (.ok (.needsAttention .toBeReserved orphanMessage), t', u') ∧
      Table.get? t' ⟨11⟩ = .ok (some s) ∧ s.status = .toBeReserved ∧ s.attention = some orphanMessage) ∧
    ∃ hs u', Round ⟨fun _ => true, .standard⟩ (World.rehearsal fun n : Nat => (.ok (), n + 1))
        Table.sample 0 hs u' ∧
      ∃ s, Table.get? (Table.sample.map (leftOf hs)) ⟨11⟩ = .ok (some s) ∧
        s.status = .toBeReserved ∧ s.attention = some orphanMessage := by
  obtain ⟨hexecute, hsweep⟩ := orphan_parked ⟨fun _ => true, .standard⟩
    (World.rehearsal fun n : Nat => (.ok (), n + 1)) Table.sample_sound 0
  constructor
  · obtain ⟨_, _, _, _, s, u', -, hrun, -, hget, hmark, hstatus, -⟩ :=
      hexecute ⟨11⟩ .sampleOrphan .reserve [] (by decide +kernel) rfl (by decide) rfl
    have hintent : s.status = .toBeReserved := hstatus
    rw [hintent] at hrun
    exact ⟨_, u', s, hrun, hget, hintent, hmark⟩
  · obtain ⟨hs, u', hround, hparked⟩ := hsweep Table.sample_canonical Table.sample_decodes
    obtain ⟨_, -, -, -, s, hget, hgiven⟩ := hparked (.ofRecord .sampleOrphan) (.tail _ (.head _))
      .sampleOrphan (Row.record_ofRecord _) ⟨by decide, by decide⟩ rfl rfl
    exact ⟨hs, u', hround, s, hget, hgiven.status, hgiven.marker⟩

/-- An orphan that is only minted moves before it is left: its reservation is written down, and then there
is nothing to tell of. -/
theorem orphan_moved :
    ∃ before after : Record,
      Table.get? [Row.ofRecord { Record.sampleOrphan with status := .minted }] ⟨11⟩ = .ok (some before) ∧
      before.resource = none ∧ Action.reserve.plan before.status = .ok (.drive [.toBeReserved]) ∧
      Table.get? ((execute ⟨fun _ => true, .standard⟩ ⟨11⟩ .reserve).run
        (World.rehearsal fun n : Nat => (.ok (), n + 1)).answer
        ([Row.ofRecord { Record.sampleOrphan with status := .minted }], 0)).2.1 ⟨11⟩ = .ok (some after) ∧
      after.attention = some orphanMessage ∧ before.status = .minted ∧ after.status = .toBeReserved := by
  refine ⟨{ Record.sampleOrphan with status := .minted },
    { Record.sampleOrphan with status := .toBeReserved, attention := some orphanMessage, version := 3 },
    ?_, rfl, rfl, ?_, rfl, rfl, rfl⟩ <;> decide +kernel

end Registrar

end IdentifierRegistrar
