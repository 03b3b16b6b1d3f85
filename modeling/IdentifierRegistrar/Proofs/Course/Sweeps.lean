import IdentifierRegistrar.Proofs.Operation.Handling
import IdentifierRegistrar.Proofs.Store.Standing

/-! A sweep that has the store to itself. It fails only where its listing cannot be read, and nothing
has happened then; otherwise each record that is to be retried is handled by itself, whatever becomes of
the others (`sweep_isolates`). Where everything gets an answer nothing is left to retry, and another
sweep does nothing (`sweep_settles`). -/

namespace IdentifierRegistrar

open Service Operation

/-- The store does not fail; the directory and the agencies may do as they like. -/
def Outside.unruly : Outside Unit := ⟨False, fun _ _ => True, fun _ _ _ _ => True⟩

theorem World.fits_unruly {σ : Type} (w : World σ) : w.Fits .unruly fun _ _ => () :=
  ⟨fun _ _ => rfl, fun _ _ _ _ => rfl, fun _ _ _ => ⟨trivial, rfl⟩, fun _ _ _ _ => trivial⟩

theorem Table.Lists.keeps {t : Table} {statuses : List Status} {listed : List (Row × Record)}
    (h : t.Lists statuses listed)
    (hcanonical : ∀ row ∈ t, row.isRetryable statuses = true → row.Canonical) :
    ∀ p ∈ listed, p.1.Keeps p.2 := by
  intro p hp
  have hrecord := h.decoded p hp
  exact ⟨(hcanonical p.1 (h.mem hp) (h.isRetryable hp)).hasId hrecord, hrecord⟩

namespace Registrar

open Handling

variable {σ : Type} {g : Registrar} {w : World σ} {t : Table} {row : Row} {r : Record}

/-- Driving a record touches the row of that record only. -/
theorem drive_in_place (g : Registrar) (w : World σ) (h : row.Keeps r) (u : σ) :
    ∃ x left u' es, InPlace w (g.drive r) row u x left u' es := by
  have hcarries : Outside.unruly.Carries (fun _ _ => True) (fun _ _ => True) := by
    constructor <;> simp
  have hsolo := drive_solo (r := r) (h := ()) (g := g) hcarries trivial
  rw [Row.stored_of_record h.record] at hsolo
  obtain ⟨x, left, -, u', es, hplace, -, -⟩ := meets_in_place (u := u) w.fits_unruly [] hsolo h
  exact ⟨x, left, u', es, hplace⟩

/-- A sweep that lists one record comes to what the handling of its row does. -/
theorem sweep_only {before after : Table} {u u' : σ} {x : Except RegistrarError Outcome} {left : Row}
    {es : List Exchange} (hsound : Table.Sound (before ++ row :: after))
    (hlist : Table.listRetryable (before ++ row :: after) Status.intents = .ok [r])
    (hplace : InPlace w (g.drive r) row u x left u' es) :
    g.sweep.run w.answer (before ++ row :: after, u) =
        (.ok (SweepStats.tally [x]), before ++ left :: after, u') ∧
      g.sweep.exchanges w.answer (before ++ row :: after, u) =
        ⟨.store (.listRetryable Status.intents), .ok [r]⟩ :: es := by
  have hloop : (forEach (fun r => (g.drive r).attempt) [r]).run w.answer (before ++ row :: after, u) =
      (.ok [x], before ++ left :: after, u') := by
    rw [forEach, Program.run_bind, Program.run_attempt, hplace.run before after hsound]
    rfl
  obtain ⟨hrun, hexchanges⟩ := sweep_read w u hlist hloop
  refine ⟨hrun, ?_⟩
  rw [hexchanges, forEach, Program.exchanges_bind, Program.run_attempt, Program.exchanges_attempt,
    hplace.run before after hsound, hplace.exchanges before after hsound]
  exact congrArg (_ :: ·) (List.append_nil es)

/-- So it is where the store holds nothing but a row that is to be retried. -/
theorem sweep_singleton {u u' : σ} {x : Except RegistrarError Outcome} {left : Row}
    {es : List Exchange} (hrow : row.record = .ok r) (hretry : row.isRetryable Status.intents = true)
    (hplace : InPlace w (g.drive r) row u x left u' es) :
    g.sweep.run w.answer ([row], u) = (.ok (SweepStats.tally [x]), [left], u') := by
  have hlone : Table.Lone Status.intents [] [] := ⟨by simp [Table.Decodes], by simp⟩
  have hlist := hlone.listRetryable (by decide) hrow hretry
  have hsound : Table.Sound ([] ++ [row]) := List.pairwise_singleton _ _
  exact (sweep_only hsound hlist hplace).1

theorem Round.examined {u u' : σ} {hs : List (Handling σ)} (h : g.Round w t u hs u') :
    (SweepStats.tally (hs.map (·.result))).examined = t.countP (Row.isRetryable Status.intents) := by
  have hlength := h.rows.length_eq
  rw [List.length_map, ← List.countP_eq_length_filter] at hlength
  rw [← hlength]
  exact List.length_map _

theorem Round.mem {u u' : σ} {hs : List (Handling σ)} (h : g.Round w t u hs u')
    (hrow : row ∈ t) : row.isRetryable Status.intents = true ↔ row ∈ hs.map (·.row) := by
  rw [h.rows.mem_iff, List.mem_filter, and_iff_right hrow]

/-- The rows that are not to be retried, because they are marked or at rest, are as they were. -/
theorem Round.unchanged {u u' : σ} {hs : List (Handling σ)} (h : g.Round w t u hs u')
    (hrow : row ∈ t) (hretry : ¬ row.isRetryable Status.intents = true) : leftOf hs row = row :=
  leftOf_of_not_mem fun hmem => hretry ((h.mem hrow).2 hmem)

/-- A row of the table that a sweep leaves was left by a handling, or was there and not to be retried. -/
theorem Round.row_cases {u u' : σ} {hs : List (Handling σ)} (h : g.Round w t u hs u')
    (hrow : row ∈ t.map (leftOf hs)) :
    (∃ k ∈ hs, row = k.left) ∨ row ∈ t ∧ ¬ row.isRetryable Status.intents = true := by
  obtain ⟨old, hold, rfl⟩ := List.mem_map.1 hrow
  by_cases hretry : old.isRetryable Status.intents = true
  · left
    obtain ⟨k, hk, rfl⟩ := List.mem_map.1 ((h.mem hold).1 hretry)
    exact ⟨k, hk, leftOf_of_mem h.nodup hk⟩
  · right
    rw [h.unchanged hold hretry]
    exact ⟨hold, hretry⟩

/-- A sweep that can read its listing is a round. -/
theorem exists_round (g : Registrar) (w : World σ) (hsound : t.Sound)
    (hcanonical : ∀ row ∈ t, row.isRetryable Status.intents = true → row.Canonical)
    (hdecodes : t.Decodes Status.intents) (u : σ) : ∃ hs u', g.Round w t u hs u' := by
  obtain ⟨listed, hlists⟩ := Table.lists_of_decodes hdecodes (by decide)
  have hkeeps := hlists.keeps hcanonical
  have hdrive : ∀ p ∈ listed, ∀ u, ∃ x left u' es,
      InPlace w (g.drive p.2) p.1 u x left u' es ∧ True := by
    intro p hp u
    obtain ⟨x, left, u', es, hplace⟩ := drive_in_place g w (hkeeps p hp) u
    exact ⟨x, left, u', es, hplace, trivial⟩
  obtain ⟨hs, u', hround, -, -⟩ :=
    sweep_round (P := fun _ _ _ => True) hsound hlists hkeeps hdrive u
  exact ⟨hs, u', hround⟩

/-- The record of a row that was left by a handling is found under its id. -/
theorem Round.get? {u u' : σ} {hs : List (Handling σ)} (h : g.Round w t u hs u') {k : Handling σ}
    (hk : k ∈ hs) (hkeeps : k.row.Keeps k.record) {s : Record} (hleft : k.left.Keeps s) :
    Table.get? (t.map (leftOf hs)) k.record.id = .ok (some s) := by
  have hold : k.row ∈ t := List.mem_of_mem_filter (h.rows.mem_iff.1 (List.mem_map_of_mem hk))
  have hmem : k.left ∈ t.map (leftOf hs) := by
    rw [← leftOf_of_mem h.nodup hk]
    exact List.mem_map_of_mem hold
  have hid : s.id = k.record.id := by
    refine Table.id_of_record hleft.record ?_
    rw [Row.hasId, (h.alone k hk).id]
    exact hkeeps.id
  rw [← hid]
  exact Table.Shows.get? ⟨h.sound, k.left, hmem, hleft.id, hleft.record⟩

end Registrar

open Handling Registrar

section Sample

def World.rehearsal {σ : Type} (change : σ → Except AgencyError Unit × σ) : World σ where
  lookup resource u := (.ok (some ⟨resource, .item, none, []⟩), u)
  agency _ call u := match call with
    | .mint _ => (.error (.unreachable "offline"), u)
    | .change _ => change u
    | .isReserved _ | .isRegistered _ => (.ok false, u)
  freshId u := (⟨0⟩, u)
  now u := (.epoch, u)

def Record.sampleBound : Record :=
  ⟨⟨10⟩, ⟨.dark, "dark:/g/h", by decide⟩, some ⟨0⟩, .item, .toBeRegistered, none, 1, .epoch, .epoch⟩

def Record.sampleOrphan : Record :=
  ⟨⟨11⟩, ⟨.dark, "dark:/g/i", by decide⟩, none, .item, .toBeReserved, none, 1, .epoch, .epoch⟩

def Table.sample : Table := [Record.sampleBound, Record.sampleOrphan].map Row.ofRecord

theorem Table.sample_sound : Table.sample.Sound := by
  refine List.pairwise_pair.2 ?_
  unfold Row.Clashes
  decide +kernel

theorem Table.sample_canonical :
    ∀ row ∈ Table.sample, row.isRetryable Status.intents = true → row.Canonical := by
  intro row hrow _
  obtain ⟨r, -, rfl⟩ := List.mem_map.1 hrow
  exact Row.canonical_ofRecord r

theorem Table.sample_decodes : Table.sample.Decodes Status.intents := by
  intro row hrow _
  obtain ⟨r, -, rfl⟩ := List.mem_map.1 hrow
  exact ⟨_, Row.record_ofRecord r⟩

end Sample

section Isolation

variable {σ : Type}

/-- A sweep comes to nothing where some row at an intent is no record, and then it has not done
anything. Otherwise it handles each row that is at an intent and not marked once, the least recently
updated first, and leaves all others; what becomes of a row, and how it is counted, is what a sweep
comes to that finds this row only and is answered in the same way. -/
theorem sweep_isolates (g : Registrar) (w : World σ) {t : Table} (hsound : t.Sound)
    (hcanonical : ∀ row ∈ t, row.isRetryable Status.intents = true → row.Canonical) (u : σ) :
    (¬ t.Decodes Status.intents ∧ ∃ e, g.sweep.run w.answer (t, u) = (.error (.store e), t, u) ∧
      g.sweep.exchanges w.answer (t, u) = [⟨.store (.listRetryable Status.intents), .error e⟩]) ∨
    (t.Decodes Status.intents ∧ ∃ stats hs u', g.Round w t u hs u' ∧
      g.sweep.run w.answer (t, u) = (.ok stats, t.map (leftOf hs), u') ∧
      stats.examined = t.countP (Row.isRetryable Status.intents) ∧
      stats.examined = stats.confirmed + stats.pending + stats.needsAttention + stats.failed ∧
      (∀ row ∈ t, ¬ row.isRetryable Status.intents = true → leftOf hs row = row) ∧
      ∀ h ∈ hs, leftOf hs h.row = h.left ∧
        g.sweep.run w.answer ([h.row], h.start) = (.ok (SweepStats.tally [h.result]), [h.left], h.finish)) := by
  by_cases hdecodes : t.Decodes Status.intents
  · right
    obtain ⟨listed, hlists⟩ := Table.lists_of_decodes hdecodes (by decide)
    have hkeeps := hlists.keeps hcanonical
    have hdrive : ∀ p ∈ listed, ∀ u, ∃ x left u' es,
        InPlace w (g.drive p.2) p.1 u x left u' es ∧ True := by
      intro p hp u
      obtain ⟨x, left, u', es, hplace⟩ := drive_in_place g w (hkeeps p hp) u
      exact ⟨x, left, u', es, hplace, trivial⟩
    obtain ⟨hs, u', hround, -, -⟩ :=
      sweep_round (P := fun _ _ _ => True) hsound hlists hkeeps hdrive u
    refine ⟨hdecodes, _, hs, u', hround, hround.run, hround.examined, SweepStats.examined_tally _,
      fun row hrow hretry => hround.unchanged hrow hretry, fun h hh => ?_⟩
    have hretry : h.row.isRetryable Status.intents = true :=
      (List.mem_filter.1 (hround.rows.mem_iff.1 (List.mem_map_of_mem hh))).2
    exact ⟨leftOf_of_mem hround.nodup hh,
      sweep_singleton (hround.decoded h hh) hretry (hround.alone h hh)⟩
  · left
    refine ⟨hdecodes, ?_⟩
    cases hlist : t.listRetryable Status.intents with
    | ok rs => exact absurd (Table.decodes_of_listRetryable hlist) hdecodes
    | error e => exact ⟨e, sweep_unread w u hlist⟩

/-- The sample with an agency that cannot be reached: both records are handled. -/
theorem sweep_isolates_sample : ∃ (stats : SweepStats) (hs : List (Handling Nat)) (u' : Nat),
    (Registrar.sweep ⟨fun _ => true, .standard⟩).run
      (World.rehearsal fun n => (.error (.unreachable "offline"), n + 1)).answer (Table.sample, 0) =
        (.ok stats, Table.sample.map (leftOf hs), u') ∧
    stats.examined = 2 ∧
    stats.examined = stats.confirmed + stats.pending + stats.needsAttention + stats.failed := by
  rcases sweep_isolates ⟨fun _ => true, .standard⟩
    (.rehearsal fun n => (.error (.unreachable "offline"), n + 1)) Table.sample_sound
    Table.sample_canonical 0 with ⟨hno, -⟩ | ⟨-, stats, hs, u', -, hrun, hexamined, hsum, -⟩
  · exact absurd Table.sample_decodes hno
  · refine ⟨stats, hs, u', hrun, ?_, hsum⟩
    rw [hexamined]
    decide +kernel

end Isolation

section Settling

/-- What driving a record comes to where everything gets an answer: it rests where its intent leads
to, or it waits for an operator at an intent. -/
inductive Record.Settles (r : Record) : Except RegistrarError Outcome → Record → Prop
  | rests {s : Record} (hs : s.status = r.status.goal) : Settles r (.ok (.succeeded r.status.goal)) s
  | waits {s : Record} {message : String} (hs : s.status ∈ Status.intents)
    (hm : s.attention = some message) : Settles r (.ok (.needsAttention s.status message)) s

/-- Everything gets an answer: the directory says whether it has a resource, and an agency agrees to a
change or refuses it. -/
structure World.Answering {σ : Type} (w : World σ) : Prop where
  looks : ∀ resource u, ∃ found, (w.lookup resource u).1 = .ok found
  agrees : ∀ scheme c u, (w.agency scheme (.change c) u).1 = .ok () ∨
    ∃ status message, (w.agency scheme (.change c) u).1 = .error (.rejected status message)

def Outside.answering : Outside Unit where
  fails := False
  lookup _ x := ∃ found, x = .ok found
  change _ _ x _ := x = .ok () ∨ ∃ status message, x = .error (.rejected status message)

variable {σ : Type} {g : Registrar} {w : World σ} {r : Record} {row : Row}

theorem World.Answering.fits (h : w.Answering) : w.Fits .answering fun _ _ => () :=
  ⟨fun _ _ => rfl, fun _ _ _ _ => rfl, fun u _ resource => ⟨h.looks resource u, rfl⟩,
    fun u _ scheme c => h.agrees scheme c u⟩

theorem park_settles (hi : r.status ∈ Status.intents) (message : String) :
    (park r message).Meets (solo .answering fun _ _ => True) (fun x s => r.Settles x s.1)
      (r.stored, ()) :=
  park_solo trivial (.refl r) (fun t => .waits (s := (r.flag message t).next.stored) hi rfl)
    fun _ hfails => hfails.elim

theorem resume_settles (hi : r.status ∈ Status.intents) (hubr : r.status ≠ .updateBeforeRegistration)
    (hg : g.connected r.scheme) : (g.resume r).Meets (solo .answering fun _ _ => True)
      (fun x s => r.Settles x s.1) (r.stored, ()) := by
  refine resume_meets_of (P := fun s => s = (r.stored, ())) (fun _ => rfl) ?_ ?_ ?_ ?_ ?_ ?_ ?_ ?_
  · intro hrest
    exact absurd hrest (Status.confirmed?_ne_none hi hubr)
  · exact fun _ hno => absurd hg hno
  · exact fun _ _ => park_settles hi _
  · exact fun resource _ hb => ⟨trivial, hb⟩
  · rintro resource e _ reason - hb ⟨⟩
    rename_i hx
    obtain ⟨found, h⟩ := hx
    cases h
  · rintro resource _ message - hb ⟨⟩
    exact park_settles hi _
  · rintro resource found _ - hb ⟨⟩
    rfl
  · rintro confirmed c _ rfl hrest hc
    refine ⟨⟨trivial, rfl, hc⟩, ?_⟩
    rintro x _ ⟨⟩
    rename_i hx
    rcases hx with rfl | ⟨status, message, rfl⟩
    · refine meets_commit_solo trivial (.refl r) (Status.confirmed?_mem_targets hrest) (fun t => ?_)
        fun _ hfails => hfails.elim
      rw [← Status.goal_of_confirmed? hrest]
      exact .rests rfl
    · exact park_settles hi _

theorem drive_settles (hi : r.status ∈ Status.intents) (hg : g.connected r.scheme) :
    (g.drive r).Meets (solo .answering fun _ _ => True) (fun x s => r.Settles x s.1) (r.stored, ()) := by
  refine drive_meets_of (fun _ _ => park_settles hi _) (fun hubr => ?_) fun hne => resume_settles hi hne hg
  refine meets_commit_solo trivial (.refl r) (by rw [hubr]; decide) (fun t => ?_) fun _ hfails => hfails.elim
  have hd : (r.moveTo .toBeRegistered t).next.status ∈ Status.intents := by
    change Status.toBeRegistered ∈ Status.intents
    decide
  have hgoal : (r.moveTo .toBeRegistered t).next.status.goal = r.status.goal := by rw [hubr]; rfl
  refine (resume_settles hd (by simp [Record.moveTo]) hg).mono fun x s hs => ?_
  cases hs with
  | rests hs => exact hgoal ▸ .rests (hs.trans hgoal)
  | waits hs hm => exact .waits hs hm

theorem Status.goal_not_mem_intents (s : Status) : s.goal ∉ intents := by
  cases s <;> decide

/-- A row that is settled is not retried. -/
theorem Record.Settles.not_retryable {x : Except RegistrarError Outcome} {s : Record}
    (h : r.Settles x s) (hrow : row.record = .ok s) : ¬ row.isRetryable Status.intents = true := by
  rw [Row.isRetryable_iff_of_record hrow]
  rintro ⟨hi, hm⟩
  cases h with
  | rests hs => exact r.status.goal_not_mem_intents (hs ▸ hi)
  | waits hs hmark => simp [hmark] at hm

theorem Record.Settles.status {x : Except RegistrarError Outcome} {s : Record} (h : r.Settles x s) :
    s.status = r.status.goal ∨ s.status ∈ Status.intents ∧ s.attention.isSome := by
  cases h with
  | rests hs => exact .inl hs
  | waits hs hm => exact .inr ⟨hs, by rw [hm]; rfl⟩

/-- A sweep that has settled all that it has handled leaves nothing to retry. -/
theorem Registrar.Round.listRetryable_eq_nil {t : Table} {u u' : σ} {hs : List (Handling σ)}
    (h : g.Round w t u hs u') (hdecodes : t.Decodes Status.intents)
    (hcame : ∀ k ∈ hs, ∃ s, k.left.Keeps s ∧ k.record.Settles k.result s) :
    Table.listRetryable (t.map (leftOf hs)) Status.intents = .ok [] := by
  refine Table.listRetryable_eq_nil ?_ (by decide) ?_
  · intro row hrow hstatus
    rcases h.row_cases hrow with ⟨k, hk, rfl⟩ | ⟨hold, -⟩
    · obtain ⟨s, hs, -⟩ := hcame k hk
      exact ⟨s, hs.record⟩
    · exact hdecodes row hold hstatus
  · intro row hrow
    rcases h.row_cases hrow with ⟨k, hk, rfl⟩ | ⟨-, hretry⟩
    · obtain ⟨s, hs, hsettles⟩ := hcame k hk
      exact hsettles.not_retryable hs.record
    · exact hretry

theorem drive_settles_in_place (hrow : row.Keeps r) (hi : r.status ∈ Status.intents)
    (hg : g.connected r.scheme) (hw : w.Answering) (u : σ) : ∃ x left u' es,
      InPlace w (g.drive r) row u x left u' es ∧ ∃ s, left.Keeps s ∧ r.Settles x s := by
  have hsolo := drive_settles hi hg
  rw [Row.stored_of_record hrow.record] at hsolo
  obtain ⟨x, left, s, u', es, hplace, hs, hsettles⟩ :=
    meets_in_place (u := u) hw.fits [] hsolo hrow
  exact ⟨x, left, u', es, hplace, s, hs, hsettles⟩

/-- Results of records that are settled are counted as two of the four. -/
theorem tally_settled (xs : List (Except RegistrarError Outcome))
    (h : ∀ x ∈ xs, ∃ (r s : Record), r.Settles x s) :
    (SweepStats.tally xs).pending = 0 ∧ (SweepStats.tally xs).failed = 0 := by
  refine ⟨List.countP_eq_zero.2 fun x hx => ?_, List.countP_eq_zero.2 fun x hx => ?_⟩
  · obtain ⟨r, s, hsettles⟩ := h x hx
    cases hsettles <;> simp
  · obtain ⟨r, s, hsettles⟩ := h x hx
    cases hsettles <;> simp

theorem sweep_empty (g : Registrar) {t : Table} (w : World σ) (u : σ)
    (h : t.listRetryable Status.intents = .ok []) :
    g.sweep.run w.answer (t, u) = (.ok .zero, t, u) ∧
      g.sweep.exchanges w.answer (t, u) = [⟨.store (.listRetryable Status.intents), .ok []⟩] := by
  have hloop : (forEach (fun r => (g.drive r).attempt) []).run w.answer (t, u) = (.ok [], t, u) := rfl
  exact sweep_read w u h hloop

/-- Where everything gets an answer, one sweep leaves nothing to retry: each row that it has handled
rests where its intent leads to, or waits for an operator. Another sweep does nothing. -/
theorem sweep_settles {g : Registrar} {w : World σ} {t : Table} (hsound : t.Sound)
    (hcanonical : ∀ row ∈ t, row.isRetryable Status.intents = true → row.Canonical)
    (hdecodes : t.Decodes Status.intents)
    (hg : ∀ scheme, g.connected scheme) (hw : w.Answering) (u : σ) : ∃ stats t' u',
      g.sweep.run w.answer (t, u) = (.ok stats, t', u') ∧
      t'.listRetryable Status.intents = .ok [] ∧
      stats.pending = 0 ∧ stats.failed = 0 ∧
      stats.confirmed + stats.needsAttention = stats.examined ∧
      stats.examined = t.countP (Row.isRetryable Status.intents) ∧
      (∀ row ∈ t, row.isRetryable Status.intents = true → ∃ r s, row.record = .ok r ∧
        t'.get? r.id = .ok (some s) ∧
        (s.status = r.status.goal ∨ s.status ∈ Status.intents ∧ s.attention.isSome)) ∧
      ∀ {τ : Type} (w' : World τ) (v : τ), g.sweep.run w'.answer (t', v) = (.ok .zero, t', v) ∧
        g.sweep.exchanges w'.answer (t', v) =
          [⟨.store (.listRetryable Status.intents), .ok []⟩] := by
  obtain ⟨listed, hlists⟩ := Table.lists_of_decodes hdecodes (by decide)
  have hkeeps := hlists.keeps hcanonical
  have hdrive : ∀ p ∈ listed, ∀ u, ∃ x left u' es, InPlace w (g.drive p.2) p.1 u x left u' es ∧
      ∃ s, left.Keeps s ∧ p.2.Settles x s := by
    intro p hp u
    have hi := ((Row.isRetryable_iff_of_record (hlists.decoded p hp)).1 (hlists.isRetryable hp)).1
    exact drive_settles_in_place (hkeeps p hp) hi (hg _) hw u
  obtain ⟨hs, u', hround, -, hcame⟩ := sweep_round
    (P := fun r x left => ∃ s, left.Keeps s ∧ r.Settles x s) hsound hlists hkeeps hdrive u
  have hempty := hround.listRetryable_eq_nil hdecodes hcame
  obtain ⟨hpending, hfailed⟩ := tally_settled (hs.map (·.result)) fun x hx => by
    obtain ⟨h, hh, rfl⟩ := List.mem_map.1 hx
    obtain ⟨s, -, hsettles⟩ := hcame h hh
    exact ⟨h.record, s, hsettles⟩
  have hexamined := SweepStats.examined_tally (hs.map (·.result))
  refine ⟨_, _, u', hround.run, hempty, hpending, hfailed, by omega, hround.examined, ?_,
    fun w' v => sweep_empty g w' v hempty⟩
  intro row hrow hretry
  obtain ⟨h, hh, rfl⟩ := List.mem_map.1 ((hround.mem hrow).1 hretry)
  obtain ⟨s, hs, hsettles⟩ := hcame h hh
  have hrecord := hround.decoded h hh
  have hid : h.row.Keeps h.record := ⟨(hcanonical h.row hrow hretry).hasId hrecord, hrecord⟩
  exact ⟨h.record, s, hrecord, hround.get? hh hid hs, hsettles.status⟩

/-- The sample with agencies that agree: one record is registered, and the other is marked. -/
theorem sweep_settles_sample : ∃ stats t' u',
    (Registrar.sweep ⟨fun _ => true, .standard⟩).run (World.rehearsal fun n => (.ok (), n + 1)).answer
      (Table.sample, 0) = (.ok stats, t', u') ∧
    t'.listRetryable Status.intents = .ok [] ∧ stats.confirmed + stats.needsAttention = 2 := by
  have hanswers : (World.rehearsal fun n : Nat => (.ok (), n + 1)).Answering :=
    ⟨fun _ _ => ⟨_, rfl⟩, fun _ _ _ => .inl rfl⟩
  obtain ⟨stats, t', u', hrun, hempty, -, -, hsum, hexamined, -⟩ :=
    sweep_settles (g := ⟨fun _ => true, .standard⟩) Table.sample_sound Table.sample_canonical
      Table.sample_decodes (fun _ => rfl) hanswers 0
  refine ⟨stats, t', u', hrun, hempty, ?_⟩
  rw [hsum, hexamined]
  decide +kernel

end Settling

end IdentifierRegistrar
