import IdentifierRegistrar.Proofs.Operation.InPlace
import IdentifierRegistrar.Proofs.Store.Retryable

/-! The loop of a sweep, taken apart into the handlings of single rows. Each row that was listed is
driven by itself: from the state that the handling before it left, to the result, the replies and the
row that driving it in any table comes to. The other rows are as they were (`forEach_handles`,
`sweep_round`). -/

namespace IdentifierRegistrar

open Service Operation

namespace SweepStats

def tally (xs : List (Except RegistrarError Outcome)) : SweepStats where
  examined := xs.length
  confirmed := xs.countP fun x => x matches .ok (.succeeded _)
  pending := xs.countP fun x => x matches .ok (.pendingRetry _ _)
  needsAttention := xs.countP fun x => x matches .ok (.needsAttention _ _)
  failed := xs.countP fun x => x matches .error _

def add (s s' : SweepStats) : SweepStats where
  examined := s.examined + s'.examined
  confirmed := s.confirmed + s'.confirmed
  pending := s.pending + s'.pending
  needsAttention := s.needsAttention + s'.needsAttention
  failed := s.failed + s'.failed

theorem count_add_tally (s : SweepStats) (x : Except RegistrarError Outcome)
    (xs : List (Except RegistrarError Outcome)) :
    (s.count x).add (tally xs) = s.add (tally (x :: xs)) := by
  rcases x with e | (_ | _ | _) <;> simp [count, add, tally] <;> omega

theorem foldl_count (xs : List (Except RegistrarError Outcome)) (s : SweepStats) :
    xs.foldl count s = s.add (tally xs) := by
  induction xs generalizing s with
  | nil => rfl
  | cons x xs ih => rw [List.foldl_cons, ih, count_add_tally]

theorem foldl_count_zero (xs : List (Except RegistrarError Outcome)) :
    xs.foldl count zero = tally xs := by
  rw [foldl_count]
  simp [add, zero]

/-- Each result is counted as one of four. -/
theorem examined_tally (xs : List (Except RegistrarError Outcome)) :
    (tally xs).examined = (tally xs).confirmed + (tally xs).pending + (tally xs).needsAttention +
      (tally xs).failed := by
  induction xs with
  | nil => rfl
  | cons x xs ih =>
    simp only [tally] at ih
    rcases x with e | (_ | _ | _) <;> simp [tally] <;> omega

end SweepStats

/-- The handling of one row in its turn: the record that was listed, what driving it came to, and the
states of the world before and after. -/
structure Handling (σ : Type) where
  row : Row
  record : Record
  start : σ
  result : Except RegistrarError Outcome
  left : Row
  finish : σ
  exchanges : List Exchange

namespace Handling

variable {σ : Type}

/-- The handling is what driving the record by itself comes to, in any table with the row. -/
def Alone (g : Registrar) (w : World σ) (h : Handling σ) : Prop :=
  InPlace w (g.drive h.record) h.row h.start h.result h.left h.finish h.exchanges

/-- Each handling begins in the state in which the one before it has ended. -/
def Linked : σ → List (Handling σ) → σ → Prop
  | u, [], u' => u' = u
  | u, h :: hs, u' => h.start = u ∧ Linked h.finish hs u'

def leftOf (hs : List (Handling σ)) (row : Row) : Row :=
  ((hs.find? (·.row = row)).map (·.left)).getD row

variable {h : Handling σ} {hs : List (Handling σ)} {row : Row}

theorem leftOf_cons_self (h : Handling σ) (hs : List (Handling σ)) :
    leftOf (h :: hs) h.row = h.left := by
  simp [leftOf]

theorem leftOf_cons_of_ne (hne : h.row ≠ row) : leftOf (h :: hs) row = leftOf hs row := by
  simp [leftOf, hne]

theorem leftOf_of_not_mem (hrow : row ∉ hs.map (·.row)) : leftOf hs row = row := by
  induction hs with
  | nil => rfl
  | cons h hs ih =>
    rw [List.map_cons, List.mem_cons, not_or] at hrow
    rw [leftOf_cons_of_ne (Ne.symm hrow.1), ih hrow.2]

theorem leftOf_of_mem (hnodup : (hs.map (·.row)).Nodup) (hh : h ∈ hs) : leftOf hs h.row = h.left := by
  induction hs with
  | nil => cases hh
  | cons k hs ih =>
    rw [List.map_cons, List.nodup_cons] at hnodup
    rcases List.mem_cons.1 hh with rfl | hh
    · exact leftOf_cons_self h hs
    · have hne : k.row ≠ h.row := fun heq => hnodup.1 (heq ▸ List.mem_map_of_mem hh)
      rw [leftOf_cons_of_ne hne, ih hnodup.2 hh]

end Handling

namespace Registrar

open Handling

variable {σ : Type} {g : Registrar} {w : World σ} {t : Table} {pairs : List (Row × Record)}
  {P : Record → Except RegistrarError Outcome → Row → Prop}

section Loops

variable {β : Type} {f : Record → Operation β} {Q : Handling σ → β → Prop} {p : Row × Record}
  {before after : Table} {h : Handling σ} {hs : List (Handling σ)} {b : β} {bs : List β} {u u' : σ}

/-- What a loop comes to that does `f` to one record after the other: to each in place, from the state that
the one before it has left. `Q` holds of each handling and its result. -/
structure Loops (f : Record → Operation β) (w : World σ) (Q : Handling σ → β → Prop)
    (pairs : List (Row × Record)) (t : Table) (u : σ) (hs : List (Handling σ)) (bs : List β) (u' : σ) :
    Prop where
  listed : hs.map (fun h => (h.row, h.record)) = pairs
  linked : Linked u hs u'
  came : List.Forall₂ (fun h b =>
    InPlace w (f h.record) h.row h.start (.ok b) h.left h.finish h.exchanges ∧ Q h b) hs bs
  run : (forEach f (pairs.map Prod.snd)).run w.answer (t, u) = (.ok bs, t.map (leftOf hs), u')
  exchanges : (forEach f (pairs.map Prod.snd)).exchanges w.answer (t, u) = hs.flatMap (·.exchanges)
  sound : Table.Sound (t.map (leftOf hs))

theorem Loops.rows {t : Table} (h : Loops f w Q pairs t u hs bs u') :
    hs.map (·.row) = pairs.map Prod.fst := by
  rw [← h.listed, List.map_map]
  rfl

theorem Loops.mem {t : Table} (h : Loops f w Q pairs t u hs bs u') {k : Handling σ} (hk : k ∈ hs) :
    (k.row, k.record) ∈ pairs := by
  rw [← h.listed]
  exact List.mem_map_of_mem hk

theorem Loops.nil {t : Table} (ht : t.Sound) (u : σ) : Loops f w Q [] t u [] [] u := by
  have hid : t.map (leftOf ([] : List (Handling σ))) = t := List.map_id t
  exact ⟨rfl, rfl, .nil, by rw [hid]; rfl, rfl, by rw [hid]; exact ht⟩

/-- What is left of a table after a handling and those that follow it. -/
theorem map_leftOf_cons (h : Handling σ) {id : RecordId}
    (hsound : Table.Sound (before ++ h.row :: after)) (hrow : h.row.hasId id = true)
    (hsound' : Table.Sound (before ++ h.left :: after)) (hleft : h.left.hasId id = true)
    (hothers : ∀ row ∈ hs.map (·.row), row ∈ before ++ after) :
    (before ++ h.row :: after).map (leftOf (h :: hs)) = (before ++ h.left :: after).map (leftOf hs) := by
  have hkept : leftOf hs h.left = h.left := by
    refine leftOf_of_not_mem fun hmem => ?_
    have hno := hsound'.not_hasId_others hleft (hothers _ hmem)
    rw [hleft] at hno
    cases hno
  have hsame : ∀ row ∈ before ++ after, leftOf (h :: hs) row = leftOf hs row := by
    intro row hmem
    refine leftOf_cons_of_ne ?_
    rintro rfl
    have hno := hsound.not_hasId_others hrow hmem
    rw [hrow] at hno
    cases hno
  have hbefore : before.map (leftOf (h :: hs)) = before.map (leftOf hs) :=
    List.map_congr_left fun row hmem => hsame row (List.mem_append_left _ hmem)
  have hafter : after.map (leftOf (h :: hs)) = after.map (leftOf hs) :=
    List.map_congr_left fun row hmem => hsame row (List.mem_append_right _ hmem)
  rw [List.map_append, List.map_cons, leftOf_cons_self, hbefore, hafter, List.map_append,
    List.map_cons, hkept]

/-- One turn of the loop, and those that follow it. -/
theorem Loops.cons (hsound : Table.Sound (before ++ h.row :: after)) (hkeeps : h.row.Keeps h.record)
    (hothers : ∀ q ∈ pairs, q.1 ∈ before ++ after)
    (hplace : InPlace w (f h.record) h.row h.start (.ok b) h.left h.finish h.exchanges) (hb : Q h b)
    (hrest : Loops f w Q pairs (before ++ h.left :: after) h.finish hs bs u') :
    Loops f w Q ((h.row, h.record) :: pairs) (before ++ h.row :: after) h.start (h :: hs) (b :: bs) u' := by
  have hleft : h.left.hasId h.record.id = true := by
    rw [Row.hasId, hplace.id]
    exact hkeeps.id
  have hmapped : ∀ row ∈ hs.map (·.row), row ∈ before ++ after := by
    intro row hrow
    obtain ⟨k, hk, rfl⟩ := List.mem_map.1 hrow
    exact hothers _ (hrest.mem hk)
  have hmap := map_leftOf_cons h hsound hkeeps.id (hplace.sound before after hsound) hleft hmapped
  refine ⟨?_, ⟨rfl, hrest.linked⟩, .cons ⟨hplace, hb⟩ hrest.came, ?_, ?_, ?_⟩
  · rw [List.map_cons, hrest.listed]
  · rw [List.map_cons, forEach, Program.run_bind, hplace.run before after hsound]
    simp only
    rw [Program.run_bind, hrest.run, hmap]
    rfl
  · rw [List.map_cons, forEach, Program.exchanges_bind, hplace.run before after hsound,
      hplace.exchanges before after hsound]
    simp only
    rw [Program.exchanges_bind, hrest.run, hrest.exchanges]
    exact congrArg (h.exchanges ++ ·) (List.append_nil (hs.flatMap (·.exchanges)))
  · rw [hmap]
    exact hrest.sound

/-- Rows are handled one after the other, and no handling concerns the row of another. -/
theorem forEach_loops {t : Table} (hsound : t.Sound) (hrows : ∀ p ∈ pairs, p.1 ∈ t ∧ p.1.Keeps p.2)
    (hnodup : (pairs.map Prod.fst).Nodup)
    (hone : ∀ p ∈ pairs, ∀ u, ∃ (h : Handling σ) (b : β), h.row = p.1 ∧ h.record = p.2 ∧ h.start = u ∧
      InPlace w (f h.record) h.row h.start (.ok b) h.left h.finish h.exchanges ∧ Q h b) (u : σ) :
    ∃ hs bs u', Loops f w Q pairs t u hs bs u' := by
  induction pairs generalizing t u with
  | nil => exact ⟨[], [], u, .nil hsound u⟩
  | cons p pairs ih =>
    obtain ⟨hmem, hkeeps⟩ := hrows p (by simp)
    obtain ⟨before, after, rfl⟩ := List.append_of_mem hmem
    obtain ⟨h, b, hrow, hrecord, rfl, hplace, hb⟩ := hone p (by simp) u
    obtain rfl : p = (h.row, h.record) := Prod.ext hrow.symm hrecord.symm
    rw [List.map_cons, List.nodup_cons] at hnodup
    have hothers : ∀ q ∈ pairs, q.1 ∈ before ++ after := by
      intro q hq
      have hne : q.1 ≠ h.row := by
        intro heq
        have hmem : q.1 ∈ pairs.map Prod.fst := List.mem_map_of_mem hq
        rw [heq] at hmem
        exact hnodup.1 hmem
      have hmem := List.perm_middle.mem_iff.1 (hrows q (by simp [hq])).1
      exact List.mem_of_ne_of_mem hne hmem
    have hrows' : ∀ q ∈ pairs, q.1 ∈ before ++ h.left :: after ∧ q.1.Keeps q.2 := by
      intro q hq
      exact ⟨List.perm_middle.mem_iff.2 (List.mem_cons_of_mem _ (hothers q hq)),
        (hrows q (by simp [hq])).2⟩
    obtain ⟨hs, bs, u', hrest⟩ := ih (hplace.sound before after hsound) hrows' hnodup.2
      (fun q hq => hone q (by simp [hq])) h.finish
    exact ⟨_, _, u', hrest.cons hsound hkeeps hothers hplace hb⟩

end Loops

/-- What the handlings of a loop come to: those of the rows that it is given, each by itself. -/
structure Handles (g : Registrar) (w : World σ) (P : Record → Except RegistrarError Outcome → Row → Prop)
    (pairs : List (Row × Record)) (t : Table) (u : σ) (hs : List (Handling σ)) (u' : σ) : Prop where
  listed : hs.map (fun h => (h.row, h.record)) = pairs
  linked : Linked u hs u'
  alone : ∀ h ∈ hs, h.Alone g w
  came : ∀ h ∈ hs, P h.record h.result h.left
  run : (forEach (fun r => (g.drive r).attempt) (pairs.map Prod.snd)).run w.answer (t, u) =
    (.ok (hs.map (·.result)), t.map (leftOf hs), u')
  exchanges : (forEach (fun r => (g.drive r).attempt) (pairs.map Prod.snd)).exchanges w.answer (t, u) =
    hs.flatMap (·.exchanges)
  sound : Table.Sound (t.map (leftOf hs))

/-- So are the rows of a sweep, and where driving one of them fails the sweep goes on. -/
theorem forEach_handles (hsound : t.Sound) (hrows : ∀ p ∈ pairs, p.1 ∈ t ∧ p.1.Keeps p.2)
    (hnodup : (pairs.map Prod.fst).Nodup)
    (hdrive : ∀ p ∈ pairs, ∀ u, ∃ x left u' es,
      InPlace w (g.drive p.2) p.1 u x left u' es ∧ P p.2 x left) (u : σ) :
    ∃ hs u', Handles g w P pairs t u hs u' := by
  have hone : ∀ p ∈ pairs, ∀ u, ∃ (h : Handling σ) (x : Except RegistrarError Outcome),
      h.row = p.1 ∧ h.record = p.2 ∧ h.start = u ∧
      InPlace w (g.drive h.record).attempt h.row h.start (.ok x) h.left h.finish h.exchanges ∧
      (h.Alone g w ∧ P h.record h.result h.left) ∧ h.result = x := by
    intro p hp u
    obtain ⟨x, left, u', es, hplace, hcame⟩ := hdrive p hp u
    exact ⟨⟨p.1, p.2, u, x, left, u', es⟩, x, rfl, rfl, rfl, hplace.attempt, ⟨hplace, hcame⟩, rfl⟩
  obtain ⟨hs, xs, u', hloops⟩ := forEach_loops (f := fun r => (g.drive r).attempt)
    (Q := fun h x => (h.Alone g w ∧ P h.record h.result h.left) ∧ h.result = x) hsound hrows hnodup hone u
  obtain ⟨hcame, hresults⟩ := (List.forall₂_and_left _ _).1 (hloops.came.imp fun _ _ h => h.2)
  rw [← List.forall₂_map_left_iff, List.forall₂_eq_eq_eq] at hresults
  refine ⟨hs, u', hloops.listed, hloops.linked, fun h hh => (hcame h hh).1, fun h hh => (hcame h hh).2, ?_,
    hloops.exchanges, hloops.sound⟩
  rw [hresults]
  exact hloops.run

/-- How a sweep goes over a table: each row that is to be retried is handled once, the least recently
updated first, and by itself; the results are counted, and all other rows are as they were. -/
structure Round (g : Registrar) (w : World σ) (t : Table) (u : σ) (hs : List (Handling σ)) (u' : σ) :
    Prop where
  rows : (hs.map (·.row)).Perm (t.filter (Row.isRetryable Status.intents))
  nodup : (hs.map (·.row)).Nodup
  decoded : ∀ h ∈ hs, h.row.record = .ok h.record
  order : hs.Pairwise fun h h' => h.record.updatedBefore h'.record = true
  linked : Linked u hs u'
  alone : ∀ h ∈ hs, h.Alone g w
  run : g.sweep.run w.answer (t, u) =
    (.ok (SweepStats.tally (hs.map (·.result))), t.map (leftOf hs), u')
  exchanges : g.sweep.exchanges w.answer (t, u) =
    ⟨.store (.listRetryable Status.intents), .ok (hs.map (·.record))⟩ :: hs.flatMap (·.exchanges)
  sound : Table.Sound (t.map (leftOf hs))

section Listing

variable {rs : List Record} {e : StoreError}

/-- A sweep whose listing is read goes through what is listed. -/
theorem sweep_read (w : World σ) (u : σ) {xs : List (Except RegistrarError Outcome)} {s : Table × σ}
    (h : t.listRetryable Status.intents = .ok rs)
    (hloop : (forEach (fun r => (g.drive r).attempt) rs).run w.answer (t, u) = (.ok xs, s)) :
    g.sweep.run w.answer (t, u) = (.ok (SweepStats.tally xs), s) ∧
      g.sweep.exchanges w.answer (t, u) = ⟨.store (.listRetryable Status.intents), .ok rs⟩ ::
        (forEach (fun r => (g.drive r).attempt) rs).exchanges w.answer (t, u) := by
  rw [sweep, Program.run_bind, Program.exchanges_bind, World.run_store, World.exchanges_store,
    Store.answer, h, ← SweepStats.foldl_count_zero]
  simp only [Except.mapError]
  rw [Program.run_bind, Program.exchanges_bind, hloop]
  exact ⟨rfl, congrArg (_ :: ·) (List.append_nil _)⟩

/-- A sweep whose listing cannot be read comes to nothing. -/
theorem sweep_unread (w : World σ) (u : σ) (h : t.listRetryable Status.intents = .error e) :
    g.sweep.run w.answer (t, u) = (.error (.store e), t, u) ∧
      g.sweep.exchanges w.answer (t, u) = [⟨.store (.listRetryable Status.intents), .error e⟩] := by
  rw [sweep, Program.run_bind, Program.exchanges_bind, World.run_store, World.exchanges_store,
    Store.answer, h]
  exact ⟨rfl, rfl⟩

end Listing

/-- A sweep whose listing is read is a round over what is listed. -/
theorem sweep_round (hsound : t.Sound) (hlists : t.Lists Status.intents pairs)
    (hkeeps : ∀ p ∈ pairs, p.1.Keeps p.2)
    (hdrive : ∀ p ∈ pairs, ∀ u, ∃ x left u' es,
      InPlace w (g.drive p.2) p.1 u x left u' es ∧ P p.2 x left) (u : σ) :
    ∃ hs u', Round g w t u hs u' ∧ hs.map (fun h => (h.row, h.record)) = pairs ∧
      ∀ h ∈ hs, P h.record h.result h.left := by
  have hrows : ∀ p ∈ pairs, p.1 ∈ t ∧ p.1.Keeps p.2 := fun p hp => ⟨hlists.mem hp, hkeeps p hp⟩
  obtain ⟨hs, u', hhandles⟩ := forEach_handles hsound hrows (hlists.nodup hsound) hdrive u
  have hmaps : hs.map (·.row) = pairs.map Prod.fst ∧ hs.map (·.record) = pairs.map Prod.snd := by
    rw [← hhandles.listed, List.map_map, List.map_map]
    exact ⟨rfl, rfl⟩
  have hpair (h : Handling σ) (hh : h ∈ hs) : (h.row, h.record) ∈ pairs := by
    rw [← hhandles.listed]
    exact List.mem_map_of_mem hh
  refine ⟨hs, u', ⟨?_, ?_, ?_, ?_, hhandles.linked, hhandles.alone, ?_, ?_, hhandles.sound⟩, hhandles.listed,
    hhandles.came⟩
  · rw [hmaps.1]
    exact hlists.rows
  · rw [hmaps.1]
    exact hlists.nodup hsound
  · exact fun h hh => hlists.decoded _ (hpair h hh)
  · have horder := hlists.order
    rw [← hhandles.listed, List.pairwise_map] at horder
    exact horder
  · exact (sweep_read w u hlists.read hhandles.run).1
  · rw [(sweep_read w u hlists.read hhandles.run).2, hhandles.exchanges, hmaps.2]
    rfl

end Registrar

end IdentifierRegistrar
