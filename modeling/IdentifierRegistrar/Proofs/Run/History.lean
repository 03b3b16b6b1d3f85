import IdentifierRegistrar.Proofs.Run.Rows

/-! The successive states of a row along a run, whatever operations run and however their calls to
the store are interleaved. Versions are 64-bit numbers: they count the states of a row, and as long
as none has come twice a copy with the version of the row is the row (`row_between`). -/

namespace IdentifierRegistrar

open Service Operation

theorem getElem?_concat_cases {α : Type} {l : List α} {a b : α} {k : Nat}
    (h : (l ++ [a])[k]? = some b) : l[k]? = some b ∨ k = l.length ∧ b = a := by
  rw [List.getElem?_append] at h
  split at h
  · exact .inl h
  · rw [List.getElem?_singleton] at h
    split at h
    · exact .inr ⟨by omega, (Option.some.inj h).symm⟩
    · simp at h

namespace Run

variable {g : Registrar}

/-- The different states that the row of an id has had, up to a time. -/
def history (x : Run g) (id : RecordId) : Nat → List Record
  | 0 => []
  | t + 1 =>
    if x.row (t + 1) id = x.row t id then x.history id t
    else x.history id t ++ (x.row (t + 1) id).toList

variable (x : Run g) {t u : Nat} {id : RecordId} {r s : Record}

theorem history_succ_of_eq (h : x.row (t + 1) id = x.row t id) :
    x.history id (t + 1) = x.history id t := if_pos h

theorem history_succ_of_ne (h : x.row (t + 1) id ≠ x.row t id) (hr : x.row (t + 1) id = some r) :
    x.history id (t + 1) = x.history id t ++ [r] := by
  rw [history, if_neg h, hr]
  rfl

theorem getLast?_history (id : RecordId) (t : Nat) : (x.history id t).getLast? = x.row t id := by
  induction t with
  | zero => rw [x.row_zero]; rfl
  | succ t ih =>
    by_cases h : x.row (t + 1) id = x.row t id
    · rw [x.history_succ_of_eq h, ih, h]
    · cases hr : x.row (t + 1) id with
      | some r => rw [x.history_succ_of_ne h hr, List.getLast?_append]; rfl
      | none =>
        cases hr' : x.row t id with
        | none => exact absurd (hr.trans hr'.symm) h
        | some r =>
          obtain ⟨s, hs, -⟩ := x.row_descends hr' (Nat.le_succ t)
          exact absurd (hs.symm.trans hr) (by simp)

theorem history_grows (htu : t ≤ u) : x.history id t <+: x.history id u := by
  induction htu with
  | refl => exact List.prefix_refl _
  | @step u _ ih =>
    refine ih.trans ?_
    rw [history]
    split
    · exact List.prefix_refl _
    · exact List.prefix_append _ _

theorem history_get_later {k : Nat} (h : (x.history id t)[k]? = some r) (htu : t ≤ u) :
    (x.history id u)[k]? = some r := by
  obtain ⟨more, hmore⟩ : x.history id t <+: x.history id u := x.history_grows htu
  rw [← hmore, List.getElem?_append_left (List.getElem?_eq_some_iff.1 h).1]
  exact h

theorem history_of_row (h : x.row t id = some r) : ∃ rs, x.history id t = rs ++ [r] := by
  rw [← x.getLast?_history] at h
  exact ⟨_, (List.dropLast_append_getLast? r h).symm⟩

inductive HistoryStep (t : Nat) (id : RecordId) : Prop
  | same (h : x.history id (t + 1) = x.history id t)
  | inserted {r : Record} (hr : r.Fresh) (hid : r.id = id) (hnil : x.history id t = [])
    (h : x.history id (t + 1) = [r.stored])
  | written {rs : List Record} {i : Nat} {c d s : Record} (hw : x.Writes t i c d s) (hid : d.id = id)
    (hlast : x.history id t = rs ++ [s])
    (h : x.history id (t + 1) = x.history id t ++ [s.overwrite d])

theorem history_succ (t : Nat) (id : RecordId) : x.HistoryStep t id := by
  by_cases hrow : x.row (t + 1) id = x.row t id
  · exact .same (x.history_succ_of_eq hrow)
  cases x.row_succ t id with
  | same h => exact absurd h hrow
  | inserted hr hid hnone hsome =>
    have hnil : x.history id t = [] := by
      rw [← List.getLast?_eq_none_iff, x.getLast?_history, hnone]
    exact .inserted hr hid hnil (by rw [x.history_succ_of_ne hrow hsome, hnil]; rfl)
  | written hw hid =>
    subst hid
    obtain ⟨rs, hrs⟩ := x.history_of_row hw.row
    exact .written hw rfl hrs (x.history_succ_of_ne hrow hw.after)

/-- How the `k`th state of a row came about: the first was inserted, each other was written over the
one before. -/
inductive Arises (id : RecordId) (t : Nat) : Nat → Record → Prop
  | inserted {r : Record} (hr : r.Fresh) (hid : r.id = id) : Arises id t 0 r.stored
  | written {k u i : Nat} {c d s : Record} (hs : (x.history id t)[k]? = some s) (hu : u < t)
    (hlen : (x.history id u).length = k + 1) (hw : x.Writes u i c d s) (hid : d.id = id) :
    Arises id t (k + 1) (s.overwrite d)

theorem Arises.later {x : Run g} {k : Nat} (h : x.Arises id t k s) (htu : t ≤ u) :
    x.Arises id u k s := by
  cases h with
  | inserted hr hid => exact .inserted hr hid
  | written hs hu hlen hw hid =>
    exact .written (x.history_get_later hs htu) (by omega) hlen hw hid

theorem arises {k : Nat} (h : (x.history id t)[k]? = some s) : x.Arises id t k s := by
  induction t with
  | zero => simp [history] at h
  | succ t ih =>
    have hold (h : (x.history id t)[k]? = some s) : x.Arises id (t + 1) k s :=
      (ih h).later (Nat.le_succ t)
    cases x.history_succ t id with
    | same hsame => exact hold (hsame ▸ h)
    | @inserted r hr hid hnil hnew =>
      rw [hnew] at h
      rcases getElem?_concat_cases (l := []) h with h | ⟨rfl, rfl⟩
      · simp at h
      · exact .inserted hr hid
    | @written rs i c d s' hw hid hlast hnew =>
      have hs' : (x.history id (t + 1))[rs.length]? = some s' := by
        rw [hnew, hlast, List.append_assoc, List.getElem?_append_right (Nat.le_refl _)]
        simp
      have hlen : (x.history id t).length = rs.length + 1 := by simp [hlast]
      rw [hnew] at h
      rcases getElem?_concat_cases h with h | ⟨rfl, rfl⟩
      · exact hold h
      · exact hlen ▸ .written hs' (Nat.lt_succ_self t) hlen hw hid

/-- Versions count the states of a row, as 64-bit numbers do. -/
theorem version_of_history_get {k : Nat} (h : (x.history id t)[k]? = some r) :
    r.version = (k : Int).bmod Word.count := by
  induction k generalizing r with
  | zero =>
    cases x.arises h with
    | inserted hr _ => exact hr.version
  | succ k ih =>
    cases x.arises h with
    | written hs _ _ hw _ =>
      change nextVersion _ = _
      rw [← hw.version, ih hs, nextVersion, Int.bmod_add_bmod]
      rfl

theorem row_of_history_get (h : x.row t id = some r) :
    (x.history id t)[(x.history id t).length - 1]? = some r := by
  rw [← List.getLast?_eq_getElem?, x.getLast?_history, h]

/-- While no version has come twice, a row with the version it had before is as it was, and was so
all the time. -/
theorem row_between (hr : x.row u id = some r) (hs : x.row t id = some s) (hut : u ≤ t)
    (hv : r.version = s.version) (hlen : (x.history id t).length ≤ Word.count) {k : Nat}
    (huk : u ≤ k) (hkt : k ≤ t) : x.row k id = some r := by
  have hprefix : x.history id u <+: x.history id t := x.history_grows hut
  have hu := x.row_of_history_get hr
  have ht := x.row_of_history_get hs
  have hulen := (List.getElem?_eq_some_iff.1 hu).1
  have htlen := (List.getElem?_eq_some_iff.1 ht).1
  -- Equal versions stand at one place of the history, so nothing was added to it.
  rw [x.version_of_history_get hu, x.version_of_history_get ht] at hv
  have hplace := bmod_count_inj (by have := hprefix.length_le; omega) (by omega) hv
  have hlast := hprefix.eq_of_length (by omega)
  have hk : x.history id k = x.history id u :=
    (List.IsPrefix.eq_of_length_le (x.history_grows huk)
      (hlast ▸ (x.history_grows hkt).length_le)).symm
  rw [← x.getLast?_history, hk, x.getLast?_history, hr]

/-- From the time a copy was the row to the time a revision of it is written, it is the row. -/
theorem Writes.row_between {x : Run g} {v i k : Nat} {c d : Record} (hw : x.Writes t i c d s)
    (hcopy : x.row (v + 1) c.id = some c.stored) (hvt : v < t)
    (hlen : (x.history d.id t).length ≤ Word.count) (hvk : v < k) (hkt : k ≤ t) :
    x.row k d.id = some c.stored := by
  have hd := hw.revision
  rw [← hd.id] at hcopy
  exact x.row_between hcopy hw.row hvt (hd.version.symm.trans hw.version.symm) hlen hvk hkt

/-- While no version has come twice, what an operation is handed is the row. -/
theorem row_of_handed_eq {i : Nat} {y : Exchange} (h : x.event u = .answer i y)
    (hr : r ∈ handedBy y.1 y.2) (hlen : (x.history r.id (u + 1)).length ≤ Word.count) :
    x.row (u + 1) r.id = some r.stored := by
  induction u using Nat.strongRecOn generalizing i y r with
  | ind u ih =>
    obtain ⟨call, a, rfl⟩ := store_of_mem_handedBy hr
    rcases mem_handedBy (x.ledger_answers h) hr with ⟨hmem, hsame⟩ | ⟨d, rfl, rfl⟩
    · rw [row_eq, hsame, Ledger.find_of_mem hmem, (x.ledger u).whole r hmem]
    · obtain ⟨-, c, s, hw⟩ := x.writes_of_updated h
      obtain ⟨p, hp, hc, -⟩ := hw.copy
      obtain ⟨v, hv, y, hev, hy⟩ := x.handed_before hp hc
      have hlater {k : Nat} (hk : k ≤ u) : (x.history d.id k).length ≤ Word.count :=
        Nat.le_trans (x.history_grows (Nat.le_succ_of_le hk)).length_le hlen
      have hcopy := ih v hv hev hy (hw.revision.id ▸ hlater hv)
      have hs := hw.row_between hcopy hv (hlater (Nat.le_refl u)) hv (Nat.le_refl u)
      obtain rfl := Option.some.inj (hw.row.symm.trans hs)
      rw [← hw.revision.overwrite_stored]
      exact hw.after

/-- No update is lost: while no version has come twice, what is written over is the copy that the
operation revised. -/
theorem Writes.copy_eq {x : Run g} {i : Nat} {c d : Record} (hw : x.Writes t i c d s)
    (hlen : (x.history d.id t).length ≤ Word.count) : c.stored = s := by
  obtain ⟨p, hp, hc, -⟩ := hw.copy
  obtain ⟨v, hv, y, hev, hy⟩ := x.handed_before hp hc
  have hcopy := x.row_of_handed_eq hev hy
    (hw.revision.id ▸ Nat.le_trans (x.history_grows hv).length_le hlen)
  exact Option.some.inj ((hw.row_between hcopy hv hlen hv (Nat.le_refl t)).symm.trans hw.row)

/-- Every update that succeeds adds a state. -/
theorem history_updated {i : Nat} {d : Record}
    (h : x.event t = .answer i ⟨.store (.update d), .ok r⟩) :
    ∃ s, x.history d.id (t + 1) = x.history d.id t ++ [s] := by
  obtain ⟨-, c, s, hw⟩ := x.writes_of_updated h
  refine ⟨_, x.history_succ_of_ne (fun hsame => ?_) hw.after⟩
  rw [hw.after, hw.row] at hsame
  exact nextVersion_ne d.version ((congrArg Record.version (Option.some.inj hsame)).trans hw.version)

/-- The states that the row of an id has had up to a time, as a chain. -/
structure Chain (x : Run g) (id : RecordId) (t : Nat) : Prop where
  /-- The row is the last state, and no state is undone: no row disappears. -/
  current : (x.history id t).getLast? = x.row t id
  kept : ∀ u ≤ t, x.history id u <+: x.history id t
  /-- Every update that succeeds is a state of its own. -/
  updated : ∀ u < t, ∀ i d r, d.id = id → x.event u = .answer i ⟨.store (.update d), .ok r⟩ →
    ∃ s, x.history id (u + 1) = x.history id u ++ [s]
  first : ∀ r : Record, (x.history id t)[0]? = some r → r.Fresh ∧ r.id = id
  /-- Versions count the states as words do, and from 0 on while a word can tell. -/
  version : ∀ (k : Nat) (r : Record), (x.history id t)[k]? = some r →
    r.version = (k : Int).bmod Word.count ∧ (k ≤ Word.greatestSigned → r.version = k)
  /-- Each next state was written by an operation over the state before it, which was the copy that
  the operation had revised. -/
  written : ∀ (k : Nat) (r s : Record), (x.history id t)[k]? = some r →
    (x.history id t)[k + 1]? = some s → ∃ u < t, ∃ i c d, x.Writes u i c d r ∧ s = r.overwrite d ∧
      (k < Word.count → c.stored = r)
  edge : ∀ (k : Nat) (r s : Record), (x.history id t)[k]? = some r →
    (x.history id t)[k + 1]? = some s → k < Word.count →
      s.status = r.status ∨ s.status ∈ r.status.targets
  /-- What the row identifies stays, and its binding is at most cleared. -/
  descends : ∀ (k : Nat) (r s : Record), (x.history id t)[k]? = some r →
    (x.history id t)[k + 1]? = some s → r.Descends s
  status : ∀ r ∈ x.history id t, r.status ≠ .updateBeforeRegistration

theorem chain (id : RecordId) (t : Nat) : x.Chain id t where
  current := x.getLast?_history id t
  kept _ := x.history_grows
  updated u _ i d r hid h := hid ▸ x.history_updated h
  first r h := by
    cases x.arises h with
    | inserted hr hid => exact ⟨⟨hr.status, hr.bound, hr.unmarked, hr.version⟩, hid⟩
  version k r h := by
    have hv := x.version_of_history_get h
    refine ⟨hv, fun hk => hv.trans (Int.bmod_eq_of_le ?_ ?_)⟩ <;>
      simp only [Word.count, Word.greatestSigned] at hk ⊢ <;> omega
  written k r s hr hs := by
    cases x.arises hs with
    | @written _ u i c d r' hr' hu hlen hw hid =>
      obtain rfl := Option.some.inj (hr.symm.trans hr')
      subst hid
      exact ⟨u, hu, i, c, d, hw, rfl, fun hk => hw.copy_eq (by omega)⟩
  edge k r s hr hs hk := by
    cases x.arises hs with
    | @written _ u i c d r' hr' hu hlen hw hid =>
      obtain rfl := Option.some.inj (hr.symm.trans hr')
      subst hid
      rw [← hw.copy_eq (by omega)]
      exact hw.revision.status
  descends k r s hr hs := by
    cases x.arises hs with
    | written hr' _ _ _ _ =>
      obtain rfl := Option.some.inj (hr.symm.trans hr')
      exact Record.descends_overwrite _ _
  status r hr := by
    obtain ⟨k, hk⟩ := List.getElem?_of_mem hr
    cases x.arises hk with
    | inserted hfresh _ =>
      rw [Record.stored_status, hfresh.status]
      decide
    | written _ _ _ hw _ => exact x.status_ne_updateBeforeRegistration hw.after

/-- Along every run from the empty store, with any number of operations at once and any answers,
every row of the store is the row of its id and the states of each row are a chain. -/
theorem rows_chained (t : Nat) :
    (∀ row ∈ (x.moment t).table, ∃ r, row = Row.ofRecord r ∧ x.row t r.id = some r) ∧
      ∀ id, x.Chain id t := by
  refine ⟨fun row hrow => ?_, fun id => x.chain id t⟩
  rw [x.table_eq] at hrow
  obtain ⟨r, hr, rfl⟩ := List.mem_map.1 hrow
  exact ⟨r, rfl, (x.row_eq t r.id).trans (Ledger.find_of_mem hr)⟩

end Run

end IdentifierRegistrar
