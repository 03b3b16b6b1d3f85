import IdentifierRegistrar.Proofs.Store.LedgerWrites
import IdentifierRegistrar.Proofs.Store.Revision

/-! Copies of records, of any age, written back to the store. A caller holds copies, changes them in
the ways a record can be changed, and has the store insert what was minted and update from any copy
it likes. A copy that can still be written over a row was made from that very row, so it is live
only if the row is, and no update finds a rival. Main result: `Desk.run_sound`. -/

namespace IdentifierRegistrar

inductive Edit
  | transition (target : Status)
  | clearResource
  | flag (message : String)
  | clearAttention
  deriving DecidableEq, Repr

/-- The copy with the change made. A transition that is no edge leaves it as it was. -/
def Edit.apply (e : Edit) (now : Instant) (r : Record) : Record :=
  match e with
  | .transition target =>
    match r.transition target now with
    | .ok r => r
    | .error _ => r
  | .clearResource => r.clearResource now
  | .flag message => r.flag message now
  | .clearAttention => r.clearAttention now

structure Batch where
  records : List Record
  minted : ∀ r ∈ records, ∃ id value resource now, r = Record.mint id value resource now
  ids : (records.map (·.id)).Nodup

inductive Deed
  /-- Inserts a record as it was minted. -/
  | insert (k : Nat)
  /-- Takes a copy of the row of an id. -/
  | read (id : RecordId)
  | copy (i : Nat)
  | edit (i : Nat) (e : Edit) (now : Instant)
  | update (i : Nat)
  deriving DecidableEq, Repr

structure Desk where
  table : Table
  copies : List Record
  deriving DecidableEq, Repr

namespace Desk

/-- What the store answers to a deed, and the desk after it. A deed that names no record does
nothing. -/
def step (b : Batch) (d : Desk) : Deed → Except StoreError Unit × Desk
  | .insert k =>
    match b.records[k]? with
    | none => (.ok (), d)
    | some r =>
      match Store.answer d.table (.insert r) with
      | (reply, table) => (reply, { d with table })
  | .read id =>
    match Store.answer d.table (.get id) with
    | (.ok r, table) => (.ok (), ⟨table, d.copies ++ r.toList⟩)
    | (.error e, table) => (.error e, { d with table })
  | .copy i => (.ok (), { d with copies := d.copies ++ d.copies[i]?.toList })
  | .edit i e now => (.ok (), { d with copies := d.copies.modify i (e.apply now) })
  | .update i =>
    match d.copies[i]? with
    | none => (.ok (), d)
    | some c =>
      match Store.answer d.table (.update c) with
      | (.ok c, table) => (.ok (), ⟨table, d.copies.set i c⟩)
      | (.error e, table) => (.error e, { d with table })

def after (b : Batch) (d : Desk) (deeds : List Deed) : Desk :=
  deeds.foldl (fun d deed => (d.step b deed).2) d

def run (b : Batch) (deeds : List Deed) : Desk := after b ⟨[], b.records⟩ deeds

theorem run_append (b : Batch) (deeds later : List Deed) :
    run b (deeds ++ later) = after b (run b deeds) later :=
  List.foldl_append

end Desk

/-- The constraints of the table: ids and values are unique, and for a resource there is at most one
row of each scheme that is not deleted. -/
structure Table.Constrained (table : Table) : Prop where
  ids : (table.map (·.id)).Nodup
  values : (table.map (·.value)).Nodup
  live : ∀ (resource : ResourceId) (scheme : Scheme), (table.filter fun row =>
    row.isBoundTo resource && row.scheme.equals (.text scheme.tag) && row.isLive).length ≤ 1

theorem Ledger.constrained (l : Ledger) : l.table.Constrained where
  ids := by
    have h := l.ids.map_on (f := fun id => Cell.text id.text)
      fun _ _ _ _ hid => LocalId.text_injective (Cell.text.inj hid)
    rw [List.map_map] at h
    rw [table, List.map_map]
    exact h
  values := by
    have h := l.values.map_on (f := fun value => Cell.text value.text)
      fun _ _ _ _ hv => IdentifierValue.text_injective (Cell.text.inj hv)
    rw [List.map_map] at h
    rw [table, List.map_map]
    exact h
  live resource scheme := by
    rw [l.filter_table fun r => Row.isLiveOf_ofRecord r resource scheme, List.length_map]
    have hpair := l.live.filter fun r =>
      decide (r.resource = some resource ∧ r.scheme = scheme ∧ r.status ≠ .deleted)
    have hmem := fun r => List.of_mem_filter (a := r) (l := l.records) (p := fun r =>
      decide (r.resource = some resource ∧ r.scheme = scheme ∧ r.status ≠ .deleted))
    generalize l.records.filter _ = rs at hpair hmem ⊢
    rcases rs with _ | ⟨r, _ | ⟨s, rs⟩⟩
    · simp
    · simp
    · obtain ⟨hr, hrs, hrl⟩ := of_decide_eq_true (hmem r (by simp))
      obtain ⟨hs, hss, hsl⟩ := of_decide_eq_true (hmem s (by simp))
      have hrivals : r.Rivals s :=
        ⟨hrl, hsl, hrs.trans hss.symm, by simp [hr], hr.trans hs.symm⟩
      exact absurd hrivals (List.rel_of_pairwise_cons hpair (by simp))

namespace Record

structure Reworked (s c : Record) : Prop where
  id : c.id = s.id
  value : c.value = s.value
  version : c.version = s.version
  resource : c.resource = s.resource ∨ c.resource = none
  status : s.status = .deleted → c.status = .deleted

variable {s c t : Record}

theorem Reworked.refl (s : Record) : s.Reworked s := ⟨rfl, rfl, rfl, .inl rfl, fun h => h⟩

theorem Reworked.stored (s : Record) : s.Reworked s.stored := ⟨rfl, rfl, rfl, .inl rfl, fun h => h⟩

theorem reworked_stored (h : s.Reworked c) : s.stored.Reworked c :=
  ⟨h.id, h.value, h.version, h.resource, h.status⟩

theorem Reworked.apply (h : s.Reworked c) (e : Edit) (now : Instant) :
    s.Reworked (e.apply now c) := by
  cases e with
  | transition target =>
    simp only [Edit.apply]
    cases hd : c.transition target now with
    | error e => exact h
    | ok d =>
      obtain ⟨hmem, rfl⟩ := transition_eq_ok_iff.1 hd
      refine ⟨h.id, h.value, h.version, h.resource, fun hs => ?_⟩
      -- No edge leads out of `deleted`.
      rw [h.status hs] at hmem
      simp [Status.targets] at hmem
  | clearResource =>
    simp only [Edit.apply, Record.clearResource]
    split
    · exact ⟨h.id, h.value, h.version, .inr rfl, h.status⟩
    · exact h
  | flag message => exact ⟨h.id, h.value, h.version, h.resource, h.status⟩
  | clearAttention =>
    simp only [Edit.apply, Record.clearAttention]
    split
    · exact ⟨h.id, h.value, h.version, h.resource, h.status⟩
    · exact h

/-- What the caller has after the write is again a copy of the row. -/
theorem Reworked.written (h : s.Reworked c) : (s.overwrite c).Reworked c.next := by
  refine ⟨h.id, h.value, rfl, ?_, fun hs => hs⟩
  cases hc : c.resource with
  | none => exact .inr hc
  | some resource =>
    have hs : s.resource = some resource := by
      rcases h.resource with hr | hr
      · exact hr.symm.trans hc
      · simp [hc] at hr
    left
    simp [next, overwrite, isOrphaned, hc, hs]

/-- A write makes no row live that was not, and binds none. -/
theorem Reworked.rivals (h : s.Reworked c) (hr : (s.overwrite c).Rivals t) : s.Rivals t := by
  obtain ⟨hc, ht, hscheme, hbound, hresource⟩ := hr
  simp only [overwrite] at hc hbound hresource
  split at hbound
  · simp at hbound
  · rename_i hkept
    rw [if_neg hkept] at hresource
    exact ⟨fun hs => hc (h.status hs), ht, hscheme, hbound, hresource⟩

end Record

theorem Edit.apply_id (e : Edit) (now : Instant) (r : Record) : (e.apply now r).id = r.id :=
  ((Record.Reworked.refl r).apply e now).id

theorem Edit.apply_version (e : Edit) (now : Instant) (r : Record) :
    (e.apply now r).version = r.version :=
  ((Record.Reworked.refl r).apply e now).version

theorem Batch.version_eq (b : Batch) {r : Record} (h : r ∈ b.records) : r.version = 0 := by
  obtain ⟨id, value, resource, now, rfl⟩ := b.minted r h
  rfl

theorem Batch.eq_of_id_eq (b : Batch) {r s : Record} (hr : r ∈ b.records) (hs : s ∈ b.records)
    (h : r.id = s.id) : r = s :=
  List.inj_on_of_nodup_map b.ids hr hs h

namespace Ledger

/-- How a copy stands to the ledger after at most `n` writes. Without a row it is of a minted record.
With one it is at most as new as the row, and made from it if it is as new. Versions count writes. -/
inductive Knows (l : Ledger) (b : Batch) (n : Nat) (c : Record) : Prop
  | unread {r : Record} (hnone : l.find c.id = none) (hr : r ∈ b.records) (hc : r.Reworked c)
  | read {s : Record} {a k : Nat} (hs : l.find c.id = some s) (hak : a ≤ k) (hkn : k ≤ n)
    (hcv : c.version = (a : Int).bmod Word.count) (hsv : s.version = (k : Int).bmod Word.count)
    (hc : a = k → s.Reworked c)

section Knows

variable {l m : Ledger} {b : Batch} {n : Nat} {c r s : Record}

theorem Knows.reworked (h : l.Knows b n c) (hn : n < Word.count) (hs : l.find c.id = some s)
    (hv : s.version = c.version) : s.Reworked c := by
  cases h with
  | unread hnone => exact absurd (hnone.symm.trans hs) (by simp)
  | @read s' a k hs' hak hkn hcv hsv hc =>
    obtain rfl := Option.some.inj (hs'.symm.trans hs)
    apply hc
    refine bmod_count_inj (by omega) (by omega) ?_
    rw [← hcv, ← hsv, hv]

/-- A copy that is written finds no rival. -/
theorem Knows.misses {e : StoreError} (h : l.Knows b n c) (hn : n < Word.count)
    (he : l.Misses c e) : e = .versionConflict c.id c.version ∨ e = .notFound c.id := by
  cases he with
  | absent _ => exact .inr rfl
  | stale _ _ => exact .inl rfl
  | rival hs hv ht hne hr =>
    exact absurd ((h.reworked hn hs hv).rivals hr) (not_rivals (mem_of_find hs) ht hne)

theorem Knows.mono {k : Nat} (h : l.Knows b n c) (hnk : n ≤ k) : l.Knows b k c := by
  cases h with
  | unread hnone hr hc => exact .unread hnone hr hc
  | read hs hak hkn hcv hsv hc => exact .read hs hak (Nat.le_trans hkn hnk) hcv hsv hc

theorem Knows.apply (h : l.Knows b n c) (e : Edit) (now : Instant) :
    l.Knows b n (e.apply now c) := by
  cases h with
  | unread hnone hr hc =>
    refine .unread ?_ hr (hc.apply e now)
    rwa [e.apply_id]
  | read hs hak hkn hcv hsv hc =>
    refine .read ?_ hak hkn ?_ hsv fun hk => (hc hk).apply e now
    · rwa [e.apply_id]
    · rwa [e.apply_version]

/-- A minted record that is inserted is the row of all its copies. -/
theorem Knows.inserted (h : l.Knows b n c) (hr : r ∈ b.records)
    (hm : m.records = l.records ++ [r.stored]) : m.Knows b n c := by
  by_cases hid : c.id = r.id
  · cases h with
    | @unread r' _ hr' hc =>
      obtain rfl := b.eq_of_id_eq hr hr' (hid.symm.trans hc.id)
      have hzero : r.version = ((0 : Nat) : Int).bmod Word.count := b.version_eq hr
      refine .read (s := r.stored) (a := 0) (k := 0) ?_ (Nat.le_refl 0) (Nat.zero_le n)
        (hc.version.trans hzero) hzero fun _ => Record.reworked_stored hc
      rw [hid, find_added_self hm]
    | read hs =>
      rw [hid, find_eq_none_of_added hm] at hs
      simp at hs
  · have hfind := find_added_of_ne hm hid
    cases h with
    | unread hnone hr' hc => exact .unread (hfind.trans hnone) hr' hc
    | read hs hak hkn hcv hsv hc => exact .read (hfind.trans hs) hak hkn hcv hsv hc

theorem Knows.row (h : l.Knows b n c) (hs : l.find c.id = some s) : l.Knows b n s := by
  cases h with
  | unread hnone => exact absurd (hnone.symm.trans hs) (by simp)
  | read hs' hak hkn hcv hsv =>
    obtain rfl := Option.some.inj (hs'.symm.trans hs)
    exact .read ((id_of_find hs).symm ▸ hs) (Nat.le_refl _) hkn hsv hsv fun _ => .refl _

variable {d : Record}

theorem Knows.updated (h : l.Knows b n c) (hs : l.find d.id = some s) (hv : s.version = d.version)
    (hm : m.records = l.overwritten d) : m.Knows b (n + 1) c := by
  by_cases hid : c.id = d.id
  · cases h with
    | unread hnone =>
      rw [hid, hs] at hnone
      simp at hnone
    | @read s' a k hs' hak hkn hcv hsv =>
      obtain rfl := Option.some.inj ((hid ▸ hs').symm.trans hs)
      refine .read (s := s'.overwrite d) (a := a) (k := k + 1) ?_ (by omega) (by omega) hcv ?_ (by omega)
      · exact hid ▸ find_overwritten_self hm hs
      · change nextVersion d.version = _
        rw [← hv, hsv, nextVersion, Int.bmod_add_bmod]
        rfl
  · have hfind := find_overwritten_of_ne hm hid
    cases h with
    | unread hnone hr hc => exact .unread (hfind.trans hnone) hr hc
    | read hs hak hkn hcv hsv hc => exact .read (hfind.trans hs) hak (by omega) hcv hsv hc

/-- The caller's copy is as new as the row it has written. -/
theorem Knows.written (h : l.Knows b n d) (hn : n < Word.count) (hs : l.find d.id = some s)
    (hv : s.version = d.version) (hm : m.records = l.overwritten d) :
    m.Knows b (n + 1) d.next := by
  have hrow := find_overwritten_self hm hs
  have hreworked := (h.reworked hn hs hv).written
  cases h with
  | unread hnone => exact absurd (hnone.symm.trans hs) (by simp)
  | @read s' a k hs' hak hkn hcv hsv =>
    have hnext : nextVersion d.version = ((a + 1 : Nat) : Int).bmod Word.count := by
      rw [hcv, nextVersion, Int.bmod_add_bmod]
      rfl
    exact .read (a := a + 1) (k := a + 1) hrow (Nat.le_refl _) (by omega) hnext hnext
      fun _ => hreworked

end Knows

def KeepsDeleted (l m : Ledger) : Prop :=
  ∀ id r, l.find id = some r → r.status = .deleted →
    ∃ s, m.find id = some s ∧ s.status = .deleted

theorem KeepsDeleted.refl (l : Ledger) : l.KeepsDeleted l := fun _ r hr hd => ⟨r, hr, hd⟩

theorem KeepsDeleted.trans {l m n : Ledger} (h : l.KeepsDeleted m) (h' : m.KeepsDeleted n) :
    l.KeepsDeleted n := fun id r hr hd => by
  obtain ⟨s, hs, hsd⟩ := h id r hr hd
  exact h' id s hs hsd

theorem keepsDeleted_of_added {l m : Ledger} {r : Record}
    (h : m.records = l.records ++ [r.stored]) : l.KeepsDeleted m := by
  intro id s hs hd
  refine ⟨s, ?_, hd⟩
  rw [find_added_of_ne h, hs]
  rintro rfl
  rw [find_eq_none_of_added h] at hs
  simp at hs

theorem keepsDeleted_of_overwritten {l m : Ledger} {d s : Record} (hs : l.find d.id = some s)
    (hd : s.status = .deleted → d.status = .deleted) (h : m.records = l.overwritten d) :
    l.KeepsDeleted m := by
  intro id r hr hdeleted
  by_cases hid : id = d.id
  · subst hid
    obtain rfl := Option.some.inj (hr.symm.trans hs)
    exact ⟨_, find_overwritten_self h hs, hd hdeleted⟩
  · exact ⟨r, (find_overwritten_of_ne h hid).trans hr, hdeleted⟩

end Ledger

namespace Desk

/-- A desk after at most `n` deeds: its table is a ledger, and every row and every copy is one that
the ledger knows. -/
structure Held (b : Batch) (n : Nat) (l : Ledger) (d : Desk) : Prop where
  table : d.table = l.table
  rows : ∀ r ∈ l.records, l.Knows b n r
  copies : ∀ c ∈ d.copies, l.Knows b n c

variable {b : Batch} {n : Nat} {l : Ledger} {d : Desk}

theorem Held.mono {k : Nat} (h : Held b n l d) (hnk : n ≤ k) : Held b k l d where
  table := h.table
  rows r hr := (h.rows r hr).mono hnk
  copies c hc := (h.copies c hc).mono hnk

theorem held_start (b : Batch) : Held b 0 Ledger.empty ⟨[], b.records⟩ where
  table := rfl
  rows r hr := by simp [Ledger.empty] at hr
  copies c hc := .unread rfl hc (.refl c)

theorem Held.inserted {m : Ledger} {r : Record} (h : Held b n l d) (hr : r ∈ b.records)
    (hm : m.records = l.records ++ [r.stored]) : Held b n m { d with table := m.table } where
  table := rfl
  rows s hs := by
    rw [hm] at hs
    rcases List.mem_append.1 hs with hs | hs
    · exact (h.rows s hs).inserted hr hm
    · have hnew : l.Knows b n r.stored := .unread (Ledger.find_eq_none_of_added hm) hr (.stored r)
      rw [List.mem_singleton.1 hs]
      exact hnew.inserted hr hm
  copies c hc := (h.copies c hc).inserted hr hm

theorem Held.copied {cs : List Record} (h : Held b n l d) (hcs : ∀ c ∈ cs, l.Knows b n c) :
    Held b n l { d with copies := d.copies ++ cs } where
  table := h.table
  rows := h.rows
  copies c hc := (List.mem_append.1 hc).elim (h.copies c) (hcs c)

theorem Held.edited (h : Held b n l d) (i : Nat) (e : Edit) (now : Instant) :
    Held b n l { d with copies := d.copies.modify i (e.apply now) } where
  table := h.table
  rows := h.rows
  copies c hc := by
    obtain ⟨j, hj⟩ := List.getElem?_of_mem hc
    rw [List.getElem?_modify] at hj
    obtain ⟨c', hc', rfl⟩ := Option.map_eq_some_iff.1 hj
    have hknows := h.copies c' (List.mem_of_getElem? hc')
    split
    · exact hknows.apply e now
    · exact hknows

/-- The row that is written and the copy it is written from are known anew. -/
theorem Held.updated {m : Ledger} {c s : Record} (h : Held b n l d) (hn : n < Word.count) {i : Nat}
    (hi : d.copies[i]? = some c) (hs : l.find c.id = some s) (hv : s.version = c.version)
    (hm : m.records = l.overwritten c) : Held b (n + 1) m ⟨m.table, d.copies.set i c.next⟩ where
  table := rfl
  rows r hr := by
    have hc : l.Knows b n c := h.copies c (List.mem_of_getElem? hi)
    have hfind := Ledger.find_of_mem hr
    by_cases hid : r.id = c.id
    · exact (hc.written hn hs hv hm).row (hid ▸ hfind)
    · rw [Ledger.find_overwritten_of_ne hm hid] at hfind
      exact (h.rows r (Ledger.mem_of_find hfind)).updated hs hv hm
  copies r hr := by
    rcases List.mem_or_eq_of_mem_set hr with hr | rfl
    · exact (h.copies r hr).updated hs hv hm
    · exact (h.copies c (List.mem_of_getElem? hi)).written hn hs hv hm

/-- What a deed does. -/
theorem Held.step (h : Held b n l d) (hn : n < Word.count) (deed : Deed) :
    ∃ m, Held b (n + 1) m (d.step b deed).2 ∧ l.KeepsDeleted m := by
  have hsame : Held b (n + 1) l d := h.mono (Nat.le_succ n)
  cases deed with
  | insert k =>
    simp only [Desk.step]
    cases hk : b.records[k]? with
    | none => exact ⟨l, hsame, .refl l⟩
    | some r =>
      obtain ⟨reply, m, hanswer, ha⟩ := l.answer_table (.insert r)
      simp only [h.table, hanswer]
      cases ha with
      | inserted hm =>
        exact ⟨m, hsame.inserted (List.mem_of_getElem? hk) hm, Ledger.keepsDeleted_of_added hm⟩
      | notInserted _ => exact ⟨l, ⟨rfl, hsame.rows, hsame.copies⟩, .refl l⟩
  | read id =>
    obtain ⟨reply, m, hanswer, ha⟩ := l.answer_table (.get id)
    simp only [Desk.step, h.table, hanswer]
    cases ha with
    | get id =>
      have hread : Held b (n + 1) l { d with copies := d.copies ++ (l.find id).toList } :=
        hsame.copied fun c hc => hsame.rows c (Ledger.mem_of_find (Option.mem_toList.1 hc))
      exact ⟨l, ⟨rfl, hread.rows, hread.copies⟩, .refl l⟩
  | copy i =>
    exact ⟨l, hsame.copied fun c hc => hsame.copies c (List.mem_of_getElem? (Option.mem_toList.1 hc)),
      .refl l⟩
  | edit i e now => exact ⟨l, hsame.edited i e now, .refl l⟩
  | update i =>
    simp only [Desk.step]
    cases hi : d.copies[i]? with
    | none => exact ⟨l, hsame, .refl l⟩
    | some c =>
      have hc : l.Knows b n c := h.copies c (List.mem_of_getElem? hi)
      obtain ⟨reply, m, hanswer, ha⟩ := l.answer_table (.update c)
      simp only [h.table, hanswer]
      cases ha with
      | updated hs hv hm =>
        exact ⟨m, h.updated hn hi hs hv hm,
          Ledger.keepsDeleted_of_overwritten hs (hc.reworked hn hs hv).status hm⟩
      | notUpdated _ => exact ⟨l, ⟨rfl, hsame.rows, hsame.copies⟩, .refl l⟩

theorem Held.after {d : Desk} (h : Held b n l d) (deeds : List Deed)
    (hlen : n + deeds.length ≤ Word.count) :
    ∃ m, Held b (n + deeds.length) m (d.after b deeds) ∧ l.KeepsDeleted m := by
  induction deeds generalizing n l d with
  | nil => exact ⟨l, h, .refl l⟩
  | cons deed deeds ih =>
    rw [List.length_cons] at hlen ⊢
    obtain ⟨k, hk, hkeep⟩ := h.step (by omega) deed
    obtain ⟨m, hm, hlater⟩ := ih hk (by omega)
    refine ⟨m, ?_, hkeep.trans hlater⟩
    rw [Nat.add_right_comm] at hm
    exact hm

theorem run_held (b : Batch) (deeds : List Deed) (hlen : deeds.length ≤ Word.count) :
    ∃ l, Held b deeds.length l (run b deeds) := by
  obtain ⟨l, hl, -⟩ := (held_start b).after deeds (by omega)
  rw [Nat.zero_add] at hl
  exact ⟨l, hl⟩

theorem Held.answer_update (h : Held b n l d) (hn : n < Word.count) {i : Nat} {c : Record}
    (hi : d.copies[i]? = some c) :
    (d.step b (.update i)).1 = .ok () ∨
      (d.step b (.update i)).1 = .error (.versionConflict c.id c.version) ∨
      (d.step b (.update i)).1 = .error (.notFound c.id) := by
  have hc : l.Knows b n c := h.copies c (List.mem_of_getElem? hi)
  obtain ⟨reply, m, hanswer, ha⟩ := l.answer_table (.update c)
  simp only [Desk.step, hi, h.table, hanswer]
  cases ha with
  | updated _ _ _ => exact .inl rfl
  | notUpdated he =>
    rcases hc.misses hn he with rfl | rfl
    · exact .inr (.inl rfl)
    · exact .inr (.inr rfl)

/-- A call that fails changes nothing, neither a row nor a copy. -/
theorem step_of_error {b : Batch} {d : Desk} {deed : Deed} {e : StoreError}
    (h : (d.step b deed).1 = .error e) : (d.step b deed).2 = d := by
  cases deed with
  | insert k =>
    simp only [Desk.step] at h ⊢
    cases hk : b.records[k]? with
    | none => rfl
    | some r =>
      simp only [hk, Store.answer] at h ⊢
      cases hr : d.table.insertRecord r with
      | ok table => simp [hr] at h
      | error e => rfl
  | read id =>
    simp only [Desk.step, Store.answer] at h ⊢
    cases hr : d.table.get? id with
    | ok r => simp [hr] at h
    | error e => rfl
  | copy i => simp [Desk.step] at h
  | edit i e now => simp [Desk.step] at h
  | update i =>
    simp only [Desk.step] at h ⊢
    cases hi : d.copies[i]? with
    | none => rfl
    | some c =>
      simp only [hi, Store.answer] at h ⊢
      cases hc : d.table.updateRecord c with
      | ok r => simp [hc] at h
      | error e => rfl

/-- Only calls to the store change the table. -/
theorem step_table (b : Batch) (d : Desk) (deed : Deed) :
    (d.step b deed).2.table = d.table ∨
      ∃ call, (d.step b deed).2.table = (Store.answer d.table call).2 := by
  cases deed with
  | insert k =>
    simp only [Desk.step]
    cases b.records[k]? with
    | none => exact .inl rfl
    | some r => exact .inr ⟨.insert r, rfl⟩
  | read id =>
    right
    refine ⟨.get id, ?_⟩
    simp only [Desk.step, Store.answer]
    cases d.table.get? id <;> rfl
  | copy i => exact .inl rfl
  | edit i e now => exact .inl rfl
  | update i =>
    simp only [Desk.step]
    cases d.copies[i]? with
    | none => exact .inl rfl
    | some c =>
      right
      refine ⟨.update c, ?_⟩
      simp only [Store.answer]
      cases d.table.updateRecord c <;> rfl

theorem after_table (b : Batch) {d : Desk} (l : Ledger) (h : d.table = l.table)
    (deeds : List Deed) : ∃ m : Ledger, (d.after b deeds).table = m.table := by
  induction deeds generalizing d l with
  | nil => exact ⟨l, h⟩
  | cons deed deeds ih =>
    rcases step_table b d deed with hsame | ⟨call, hcall⟩
    · exact ih l (hsame.trans h)
    · obtain ⟨reply, m, hanswer, -⟩ := l.answer_table call
      refine ih m (hcall.trans ?_)
      rw [h, hanswer]

/-- The store after any insertions of minted records and any updates from copies. Versions are 64-bit
numbers: what is said of updates is said as long as none can have come twice. -/
structure Sound (b : Batch) (deeds : List Deed) : Prop where
  constrained : (run b deeds).table.Constrained
  /-- A call that fails leaves all rows and all copies as they were. -/
  failed : ∀ deed e, ((run b deeds).step b deed).1 = .error e →
    ((run b deeds).step b deed).2 = run b deeds
  /-- No update breaks a constraint. -/
  updated : deeds.length < Word.count → ∀ i c, (run b deeds).copies[i]? = some c →
    ((run b deeds).step b (.update i)).1 = .ok () ∨
      ((run b deeds).step b (.update i)).1 = .error (.versionConflict c.id c.version) ∨
      ((run b deeds).step b (.update i)).1 = .error (.notFound c.id)
  /-- What was deleted stays so. -/
  deleted : ∀ later, (deeds ++ later).length ≤ Word.count → ∀ row ∈ (run b deeds).table,
    row.status = .text Status.deleted.tag → ∃ row' ∈ (run b (deeds ++ later)).table,
      row'.id = row.id ∧ row'.status = .text Status.deleted.tag

/-- However old the copies are that callers write back, they bring no row back to life and break no
constraint. -/
theorem run_sound (b : Batch) (deeds : List Deed) : Sound b deeds where
  constrained := by
    obtain ⟨l, hl⟩ := after_table b (d := ⟨[], b.records⟩) Ledger.empty rfl deeds
    rw [run, hl]
    exact l.constrained
  failed _ _ h := step_of_error h
  updated hlen i c hi := by
    obtain ⟨l, hl⟩ := run_held b deeds (Nat.le_of_lt hlen)
    exact hl.answer_update hlen hi
  deleted later hlen row hrow hdeleted := by
    rw [List.length_append] at hlen
    obtain ⟨l, hl⟩ := run_held b deeds (by omega)
    obtain ⟨m, hm, hkeep⟩ := hl.after later hlen
    rw [hl.table] at hrow
    obtain ⟨r, hr, rfl⟩ := List.mem_map.1 hrow
    have hstatus : r.status = .deleted := Status.tag_injective (Cell.text.inj hdeleted)
    obtain ⟨s, hs, hsd⟩ := hkeep r.id r (Ledger.find_of_mem hr) hstatus
    rw [run_append, hm.table]
    refine ⟨Row.ofRecord s, List.mem_map_of_mem (Ledger.mem_of_find hs), ?_, ?_⟩
    · simp [Row.ofRecord, Ledger.id_of_find hs]
    · simp [Row.ofRecord, hsd]

def lonely : Batch where
  records := [.mint ⟨0⟩ ⟨.dark, "dark:/c/d", by decide⟩ ⟨⟨0⟩, .item, none, []⟩ .epoch]
  minted := List.forall_mem_singleton.2 ⟨_, _, _, _, rfl⟩
  ids := List.nodup_singleton _

/-- A copy that was overtaken by another is refused, and the deletion of its row stands. -/
example : ((run lonely [.insert 0, .copy 0, .edit 0 (.transition .pending) .epoch, .update 0,
      .edit 0 (.transition .toBeDeleted) .epoch, .edit 0 (.transition .deleted) .epoch,
      .update 0]).step lonely (.update 1)).1 = .error (.versionConflict ⟨0⟩ 0) := by
  decide +kernel

end Desk

end IdentifierRegistrar
