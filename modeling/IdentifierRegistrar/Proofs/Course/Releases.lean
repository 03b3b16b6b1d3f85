import IdentifierRegistrar.Proofs.Course.Outcomes
import IdentifierRegistrar.Proofs.Operation.Effects
import IdentifierRegistrar.Proofs.Operation.Handling
import IdentifierRegistrar.Proofs.Store.Bound

/-! What a release comes to. Each record that is bound to the resource is let go by itself, from whatever
status it has: its binding is cleared, and unless it is deleted or still waits for its registration its agency
is asked to delete it, once (`Registrar.releaseRecord_ends`). So nothing is bound to the resource in the end,
and nothing else has changed (`Registrar.release_unbinds`). -/

namespace IdentifierRegistrar

open Service Operation

namespace Record

/-- The agency is asked to delete the record when its resource is released. -/
def departs (r : Record) : Bool := r.status != .deleted && r.status != .updateBeforeRegistration

def deletion (r : Record) : Request := .agency r.scheme (.change (.delete r.value))

theorem descends_clearResource (r : Record) (t : Instant) : r.Descends (r.clearResource t) := by
  unfold clearResource
  split
  · exact ⟨rfl, rfl, rfl, rfl, .inr rfl⟩
  · exact .refl r

theorem Descends.next {r s : Record} (h : r.Descends s) : r.Descends s.next :=
  h.trans ⟨rfl, rfl, rfl, rfl, .inl rfl⟩

theorem Descends.stored {r s : Record} (h : r.Descends s) (hr : r.stored = r) : r.Descends s.stored where
  id := h.id
  value := h.value
  resourceType := h.resourceType
  createdAt := (congrArg Instant.wholeSecond h.createdAt).trans (congrArg Record.createdAt hr)
  resource := h.resource

end Record

/-- A record that a deletion has something to do for is one that its agency is asked to delete. -/
theorem Action.departs_of_plan {r : Record} {steps : List Status}
    (hplan : delete.plan r.status = .ok (.drive steps)) : r.departs = true := by
  have hplans := deletePlans r.status
  rw [hplan] at hplans
  cases hplans with
  | stands hs => simp [Record.departs, hs]
  | held hs => simp [Record.departs, hs]
  | direct ht =>
    cases hs : r.status with
    | deleted => rw [hs] at ht; exact absurd ht (by decide)
    | updateBeforeRegistration => rw [hs] at ht; exact absurd ht (by decide)
    | _ => simp [Record.departs, hs]

/-- What the answer of the agency to a deletion makes of a record with a marker: the outcome and the record
that is left. -/
inductive Withdrawn (mark : Option String) : Except AgencyError Unit → Outcome → Record → Prop
  | agreed {s : Record} (hs : s.status = .deleted) (hm : s.attention = mark) :
    Withdrawn mark (.ok ()) (.succeeded .deleted) s
  | unreachable {reason : String} {s : Record} (hs : s.status = .toBeDeleted) (hm : s.attention = mark) :
    Withdrawn mark (.error (.unreachable reason)) (.pendingRetry .toBeDeleted reason) s
  | rejected {code : Nat} {text : String} {s : Record} (hs : s.status = .toBeDeleted)
    (hm : s.attention = some (AgencyError.rejected code text).message) :
    Withdrawn mark (.error (.rejected code text))
      (.needsAttention .toBeDeleted (AgencyError.rejected code text).message) s

def earlyMessage : String := "illegal status transition: update_before_registration -> to_be_deleted"

/-- How a record is let go: the outcome, what has passed with those outside, and the record that is left. -/
inductive LetGo (r : Record) : Outcome → List Exchange → Record → Prop
  | gone {s : Record} (hr : r.status = .deleted) (hs : s.status = .deleted)
    (hm : s.attention = r.attention) : LetGo r (.succeeded .deleted) [] s
  | early {s : Record} (hr : r.status = .updateBeforeRegistration)
    (hs : s.status = .updateBeforeRegistration) (hm : s.attention = some earlyMessage) :
    LetGo r (.needsAttention .updateBeforeRegistration earlyMessage) [] s
  | asked {s : Record} {o : Outcome} {y : Except AgencyError Unit} (hr : r.departs = true)
    (h : Withdrawn r.attention y o s) :
    LetGo r o [⟨.agency r.scheme (.change (.delete r.value)), y⟩] s

/-- The agency is asked for nothing but the deletion, and only where the record is to go. -/
theorem LetGo.requests {r s : Record} {o : Outcome} {rs : List Exchange} (h : LetGo r o rs s) :
    rs.map (·.1) = if r.departs then [r.deletion] else [] := by
  cases h with
  | gone hr => simp [Record.departs, hr]
  | early hr => simp [Record.departs, hr]
  | asked hr => simp [Record.deletion, hr]

namespace Registrar

section Letting

variable {σ : Type} {g : Registrar} {w : World σ} {row : Row} {c d e r : Record} {steps : List Status}

/-- The agency of `r` is there and reads its value, if `r` is to go. -/
def Heeds (g : Registrar) (w : World σ) (r : Record) : Prop :=
  r.departs = true → g.connected r.scheme = true ∧
    ∀ u cause, (w.agency r.scheme (.change (.delete r.value)) u).1 ≠ .error (.malformedValue cause)

theorem drive_deleting (hs : e.status = .toBeDeleted) (hg : g.connected e.scheme = true) :
    g.drive e = agency e.scheme (.change (.delete e.value)) >>= settle e .deleted := by
  have hgoes : ¬ (Sends e ∧ e.resource = none) := fun h => h.1.2 hs
  have hubr : e.status ≠ .updateBeforeRegistration := by
    rw [hs]
    decide
  have hc : e.status.confirmed? = some .deleted := by
    rw [hs]
    rfl
  unfold drive resume requireConnector
  rw [if_neg (mt parks_iff.1 hgoes), if_neg hubr]
  simp only [hc, hg, if_true, Program.pure_eq, Program.done_bind]
  rw [if_pos hs]

theorem settle_withdraws (hrow : row.Keeps e.stored) (hs : e.status = .toBeDeleted)
    {y : Except AgencyError Unit} (hy : ∀ cause, y ≠ .error (.malformedValue cause)) (u : σ) :
    EndsInPlace w (settle e .deleted y) row u fun x es s => ∃ o, x = .ok o ∧ remotes es = [] ∧
      Withdrawn e.attention y o s ∧ e.stored.Descends s := by
  rcases y with cause | ⟨⟩
  · cases cause with
    | unreachable reason =>
      refine ⟨_, _, _, _, _, .done w _ row u, hrow, _, rfl, rfl, ?_, .refl e.stored⟩
      rw [hs]
      exact .unreachable hs rfl
    | rejected code text =>
      refine ⟨_, _, _, _, _, park_in_place hrow (.refl e) _ w u,
        hrow.updateFrom ((Record.Draft.refl e).flag _ (w.now u).1), _, rfl, rfl, ?_,
        ⟨rfl, rfl, rfl, rfl, .inl rfl⟩⟩
      rw [hs]
      exact .rejected hs rfl
    | malformedValue cause => exact absurd rfl (hy cause)
  · have ht : Status.deleted ∈ e.status.targets := by
      rw [hs]
      decide
    have hrevision : e.Revision (e.moveTo .deleted (w.now u).1) :=
      (Record.Draft.refl e).transition (Record.transition_eq_ok_iff.2 ⟨ht, rfl⟩)
    exact ⟨_, _, _, _, _, (commit_in_place hrow (.refl e) ht w u).bind (.done w _ _ _),
      hrow.updateFrom hrevision, _, rfl, rfl, .agreed rfl rfl, ⟨rfl, rfl, rfl, rfl, .inl rfl⟩⟩

theorem drive_withdraws (hrow : row.Keeps e.stored) (hs : e.status = .toBeDeleted)
    (hg : g.connected e.scheme = true) (hy : ∀ u cause,
      (w.agency e.scheme (.change (.delete e.value)) u).1 ≠ .error (.malformedValue cause)) (u : σ) :
    EndsInPlace w (g.drive e) row u fun x es s => ∃ o y, x = .ok o ∧
      remotes es = [⟨.agency e.scheme (.change (.delete e.value)), y⟩] ∧
      Withdrawn e.attention y o s ∧ e.stored.Descends s := by
  rw [drive_deleting hs hg]
  refine .bind (change_in_place e.scheme (.delete e.value) row w u)
    ((settle_withdraws hrow hs (hy u) _).mono ?_)
  rintro x es s ⟨o, hx, hquiet, hwithdrawn, hdescends⟩
  refine ⟨o, _, hx, ?_, hwithdrawn, hdescends⟩
  rw [remotes_append, hquiet]
  rfl

def Unbinds (r : Record) (x : Except RegistrarError (RecordId × Outcome)) (es : List Exchange)
    (s : Record) : Prop :=
  ∃ o, x = .ok (r.id, o) ∧ LetGo r o (remotes es) s ∧ r.Descends s ∧ s.resource = none

/-- A record that was unbound and taken to the intent of its deletion is driven. -/
theorem withdraw_unbinds (hrow : row.Keeps e.stored) (hr : r.stored = r) (hdescends : r.Descends e)
    (hs : e.status = .toBeDeleted) (hb : e.resource = none) (hm : e.attention = r.attention)
    (hdeparts : r.departs = true) (hheeds : g.Heeds w r) (u : σ) :
    EndsInPlace w (g.drive e >>= fun o => pure (e.id, o)) row u (Unbinds r) := by
  have hscheme : e.scheme = r.scheme := congrArg IdentifierValue.scheme hdescends.value
  obtain ⟨hg, hy⟩ := hheeds hdeparts
  rw [← hscheme, ← hdescends.value] at hy
  rw [← hscheme] at hg
  obtain ⟨x, left, s, u', es, hplace, hleft, o, y, rfl, hremotes, hwithdrawn, hd⟩ :=
    drive_withdraws hrow hs hg hy u
  refine ⟨_, left, s, u', _, hplace.bind (.done w (e.id, o) left u'), hleft, o, ?_, ?_,
    (hdescends.stored hr).trans hd, ?_⟩
  · rw [hdescends.id]
  · rw [List.append_nil, hremotes, hscheme, hdescends.value]
    rw [hm] at hwithdrawn
    exact .asked hdeparts hwithdrawn
  · have hresource := hd.resource
    rw [show e.stored.resource = none from hb, or_self] at hresource
    exact hresource

/-- A record that is not at that intent is taken there first. -/
theorem through_unbinds (hrow : row.Keeps r.stored) (hr : r.stored = r) (hdraft : r.Draft d)
    (hd : r.Descends d) (hb : d.resource = none) (hm : d.attention = r.attention)
    (hplan : Action.delete.plan d.status = .ok (.drive steps)) (hne : steps ≠ [])
    (hdeparts : r.departs = true) (hheeds : g.Heeds w r) (u : σ) :
    EndsInPlace w (through commit d steps >>= fun e => g.drive e >>= fun o => pure (e.id, o)) row u
      (Unbinds r) := by
  obtain ⟨e, mid, u₁, es, hplace, hmid, -, he, hmark, hstatus, hquiet, -⟩ :=
    through_in_place (w := w) (fun _ => 0) (fun _ => rfl) hrow hdraft (Action.isChain_plan hplan)
      (fun h => absurd h hne) u
  have hlast := (Action.getLastD_eq_toBeDeleted_iff hplan).2 rfl
  have hunbound := he.resource
  rw [hb, or_self] at hunbound
  refine .bind hplace ((withdraw_unbinds hmid hr (hd.trans he) (hstatus.trans hlast) hunbound
    (hmark.trans hm) hdeparts hheeds u₁).mono ?_)
  rintro x es' s ⟨o, hx, hgo, hs⟩
  refine ⟨o, hx, ?_, hs⟩
  rw [remotes_append, hquiet]
  exact hgo

/-- A record is let go, whatever its status is. -/
theorem releaseRecord_ends (hrow : row.Keeps r) (hheeds : g.Heeds w r) (u : σ) :
    EndsInPlace w (g.releaseRecord r) row u (Unbinds r) := by
  have hr : r.stored = r := Row.stored_of_record hrow.record
  rw [← hr] at hrow
  refine .bind (now_in_place row w u) ?_
  generalize (w.now u).1 = t
  have hdraft := (Record.Draft.refl r).clearResource t
  have hd := r.descends_clearResource t
  have hb := r.clearResource_resource t
  have hm := r.clearResource_attention t
  have hwrite := write_in_place hrow hdraft.revision w (w.now u).2
  have hwritten := hrow.updateFrom hdraft.revision
  have hdeparts {steps : List Status} (hp : Action.delete.plan (r.clearResource t).status = .ok (.drive steps)) :
      r.departs = true := by
    rw [Record.clearResource_status] at hp
    exact Action.departs_of_plan hp
  have hplan := Action.deletePlans (r.clearResource t).status
  generalize hp : Action.delete.plan (r.clearResource t).status = plan at hplan
  simp only [hp]
  cases hplan with
  | done hs =>
    refine ⟨_, _, _, _, _, hwrite.bind (.done w _ _ _), hwritten, .succeeded .deleted, ?_, ?_,
      hd.next.stored hr, hb⟩
    · rw [Record.next_id, Record.next_status, hs, hd.id]
    · rw [Record.clearResource_status] at hs
      exact .gone hs (hdraft.status.trans hs) hm
  | stands hs =>
    refine .bind hwrite ((withdraw_unbinds hwritten hr hd.next hs hb hm (hdeparts hp) hheeds _).mono ?_)
    rintro x es s hx
    exact hx
  | direct ht => exact through_unbinds hrow hr hdraft hd hb hm hp (by simp) (hdeparts hp) hheeds _
  | held hs => exact through_unbinds hrow hr hdraft hd hb hm hp (by simp) (hdeparts hp) hheeds _
  | refused hs =>
    rw [hs] at hp
    cases hp
    have hstatus : r.status = .updateBeforeRegistration := hdraft.status.symm.trans hs
    refine ⟨_, _, _, _, _, (park_in_place hrow hdraft earlyMessage w _).bind (.done w _ _ _),
      hrow.updateFrom (hdraft.flag _ _), .needsAttention .updateBeforeRegistration earlyMessage, ?_, ?_,
      (hd.trans ⟨rfl, rfl, rfl, rfl, .inl rfl⟩ : r.Descends
        ((r.clearResource t).flag earlyMessage (w.now (w.now u).2).1).next).stored hr, hb⟩
    · rw [hs, hd.id]
    · exact .early hstatus hs rfl

end Letting

section Release

open Handling

variable {σ : Type} {g : Registrar} {w : World σ} {resource : ResourceId} {t : Table} {u u' : σ}
  {rs : List Record} {h : Handling σ} {hs : List (Handling σ)} {outcomes : List (RecordId × Outcome)}

structure Parted (h : Handling σ) (o : RecordId × Outcome) : Prop where
  id : o.1 = h.record.id
  result : h.result = .ok o.2
  left : ∃ s, h.left.record = .ok s ∧ LetGo h.record o.2 (remotes h.exchanges) s
  unbound : h.left.resourceId = .null
  columns : ∀ c ∈ [Column.id, .scheme, .value, .resourceType, .createdAt], h.left.get c = h.row.get c

theorem Parted.requests {o : RecordId × Outcome} (h' : Parted h o) :
    (remotes h.exchanges).map (·.1) = if h.record.departs then [h.record.deletion] else [] := by
  obtain ⟨s, -, hgo⟩ := h'.left
  exact hgo.requests

theorem exists_parted (hparted : List.Forall₂ Parted hs outcomes) (hh : h ∈ hs) : ∃ o, Parted h o := by
  have heach := (List.forall₂_and_left hs outcomes (p := fun h => ∃ o, Parted h o) (R := Parted)).1
    (hparted.imp fun h o ho => ⟨⟨o, ho⟩, ho⟩)
  exact heach.1 h hh

/-- What the agencies are asked while rows are let go. -/
theorem flatMap_requests (hall : ∀ h ∈ hs, ∃ o, Parted h o) :
    (hs.flatMap fun h => remotes h.exchanges).map (·.1) =
      (hs.filter (·.record.departs)).map (·.record.deletion) := by
  induction hs with
  | nil => rfl
  | cons h hs ih =>
    obtain ⟨o, ho⟩ := hall h (by simp)
    rw [List.flatMap_cons, List.map_append, ho.requests, ih fun k hk => hall k (by simp [hk]),
      List.filter_cons]
    split
    · rw [List.map_cons, List.singleton_append]
    · rw [List.nil_append]

/-- Rows of a sound table that are let go hold different values. -/
theorem nodup_values (hsound : t.Sound) (hmem : ∀ h ∈ hs, h.row ∈ t)
    (hdecoded : ∀ h ∈ hs, h.row.record = .ok h.record) (hnodup : (hs.map (·.row)).Nodup) :
    (hs.map (·.record.value)).Nodup := by
  rw [List.Nodup, List.pairwise_map] at hnodup ⊢
  refine hnodup.imp_of_mem fun {h h'} hh hh' hne hvalue => hne ?_
  refine hsound.eq_of_value (hmem h hh) (hmem h' hh') (Row.value_of_record (hdecoded h hh)) ?_
  rw [Row.value_of_record (hdecoded h' hh')]
  exact congrArg (fun v => Cell.text (IdentifierValue.text v)) hvalue.symm

/-- Nothing is bound to the resource where all that was bound has been let go. -/
theorem listByResource_left (hrows : (hs.map (·.row)).Perm (t.filter (Row.isBoundTo resource)))
    (hnodup : (hs.map (·.row)).Nodup) (hparted : ∀ h ∈ hs, ∃ o, Parted h o)
    (hothers : ∀ row, row.isBoundTo resource = false → leftOf hs row = row) :
    Table.listByResource (t.map (leftOf hs)) resource = .ok [] := by
  refine Table.listByResource_eq_nil fun row hrow => ?_
  obtain ⟨row', hrow', rfl⟩ := List.mem_map.1 hrow
  cases hbound : row'.isBoundTo resource with
  | true =>
    have hmem : row' ∈ hs.map (·.row) := hrows.mem_iff.2 (List.mem_filter.2 ⟨hrow', hbound⟩)
    obtain ⟨h, hh, rfl⟩ := List.mem_map.1 hmem
    obtain ⟨o, ho⟩ := hparted h hh
    rw [leftOf_of_mem hnodup hh, Row.isBoundTo, ho.unbound]
    rfl
  | false =>
    rw [hothers row' hbound]
    exact hbound

/-- The columns that a row has from the beginning. -/
theorem columns_of_descends {row left : Row} {r s : Record} (hrow : row.record = .ok r)
    (hleft : left.record = .ok s) (hid : left.id = row.id) (h : r.Descends s) :
    ∀ c ∈ [Column.id, .scheme, .value, .resourceType, .createdAt], left.get c = row.get c := by
  have hcells (c : Column) (hc : c ≠ .id) (hc' : c ≠ .resourceId)
      (hsame : (Row.ofRecord s).get c = (Row.ofRecord r).get c) : left.get c = row.get c :=
    ((Row.record_eq_ok_iff_encodes.1 hleft).columns c hc hc').trans
      (hsame.trans ((Row.record_eq_ok_iff_encodes.1 hrow).columns c hc hc').symm)
  intro c hc
  simp only [List.mem_cons, List.not_mem_nil, or_false] at hc
  rcases hc with rfl | rfl | rfl | rfl | rfl
  · exact hid
  · exact hcells .scheme (by decide) (by decide) (by simp [Row.get, Row.ofRecord, Record.scheme, h.value])
  · exact hcells .value (by decide) (by decide) (by simp [Row.get, Row.ofRecord, h.value])
  · exact hcells .resourceType (by decide) (by decide) (by simp [Row.get, Row.ofRecord, h.resourceType])
  · exact hcells .createdAt (by decide) (by decide) (by simp [Row.get, Row.ofRecord, h.createdAt])

theorem releaseRecord_parts {row : Row} {r : Record} (hrow : row.Keeps r) (hheeds : g.Heeds w r) (u : σ) :
    ∃ (h : Handling σ) (o : RecordId × Outcome), h.row = row ∧ h.record = r ∧ h.start = u ∧
      InPlace w (g.releaseRecord h.record) h.row h.start (.ok o) h.left h.finish h.exchanges ∧
      Parted h o := by
  obtain ⟨x, left, s, u', es, hplace, hleft, o, rfl, hgo, hdescends, hnone⟩ :=
    releaseRecord_ends hrow hheeds u
  refine ⟨⟨row, r, u, .ok o, left, u', es⟩, (r.id, o), rfl, rfl, rfl, hplace, rfl, rfl,
    ⟨s, hleft.record, hgo⟩, ?_, ?_⟩
  · exact (Row.record_eq_ok_iff_encodes.1 hleft.record).unbound hnone
  · exact columns_of_descends hrow.record hleft.record hplace.id hdescends

theorem release_read (g : Registrar) (w : World σ) (u : σ) (h : t.listByResource resource = .ok rs) :
    (g.release resource).run w.answer (t, u) = (forEach g.releaseRecord rs).run w.answer (t, u) ∧
      (g.release resource).exchanges w.answer (t, u) = ⟨.store (.listByResource resource), .ok rs⟩ ::
        (forEach g.releaseRecord rs).exchanges w.answer (t, u) := by
  rw [release, Program.run_bind, Program.exchanges_bind, World.run_store, World.exchanges_store,
    Store.answer, h]
  exact ⟨rfl, rfl⟩

/-- How a release goes over a table: each row that is bound is let go once, the oldest first, and told of;
the agencies are asked to delete those that are to go and for nothing else; all other rows are as they
were. -/
structure Clearance (g : Registrar) (w : World σ) (resource : ResourceId) (t : Table) (u : σ)
    (hs : List (Handling σ)) (outcomes : List (RecordId × Outcome)) (u' : σ) : Prop where
  rows : (hs.map (·.row)).Perm (t.filter (Row.isBoundTo resource))
  decoded : ∀ h ∈ hs, h.row.record = .ok h.record
  order : hs.Pairwise fun h h' => h.record.place ≤ h'.record.place
  parted : List.Forall₂ Parted hs outcomes
  run : (g.release resource).run w.answer (t, u) = (.ok outcomes, t.map (leftOf hs), u')
  left : ∀ h ∈ hs, leftOf hs h.row = h.left
  others : ∀ row, row.isBoundTo resource = false → leftOf hs row = row
  outside : remotes ((g.release resource).exchanges w.answer (t, u)) =
    hs.flatMap fun h => remotes h.exchanges
  asked : (remotes ((g.release resource).exchanges w.answer (t, u))).map (·.1) =
    (hs.filter (·.record.departs)).map (·.record.deletion)
  /-- So no value is deleted twice. -/
  values : (hs.map (·.record.value)).Nodup

/-- Every bound row is let go, and nothing is bound to the resource any more. -/
theorem release_unbinds (hsound : t.Sound) (hrows : ∀ row ∈ t, row.isBoundTo resource = true →
      row.Canonical ∧ ∃ r, row.record = .ok r ∧ g.Heeds w r) (u : σ) :
    ∃ hs outcomes u', Clearance g w resource t u hs outcomes u' ∧
      Table.listByResource (t.map (leftOf hs)) resource = .ok [] := by
  obtain ⟨listed, hlisted⟩ := Table.binds_of_decodes fun row hrow hbound =>
    have ⟨hcanonical, r, hr, _⟩ := hrows row hrow hbound
    ⟨hcanonical, r, hr⟩
  have hkeeps (p : Row × Record) (hp : p ∈ listed) : p.1 ∈ t ∧ p.1.Keeps p.2 ∧ g.Heeds w p.2 := by
    obtain ⟨hmem, hbound⟩ := hlisted.mem hp
    obtain ⟨hcanonical, r, hr, hheeds⟩ := hrows p.1 hmem hbound
    have hrecord := hlisted.decoded p hp
    obtain rfl := Except.ok.inj (hr.symm.trans hrecord)
    exact ⟨hmem, ⟨hcanonical.hasId hrecord, hrecord⟩, hheeds⟩
  have hnodup := hlisted.nodup hsound
  obtain ⟨hs, outcomes, u', hloops⟩ := forEach_loops (Q := Parted) hsound
    (fun p hp => ⟨(hkeeps p hp).1, (hkeeps p hp).2.1⟩) hnodup
    (fun p hp u => releaseRecord_parts (hkeeps p hp).2.1 (hkeeps p hp).2.2 u) u
  have hparted : List.Forall₂ Parted hs outcomes := hloops.came.imp fun _ _ h => h.2
  have hhs : (hs.map (·.row)).Nodup := hloops.rows ▸ hnodup
  have hothers (row : Row) (hrow : row.isBoundTo resource = false) : leftOf hs row = row := by
    refine leftOf_of_not_mem fun hmem => ?_
    rw [hloops.rows] at hmem
    obtain ⟨p, hp, rfl⟩ := List.mem_map.1 hmem
    rw [(hlisted.mem hp).2] at hrow
    cases hrow
  have hperm : (hs.map (·.row)).Perm (t.filter (Row.isBoundTo resource)) := hloops.rows ▸ hlisted.rows
  have hdecoded (h : Handling σ) (hh : h ∈ hs) : h.row.record = .ok h.record :=
    hlisted.decoded _ (hloops.mem hh)
  have heach (h : Handling σ) (hh : h ∈ hs) : ∃ o, Parted h o := exists_parted hparted hh
  obtain ⟨hrun, hexchanges⟩ := release_read g w u hlisted.read
  have houtside : remotes ((g.release resource).exchanges w.answer (t, u)) =
      hs.flatMap fun h => remotes h.exchanges := by
    rw [hexchanges, hloops.exchanges]
    exact List.filter_flatMap
  refine ⟨hs, outcomes, u', ⟨hperm, hdecoded, ?_, hparted, hrun.trans hloops.run,
    fun h hh => leftOf_of_mem hhs hh, hothers, houtside, ?_,
    nodup_values hsound (fun h hh => (hkeeps _ (hloops.mem hh)).1) hdecoded hhs⟩,
    listByResource_left hperm hhs heach hothers⟩
  · have horder := hlisted.order
    rw [← hloops.listed, List.pairwise_map] at horder
    exact horder
  · rw [houtside]
    exact flatMap_requests heach

def sampleElsewhere : Record :=
  ⟨⟨33⟩, ⟨.dark, "dark:/r/elsewhere", by decide⟩, some ⟨1⟩, .item, .minted, none, 0, .epoch, .epoch⟩

def sampleReleasing : Table :=
  [⟨⟨30⟩, ⟨.dark, "dark:/r/deleted", by decide⟩, some ⟨0⟩, .item, .deleted, none, 4, .epoch, .epoch⟩,
    ⟨⟨31⟩, ⟨.dark, "dark:/r/waiting", by decide⟩, some ⟨0⟩, .item, .updateBeforeRegistration, none, 1,
      .epoch, .epoch⟩,
    ⟨⟨32⟩, ⟨.doi, "doi:10.1/registered", by decide⟩, some ⟨0⟩, .item, .isRegistered, none, 2, .epoch, .epoch⟩,
    sampleElsewhere].map Row.ofRecord

/-- The agency is not reached: all three are unbound nevertheless. -/
theorem sampleReleasing_unbound : ∃ (hs : List (Handling Nat)) (outcomes : List (RecordId × Outcome)) (u' : Nat),
    (release ⟨fun _ => true, .standard⟩ ⟨0⟩).run
      (World.rehearsal fun n => (.error (.unreachable "offline"), n + 1)).answer (sampleReleasing, 0) =
        (.ok outcomes, sampleReleasing.map (leftOf hs), u') ∧
    outcomes.length = 3 ∧ Table.listByResource (sampleReleasing.map (leftOf hs)) ⟨0⟩ = .ok [] ∧
    leftOf hs (Row.ofRecord sampleElsewhere) = Row.ofRecord sampleElsewhere := by
  have hsound : sampleReleasing.Sound := by
    unfold sampleReleasing Table.Sound Row.Clashes
    decide +kernel
  have hrows : ∀ row ∈ sampleReleasing, row.isBoundTo ⟨0⟩ = true → row.Canonical ∧ ∃ r, row.record = .ok r ∧
      Heeds ⟨fun _ => true, .standard⟩
        (World.rehearsal fun n : Nat => (.error (.unreachable "offline"), n + 1)) r := by
    intro row hrow _
    obtain ⟨r, -, rfl⟩ := List.mem_map.1 hrow
    refine ⟨Row.canonical_ofRecord r, _, Row.record_ofRecord r, fun _ => ⟨rfl, fun u cause h => ?_⟩⟩
    cases h
  obtain ⟨hs, outcomes, u', hclearance, hempty⟩ := release_unbinds hsound hrows 0
  refine ⟨hs, outcomes, u', hclearance.run, ?_, hempty, hclearance.others _ (by decide +kernel)⟩
  have hlength := hclearance.rows.length_eq
  rw [List.length_map] at hlength
  rw [← hclearance.parted.length_eq, hlength]
  decide +kernel

end Release

end Registrar

end IdentifierRegistrar
