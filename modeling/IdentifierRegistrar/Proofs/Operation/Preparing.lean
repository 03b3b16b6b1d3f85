import IdentifierRegistrar.Proofs.Operation.InPlace

/-! What a request does before it drives its record, in place: it loads the record, takes the marker off
and writes the statuses of its plan. Nobody outside is asked so far (`execute_prepares`). -/

namespace IdentifierRegistrar

open Service Operation

namespace Service

def remotes (es : List Exchange) : List Exchange := es.filter (·.1.isRemote)

theorem remotes_append (es es' : List Exchange) : remotes (es ++ es') = remotes es ++ remotes es' :=
  List.filter_append _ _

def writes (es : List Exchange) : List Record :=
  es.filterMap fun
    | ⟨.store (.insert r), _⟩ | ⟨.store (.update r), _⟩ => some r
    | _ => none

theorem writes_append (es es' : List Exchange) : writes (es ++ es') = writes es ++ writes es' :=
  List.filterMap_append

end Service

namespace Record

structure Written (r : Record) (statuses : List Status) (es : List Exchange) : Prop where
  statuses : (writes es).map (·.status) = statuses
  stages : ∀ d ∈ writes es, r.Stage d

variable {r s : Record} {statuses statuses' : List Status} {es es' : List Exchange}

theorem Written.nil (r : Record) (h : writes es = []) : r.Written [] es := by
  refine ⟨?_, ?_⟩
  · rw [h, List.map_nil]
  · rw [h]
    intro d hd
    cases hd

theorem Written.single {d : Record} (hd : r.Stage d) (h : writes es = [d]) : r.Written [d.status] es := by
  refine ⟨?_, ?_⟩
  · rw [h, List.map_singleton]
  · intro d' hd'
    rw [h] at hd'
    rw [List.mem_singleton.1 hd']
    exact hd

theorem Written.append (h : r.Written statuses es) (hs : r.Stage s) (h' : s.Written statuses' es') :
    r.Written (statuses ++ statuses') (es ++ es') := by
  refine ⟨?_, ?_⟩
  · rw [writes_append, List.map_append, h.statuses, h'.statuses]
  · intro d hd
    rw [writes_append] at hd
    rcases List.mem_append.1 hd with hd | hd
    · exact h.stages d hd
    · exact hs.trans (h'.stages d hd)

/-- The write that takes the marker off, where the plan has no other. -/
def unmarking (r : Record) (steps : List Status) : List Status :=
  if steps = [] ∧ r.attention ≠ none then [r.status] else []

end Record

namespace Registrar

section Steps

variable {σ : Type} {row : Row} {c r d : Record}

theorem load_in_place (hrow : row.Keeps r) (w : World σ) (u : σ) :
    InPlace w (load r.id) row u (.ok r) row u [⟨.store (.get r.id), .ok (some r)⟩] :=
  .ask (.get hrow w u) (.done w r row u)

theorem now_in_place (row : Row) (w : World σ) (u : σ) :
    InPlace w now row u (.ok (w.now u).1) row (w.now u).2 [⟨.now, (w.now u).1⟩] :=
  .ask (.of_world (fun _ => rfl) row) (.done w _ row _)

theorem write_in_place (hrow : row.Keeps c.stored) (hd : c.Revision d) (w : World σ) (u : σ) :
    InPlace w (write d) row u (.ok d.next) (Row.updateFrom d row) u
      [⟨.store (.update d), .ok d.next⟩] :=
  .ask (.update hrow hd w u) (.done w d.next _ u)

theorem commit_in_place {target : Status} (hrow : row.Keeps c.stored) (hr : c.Draft r)
    (ht : target ∈ r.status.targets) (w : World σ) (u : σ) :
    InPlace w (commit r target) row u (.ok (r.moveTo target (w.now u).1).next)
      (Row.updateFrom (r.moveTo target (w.now u).1) row) (w.now u).2
      [⟨.now, (w.now u).1⟩, ⟨.store (.update (r.moveTo target (w.now u).1)),
        .ok (r.moveTo target (w.now u).1).next⟩] := by
  have hd : r.transition target (w.now u).1 = .ok (r.moveTo target (w.now u).1) :=
    Record.transition_eq_ok_iff.2 ⟨ht, rfl⟩
  refine InPlace.bind (now_in_place row w u) ?_
  rw [hd]
  exact write_in_place hrow (hr.transition hd) w _

theorem lookup_in_place (resource : ResourceId) (row : Row) (w : World σ) (u : σ) :
    InPlace w (lookup resource) row u (.ok (w.lookup resource u).1) row (w.lookup resource u).2
      [⟨.lookup resource, (w.lookup resource u).1⟩] :=
  .ask (.of_world (fun _ => rfl) row) (.done w _ row _)

theorem change_in_place (scheme : Scheme) (c : Agency.Change) (row : Row) (w : World σ) (u : σ) :
    InPlace w (agency scheme (.change c)) row u (.ok (w.agency scheme (.change c) u).1) row
      (w.agency scheme (.change c) u).2
      [⟨.agency scheme (.change c), (w.agency scheme (.change c) u).1⟩] :=
  .ask (.of_world (fun _ => rfl) row) (.done w _ row _)

end Steps

section Preparing

variable {σ : Type} {w : World σ} {calls : σ → Nat} {row : Row} {c d r : Record} {steps : List Status}

variable (calls) in
/-- The statuses of a plan are written, and nobody outside is asked. -/
theorem through_in_place (hnow : ∀ u, calls (w.now u).2 = calls u) (hrow : row.Keeps c.stored)
    (hd : c.Draft d) (hchain : (d.status :: steps).IsChain fun s t => t ∈ s.targets)
    (hnone : steps = [] → c = d) (u : σ) : ∃ e mid u₁ es,
      InPlace w (through commit d steps) row u (.ok e) mid u₁ es ∧ mid.Keeps e.stored ∧ d.Stage e ∧
      d.Descends e ∧ e.attention = d.attention ∧ e.status = steps.getLastD d.status ∧ remotes es = [] ∧
      d.Written steps es ∧ calls u₁ = calls u := by
  induction steps generalizing c d row u with
  | nil =>
    obtain rfl := hnone rfl
    exact ⟨c, row, u, [], .done w c row u, hrow, .refl c, .refl c, rfl, rfl, rfl, .nil c rfl, rfl⟩
  | cons target steps ih =>
    rw [List.isChain_cons_cons] at hchain
    have hcommit := commit_in_place hrow hd hchain.1 w u
    have hrevision : c.Revision (d.moveTo target (w.now u).1) :=
      hd.transition (Record.transition_eq_ok_iff.2 ⟨hchain.1, rfl⟩)
    have hmoved := Record.Stage.moved d target (w.now u).1
    have hsame : d.Descends (d.moveTo target (w.now u).1).next := ⟨rfl, rfl, rfl, rfl, .inl rfl⟩
    obtain ⟨e, mid, u₁, es, hplace, hmid, hstage, hdescends, hmark, hstatus, hquiet, hwritten, hcalls⟩ :=
      ih (hrow.updateFrom hrevision) (.refl _) hchain.2 (fun _ => rfl) (w.now u).2
    refine ⟨e, mid, u₁, _, .bind hcommit hplace, hmid, hmoved.trans hstage, hsame.trans hdescends, hmark,
      ?_, ?_, ?_, hcalls.trans (hnow u)⟩
    · rw [List.getLastD_cons]
      exact hstatus
    · rw [remotes_append, hquiet]
      rfl
    · have hone : d.Stage (d.moveTo target (w.now u).1) := ⟨rfl, rfl, rfl⟩
      exact .append (.single hone rfl) hmoved hwritten

/-- So is a record without its marker, where nothing else is to be written. -/
theorem unmark_in_place (hnow : ∀ u, calls (w.now u).2 = calls u) (hrow : row.Keeps r.stored)
    (steps : List Status) (u : σ) : ∃ c d mid u₁ es,
      InPlace w (unmark r steps) row u (.ok d) mid u₁ es ∧ Cleared r steps c d ∧ mid.Keeps c.stored ∧
      remotes es = [] ∧ r.Written (r.unmarking steps) es ∧ calls u₁ = calls u := by
  unfold Record.unmarking
  by_cases hm : r.attention = none
  · rw [if_neg (fun h => h.2 hm)]
    refine ⟨r, r, row, u, [], ?_, ⟨.refl r, .refl r, rfl, hm, fun _ => rfl⟩, hrow, rfl, .nil r rfl, rfl⟩
    rw [unmark, if_pos (by rw [hm]; rfl)]
    exact .done w r row u
  · have hdraft := (Record.Draft.refl r).clearAttention (w.now u).1
    have hstage := Record.Stage.clearAttention r (w.now u).1
    have hmark := r.clearAttention_attention (w.now u).1
    rw [unmark, if_neg (by simpa using hm)]
    by_cases hn : steps = []
    · subst hn
      rw [if_pos ⟨rfl, hm⟩]
      refine ⟨_, _, _, _, _, .ask (.of_world (fun _ => rfl) row) (write_in_place hrow hdraft.revision w _),
        ⟨.refl _, hstage.trans ⟨rfl, rfl, rfl⟩, hdraft.status, hmark, fun _ => rfl⟩,
        hrow.updateFrom hdraft.revision, rfl, ?_, hnow u⟩
      rw [← hdraft.status]
      exact .single hstage rfl
    · rw [if_neg (fun h => hn h.1)]
      refine ⟨r, _, row, _, [⟨.now, (w.now u).1⟩], .ask (.of_world (fun _ => rfl) row) ?_,
        ⟨hdraft, hstage, hdraft.status, hmark, fun h => absurd h hn⟩, hrow, rfl, .nil r rfl, hnow u⟩
      change InPlace w (if steps.isEmpty then write _ else pure _) _ _ _ _ _ _
      rw [if_neg (by simpa using hn)]
      exact .done w _ row _

variable (calls) in
/-- A request begins with the writes of its plan; then it drives the record, unmarked and at the last
status of the plan. -/
theorem execute_prepares {a : Action} (g : Registrar) (hnow : ∀ u, calls (w.now u).2 = calls u)
    (hrow : row.Keeps r) (hplan : a.plan r.status = .ok (.drive steps)) (u : σ) : ∃ e mid u₁ es₁,
      mid.Keeps e.stored ∧ r.Stage e ∧ e.attention = none ∧ e.status = steps.getLastD r.status ∧
      remotes es₁ = [] ∧ r.Written (r.unmarking steps ++ steps) es₁ ∧ calls u₁ = calls u ∧
      (∀ before after, Table.Sound (before ++ row :: after) → Table.Sound (before ++ mid :: after)) ∧
      ∀ {x left u' es}, InPlace w (g.drive e) mid u₁ x left u' es →
        InPlace w (g.execute r.id a) row u x left u' (es₁ ++ es) := by
  have hrow' : row.Keeps r.stored := by rwa [Row.stored_of_record hrow.record]
  obtain ⟨c, d, mid, u₁, es₁, hunmark, hcleared, hmid, hquiet, hcleans, hcalls⟩ :=
    unmark_in_place hnow hrow' steps u
  have hchain : (d.status :: steps).IsChain fun s t => t ∈ s.targets := by
    rw [hcleared.status]
    exact Action.isChain_plan hplan
  obtain ⟨e, mid', u₂, es₂, hthrough, hmid', hstage, -, hmark, hstatus, hquiet', hwrites, hcalls'⟩ :=
    through_in_place calls hnow hmid hcleared.draft hchain hcleared.written u₁
  refine ⟨e, mid', u₂, ⟨.store (.get r.id), .ok (some r)⟩ :: (es₁ ++ es₂), hmid',
    hcleared.stage.trans hstage, hmark.trans hcleared.attention, ?_, ?_,
    ?_, hcalls'.trans hcalls,
    fun before after hs => hthrough.sound before after (hunmark.sound before after hs),
    fun {x left u' es} hdrive => ?_⟩
  · rw [hstatus, hcleared.status]
  · change remotes (es₁ ++ es₂) = []
    rw [remotes_append, hquiet, hquiet']
    rfl
  · have hall := hcleans.append hcleared.stage hwrites
    exact ⟨hall.statuses, hall.stages⟩
  · have hbody : InPlace w (unmark r steps >>= fun r => through commit r steps >>= g.drive) row u x left
        u' (es₁ ++ (es₂ ++ es)) := .bind hunmark (.bind hthrough hdrive)
    rw [List.cons_append, List.append_assoc]
    refine InPlace.bind (load_in_place hrow w u) ?_
    rw [hplan]
    exact hbody

theorem execute_rested {a : Action} {g : Registrar} (hrow : row.Keeps r)
    (hplan : a.plan r.status = .ok .alreadyDone) (w : World σ)
    (u : σ) : InPlace w (g.execute r.id a) row u (.ok (.succeeded r.status)) row u
      [⟨.store (.get r.id), .ok (some r)⟩] := by
  refine InPlace.bind (load_in_place hrow w u) ?_
  rw [hplan]
  exact .done w _ row u

theorem execute_refused {a : Action} {g : Registrar} {e : IllegalTransition} (hrow : row.Keeps r)
    (hplan : a.plan r.status = .error e) (w : World σ) (u : σ) :
    InPlace w (g.execute r.id a) row u (.error (.illegalTransition e)) row u
      [⟨.store (.get r.id), .ok (some r)⟩] := by
  refine InPlace.bind (load_in_place hrow w u) ?_
  rw [hplan]
  exact .fail w _ row u

end Preparing

end Registrar

end IdentifierRegistrar
