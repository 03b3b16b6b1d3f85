import IdentifierRegistrar.Proofs.Operation.Solo
import IdentifierRegistrar.Proofs.Store.Shown

/-! Operations on one row, wherever the row stands. In a world that is not concerned with the store an
operation on one record reads and writes the row of that record only: amid any other rows it gets the
same replies, ends in the same way and leaves the same row as by itself (`meets_in_place`). -/

namespace IdentifierRegistrar

/-- What is outside the store, where one operation runs and no other: what it answers does not depend
on the table, and the table stays. -/
structure World (σ : Type) where
  lookup : ResourceId → σ → Except DirectoryError (Option Resource) × σ
  agency : Scheme → (call : Agency.Call) → σ → Except AgencyError call.Result × σ
  freshId : σ → RecordId × σ
  now : σ → Instant × σ

open Service Operation

namespace World

variable {σ τ : Type}

def surroundings (w : World σ) : Surroundings σ where
  lookup resource s := ((w.lookup resource s.2).1, (s.1, (w.lookup resource s.2).2))
  agency scheme call s := ((w.agency scheme call s.2).1, (s.1, (w.agency scheme call s.2).2))
  freshId := w.freshId
  now := w.now

def answer (w : World σ) : Answerer interface (Table × σ) := w.surroundings.answer

/-- The world is one of those that `o` describes. `view` is what `o` sees of its state, and of what has
passed between an operation and its services so far. -/
structure Fits (w : World σ) (o : Outside τ) (view : σ → List Exchange → τ) : Prop where
  now : ∀ u past, view (w.now u).2 (past ++ [⟨.now, (w.now u).1⟩]) = view u past
  store : ∀ u past call x, view u (past ++ [⟨.store call, x⟩]) = view u past
  lookup : ∀ u past resource, o.lookup resource (w.lookup resource u).1 ∧
    view (w.lookup resource u).2 (past ++ [⟨.lookup resource, (w.lookup resource u).1⟩]) = view u past
  change : ∀ u past scheme c, o.change (view u past) c (w.agency scheme (.change c) u).1
    (view (w.agency scheme (.change c) u).2
      (past ++ [⟨.agency scheme (.change c), (w.agency scheme (.change c) u).1⟩]))

end World

namespace World

variable {σ : Type} (w : World σ)

theorem run_store (call : Store.Call) (t : Table) (u : σ) :
    (Operation.store call).run w.answer (t, u) =
      ((Store.answer t call).1.mapError .store, (Store.answer t call).2, u) := by
  have hrequest : (request (.store call)).run w.answer (t, u) =
      (.ok (Store.answer t call).1, (Store.answer t call).2, u) := rfl
  rw [Operation.store, Program.run_bind, hrequest]
  rcases Store.answer t call with ⟨_ | _, _⟩ <;> rfl

theorem exchanges_store (call : Store.Call) (t : Table) (u : σ) :
    (Operation.store call).exchanges w.answer (t, u) = [⟨.store call, (Store.answer t call).1⟩] := by
  have hrequest : (request (.store call)).run w.answer (t, u) =
      (.ok (Store.answer t call).1, (Store.answer t call).2, u) := rfl
  have hfirst : (request (.store call)).exchanges w.answer (t, u) =
      [⟨.store call, (Store.answer t call).1⟩] := rfl
  rw [Operation.store, Program.exchanges_bind, hrequest, hfirst]
  rcases Store.answer t call with ⟨_ | _, _⟩ <;> rfl

end World

structure Row.Keeps (row : Row) (s : Record) : Prop where
  id : row.hasId s.id = true
  record : row.record = .ok s

/-- What `p` comes to on a row, wherever the row stands: its result, the row and the state that it
leaves, and its exchanges. The rows around stay. -/
structure InPlace {σ α : Type} (w : World σ) (p : Operation α) (row : Row) (u : σ)
    (x : Except RegistrarError α) (left : Row) (u' : σ) (es : List Exchange) : Prop where
  run : ∀ before after, Table.Sound (before ++ row :: after) →
    p.run w.answer (before ++ row :: after, u) = (x, before ++ left :: after, u')
  exchanges : ∀ before after, Table.Sound (before ++ row :: after) →
    p.exchanges w.answer (before ++ row :: after, u) = es
  sound : ∀ before after, Table.Sound (before ++ row :: after) →
    Table.Sound (before ++ left :: after)
  id : left.id = row.id

section InPlace

variable {σ τ α : Type} {w : World σ} {o : Outside τ} {view : σ → List Exchange → τ}
  {row : Row} {s : Record} {u : σ}

theorem Row.Keeps.shows {before after : Table} (h : row.Keeps s)
    (hs : Table.Sound (before ++ row :: after)) : Table.Shows (before ++ row :: after) s :=
  ⟨hs, row, by simp, h.id, h.record⟩

theorem Table.Shows.keeps {t : Table} (h : t.Shows s) : ∃ row ∈ t, row.Keeps s := by
  obtain ⟨row, hmem, hid, hrow⟩ := h.row
  exact ⟨row, hmem, hid, hrow⟩

theorem Row.Keeps.updateFrom {c d : Record} (h : row.Keeps c.stored) (hd : c.Revision d) :
    (Row.updateFrom d row).Keeps d.next.stored := by
  refine ⟨?_, ?_⟩
  · have hid := h.id
    rw [Record.stored_id] at hid
    rw [Record.stored_id, Record.next_id, hd.id]
    exact hid
  · rw [Row.overwrite_record h.record, hd.overwrite_stored]

/-- Whatever stands around the row, the reply to `q` is `y`, and the row becomes `mid`. -/
structure RepliesInPlace {σ : Type} (w : World σ) (q : Service.Request) (row : Row) (u : σ) (y : Reply q)
    (mid : Row) (u' : σ) : Prop where
  answer : ∀ before after, Table.Sound (before ++ row :: after) →
    w.answer q (before ++ row :: after, u) = (y, before ++ mid :: after, u')
  sound : ∀ before after, Table.Sound (before ++ row :: after) →
    Table.Sound (before ++ mid :: after)
  id : mid.id = row.id

theorem RepliesInPlace.of_world {q : Service.Request} {y : Reply q} {u' : σ}
    (h : ∀ t, w.answer q (t, u) = (y, t, u')) (row : Row) : RepliesInPlace w q row u y row u' :=
  ⟨fun _ _ _ => h _, fun _ _ hs => hs, rfl⟩

theorem RepliesInPlace.get (hrow : row.Keeps s) (w : World σ) (u : σ) :
    RepliesInPlace w (.store (.get s.id)) row u (.ok (some s)) row u := by
  refine ⟨fun before after hs => ?_, fun _ _ hs => hs, rfl⟩
  change (Table.get? (before ++ row :: after) s.id, before ++ row :: after, u) = _
  rw [(hrow.shows hs).get?]
  rfl

theorem RepliesInPlace.update {c d : Record} (hrow : row.Keeps c.stored) (hd : c.Revision d)
    (w : World σ) (u : σ) :
    RepliesInPlace w (.store (.update d)) row u (.ok d.next) (Row.updateFrom d row) u := by
  refine ⟨fun before after hs => ?_, fun before after hs => ?_, rfl⟩
  · obtain ⟨hupdate, -⟩ := Table.Sound.updateRecord_split (c := c) hs hrow.id hrow.record hd
    change ((Store.answer _ (.update d)).1, (Store.answer _ (.update d)).2, u) = _
    rw [Store.answer, hupdate]
    rfl
  · exact (Table.Sound.updateRecord_split (c := c) hs hrow.id hrow.record hd).2

section Rules

variable {β : Type} {x : Except RegistrarError α} {left mid : Row} {u₁ u' : σ} {es es₁ : List Exchange}

theorem InPlace.done (w : World σ) (a : α) (row : Row) (u : σ) :
    InPlace w (.done a) row u (.ok a) row u [] :=
  ⟨fun _ _ _ => rfl, fun _ _ _ => rfl, fun _ _ hs => hs, rfl⟩

theorem InPlace.fail (w : World σ) (e : RegistrarError) (row : Row) (u : σ) :
    InPlace w (.fail e : Operation α) row u (.error e) row u [] :=
  ⟨fun _ _ _ => rfl, fun _ _ _ => rfl, fun _ _ hs => hs, rfl⟩

theorem InPlace.ask {q : interface.Request} {next : interface.Reply q → Operation α} {y : Reply q}
    (hy : RepliesInPlace w q row u y mid u₁) (h : InPlace w (next y) mid u₁ x left u' es) :
    InPlace w (.ask q next) row u x left u' (⟨q, y⟩ :: es) := by
  refine ⟨fun before after hs => ?_, fun before after hs => ?_, fun before after hs => ?_,
    h.id.trans hy.id⟩
  · rw [Program.run, hy.answer before after hs]
    exact h.run before after (hy.sound before after hs)
  · rw [Program.exchanges, hy.answer before after hs]
    exact congrArg (_ :: ·) (h.exchanges before after (hy.sound before after hs))
  · exact h.sound before after (hy.sound before after hs)

theorem InPlace.bind {p : Operation β} {f : β → Operation α} {b : β}
    (hp : InPlace w p row u (.ok b) mid u₁ es₁) (h : InPlace w (f b) mid u₁ x left u' es) :
    InPlace w (p >>= f) row u x left u' (es₁ ++ es) := by
  refine ⟨fun before after hs => ?_, fun before after hs => ?_, fun before after hs => ?_,
    h.id.trans hp.id⟩
  · rw [Program.run_bind, hp.run before after hs]
    exact h.run before after (hp.sound before after hs)
  · rw [Program.exchanges_bind, hp.run before after hs, hp.exchanges before after hs]
    exact congrArg (es₁ ++ ·) (h.exchanges before after (hp.sound before after hs))
  · exact h.sound before after (hp.sound before after hs)

theorem InPlace.attempt {p : Operation α} (h : InPlace w p row u x left u' es) :
    InPlace w p.attempt row u (.ok x) left u' es := by
  refine ⟨fun before after hs => ?_, fun before after hs => ?_, h.sound, h.id⟩
  · rw [Program.run_attempt, h.run before after hs]
  · rw [Program.exchanges_attempt, h.exchanges before after hs]

end Rules

section Ends

variable {β : Type} {mid : Row} {u₁ : σ} {es : List Exchange}
  {P Q : Except RegistrarError α → List Exchange → Record → Prop}

/-- In place, the operation ends with a result, has passed some exchanges and leaves a record, and `P` holds
of the three. -/
def EndsInPlace (w : World σ) (p : Operation α) (row : Row) (u : σ)
    (P : Except RegistrarError α → List Exchange → Record → Prop) : Prop :=
  ∃ x left s u' es, InPlace w p row u x left u' es ∧ left.Keeps s ∧ P x es s

theorem EndsInPlace.mono {p : Operation α} (h : EndsInPlace w p row u P)
    (hPQ : ∀ x es s, P x es s → Q x es s) : EndsInPlace w p row u Q := by
  obtain ⟨x, left, s, u', es, hplace, hleft, hP⟩ := h
  exact ⟨x, left, s, u', es, hplace, hleft, hPQ x es s hP⟩

/-- An operation in place comes to one thing only. -/
theorem EndsInPlace.of_inPlace {p : Operation α} {x : Except RegistrarError α} {left : Row} {u' : σ}
    (h : EndsInPlace w p row u P) (hplace : InPlace w p row u x left u' es) :
    ∃ s, left.Keeps s ∧ P x es s := by
  obtain ⟨x', left', s, u'', es', hplace', hleft, hP⟩ := h
  have hsound : Table.Sound ([] ++ [row]) := List.pairwise_singleton _ _
  have hrun := (hplace.run [] [] hsound).symm.trans (hplace'.run [] [] hsound)
  have hexchanges := (hplace.exchanges [] [] hsound).symm.trans (hplace'.exchanges [] [] hsound)
  cases hrun
  cases hexchanges
  exact ⟨s, hleft, hP⟩

theorem EndsInPlace.bind {p : Operation β} {f : β → Operation α} {b : β}
    (hp : InPlace w p row u (.ok b) mid u₁ es)
    (h : EndsInPlace w (f b) mid u₁ fun x es' s => P x (es ++ es') s) :
    EndsInPlace w (p >>= f) row u P := by
  obtain ⟨x, left, s, u', es', hplace, hleft, hP⟩ := h
  exact ⟨x, left, s, u', es ++ es', hp.bind hplace, hleft, hP⟩

/-- What an operation comes to in place it comes to in any table, and only the row of its record changes. -/
theorem EndsInPlace.run {p : Operation α} {before after : Table} {id : RecordId}
    (h : EndsInPlace w p row u P) (hsound : Table.Sound (before ++ row :: after))
    (hid : row.hasId id = true) : ∃ x left s u',
      p.run w.answer (before ++ row :: after, u) = (x, before ++ left :: after, u') ∧
      Table.Sound (before ++ left :: after) ∧ left.Keeps s ∧ s.id = id ∧
      P x (p.exchanges w.answer (before ++ row :: after, u)) s := by
  obtain ⟨x, left, s, u', es, hplace, hleft, hP⟩ := h
  have hsid : s.id = id := by
    refine Table.id_of_record hleft.record ?_
    rw [Row.hasId, hplace.id]
    exact hid
  refine ⟨x, left, s, u', hplace.run before after hsound, hplace.sound before after hsound, hleft, hsid, ?_⟩
  rw [hplace.exchanges before after hsound]
  exact hP

end Ends

/-- One reply, wherever the row stands. -/
theorem World.Fits.replies_in_place (hw : w.Fits o view) {q : Service.Request} (hq : Minds s q)
    (hrow : row.Keeps s) (past : List Exchange) :
    ∃ (y : Reply q) (mid : Row) (s' : Record) (u' : σ) (h' : τ),
      o.Gives (s, view u past) q y (s', h') ∧ h' = view u' (past ++ [⟨q, y⟩]) ∧ mid.Keeps s' ∧
      RepliesInPlace w q row u y mid u' := by
  cases q with
  | store call =>
    cases call with
    | get id =>
      obtain rfl : id = s.id := hq
      exact ⟨_, row, s, u, _, .got, (hw.store _ _ _ _).symm, hrow, .get hrow w u⟩
    | update d =>
      obtain ⟨c, rfl, hd⟩ : ∃ c : Record, c.stored = s ∧ c.Revision d := hq
      exact ⟨_, _, d.next.stored, u, _, .wrote, (hw.store _ _ _ _).symm, hrow.updateFrom hd,
        .update hrow hd w u⟩
    | _ => exact hq.elim
  | lookup resource =>
    obtain ⟨hlookup, hview⟩ := hw.lookup u past resource
    exact ⟨_, row, s, _, _, .lookup hlookup, hview.symm, hrow, .of_world (fun _ => rfl) row⟩
  | agency scheme call =>
    cases call with
    | change c =>
      exact ⟨_, row, s, _, _, .changed (hw.change u past scheme c), rfl, hrow,
        .of_world (fun _ => rfl) row⟩
    | _ => exact hq.elim
  | freshId => exact hq.elim
  | now => exact ⟨_, row, s, _, _, .now, (hw.now u past).symm, hrow, .of_world (fun _ => rfl) row⟩

/-- What is known of an operation on one record by itself holds of it wherever the row stands, with
the same replies and the same row left. -/
theorem meets_in_place {p : Operation α} {J : Record → τ → Prop}
    {Q : Except RegistrarError α → Record × τ → Prop} (hw : w.Fits o view) (past : List Exchange)
    (h : p.Meets (solo o J) Q (s, view u past)) (hrow : row.Keeps s) :
    ∃ x left s' u' es, InPlace w p row u x left u' es ∧ left.Keeps s' ∧
      Q x (s', view u' (past ++ es)) := by
  induction p generalizing s u row past with
  | done a =>
    refine ⟨_, row, s, u, [], .done w a row u, hrow, ?_⟩
    rw [List.append_nil]
    exact h
  | fail e =>
    refine ⟨_, row, s, u, [], .fail w e row u, hrow, ?_⟩
    rw [List.append_nil]
    exact h
  | ask q next ih =>
    obtain ⟨y, mid, s', u₁, _, hgives, rfl, hmid, hy⟩ := hw.replies_in_place (u := u) h.1.2 hrow past
    obtain ⟨x, left, s'', u', es, hplace, hleft, hQ⟩ := ih y _ (h.2 y _ hgives) hmid
    refine ⟨x, left, s'', u', ⟨q, y⟩ :: es, .ask hy hplace, hleft, ?_⟩
    rw [List.append_assoc] at hQ
    exact hQ

end InPlace

end IdentifierRegistrar
