import IdentifierRegistrar.Proofs.Operation.Tracked

/-! What an operation that has the store to itself leaves of the rows is told by its log: a record
that has an entry is left as the entry says, and every other row is as it was or calm. Main result:
`Errand.tracked_alone`. -/

namespace IdentifierRegistrar

open Service Operation

/-- A row that an operation gives no outcome for: nothing, a new record, or one that was held. -/
inductive Calm : Option Record → Option Record → Prop
  | same (row : Option Record) : Calm row row
  | minted {s : Record} (ha : s.attention = none) : Calm none (some s)
  | held {r s : Record} (hr : r.status ∉ Status.intents) (ha : s.attention = r.attention) :
    Calm (some r) (some s)

/-- The marker that a record keeps through an errand, unless it is marked anew. A request clears it,
a release does not, and a sweep leaves marked records alone. -/
def Errand.Keeps (r : Record) (x : Except RegistrarError Outcome) (kept : Option String) :
    Errand → Prop
  | release _ => kept = r.attention
  | _ => kept = none ∨ kept = r.attention ∧ (r.status ∈ Status.intents → ∃ e, x = .error e)

theorem Errand.Keeps.cases {e : Errand} {r : Record} {x : Except RegistrarError Outcome}
    {kept : Option String} (h : e.Keeps r x kept) : kept = none ∨ kept = r.attention := by
  cases e with
  | release resource => exact .inr h
  | _ => exact Or.imp_right And.left h

inductive Entry (e : Errand) : Option Record → Except RegistrarError Outcome → Option Record → Prop
  | absent {err : RegistrarError} : Entry e none (.error err) none
  | left {r s : Record} {x : Except RegistrarError Outcome} {kept : Option String}
    (h : r.Left kept x s) (hkept : e.Keeps r x kept) : Entry e (some r) x (some s)

structure Effect (e : Errand) (l : Ledger) (log : Log) (m : Ledger) : Prop where
  ids : (log.map (·.1)).Nodup
  entries : ∀ y ∈ log, Entry e (l.find y.1) y.2 (m.find y.1)
  others : ∀ id, id ∉ log.map (·.1) → Calm (l.find id) (m.find id)

theorem calm_of_added {l m : Ledger} {r : Record} (h : m.records = l.records ++ [r.stored])
    (ha : r.attention = none) (id : RecordId) : Calm (l.find id) (m.find id) := by
  by_cases hid : id = r.id
  · subst hid
    rw [Ledger.find_eq_none_of_added h, Ledger.find_added_self h]
    exact .minted ha
  · rw [Ledger.find_added_of_ne h hid]
    exact .same _

theorem Effect.nil {e : Errand} {l : Ledger} : Effect e l [] l :=
  ⟨by simp, by simp, fun _ _ => .same _⟩

namespace Registrar

variable {w : Trouble} {l : Ledger} (g : Registrar)

def Calmly {α : Type} (l : Ledger) (_ : Except RegistrarError α) (m : Ledger) : Prop :=
  ∀ id, Calm (l.find id) (m.find id)

theorem Calmly.refl {α : Type} (x : Except RegistrarError α) : Calmly l x l := fun _ => .same _

variable {I : Ledger → Prop} (hI : ∀ m, I m)

include hI

theorem load_alone (id : RecordId) : (load id).Meets (alone w I)
    (fun x m => m = l ∧ ∀ r, x = .ok r → l.Has r) l := by
  refine meets_read rfl (hI l) ?_ fun e _ => ⟨rfl, by simp⟩
  cases h : l.find id with
  | none => exact ⟨rfl, by simp⟩
  | some r =>
    refine ⟨rfl, fun r' hr => ?_⟩
    obtain rfl := Except.ok.inj hr
    exact l.has_of_find h

theorem hold_alone (id : RecordId) : (hold id).Meets (alone w I) (Calmly l) l := by
  refine (load_alone hI id).bind (fun r m h => ?_) fun e m h => h.1 ▸ .refl _
  obtain ⟨rfl, hr⟩ := h
  have hr := hr r rfl
  refine (commit_alone (hI m) hr (.refl r)).mono fun x n h => ?_
  cases h with
  | stopped _ => exact .refl _
  | @moved t _ htarget hn hsame =>
    intro id
    by_cases hid : id = r.id
    · subst hid
      rw [show m.find r.id = some r.stored from hr, hn.find_eq (show _ = r.id from rfl)]
      refine .held ?_ rfl
      cases h : r.status <;> simp [h, Status.targets, Status.intents] at htarget ⊢
    · rw [hsame id hid]
      exact .same _

theorem mintNew_alone (resource : Resource) (scheme : Scheme) (wanted : ResourceId) :
    (g.mintNew resource scheme wanted).Meets (alone w I) (Calmly l) l := by
  unfold mintNew requireConnector
  split
  · simp only [Program.pure_eq, Program.done_bind]
    refine meets_alone (by simp) (hI l) fun id _ => meets_alone (by simp) (hI l) fun x _ => ?_
    cases x with
    | error e => exact .refl _
    | ok value =>
      refine meets_now (hI l) fun t => meets_insert (hI l) (fun m h => ?_) fun e => ?_
      · exact calm_of_added (r := .mint id value resource t) h rfl
      · cases e with
        | liveRecordExists _ _ =>
          refine meets_read rfl (hI l) ?_ fun e _ => .refl _
          cases (l.liveOf wanted scheme).head? <;> exact .refl _
        | _ => exact .refl _
  · exact .refl _

theorem mint_alone (resource : ResourceId) (scheme : Scheme) :
    (g.mint resource scheme).Meets (alone w I) (Calmly l) l := by
  refine meets_read rfl (hI l) ?_ fun e _ => .refl _
  cases (l.liveOf resource scheme).head? with
  | some r => exact .refl _
  | none =>
    refine meets_alone (by simp) (hI l) fun x _ => ?_
    rcases x with e | (_ | found)
    · exact .refl _
    · exact .refl _
    · exact g.mintNew_alone hI found scheme resource

theorem question_alone (scheme : Scheme) (call : Agency.Call) :
    (question scheme call).Meets (alone w I) (fun _ m => m = l) l :=
  meets_alone (by simp) (hI l) fun x _ => by cases x <;> rfl

theorem reconcile_alone (id : RecordId) : (g.reconcile id).Meets (alone w I) (Calmly l) l := by
  refine (load_alone hI id).bind (fun r m h => ?_) fun e m h => h.1 ▸ .refl _
  obtain rfl := h.1
  unfold requireConnector
  split
  · simp only [Program.pure_eq, Program.done_bind]
    refine (question_alone hI _ _).bind (fun reserved m h => ?_) fun _ _ h => h ▸ .refl _
    subst h
    exact (question_alone hI _ _).bind (fun _ _ h => h ▸ .refl _) fun _ _ h => h ▸ .refl _
  · exact .refl _

theorem identifiersFor_alone (resource : ResourceId) :
    (identifiersFor resource).Meets (alone w I) (Calmly l) l :=
  meets_read rfl (hI l) (.refl _) fun _ _ => .refl _

theorem resolve_alone (text : String) : (resolve text).Meets (alone w I) (Calmly l) l := by
  unfold resolve
  split
  · exact .refl _
  · rename_i value _
    refine meets_read rfl (hI l) ?_ fun _ _ => .refl _
    cases l.records.find? (·.value = value) <;> exact .refl _

end Registrar

/-- What an errand comes to, with the log of its outcomes. A sweep that can read what is retryable
comes to all of it. -/
structure Errand.Ends (e : Errand) (l : Ledger) (y : Log × Except RegistrarError Report)
    (m : Ledger) : Prop where
  effect : Effect e l y.1 m
  swept : e = .sweep → ∀ report, y.2 = .ok report →
    y.1.map (·.1) = (l.retryable Status.intents).map (·.id)

theorem Registrar.Went.effect {P : Record → Except RegistrarError (RecordId × Outcome) → Record → Prop}
    {goesOn : Bool} {l m : Ledger} {rs : List Record} {log : Log} {e : Errand}
    (h : Went P goesOn l rs log m) (hnodup : (rs.map (·.id)).Nodup) (hrs : ∀ r ∈ rs, r ∈ l.records)
    (hP : ∀ r ∈ rs, ∀ x s, P r x s → ∃ kept, r.Left kept (x.map (·.2)) s ∧
      e.Keeps r (x.map (·.2)) kept) : Effect e l log m where
  ids := h.ids.sublist.nodup hnodup
  entries y hy := by
    obtain ⟨r, hr, x, s, rfl, hs, hx⟩ := h.entries y hy
    obtain ⟨kept, hleft, hkept⟩ := hP r hr x s hx
    rw [Ledger.find_of_mem (hrs r hr), hs]
    exact .left hleft hkept
  others id hid := by
    rw [h.others id hid]
    exact .same _

theorem Registrar.Listed.ends {w : Trouble} {goesOn : Bool} {l m : Ledger} {rs : List Record}
    {P : Record → Except RegistrarError (RecordId × Outcome) → Record → Prop}
    {report : Log → Except RegistrarError Report} {e : Errand}
    {y : Log × Except RegistrarError Report} (h : Listed w P goesOn l rs report y m)
    (hnodup : (rs.map (·.id)).Nodup) (hrs : ∀ r ∈ rs, r ∈ l.records)
    (hP : ∀ r ∈ rs, ∀ x s, P r x s → ∃ kept, r.Left kept (x.map (·.2)) s ∧
      e.Keeps r (x.map (·.2)) kept)
    (hsweep : e = .sweep → goesOn = true ∧ rs = l.retryable Status.intents) : e.Ends l y m := by
  cases h with
  | unread _ => exact ⟨.nil, by simp⟩
  | went h =>
    refine ⟨h.effect hnodup hrs hP, fun he _ _ => ?_⟩
    obtain ⟨hgo, rfl⟩ := hsweep he
    exact h.all (.inl hgo)

/-- Every errand leaves the rows as its log says. -/
theorem Errand.tracked_alone {w : Trouble} (g : Registrar) (e : Errand) (l : Ledger) :
    (e.tracked g).Meets (alone w fun _ => True) (fun x m => ∃ y, x = .ok y ∧ e.Ends l y m) l := by
  have hplain {α : Type} {p : Operation α} {e : Errand} (f : α → Report) (he : e ≠ .sweep)
      (hp : p.Meets (alone w fun _ => True) (Registrar.Calmly l) l) :
      ((p >>= fun a => pure (f a)).attempt >>= fun x =>
        (pure ([], x) : Operation (Log × Except RegistrarError Report))).Meets
          (alone w fun _ => True) (fun x m => ∃ y, x = .ok y ∧ e.Ends l y m) l := by
    rw [Program.attempt_bind, Program.bind_assoc]
    refine hp.attempt_bind fun x m h => ?_
    cases x <;> exact ⟨_, rfl, ⟨by simp, by simp, fun id _ => h id⟩, fun h => absurd h he⟩
  cases e with
  | mint resource scheme =>
    exact hplain .record (by simp) (g.mint_alone (fun _ => trivial) resource scheme)
  | hold id => exact hplain .record (by simp) (Registrar.hold_alone (fun _ => trivial) id)
  | execute id action =>
    refine (g.execute_alone id action fun _ _ => trivial).attempt_bind fun x m h => ?_
    refine ⟨_, rfl, ⟨by simp, fun y hy => ?_, fun id' hid => ?_⟩, by simp⟩
    · rw [List.mem_singleton.1 hy]
      cases h with
      | absent h => simp only [h]; exact .absent
      | left hr hs _ h hkept => simp only [hr, hs]; exact .left h hkept
    · cases h with
      | absent _ => exact .same _
      | left _ _ hsame _ _ =>
        rw [hsame id' (by simpa using hid)]
        exact .same _
  | release resource =>
    refine (g.trackRelease_alone resource trivial fun _ _ _ _ _ _ _ _ _ => trivial).mono
      fun x m h => ?_
    obtain ⟨-, y, hy, h⟩ := h
    refine ⟨y, hy, h.ends (l.boundTo_ids_nodup resource) (fun r hr => (l.mem_boundTo.1 hr).1)
      (fun r _ x s h => ⟨_, h.left, rfl⟩) (by simp)⟩
  | sweep =>
    refine (g.trackSweep_alone fun _ => trivial).mono fun x m h => ?_
    obtain ⟨-, y, hy, h⟩ := h
    refine ⟨y, hy, h.ends (l.retryable_ids_nodup (by decide)) (fun r hr => (l.mem_retryable.1 hr).1)
      (fun r hr x s h => ⟨_, h.2.left, .inl (l.mem_retryable.1 hr).2.2⟩) fun _ => ⟨rfl, rfl⟩⟩
  | reconcile id => exact hplain .remote (by simp) (g.reconcile_alone (fun _ => trivial) id)
  | identifiersFor resource =>
    exact hplain .summaries (by simp) (Registrar.identifiersFor_alone (fun _ => trivial) resource)
  | resolve text => exact hplain .resolution (by simp) (Registrar.resolve_alone (fun _ => trivial) text)

end IdentifierRegistrar
