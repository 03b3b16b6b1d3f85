import IdentifierRegistrar.Proofs.Operation.Custody

/-! An agency may find a value malformed. The operation that is told so writes nothing more to the
record, not even a marker; and no operation but a release asks for what a marked record asks. Main
result: `Errand.operation_leaving`. -/

namespace IdentifierRegistrar

namespace Service

/-- An agency was asked to change something under the value, and found the value malformed. -/
def Misfit (past : List Exchange) (v : IdentifierValue) : Prop :=
  ∃ scheme c cause, (⟨.agency scheme (.change c), .error (.malformedValue cause)⟩ : Exchange) ∈ past ∧
    c.value = v

theorem misfit_append {past : List Exchange} {q : Request} {x : Reply q} {v : IdentifierValue}
    (hq : ∀ scheme c, q ≠ .agency scheme (.change c)) (h : Misfit (past ++ [⟨q, x⟩]) v) :
    Misfit past v := by
  obtain ⟨scheme, c, cause, hmem, hv⟩ := h
  rcases List.mem_append.1 hmem with hmem | hmem
  · exact ⟨scheme, c, cause, hmem, hv⟩
  · obtain rfl := congrArg Sigma.fst (List.mem_singleton.1 hmem)
    exact absurd rfl (hq scheme c)

theorem misfit_append_change {past : List Exchange} {scheme : Scheme} {c : Agency.Change}
    {x : Except AgencyError Unit} {v : IdentifierValue}
    (h : Misfit (past ++ [⟨.agency scheme (.change c), x⟩]) v) :
    Misfit past v ∨ c.value = v ∧ ∃ cause, x = .error (.malformedValue cause) := by
  obtain ⟨scheme', c', cause, hmem, hv⟩ := h
  rcases List.mem_append.1 hmem with hmem | hmem
  · exact .inl ⟨scheme', c', cause, hmem, hv⟩
  · obtain ⟨⟩ := List.mem_singleton.1 hmem
    exact .inr ⟨hv, cause, rfl⟩

structure Listing (rs : List Record) : Prop where
  values : (rs.map (·.value)).Nodup
  unmarked : ∀ r ∈ rs, r.attention = none

/-- A reply that a store gives: what it lists to be tried again is unmarked and listed once, and what
was written comes back with its next version. -/
def Regular : (q : Request) → Reply q → Prop
  | .store (.listRetryable statuses), .ok rs => statuses.Nodup → Listing rs
  | .store (.update d), .ok d' => d' = d.next
  | _, _ => True

/-- The replies to an operation that leaves alone what was found malformed. A heedful one asks only
for what unmarked records ask. -/
def leaving (heedful : Prop) : Setting interface (List Exchange) where
  allows past
    | .store (.update d) => ¬ Misfit past d.value
    | .agency scheme (.change c) => ∃ r ∈ handed past, r.scheme = scheme ∧ c.Suits r ∧ r.Asks ∧
      (heedful → r.attention = none)
    | _ => True
  moves past q x past' := past' = past ++ [⟨q, x⟩] ∧ Regular q x

structure Smooth (before later : List Exchange) : Prop where
  grows : before <+: later
  fits : ∀ v, Misfit later v → Misfit before v

theorem Smooth.refl (past : List Exchange) : Smooth past past := ⟨List.prefix_refl _, fun _ h => h⟩

theorem Smooth.trans {a b c : List Exchange} (h : Smooth a b) (h' : Smooth b c) : Smooth a c :=
  ⟨h.grows.trans h'.grows, fun v hv => h.fits v (h'.fits v hv)⟩

theorem smooth_request {past : List Exchange} {q : Request} {x : Reply q}
    (hq : ∀ scheme c, q ≠ .agency scheme (.change c)) : Smooth past (past ++ [⟨q, x⟩]) :=
  ⟨List.prefix_append _ _, fun _ => misfit_append hq⟩

structure Ended (r : Record) (before : List Exchange) (x : Except RegistrarError Outcome)
    (later : List Exchange) : Prop where
  grows : before <+: later
  fits : ∀ v, Misfit later v →
    Misfit before v ∨ v = r.value ∧ ∃ cause, x = .error (.malformedIdentifier cause)

theorem Smooth.ended {r : Record} {before later : List Exchange} {x : Except RegistrarError Outcome}
    (h : Smooth before later) : Ended r before x later :=
  ⟨h.grows, fun v hv => .inl (h.fits v hv)⟩

theorem Ended.after {r : Record} {a b c : List Exchange} {x : Except RegistrarError Outcome}
    (h : Ended r b x c) (hs : Smooth a b) : Ended r a x c :=
  ⟨hs.grows.trans h.grows, fun v hv => (h.fits v hv).imp_left (hs.fits v)⟩

end Service

open Service Operation

namespace Operation

variable {β : Type} {past : List Exchange} {heedful : Prop}

theorem meets_leaving {q : Service.Request} {f : Service.Reply q → Operation β}
    {Q : Except RegistrarError β → List Exchange → Prop} (hq : (leaving heedful).allows past q)
    (h : ∀ x, Regular q x → (f x).Meets (leaving heedful) Q (past ++ [⟨q, x⟩])) :
    (request q >>= f).Meets (leaving heedful) Q past := by
  refine ⟨hq, ?_⟩
  rintro x _ ⟨rfl, hx⟩
  exact h x hx

structure Copied (r : Record) (before : List Exchange) (x : Except RegistrarError Record)
    (later : List Exchange) : Prop where
  smooth : Smooth before later
  copy : ∀ d, x = .ok d → d ∈ handed later ∧ d.value = r.value ∧ d.attention = r.attention

end Operation

namespace Registrar

variable (g : Registrar) {past : List Exchange} {heedful : Prop} {r : Record}

theorem write_leaving {d : Record} (h : ¬ Misfit past d.value) :
    (write d).Meets (leaving heedful) (Copied d past) past := by
  refine meets_leaving h fun x hx => ?_
  have hs : Smooth past (past ++ [⟨.store (.update d), x⟩]) := smooth_request (by simp)
  cases x with
  | error e => exact ⟨hs, by simp⟩
  | ok d' =>
    obtain rfl : d' = d.next := hx
    refine ⟨hs, fun e he => ?_⟩
    obtain rfl := Except.ok.inj he
    exact ⟨mem_handed_last (List.mem_singleton.2 rfl), rfl, rfl⟩

theorem commit_leaving (target : Status) (h : ¬ Misfit past r.value) :
    (commit r target).Meets (leaving heedful) (Copied r past) past := by
  refine meets_leaving trivial fun t _ => ?_
  have hnow : Smooth past (past ++ [⟨.now, t⟩]) := smooth_request (by simp)
  cases hd : r.transition target t with
  | error e => exact ⟨hnow, by simp⟩
  | ok d =>
    obtain ⟨-, rfl⟩ := Record.transition_eq_ok_iff.1 hd
    exact (write_leaving (d := r.moveTo target t) fun hm => h (hnow.fits _ hm)).mono
      fun _ _ h' => ⟨hnow.trans h'.smooth, h'.copy⟩

theorem park_leaving (message : String) (h : ¬ Misfit past r.value) :
    (park r message).Meets (leaving heedful) (fun _ later => Smooth past later) past := by
  refine meets_leaving trivial fun t _ => ?_
  have hnow : Smooth past (past ++ [⟨.now, t⟩]) := smooth_request (by simp)
  exact (write_leaving (d := r.flag message t) fun hm => h (hnow.fits _ hm)).bind
    (fun _ _ h' => hnow.trans h'.smooth) fun _ _ h' => hnow.trans h'.smooth

theorem call_leaving {c : Agency.Change} (confirmed : Status) (hr : r ∈ handed past)
    (hmark : heedful → r.attention = none) (h : ¬ Misfit past r.value) (hc : c.Suits r)
    (hbound : r.status = .toBeDeleted ∨ r.resource.isSome) :
    (agency r.scheme (.change c) >>= settle r confirmed).Meets (leaving heedful)
      (Ended r past) past := by
  refine meets_leaving ⟨r, hr, rfl, hc, hc.asks hbound, hmark⟩ fun x _ => ?_
  have hpast : past <+: past ++ [⟨.agency r.scheme (.change c), x⟩] := List.prefix_append _ _
  -- With any other answer nothing was found malformed by the call.
  have hsmooth (hx : ∀ cause, x ≠ .error (.malformedValue cause)) :
      Smooth past (past ++ [⟨.agency r.scheme (.change c), x⟩]) := by
    refine ⟨hpast, fun v hv => (misfit_append_change hv).resolve_right ?_⟩
    rintro ⟨-, cause, rfl⟩
    exact hx cause rfl
  rcases x with e | ⟨⟩
  · cases e with
    | unreachable reason => exact (hsmooth fun _ hx => by cases hx).ended
    | rejected status message =>
      have hs := hsmooth fun _ hx => by cases hx
      exact (park_leaving _ fun hm => h (hs.fits _ hm)).mono fun _ _ h' => (hs.trans h').ended
    | malformedValue cause =>
      refine ⟨hpast, fun v hv => (misfit_append_change hv).imp_right ?_⟩
      rintro ⟨rfl, -⟩
      exact ⟨hc.1, cause, rfl⟩
  · have hs := hsmooth fun _ hx => by cases hx
    exact (commit_leaving confirmed fun hm => h (hs.fits _ hm)).bind
      (fun _ _ h' => (hs.trans h'.smooth).ended) fun _ _ h' => (hs.trans h'.smooth).ended

theorem resume_leaving (hr : r ∈ handed past) (hmark : heedful → r.attention = none)
    (h : ¬ Misfit past r.value) : (g.resume r).Meets (leaving heedful) (Ended r past) past := by
  have hlookup {resource : ResourceId} {x : Reply (.lookup resource)} {later : List Exchange}
      (hx : (leaving heedful).moves past (.lookup resource) x later) : Smooth past later := by
    obtain ⟨rfl, -⟩ := hx
    exact smooth_request (by simp)
  refine resume_meets_of (P := fun later => Smooth past later ∧
    (r.status = .toBeDeleted ∨ r.resource.isSome)) (fun hd => ⟨.refl _, .inl hd⟩) ?_ ?_ ?_ ?_ ?_ ?_ ?_ ?_
  · exact fun _ => (Smooth.refl _).ended
  · exact fun _ _ => (Smooth.refl _).ended
  · exact fun _ _ => (park_leaving _ h).mono fun _ _ h' => h'.ended
  · exact fun _ _ _ => trivial
  · exact fun _ _ _ _ _ _ hx => (hlookup hx).ended
  · exact fun _ _ _ _ _ hx => (park_leaving _ fun hm => h ((hlookup hx).fits _ hm)).mono
      fun _ _ h' => ((hlookup hx).trans h').ended
  · exact fun _ _ _ _ hres hx => ⟨hlookup hx, .inr (Option.isSome_iff_exists.2 ⟨_, hres⟩)⟩
  · rintro confirmed c later ⟨hs, hbound⟩ - hc
    exact (call_leaving confirmed (mem_handed_later hs.grows hr) hmark (fun hm => h (hs.fits _ hm)) hc
      hbound).mono fun _ _ h' => h'.after hs

theorem drive_leaving (hr : r ∈ handed past) (hmark : heedful → r.attention = none)
    (h : ¬ Misfit past r.value) : (g.drive r).Meets (leaving heedful) (Ended r past) past := by
  refine drive_meets_of (fun _ _ => (park_leaving _ h).mono fun _ _ h' => h'.ended) (fun _ => ?_)
    fun _ => g.resume_leaving hr hmark h
  refine (commit_leaving _ h).bind (fun d later hd => ?_) fun _ _ h' => h'.smooth.ended
  obtain ⟨hs, hd⟩ := hd
  obtain ⟨hmem, hvalue, ha⟩ := hd d rfl
  refine (g.resume_leaving hmem (fun hh => ha.trans (hmark hh))
    fun hm => h (hs.fits _ (hvalue ▸ hm))).mono fun _ _ h' => ?_
  obtain ⟨hgrows, hfits⟩ := h'.after hs
  exact ⟨hgrows, hvalue ▸ hfits⟩

theorem load_leaving (id : RecordId) : (load id).Meets (leaving heedful)
    (fun x later => Smooth past later ∧ ∀ r, x = .ok r → r ∈ handed later) past := by
  refine meets_leaving trivial fun x _ => ?_
  have hs : Smooth past (past ++ [⟨.store (.get id), x⟩]) := smooth_request (by simp)
  rcases x with e | (_ | r)
  · exact ⟨hs, by simp⟩
  · exact ⟨hs, by simp⟩
  · refine ⟨hs, fun r' hr' => ?_⟩
    obtain rfl := Except.ok.inj hr'
    exact mem_handed_last (List.mem_singleton.2 rfl)

theorem through_leaving {steps : List Status} (h : ¬ Misfit past r.value)
    (hnone : steps = [] → r ∈ handed past) :
    (through commit r steps).Meets (leaving heedful) (Copied r past) past := by
  induction steps generalizing past r with
  | nil =>
    refine ⟨.refl _, fun d hd => ?_⟩
    obtain rfl := Except.ok.inj hd
    exact ⟨hnone rfl, rfl, rfl⟩
  | cons t steps ih =>
    refine (commit_leaving t h).bind (fun d later hd => ?_) fun _ _ h' => ⟨h'.smooth, by simp⟩
    obtain ⟨hs, hd⟩ := hd
    obtain ⟨hmem, hvalue, ha⟩ := hd d rfl
    refine (ih (r := d) (fun hm => h (hs.fits _ (hvalue ▸ hm))) fun _ => hmem).mono fun _ _ h' => ?_
    refine ⟨hs.trans h'.smooth, fun e he => ?_⟩
    obtain ⟨hmem', hvalue', ha'⟩ := h'.copy e he
    exact ⟨hmem', hvalue'.trans hvalue, ha'.trans ha⟩

theorem unmark_leaving (steps : List Status) (hr : r ∈ handed past) (h : ¬ Misfit past r.value) :
    (unmark r steps).Meets (leaving heedful) (fun x later => Smooth past later ∧ ∀ d, x = .ok d →
      d.attention = none ∧ (steps = [] → d ∈ handed later)) past := by
  unfold unmark
  split
  · rename_i hnone
    refine ⟨.refl _, fun d hd => ?_⟩
    obtain rfl := Except.ok.inj hd
    exact ⟨Option.isNone_iff_eq_none.1 hnone, fun _ => hr⟩
  · refine meets_leaving trivial fun t _ => ?_
    have hnow : Smooth past (past ++ [⟨.now, t⟩]) := smooth_request (by simp)
    have hvalue : (r.clearAttention t).value = r.value :=
      ((Record.Draft.refl r).clearAttention t).revision.value
    have hnone := r.clearAttention_attention t
    split
    · refine (write_leaving (d := r.clearAttention t)
        fun hm => h (hnow.fits _ (hvalue ▸ hm))).mono fun x later h' => ?_
      refine ⟨hnow.trans h'.smooth, fun d hd => ?_⟩
      obtain ⟨hmem, -, ha⟩ := h'.copy d hd
      exact ⟨ha.trans hnone, fun _ => hmem⟩
    · rename_i hne
      refine ⟨hnow, fun d hd => ?_⟩
      obtain rfl := Except.ok.inj hd
      exact ⟨hnone, fun h => absurd (by simp [h]) hne⟩

theorem execute_leaving (id : RecordId) (action : Action) (h : ∀ v, ¬ Misfit past v) :
    (g.execute id action).Meets (leaving heedful) (fun _ _ => True) past := by
  refine (load_leaving id).bind (fun r later hr => ?_) fun _ _ _ => trivial
  obtain ⟨hs, hr⟩ := hr
  cases hplan : action.plan r.status with
  | error e => trivial
  | ok plan =>
    cases plan with
    | alreadyDone => trivial
    | drive steps =>
      have hfit (v : IdentifierValue) : ¬ Misfit later v := fun hm => h v (hs.fits v hm)
      refine (unmark_leaving steps (hr r rfl) (hfit _)).bind (fun d later' hd => ?_)
        fun _ _ _ => trivial
      obtain ⟨hs', hd⟩ := hd
      obtain ⟨ha, hnone⟩ := hd d rfl
      have hfit' (v : IdentifierValue) : ¬ Misfit later' v := fun hm => hfit v (hs'.fits v hm)
      refine (through_leaving (hfit' _) hnone).bind (fun e last he => ?_) fun _ _ _ => trivial
      obtain ⟨hs'', he⟩ := he
      obtain ⟨hmem, -, ha'⟩ := he e rfl
      exact (g.drive_leaving hmem (fun _ => ha'.trans ha)
        fun hm => hfit' _ (hs''.fits _ hm)).mono fun _ _ _ => trivial

/-- As long as a release goes on, no value was found malformed. -/
theorem releaseRecord_leaving (hheedful : ¬ heedful) (h : ∀ v, ¬ Misfit past v) :
    (g.releaseRecord r).Meets (leaving heedful)
      (fun x later => ∀ y, x = .ok y → ∀ v, ¬ Misfit later v) past := by
  refine meets_leaving trivial fun t _ => ?_
  have hnow : Smooth past (past ++ [⟨.now, t⟩]) := smooth_request (by simp)
  have hfit {later : List Exchange} (hs : Smooth past later) (v : IdentifierValue) :
      ¬ Misfit later v := fun hm => h v (hs.fits v hm)
  have hdrive (d : Record) {later : List Exchange} (hs : Smooth past later) (hd : d ∈ handed later) :
      (g.drive d >>= fun o => pure (d.id, o)).Meets (leaving heedful)
        (fun x later => ∀ y, x = .ok y → ∀ v, ¬ Misfit later v) later := by
    refine (g.drive_leaving hd (absurd · hheedful) (hfit hs _)).bind (fun o last h' => ?_)
      fun _ _ _ => by simp
    intro _ _ v hm
    rcases h'.fits v hm with hm | ⟨-, cause, ho⟩
    · exact hfit hs v hm
    · cases ho
  have hwrite : (write (r.clearResource t)).Meets (leaving heedful) _ _ := write_leaving (hfit hnow _)
  simp only
  cases hplan : Action.delete.plan (r.clearResource t).status with
  | error e =>
    exact (park_leaving _ (hfit hnow _)).bind (fun _ _ h' _ _ => hfit (hnow.trans h'))
      fun _ _ _ => by simp
  | ok plan =>
    cases plan with
    | alreadyDone =>
      exact hwrite.bind (fun _ _ h' _ _ => hfit (hnow.trans h'.smooth)) fun _ _ _ => by simp
    | drive steps =>
      cases steps with
      | nil =>
        exact hwrite.bind (fun d _ h' => hdrive d (hnow.trans h'.smooth) (h'.copy d rfl).1)
          fun _ _ _ => by simp
      | cons s steps =>
        exact (through_leaving (hfit hnow _) (by simp)).bind
          (fun d _ h' => hdrive d (hnow.trans h'.smooth) (h'.copy d rfl).1) fun _ _ _ => by simp

theorem forEach_releaseRecord_leaving {rs : List Record} (hheedful : ¬ heedful)
    (h : ∀ v, ¬ Misfit past v) :
    (forEach g.releaseRecord rs).Meets (leaving heedful) (fun _ _ => True) past := by
  induction rs generalizing past with
  | nil => trivial
  | cons r rs ih =>
    exact (g.releaseRecord_leaving hheedful h).bind
      (fun _ _ h' => (ih (h' _ rfl)).bind (fun _ _ _ => trivial) fun _ _ _ => trivial)
      fun _ _ _ => trivial

theorem release_leaving (resource : ResourceId) (hheedful : ¬ heedful) (h : ∀ v, ¬ Misfit past v) :
    (g.release resource).Meets (leaving heedful) (fun _ _ => True) past := by
  refine meets_leaving trivial fun x _ => ?_
  cases x with
  | error e => trivial
  | ok rs => exact g.forEach_releaseRecord_leaving hheedful fun v hm => h v (misfit_append (by simp) hm)

/-- The records that are left to do keep their values: the drive of one says nothing of the others. -/
theorem forEach_leaving {todo : List Record} (hvalues : (todo.map (·.value)).Nodup)
    (htodo : ∀ r ∈ todo, r ∈ handed past ∧ r.attention = none ∧ ¬ Misfit past r.value) :
    (forEach (fun r => (g.drive r).attempt) todo :
      Operation (List (Except RegistrarError Outcome))).Meets (leaving heedful)
        (fun _ _ => True) past := by
  induction todo generalizing past with
  | nil => trivial
  | cons r todo ih =>
    obtain ⟨hr, hmark, hfit⟩ := htodo r (by simp)
    rw [List.map_cons, List.nodup_cons] at hvalues
    refine (g.drive_leaving hr (fun _ => hmark) hfit).attempt_bind fun x later h => ?_
    refine (ih hvalues.2 fun s hs => ?_).bind (fun _ _ _ => trivial) fun _ _ _ => trivial
    obtain ⟨hs', hmark', hfit'⟩ := htodo s (by simp [hs])
    refine ⟨mem_handed_later h.grows hs', hmark', fun hm => ?_⟩
    rcases h.fits _ hm with hm | ⟨hv, -⟩
    · exact hfit' hm
    · exact hvalues.1 (hv ▸ List.mem_map_of_mem hs)

theorem sweep_leaving (h : ∀ v, ¬ Misfit past v) :
    g.sweep.Meets (leaving heedful) (fun _ _ => True) past := by
  refine meets_leaving trivial fun x hx => ?_
  cases x with
  | error e => trivial
  | ok rs =>
    have hlisting : Listing rs := hx (by decide)
    refine (g.forEach_leaving hlisting.values fun r hr => ?_).bind (fun _ _ _ => trivial)
      fun _ _ _ => trivial
    exact ⟨mem_handed_last (q := .store (.listRetryable Status.intents)) (x := .ok rs) hr,
      hlisting.unmarked r hr, fun hm => h _ (misfit_append (by simp) hm)⟩

theorem hold_leaving (id : RecordId) (h : ∀ v, ¬ Misfit past v) :
    (hold id).Meets (leaving heedful) (fun _ _ => True) past :=
  (load_leaving id).bind (fun _ _ hr => (commit_leaving _ fun hm => h _ (hr.1.fits _ hm)).mono
    fun _ _ _ => trivial) fun _ _ _ => trivial

theorem mintNew_leaving (resource : Resource) (scheme : Scheme) (wanted : ResourceId) :
    (g.mintNew resource scheme wanted).Meets (leaving heedful) (fun _ _ => True) past := by
  unfold mintNew requireConnector
  split
  · refine meets_leaving trivial fun id _ => meets_leaving trivial fun x _ => ?_
    cases x with
    | error e => trivial
    | ok value =>
      refine meets_leaving trivial fun t _ => meets_leaving trivial fun x _ => ?_
      rcases x with e | ⟨⟩
      · cases e with
        | liveRecordExists _ _ =>
          refine meets_leaving trivial fun x _ => ?_
          rcases x with e | (_ | winner) <;> trivial
        | _ => trivial
      · trivial
  · trivial

theorem mint_leaving (resource : ResourceId) (scheme : Scheme) :
    (g.mint resource scheme).Meets (leaving heedful) (fun _ _ => True) past := by
  refine meets_leaving trivial fun x _ => ?_
  rcases x with e | (_ | r)
  · trivial
  · refine meets_leaving trivial fun x _ => ?_
    rcases x with e | (_ | found)
    · trivial
    · trivial
    · exact g.mintNew_leaving found scheme resource
  · trivial

theorem question_leaving {scheme : Scheme} {call : Agency.Call} (h : ∀ c, call ≠ .change c) :
    (question scheme call).Meets (leaving heedful) (fun _ _ => True) past := by
  refine meets_leaving ?_ fun x _ => ?_
  · cases call with
    | change c => exact absurd rfl (h c)
    | _ => trivial
  · cases x <;> trivial

theorem reconcile_leaving (id : RecordId) :
    (g.reconcile id).Meets (leaving heedful) (fun _ _ => True) past := by
  refine (load_leaving id).bind (fun r _ _ => ?_) fun _ _ _ => trivial
  unfold requireConnector
  split
  · exact (question_leaving (by simp)).bind (fun _ _ _ => (question_leaving (by simp)).bind
      (fun _ _ _ => trivial) fun _ _ _ => trivial) fun _ _ _ => trivial
  · trivial

theorem identifiersFor_leaving (resource : ResourceId) :
    (identifiersFor resource).Meets (leaving heedful) (fun _ _ => True) past :=
  meets_leaving trivial fun x _ => by cases x <;> trivial

theorem resolve_leaving (text : String) :
    (resolve text).Meets (leaving heedful) (fun _ _ => True) past := by
  unfold resolve
  split
  · trivial
  · refine meets_leaving trivial fun x _ => ?_
    rcases x with e | (_ | r) <;> trivial

end Registrar

def Errand.Heedful (e : Errand) : Prop := ∀ resource, e ≠ .release resource

/-- Every operation leaves alone what was found malformed. -/
theorem Errand.operation_leaving (g : Registrar) (e : Errand) :
    (e.operation g).Meets (leaving e.Heedful) (fun _ _ => True) [] := by
  have hreport {α : Type} {p : Operation α} (f : α → Report)
      (h : p.Meets (leaving e.Heedful) (fun _ _ => True) []) :
      (p >>= fun a => pure (f a)).Meets (leaving e.Heedful) (fun _ _ => True) [] :=
    h.bind (fun _ _ _ => trivial) fun _ _ _ => trivial
  have hnone (v : IdentifierValue) : ¬ Misfit [] v := by simp [Misfit]
  cases e with
  | mint resource scheme => exact hreport .record (g.mint_leaving resource scheme)
  | hold id => exact hreport .record (Registrar.hold_leaving id hnone)
  | execute id action => exact hreport .outcome (g.execute_leaving id action hnone)
  | release resource => exact hreport .outcomes (g.release_leaving resource (fun h => h _ rfl) hnone)
  | sweep => exact hreport .stats (g.sweep_leaving hnone)
  | reconcile id => exact hreport .remote (g.reconcile_leaving id)
  | identifiersFor resource => exact hreport .summaries (Registrar.identifiersFor_leaving resource)
  | resolve text => exact hreport .resolution (Registrar.resolve_leaving text)

end IdentifierRegistrar
