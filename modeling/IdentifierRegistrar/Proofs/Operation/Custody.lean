import IdentifierRegistrar.Proofs.Operation.Driving
import IdentifierRegistrar.Proofs.Operation.Errand
import IdentifierRegistrar.Proofs.Operation.Exchange
import IdentifierRegistrar.Proofs.Store.Revision

/-! What every operation keeps to, whoever else uses the store and whatever it is answered: it
writes only revisions of records that the store handed to it, it asks an agency only for what the
intent of such a record asks, and it brings a record to rest only after the agency has agreed. It does
to a record only what its errand is licensed for: no errand but a request clears a marker, none but
a release a binding, and none but these two sets out to delete. Main results: the operation of every
errand is supervised (`operation_supervised`) and so in custody (`operation_meets`). -/

namespace IdentifierRegistrar

def Status.confirmedOnes : List Status := [isReserved, isRegistered, deleted]

/-- What an operation may do to a record besides bringing it along its intent. -/
structure Licence where
  unmarks : Prop
  unbinds : Prop
  deletes : Prop

def Errand.licence : Errand → Licence
  | execute _ action => ⟨True, False, action = .delete⟩
  | release _ => ⟨False, True, True⟩
  | _ => ⟨False, False, False⟩

namespace Licence

variable {L : Licence} {c r : Record}

structure Permits (L : Licence) (c d : Record) : Prop where
  marker : c.attention.isSome → d.attention.isSome ∨ L.unmarks
  binding : d.resource = c.resource ∨ L.unbinds
  deletion : d.status = .toBeDeleted → c.status = .toBeDeleted ∨ L.deletes

/-- A revision that is not written yet, and does no more than the licence allows. -/
structure Drafts (L : Licence) (c r : Record) : Prop where
  draft : c.Draft r
  permits : L.Permits c r

theorem Drafts.refl (L : Licence) (r : Record) : L.Drafts r r :=
  ⟨.refl r, .inl, .inl rfl, .inl⟩

theorem Drafts.clearAttention (h : L.Drafts c r) (hL : L.unmarks) (t : Instant) :
    L.Drafts c (r.clearAttention t) := by
  refine ⟨h.draft.clearAttention t, ?_⟩
  unfold Record.clearAttention
  split
  · exact ⟨fun _ => .inr hL, h.permits.binding, h.permits.deletion⟩
  · exact h.permits

theorem Drafts.clearResource (h : L.Drafts c r) (hL : L.unbinds) (t : Instant) :
    L.Drafts c (r.clearResource t) := by
  refine ⟨h.draft.clearResource t, ?_⟩
  unfold Record.clearResource
  split
  · exact ⟨h.permits.marker, .inr hL, h.permits.deletion⟩
  · exact h.permits

theorem Drafts.flag (h : L.Drafts c r) (message : String) (t : Instant) :
    L.Permits c (r.flag message t) :=
  ⟨fun _ => .inl rfl, h.permits.binding, h.permits.deletion⟩

theorem Drafts.moveTo {target : Status} (h : L.Drafts c r) (hL : target = .toBeDeleted → L.deletes)
    (t : Instant) : L.Permits c (r.moveTo target t) :=
  ⟨h.permits.marker, h.permits.binding, fun ht => .inr (hL ht)⟩

end Licence

namespace Service

/-- The agency has agreed to what `r` asks for, after `r` was handed over. -/
def Granted (past : List Exchange) (r : Record) : Prop :=
  ∃ pre c post, past = pre ++ ⟨.agency r.scheme (.change c), .ok ()⟩ :: post ∧ r ∈ handed pre ∧
    c.Suits r

theorem Granted.append {past : List Exchange} {r : Record} (h : Granted past r)
    (more : List Exchange) : Granted (past ++ more) r := by
  obtain ⟨pre, c, post, rfl, hr, hc⟩ := h
  exact ⟨pre, c, post ++ more, by simp, hr, hc⟩

/-- What an operation may request after what it was answered so far. -/
def Lawful (past : List Exchange) : Request → Prop
  | .store (.insert r) => r.Fresh
  | .store (.update d) => ∃ c ∈ handed past, c.Revision d ∧
      (d.status ≠ c.status → d.status ∈ Status.confirmedOnes → Granted past c)
  | .agency scheme (.change c) => ∃ r ∈ handed past, r.scheme = scheme ∧ c.Suits r
  | _ => True

def custody : Setting interface (List Exchange) where
  allows := Lawful
  moves past q r past' := past' = past ++ [⟨q, r⟩]

def Licensed (L : Licence) (past : List Exchange) : Request → Prop
  | .store (.update d) => ∃ c ∈ handed past, c.Revision d ∧ L.Permits c d ∧
      (d.status ≠ c.status → d.status ∈ Status.confirmedOnes → Granted past c)
  | q => Lawful past q

theorem Licensed.lawful {L : Licence} {past : List Exchange} {q : Request} (h : Licensed L past q) :
    Lawful past q := by
  cases q with
  | store call =>
    cases call with
    | update d =>
      obtain ⟨c, hc, hd, -, hg⟩ := h
      exact ⟨c, hc, hd, hg⟩
    | _ => exact h
  | _ => exact h

def supervised (L : Licence) : Setting interface (List Exchange) where
  allows := Licensed L
  moves past q r past' := past' = past ++ [⟨q, r⟩]

end Service

open Service Operation

namespace Operation

variable {α β : Type} {past : List Exchange} {Q : Except RegistrarError β → List Exchange → Prop}
  {L : Licence}

theorem meets_request {q : Service.Request} {f : Service.Reply q → Operation β} :
    (request q >>= f).Meets (supervised L) Q past ↔
      Licensed L past q ∧ ∀ r, (f r).Meets (supervised L) Q (past ++ [⟨q, r⟩]) := by
  constructor
  · rintro ⟨hq, h⟩
    exact ⟨hq, fun r => h r _ rfl⟩
  · rintro ⟨hq, h⟩
    refine ⟨hq, ?_⟩
    rintro r _ rfl
    exact h r

theorem meets_store {call : Store.Call} {f : call.Result → Operation β} :
    (store call >>= f).Meets (supervised L) Q past ↔ Licensed L past (.store call) ∧
      (∀ r, (f r).Meets (supervised L) Q (past ++ [⟨.store call, .ok r⟩])) ∧
      ∀ e, Q (.error (.store e)) (past ++ [⟨.store call, .error e⟩]) := by
  constructor
  · rintro ⟨hq, h⟩
    exact ⟨hq, fun r => h (.ok r) _ rfl, fun e => h (.error e) _ rfl⟩
  · rintro ⟨hq, hok, herror⟩
    refine ⟨hq, ?_⟩
    rintro r _ rfl
    cases r with
    | ok r => exact hok r
    | error e => exact herror e

def Hands (before : List Exchange) (x : Except RegistrarError Record) (past : List Exchange) :
    Prop :=
  before <+: past ∧ ∀ r, x = .ok r → r ∈ handed past

def Goes (before : List Exchange) (_ : Except RegistrarError α) (past : List Exchange) : Prop :=
  before <+: past

theorem Goes.trans {x : Except RegistrarError α} {a b c : List Exchange} (hab : a <+: b)
    (h : Goes b x c) : Goes a x c := List.IsPrefix.trans hab h

end Operation

namespace Registrar

variable (g : Registrar) {past : List Exchange} {L : Licence}

theorem load_meets (id : RecordId) : (load id).Meets (supervised L) (Hands past) past := by
  refine meets_store.2 ⟨trivial, ?_, fun e => ⟨List.prefix_append _ _, by simp⟩⟩
  intro r
  cases r with
  | none => exact ⟨List.prefix_append _ _, by simp⟩
  | some r =>
    refine ⟨List.prefix_append _ _, fun r' h => ?_⟩
    obtain rfl := Except.ok.inj h
    exact mem_handed_last (List.mem_singleton.2 rfl)

theorem write_meets {c d : Record} (hc : c ∈ handed past) (hd : c.Revision d) (hL : L.Permits c d)
    (hg : d.status ≠ c.status → d.status ∈ Status.confirmedOnes → Granted past c) :
    (write d).Meets (supervised L) (Hands past) past := by
  refine ⟨⟨c, hc, hd, hL, hg⟩, ?_⟩
  rintro r _ rfl
  cases r with
  | ok r =>
    refine ⟨List.prefix_append _ _, fun r' h => ?_⟩
    obtain rfl := Except.ok.inj h
    exact mem_handed_last (List.mem_singleton.2 rfl)
  | error e => exact ⟨List.prefix_append _ _, by simp⟩

theorem commit_meets {c r : Record} {target : Status} (hc : c ∈ handed past) (hr : L.Drafts c r)
    (hdel : target = .toBeDeleted → L.deletes) (hg : target ∈ Status.confirmedOnes → Granted past c) :
    (commit r target).Meets (supervised L) (Hands past) past := by
  refine meets_request.2 ⟨trivial, fun t => ?_⟩
  have hpast : past <+: past ++ [⟨.now, t⟩] := List.prefix_append _ _
  have hc := mem_handed_later hpast hc
  cases hd : r.transition target t with
  | error e => exact ⟨hpast, by simp⟩
  | ok d =>
    have hrevision := hr.draft.transition hd
    obtain ⟨-, rfl⟩ := Record.transition_eq_ok_iff.1 hd
    exact (write_meets hc hrevision (hr.moveTo hdel t) fun _ hrest => (hg hrest).append _).mono
      fun x later h => ⟨hpast.trans h.1, h.2⟩

theorem park_meets {c r : Record} (message : String) (hc : c ∈ handed past) (hr : L.Drafts c r) :
    (park r message).Meets (supervised L) (Goes past) past := by
  refine meets_request.2 ⟨trivial, fun t => ?_⟩
  have hpast : past <+: past ++ [⟨.now, t⟩] := List.prefix_append _ _
  have hwrite := write_meets (mem_handed_later hpast hc) (hr.draft.flag message t)
    (hr.flag message t) fun hne => absurd hr.draft.status hne
  exact hwrite.bind (fun _ _ h => hpast.trans h.1) fun _ _ h => hpast.trans h.1

theorem settle_meets {r : Record} {confirmed : Status} {x : Except AgencyError Unit}
    (hr : r ∈ handed past) (hconfirmed : r.status.confirmed? = some confirmed) (hg : x = .ok () → Granted past r) :
    (settle r confirmed x).Meets (supervised L) (Goes past) past := by
  rcases x with e | ⟨⟩
  · cases e with
    | unreachable reason => exact List.prefix_refl _
    | rejected status message => exact park_meets _ hr (.refl L r)
    | malformedValue cause => exact List.prefix_refl _
  · have hrest : confirmed ≠ .toBeDeleted := by
      cases hs : r.status <;> rw [hs] at hconfirmed <;> cases hconfirmed <;> decide
    exact (commit_meets hr (.refl L r) (fun h => absurd h hrest) fun _ => hg rfl).bind (fun _ _ h => h.1)
      fun _ _ h => h.1

/-- The call that a record's intent asks for, and what its answer makes of the record. -/
theorem call_meets {r : Record} {c : Agency.Change} {confirmed : Status} (hr : r ∈ handed past)
    (hconfirmed : r.status.confirmed? = some confirmed) (hc : c.Suits r) :
    (agency r.scheme (.change c) >>= settle r confirmed).Meets (supervised L) (Goes past) past := by
  refine meets_request.2 ⟨⟨r, hr, rfl, hc⟩, fun x => ?_⟩
  have hpast : past <+: past ++ [⟨.agency r.scheme (.change c), x⟩] := List.prefix_append _ _
  refine (settle_meets (mem_handed_later hpast hr) hconfirmed ?_).mono fun _ _ h => Goes.trans hpast h
  rintro rfl
  exact ⟨past, c, [], rfl, hr, hc⟩

theorem resume_meets {r : Record} (hr : r ∈ handed past) :
    (g.resume r).Meets (supervised L) (Goes past) past := by
  have hpast {resource : ResourceId} {x : Service.Reply (.lookup resource)} {later : List Exchange}
      (h : (supervised L).moves past (.lookup resource) x later) : past <+: later := by
    rw [show later = past ++ [⟨.lookup resource, x⟩] from h]
    exact List.prefix_append _ _
  refine resume_meets_of (P := fun later => past <+: later) (fun _ => List.prefix_refl _)
    ?_ ?_ ?_ ?_ ?_ ?_ ?_ ?_
  · exact fun _ => List.prefix_refl _
  · exact fun _ _ => List.prefix_refl _
  · exact fun _ _ => park_meets _ hr (.refl L r)
  · exact fun _ _ _ => trivial
  · exact fun _ _ _ _ _ _ h => hpast h
  · exact fun _ _ _ _ _ h => (park_meets _ (mem_handed_later (hpast h) hr) (.refl L r)).mono
      fun _ _ h' => Goes.trans (hpast h) h'
  · exact fun _ _ _ _ _ h => hpast h
  · exact fun _ _ _ h hconfirmed hc => (call_meets (mem_handed_later h hr) hconfirmed hc).mono
      fun _ _ h' => Goes.trans h h'

theorem drive_meets {r : Record} (hr : r ∈ handed past) :
    (g.drive r).Meets (supervised L) (Goes past) past := by
  refine drive_meets_of (fun _ _ => park_meets _ hr (.refl L r)) (fun _ => ?_)
    fun _ => g.resume_meets hr
  refine (commit_meets hr (.refl L r) (by simp) fun h => absurd h (by decide)).bind (fun d later h => ?_)
    fun _ _ h => h.1
  exact (g.resume_meets (h.2 d rfl)).mono fun _ _ h' => Goes.trans h.1 h'

/-- No plan commits a status of rest by itself, and only a deletion's sets out to delete. -/
theorem plan_steps {a : Action} {s : Status} {steps : List Status}
    (h : a.plan s = .ok (.drive steps)) :
    ∀ t ∈ steps, (t = .toBeDeleted → a = .delete) ∧ t ∉ Status.confirmedOnes := by
  cases a <;> cases s <;> cases h <;> decide

theorem through_meets {c r : Record} {steps : List Status} (hc : c ∈ handed past)
    (hr : L.Drafts c r) (hnone : steps = [] → r ∈ handed past)
    (hsteps : ∀ t ∈ steps, (t = .toBeDeleted → L.deletes) ∧ t ∉ Status.confirmedOnes) :
    (through commit r steps).Meets (supervised L) (Hands past) past := by
  induction steps generalizing past c r with
  | nil =>
    refine ⟨List.prefix_refl _, fun r' h => ?_⟩
    obtain rfl := Except.ok.inj h
    exact hnone rfl
  | cons t steps ih =>
    obtain ⟨hdel, hrest⟩ := hsteps t (by simp)
    refine (commit_meets hc hr hdel fun h => absurd h hrest).bind (fun d later h => ?_)
      fun _ _ h => ⟨h.1, by simp⟩
    have hd := h.2 d rfl
    exact (ih hd (.refl L d) (fun _ => hd) fun t ht => hsteps t (by simp [ht])).mono
      fun _ _ h' => ⟨h.1.trans h'.1, h'.2⟩

theorem unmark_meets {r : Record} (steps : List Status) (hr : r ∈ handed past) (hL : L.unmarks) :
    (unmark r steps).Meets (supervised L) (fun x later => past <+: later ∧ ∀ d, x = .ok d →
      (∃ c ∈ handed later, L.Drafts c d) ∧ (steps = [] → d ∈ handed later)) past := by
  unfold unmark
  split
  · refine ⟨List.prefix_refl _, fun d h => ?_⟩
    obtain rfl := Except.ok.inj h
    exact ⟨⟨r, hr, .refl L r⟩, fun _ => hr⟩
  · refine meets_request.2 ⟨trivial, fun t => ?_⟩
    have hpast : past <+: past ++ [⟨.now, t⟩] := List.prefix_append _ _
    have hr' := mem_handed_later hpast hr
    have hd := (Licence.Drafts.refl L r).clearAttention hL t
    split
    · refine (write_meets hr' hd.draft.revision hd.permits fun hne =>
        absurd hd.draft.status hne).mono fun x later h => ?_
      exact ⟨hpast.trans h.1, fun d hx => ⟨⟨d, h.2 d hx, .refl L d⟩, fun _ => h.2 d hx⟩⟩
    · rename_i hne
      refine ⟨hpast, fun d h => ?_⟩
      obtain rfl := Except.ok.inj h
      exact ⟨⟨r, hr', hd⟩, fun h => absurd (by simp [h]) hne⟩

theorem execute_meets (id : RecordId) (action : Action) (hL : L.unmarks)
    (hdel : action = .delete → L.deletes) :
    (g.execute id action).Meets (supervised L) (Goes past) past := by
  refine (load_meets id).bind (fun r later h => ?_) fun _ _ h => h.1
  cases hplan : action.plan r.status with
  | error e => exact h.1
  | ok plan =>
    cases plan with
    | alreadyDone => exact h.1
    | drive steps =>
      refine (unmark_meets steps (h.2 r rfl) hL).bind (fun d later' h' => ?_)
        fun _ _ h' => h.1.trans h'.1
      obtain ⟨⟨c, hc, hd⟩, hnone⟩ := h'.2 d rfl
      have hpast := h.1.trans h'.1
      refine (through_meets hc hd hnone fun t ht => (plan_steps hplan t ht).imp_left
        (hdel ∘ ·)).bind (fun e last hlast => ?_) fun _ _ hlast => hpast.trans hlast.1
      exact (g.drive_meets (hlast.2 e rfl)).mono fun _ _ hdone =>
        Goes.trans (hpast.trans hlast.1) hdone

theorem releaseRecord_meets {r : Record} (hr : r ∈ handed past) (hL : L.unbinds)
    (hdel : L.deletes) :
    (g.releaseRecord r).Meets (supervised L) (Goes past) past := by
  refine meets_request.2 ⟨trivial, fun t => ?_⟩
  have hpast : past <+: past ++ [⟨.now, t⟩] := List.prefix_append _ _
  have hr' := mem_handed_later hpast hr
  have hd := (Licence.Drafts.refl L r).clearResource hL t
  -- The record is handed back by its first write, and then driven.
  have hwrite := write_meets hr' hd.draft.revision hd.permits fun hne => absurd hd.draft.status hne
  have hdrive : ∀ (d : Record) {later : List Exchange}, Hands (past ++ [⟨.now, t⟩]) (.ok d) later →
      (g.drive d >>= fun o => pure (d.id, o)).Meets (supervised L) (Goes past) later := fun d later h =>
    (g.drive_meets (h.2 d rfl)).bind (fun _ _ h' => hpast.trans (h.1.trans h'))
      fun _ _ h' => hpast.trans (h.1.trans h')
  cases hplan : Action.delete.plan (r.clearResource t).status with
  | error e =>
    simp only [hplan]
    exact (park_meets _ hr' hd).bind (fun _ _ h => hpast.trans h) fun _ _ h => hpast.trans h
  | ok plan =>
    cases plan with
    | alreadyDone =>
      simp only [hplan]
      exact hwrite.bind (fun _ _ h => hpast.trans h.1) fun _ _ h => hpast.trans h.1
    | drive steps =>
      cases steps with
      | nil =>
        simp only [hplan]
        exact hwrite.bind (fun d _ h => hdrive d h) fun _ _ h => hpast.trans h.1
      | cons s steps =>
        simp only [hplan]
        exact (through_meets hr' hd (by simp) fun t ht => (plan_steps hplan t ht).imp_left
          fun _ _ => hdel).bind (fun d _ h => hdrive d h)
          fun _ _ h => hpast.trans h.1

theorem forEach_meets {α β : Type} {f : α → Operation β} {as : List α}
    (h : ∀ a ∈ as, ∀ later, past <+: later → (f a).Meets (supervised L) (Goes later) later) :
    (forEach f as).Meets (supervised L) (Goes past) past := by
  induction as generalizing past with
  | nil => exact List.prefix_refl _
  | cons a as ih =>
    refine (h a (by simp) past (List.prefix_refl _)).bind (fun b later hb => ?_) fun _ _ h => h
    refine (ih fun a ha last hlast => h a (by simp [ha]) last (List.IsPrefix.trans hb hlast)).bind
      (fun _ _ h => List.IsPrefix.trans hb h) fun _ _ h => List.IsPrefix.trans hb h

theorem release_meets (resource : ResourceId) (hL : L.unbinds) (hdel : L.deletes) :
    (g.release resource).Meets (supervised L) (Goes past) past := by
  refine meets_store.2 ⟨trivial, fun rs => ?_, fun e => List.prefix_append _ _⟩
  have hpast := List.prefix_append past [⟨.store (.listByResource resource), .ok rs⟩]
  refine (forEach_meets fun r hr later hlater => ?_).mono fun _ _ h => Goes.trans hpast h
  exact g.releaseRecord_meets (mem_handed_later hlater (mem_handed_last hr)) hL hdel

theorem sweep_meets : g.sweep.Meets (supervised L) (Goes past) past := by
  refine meets_store.2 ⟨trivial, fun rs => ?_, fun e => List.prefix_append _ _⟩
  have hpast := List.prefix_append past [⟨.store (.listRetryable Status.intents), .ok rs⟩]
  refine (forEach_meets fun r hr later hlater => Program.meets_attempt.2 ?_).bind
    (fun _ _ h => List.IsPrefix.trans hpast h) fun _ _ h => List.IsPrefix.trans hpast h
  exact g.drive_meets (mem_handed_later hlater (mem_handed_last hr))

theorem mintNew_meets (resource : Resource) (scheme : Scheme) (wanted : ResourceId) :
    (g.mintNew resource scheme wanted).Meets (supervised L) (Goes past) past := by
  unfold mintNew requireConnector
  split
  · simp only [Program.pure_eq, Program.done_bind]
    refine meets_request.2 ⟨trivial, fun id => meets_request.2 ⟨trivial, fun x => ?_⟩⟩
    cases x with
    | error e => exact ⟨_, (List.append_assoc _ _ _).symm⟩
    | ok value =>
      refine meets_request.2 ⟨trivial, fun t => meets_request.2 ⟨⟨rfl, rfl, rfl, rfl⟩, fun x => ?_⟩⟩
      have hpast : ∀ more, past <+: past ++ [⟨.freshId, id⟩] ++
          [⟨.agency scheme (.mint id), .ok value⟩] ++ [⟨.now, t⟩] ++ more := by
        intro more
        simp only [List.append_assoc]
        exact List.prefix_append _ _
      rcases x with e | ⟨⟩
      · cases e with
        | liveRecordExists _ _ =>
          refine meets_store.2 ⟨trivial, fun x => ?_, fun e => ?_⟩
          · cases x <;> exact (hpast _).trans (List.prefix_append _ _)
          · exact (hpast _).trans (List.prefix_append _ _)
        | _ => exact hpast _
      · exact hpast _
  · exact List.prefix_refl _

theorem mint_meets (resource : ResourceId) (scheme : Scheme) :
    (g.mint resource scheme).Meets (supervised L) (Goes past) past := by
  refine meets_store.2 ⟨trivial, fun x => ?_, fun e => List.prefix_append _ _⟩
  cases x with
  | some r => exact List.prefix_append _ _
  | none =>
    refine meets_request.2 ⟨trivial, fun x => ?_⟩
    have hpast : ∀ more, past <+: past ++ [⟨.store (.findLive resource scheme), .ok none⟩] ++ more :=
      fun more => ⟨_, (List.append_assoc _ _ _).symm⟩
    rcases x with e | (_ | found)
    · exact hpast _
    · exact hpast _
    · exact (g.mintNew_meets found scheme resource).mono fun _ _ h => Goes.trans (hpast _) h

theorem question_meets {scheme : Scheme} {call : Agency.Call} (h : ∀ c, call ≠ .change c) :
    (question scheme call).Meets (supervised L) (Goes past) past := by
  refine meets_request.2 ⟨?_, fun x => ?_⟩
  · cases call with
    | change c => exact absurd rfl (h c)
    | _ => trivial
  · cases x <;> exact List.prefix_append _ _

theorem reconcile_meets (id : RecordId) : (g.reconcile id).Meets (supervised L) (Goes past) past := by
  refine (load_meets id).bind (fun r later h => ?_) fun _ _ h => h.1
  unfold requireConnector
  split
  · simp only [Program.pure_eq, Program.done_bind]
    refine (question_meets (by simp)).bind (fun reserved later' h' => ?_) fun _ _ h' => h.1.trans h'
    exact (question_meets (by simp)).bind (fun _ _ h'' => h.1.trans (List.IsPrefix.trans h' h''))
      fun _ _ h'' => h.1.trans (List.IsPrefix.trans h' h'')
  · exact h.1

theorem hold_meets (id : RecordId) : (hold id).Meets (supervised L) (Goes past) past := by
  refine (load_meets id).bind (fun r later h => ?_) fun _ _ h => h.1
  exact (commit_meets (h.2 r rfl) (.refl L r) (by simp) fun h => absurd h (by decide)).mono
    fun _ _ h' => h.1.trans h'.1

theorem identifiersFor_meets (resource : ResourceId) :
    (identifiersFor resource).Meets (supervised L) (Goes past) past :=
  meets_store.2 ⟨trivial, fun _ => List.prefix_append _ _, fun _ => List.prefix_append _ _⟩

theorem resolve_meets (text : String) : (resolve text).Meets (supervised L) (Goes past) past := by
  unfold resolve
  split
  · exact List.prefix_refl _
  · refine meets_store.2 ⟨trivial, fun x => ?_, fun _ => List.prefix_append _ _⟩
    cases x <;> exact List.prefix_append _ _

end Registrar

theorem Errand.operation_supervised (g : Registrar) (e : Errand) {past : List Exchange} :
    (e.operation g).Meets (supervised e.licence) (Goes past) past := by
  have hreport : ∀ {α : Type} {p : Operation α} (f : α → Report) {L : Licence},
      p.Meets (supervised L) (Goes past) past →
        (p >>= fun a => pure (f a)).Meets (supervised L) (Goes past) past :=
    fun f _ h => h.bind (fun _ _ h => h) fun _ _ h => h
  cases e with
  | mint resource scheme => exact hreport .record (g.mint_meets resource scheme)
  | hold id => exact hreport .record (Registrar.hold_meets id)
  | execute id action => exact hreport .outcome (g.execute_meets id action trivial fun h => h)
  | release resource => exact hreport .outcomes (g.release_meets resource trivial trivial)
  | sweep => exact hreport .stats g.sweep_meets
  | reconcile id => exact hreport .remote (g.reconcile_meets id)
  | identifiersFor resource => exact hreport .summaries (Registrar.identifiersFor_meets resource)
  | resolve text => exact hreport .resolution (Registrar.resolve_meets text)

theorem Errand.operation_meets (g : Registrar) (e : Errand) {past : List Exchange} :
    (e.operation g).Meets custody (Goes past) past :=
  Program.Meets.allow (S := supervised e.licence) (fun _ _ => Licensed.lawful) rfl
    (e.operation_supervised g)

end IdentifierRegistrar
