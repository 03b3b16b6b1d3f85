import IdentifierRegistrar.Proofs.Operation.Custody

/-! What a sweep asks of the agencies, whoever else uses the store. It lists the records first and
takes them one by one as they were listed: for each it asks only for what the listed record asks,
and before it has written to that record itself (`sweep_turns`). It does not look again at
what the store has for a record when its turn comes. -/

namespace IdentifierRegistrar

namespace Service

/-- A reply that a store gives: no record is listed twice, and what was written comes back with its
next version. -/
def Plausible : (q : Request) → Reply q → Prop
  | .store (.listRetryable statuses), .ok rs => statuses.Nodup → (rs.map (·.id)).Nodup
  | .store (.update d), .ok d' => d' = d.next
  | _, _ => True

def Untouched (past : List Exchange) (id : RecordId) : Prop :=
  ∀ d d', (⟨.store (.update d), .ok d'⟩ : Exchange) ∈ past → d.id ≠ id

theorem Untouched.append {past more : List Exchange} {id : RecordId} (h : Untouched past id)
    (h' : Untouched more id) : Untouched (past ++ more) id := by
  intro d d' hd
  rcases List.mem_append.1 hd with hd | hd
  · exact h d d' hd
  · exact h' d d' hd

theorem untouched_singleton {q : Request} {x : Reply q} {id : RecordId}
    (h : ∀ d, q ≠ .store (.update d)) : Untouched [⟨q, x⟩] id := by
  intro d d' hd
  obtain rfl := congrArg Sigma.fst (List.mem_singleton.1 hd)
  exact absurd rfl (h d)

def Lists (past : List Exchange) (rs : List Record) : Prop :=
  past.head? = some ⟨.store (.listRetryable Status.intents), .ok rs⟩

theorem Lists.append {past : List Exchange} {rs : List Record} (h : Lists past rs)
    (more : List Exchange) : Lists (past ++ more) rs := by
  rw [Lists, List.head?_append, h]
  rfl

/-- It is the turn of `r`: a record as it was listed, which the sweep has not written to since. (An
update before registration is turned into a registration first.) -/
def InTurn (past : List Exchange) (r : Record) : Prop :=
  ∃ rs, Lists past rs ∧ ∃ listed ∈ rs, listed.id = r.id ∧
    (listed.status ≠ .updateBeforeRegistration → listed = r ∧ Untouched past r.id)

theorem InTurn.append {past more : List Exchange} {r : Record} (h : InTurn past r)
    (hmore : Untouched more r.id) : InTurn (past ++ more) r := by
  obtain ⟨rs, hrs, listed, hmem, hid, hsame⟩ := h
  exact ⟨rs, hrs.append more, listed, hmem, hid, fun hne =>
    ⟨(hsame hne).1, (hsame hne).2.append hmore⟩⟩

def turns : Setting interface (List Exchange) where
  allows past
    | .agency scheme (.change c) => ∃ r, InTurn past r ∧ r.scheme = scheme ∧ c.Suits r
    | _ => True
  moves past q x past' := past' = past ++ [⟨q, x⟩] ∧ Plausible q x

end Service

open Service Operation

namespace Operation

variable {α β : Type} {past a b c : List Exchange} {id : RecordId}

theorem meets_turns {q : Service.Request} {f : Service.Reply q → Operation β}
    {Q : Except RegistrarError β → List Exchange → Prop} (hq : turns.allows past q)
    (h : ∀ x, Plausible q x → (f x).Meets turns Q (past ++ [⟨q, x⟩])) :
    (request q >>= f).Meets turns Q past := by
  refine ⟨hq, ?_⟩
  rintro x _ ⟨rfl, hx⟩
  exact h x hx

def Leaves (id : RecordId) (before later : List Exchange) : Prop :=
  ∃ more, later = before ++ more ∧ ∀ k ≠ id, Untouched more k

theorem Leaves.refl (id : RecordId) (past : List Exchange) : Leaves id past past :=
  ⟨[], (List.append_nil _).symm, fun _ _ _ _ h => by cases h⟩

theorem Leaves.trans (h : Leaves id a b) (h' : Leaves id b c) : Leaves id a c := by
  obtain ⟨m, rfl, hm⟩ := h
  obtain ⟨n, rfl, hn⟩ := h'
  exact ⟨m ++ n, List.append_assoc _ _ _, fun k hk => (hm k hk).append (hn k hk)⟩

theorem leaves_request {q : Service.Request} {x : Service.Reply q}
    (h : ∀ d, q ≠ .store (.update d)) : Leaves id past (past ++ [⟨q, x⟩]) :=
  ⟨_, rfl, fun _ _ => untouched_singleton h⟩

end Operation

namespace Registrar

variable (g : Registrar) {past : List Exchange}

theorem write_turns (d : Record) : (write d).Meets turns (fun x later => Leaves d.id past later ∧
    ∀ d', x = .ok d' → d'.id = d.id) past := by
  refine meets_turns trivial fun x hx => ?_
  have hleaves : Leaves d.id past (past ++ [⟨.store (.update d), x⟩]) := by
    refine ⟨_, rfl, fun k hk e e' he => ?_⟩
    obtain ⟨⟩ := List.mem_singleton.1 he
    exact hk.symm
  cases x with
  | ok d' =>
    refine ⟨hleaves, fun e he => ?_⟩
    obtain rfl := Except.ok.inj he
    have hnext : d' = d.next := hx
    rw [hnext, Record.next_id]
  | error e => exact ⟨hleaves, by simp⟩

theorem commit_turns (r : Record) (target : Status) :
    (commit r target).Meets turns (fun x later => Leaves r.id past later ∧
      ∀ d, x = .ok d → d.id = r.id) past := by
  refine meets_turns trivial fun t _ => ?_
  have hnow : Leaves r.id past (past ++ [⟨.now, t⟩]) := leaves_request (by simp)
  cases hd : r.transition target t with
  | error e => exact ⟨hnow, by simp⟩
  | ok d =>
    obtain ⟨-, rfl⟩ := Record.transition_eq_ok_iff.1 hd
    exact (write_turns (r.moveTo target t)).mono fun _ _ h => ⟨hnow.trans h.1, h.2⟩

theorem park_turns (r : Record) (message : String) :
    (park r message).Meets turns (fun _ later => Leaves r.id past later) past := by
  refine meets_turns trivial fun t _ => ?_
  have hnow : Leaves r.id past (past ++ [⟨.now, t⟩]) := leaves_request (by simp)
  exact (write_turns (r.flag message t)).bind (fun _ _ h => hnow.trans h.1)
    fun _ _ h => hnow.trans h.1

theorem settle_turns (r : Record) (confirmed : Status) (x : Except AgencyError Unit) :
    (settle r confirmed x).Meets turns (fun _ later => Leaves r.id past later) past := by
  rcases x with e | ⟨⟩
  · cases e with
    | unreachable reason => exact .refl _ _
    | rejected status message => exact park_turns r _
    | malformedValue cause => exact .refl _ _
  · exact (commit_turns r confirmed).bind (fun _ _ h => h.1) fun _ _ h => h.1

theorem call_turns {r : Record} {c : Agency.Change} (confirmed : Status) (h : InTurn past r)
    (hc : c.Suits r) : (agency r.scheme (.change c) >>= settle r confirmed).Meets turns
      (fun _ later => Leaves r.id past later) past := by
  refine meets_turns ⟨r, h, rfl, hc⟩ fun x _ => ?_
  have hcall : Leaves r.id past (past ++ [⟨.agency r.scheme (.change c), x⟩]) :=
    leaves_request (by simp)
  exact (settle_turns r confirmed x).mono fun _ _ h => hcall.trans h

theorem resume_turns {r : Record} (h : InTurn past r) :
    (g.resume r).Meets turns (fun _ later => Leaves r.id past later) past := by
  have hlookup {resource : ResourceId} {x : Reply (.lookup resource)} {later : List Exchange}
      (hx : turns.moves past (.lookup resource) x later) :
      Leaves r.id past later ∧ InTurn later r := by
    obtain ⟨rfl, -⟩ := hx
    exact ⟨leaves_request (by simp), h.append (untouched_singleton (by simp))⟩
  refine resume_meets_of (P := fun later => Leaves r.id past later ∧ InTurn later r)
    (fun _ => ⟨.refl _ _, h⟩) ?_ ?_ ?_ ?_ ?_ ?_ ?_ ?_
  · exact fun _ => .refl _ _
  · exact fun _ _ => .refl _ _
  · exact fun _ _ => park_turns r _
  · exact fun _ _ _ => trivial
  · exact fun _ _ _ _ _ _ hx => (hlookup hx).1
  · exact fun _ _ _ _ _ hx => (park_turns r _).mono fun _ _ h' => (hlookup hx).1.trans h'
  · exact fun _ _ _ _ _ hx => hlookup hx
  · exact fun confirmed _ _ h' _ hc => (call_turns confirmed h'.2 hc).mono
      fun _ _ h'' => h'.1.trans h''

theorem drive_turns {r : Record} (h : InTurn past r) :
    (g.drive r).Meets turns (fun _ later => Leaves r.id past later) past := by
  refine drive_meets_of (fun _ _ => park_turns r _) (fun hubr => ?_) fun _ => g.resume_turns h
  refine (commit_turns r .toBeRegistered).bind (fun d later hd => ?_) fun _ _ h => h.1
  have hid : d.id = r.id := hd.2 d rfl
  -- The listed record was an update before registration, and `d` is what was made of it.
  have hturn : InTurn later d := by
    obtain ⟨rs, hrs, listed, hmem, hlisted, hsame⟩ := h
    obtain ⟨⟨more, rfl, -⟩, -⟩ := hd
    refine ⟨rs, hrs.append more, listed, hmem, hlisted.trans hid.symm, fun hne => ?_⟩
    exact absurd ((hsame hne).1 ▸ hubr) hne
  exact (g.resume_turns hturn).mono fun _ _ h => hd.1.trans (hid ▸ h)

/-- The records that are left to do are as they were listed: driving one leaves the others alone. -/
theorem forEach_turns {rs todo : List Record} (hrs : Lists past rs)
    (htodo : ∀ r ∈ todo, r ∈ rs ∧ Untouched past r.id) (hids : (todo.map (·.id)).Nodup) :
    (forEach (fun r => (g.drive r).attempt) todo :
      Operation (List (Except RegistrarError Outcome))).Meets turns (fun _ _ => True) past := by
  induction todo generalizing past with
  | nil => trivial
  | cons r todo ih =>
    obtain ⟨hr, hclean⟩ := htodo r (by simp)
    rw [List.map_cons, List.nodup_cons] at hids
    have hdrive := g.drive_turns ⟨rs, hrs, r, hr, rfl, fun _ => ⟨rfl, hclean⟩⟩
    refine hdrive.attempt_bind fun x later h => ?_
    obtain ⟨more, rfl, hmore⟩ := h
    refine (ih (hrs.append more) (fun s hs => ?_) hids.2).bind (fun _ _ _ => trivial)
      fun _ _ _ => trivial
    have hne : s.id ≠ r.id := fun h => hids.1 (h ▸ List.mem_map_of_mem hs)
    have hs := htodo s (by simp [hs])
    exact ⟨hs.1, hs.2.append (hmore s.id hne)⟩

/-- A sweep keeps to the turns of the records that it has listed. -/
theorem sweep_turns : g.sweep.Meets turns (fun _ _ => True) [] := by
  refine meets_turns trivial fun x hx => ?_
  cases x with
  | error e => trivial
  | ok rs =>
    have hrs : Lists [⟨.store (.listRetryable Status.intents), .ok rs⟩] rs := rfl
    exact (g.forEach_turns hrs (fun r hr => ⟨hr, untouched_singleton (by simp)⟩)
      (hx (by decide))).bind
      (fun _ _ _ => trivial) fun _ _ _ => trivial

end Registrar

end IdentifierRegistrar
