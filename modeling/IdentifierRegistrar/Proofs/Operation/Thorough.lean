import IdentifierRegistrar.Proofs.Operation.Sweep

/-! A sweep that comes to its end has asked the agency for what every record asks that it has listed,
if the record's scheme has a connector and the directory had the record's resource (`sweep_tries`). -/

namespace IdentifierRegistrar

namespace Service

def replies : Setting interface (List Exchange) where
  allows _ _ := True
  moves past q x past' := past' = past ++ [⟨q, x⟩]

def Called (past : List Exchange) (r : Record) : Prop :=
  ∃ c x, (⟨.agency r.scheme (.change c), x⟩ : Exchange) ∈ past ∧ c.Suits r

/-- The directory had the resource of `r` whenever it was asked. -/
def Located (past : List Exchange) (r : Record) : Prop :=
  ∀ resource x, r.resource = some resource → (⟨.lookup resource, x⟩ : Exchange) ∈ past →
    ∃ found, x = .ok (some found)

def Tried (g : Registrar) (past : List Exchange) (r : Record) : Prop :=
  r.Asks → g.connected r.scheme → Located past r → Called past r

theorem Tried.later {g : Registrar} {past later : List Exchange} {r : Record} (h : Tried g past r)
    (hpast : past <+: later) : Tried g later r := by
  intro hr hg hlocated
  obtain ⟨c, x, hmem, hc⟩ := h hr hg fun resource x hx hmem =>
    hlocated resource x hx (hpast.subset hmem)
  exact ⟨c, x, hpast.subset hmem, hc⟩

end Service

open Service Operation

namespace Operation

variable {α : Type} {past : List Exchange}

theorem meets_goes (p : Operation α) : p.Meets replies (Goes past) past := by
  induction p generalizing past with
  | done a => exact List.prefix_refl _
  | fail e => exact List.prefix_refl _
  | ask q next ih =>
    refine ⟨trivial, ?_⟩
    rintro x _ rfl
    exact (ih x).mono fun _ _ h => Goes.trans (List.prefix_append _ _) h

end Operation

namespace Registrar

variable (g : Registrar) {past : List Exchange} {r : Record}

theorem resume_tries (hr : r.Asks) : (g.resume r).Meets replies
    (fun _ later => past <+: later ∧ Tried g later r) past := by
  have hpast {q : Service.Request} {x : Reply q} : past <+: past ++ [⟨q, x⟩] :=
    List.prefix_append _ _
  -- After a lookup that has not found the resource there is nothing to show.
  have hlost {resource : ResourceId} {x : Reply (.lookup resource)} {later : List Exchange}
      (hres : r.resource = some resource) (hx : ∀ found, x ≠ .ok (some found))
      (h : past ++ [⟨.lookup resource, x⟩] <+: later) : past <+: later ∧ Tried g later r := by
    refine ⟨hpast.trans h, fun _ _ hlocated => ?_⟩
    obtain ⟨found, hf⟩ := hlocated resource x hres (h.subset (by simp))
    exact absurd hf (hx found)
  refine resume_meets_of (P := fun later => past <+: later) (fun _ => List.prefix_refl _)
    ?_ ?_ ?_ ?_ ?_ ?_ ?_ ?_
  · exact fun hnone => absurd hnone hr.confirmed?
  · exact fun _ hg => ⟨List.prefix_refl _, fun _ hconn _ => absurd hconn hg⟩
  · rintro ⟨-, hd⟩ hnone
    rcases hr.bound with h | h
    · exact absurd h hd
    · rw [hnone] at h
      cases h
  · exact fun _ _ _ => trivial
  · rintro resource e _ reason - hres rfl
    exact hlost hres (fun _ h => by cases h) (List.prefix_refl _)
  · rintro resource _ message - hres rfl
    exact (meets_goes _).mono fun _ _ h => hlost hres (fun _ h => by cases h) h
  · rintro resource found _ - - rfl
    exact hpast
  · intro confirmed c later hlater _ hc
    refine ⟨trivial, ?_⟩
    rintro x _ rfl
    refine (meets_goes _).mono fun _ last h => ?_
    refine ⟨hlater.trans ((List.prefix_append _ _).trans h), fun _ _ _ => ?_⟩
    exact ⟨c, x, h.subset (by simp), hc⟩

theorem drive_tries : (g.drive r).Meets replies (fun _ later => past <+: later ∧ Tried g later r) past := by
  by_cases hr : r.Asks
  · refine drive_meets_of (fun hs hnone => ?_) (fun h => absurd h hr.ready) fun _ => g.resume_tries hr
    rcases hr.bound with h | h
    · exact absurd h hs.2
    · rw [hnone] at h
      cases h
  · exact (meets_goes _).mono fun _ _ h => ⟨h, fun hasks => absurd hasks hr⟩

theorem forEach_tries {todo : List Record} :
    (forEach (fun r => (g.drive r).attempt) todo :
      Operation (List (Except RegistrarError Outcome))).Meets replies
        (fun _ later => past <+: later ∧ ∀ r ∈ todo, Tried g later r) past := by
  induction todo generalizing past with
  | nil => exact ⟨List.prefix_refl _, by simp⟩
  | cons r todo ih =>
    refine (g.drive_tries (r := r)).attempt_bind fun x later h => ?_
    have hrest {last : List Exchange} (h' : later <+: last ∧ ∀ r ∈ todo, Tried g last r) :
        past <+: last ∧ ∀ s ∈ r :: todo, Tried g last s := by
      refine ⟨h.1.trans h'.1, fun s hs => ?_⟩
      rcases List.mem_cons.1 hs with rfl | hs
      · exact h.2.later h'.1
      · exact h'.2 s hs
    exact ih.bind (fun _ _ h' => hrest h') fun _ _ h' => hrest h'

/-- A sweep that has come to its end has tried all that it has listed. -/
theorem sweep_tries : g.sweep.Meets replies (fun x later => ∀ stats, x = .ok stats →
    ∃ rs, Lists later rs ∧ ∀ r ∈ rs, Tried g later r) [] := by
  refine ⟨trivial, ?_⟩
  rintro x _ rfl
  cases x with
  | error e => exact fun _ h => by cases h
  | ok rs =>
    have hlists : Lists [⟨.store (.listRetryable Status.intents), .ok rs⟩] rs := rfl
    refine g.forEach_tries.bind (fun _ later h => ?_) fun _ _ _ => by simp
    obtain ⟨⟨more, rfl⟩, htried⟩ := h
    exact fun _ _ => ⟨rs, hlists.append more, htried⟩

end Registrar

end IdentifierRegistrar
