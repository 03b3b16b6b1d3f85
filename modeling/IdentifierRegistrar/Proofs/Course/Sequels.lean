import IdentifierRegistrar.Proofs.Operation.Adding
import IdentifierRegistrar.Proofs.Operation.Fitting
import IdentifierRegistrar.Proofs.Operation.Minting
import IdentifierRegistrar.Proofs.Operation.Noted

/-! Operations one after the other, each alone with the store. No record is lost from the store
(`Sequel.continues`). Of all records of a scheme for a resource only one may be live, and an operation that
inserts nothing, wherever it is stopped, leaves it so (`Sole.reaches`). -/

namespace IdentifierRegistrar

open Service Operation

/-- Operations one after the other, each alone with the store, and the table after them. Each of them comes
to its end or is stopped for good at one of its requests; of each, `P` holds of the table that it begins
with and of what is left of it. -/
inductive Sequel (g : Registrar) (moves : Table → (q : Request) → Reply q → Table → Prop)
    (P : Table → Errand → Operation Report → Prop) (t : Table) : Table → Prop
  | nil : Sequel g moves P t t
  | snoc {t₁ t₂ : Table} {e : Errand} {p : Operation Report} (h : Sequel g moves P t t₁)
    (hreaches : Program.Reaches moves (e.operation g) t₁ p t₂) (hp : P t₁ e p) : Sequel g moves P t t₂

def Table.Lost (t : Table) (id : RecordId) : Prop := ∃ s, t.get? id = .ok (some s) ∧ s.Lost

namespace Service

/-- An agency is called through the connector of its scheme: the call comes to what the connector comes to
with some server. -/
def Through (set : Connectors Connector) : (q : Request) → Reply q → Prop
  | .agency scheme call, x => ∀ c, set.get? scheme = some c →
    ∃ (τ : Type) (server : Answerer Http.interface τ) (s : τ), x = ((c.perform call).run server s).1
  | _, _ => True

/-- An answerer says what such directories and agencies may say. -/
theorem forall_exchanges {α σ : Type} {E : (q : Request) → Reply q → Prop} {answer : Answerer interface σ}
    (h : ∀ q s, E q (answer q s).1) (p : Operation α) (s : σ) : ∀ y ∈ p.exchanges answer s, E y.1 y.2 := by
  induction p generalizing s with
  | done a => simp [Program.exchanges]
  | fail e => simp [Program.exchanges]
  | ask q next ih => exact List.forall_mem_cons.2 ⟨h q s, ih _ _⟩

theorem Through.scheme {set : Connectors Connector} (hset : set.Built) {scheme : Scheme} {id : RecordId}
    {v : IdentifierValue} (h : Through set (.agency scheme (.mint id)) (.ok v))
    (hconnected : (set.get? scheme).isSome) : v.scheme = scheme := by
  obtain ⟨c, hc⟩ := Option.isSome_iff_exists.1 hconnected
  obtain ⟨τ, server, s, hx⟩ := h c hc
  have hscheme : ∀ v : IdentifierValue, ((c.perform (.mint id)).run server s).1 = .ok v → v.scheme = c.scheme :=
    ((c.mint_scheme id).exchanges (fun _ _ _ => trivial) s).2
  exact (hscheme v hx.symm).trans (hset.scheme_of_get? hc)

end Service

theorem Connectors.Behind.through {σ : Type} {set : Connectors Connector} {answer : Answerer interface σ}
    (h : set.Behind answer) (q : Request) (s : σ) : Through set q (answer q s).1 := by
  cases q with
  | agency scheme call => exact fun c hc => h scheme call c s hc
  | _ => trivial

section Continuing

variable {w : Trouble} {l : Ledger}

theorem Service.Replies.continues {m : Ledger} {q : Request} {x : Reply q}
    (h : Replies w l.table q x m.table) : l.Continues m := by
  rcases h with ⟨h, -⟩ | ⟨-, h⟩
  · cases q with
    | store call => exact h.store.continues
    | _ => exact Ledger.table_injective h ▸ .refl l
  · exact Ledger.table_injective h.same ▸ .refl l

theorem Operation.reaches_continues {α : Type} {p p' : Operation α} {t : Table}
    (h : Program.Reaches (Replies w) p l.table p' t) : ∃ m : Ledger, t = m.table ∧ l.Continues m := by
  obtain ⟨m, hm, hreaches⟩ := Operation.reaches_ledger (I := fun _ => True) h
  exact ⟨m, hm, hreaches.related Ledger.Continues.refl Ledger.Continues.trans fun _ _ _ _ hx => hx.continues⟩

/-- Whatever follows loses no record. -/
theorem Sequel.continues {g : Registrar} {P : Table → Errand → Operation Report → Prop} {t : Table}
    (h : Sequel g (Replies w) P l.table t) : ∃ m : Ledger, t = m.table ∧ l.Continues m := by
  induction h with
  | nil => exact ⟨l, rfl, .refl l⟩
  | snoc _ hreaches _ ih =>
    obtain ⟨m, rfl, hm⟩ := ih
    obtain ⟨n, hn, hcontinues⟩ := reaches_continues hreaches
    exact ⟨n, hn, hm.trans hcontinues⟩

end Continuing

/-- Of all records of the scheme for the resource only that of `id` may be live: the others are deleted, and
so is every copy of them that an operation has been handed. -/
def Sole (resource : ResourceId) (scheme : Scheme) (id : RecordId) (l : Ledger) (past : List Exchange) :
    Prop :=
  ∀ s ∈ l.records, s.resource = some resource → s.scheme = scheme → s.id ≠ id →
    s.status = .deleted ∧ ∀ c ∈ handed past, c.id = s.id → c.status = .deleted

namespace Sole

variable {resource : ResourceId} {scheme : Scheme} {id : RecordId} {l m : Ledger} {past : List Exchange}
  {L : Licence} {q : Request} {x : Reply q}

theorem of_stands {r : Record} (hr : r ∈ l.records) (h : r.Stands resource scheme) :
    Sole resource scheme r.id l [] := by
  intro s hs hresource hscheme hne
  refine ⟨?_, by simp [handed]⟩
  by_contra hstatus
  exact hne (congrArg Record.id (Ledger.eq_of_stands hs hr ⟨hresource, hscheme, hstatus⟩ h))

theorem forget (h : Sole resource scheme id l past) : Sole resource scheme id l [] :=
  fun s hs hresource hscheme hne => ⟨(h s hs hresource hscheme hne).1, by simp [handed]⟩

/-- Records that are read off the ledger are what they are there. -/
theorem read (h : Sole resource scheme id l past) (hread : ∀ c ∈ handedBy q x, c ∈ l.records) :
    Sole resource scheme id l (past ++ [⟨q, x⟩]) := by
  intro s hs hresource hscheme hne
  obtain ⟨hstatus, hcopies⟩ := h s hs hresource hscheme hne
  refine ⟨hstatus, fun c hc hid => ?_⟩
  rcases mem_handed_snoc.1 hc with hc | hc
  · exact hcopies c hc hid
  · rw [Ledger.eq_of_id_eq (hread c hc) hs hid]
    exact hstatus

/-- What is written over a record that is not the one is made from a copy of it, so it stays deleted. -/
theorem updated {d : Record} (h : Sole resource scheme id l past) (hd : Licensed L past (.store (.update d)))
    (hm : m.records = l.overwritten d) :
    Sole resource scheme id m (past ++ [⟨.store (.update d), .ok d.next⟩]) := by
  obtain ⟨c, hc, hrevision, -, -⟩ := hd
  intro s hs hresource hscheme hne
  rw [hm, Ledger.overwritten] at hs
  obtain ⟨s₀, hs₀, rfl⟩ := List.mem_map.1 hs
  have hdescends : s₀.Descends (if s₀.id = d.id then s₀.overwrite d else s₀) := by
    split
    · exact Record.descends_overwrite s₀ d
    · exact .refl s₀
  have hresource₀ : s₀.resource = some resource := by
    rcases hdescends.resource with hsame | hnone
    · exact hsame.symm.trans hresource
    · rw [hnone] at hresource
      cases hresource
  have hscheme₀ : s₀.scheme = scheme := (congrArg IdentifierValue.scheme hdescends.value).symm.trans hscheme
  obtain ⟨hstatus, hcopies⟩ := h s₀ hs₀ hresource₀ hscheme₀ (hdescends.id ▸ hne)
  have hwritten (hid : s₀.id = d.id) : d.status = .deleted := by
    have hcopy := hcopies c hc (hrevision.id.symm.trans hid.symm)
    rcases hrevision.status with hsame | hmem
    · exact hsame.trans hcopy
    · rw [hcopy] at hmem
      cases hmem
  constructor
  · split
    · rename_i hid
      exact hwritten hid
    · exact hstatus
  · intro c' hc' hid
    rw [hdescends.id] at hid
    rcases mem_handed_snoc.1 hc' with hc' | hc'
    · exact hcopies c' hc' hid
    · rw [List.mem_singleton.1 hc'] at hid ⊢
      exact hwritten hid.symm

theorem answered {w : Trouble} (h : Sole resource scheme id l past) (hq : Licensed L past q)
    (hno : ∀ r, q ≠ .store (.insert r)) (hx : Replies w l.table q x m.table) :
    Sole resource scheme id m (past ++ [⟨q, x⟩]) := by
  rcases hx with ⟨hx, -⟩ | ⟨-, hx⟩
  · cases q with
    | store call =>
      have hanswers := hx.store
      cases hanswers with
      | inserted _ => exact absurd rfl (hno _)
      | updated _ _ hm => exact h.updated hq hm
      | notInserted _ => exact absurd rfl (hno _)
      | notUpdated _ => exact h.read fun c hc => by cases hc
      | _ =>
        refine h.read fun c hc => ?_
        rcases mem_handedBy hx.store hc with ⟨hmem, -⟩ | ⟨d, hd, -⟩
        · exact hmem
        · cases hd
    | _ =>
      obtain rfl := Ledger.table_injective hx
      exact h.read fun c hc => by cases hc
  · obtain rfl := Ledger.table_injective hx.same
    refine h.read fun c hc => ?_
    exact absurd hx (not_fails_of_handedBy hc)

/-- An operation that inserts nothing, wherever it is stopped. -/
theorem reaches {α : Type} {w : Trouble} {E : (q : Request) → Reply q → Prop} {p p' : Operation α}
    {Q : Except RegistrarError α → List Exchange → Prop} {t : Table} (h : Sole resource scheme id l past)
    (hp : p.Meets (supervised L) Q past) (hadds : AddsNothing p)
    (hreaches : Program.Reaches (fun t q x t' => Replies w t q x t' ∧ E q x) p l.table p' t) :
    ∃ m : Ledger, t = m.table ∧ Sole resource scheme id m [] := by
  generalize ht : l.table = t₀ at hreaches
  induction hreaches generalizing l past with
  | here => exact ⟨l, ht.symm, h.forget⟩
  | @answered _ _ x _ _ _ _ hx _ ih =>
    subst ht
    obtain ⟨m, rfl⟩ := hx.1.ledger
    exact ih (h.answered hp.1 hadds.1 hx.1) (hp.2 x _ rfl) (hadds.2 x () trivial) rfl

end Sole

end IdentifierRegistrar
