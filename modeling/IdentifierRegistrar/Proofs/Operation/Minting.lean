import IdentifierRegistrar.Directory.Memory
import IdentifierRegistrar.Directory.Rest
import IdentifierRegistrar.Proofs.Operation.Custody
import IdentifierRegistrar.Proofs.Operation.Wire

/-! A mint on its own. It asks for no update, and it adds a row only as its last step; so it ends either
with a record that it has added or found, or with an error and nothing added (`mint_meets`). -/

namespace IdentifierRegistrar

def Errand.mints : Errand → Prop
  | mint _ _ => True
  | _ => False

/-- An errand that unbinds also deletes. -/
theorem Errand.deletes_of_unbinds {e : Errand} (h : e.licence.unbinds) : e.licence.deletes := by
  cases e <;> first | exact trivial | exact h.elim

namespace Service

/-- The contract of a directory: what it tells of is the resource that it was asked for. Both directories
keep to it (`MemoryDirectory.directs`, `RestDirectory.directs`). -/
def Directs : (q : Request) → Reply q → Prop
  | .lookup id, .ok (some found) => found.id = id
  | _, _ => True

def Directed {σ : Type} (answer : Answerer interface σ) : Prop := ∀ q s, Directs q (answer q s).1

/-- The contract of an agency: it gives out values of its own scheme. -/
def Issues : (q : Request) → Reply q → Prop
  | .agency scheme (.mint _), .ok (v : IdentifierValue) => v.scheme = scheme
  | _, _ => True

def minting (resource : ResourceId) (scheme : Scheme) : Setting interface (List Exchange) where
  allows _ q := match q with
    | .store (.insert r) => r.resource = some resource ∧ r.scheme = scheme ∧ r.status = .minted
    | .store (.update _) => False
    | _ => True
  moves past q x past' := past' = past ++ [⟨q, x⟩] ∧ Directs q x ∧ Issues q x

def Inserts : Exchange → Prop
  | ⟨.store (.insert _), .ok _⟩ => True
  | _ => False

def NoInsert (past : List Exchange) : Prop := ∀ y ∈ past, ¬ Inserts y

theorem NoInsert.snoc {past : List Exchange} (h : NoInsert past) {y : Exchange} (hy : ¬ Inserts y) :
    NoInsert (past ++ [y]) := by
  intro z hz
  rcases List.mem_append.1 hz with hz | hz
  · exact h z hz
  · rwa [List.mem_singleton.1 hz]

/-- How a mint ends: its record was found or inserted, or nothing has been inserted. -/
def Minted (resource : ResourceId) (scheme : Scheme) (x : Except RegistrarError Record)
    (past : List Exchange) : Prop :=
  match x with
  | .ok r => ⟨.store (.findLive resource scheme), .ok (some r)⟩ ∈ past ∨
      ⟨.store (.insert r), .ok ()⟩ ∈ past
  | .error _ => NoInsert past

end Service

open Service Operation

theorem MemoryDirectory.directs (d : MemoryDirectory) (id : ResourceId) :
    Directs (.lookup id) (.ok (d.get? id)) := by
  cases h : d.get? id with
  | none => trivial
  | some r =>
    have hr : r.id = id := by simpa using List.find?_some h
    exact hr

/-- Whatever the server replies: what is read is filed under the id that was asked for. -/
theorem RestDirectory.directs (d : RestDirectory) (id : ResourceId) :
    (d.lookup id).Meets Http.interface.anyhow (fun x _ => Directs (.lookup id) x) () := by
  refine ⟨trivial, fun reply _ _ => ?_⟩
  cases reply with
  | answer status body =>
    simp only [Program.bind]
    split
    · trivial
    · split
      · trivial
      · split
        · exact rfl
        · trivial
  | _ => trivial

section Mint

variable {β : Type} {resource : ResourceId} {scheme : Scheme} {past : List Exchange}
  {Q : Except RegistrarError β → List Exchange → Prop}

theorem meets_minting {q : Service.Request} {f : Service.Reply q → Operation β} :
    (request q >>= f).Meets (minting resource scheme) Q past ↔ (minting resource scheme).allows past q ∧
      ∀ x, Directs q x → Issues q x →
        (f x).Meets (minting resource scheme) Q (past ++ [⟨q, x⟩]) := by
  constructor
  · rintro ⟨hq, h⟩
    exact ⟨hq, fun x hdirects hissues => h x _ ⟨rfl, hdirects, hissues⟩⟩
  · rintro ⟨hq, h⟩
    refine ⟨hq, ?_⟩
    rintro x _ ⟨rfl, hdirects, hissues⟩
    exact h x hdirects hissues

namespace Registrar

variable (g : Registrar)

theorem mintNew_minting {found : Resource} (hfound : found.id = resource) (hpast : NoInsert past) :
    (g.mintNew found scheme resource).Meets (minting resource scheme) (Minted resource scheme) past := by
  unfold mintNew requireConnector
  split
  · simp only [Program.pure_eq, Program.done_bind]
    refine meets_minting.2 ⟨trivial, fun record _ _ => meets_minting.2 ⟨trivial, fun x _ hissues => ?_⟩⟩
    have hnone : NoInsert (past ++ [⟨.freshId, record⟩] ++ [⟨.agency scheme (.mint record), x⟩]) :=
      (hpast.snoc (y := ⟨.freshId, record⟩) fun h => h).snoc (y := ⟨.agency scheme (.mint record), x⟩) fun h => h
    cases x with
    | error e => exact hnone
    | ok value =>
      refine meets_minting.2 ⟨trivial, fun t _ _ => ?_⟩
      have hnone := hnone.snoc (y := ⟨.now, t⟩) fun h => h
      refine meets_minting.2 ⟨⟨congrArg some hfound, hissues, rfl⟩, fun x _ _ => ?_⟩
      rcases x with e | ⟨⟩
      · have hnone := hnone.snoc (y := ⟨.store (.insert (Record.mint record value found t)), .error e⟩) fun h => h
        cases e with
        | liveRecordExists _ _ =>
          refine meets_minting.2 ⟨trivial, fun x _ _ => ?_⟩
          have hnone := hnone.snoc (y := ⟨.store (.findLive resource scheme), x⟩) fun h => h
          rcases x with e | (_ | winner)
          · exact hnone
          · exact hnone
          · exact .inl (List.mem_append_right _ (List.mem_singleton.2 rfl))
        | _ => exact hnone
      · exact .inr (List.mem_append_right _ (List.mem_singleton.2 rfl))
  · exact hpast

theorem mint_minting (hpast : NoInsert past) :
    (g.mint resource scheme).Meets (minting resource scheme) (Minted resource scheme) past := by
  refine meets_minting.2 ⟨trivial, fun x _ _ => ?_⟩
  have hnone := hpast.snoc (y := ⟨.store (.findLive resource scheme), x⟩) fun h => h
  rcases x with e | (_ | r)
  · exact hnone
  · refine meets_minting.2 ⟨trivial, fun x hdirects _ => ?_⟩
    have hnone := hnone.snoc (y := ⟨.lookup resource, x⟩) fun h => h
    rcases x with e | (_ | found)
    · exact hnone
    · exact hnone
    · exact g.mintNew_minting hdirects hnone
  · exact .inl (List.mem_append_right _ (List.mem_singleton.2 rfl))

end Registrar

/-- A mint keeps to what minting may request, and ends as a mint may end. -/
theorem Errand.mint_meets (g : Registrar) (resource : ResourceId) (scheme : Scheme) :
    ((Errand.mint resource scheme).operation g).Meets (minting resource scheme)
      (fun x past => ∃ y, x = y.map .record ∧ Minted resource scheme y past) [] :=
  (g.mint_minting fun _ hy => absurd hy List.not_mem_nil).bind (fun r _ h => ⟨.ok r, rfl, h⟩)
    fun e _ h => ⟨.error e, rfl, h⟩

end Mint

/-- Where a record that a mint returns comes from: it stood for the resource, or it was inserted for what
the directory had found, and took its type from there. -/
inductive Sourced (resource : ResourceId) (scheme : Scheme) (past : List Exchange) (r : Record) : Prop
  | stood (h : ⟨.store (.findLive resource scheme), .ok (some r)⟩ ∈ past)
  | inserted {found : Resource} (hfound : ⟨.lookup resource, .ok (some found)⟩ ∈ past)
    (hresource : r.resource = some found.id) (htype : r.resourceType = found.type)
    (h : ⟨.store (.insert r), .ok ()⟩ ∈ past)

namespace Registrar

variable (g : Registrar) {resource : ResourceId} {scheme : Scheme} {past : List Exchange} {L : Licence}

theorem mintNew_sourced {found : Resource} (hfound : ⟨.lookup resource, .ok (some found)⟩ ∈ past) :
    (g.mintNew found scheme resource).Meets (supervised L)
      (fun x later => ∀ r, x = .ok r → Sourced resource scheme later r) past := by
  unfold mintNew requireConnector
  split
  · simp only [Program.pure_eq, Program.done_bind]
    refine meets_request.2 ⟨trivial, fun id => meets_request.2 ⟨trivial, fun x => ?_⟩⟩
    cases x with
    | error e => simp [Program.Meets]
    | ok value =>
      refine meets_request.2 ⟨trivial, fun t => meets_request.2 ⟨⟨rfl, rfl, rfl, rfl⟩, fun x => ?_⟩⟩
      rcases x with e | ⟨⟩
      · cases e with
        | liveRecordExists _ _ =>
          refine meets_store.2 ⟨trivial, fun x => ?_, by simp⟩
          cases x with
          | none => simp [Program.Meets]
          | some winner =>
            intro r hr
            obtain rfl := Except.ok.inj hr
            exact .stood (List.mem_append_right _ (List.mem_singleton.2 rfl))
        | _ => simp [Program.Meets]
      · intro r hr
        obtain rfl := Except.ok.inj hr
        refine .inserted (?_ : (⟨.lookup resource, .ok (some found)⟩ : Exchange) ∈ _) rfl rfl
          (List.mem_append_right _ (List.mem_singleton.2 rfl))
        simp [hfound]
  · simp [Program.Meets]

theorem mint_sourced : (g.mint resource scheme).Meets (supervised L)
    (fun x later => ∀ r, x = .ok r → Sourced resource scheme later r) past := by
  refine meets_store.2 ⟨trivial, fun x => ?_, by simp⟩
  cases x with
  | some r =>
    intro r' hr
    obtain rfl := Except.ok.inj hr
    exact .stood (List.mem_append_right _ (List.mem_singleton.2 rfl))
  | none =>
    refine meets_request.2 ⟨trivial, fun x => ?_⟩
    rcases x with e | (_ | found)
    · simp [Program.Meets]
    · simp [Program.Meets]
    · exact g.mintNew_sourced (List.mem_append_right _ (List.mem_singleton.2 rfl))

end Registrar

theorem Errand.mint_sourced (g : Registrar) (resource : ResourceId) (scheme : Scheme) :
    ((Errand.mint resource scheme).operation g).Meets (supervised (Errand.mint resource scheme).licence)
      (fun y past => ∀ r, y = .ok (.record r) → Sourced resource scheme past r) [] := by
  refine g.mint_sourced.bind (fun r past h r' hr => ?_) fun e past _ r hr => ?_
  · cases hr
    exact h r rfl
  · cases hr

end IdentifierRegistrar
