import IdentifierRegistrar.Agency.Connector
import Mathlib.Tactic.Common

/-! What of a resource leaves the system. A payload is made of the resource's handle and of the first
values of the released fields, and a connector's session of the payload: two resources that agree on
these are told apart by no request, whatever the server answers (`sessions_agree`). -/

namespace IdentifierRegistrar

namespace Program

variable {I : Interface} {ε α σ : Type}

def asked (answer : Answerer I σ) : Program I ε α → σ → List I.Request
  | done _, _ => []
  | fail _, _ => []
  | ask q next, s => q :: (next (answer q s).1).asked answer (answer q s).2

end Program

namespace ReleasePolicy

variable {policy : ReleasePolicy} {r r' : Resource} {name : String}

def Releases (policy : ReleasePolicy) (name : String) : Prop :=
  name ∈ MetadataField.allowed ∧ name ∈ policy.requested

theorem sends_iff : policy.sends name = true ↔ policy.Releases name := by
  simp [sends, Releases]

/-- The resources cannot be told apart by what is released of them. -/
def SameReleased (policy : ReleasePolicy) (r r' : Resource) : Prop :=
  r.handle = r'.handle ∧ ∀ name, policy.Releases name → r.firstValue? name = r'.firstValue? name

theorem SameReleased.field (h : policy.SameReleased r r') (name : String) :
    (if policy.sends name then r.firstValue? name else none) =
      if policy.sends name then r'.firstValue? name else none := by
  by_cases hs : policy.sends name = true
  · rw [if_pos hs, if_pos hs, h.2 name (sends_iff.1 hs)]
  · rw [if_neg hs, if_neg hs]

end ReleasePolicy

namespace Payload

open ReleasePolicy

variable {policy : ReleasePolicy} {r r' : Resource}

theorem build_eq_of_sameReleased (identifier : IdentifierValue) (h : policy.SameReleased r r') :
    build identifier r policy = build identifier r' policy := by
  unfold build
  simp only [h.field, h.1]

def keeping (fields : List String) (p : Payload) : Payload :=
  { p with
    author := if MetadataField.author ∈ fields then p.author else none
    title := if MetadataField.title ∈ fields then p.title else none
    year := if MetadataField.issued ∈ fields then p.year else none
    url := if MetadataField.uri ∈ fields then p.url else none }

/-- A field that is asked for by both is in both payloads, and one that only the wider policy asks
for is left out of the narrower payload. -/
theorem field_of_subset {narrow wide : List String} (h : narrow ⊆ wide) (base : Option String)
    (r : Resource) (name : String) :
    (if sends ⟨narrow, base⟩ name then r.firstValue? name else none) =
      if name ∈ narrow then (if sends ⟨wide, base⟩ name then r.firstValue? name else none)
      else none := by
  by_cases hn : name ∈ narrow
  · simp [sends, hn, h hn]
  · simp [sends, hn]

theorem build_eq_keeping {narrow wide : List String} (h : narrow ⊆ wide) (base : Option String)
    (identifier : IdentifierValue) (r : Resource) :
    build identifier r ⟨narrow, base⟩ = (build identifier r ⟨wide, base⟩).keeping narrow := by
  unfold build keeping
  simp only [field_of_subset h]
  congr 1
  split <;> rfl

end Payload

namespace Connector

open Agency (Change Session)

inductive Carrier
  | reserve
  | register
  | updateMetadata
  deriving DecidableEq, Repr

def Carrier.change : Carrier → Payload → Change
  | reserve => .reserve
  | register => .register
  | updateMetadata => .updateMetadata

def carry (c : Connector) (policy : ReleasePolicy) (call : Carrier) (identifier : IdentifierValue)
    (r : Resource) : Session Unit :=
  c.perform (.change (call.change (Payload.build identifier r policy)))

end Connector

/-- Only what is released leaves the system. For every policy and identifier, resources that agree on
the handle and on the first value of each released field make equal payloads, and on every call that
carries one every connector makes the same requests and comes to the same result against every server.
Of a payload for fewer fields exactly the other fields are missing. -/
theorem sessions_agree (policy : ReleasePolicy) (identifier : IdentifierValue) (r r' : Resource)
    (h : policy.SameReleased r r') :
    Payload.build identifier r policy = Payload.build identifier r' policy ∧
    (∀ (c : Connector) (call : Connector.Carrier) (σ : Type) (server : Answerer Http.interface σ) (s : σ),
      (c.carry policy call identifier r).asked server s =
        (c.carry policy call identifier r').asked server s ∧
      (c.carry policy call identifier r).run server s =
        (c.carry policy call identifier r').run server s) ∧
    ∀ narrow ⊆ policy.requested, Payload.build identifier r { policy with requested := narrow } =
      (Payload.build identifier r policy).keeping narrow := by
  have hpayload : Payload.build identifier r policy = Payload.build identifier r' policy :=
    Payload.build_eq_of_sameReleased identifier h
  refine ⟨hpayload, fun c call σ server s => ?_, fun narrow hsub => ?_⟩
  · unfold Connector.carry
    rw [hpayload]
    exact ⟨rfl, rfl⟩
  · exact Payload.build_eq_keeping hsub policy.uiBase identifier r

def titledItem : Resource := ⟨⟨1⟩, .item, none, [⟨MetadataField.title, "Tides"⟩]⟩

def titledCollection : Resource :=
  ⟨⟨2⟩, .collection, none, [⟨MetadataField.author, "Ada"⟩, ⟨MetadataField.title, "Tides"⟩,
    ⟨"dc.rights", "closed"⟩, ⟨MetadataField.title, "Waves"⟩]⟩

theorem titled_agree :
    ReleasePolicy.SameReleased ⟨[MetadataField.title], none⟩ titledItem titledCollection ∧
    ∀ identifier, Payload.build identifier titledItem ⟨[MetadataField.title], none⟩ =
      Payload.build identifier titledCollection ⟨[MetadataField.title], none⟩ := by
  have h : ReleasePolicy.SameReleased ⟨[MetadataField.title], none⟩ titledItem titledCollection := by
    refine ⟨rfl, fun name hname => ?_⟩
    obtain rfl := List.mem_singleton.1 hname.2
    decide
  exact ⟨h, fun identifier => (sessions_agree _ identifier _ _ h).1⟩

end IdentifierRegistrar
