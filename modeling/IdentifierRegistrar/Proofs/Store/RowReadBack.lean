import IdentifierRegistrar.Proofs.Identifier.ReadBack
import IdentifierRegistrar.Store.Records

/-! A record that is written as a row is read back with its times in whole seconds. So the cells
of such a row say what the record says: conditions on cells are conditions on the record. -/

namespace IdentifierRegistrar

namespace Record

/-- The record as it is stored: its times are whole seconds. -/
def stored (r : Record) : Record :=
  { r with createdAt := r.createdAt.wholeSecond, updatedAt := r.updatedAt.wholeSecond }

@[simp] theorem stored_stored (r : Record) : r.stored.stored = r.stored := rfl

@[simp] theorem stored_id (r : Record) : r.stored.id = r.id := rfl

@[simp] theorem stored_value (r : Record) : r.stored.value = r.value := rfl

@[simp] theorem stored_status (r : Record) : r.stored.status = r.status := rfl

def next (r : Record) : Record := { r with version := nextVersion r.version }

@[simp] theorem next_id (r : Record) : r.next.id = r.id := rfl

@[simp] theorem next_status (r : Record) : r.next.status = r.status := rfl

/-- The row of `s` after `r` was written over it: status, marker, version and time of update are
those of `r`, and the binding is gone if `r` has none. -/
def overwrite (s r : Record) : Record :=
  { s with
    resource := if r.isOrphaned then none else s.resource
    status := r.status
    attention := r.attention
    version := nextVersion r.version
    updatedAt := r.updatedAt.wholeSecond }

def Rivals (r s : Record) : Prop :=
  r.status ≠ .deleted ∧ s.status ≠ .deleted ∧ r.scheme = s.scheme ∧
    r.resource.isSome ∧ r.resource = s.resource

instance (r s : Record) : Decidable (r.Rivals s) := by unfold Rivals; infer_instance

end Record

theorem Status.tag_injective {s t : Status} (h : s.tag = t.tag) : s = t := by
  have hs := Status.ofTag?_tag s
  rw [h, Status.ofTag?_tag t] at hs
  exact (Option.some.inj hs).symm

theorem Scheme.tag_injective {s t : Scheme} (h : s.tag = t.tag) : s = t := by
  have hs := Scheme.ofTag?_tag s
  rw [h, Scheme.ofTag?_tag t] at hs
  exact (Option.some.inj hs).symm

theorem Status.ofTag?_eq_some_iff {tag : String} {s : Status} : ofTag? tag = some s ↔ tag = s.tag := by
  constructor
  · intro h
    have htag := List.find?_some (p := fun x : Status => x.tag == tag) h
    exact (beq_iff_eq.1 htag).symm
  · rintro rfl
    exact ofTag?_tag s

theorem Scheme.ofTag?_eq_some_iff {tag : String} {s : Scheme} : ofTag? tag = some s ↔ tag = s.tag := by
  constructor
  · intro h
    have htag := List.find?_some (p := fun x : Scheme => x.tag == tag) h
    exact (beq_iff_eq.1 htag).symm
  · rintro rfl
    exact ofTag?_tag s

namespace Row

@[simp] theorem ofRecord_stored (r : Record) : ofRecord r.stored = ofRecord r := rfl

def typedOf (r : Record) : Typed where
  id := r.id.text
  scheme := r.scheme.tag
  value := r.value.text
  resourceId := r.resource.map (·.text)
  resourceType := r.resourceType.code
  status := r.status.tag
  attention := r.attention
  version := r.version
  createdAt := r.createdAt.seconds
  updatedAt := r.updatedAt.seconds

theorem typed_ofRecord (r : Record) : (ofRecord r).typed = .ok (typedOf r) := by
  obtain ⟨id, value, resource, type, status, attention, version, created, updated⟩ := r
  cases resource <;> cases attention <;> rfl

section Typed

variable (r : Record)

theorem parse_id_typedOf : LocalId.parse .record (typedOf r).id = .ok r.id :=
  LocalId.parse_text r.id

theorem readValue_typedOf : (typedOf r).readValue r.id = .ok r.value := by
  simp [Typed.readValue, typedOf, IdentifierValue.parse_text, Scheme.ofTag?_tag, Record.scheme]

theorem readResource_typedOf : (typedOf r).readResource r.id = .ok r.resource := by
  cases h : r.resource <;> simp [Typed.readResource, typedOf, h, ResourceId.parse_text]

theorem ofCode?_typedOf : ResourceType.ofCode? (typedOf r).resourceType = some r.resourceType :=
  ResourceType.ofCode?_code r.resourceType

theorem ofTag?_typedOf : Status.ofTag? (typedOf r).status = some r.status :=
  Status.ofTag?_tag r.status

theorem readTime_createdAt_typedOf :
    readTime (typedOf r).createdAt = .ok r.createdAt.wholeSecond := by
  simp [readTime, typedOf, Instant.ofSeconds?_seconds]

theorem readTime_updatedAt_typedOf :
    readTime (typedOf r).updatedAt = .ok r.updatedAt.wholeSecond := by
  simp [readTime, typedOf, Instant.ofSeconds?_seconds]

theorem record_typedOf : (typedOf r).record = .ok r.stored := by
  simp only [Typed.record, bind, Except.bind, pure, Except.pure, parse_id_typedOf,
    readValue_typedOf, readResource_typedOf]
  rw [ofCode?_typedOf]
  simp only []
  rw [ofTag?_typedOf]
  simp only [readTime_createdAt_typedOf]
  rw [readTime_updatedAt_typedOf]
  rfl

end Typed

theorem record_ofRecord (r : Record) : (ofRecord r).record = .ok r.stored := by
  simp only [record, typed_ofRecord, bind, Except.bind, record_typedOf]

theorem stored_ofRecord (r : Record) : (ofRecord r).stored = ofRecord r := by
  obtain ⟨id, value, resource, type, status, attention, version, created, updated⟩ := r
  cases resource <;> cases attention <;> rfl

theorem vacancy?_ofRecord (r : Record) : (ofRecord r).vacancy? = none := by
  obtain ⟨id, value, resource, type, status, attention, version, created, updated⟩ := r
  cases resource <;> cases attention <;> rfl

theorem equals_text (s t : String) : Cell.equals (.text s) (.text t) = decide (s = t) := by
  simp [Cell.equals, bne, BEq.beq]

theorem hasId_ofRecord (r : Record) (id : RecordId) : (ofRecord r).hasId id = decide (r.id = id) := by
  rw [hasId, ofRecord, equals_text, decide_eq_decide]
  exact ⟨LocalId.text_injective, fun h => h ▸ rfl⟩

theorem hasStatus_ofRecord (r : Record) (s : Status) :
    (ofRecord r).hasStatus s = decide (r.status = s) := by
  rw [hasStatus, ofRecord, equals_text, decide_eq_decide]
  exact ⟨Status.tag_injective, fun h => h ▸ rfl⟩

theorem equals_value_ofRecord (r : Record) (v : IdentifierValue) :
    (ofRecord r).value.equals (.text v.text) = decide (r.value = v) := by
  rw [ofRecord, equals_text, decide_eq_decide]
  exact ⟨IdentifierValue.text_injective, fun h => h ▸ rfl⟩

theorem equals_scheme_ofRecord (r : Record) (s : Scheme) :
    (ofRecord r).scheme.equals (.text s.tag) = decide (r.scheme = s) := by
  rw [ofRecord, equals_text, decide_eq_decide]
  exact ⟨Scheme.tag_injective, fun h => h ▸ rfl⟩

theorem isBoundTo_ofRecord (r : Record) (resource : ResourceId) :
    (ofRecord r).isBoundTo resource = decide (r.resource = some resource) := by
  cases h : r.resource with
  | none => simp [isBoundTo, ofRecord, h, Cell.equals]
  | some bound =>
    simp only [isBoundTo, ofRecord, h, Option.map_some, Option.getD_some, equals_text,
      decide_eq_decide, Option.some.injEq]
    exact ⟨ResourceId.text_injective, fun h => h ▸ rfl⟩

theorem isLive_ofRecord (r : Record) : (ofRecord r).isLive = decide (r.status ≠ .deleted) := by
  cases h : r.status <;> simp [isLive, ofRecord, h, Status.tag]

theorem isLiveOf_ofRecord (r : Record) (resource : ResourceId) (scheme : Scheme) :
    ((ofRecord r).isBoundTo resource && (ofRecord r).scheme.equals (.text scheme.tag) &&
      (ofRecord r).isLive) =
      decide (r.resource = some resource ∧ r.scheme = scheme ∧ r.status ≠ .deleted) := by
  rw [isBoundTo_ofRecord, equals_scheme_ofRecord, isLive_ofRecord, ← Bool.decide_and,
    ← Bool.decide_and, decide_eq_decide, and_assoc]

theorem sharesResource_ofRecord (r s : Record) :
    (ofRecord r).sharesResource (ofRecord s) = decide (r.Rivals s) := by
  have hresource : (ofRecord r).resourceId.equals (ofRecord s).resourceId =
      decide (r.resource.isSome ∧ r.resource = s.resource) := by
    cases hs : s.resource with
    | none => cases hr : r.resource <;> simp [ofRecord, hr, hs, Cell.equals]
    | some bound =>
      have h := isBoundTo_ofRecord r bound
      rw [isBoundTo] at h
      simp only [ofRecord, hs, Option.map_some, Option.getD_some] at h ⊢
      rw [h, decide_eq_decide]
      exact ⟨fun h => by simp [h], fun h => h.2⟩
  have hscheme : (ofRecord r).scheme.equals (ofRecord s).scheme = decide (r.scheme = s.scheme) :=
    equals_scheme_ofRecord r s.scheme
  rw [sharesResource, isLive_ofRecord, isLive_ofRecord, hresource, hscheme, ← Bool.decide_and,
    ← Bool.decide_and, ← Bool.decide_and, decide_eq_decide]
  unfold Record.Rivals
  tauto

theorem updateFrom_ofRecord (r s : Record) :
    updateFrom r (ofRecord s) = ofRecord (s.overwrite r) := by
  cases h : r.resource <;>
    simp [updateFrom, ofRecord, Record.overwrite, Record.isOrphaned, Record.scheme, h,
      Instant.wholeSecond]

end Row

end IdentifierRegistrar
