import IdentifierRegistrar.Proofs.Store.Revision

/-! Rows that decode, whoever wrote them. A row is read in two stages, and each can be turned round:
the cells of a row with the right types are those of what was read (`typed_eq_ok_iff`), and what was
read says of the record what `Typed.Says` lists. So writing a record over a row that decodes leaves a
row that decodes (`overwrite_record`), also where the texts in it were spelled by hand. -/

namespace IdentifierRegistrar

theorem Except.bind_eq_ok_iff {ε α β : Type} {x : Except ε α} {f : α → Except ε β} {b : β} :
    (x >>= f) = .ok b ↔ ∃ a, x = .ok a ∧ f a = .ok b := by
  cases x with
  | error e => simp [bind, Except.bind]
  | ok a => simp [bind, Except.bind]

namespace Row

def Typed.row (u : Typed) : Row where
  id := .text u.id
  scheme := .text u.scheme
  value := .text u.value
  resourceId := (u.resourceId.map .text).getD .null
  resourceType := .int u.resourceType
  status := .text u.status
  attention := (u.attention.map .text).getD .null
  version := .int u.version
  createdAt := .int u.createdAt
  updatedAt := .int u.updatedAt

theorem readText_eq_ok_iff {row : Row} {c : Column} {s : String} :
    row.readText c = .ok s ↔ row.get c = .text s := by
  unfold readText
  cases row.get c <;> simp

theorem readInt_eq_ok_iff {row : Row} {c : Column} {n : Int} :
    row.readInt c = .ok n ↔ row.get c = .int n := by
  unfold readInt
  cases row.get c <;> simp

theorem readOptionalText_eq_ok_iff {row : Row} {c : Column} {s : Option String} :
    row.readOptionalText c = .ok s ↔ row.get c = (s.map .text).getD .null := by
  unfold readOptionalText
  cases s <;> cases row.get c <;> simp

theorem typed_eq_ok_iff {row : Row} {u : Typed} : row.typed = .ok u ↔ row = u.row := by
  constructor
  · intro h
    simp only [typed, Except.bind_eq_ok_iff, readText_eq_ok_iff, readInt_eq_ok_iff,
      readOptionalText_eq_ok_iff, get] at h
    obtain ⟨_, h₁, _, h₂, _, h₃, _, h₄, _, h₅, _, h₆, _, h₇, _, h₈, _, h₉, _, h₁₀, h⟩ := h
    obtain rfl := Except.ok.inj h
    obtain ⟨id, scheme, value, resource, type, status, attention, version, created, updated⟩ := row
    simp only at h₁ h₂ h₃ h₄ h₅ h₆ h₇ h₈ h₉ h₁₀
    rw [h₁, h₂, h₃, h₄, h₅, h₆, h₇, h₈, h₉, h₁₀]
    rfl
  · rintro rfl
    obtain ⟨id, scheme, value, resource, type, status, attention, version, created, updated⟩ := u
    cases resource <;> cases attention <;> rfl

namespace Typed

variable {u : Typed} {s d : Record}

structure Says (u : Typed) (s : Record) : Prop where
  id : LocalId.parse .record u.id = .ok s.id
  value : u.readValue s.id = .ok s.value
  resource : u.readResource s.id = .ok s.resource
  resourceType : ResourceType.ofCode? u.resourceType = some s.resourceType
  status : Status.ofTag? u.status = some s.status
  attention : u.attention = s.attention
  version : u.version = s.version
  createdAt : readTime u.createdAt = .ok s.createdAt
  updatedAt : readTime u.updatedAt = .ok s.updatedAt

theorem record_eq_ok_iff : u.record = .ok s ↔ u.Says s := by
  constructor
  · intro h
    unfold record at h
    cases hid : LocalId.parse .record u.id with
    | error e => simp [hid, corrupt, bind, Except.bind] at h
    | ok id =>
    simp only [hid, pure, Except.pure, Except.bind_eq_ok_iff, Except.ok.injEq,
      exists_eq_left'] at h
    obtain ⟨value, hvalue, resource, hresource, h⟩ := h
    split at h
    · rename_i type htype
      split at h
      · rename_i status hstatus
        simp only [Except.bind_eq_ok_iff, Except.ok.injEq] at h
        obtain ⟨created, hcreated, updated, hupdated, rfl⟩ := h
        exact ⟨hid, hvalue, hresource, htype, hstatus, rfl, rfl, hcreated, hupdated⟩
      · cases h
    · cases h
  · intro h
    obtain ⟨id, value, resource, type, status, attention, version, created, updated⟩ := s
    obtain ⟨hid, hvalue, hresource, htype, hstatus, hattention, hversion, hcreated, hupdated⟩ := h
    simp only at hid hvalue hresource htype hstatus hattention hversion hcreated hupdated
    simp only [record, bind, Except.bind, pure, Except.pure, hid, hvalue, hresource]
    rw [htype]
    simp only []
    rw [hstatus]
    simp only [hcreated]
    rw [hupdated, hattention, hversion]

theorem readTime_eq_ok {seconds : Int} {t : Instant} (h : readTime seconds = .ok t) :
    t.wholeSecond = t := by
  unfold readTime at h
  split at h
  · rename_i t' ht
    obtain rfl := Except.ok.inj h
    obtain ⟨-, hnanos⟩ := Instant.seconds_of_ofSeconds? ht
    obtain ⟨s, n, hl, hg, hn⟩ := t'
    simp only at hnanos
    subst hnanos
    rfl
  · cases h

theorem readTime_eq_ok_iff {seconds : Int} {t : Instant} :
    readTime seconds = .ok t ↔ seconds = t.seconds ∧ t.wholeSecond = t := by
  constructor
  · intro h
    refine ⟨?_, readTime_eq_ok h⟩
    unfold readTime at h
    split at h
    · rename_i ht
      obtain rfl := Except.ok.inj h
      exact (Instant.seconds_of_ofSeconds? ht).1.symm
    · cases h
  · rintro ⟨rfl, h⟩
    rw [readTime, Instant.ofSeconds?_seconds, h]

theorem Says.stored (h : u.Says s) : s.stored = s := by
  have hcreated := readTime_eq_ok h.createdAt
  have hupdated := readTime_eq_ok h.updatedAt
  simp only [Record.stored, hcreated, hupdated]

def overwrite (u : Typed) (d : Record) : Typed :=
  { u with
    resourceId := if d.isOrphaned then none else u.resourceId
    status := d.status.tag
    attention := d.attention
    version := nextVersion d.version
    updatedAt := d.updatedAt.seconds }

theorem updateFrom_row (u : Typed) (d : Record) : updateFrom d u.row = (u.overwrite d).row := by
  cases h : d.isOrphaned <;> simp [updateFrom, row, overwrite, h]

theorem Says.overwrite (h : u.Says s) (d : Record) : (u.overwrite d).Says (s.overwrite d) where
  id := h.id
  value := h.value
  resource := by
    cases hd : d.isOrphaned
    · simp only [Typed.overwrite, Record.overwrite, hd, Bool.false_eq_true, if_false]
      exact h.resource
    · simp [Typed.overwrite, Record.overwrite, hd, readResource]
  resourceType := h.resourceType
  status := Status.ofTag?_tag d.status
  attention := rfl
  version := rfl
  createdAt := h.createdAt
  updatedAt := by simp [readTime, Typed.overwrite, Record.overwrite, Instant.ofSeconds?_seconds]

theorem stored_row (u : Typed) : u.row.stored = u.row := by
  obtain ⟨id, scheme, value, resource, type, status, attention, version, created, updated⟩ := u
  cases resource <;> cases attention <;> rfl

theorem vacancy?_row (u : Typed) : u.row.vacancy? = none := by
  obtain ⟨id, scheme, value, resource, type, status, attention, version, created, updated⟩ := u
  cases resource <;> cases attention <;> rfl

end Typed

variable {row : Row} {s d : Record}

theorem record_eq_ok_iff : row.record = .ok s ↔ ∃ u : Typed, row = u.row ∧ u.Says s := by
  simp only [record, Except.bind_eq_ok_iff, typed_eq_ok_iff, Typed.record_eq_ok_iff]

theorem stored_of_record (h : row.record = .ok s) : s.stored = s := by
  obtain ⟨u, -, hu⟩ := record_eq_ok_iff.1 h
  exact hu.stored

/-- A record written over a row that decodes: the row that is left decodes. -/
theorem overwrite_record (h : row.record = .ok s) (d : Record) :
    (updateFrom d row).record = .ok (s.overwrite d) := by
  obtain ⟨u, rfl, hu⟩ := record_eq_ok_iff.1 h
  exact record_eq_ok_iff.2 ⟨u.overwrite d, u.updateFrom_row d, hu.overwrite d⟩

theorem stored_updateFrom (h : row.record = .ok s) (d : Record) :
    (updateFrom d row).stored = updateFrom d row := by
  obtain ⟨u, rfl, -⟩ := record_eq_ok_iff.1 h
  rw [u.updateFrom_row, Typed.stored_row]

theorem vacancy?_updateFrom (h : row.record = .ok s) (d : Record) :
    (updateFrom d row).vacancy? = none := by
  obtain ⟨u, rfl, -⟩ := record_eq_ok_iff.1 h
  rw [u.updateFrom_row, Typed.vacancy?_row]

theorem version_of_record (h : row.record = .ok s) : row.version = .int s.version := by
  obtain ⟨u, rfl, hu⟩ := record_eq_ok_iff.1 h
  rw [← hu.version]
  rfl

theorem value_of_record (h : row.record = .ok s) : row.value = .text s.value.text := by
  obtain ⟨u, rfl, hu⟩ := record_eq_ok_iff.1 h
  have hvalue := hu.value
  unfold Typed.readValue at hvalue
  split at hvalue
  · cases hvalue
  · rename_i value hparse
    split at hvalue
    · obtain rfl := Except.ok.inj hvalue
      rw [IdentifierValue.text_of_parse hparse]
      rfl
    · cases hvalue

theorem hasStatus_iff_of_record (h : row.record = .ok s) (status : Status) :
    row.hasStatus status = true ↔ s.status = status := by
  obtain ⟨u, rfl, hu⟩ := record_eq_ok_iff.1 h
  rw [hasStatus, Typed.row, equals_text, decide_eq_true_eq]
  constructor
  · intro ht
    have hs := hu.status
    rw [ht, Status.ofTag?_tag] at hs
    exact (Option.some.inj hs).symm
  · rintro rfl
    exact Status.ofTag?_eq_some_iff.1 hu.status

end Row

end IdentifierRegistrar
