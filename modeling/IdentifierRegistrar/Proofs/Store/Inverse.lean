import IdentifierRegistrar.Proofs.Store.Retryable

/-! Encoding and decoding a row are inverse. A row holds a record exactly if it is the encoding of that
record, but for how the ULID in its id and the UUID of its resource are spelled
(`Row.record_eq_ok_iff_encodes`); any other row is refused for what one of its columns holds
(`Row.exists_error_iff_faulty`). A record that was added is read back in whole seconds by every query
that answers with its row, until the row is written again (`Table.returns_of_mem`). -/

namespace IdentifierRegistrar

namespace Row

variable {row : Row} {s r : Record} {u : Typed}

/-- The row is the encoding of `s`, but for how the ULID in its id and the UUID of its resource are
spelled. Its times are whole seconds, and so are those of `s`. -/
structure Encodes (row : Row) (s : Record) : Prop where
  id : ∃ ulid, row.id = .text (IdKind.record.tag ++ "_" ++ ulid) ∧ Ulid.parse ulid.toList = .ok s.id.ulid
  unbound : s.resource = none → row.resourceId = .null
  bound : ∀ resource, s.resource = some resource →
    ∃ uuid, row.resourceId = .text uuid ∧ Uuid.parse uuid.toList = .ok resource.uuid
  columns : ∀ c, c ≠ .id → c ≠ .resourceId → row.get c = (ofRecord s).get c
  whole : s.stored = s

inductive Faulty (row : Row) : Prop
  | id (h : ∀ (ulid : String) (id : Ulid),
      row.id = .text (IdKind.record.tag ++ "_" ++ ulid) → Ulid.parse ulid.toList ≠ .ok id)
  | value (h : ∀ v : IdentifierValue, row.value ≠ .text v.text)
  /-- The scheme is not that of the value beside it. -/
  | scheme (v : IdentifierValue) (hv : row.value = .text v.text) (h : row.scheme ≠ .text v.scheme.tag)
  | resource (hbound : row.resourceId ≠ .null) (h : ∀ (uuid : String) (resource : Uuid),
      row.resourceId = .text uuid → Uuid.parse uuid.toList ≠ .ok resource)
  | resourceType (h : ∀ type : ResourceType, row.resourceType ≠ .int type.code)
  | status (h : ∀ status : Status, row.status ≠ .text status.tag)
  | attention (h : ∀ note : Option String, row.attention ≠ (note.map .text).getD .null)
  | version (h : ∀ n : Int, row.version ≠ .int n)
  | createdAt (h : ∀ time : Instant, row.createdAt ≠ .int time.seconds)
  | updatedAt (h : ∀ time : Instant, row.updatedAt ≠ .int time.seconds)

namespace Typed

theorem readValue_eq_ok_iff {id : RecordId} {v : IdentifierValue} :
    u.readValue id = .ok v ↔ u.value = v.text ∧ u.scheme = v.scheme.tag := by
  constructor
  · intro h
    unfold readValue at h
    split at h
    · cases h
    rename_i value hparse
    split at h
    · rename_i hscheme
      obtain rfl := Except.ok.inj h
      exact ⟨(IdentifierValue.text_of_parse hparse).symm, Scheme.ofTag?_eq_some_iff.1 hscheme⟩
    · cases h
  · rintro ⟨hvalue, hscheme⟩
    rw [readValue, hvalue, IdentifierValue.parse_text]
    simp only [hscheme, Scheme.ofTag?_tag, if_true]

theorem readResource_eq_ok_iff {id : RecordId} {resource : Option ResourceId} :
    u.readResource id = .ok resource ↔ (resource = none → u.resourceId = none) ∧
      ∀ b, resource = some b → ∃ uuid, u.resourceId = some uuid ∧ Uuid.parse uuid.toList = .ok b.uuid := by
  unfold readResource
  cases hcell : u.resourceId with
  | none => cases resource <;> simp
  | some uuid =>
    cases hparse : ResourceId.parse uuid with
    | error e =>
      have hno (b : ResourceId) : Uuid.parse uuid.toList ≠ .ok b.uuid := fun hb => by
        rw [ResourceId.parse_eq_ok_iff.2 hb] at hparse
        cases hparse
      simp only [hparse, corrupt]
      cases resource <;> simp [hno]
    | ok b =>
      have hb := ResourceId.parse_eq_ok_iff.1 hparse
      simp only [hparse]
      cases resource with
      | none => simp
      | some b' =>
        have hinj : b = b' ↔ b.uuid = b'.uuid := by
          cases b
          cases b'
          simp
        simp [hb, hinj]

theorem says_iff_encodes : u.Says s ↔ u.row.Encodes s := by
  constructor
  · intro h
    obtain ⟨ulid, hid, hulid⟩ := LocalId.parse_eq_ok_iff.1 h.id
    obtain ⟨hvalue, hscheme⟩ := readValue_eq_ok_iff.1 h.value
    obtain ⟨hunbound, hbound⟩ := readResource_eq_ok_iff.1 h.resource
    refine ⟨⟨ulid, congrArg Cell.text hid, hulid⟩, fun hs => ?_, fun resource hs => ?_, ?_, h.stored⟩
    · simp [row, hunbound hs]
    · obtain ⟨uuid, hcell, hparse⟩ := hbound resource hs
      exact ⟨uuid, by simp [row, hcell], hparse⟩
    · intro c hid hresource
      cases c with
      | id => exact absurd rfl hid
      | resourceId => exact absurd rfl hresource
      | scheme => exact congrArg Cell.text hscheme
      | value => exact congrArg Cell.text hvalue
      | resourceType => exact congrArg Cell.int (ResourceType.ofCode?_eq_some_iff.1 h.resourceType)
      | status => exact congrArg Cell.text (Status.ofTag?_eq_some_iff.1 h.status)
      | attention => exact congrArg (fun note => (Option.map Cell.text note).getD .null) h.attention
      | version => exact congrArg Cell.int h.version
      | createdAt => exact congrArg Cell.int (readTime_eq_ok_iff.1 h.createdAt).1
      | updatedAt => exact congrArg Cell.int (readTime_eq_ok_iff.1 h.updatedAt).1
  · intro h
    have hcell (c : Column) (hid : c ≠ .id) (hresource : c ≠ .resourceId) := h.columns c hid hresource
    obtain ⟨ulid, hid, hulid⟩ := h.id
    have hcreated : s.createdAt.wholeSecond = s.createdAt := congrArg Record.createdAt h.whole
    have hupdated : s.updatedAt.wholeSecond = s.updatedAt := congrArg Record.updatedAt h.whole
    refine ⟨LocalId.parse_eq_ok_iff.2 ⟨ulid, Cell.text.inj hid, hulid⟩, ?_, ?_, ?_, ?_, ?_, ?_, ?_, ?_⟩
    · exact readValue_eq_ok_iff.2 ⟨Cell.text.inj (hcell .value (by simp) (by simp)),
        Cell.text.inj (hcell .scheme (by simp) (by simp))⟩
    · refine readResource_eq_ok_iff.2 ⟨fun hs => ?_, fun b hs => ?_⟩
      · have hnull := h.unbound hs
        cases hr : u.resourceId with
        | none => rfl
        | some uuid => simp [row, hr] at hnull
      · obtain ⟨uuid, htext, hparse⟩ := h.bound b hs
        cases hr : u.resourceId with
        | none => simp [row, hr] at htext
        | some uuid' =>
          obtain rfl : uuid' = uuid := by simpa [row, hr] using htext
          exact ⟨uuid', rfl, hparse⟩
    · exact ResourceType.ofCode?_eq_some_iff.2 (Cell.int.inj (hcell .resourceType (by simp) (by simp)))
    · exact Status.ofTag?_eq_some_iff.2 (Cell.text.inj (hcell .status (by simp) (by simp)))
    · have hnote := hcell .attention (by simp) (by simp)
      cases hu : u.attention <;> cases hs : s.attention <;> simp_all [get, row, ofRecord]
    · exact Cell.int.inj (hcell .version (by simp) (by simp))
    · exact readTime_eq_ok_iff.2 ⟨Cell.int.inj (hcell .createdAt (by simp) (by simp)), hcreated⟩
    · exact readTime_eq_ok_iff.2 ⟨Cell.int.inj (hcell .updatedAt (by simp) (by simp)), hupdated⟩

end Typed

/-- The cells of an encoding have the types of their columns. -/
theorem Encodes.exists_typed (h : row.Encodes s) : ∃ u : Typed, row = u.row := by
  obtain ⟨ulid, hid, -⟩ := h.id
  have hresource : ∃ uuid : Option String, row.resourceId = (uuid.map .text).getD .null := by
    cases hs : s.resource with
    | none => exact ⟨none, h.unbound hs⟩
    | some b =>
      obtain ⟨uuid, hcell, -⟩ := h.bound b hs
      exact ⟨some uuid, hcell⟩
  obtain ⟨uuid, hresource⟩ := hresource
  refine ⟨{ typedOf s with id := IdKind.record.tag ++ "_" ++ ulid, resourceId := uuid }, ?_⟩
  have hcell (c : Column) (hid : c ≠ .id) (hresource : c ≠ .resourceId) := h.columns c hid hresource
  obtain ⟨idCell, scheme, value, resource, type, status, attention, version, created, updated⟩ := row
  rw [Typed.row, mk.injEq]
  exact ⟨hid, hcell .scheme (by simp) (by simp), hcell .value (by simp) (by simp), hresource,
    hcell .resourceType (by simp) (by simp), hcell .status (by simp) (by simp),
    hcell .attention (by simp) (by simp), hcell .version (by simp) (by simp),
    hcell .createdAt (by simp) (by simp), hcell .updatedAt (by simp) (by simp)⟩

/-- A row is a record if it is the encoding of that record, and otherwise it is none. -/
theorem record_eq_ok_iff_encodes : row.record = .ok s ↔ row.Encodes s := by
  constructor
  · intro h
    obtain ⟨u, rfl, hu⟩ := record_eq_ok_iff.1 h
    exact Typed.says_iff_encodes.1 hu
  · intro h
    obtain ⟨u, rfl⟩ := h.exists_typed
    exact record_eq_ok_iff.2 ⟨u, rfl, Typed.says_iff_encodes.2 h⟩

theorem Encodes.not_faulty (h : row.Encodes s) : ¬ row.Faulty := by
  have hcell (c : Column) (hid : c ≠ .id) (hresource : c ≠ .resourceId) := h.columns c hid hresource
  have hvalue : row.value = .text s.value.text := hcell .value (by simp) (by simp)
  intro hfault
  cases hfault with
  | id hno =>
    obtain ⟨ulid, hid, hulid⟩ := h.id
    exact hno ulid _ hid hulid
  | value hno => exact hno s.value hvalue
  | scheme v hv hno =>
    obtain rfl : v = s.value := IdentifierValue.text_injective (Cell.text.inj (hv.symm.trans hvalue))
    exact hno (hcell .scheme (by simp) (by simp))
  | resource hbound hno =>
    cases hs : s.resource with
    | none => exact hbound (h.unbound hs)
    | some b =>
      obtain ⟨uuid, htext, hparse⟩ := h.bound b hs
      exact hno uuid _ htext hparse
  | resourceType hno => exact hno s.resourceType (hcell .resourceType (by simp) (by simp))
  | status hno => exact hno s.status (hcell .status (by simp) (by simp))
  | attention hno => exact hno s.attention (hcell .attention (by simp) (by simp))
  | version hno => exact hno s.version (hcell .version (by simp) (by simp))
  | createdAt hno => exact hno s.createdAt (hcell .createdAt (by simp) (by simp))
  | updatedAt hno => exact hno s.updatedAt (hcell .updatedAt (by simp) (by simp))

/-- A row without a fault is the encoding of some record. -/
theorem exists_encodes (h : ¬ row.Faulty) : ∃ s, row.Encodes s := by
  obtain ⟨ulid, id, hid, hulid⟩ : ∃ (ulid : String) (id : Ulid),
      row.id = .text (IdKind.record.tag ++ "_" ++ ulid) ∧ Ulid.parse ulid.toList = .ok id := by
    by_contra hno
    exact h (.id fun ulid id hid hulid => hno ⟨ulid, id, hid, hulid⟩)
  obtain ⟨v, hvalue⟩ : ∃ v : IdentifierValue, row.value = .text v.text := by
    by_contra hno
    exact h (.value fun v hv => hno ⟨v, hv⟩)
  have hscheme : row.scheme = .text v.scheme.tag := by
    by_contra hno
    exact h (.scheme v hvalue hno)
  obtain ⟨resource, hunbound, hbound⟩ : ∃ resource : Option ResourceId,
      (resource = none → row.resourceId = .null) ∧ ∀ b, resource = some b →
        ∃ uuid, row.resourceId = .text uuid ∧ Uuid.parse uuid.toList = .ok b.uuid := by
    by_cases hnull : row.resourceId = .null
    · exact ⟨none, fun _ => hnull, by simp⟩
    · by_contra hno
      refine h (.resource hnull fun uuid resource htext hparse => hno ⟨some ⟨resource⟩, by simp, ?_⟩)
      rintro b ⟨⟩
      exact ⟨uuid, htext, hparse⟩
  obtain ⟨type, htype⟩ : ∃ type : ResourceType, row.resourceType = .int type.code := by
    by_contra hno
    exact h (.resourceType fun type htype => hno ⟨type, htype⟩)
  obtain ⟨status, hstatus⟩ : ∃ status : Status, row.status = .text status.tag := by
    by_contra hno
    exact h (.status fun status hstatus => hno ⟨status, hstatus⟩)
  obtain ⟨note, hnote⟩ : ∃ note : Option String, row.attention = (note.map .text).getD .null := by
    by_contra hno
    exact h (.attention fun note hnote => hno ⟨note, hnote⟩)
  obtain ⟨version, hversion⟩ : ∃ n : Int, row.version = .int n := by
    by_contra hno
    exact h (.version fun n hn => hno ⟨n, hn⟩)
  obtain ⟨created, hcreated⟩ : ∃ time : Instant, row.createdAt = .int time.seconds := by
    by_contra hno
    exact h (.createdAt fun time htime => hno ⟨time, htime⟩)
  obtain ⟨updated, hupdated⟩ : ∃ time : Instant, row.updatedAt = .int time.seconds := by
    by_contra hno
    exact h (.updatedAt fun time htime => hno ⟨time, htime⟩)
  refine ⟨⟨⟨id⟩, v, resource, type, status, note, version, created.wholeSecond, updated.wholeSecond⟩,
    ⟨ulid, hid, hulid⟩, hunbound, hbound, fun c hc hc' => ?_, rfl⟩
  cases c with
  | id => exact absurd rfl hc
  | resourceId => exact absurd rfl hc'
  | scheme => exact hscheme
  | value => exact hvalue
  | resourceType => exact htype
  | status => exact hstatus
  | attention => exact hnote
  | version => exact hversion
  | createdAt => exact hcreated
  | updatedAt => exact hupdated

theorem exists_error_iff_faulty : (∃ e, row.record = .error e) ↔ row.Faulty := by
  constructor
  · rintro ⟨e, he⟩
    by_contra hfault
    obtain ⟨s, hs⟩ := exists_encodes hfault
    rw [record_eq_ok_iff_encodes.2 hs] at he
    cases he
  · intro hfault
    cases hrecord : row.record with
    | error e => exact ⟨e, rfl⟩
    | ok s => exact absurd hfault (record_eq_ok_iff_encodes.1 hrecord).not_faulty

end Row

namespace Store

/-- Tables that calls lead to from `t`, of which none writes to `id`. -/
inductive Spares (id : RecordId) (t : Table) : Table → Prop
  | refl : Spares id t t
  | call {u : Table} (h : Spares id t u) (call : Call)
      (hcall : ∀ d a, call = .update d → (answer u (.update d)).1 = .ok a → d.id ≠ id) :
      Spares id t (answer u call).2

theorem Spares.kept {id : RecordId} {t u : Table} {row : Row} (h : Spares id t u) (ht : t.Sound)
    (hrow : row ∈ t) (hid : row.hasId id = true) : u.Sound ∧ row ∈ u := by
  induction h with
  | refl => exact ⟨ht, hrow⟩
  | call h call hcall ih => exact ih.1.answer ih.2 hid hcall

end Store

namespace Table

variable {t t' u : Table} {r : Record} {row : Row}

/-- What queries answer about the record `r`: the record itself, in whole seconds. -/
structure Returns (t : Table) (r : Record) : Prop where
  get : t.get? r.id = .ok (some r.stored)
  findByValue : t.findByValue? r.value = .ok (some r.stored)
  findLive : ∀ resource scheme, t.findLive? resource scheme = .ok (some r.stored) ↔
    r.resource = some resource ∧ r.scheme = scheme ∧ r.status ≠ .deleted
  found : ∀ resource scheme s, t.findLive? resource scheme = .ok (some s) → s.value = r.value →
    s = r.stored
  listByResource : ∀ resource rs, t.listByResource resource = .ok rs →
    (∀ s ∈ rs, s.value = r.value → s = r.stored) ∧ (r.stored ∈ rs ↔ r.resource = some resource)
  listByStatus : ∀ statuses rs, t.listByStatus statuses = .ok rs →
    (∀ s ∈ rs, s.value = r.value → s = r.stored) ∧ (r.stored ∈ rs ↔ r.status ∈ statuses)

theorem Sound.eq_of_value (h : t.Sound) {row' : Row} {v : IdentifierValue} (hrow : row ∈ t) (hrow' : row' ∈ t)
    (hv : row.value = .text v.text) (hv' : row'.value = .text v.text) : row = row' := by
  have hsymm : Std.Symm fun r s : Row => ¬ r.Clashes s := ⟨fun _ _ h h' => h h'.symm⟩
  by_contra hne
  refine h.forall hrow hrow' hne (.inr (.inl (Cell.equals_iff.2 ⟨?_, hv.trans hv'.symm⟩)))
  simp [hv]

theorem Sound.eq_ofRecord (h : t.Sound) (hr : Row.ofRecord r ∈ t) {s : Record} (hrow : row ∈ t)
    (hrecord : row.record = .ok s) (hvalue : s.value = r.value) : row = Row.ofRecord r ∧ s = r.stored := by
  have hcell : row.value = .text r.value.text := by rw [Row.value_of_record hrecord, hvalue]
  obtain rfl := h.eq_of_value hrow hr hcell rfl
  rw [Row.record_ofRecord] at hrecord
  exact ⟨rfl, (Except.ok.inj hrecord).symm⟩

/-- What a listing answers that reads the row of `r`, and one that does not. -/
theorem Sound.listed (h : t.Sound) (hr : Row.ofRecord r ∈ t) {rows : Table} {rs : List Record}
    (hrows : ∀ row ∈ rows, row ∈ t) (hrs : records rows = .ok rs) :
    (∀ s ∈ rs, s.value = r.value → s = r.stored) ∧ (r.stored ∈ rs ↔ Row.ofRecord r ∈ rows) := by
  refine ⟨fun s hs hvalue => ?_, fun hmem => ?_, fun hmem => ?_⟩
  · obtain ⟨row, hrow, hrecord⟩ := exists_row_of_records hrs hs
    exact (h.eq_ofRecord hr (hrows row hrow) hrecord hvalue).2
  · obtain ⟨row, hrow, hrecord⟩ := exists_row_of_records hrs hmem
    obtain ⟨rfl, -⟩ := h.eq_ofRecord hr (hrows row hrow) hrecord rfl
    exact hrow
  · obtain ⟨s, hs, hrecord⟩ := exists_record_of_records hrs hmem
    rw [Row.record_ofRecord] at hrecord
    rwa [Except.ok.inj hrecord]

/-- The row of a record is answered with that record, whatever the other rows are. -/
theorem returns_of_mem (h : t.Sound) (hr : Row.ofRecord r ∈ t) : t.Returns r where
  get := by
    have hid : (Row.ofRecord r).hasId r.id = true := by simp [Row.hasId_ofRecord]
    have hshows : t.Shows r.stored := ⟨h, Row.ofRecord r, hr, hid, Row.record_ofRecord r⟩
    exact hshows.get?
  findByValue := by
    have hrow : ((Row.ofRecord r).value.equals (.text r.value.text)) = true := by
      simp [Row.equals_value_ofRecord]
    have hone := h.filter_eq_singleton (p := fun row => row.value.equals (.text r.value.text)) hr hrow
      fun s _ hs => .inr (.inl (Cell.equals_iff.2 ⟨(Cell.equals_iff.1 hs).1, (Cell.equals_iff.1 hs).2⟩))
    rw [findByValue?, hone, firstRecord?, Row.record_ofRecord]
    rfl
  findLive resource scheme := by
    have hholds : (Row.ofRecord r).holds resource scheme = _ := Row.holds_ofRecord r
    constructor
    · intro hfind
      obtain ⟨row, hrow, hrow', hrecord⟩ := exists_row_of_findLive? hfind
      obtain ⟨rfl, -⟩ := h.eq_ofRecord hr hrow hrecord rfl
      rw [hholds] at hrow'
      exact of_decide_eq_true hrow'
    · intro hlive
      rw [decide_eq_true hlive] at hholds
      have hone := h.filter_holds hr hholds
      change firstRecord? ((t.filter (Row.holds resource scheme)).mergeSort _) = _
      rw [hone, List.mergeSort_singleton, firstRecord?, Row.record_ofRecord]
      rfl
  found resource scheme s hfind hvalue := by
    obtain ⟨row, hrow, -, hrecord⟩ := exists_row_of_findLive? hfind
    exact (h.eq_ofRecord hr hrow hrecord hvalue).2
  listByResource resource rs hrs := by
    have hlisted := h.listed hr (fun row hrow => List.mem_of_mem_filter (List.mem_mergeSort.1 hrow)) hrs
    refine ⟨hlisted.1, hlisted.2.trans ?_⟩
    rw [List.mem_mergeSort, List.mem_filter, Row.isBoundTo_ofRecord, decide_eq_true_eq]
    exact and_iff_right hr
  listByStatus statuses rs hrs := by
    obtain ⟨rs', hrs', hsorted⟩ := Except.bind_eq_ok_iff.1 hrs
    obtain rfl := Except.ok.inj hsorted
    have hlisted := h.listed hr (fun row hrow => (mem_rowsAt.1 hrow).1) hrs'
    simp only [List.mem_mergeSort]
    refine ⟨hlisted.1, hlisted.2.trans ?_⟩
    have hstatuses : (∃ status ∈ statuses, (Row.ofRecord r).hasStatus status = true) ↔
        r.status ∈ statuses := by simp [Row.hasStatus_ofRecord]
    exact mem_rowsAt.trans ((and_iff_right hr).trans hstatuses)

/-- Encoding and decoding are inverse. A record that was added is read back in whole seconds until its
row is written again, and a row is a record only as the encoding of it. -/
theorem encoding_inverse (ht : t.Sound) (hadd : t.insertRecord r = .ok t') (hu : Store.Spares r.id t' u) :
    u.Returns r ∧ ∀ row : Row, (∀ s, row.record = .ok s ↔ row.Encodes s) ∧
      ((∃ e, row.record = .error e) ↔ row.Faulty) := by
  have hadded : Row.ofRecord r ∈ t' := by simp [(append_of_insertRecord hadd).1]
  have hid : (Row.ofRecord r).hasId r.id = true := by simp [Row.hasId_ofRecord]
  obtain ⟨hsound, hmem⟩ := hu.kept (ht.insertRecord hadd).1 hadded hid
  exact ⟨returns_of_mem hsound hmem, fun row =>
    ⟨fun s => Row.record_eq_ok_iff_encodes, Row.exists_error_iff_faulty⟩⟩

section Sample

def sampleReleased : Record :=
  ⟨⟨7⟩, ⟨.doi, "doi:10.1/released", by decide⟩, none, .collection, .deleted, some "gone", 3,
    ⟨5, 250, by decide, by decide, by decide⟩, ⟨6, 750, by decide, by decide, by decide⟩⟩

def sampleLeaving : Record :=
  ⟨⟨8⟩, ⟨.dark, "dark:/n/leaving", by decide⟩, some ⟨0⟩, .item, .toBeDeleted, none, 4, .epoch, .epoch⟩

/-- The first stands as it was added while the second is deleted. -/
theorem sampleReleased_returned :
    Sound [Row.ofRecord sampleLeaving] ∧
      insertRecord [Row.ofRecord sampleLeaving] sampleReleased =
        .ok ([sampleLeaving, sampleReleased].map Row.ofRecord) ∧
      Store.Spares sampleReleased.id ([sampleLeaving, sampleReleased].map Row.ofRecord)
        ([{ sampleLeaving with status := .deleted, version := 5 }, sampleReleased].map Row.ofRecord) ∧
      Returns ([{ sampleLeaving with status := .deleted, version := 5 }, sampleReleased].map Row.ofRecord)
        sampleReleased := by
  have hsound : Sound [Row.ofRecord sampleLeaving] := List.pairwise_singleton _ _
  have hadd : insertRecord [Row.ofRecord sampleLeaving] sampleReleased =
      .ok ([sampleLeaving, sampleReleased].map Row.ofRecord) := by decide +kernel
  have hleft : (Store.answer ([sampleLeaving, sampleReleased].map Row.ofRecord)
      (.update { sampleLeaving with status := .deleted })).2 =
      [{ sampleLeaving with status := .deleted, version := 5 }, sampleReleased].map Row.ofRecord := by decide +kernel
  have hspares : Store.Spares sampleReleased.id ([sampleLeaving, sampleReleased].map Row.ofRecord)
      ([{ sampleLeaving with status := .deleted, version := 5 }, sampleReleased].map Row.ofRecord) := by
    rw [← hleft]
    refine .call .refl _ ?_
    rintro d a ⟨⟩ -
    decide
  exact ⟨hsound, hadd, hspares, (encoding_inverse hsound hadd hspares).1⟩

end Sample

end Table

end IdentifierRegistrar
