import IdentifierRegistrar.Proofs.Agency.Released
import IdentifierRegistrar.Proofs.Identifier.Spelling
import Mathlib.Data.List.Sort

/-!
What a payload says of a resource, and which names a list asks for. Each part of a payload is there
exactly when the policy and the resource give rise to it, and says then what the resource says first;
nothing else has a part in it. A list asks for the names between its commas, whatever their order and
number and the blanks around them (`Payload.build_exact`).
-/

namespace IdentifierRegistrar

def Resource.First (r : Resource) (field value : String) : Prop :=
  ∃ before after, r.metadata = before ++ ⟨field, value⟩ :: after ∧ ∀ entry ∈ before, entry.field ≠ field

namespace Resource

variable {r r' : Resource} {field value : String}

theorem firstValue?_eq_some_iff : r.firstValue? field = some value ↔ r.First field value := by
  rw [firstValue?, Option.map_eq_some_iff]
  constructor
  · rintro ⟨⟨f, v⟩, hfind, rfl⟩
    obtain ⟨hfield, before, after, hmetadata, hbefore⟩ := List.find?_eq_some_iff_append.1 hfind
    obtain rfl : f = field := by simpa using hfield
    exact ⟨before, after, hmetadata, fun entry hentry => by simpa using hbefore entry hentry⟩
  · rintro ⟨before, after, hmetadata, hbefore⟩
    refine ⟨⟨field, value⟩, List.find?_eq_some_iff_append.2 ⟨by simp, before, after, hmetadata, ?_⟩, rfl⟩
    intro entry hentry
    simpa using hbefore entry hentry

theorem isSome_firstValue?_iff :
    (r.firstValue? field).isSome = true ↔ ∃ entry ∈ r.metadata, entry.field = field := by
  simp [firstValue?]

/-- The entries for other fields do not count. -/
theorem firstValue?_filter {fields : List String} (h : field ∈ fields) :
    ((r.metadata.filter (·.field ∈ fields)).find? (·.field == field)).map (·.value) =
      r.firstValue? field := by
  rw [List.find?_filter, firstValue?]
  congr 2
  funext entry
  by_cases hfield : entry.field = field
  · simp [hfield, h]
  · simp [hfield]

end Resource

/-- The year that a date begins with: four digits, or else the whole text. -/
inductive Dated (issued : String) : String → Prop
  | digits {lead rest : List Char} (h : issued.toList = lead ++ rest) (hlength : lead.length = 4)
      (hdigits : ∀ c ∈ lead, c.isDigit = true) : Dated issued (String.ofList lead)
  | whole (h : ∀ lead rest, issued.toList = lead ++ rest → lead.length = 4 → ∃ c ∈ lead, c.isDigit = false) :
      Dated issued issued

namespace Text

theorem isDigit_eq_false {c : Char} (hc : ¬c.toNat < 128) : c.isDigit = false := by
  rw [Bool.eq_false_iff]
  intro h
  simp only [Char.isDigit, Bool.and_eq_true, decide_eq_true_eq] at h
  have : c.toNat ≤ 57 := h.2
  omega

theorem utf8Size_eq_one {c : Char} (hc : c.isDigit = true) : c.utf8Size = 1 := by
  by_cases h : c.toNat < 128
  · exact forall_ascii (p := fun c => c.utf8Size = 1) (by decide) h
  · rw [isDigit_eq_false h] at hc
    cases hc

/-- The bytes of a character are those of digits only if the character is a digit. -/
theorem all_utf8EncodeChar (c : Char) :
    ((String.utf8EncodeChar c).all fun b => 0x30 ≤ b && b ≤ 0x39) = c.isDigit := by
  by_cases h : c.toNat < 128
  · exact forall_ascii
      (p := fun c => ((String.utf8EncodeChar c).all fun b => 0x30 ≤ b && b ≤ 0x39) = c.isDigit)
      (by decide) h
  · have hvalue : ¬c.val.toNat ≤ 127 := fun hle => h (Nat.lt_succ_of_le hle)
    have hlarge (n : Nat) (hlow : 58 ≤ n) (hhigh : n < 256) (bs : List UInt8) :
        ((UInt8.ofNat n :: bs).all fun b => 0x30 ≤ b && b ≤ 0x39) = false := by
      have hnot : ¬UInt8.ofNat n ≤ 0x39 := by
        rw [UInt8.le_iff_toNat_le, UInt8.toNat_ofNat', Nat.mod_eq_of_lt hhigh, Nat.not_le]
        exact hlow
      simp [hnot]
    rw [isDigit_eq_false h, String.utf8EncodeChar]
    simp only [hvalue, if_false]
    split
    · exact hlarge _ (by omega) (by omega) _
    split
    · exact hlarge _ (by omega) (by omega) _
    · exact hlarge _ (by omega) (by omega) _

theorem all_flatMap_utf8EncodeChar {cs : List Char} :
    ((cs.flatMap String.utf8EncodeChar).all fun b => 0x30 ≤ b && b ≤ 0x39) = true ↔
      ∀ c ∈ cs, c.isDigit = true := by
  simp only [List.all_flatMap, all_utf8EncodeChar, List.all_eq_true]

theorem takeBytes?_of_digits {lead rest : List Char} (h : ∀ c ∈ lead, c.isDigit = true) :
    takeBytes? lead.length (lead ++ rest) = some lead := by
  rw [takeBytes?_eq_some_iff]
  exact ⟨rest, rfl, utf8ByteSize_ofList fun c hc => utf8Size_eq_one (h c hc)⟩

end Text

namespace Payload

/-- Four digits are four bytes, and where the first four bytes are digits four characters are. -/
theorem dated_yearOf (issued : String) : Dated issued (yearOf issued) := by
  have hwhole (h : ∀ lead, Text.takeBytes? 4 issued.toList = some lead → ∃ c ∈ lead, c.isDigit = false) :
      Dated issued issued := by
    refine .whole fun lead rest hlead hlength => ?_
    by_contra hnone
    have hdigits : ∀ c ∈ lead, c.isDigit = true := by simpa using hnone
    have htake : Text.takeBytes? 4 issued.toList = some lead := by
      rw [hlead, ← hlength, Text.takeBytes?_of_digits hdigits]
    exact hnone (h lead htake)
  unfold yearOf
  split
  · rename_i lead hlead
    split
    · rename_i hall
      have hdigits := Text.all_flatMap_utf8EncodeChar.1 hall
      obtain ⟨rest, hrest, hsize⟩ := Text.takeBytes?_eq_some_iff.1 hlead
      refine .digits hrest ?_ hdigits
      rwa [Text.utf8ByteSize_ofList fun c hc => Text.utf8Size_eq_one (hdigits c hc)] at hsize
    · rename_i hall
      refine hwhole fun lead' hlead' => ?_
      obtain rfl := Option.some.inj (hlead.symm.trans hlead')
      by_contra hnone
      exact hall (Text.all_flatMap_utf8EncodeChar.2 (by simpa using hnone))
  · rename_i hnone
    exact hwhole fun lead hlead => by rw [hnone] at hlead; cases hlead

theorem dated_unique {issued year year' : String} (h : Dated issued year) (h' : Dated issued year') :
    year = year' := by
  cases h with
  | digits hissued hlength hdigits =>
    cases h' with
    | digits hissued' hlength' hdigits' =>
      rw [hissued] at hissued'
      rw [(List.append_inj hissued' (hlength.trans hlength'.symm)).1]
    | whole hwhole =>
      obtain ⟨c, hc, hdigit⟩ := hwhole _ _ hissued hlength
      rw [hdigits c hc] at hdigit
      cases hdigit
  | whole hwhole =>
    cases h' with
    | digits hissued hlength hdigits =>
      obtain ⟨c, hc, hdigit⟩ := hwhole _ _ hissued hlength
      rw [hdigits c hc] at hdigit
      cases hdigit
    | whole _ => rfl

theorem yearOf_eq_iff {issued year : String} : yearOf issued = year ↔ Dated issued year := by
  constructor
  · rintro rfl
    exact dated_yearOf issued
  · exact dated_unique (dated_yearOf issued)

/-- The base without its slashes at the end, a slash and the handle. -/
def Page (base handle page : String) : Prop :=
  ∃ stem slashes : List Char, base.toList = stem ++ slashes ∧ (∀ c ∈ slashes, c = '/') ∧
    stem.getLast? ≠ some '/' ∧ page = String.ofList stem ++ "/" ++ handle

theorem pageOf_eq_iff {base handle page : String} : pageOf base handle = page ↔ Page base handle page := by
  have hstem (stem : List Char) : Text.dropEnd (· == '/') base.toList = stem ↔
      stem.getLast? ≠ some '/' ∧ ∃ slashes, base.toList = stem ++ slashes ∧ ∀ c ∈ slashes, c = '/' := by
    have hlast : (∀ c ∈ stem.getLast?, (c == '/') = false) ↔ stem.getLast? ≠ some '/' := by
      cases stem.getLast? <;> simp
    simp only [Text.dropEnd_eq_iff, hlast, beq_iff_eq]
  constructor
  · rintro rfl
    obtain ⟨hlast, slashes, hbase, hslashes⟩ := (hstem _).1 rfl
    exact ⟨_, slashes, hbase, hslashes, hlast, rfl⟩
  · rintro ⟨stem, slashes, hbase, hslashes, hlast, rfl⟩
    rw [pageOf, Text.dropSlashes, (hstem stem).2 ⟨hlast, slashes, hbase, hslashes⟩]

structure Projects (identifier : IdentifierValue) (r : Resource) (policy : ReleasePolicy) (p : Payload) :
    Prop where
  identifier : p.identifier = identifier
  author (value : String) : p.author = some value ↔
    MetadataField.author ∈ policy.requested ∧ r.First MetadataField.author value
  title (value : String) : p.title = some value ↔
    MetadataField.title ∈ policy.requested ∧ r.First MetadataField.title value
  url (value : String) : p.url = some value ↔
    MetadataField.uri ∈ policy.requested ∧ r.First MetadataField.uri value
  year (value : String) : p.year = some value ↔
    MetadataField.issued ∈ policy.requested ∧
      ∃ issued, r.First MetadataField.issued issued ∧ Dated issued value
  landingPage (page : String) : p.landingPage = some page ↔
    ∃ base handle, policy.uiBase = some base ∧ r.handle = some handle ∧ Page base handle page

variable {identifier : IdentifierValue} {r r' : Resource} {policy policy' : ReleasePolicy} {p : Payload}

theorem field_eq_some_iff {name value : String} (h : name ∈ MetadataField.allowed) :
    (if policy.sends name then r.firstValue? name else none) = some value ↔
      name ∈ policy.requested ∧ r.First name value := by
  rw [← Resource.firstValue?_eq_some_iff]
  by_cases hname : name ∈ policy.requested
  · simp [ReleasePolicy.sends, h, hname]
  · simp [ReleasePolicy.sends, hname]

theorem build_projects : Projects identifier r policy (build identifier r policy) where
  identifier := rfl
  author _ := field_eq_some_iff (by decide)
  title _ := field_eq_some_iff (by decide)
  url _ := field_eq_some_iff (by decide)
  year value := by
    change Option.map yearOf (if policy.sends MetadataField.issued then _ else none) = some value ↔ _
    have hallowed : MetadataField.issued ∈ MetadataField.allowed := by decide
    simp only [Option.map_eq_some_iff, field_eq_some_iff hallowed, yearOf_eq_iff]
    constructor
    · rintro ⟨issued, ⟨hrequested, hfirst⟩, hdated⟩
      exact ⟨hrequested, issued, hfirst, hdated⟩
    · rintro ⟨hrequested, issued, hfirst, hdated⟩
      exact ⟨issued, ⟨hrequested, hfirst⟩, hdated⟩
  landingPage page := by
    simp only [← pageOf_eq_iff]
    unfold build
    cases policy.uiBase <;> cases r.handle <;> simp

theorem Projects.eq {q : Payload} (hp : Projects identifier r policy p)
    (hq : Projects identifier r policy q) :
    p = q := by
  cases p
  cases q
  simp only [Payload.mk.injEq]
  refine ⟨hp.identifier.trans hq.identifier.symm, ?_, ?_, ?_, ?_, ?_⟩
  · exact Option.ext fun value => (hp.author value).trans (hq.author value).symm
  · exact Option.ext fun value => (hp.title value).trans (hq.title value).symm
  · exact Option.ext fun value => (hp.year value).trans (hq.year value).symm
  · exact Option.ext fun value => (hp.url value).trans (hq.url value).symm
  · exact Option.ext fun page => (hp.landingPage page).trans (hq.landingPage page).symm

def parts : List (String × (Payload → Option String)) :=
  [(MetadataField.author, author), (MetadataField.title, title), (MetadataField.issued, year),
    (MetadataField.uri, url)]

theorem isSome_part {part : String × (Payload → Option String)} (h : part ∈ parts) :
    (part.2 (build identifier r policy)).isSome = true ↔
      part.1 ∈ policy.requested ∧ ∃ entry ∈ r.metadata, entry.field = part.1 := by
  have hfield (name : String) (hname : name ∈ MetadataField.allowed) :
      (if policy.sends name then r.firstValue? name else none).isSome = true ↔
        name ∈ policy.requested ∧ ∃ entry ∈ r.metadata, entry.field = name := by
    rw [← Resource.isSome_firstValue?_iff]
    by_cases hrequested : name ∈ policy.requested
    · simp [ReleasePolicy.sends, hname, hrequested]
    · simp [ReleasePolicy.sends, hrequested]
  simp only [parts, List.mem_cons, List.not_mem_nil, or_false] at h
  rcases h with rfl | rfl | rfl | rfl
  · exact hfield _ (by decide)
  · exact hfield _ (by decide)
  · simpa [build] using hfield MetadataField.issued (by decide)
  · exact hfield _ (by decide)

theorem isSome_landingPage : (build identifier r policy).landingPage.isSome = true ↔
    policy.uiBase.isSome = true ∧ r.handle.isSome = true := by
  unfold build
  cases policy.uiBase <;> cases r.handle <;> simp

/-- Names and entries of other fields have no part in a payload. -/
theorem build_congr (hbase : policy.uiBase = policy'.uiBase) (hhandle : r.handle = r'.handle)
    (hnames : ∀ name ∈ MetadataField.allowed, name ∈ policy.requested ↔ name ∈ policy'.requested)
    (hentries : r.metadata.filter (·.field ∈ MetadataField.allowed) =
      r'.metadata.filter (·.field ∈ MetadataField.allowed)) :
    build identifier r policy = build identifier r' policy' := by
  have hsends (name : String) : policy.sends name = policy'.sends name := by
    by_cases hname : name ∈ MetadataField.allowed
    · simp [ReleasePolicy.sends, hnames name hname]
    · simp [ReleasePolicy.sends, hname]
  have hfield (name : String) : (if policy.sends name then r.firstValue? name else none) =
      if policy'.sends name then r'.firstValue? name else none := by
    rw [hsends]
    by_cases hname : name ∈ MetadataField.allowed
    · rw [← Resource.firstValue?_filter hname, hentries, Resource.firstValue?_filter hname]
    · simp [ReleasePolicy.sends, hname]
  unfold build
  simp only [hfield, hbase, hhandle]

end Payload

section Names

variable {name : String} {names names' : List String}

theorem mem_insertName {other : String} : other ∈ insertName name names ↔ other = name ∨ other ∈ names := by
  induction names with
  | nil => simp [insertName]
  | cons n names ih =>
    rw [insertName]
    split
    · rename_i h
      simp [h]
    split
    · simp
    · rw [List.mem_cons, ih, List.mem_cons]
      tauto

theorem mem_sortNames : name ∈ sortNames names ↔ name ∈ names := by
  induction names with
  | nil => simp [sortNames]
  | cons n names ih =>
    rw [sortNames, List.foldr_cons, mem_insertName, List.mem_cons]
    exact or_congr_right ih

theorem pairwise_insertName (h : names.Pairwise (· < ·)) : (insertName name names).Pairwise (· < ·) := by
  induction names with
  | nil => simp [insertName]
  | cons n names ih =>
    have hn := List.pairwise_cons.1 h
    rw [insertName]
    split
    · exact h
    split
    · rename_i hlt
      refine List.pairwise_cons.2 ⟨fun other hother => ?_, h⟩
      rcases List.mem_cons.1 hother with rfl | hother
      · exact hlt
      · exact String.lt_trans hlt (hn.1 other hother)
    · rename_i hne hlt
      refine List.pairwise_cons.2 ⟨fun other hother => ?_, ih hn.2⟩
      rcases mem_insertName.1 hother with rfl | hother
      · exact String.not_le.1 fun hle => hne (String.le_antisymm hle (String.not_lt.1 hlt))
      · exact hn.1 other hother

theorem pairwise_sortNames (names : List String) : (sortNames names).Pairwise (· < ·) := by
  induction names with
  | nil => exact List.Pairwise.nil
  | cons n names ih => exact pairwise_insertName ih

/-- Sorted names are their set. -/
theorem sortNames_congr (h : ∀ name, name ∈ names ↔ name ∈ names') : sortNames names = sortNames names' := by
  apply (pairwise_sortNames names).eq_of_mem_iff (pairwise_sortNames names')
  intro name
  rw [mem_sortNames, mem_sortNames, h]

end Names

theorem Text.not_mem_of_mem_split {c : Char} {cs part : List Char} (h : part ∈ split c cs) : c ∉ part := by
  induction cs generalizing part with
  | nil =>
    obtain rfl := List.mem_singleton.1 h
    exact List.not_mem_nil
  | cons d cs ih =>
    rw [split] at h
    by_cases hd : d = c
    · rw [if_pos hd] at h
      rcases List.mem_cons.1 h with rfl | h
      · exact List.not_mem_nil
      · exact ih h
    · rw [if_neg hd] at h
      cases hs : split c cs with
      | nil => exact absurd hs (split_ne_nil c cs)
      | cons first rest =>
        rw [hs] at h ih
        rcases List.mem_cons.1 h with rfl | h
        · simp [Ne.symm hd, ih (List.mem_cons_self ..)]
        · exact ih (List.mem_cons_of_mem _ h)

namespace ReleasePolicy

def Pieces (list : String) (pieces : List (List Char)) : Prop :=
  pieces ≠ [] ∧ (∀ piece ∈ pieces, ',' ∉ piece) ∧ list.toList = Text.join ',' pieces

theorem exists_pieces (list : String) : ∃ pieces, Pieces list pieces :=
  ⟨Text.split ',' list.toList, Text.split_ne_nil _ _, fun _ => Text.not_mem_of_mem_split,
    (Text.join_split ',' list.toList).symm⟩

def Names (piece : List Char) (name : String) : Prop :=
  name ≠ "" ∧ Text.Trimmed name.toList ∧ Text.Pads name.toList piece

theorem names_iff {piece : List Char} {name : String} :
    Names piece name ↔ name ≠ "" ∧ Text.trimChars piece = name.toList :=
  and_congr_right' Text.trimChars_eq_iff.symm

variable {policy : ReleasePolicy} {list list' : String} {pieces pieces' : List (List Char)}

theorem mem_requesting_iff (h : Pieces list pieces) {name : String} :
    name ∈ (policy.requesting list).requested ↔ ∃ piece ∈ pieces, Names piece name := by
  have hsplit : Text.split ',' list.toList = pieces := by rw [h.2.2, Text.split_join h.1 h.2.1]
  rw [requesting, mem_sortNames, namesOf, hsplit]
  simp only [List.mem_map, List.mem_filter, decide_eq_true_eq, names_iff]
  constructor
  · rintro ⟨trimmed, ⟨⟨piece, hpiece, rfl⟩, hne⟩, rfl⟩
    exact ⟨piece, hpiece, by simpa using hne, String.toList_ofList.symm⟩
  · rintro ⟨piece, hpiece, hne, htrim⟩
    exact ⟨name.toList, ⟨⟨piece, hpiece, htrim⟩, by simpa using hne⟩, String.ofList_toList⟩

theorem requesting_congr (h : Pieces list pieces) (h' : Pieces list' pieces')
    (hnames : ∀ name, (∃ piece ∈ pieces, Names piece name) ↔ ∃ piece ∈ pieces', Names piece name) :
    policy.requesting list = policy.requesting list' := by
  have hmem (name : String) : name ∈ namesOf list ↔ name ∈ namesOf list' := by
    have hrequested :
        name ∈ (policy.requesting list).requested ↔ name ∈ (policy.requesting list').requested := by
      rw [mem_requesting_iff h, mem_requesting_iff h', hnames]
    rwa [requesting, requesting, mem_sortNames, mem_sortNames] at hrequested
  rw [requesting, requesting, sortNames_congr hmem]

end ReleasePolicy

/-- A payload is what its parts come from, and a list asks for the names in it. -/
theorem Payload.build_exact :
    (∀ identifier r policy p, build identifier r policy = p ↔ Projects identifier r policy p) ∧
    (∀ identifier r policy, ∀ part ∈ parts, (part.2 (build identifier r policy)).isSome = true ↔
      part.1 ∈ policy.requested ∧ ∃ entry ∈ r.metadata, entry.field = part.1) ∧
    (∀ identifier r policy, (build identifier r policy).landingPage.isSome = true ↔
      policy.uiBase.isSome = true ∧ r.handle.isSome = true) ∧
    (∀ identifier (r r' : Resource) (policy policy' : ReleasePolicy),
      policy.uiBase = policy'.uiBase → r.handle = r'.handle →
      (∀ name ∈ MetadataField.allowed, name ∈ policy.requested ↔ name ∈ policy'.requested) →
      r.metadata.filter (·.field ∈ MetadataField.allowed) =
        r'.metadata.filter (·.field ∈ MetadataField.allowed) →
      build identifier r policy = build identifier r' policy') ∧
    (∀ (policy : ReleasePolicy) (list : String), (policy.requesting list).uiBase = policy.uiBase ∧
      ∃ pieces, ReleasePolicy.Pieces list pieces) ∧
    (∀ (policy : ReleasePolicy) (list : String) (pieces : List (List Char)),
      ReleasePolicy.Pieces list pieces →
      (∀ name, name ∈ (policy.requesting list).requested ↔ ∃ piece ∈ pieces, ReleasePolicy.Names piece name) ∧
      ∀ list' pieces', ReleasePolicy.Pieces list' pieces' →
        (∀ name, (∃ piece ∈ pieces, ReleasePolicy.Names piece name) ↔
          ∃ piece ∈ pieces', ReleasePolicy.Names piece name) →
        policy.requesting list = policy.requesting list') := by
  refine ⟨?_, ?_, ?_, ?_, ?_, ?_⟩
  · intro identifier r policy p
    constructor
    · rintro rfl
      exact build_projects
    · exact fun h => build_projects.eq h
  · exact fun identifier r policy part hpart => isSome_part hpart
  · exact fun identifier r policy => isSome_landingPage
  · exact fun identifier r r' policy policy' => build_congr
  · exact fun policy list => ⟨rfl, ReleasePolicy.exists_pieces list⟩
  · intro policy list pieces h
    exact ⟨fun name => ReleasePolicy.mem_requesting_iff h,
      fun list' pieces' h' hnames => ReleasePolicy.requesting_congr h h' hnames⟩

/-- A list in another order with other blanks and a name twice, and a resource with an entry that
registries do not carry. -/
theorem build_exact_reordered :
    (ReleasePolicy.standard.requesting "\u2003dc.title ,dc.date.issued" =
      ReleasePolicy.standard.requesting "dc.date.issued,,dc.title,dc.title") ∧
    Payload.build ⟨.doi, "doi:10.5/tides", by decide⟩ titledItem ⟨[MetadataField.title], none⟩ =
      Payload.build ⟨.doi, "doi:10.5/tides", by decide⟩
        { titledItem with metadata := ⟨"dc.rights", "closed"⟩ :: titledItem.metadata }
        ⟨["dc.rights", MetadataField.title], none⟩ := by
  have hpieces : ReleasePolicy.Pieces "\u2003dc.title ,dc.date.issued"
      ["\u2003dc.title ".toList, "dc.date.issued".toList] := ⟨by decide, by decide, by decide⟩
  have hpieces' : ReleasePolicy.Pieces "dc.date.issued,,dc.title,dc.title"
      ["dc.date.issued".toList, [], "dc.title".toList, "dc.title".toList] := ⟨by decide, by decide, by decide⟩
  have hnames (piece : List Char) (trimmed name : String) (h : Text.trimChars piece = trimmed.toList) :
      ReleasePolicy.Names piece name ↔ name ≠ "" ∧ trimmed = name := by
    rw [ReleasePolicy.names_iff, h, String.toList_inj]
  constructor
  · apply (Payload.build_exact.2.2.2.2.2 _ _ _ hpieces).2 _ _ hpieces'
    intro name
    simp only [List.mem_cons, List.not_mem_nil, or_false, exists_eq_or_imp, exists_eq_left,
      hnames "\u2003dc.title ".toList "dc.title" name (by decide),
      hnames "dc.title".toList "dc.title" name (by decide), hnames [] "" name (by decide),
      hnames "dc.date.issued".toList "dc.date.issued" name (by decide)]
    tauto
  · apply Payload.build_exact.2.2.2.1
    · rfl
    · rfl
    · decide
    · decide

end IdentifierRegistrar
