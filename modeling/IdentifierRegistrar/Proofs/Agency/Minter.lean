import IdentifierRegistrar.Agency.Minter
import IdentifierRegistrar.Proofs.Identifier.Parts

/-! Minting without an agency. A value ends with the lower-case ULID of its record, from which the ULID
is read back; so two records get two values (`suffix_injective`). Whether a value is made at all is a
matter of the text that stands before the suffix (`Minter.mint_exact`). -/

namespace IdentifierRegistrar

/-- A text that goes on behind a place of `c` is cut at the first `c` into two parts, unless nothing stands
before that. -/
theorem Text.exists_first_parts_iff {c : Char} {before after : List Char} (hafter : after ≠ []) :
    (∃ first second, before ++ c :: after = first ++ c :: second ∧
      first ≠ [] ∧ c ∉ first ∧ second ≠ []) ↔ before ≠ [] ∧ before.head? ≠ some c := by
  constructor
  · rintro ⟨first, second, hsplit, hfirst, hc, -⟩
    obtain ⟨d, rest, rfl⟩ := List.exists_cons_of_ne_nil hfirst
    have hd : d ≠ c := by
      rintro rfl
      simp at hc
    cases before with
    | nil => exact absurd (List.cons.inj hsplit).1.symm hd
    | cons e before =>
      obtain rfl := (List.cons.inj hsplit).1
      exact ⟨by simp, by simpa using hd⟩
  · rintro ⟨hne, hhead⟩
    have hmem : c ∈ before ++ [c] := by simp
    obtain ⟨first, second, hsplit, hc⟩ := List.eq_append_cons_of_mem hmem
    refine ⟨first, second ++ after, ?_, ?_, hc, by simp [hafter]⟩
    · calc
        before ++ c :: after = (before ++ [c]) ++ after := by simp
        _ = first ++ c :: (second ++ after) := by rw [hsplit]; simp
    · rintro rfl
      obtain ⟨d, rest, rfl⟩ := List.exists_cons_of_ne_nil hne
      exact hhead (congrArg some (List.cons.inj hsplit).1)

theorem Base32.digit?_toLower_symbol : ∀ d < 32, digit? (symbol d).toLower = some d := by decide

theorem Base32.toLower_symbol_ne : ∀ d < 32, (symbol d).toLower ≠ '/' ∧ (symbol d).toLower ≠ '\n' := by
  decide

namespace LocalId

variable {kind : IdKind} {id : LocalId kind}

theorem toList_suffix (id : LocalId kind) : id.suffix.toList =
    (Radix.toDigits 32 26 id.ulid.toNat).map fun d => (Base32.symbol d).toLower := by
  simp [suffix, Ulid.chars]

theorem exists_digit_of_mem_suffix {c : Char} (h : c ∈ id.suffix.toList) :
    ∃ d < 32, c = (Base32.symbol d).toLower := by
  rw [toList_suffix] at h
  obtain ⟨d, hd, rfl⟩ := List.mem_map.1 h
  exact ⟨d, Radix.lt_of_mem_toDigits (by decide) hd, rfl⟩

theorem slash_not_mem_suffix : '/' ∉ id.suffix.toList := by
  intro h
  obtain ⟨d, hd, hc⟩ := exists_digit_of_mem_suffix h
  exact (Base32.toLower_symbol_ne d hd).1 hc.symm

theorem feed_not_mem_suffix : '\n' ∉ id.suffix.toList := by
  intro h
  obtain ⟨d, hd, hc⟩ := exists_digit_of_mem_suffix h
  exact (Base32.toLower_symbol_ne d hd).2 hc.symm

theorem suffix_ne_empty : id.suffix ≠ "" := by
  intro h
  have hlength : id.suffix.toList.length = 26 := by simp [toList_suffix]
  rw [h] at hlength
  simp at hlength

/-- The ULID is read back from the suffix of an id, though that is written in lower case. -/
theorem suffix_injective {a b : LocalId kind} (h : a.suffix = b.suffix) : a = b := by
  have hread : ∀ id : LocalId kind, (id.suffix.toList.mapM Base32.digit?).map (Radix.ofDigits 32) =
      some id.ulid.toNat := by
    intro id
    have hlt : id.ulid.toNat < Nat.pow 32 26 := Nat.lt_of_lt_of_le id.ulid.isLt (by decide)
    rw [toList_suffix, mapM_map_eq_some fun d hd =>
      Base32.digit?_toLower_symbol d (Radix.lt_of_mem_toDigits (by decide) hd)]
    exact congrArg some (Radix.ofDigits_toDigits_of_lt hlt)
  have hulid : a.ulid.toNat = b.ulid.toNat := by
    have hsome := hread a
    rw [h, hread b] at hsome
    exact (Option.some.inj hsome).symm
  obtain ⟨ulid⟩ := a
  obtain ⟨ulid'⟩ := b
  exact congrArg LocalId.mk (BitVec.eq_of_toNat_eq hulid)

end LocalId

namespace Minter

open IdentifierValue

variable {m : Minter} {record other : RecordId}

/-- The configured text makes values: it is not empty, a registrant does not begin with a slash, and the
part of a repository is on one line. -/
def Usable : Minter → Prop
  | doi registrant _ => registrant ≠ "" ∧ registrant.toList.head? ≠ some '/'
  | dark repository => repository ≠ "" ∧ '\n' ∉ repository.toList

/-- The value names the record by its suffix, behind the configured text. -/
def Names : Minter → RecordId → IdentifierValue → Prop
  | doi registrant separator, record, v =>
    v.doiName? = some (registrant ++ "/" ++ separator ++ record.suffix)
  | dark repository, record, v => v.arkParts? = some (repository, record.suffix)

def text (record : RecordId) : Minter → String
  | doi registrant separator => "doi:" ++ (registrant ++ "/" ++ separator ++ record.suffix)
  | dark repository => "dark:/" ++ repository ++ "/" ++ record.suffix

theorem mint_eq_parse (m : Minter) (record : RecordId) : m.mint record = parse (m.text record) := by
  cases m <;> rfl

/-- The text ends with the suffix, and what stands before it is the same for all records. -/
theorem text_injective (h : m.text record = m.text other) : record = other := by
  refine LocalId.suffix_injective (String.ext_iff.2 ?_)
  cases m with
  | doi registrant separator => simpa [text, String.ext_iff] using h
  | dark repository => simpa [text, String.ext_iff] using h

theorem lead_text (m : Minter) (record : RecordId) : m.scheme.lead.toList <+: (m.text record).toList := by
  cases m with
  | doi registrant separator => simp [scheme, text, Scheme.lead]
  | dark repository => simp [scheme, text, Scheme.lead]

/-- A DOI name begins with a registrant if it neither begins with a slash nor is without one. -/
theorem writes_text_doi_iff {registrant separator : String} :
    Scheme.doi.Writes ((doi registrant separator).text record) ↔ (doi registrant separator).Usable := by
  rw [text, Scheme.doi_writes_iff]
  have hname : (registrant ++ "/" ++ separator ++ record.suffix).toList =
      registrant.toList ++ '/' :: (separator.toList ++ record.suffix.toList) := by simp
  have hafter : separator.toList ++ record.suffix.toList ≠ [] := by
    simp [LocalId.suffix_ne_empty]
  rw [hname, Text.exists_first_parts_iff hafter, Usable]
  simp

theorem writes_text_iff : m.scheme.Writes (m.text record) ↔ m.Usable := by
  cases m with
  | doi registrant separator => exact writes_text_doi_iff
  | dark repository =>
    rw [scheme, text, Scheme.dark_writes_pair_iff LocalId.slash_not_mem_suffix,
      if_neg LocalId.suffix_ne_empty, Usable]
    simp [LocalId.feed_not_mem_suffix, and_comm]

theorem names_of_text {v : IdentifierValue} (hv : v.scheme = m.scheme) (htext : v.text = m.text record)
    (h : m.Usable) : m.Names record v := by
  cases m with
  | doi registrant separator => exact doiName?_eq_some_iff.2 ⟨hv, htext⟩
  | dark repository =>
    have hslash : '/' ∉ record.suffix.toList.dropLast := fun hmem =>
      LocalId.slash_not_mem_suffix ((List.dropLast_sublist _).mem hmem)
    exact IdentifierValue.arkParts?_eq_some_iff.2 ⟨hv, ⟨htext, h.1, LocalId.suffix_ne_empty⟩, hslash⟩

/-- A minter makes a value for a record if and only if its text is usable, whatever the record. The value
has the minter's scheme and names the record behind the configured text, slashes included; and no other
record gets it. -/
theorem mint_exact (m : Minter) (record : RecordId) :
    ((∃ v, m.mint record = .ok v) ↔ m.Usable) ∧
    ∀ v, m.mint record = .ok v → v.scheme = m.scheme ∧ m.Names record v ∧
      ∀ other, m.mint other = .ok v → other = record := by
  have hexists : (∃ v, m.mint record = .ok v) ↔ m.Usable := by
    rw [mint_eq_parse, exists_parse_iff (m.lead_text record), writes_text_iff]
  refine ⟨hexists, fun v hv => ?_⟩
  have husable : m.Usable := hexists.1 ⟨v, hv⟩
  rw [mint_eq_parse] at hv
  have htext : v.text = m.text record := text_of_parse hv
  have hscheme : v.scheme = m.scheme := scheme_of_parse (m.lead_text record) hv
  refine ⟨hscheme, names_of_text hscheme htext husable, fun other hother => ?_⟩
  rw [mint_eq_parse] at hother
  exact text_injective ((text_of_parse hother).symm.trans htext)

/-- Minting below a part that holds a slash. -/
theorem slashed_mint : (dark "low/tide").Usable ∧ ∃ v w, (dark "low/tide").mint ⟨1⟩ = .ok v ∧
    (dark "low/tide").mint ⟨2⟩ = .ok w ∧ v.arkParts? = some ("low/tide", (⟨1⟩ : RecordId).suffix) ∧ v ≠ w := by
  have husable : (dark "low/tide").Usable := ⟨by decide, by decide⟩
  obtain ⟨v, hv⟩ := (mint_exact (dark "low/tide") ⟨1⟩).1.2 husable
  obtain ⟨w, hw⟩ := (mint_exact (dark "low/tide") ⟨2⟩).1.2 husable
  obtain ⟨-, hparts, hsole⟩ := (mint_exact (dark "low/tide") ⟨1⟩).2 v hv
  refine ⟨husable, v, w, hv, hw, hparts, ?_⟩
  rintro rfl
  exact absurd (hsole ⟨2⟩ hw) (by decide)

end Minter

end IdentifierRegistrar
