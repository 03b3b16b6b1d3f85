import IdentifierRegistrar.Identifier.Local
import IdentifierRegistrar.Identifier.Resource
import IdentifierRegistrar.Identifier.Value
import Mathlib.Algebra.Ring.Nat
import Mathlib.Data.List.Basic

/-! What is written is read back: ids of both kinds, references to resources and identifier
values. Hence two ids with one text are one id, and a row that holds a text names one thing; and a
value that is minted for a DOI name has that name. -/

namespace IdentifierRegistrar

theorem mapM_map_eq_some {α β : Type} {f : α → β} {g : β → Option α} {as : List α}
    (h : ∀ a ∈ as, g (f a) = some a) : (as.map f).mapM g = some as := by
  induction as with
  | nil => rfl
  | cons a as ih =>
    rw [List.map_cons, List.mapM_cons, h a (by simp), ih fun b hb => h b (by simp [hb])]
    rfl

namespace Radix

theorem lt_of_mem_toDigits {base width n d : Nat} (hb : 0 < base) (h : d ∈ toDigits base width n) :
    d < base := by
  induction width generalizing n with
  | zero => simp [toDigits] at h
  | succ width ih =>
    rcases List.mem_append.1 h with h | h
    · exact ih h
    · rw [List.mem_singleton.1 h]
      exact Nat.mod_lt n hb

theorem ofDigits_toDigits_of_lt {base width n : Nat} (h : n < base.pow width) :
    ofDigits base (toDigits base width n) = n := by
  rw [ofDigits_toDigits, Nat.mod_eq_of_lt h]

end Radix

namespace Text

/-- Parts that do not hold `c` are what `split` finds between the places of `c`. -/
theorem split_join {c : Char} {parts : List (List Char)} (hne : parts ≠ [])
    (h : ∀ part ∈ parts, c ∉ part) : split c (join c parts) = parts := by
  induction parts with
  | nil => exact absurd rfl hne
  | cons part parts ih =>
    have hpart : c ∉ part := h part (by simp)
    cases parts with
    | nil =>
      simp only [join]
      clear ih h hne
      induction part with
      | nil => rfl
      | cons d rest ihr =>
        simp only [List.mem_cons, not_or] at hpart
        simp [split, Ne.symm hpart.1, ihr hpart.2]
    | cons next parts =>
      have ih := ih (by simp) fun p hp => h p (by simp [hp])
      simp only [join]
      clear h hne
      induction part with
      | nil => simp [split, ih]
      | cons d rest ihr =>
        simp only [List.mem_cons, not_or] at hpart
        simp [split, Ne.symm hpart.1, ihr hpart.2]

theorem utf8ByteSize_ofList {cs : List Char} (h : ∀ c ∈ cs, c.utf8Size = 1) :
    (String.ofList cs).utf8ByteSize = cs.length := by
  induction cs with
  | nil => rfl
  | cons c cs ih =>
    rw [utf8ByteSize_ofList_cons, ih fun d hd => h d (by simp [hd]), h c (by simp), List.length_cons,
      Nat.add_comm]

end Text

namespace Base32

theorem digit?_symbol : ∀ d < 32, digit? (symbol d) = some d := by decide

theorem utf8Size_symbol : ∀ d < 32, (symbol d).utf8Size = 1 := by decide

end Base32

namespace Hex

theorem digit?_lower : ∀ d < 16, digit? (lower d) = some d := by decide

theorem utf8Size_lower : ∀ d < 16, (lower d).utf8Size = 1 := by decide

theorem lower_ne_hyphen : ∀ d < 16, lower d ≠ '-' := by decide

end Hex

theorem Ulid.parse_chars (u : Ulid) : Ulid.parse u.chars = .ok u := by
  have hd : ∀ d ∈ Radix.toDigits 32 26 u.toNat, d < 32 :=
    fun d h => Radix.lt_of_mem_toDigits (by decide) h
  have hsize : (String.ofList u.chars).utf8ByteSize = 26 := by
    rw [Text.utf8ByteSize_ofList]
    · simp [Ulid.chars]
    · intro c hc
      obtain ⟨d, hm, rfl⟩ := List.mem_map.1 hc
      exact Base32.utf8Size_symbol d (hd d hm)
  have hread : u.chars.mapM Base32.digit? = some (Radix.toDigits 32 26 u.toNat) :=
    mapM_map_eq_some fun d h => Base32.digit?_symbol d (hd d h)
  have hlt : u.toNat < Nat.pow 32 26 := Nat.lt_of_lt_of_le u.isLt (by decide)
  rw [Ulid.parse, if_neg (by simp [hsize]), hread]
  simp [Radix.ofDigits_toDigits_of_lt hlt]

namespace LocalId

variable {kind : IdKind}

theorem parse_text (id : LocalId kind) : parse kind id.text = .ok id := by
  have htag : '_' ∉ kind.tag.toList := by cases kind <;> decide
  have hlist : id.text.toList = kind.tag.toList ++ '_' :: id.ulid.chars := by
    simp [text, Ulid.text, String.toList_append]
  have hne : id.text.isEmpty = false := by
    rw [String.isEmpty_eq_false_iff]
    intro h
    rw [h] at hlist
    simp at hlist
  rw [parse, hne, hlist, Text.cutFirst_append htag]
  simp [Ulid.parse_chars]

theorem text_injective {a b : LocalId kind} (h : a.text = b.text) : a = b := by
  have := parse_text a
  rw [h, parse_text b] at this
  exact (Except.ok.inj this).symm

/-- The tag is read as it is written, the ULID in any of its spellings. -/
theorem parse_eq_ok_iff {s : String} {id : LocalId kind} :
    parse kind s = .ok id ↔ ∃ ulid, s = kind.tag ++ "_" ++ ulid ∧ Ulid.parse ulid.toList = .ok id.ulid := by
  constructor
  · intro h
    unfold parse at h
    split at h
    · cases h
    split at h
    · cases h
    rename_i tag rest hcut
    obtain ⟨hs, -⟩ := Text.eq_of_cutFirst hcut
    split at h
    · cases h
    rename_i htag
    split at h
    · rename_i ulid hulid
      obtain rfl := Except.ok.inj h
      refine ⟨String.ofList rest, ?_, by rw [String.toList_ofList, hulid]⟩
      rw [← not_not.1 htag]
      simp [String.ext_iff, hs]
    · cases h
  · rintro ⟨ulid, rfl, hulid⟩
    have htag : '_' ∉ kind.tag.toList := by cases kind <;> decide
    have hlist : (kind.tag ++ "_" ++ ulid).toList = kind.tag.toList ++ '_' :: ulid.toList := by
      simp [String.toList_append]
    have hne : (kind.tag ++ "_" ++ ulid).isEmpty = false := by
      rw [String.isEmpty_eq_false_iff]
      intro hempty
      rw [hempty] at hlist
      simp at hlist
    rw [parse, hne, hlist, Text.cutFirst_append htag]
    simp [hulid]

end LocalId

namespace Uuid

theorem flatten_group {α : List Nat} {cs : List Char} (h : cs.length = α.sum) :
    (group α cs).flatten = cs := by
  induction α generalizing cs with
  | nil => simpa [group, eq_comm] using h
  | cons n lengths ih =>
    rw [List.sum_cons] at h
    have hdrop : (cs.drop n).length = lengths.sum := by rw [List.length_drop]; omega
    rw [group, List.flatten_cons, ih hdrop, List.take_append_drop]

theorem map_length_group {α : List Nat} {cs : List Char} (h : cs.length = α.sum) :
    (group α cs).map List.length = α := by
  induction α generalizing cs with
  | nil => rfl
  | cons n lengths ih =>
    rw [List.sum_cons] at h
    have hdrop : (cs.drop n).length = lengths.sum := by rw [List.length_drop]; omega
    rw [group, List.map_cons, ih hdrop, List.length_take, Nat.min_eq_left (by omega)]

theorem mem_of_mem_group {α : List Nat} {cs part : List Char} (h : part ∈ group α cs) :
    ∀ c ∈ part, c ∈ cs := by
  induction α generalizing cs with
  | nil => simp [group] at h
  | cons n lengths ih =>
    rcases List.mem_cons.1 h with rfl | h
    · exact fun c hc => List.mem_of_mem_take hc
    · exact fun c hc => List.mem_of_mem_drop (ih h c hc)

theorem length_join {c : Char} {parts : List (List Char)} (hne : parts ≠ []) :
    (Text.join c parts).length + 1 = (parts.map List.length).sum + parts.length := by
  induction parts with
  | nil => exact absurd rfl hne
  | cons part parts ih =>
    cases parts with
    | nil => simp [Text.join]
    | cons next parts =>
      have ih := ih (by simp)
      simp only [Text.join, List.length_append, List.length_cons, List.map_cons, List.sum_cons]
        at ih ⊢
      omega

theorem mem_join {c d : Char} {parts : List (List Char)} (h : d ∈ Text.join c parts) :
    d = c ∨ ∃ part ∈ parts, d ∈ part := by
  induction parts with
  | nil => simp [Text.join] at h
  | cons part parts ih =>
    cases parts with
    | nil => exact Or.inr ⟨part, by simp, by simpa [Text.join] using h⟩
    | cons next parts =>
      simp only [Text.join, List.mem_append, List.mem_cons] at h
      rcases h with h | rfl | h
      · exact Or.inr ⟨part, by simp, h⟩
      · exact Or.inl rfl
      · rcases ih h with h | ⟨p, hp, hd⟩
        · exact Or.inl h
        · exact Or.inr ⟨p, by simp at hp ⊢; tauto, hd⟩

def hexChars (u : Uuid) : List Char := (Radix.toDigits 16 32 u.toNat).map Hex.lower

theorem mem_hexChars {u : Uuid} {c : Char} (h : c ∈ u.hexChars) : ∃ d < 16, c = Hex.lower d := by
  obtain ⟨d, hd, rfl⟩ := List.mem_map.1 h
  exact ⟨d, Radix.lt_of_mem_toDigits (by decide) hd, rfl⟩

theorem ofHex?_hexChars (u : Uuid) : ofHex? u.hexChars = some u := by
  have hread : u.hexChars.mapM Hex.digit? = some (Radix.toDigits 16 32 u.toNat) :=
    mapM_map_eq_some fun d h => Hex.digit?_lower d (Radix.lt_of_mem_toDigits (by decide) h)
  have hlt : u.toNat < Nat.pow 16 32 := Nat.lt_of_lt_of_le u.isLt (by decide)
  rw [ofHex?, if_pos (by simp [hexChars]), hread]
  simp [Radix.ofDigits_toDigits_of_lt hlt]

theorem ofHyphenated?_chars (u : Uuid) : ofHyphenated? u.chars = some u := by
  have hlen : u.hexChars.length = groupLengths.sum := by simp [hexChars, groupLengths]
  have hsplit : Text.split '-' u.chars = group groupLengths u.hexChars := by
    apply Text.split_join (by simp [groupLengths, group])
    intro part hp hc
    obtain ⟨d, hd, h⟩ := mem_hexChars (mem_of_mem_group hp _ hc)
    exact Hex.lower_ne_hyphen d hd h.symm
  rw [ofHyphenated?, hsplit, if_pos (map_length_group hlen), flatten_group hlen,
    ofHex?_hexChars]

theorem byteLength_chars (u : Uuid) : byteLength u.chars = 36 := by
  have hlen : u.hexChars.length = groupLengths.sum := by simp [hexChars, groupLengths]
  have hne : group groupLengths u.hexChars ≠ [] := by simp [groupLengths, group]
  have hjoin := length_join (c := '-') hne
  rw [map_length_group hlen] at hjoin
  rw [byteLength, Text.utf8ByteSize_ofList]
  · change (Text.join '-' (group groupLengths u.hexChars)).length = 36
    simp only [groupLengths, group, List.sum_cons, List.sum_nil, List.length_cons,
      List.length_nil] at hjoin ⊢
    omega
  · intro c hc
    rcases mem_join hc with rfl | ⟨part, hp, hd⟩
    · decide
    · obtain ⟨d, hlt, rfl⟩ := mem_hexChars (mem_of_mem_group hp _ hd)
      exact Hex.utf8Size_lower d hlt

theorem parse_chars (u : Uuid) : parse u.chars = .ok u := by
  rw [parse, byteLength_chars, parseHyphenated, ofHyphenated?_chars]
  rfl

end Uuid

namespace ResourceId

theorem parse_text (id : ResourceId) : parse id.text = .ok id := by
  have hlist : id.text.toList = id.uuid.chars := by simp [text, Uuid.text]
  have hne : id.text.isEmpty = false := by
    rw [String.isEmpty_eq_false_iff]
    intro h
    have hsize := Uuid.byteLength_chars id.uuid
    rw [Uuid.byteLength, ← hlist, h] at hsize
    simp at hsize
  rw [parse, hne, hlist, Uuid.parse_chars]
  rfl

theorem text_injective {a b : ResourceId} (h : a.text = b.text) : a = b := by
  have := parse_text a
  rw [h, parse_text b] at this
  exact (Except.ok.inj this).symm

theorem parse_eq_ok_iff {s : String} {id : ResourceId} :
    parse s = .ok id ↔ Uuid.parse s.toList = .ok id.uuid := by
  unfold parse
  split
  · rename_i h
    rw [String.isEmpty_iff] at h
    subst h
    exact iff_of_false (by simp) (by simp [Uuid.parse, Uuid.byteLength])
  · cases h : Uuid.parse s.toList with
    | error e => simp
    | ok uuid =>
      constructor
      · intro heq
        rw [← Except.ok.inj heq]
      · intro heq
        rw [Except.ok.inj heq]

end ResourceId

namespace IdentifierValue

theorem exists_append_of_accepts {scheme : Scheme} {cs : List Char}
    (h : scheme.accepts cs = true) : ∃ rest, cs = scheme.lead.toList ++ rest := by
  cases scheme with
  | doi =>
    obtain ⟨_, h⟩ := Option.isSome_iff_exists.1 h
    obtain ⟨rest, hr, -⟩ := Option.bind_eq_some_iff.1 h
    exact ⟨rest, Text.dropLead_eq_some_iff.1 hr⟩
  | dark =>
    obtain ⟨_, h⟩ := Option.isSome_iff_exists.1 h
    obtain ⟨rest, hr, -⟩ := Option.bind_eq_some_iff.1 h
    have hcs := Text.dropLead_eq_some_iff.1 hr
    exact ⟨'/' :: rest, by simpa [Scheme.lead] using hcs⟩

theorem parse_text (v : IdentifierValue) : parse v.text = .ok v := by
  obtain ⟨scheme, text, accepted⟩ := v
  obtain ⟨rest, hrest⟩ := exists_append_of_accepts accepted
  have hne : text.isEmpty = false := by
    rw [String.isEmpty_eq_false_iff]
    rintro rfl
    cases scheme <;> simp [Scheme.lead] at hrest
  have hfind : Scheme.all.find? (fun s => s.lead.toList.isPrefixOf text.toList) = some scheme := by
    rw [hrest]
    cases scheme <;> simp [Scheme.all, Scheme.lead]
  rw [parse, hne, hfind]
  simp [ofText, accepted]

theorem text_injective {a b : IdentifierValue} (h : a.text = b.text) : a = b := by
  have := parse_text a
  rw [h, parse_text b] at this
  exact (Except.ok.inj this).symm

theorem doiName?_eq_some_iff {v : IdentifierValue} {name : String} :
    v.doiName? = some name ↔ v.scheme = .doi ∧ v.text = "doi:" ++ name := by
  unfold doiName?
  cases v.scheme with
  | dark => simp
  | doi =>
    simp only [Option.map_eq_some_iff, Text.dropLead_eq_some_iff, true_and]
    constructor
    · rintro ⟨rest, hrest, rfl⟩
      simp [String.ext_iff, hrest]
    · intro h
      exact ⟨name.toList, by rw [h, String.toList_append], String.ofList_toList⟩

theorem doiName?_injective {v w : IdentifierValue} {name : String} (hv : v.doiName? = some name)
    (hw : w.doiName? = some name) : v = w :=
  text_injective ((doiName?_eq_some_iff.1 hv).2.trans (doiName?_eq_some_iff.1 hw).2.symm)

theorem exists_doiName {v : IdentifierValue} (h : v.scheme = .doi) : ∃ name, v.doiName? = some name := by
  have haccepted := v.accepted
  rw [h] at haccepted
  obtain ⟨rest, hrest⟩ := exists_append_of_accepts haccepted
  refine ⟨String.ofList rest, doiName?_eq_some_iff.2 ⟨h, ?_⟩⟩
  simp [String.ext_iff, hrest, Scheme.lead]

theorem exists_arkParts {v : IdentifierValue} (h : v.scheme = .dark) :
    ∃ first second, v.arkParts? = some (first, second) := by
  obtain ⟨scheme, text, haccepted⟩ := v
  subst h
  obtain ⟨⟨first, second⟩, hparts⟩ := Option.isSome_iff_exists.1 haccepted
  exact ⟨String.ofList first, String.ofList second, by simp only [arkParts?, hparts, Option.map_some]⟩

theorem eq_of_parse {scheme : Scheme} {rest : String} {v : IdentifierValue}
    (h : parse (scheme.lead ++ rest) = .ok v) : v.scheme = scheme ∧ v.text = scheme.lead ++ rest := by
  have hfind : (Scheme.all.find? fun s => s.lead.toList.isPrefixOf (scheme.lead ++ rest).toList) =
      some scheme := by
    rw [String.toList_append]
    cases scheme <;> simp [Scheme.all, Scheme.lead]
  have hne : (scheme.lead ++ rest).isEmpty = false := by
    rw [String.isEmpty_eq_false_iff]
    intro hempty
    rw [hempty] at hfind
    cases scheme <;> simp [Scheme.all, Scheme.lead] at hfind
  rw [parse, hne, hfind] at h
  simp only [Bool.false_eq_true, if_false, ofText] at h
  split at h
  · obtain rfl := Except.ok.inj h
    exact ⟨rfl, rfl⟩
  · cases h

/-- A value is read from its own text only. -/
theorem text_of_parse {s : String} {v : IdentifierValue} (h : parse s = .ok v) : v.text = s := by
  unfold parse at h
  split at h
  · cases h
  split at h
  · unfold ofText at h
    split at h
    · obtain rfl := Except.ok.inj h
      rfl
    · cases h
  · cases h

/-- A value that is minted for a DOI name has that name. -/
theorem doiName?_of_ofDoiName {v : IdentifierValue} {name : String} (h : ofDoiName name = .ok v) :
    v.doiName? = some name :=
  doiName?_eq_some_iff.2 (eq_of_parse h)

theorem scheme_of_ofDoiName {v : IdentifierValue} {name : String} (h : ofDoiName name = .ok v) :
    v.scheme = .doi := (eq_of_parse h).1

theorem scheme_of_ofArk {v : IdentifierValue} {first second : String} (h : ofArk first second = .ok v) :
    v.scheme = .dark := by
  rw [ofArk, String.append_assoc, String.append_assoc, String.append_assoc] at h
  exact (eq_of_parse h).1

end IdentifierValue

end IdentifierRegistrar
