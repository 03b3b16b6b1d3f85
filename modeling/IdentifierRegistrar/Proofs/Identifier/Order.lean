import IdentifierRegistrar.Proofs.Identifier.Spelling
import Mathlib.Data.Char
import Mathlib.Data.Nat.Basic

/-!
Ids and their texts stand for each other. The text of an id is read back, no other id has it, and a
text in any other spelling is read as the id it spells; and two ids of one kind compare as numbers
as their texts compare byte by byte, since digits of one width have the order of the numbers they
stand for and the symbols of the alphabet that of their values (`ids_exact`).
-/

namespace IdentifierRegistrar

def Text.bytes (s : String) : List UInt8 := s.toUTF8.data.toList

namespace Text

theorem bytes_append (s t : String) : bytes (s ++ t) = bytes s ++ bytes t := by
  simp [bytes, String.toByteArray_append]

theorem bytes_ofList (cs : List Char) : bytes (String.ofList cs) = cs.flatMap String.utf8EncodeChar := by
  simp [bytes, String.toByteArray_ofList, List.utf8Encode]

/-- Of two texts with starts of one length, the starts decide before the rest does. -/
theorem compare_append {α : Type} [Ord α] {as bs : List α} (h : as.length = bs.length) (cs ds : List α) :
    compare (as ++ cs) (bs ++ ds) = (compare as bs).then (compare cs ds) := by
  simp only [List.compare_eq_compareLex]
  induction as generalizing bs with
  | nil =>
    obtain rfl := List.length_eq_zero_iff.1 h.symm
    rfl
  | cons a as ih =>
    cases bs with
    | nil => cases h
    | cons b bs =>
      simp only [List.cons_append, List.compareLex_cons_cons]
      rw [ih (Nat.succ.inj h), Ordering.then_assoc]

/-- A map that keeps the order of single symbols keeps the order of texts. -/
theorem compare_map {α β : Type} [Ord α] [Ord β] {f : α → β} {p : α → Prop}
    (hf : ∀ a b, p a → p b → compare (f a) (f b) = compare a b) {as bs : List α}
    (ha : ∀ a ∈ as, p a) (hb : ∀ b ∈ bs, p b) : compare (as.map f) (bs.map f) = compare as bs := by
  simp only [List.compare_eq_compareLex]
  induction as generalizing bs with
  | nil => cases bs <;> rfl
  | cons a as ih =>
    cases bs with
    | nil => rfl
    | cons b bs =>
      simp only [List.mem_cons, forall_eq_or_imp] at ha hb
      rw [List.map_cons, List.map_cons, List.compareLex_cons_cons, List.compareLex_cons_cons,
        hf a b ha.1 hb.1, ih ha.2 hb.2]

theorem compare_eq_lt_iff {as bs : List Char} : compare as bs = .lt ↔ as < bs := by
  rw [List.compare_eq_compareLex]
  induction as generalizing bs with
  | nil => cases bs <;> simp [List.compareLex_nil_nil, List.compareLex_nil_cons]
  | cons a as ih =>
    cases bs with
    | nil => simp [List.compareLex_cons_nil]
    | cons b bs =>
      rw [List.compareLex_cons_cons, Ordering.then_eq_lt, ih, List.cons_lt_cons_iff, compare_lt_iff_lt,
        compare_eq_iff_eq]

end Text

namespace Radix

theorem compare_div_mod {base : Nat} (m n : Nat) :
    compare m n = (compare (m / base) (n / base)).then (compare (m % base) (n % base)) := by
  have hm := Nat.div_add_mod m base
  have hn := Nat.div_add_mod n base
  rcases Nat.lt_trichotomy (m / base) (n / base) with h | h | h
  · rw [Nat.compare_eq_lt.2 h, Nat.compare_eq_lt.2 (Nat.lt_of_div_lt_div h)]
    rfl
  · rw [Nat.compare_eq_eq.2 h, Ordering.eq_then]
    rw [h] at hm
    rcases Nat.lt_trichotomy (m % base) (n % base) with hr | hr | hr
    · rw [Nat.compare_eq_lt.2 hr, Nat.compare_eq_lt.2 (by omega)]
    · rw [Nat.compare_eq_eq.2 hr, Nat.compare_eq_eq.2 (by omega)]
    · rw [Nat.compare_eq_gt.2 hr, Nat.compare_eq_gt.2 (by omega)]
  · rw [Nat.compare_eq_gt.2 h, Nat.compare_eq_gt.2 (Nat.lt_of_div_lt_div h)]
    rfl

/-- Numbers are ordered as their digits, as long as the width holds them. -/
theorem compare_toDigits {base width m n : Nat} (hm : m < base ^ width) (hn : n < base ^ width) :
    compare (toDigits base width m) (toDigits base width n) = compare m n := by
  induction width generalizing m n with
  | zero =>
    obtain rfl : m = 0 := by simpa using hm
    obtain rfl : n = 0 := by simpa using hn
    rfl
  | succ width ih =>
    have hm' : m / base < base ^ width := Nat.div_lt_of_lt_mul (by rwa [Nat.pow_succ'] at hm)
    have hn' : n / base < base ^ width := Nat.div_lt_of_lt_mul (by rwa [Nat.pow_succ'] at hn)
    have hlast : compare [m % base] [n % base] = compare (m % base) (n % base) := by
      simp
    rw [toDigits, toDigits, Text.compare_append (by simp), ih hm' hn', hlast, ← compare_div_mod]

end Radix

namespace Base32

def byte (d : Nat) : UInt8 := (symbol d).toNat.toUInt8

theorem utf8EncodeChar_symbol : ∀ d < 32, String.utf8EncodeChar (symbol d) = [byte d] := by decide

theorem compare_byte : ∀ d e, d < 32 → e < 32 → compare (byte d) (byte e) = compare d e := by
  have h : ∀ d < 32, ∀ e < 32, compare (byte d) (byte e) = compare d e := by decide
  exact fun d e hd he => h d hd e he

end Base32

theorem Ulid.bytes_text (u : Ulid) :
    Text.bytes u.text = (Radix.toDigits 32 26 u.toNat).map Base32.byte := by
  have hd : ∀ d ∈ Radix.toDigits 32 26 u.toNat, String.utf8EncodeChar (Base32.symbol d) = [Base32.byte d] :=
    fun d h => Base32.utf8EncodeChar_symbol d (Radix.lt_of_mem_toDigits (by decide) h)
  calc Text.bytes u.text
      = (Radix.toDigits 32 26 u.toNat).flatMap fun d => String.utf8EncodeChar (Base32.symbol d) := by
        rw [Ulid.text, Text.bytes_ofList, Ulid.chars, List.flatMap_map]
    _ = (Radix.toDigits 32 26 u.toNat).flatMap fun d => [Base32.byte d] := List.flatMap_congr hd
    _ = (Radix.toDigits 32 26 u.toNat).map Base32.byte := List.map_eq_flatMap.symm

theorem Ulid.compare_digits {β : Type} [Ord β] {f : Nat → β}
    (hf : ∀ d e, d < 32 → e < 32 → compare (f d) (f e) = compare d e) (u v : Ulid) :
    compare ((Radix.toDigits 32 26 u.toNat).map f) ((Radix.toDigits 32 26 v.toNat).map f) =
      compare u.toNat v.toNat := by
  have hlt (u : Ulid) : u.toNat < 32 ^ 26 := Nat.lt_of_lt_of_le u.isLt (by decide)
  have hd (u : Ulid) : ∀ d ∈ Radix.toDigits 32 26 u.toNat, d < 32 :=
    fun d h => Radix.lt_of_mem_toDigits (by decide) h
  rw [Text.compare_map hf (hd u) (hd v), Radix.compare_toDigits (hlt u) (hlt v)]

theorem LocalId.compare_bytes {kind : IdKind} (a b : LocalId kind) :
    compare (Text.bytes a.text) (Text.bytes b.text) = compare a.ulid.toNat b.ulid.toNat := by
  have hlead : compare (Text.bytes (kind.tag ++ "_")) (Text.bytes (kind.tag ++ "_")) = .eq :=
    Std.ReflCmp.compare_self
  calc compare (Text.bytes a.text) (Text.bytes b.text)
      = compare (Text.bytes a.ulid.text) (Text.bytes b.ulid.text) := by
        rw [text, text, Text.bytes_append _ a.ulid.text, Text.bytes_append _ b.ulid.text,
          Text.compare_append rfl, hlead, Ordering.eq_then]
    _ = compare a.ulid.toNat b.ulid.toNat := by
        rw [Ulid.bytes_text, Ulid.bytes_text, Ulid.compare_digits Base32.compare_byte]

theorem LocalId.le_eq_bytes {kind : IdKind} (a b : LocalId kind) :
    a.le b = (compare (Text.bytes a.text) (Text.bytes b.text)).isLE := by
  rw [compare_bytes, Bool.eq_iff_iff, Nat.isLE_compare]
  simp [le, BitVec.le_def]

theorem Base32.compare_symbol :
    ∀ d e, d < 32 → e < 32 → compare (symbol d) (symbol e) = compare d e := by
  have h : ∀ d < 32, ∀ e < 32, compare (symbol d) (symbol e) = compare d e := by decide
  exact fun d e hd he => h d hd e he

theorem LocalId.text_lt_text_iff {kind : IdKind} {a b : LocalId kind} :
    a.text < b.text ↔ a.ulid.toNat < b.ulid.toNat := by
  have hchars (id : LocalId kind) : id.text.toList = (kind.tag ++ "_").toList ++ id.ulid.chars := by
    rw [text, String.toList_append, Ulid.text, String.toList_ofList]
  have hlead : compare (kind.tag ++ "_").toList (kind.tag ++ "_").toList = .eq :=
    Std.ReflCmp.compare_self
  rw [String.lt_iff, ← Text.compare_eq_lt_iff, hchars, hchars, Text.compare_append rfl, hlead,
    Ordering.eq_then, Ulid.chars, Ulid.chars, Ulid.compare_digits Base32.compare_symbol,
    Nat.compare_eq_lt]

theorem Base32.isUpper_symbol : ∀ d < 32, (symbol d).isDigit ∨ (symbol d).isUpper := by decide

/-- No text has the tags of two kinds. -/
theorem LocalId.kind_eq_of_parse {kind kind' : IdKind} {s : String} {id : LocalId kind}
    {id' : LocalId kind'} (h : parse kind s = .ok id) (h' : parse kind' s = .ok id') : kind = kind' := by
  obtain ⟨body, rfl, -⟩ := parse_eq_ok_iff.1 h
  obtain ⟨body', hs, -⟩ := parse_eq_ok_iff.1 h'
  have hhead := congrArg (fun t => t.toList.head?) hs
  cases kind <;> cases kind' <;> first | rfl | simp [IdKind.tag] at hhead

/-- Ids and their texts stand for each other. -/
theorem ids_exact :
    (∀ (kind : IdKind) (id : LocalId kind), LocalId.parse kind id.text = .ok id ∧
      ∃ body, id.text = kind.tag ++ "_" ++ body ∧ body.toList.length = 26 ∧
        ∀ c ∈ body.toList, c.isDigit ∨ c.isUpper) ∧
    (∀ (kind : IdKind) (a b : LocalId kind), a ≠ b → a.text ≠ b.text) ∧
    (∀ (s : String) (record : RecordId) (request : RequestId),
      ¬(LocalId.parse .record s = .ok record ∧ LocalId.parse .request s = .ok request)) ∧
    (∀ (kind : IdKind) (s : String) (id : LocalId kind),
      (LocalId.parse kind s = .ok id ↔
        ∃ body, s = kind.tag ++ "_" ++ body ∧ id.ulid.Spells body.toList) ∧
      (LocalId.parse kind s = .ok id → LocalId.parse kind id.text = .ok id)) ∧
    (∀ (kind : IdKind) (a b : LocalId kind),
      compare a.ulid.toNat b.ulid.toNat = compare (Text.bytes a.text) (Text.bytes b.text) ∧
      a.le b = (compare (Text.bytes a.text) (Text.bytes b.text)).isLE) ∧
    (∀ id : ResourceId, ResourceId.parse id.text = .ok id ∧
      ∀ s, ResourceId.parse s = .ok id ↔ id.uuid.Spells s.toList) := by
  refine ⟨?_, ?_, ?_, ?_, ?_, ?_⟩
  · intro kind id
    refine ⟨id.parse_text, id.ulid.text, rfl, by simp [Ulid.text, Ulid.chars], ?_⟩
    intro c hc
    rw [Ulid.text, String.toList_ofList] at hc
    obtain ⟨d, hd, rfl⟩ := List.mem_map.1 hc
    exact Base32.isUpper_symbol d (Radix.lt_of_mem_toDigits (by decide) hd)
  · intro kind a b hne h
    exact hne (LocalId.text_injective h)
  · rintro s record request ⟨hrecord, hrequest⟩
    cases LocalId.kind_eq_of_parse hrecord hrequest
  · intro kind s id
    exact ⟨LocalId.parse_eq_ok_iff_spells, fun _ => id.parse_text⟩
  · intro kind a b
    exact ⟨(LocalId.compare_bytes a b).symm, LocalId.le_eq_bytes a b⟩
  · intro id
    exact ⟨id.parse_text, fun s => ResourceId.parse_eq_ok_iff_spells⟩

/-- A text in lower case whose first digit has four bits, and one in braces. -/
theorem ids_exact_in_other_spellings :
    LocalId.parse .record "pid_g0000000000000000000000a0z" = .ok ⟨10271⟩ ∧
    LocalId.parse .record (LocalId.text (⟨10271⟩ : RecordId)) = .ok ⟨10271⟩ ∧
    (⟨10270⟩ : RecordId).text ≠ (⟨10271⟩ : RecordId).text ∧
    ResourceId.parse "\x7b00000000-0000-0000-0000-00000000000A\x7d" = .ok ⟨10⟩ := by
  obtain ⟨-, hne, -, hspelled, -, hresource⟩ := ids_exact
  have hread : LocalId.parse .record "pid_g0000000000000000000000a0z" = .ok ⟨10271⟩ :=
    (hspelled .record _ _).1.2 ⟨"g0000000000000000000000a0z", rfl, 16, by decide, by decide, by decide⟩
  have hbraced : Uuid.Spells 10 ('{' :: "00000000-0000-0000-0000-00000000000A".toList ++ ['}']) :=
    .braced (by decide)
  exact ⟨hread, (hspelled .record _ _).2 hread, hne .record _ _ (by decide), ((hresource ⟨10⟩).2 _).2 hbraced⟩

end IdentifierRegistrar
