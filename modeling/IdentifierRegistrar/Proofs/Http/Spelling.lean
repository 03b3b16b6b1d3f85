import IdentifierRegistrar.Http.Url
import Mathlib.Data.List.Basic

/-! How a name is written where some characters may not stand: as it is, or in escapes of the bytes of a
character (`Spells`). Names that are spelled alike are one name, unless one writes out the escape of a
character that the other holds (`Spells.eq`). -/

namespace IdentifierRegistrar

namespace Hex

theorem upper_ne_percent : ∀ d < 16, upper d ≠ '%' := by decide

theorem digit?_upper : ∀ d < 16, digit? (upper d) = some d := by decide

end Hex

namespace Url

def escape (c : Char) : List Char := (String.utf8EncodeChar c).flatMap encodeByte

def isEscaped (c : Char) : Bool := reservedInPath c || reservedInQuery c

theorem encodeByte_injective {b b' : UInt8} (h : encodeByte b = encodeByte b') : b = b' := by
  simp only [encodeByte, List.cons.injEq, and_true, true_and] at h
  have hb := b.toNat_lt
  have hb' := b'.toNat_lt
  have hhigh : b.toNat / 16 = b'.toNat / 16 := by
    have := congrArg Hex.digit? h.1
    rwa [Hex.digit?_upper _ (by omega), Hex.digit?_upper _ (by omega), Option.some.injEq] at this
  have hlow : b.toNat % 16 = b'.toNat % 16 := by
    have := congrArg Hex.digit? h.2
    rwa [Hex.digit?_upper _ (by omega), Hex.digit?_upper _ (by omega), Option.some.injEq] at this
  exact UInt8.toNat_inj.1 (by omega)

/-- Of two runs of escaped bytes before whatever follows, the one begins with the other. -/
theorem prefix_of_encodeByte {bs bs' : List UInt8} {t t' : List Char} (hle : bs.length ≤ bs'.length)
    (h : bs.flatMap encodeByte ++ t = bs'.flatMap encodeByte ++ t') : bs <+: bs' := by
  induction bs generalizing bs' with
  | nil => exact List.nil_prefix
  | cons b bs ih =>
    cases bs' with
    | nil => simp at hle
    | cons b' bs' =>
      simp only [List.flatMap_cons, List.append_assoc] at h
      obtain ⟨hb, hrest⟩ := List.append_inj h rfl
      obtain rfl := encodeByte_injective hb
      exact List.cons_prefix_cons.2 ⟨rfl, ih (by simpa using hle) hrest⟩

theorem eq_of_prefix_utf8 {c c' : Char} (h : String.utf8EncodeChar c <+: String.utf8EncodeChar c') :
    c = c' := by
  obtain ⟨more, hmore⟩ := h
  have hc : ByteArray.utf8DecodeChar? (String.utf8EncodeChar c').toByteArray 0 = some c' := by
    simpa using ByteArray.utf8DecodeChar?_utf8EncodeChar_append (b := ByteArray.empty) (c := c')
  rw [← hmore, List.toByteArray_append, ByteArray.utf8DecodeChar?_utf8EncodeChar_append] at hc
  exact Option.some.inj hc

/-- The bytes of a character: the first, and those with which no character begins. -/
theorem escape_eq (c : Char) : ∃ b bs, String.utf8EncodeChar c = b :: bs ∧ b.IsUTF8FirstByte ∧
    (∀ b' ∈ bs, ¬ b'.IsUTF8FirstByte) ∧ escape c = encodeByte b ++ bs.flatMap encodeByte := by
  cases h : String.utf8EncodeChar c with
  | nil => exact absurd h String.utf8EncodeChar_ne_nil
  | cons b bs =>
    have hfirst (i : Nat) (hi : i < (b :: bs).length) : (b :: bs)[i].IsUTF8FirstByte ↔ i = 0 := by
      have hi' : i < (String.utf8EncodeChar c).length := h ▸ hi
      have hget : (String.utf8EncodeChar c)[i] = (b :: bs)[i] := by simp only [h]
      rw [← hget]
      exact UInt8.isUTF8FirstByte_getElem_utf8EncodeChar
    refine ⟨b, bs, rfl, (hfirst 0 (by simp)).2 rfl, fun b' hb' => ?_, by rw [escape, h, List.flatMap_cons]⟩
    obtain ⟨i, hi, rfl⟩ := List.mem_iff_getElem.1 hb'
    intro hcontra
    have := (hfirst (i + 1) (by simpa using hi)).1 (by simpa using hcontra)
    omega

/-- No escape of a character begins with that of another. -/
theorem escape_inj {c c' : Char} {t t' : List Char} (h : escape c ++ t = escape c' ++ t') :
    c = c' ∧ t = t' := by
  have heq : c = c' := by
    rcases Nat.le_total (String.utf8EncodeChar c).length (String.utf8EncodeChar c').length with hle | hle
    · exact eq_of_prefix_utf8 (prefix_of_encodeByte hle h)
    · exact (eq_of_prefix_utf8 (prefix_of_encodeByte hle h.symm)).symm
  subst heq
  exact ⟨rfl, List.append_cancel_left h⟩

/-- How a name is written where some characters are escaped. One that need not be may be. -/
inductive Spells : List Char → List Char → Prop
  | nil : Spells [] []
  | plain {c : Char} {name text : List Char} (h : Spells name text) : Spells (c :: name) (c :: text)
  | escaped {c : Char} {name text : List Char} (hc : isEscaped c = true) (h : Spells name text) :
    Spells (c :: name) (escape c ++ text)

namespace Spells

variable {name name' text text' rest : List Char} {c : Char}

theorem append (h : Spells name text) (h' : Spells name' text') : Spells (name ++ name') (text ++ text') := by
  induction h with
  | nil => exact h'
  | plain _ ih => exact .plain ih
  | escaped hc _ ih =>
    rw [List.append_assoc]
    exact .escaped hc ih

theorem flatMap {reserved : Char → Bool} (h : ∀ c, reserved c = true → isEscaped c = true)
    (name : List Char) : Spells name (name.flatMap (encodeChar reserved)) := by
  induction name with
  | nil => exact .nil
  | cons c name ih =>
    rw [List.flatMap_cons, encodeChar]
    split
    next hc => exact .escaped (h c hc) ih
    next => exact .plain ih

/-- What is no escape was written as it is. -/
theorem of_cons (h : Spells name (c :: rest)) (hc : c ≠ '%') :
    ∃ name', name = c :: name' ∧ Spells name' rest := by
  generalize htext : c :: rest = text at h
  cases h with
  | nil => cases htext
  | plain h =>
    obtain ⟨rfl, rfl⟩ := List.cons.inj htext
    exact ⟨_, rfl, h⟩
  | @escaped d _ _ _ h =>
    obtain ⟨b, bs, -, -, -, hd⟩ := escape_eq d
    rw [hd] at htext
    exact absurd (List.cons.inj htext).1 hc

/-- The digits after a percent sign that was written as it is are written as they are. -/
theorem of_digits {b : UInt8} (h : Spells name ((encodeByte b).tail ++ rest)) :
    ∃ name', name = (encodeByte b).tail ++ name' ∧ Spells name' rest := by
  have hb := b.toNat_lt
  obtain ⟨name₁, rfl, h₁⟩ := of_cons h (Hex.upper_ne_percent _ (by omega))
  obtain ⟨name₂, rfl, h₂⟩ := of_cons h₁ (Hex.upper_ne_percent _ (by omega))
  exact ⟨name₂, rfl, h₂⟩

/-- Bytes with which no character begins come of no escape: they were written out. -/
theorem of_bytes {bs : List UInt8} (hbs : ∀ b ∈ bs, ¬ b.IsUTF8FirstByte)
    (h : Spells name (bs.flatMap encodeByte ++ rest)) :
    ∃ name', name = bs.flatMap encodeByte ++ name' := by
  induction bs generalizing name with
  | nil => exact ⟨name, rfl⟩
  | cons b bs ih =>
    have hb := hbs b (by simp)
    rw [List.flatMap_cons, List.append_assoc] at h
    generalize htext : encodeByte b ++ (bs.flatMap encodeByte ++ rest) = text at h
    cases h with
    | nil => cases htext
    | plain h =>
      obtain ⟨rfl, rfl⟩ := List.cons.inj htext
      obtain ⟨name₁, rfl, h₁⟩ := of_digits h
      obtain ⟨name₂, rfl⟩ := ih (fun b' hb' => hbs b' (by simp [hb'])) h₁
      exact ⟨name₂, by simp [encodeByte]⟩
    | @escaped d _ _ _ h =>
      obtain ⟨b', bs', -, hfirst, -, hd⟩ := escape_eq d
      rw [hd, List.append_assoc] at htext
      obtain rfl := encodeByte_injective (List.append_inj htext rfl).1
      exact absurd hfirst hb

/-- An escape is read as its character, or the name writes the escape out. -/
theorem of_escape (h : Spells name (escape c ++ rest)) :
    (∃ name', name = c :: name' ∧ Spells name' rest) ∨ escape c <+: name := by
  obtain ⟨b, bs, -, -, hbs, hc⟩ := escape_eq c
  generalize htext : escape c ++ rest = text at h
  cases h with
  | nil => simp [hc, encodeByte] at htext
  | plain h =>
    rw [hc, List.append_assoc] at htext
    obtain ⟨rfl, rfl⟩ := List.cons.inj htext
    obtain ⟨name₁, rfl, h₁⟩ := of_digits h
    obtain ⟨name₂, rfl⟩ := of_bytes hbs h₁
    exact .inr ⟨name₂, by rw [hc]; simp [encodeByte]⟩
  | escaped hd h =>
    obtain ⟨rfl, rfl⟩ := escape_inj htext
    exact .inl ⟨_, rfl, h⟩

end Spells

/-- Neither name writes out the escape of a character that the other holds. -/
def Unmixed (name name' : List Char) : Prop :=
  (∀ c ∈ name', isEscaped c = true → ¬ escape c <:+: name) ∧
    ∀ c ∈ name, isEscaped c = true → ¬ escape c <:+: name'

theorem Unmixed.tail {c c' : Char} {name name' : List Char} (h : Unmixed (c :: name) (c' :: name')) :
    Unmixed name name' :=
  ⟨fun d hd hesc hin => h.1 d (by simp [hd]) hesc (hin.trans (List.suffix_cons c name).isInfix),
    fun d hd hesc hin => h.2 d (by simp [hd]) hesc (hin.trans (List.suffix_cons c' name').isInfix)⟩

/-- Names without a percent sign write out no escape. -/
theorem unmixed_of_no_percent {name name' : List Char} (h : '%' ∉ name) (h' : '%' ∉ name') :
    Unmixed name name' := by
  have hpercent (c : Char) : '%' ∈ escape c := by
    obtain ⟨b, bs, -, -, -, hc⟩ := escape_eq c
    rw [hc, encodeByte]
    simp
  exact ⟨fun c _ _ hin => h (hin.subset (hpercent c)), fun c _ _ hin => h' (hin.subset (hpercent c))⟩

/-- Names that are spelled alike are one. -/
theorem Spells.eq {name name' text : List Char} (h : Spells name text) (h' : Spells name' text)
    (hmixed : Unmixed name name') : name = name' := by
  induction h generalizing name' with
  | nil =>
    generalize htext : ([] : List Char) = text at h'
    cases h' with
    | nil => rfl
    | plain => cases htext
    | @escaped d =>
      obtain ⟨b, bs, -, -, -, hd⟩ := escape_eq d
      simp [hd, encodeByte] at htext
  | @plain c name text h ih =>
    generalize htext : c :: text = text' at h'
    cases h' with
    | nil => cases htext
    | plain h' =>
      obtain ⟨rfl, rfl⟩ := List.cons.inj htext
      rw [ih h' hmixed.tail]
    | @escaped d name₁ text₁ hd h' =>
      have hspelled : Spells (c :: name) (escape d ++ text₁) := htext ▸ .plain h
      rcases hspelled.of_escape with ⟨name₂, hname, h₂⟩ | hout
      · -- A percent sign needs no escape, so it is not the character that was escaped.
        obtain ⟨rfl, rfl⟩ := List.cons.inj hname
        obtain ⟨b, bs, -, -, -, hb⟩ := escape_eq c
        rw [hb] at htext
        obtain ⟨rfl, -⟩ := List.cons.inj htext
        exact absurd hd (by decide)
      · exact absurd hout.isInfix (hmixed.1 d (by simp) hd)
  | @escaped c name text hc h ih =>
    rcases h'.of_escape with ⟨name₂, rfl, h₂⟩ | hout
    · rw [ih h₂ hmixed.tail]
    · exact absurd hout.isInfix (hmixed.2 c (by simp) hc)

end Url

end IdentifierRegistrar
