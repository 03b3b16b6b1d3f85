import IdentifierRegistrar.Proofs.Identifier.Spelling

/-! What a text may say beyond an id. The 26 digits of a ULID's text hold 130 bits, and the two above the
128 of the ULID are dropped, so that every id has four written forms, the case of letters apart. An id is
written in the first of them: a text comes back as it was given, but for the case of its letters, exactly
when its first digit is below eight (`LocalId.parse_strict_iff`, `LocalId.surplus_dropped`). -/

namespace IdentifierRegistrar

namespace Base32

theorem toUpper_symbol : ∀ d < 32, (symbol d).toUpper = symbol d := by decide

theorem toNat_symbol_lt : ∀ d < 32, (symbol d).toNat < 128 := by decide

/-- Digits below eight look the same in either case. -/
theorem lt_eight_iff {c : Char} {d : Nat} (hd : d < 32) (h : c.toUpper = symbol d) :
    d < 8 ↔ '0' ≤ c ∧ c ≤ '7' := by
  by_cases hc : c.toNat < 128
  · have hcase : ∀ d < 32, c.toUpper = symbol d → (d < 8 ↔ '0' ≤ c ∧ c ≤ '7') :=
      Text.forall_ascii (p := fun c => ∀ d < 32, c.toUpper = symbol d → (d < 8 ↔ '0' ≤ c ∧ c ≤ '7'))
        (by decide +kernel) hc
    exact hcase d hd h
  · rw [Text.toUpper_eq_self hc] at h
    exact absurd (h ▸ toNat_symbol_lt d hd) hc

end Base32

namespace Ulid

def count : Nat := 0x100000000000000000000000000000000

def digitsOver (surplus : Nat) (u : Ulid) : List Nat := Radix.toDigits 32 26 (surplus * count + u.toNat)

def charsOver (surplus : Nat) (u : Ulid) : List Char := (u.digitsOver surplus).map Base32.symbol

variable {u : Ulid} {cs : List Char} {surplus m n : Nat}

theorem charsOver_zero (u : Ulid) : u.charsOver 0 = u.chars := by
  rw [charsOver, digitsOver, Nat.zero_mul, Nat.zero_add, chars]

theorem toNat_lt_count (u : Ulid) : u.toNat < count := u.isLt

theorem lt_of_mem_digitsOver {d : Nat} (h : d ∈ u.digitsOver surplus) : d < 32 :=
  Radix.lt_of_mem_toDigits (by decide) h

theorem length_digitsOver (surplus : Nat) (u : Ulid) : (u.digitsOver surplus).length = 26 :=
  Radix.length_toDigits _ _ _

theorem ofDigits_digitsOver (h : surplus < 4) :
    Radix.ofDigits 32 (u.digitsOver surplus) = surplus * count + u.toNat := by
  have hwidth : Nat.pow 32 26 = 4 * count := by decide
  have hu := u.toNat_lt_count
  apply Radix.ofDigits_toDigits_of_lt
  rw [hwidth]
  calc surplus * count + u.toNat < surplus * count + count := Nat.add_lt_add_left hu _
    _ = (surplus + 1) * count := (Nat.succ_mul surplus count).symm
    _ ≤ 4 * count := Nat.mul_le_mul_right count h

theorem map_toUpper_charsOver : (u.charsOver surplus).map Char.toUpper = u.charsOver surplus := by
  rw [charsOver, List.map_map]
  exact List.map_congr_left fun d hd => Base32.toUpper_symbol d (lt_of_mem_digitsOver hd)

/-- The surplus can be told from the text. -/
theorem charsOver_injective (hm : m < 4) (hn : n < 4) (h : u.charsOver m = u.charsOver n) : m = n := by
  have hread (k : Nat) : (u.charsOver k).mapM Base32.digit? = some (u.digitsOver k) :=
    mapM_map_eq_some fun d hd => Base32.digit?_symbol d (lt_of_mem_digitsOver hd)
  have hdigits := hread m
  rw [h, hread n, Option.some.injEq] at hdigits
  have hnumber := ofDigits_digitsOver (u := u) hm
  rw [← hdigits, ofDigits_digitsOver hn] at hnumber
  have hcount : 0 < count := Nat.lt_of_le_of_lt (Nat.zero_le _) u.toNat_lt_count
  exact (Nat.eq_of_mul_eq_mul_right hcount (Nat.add_right_cancel hnumber)).symm

/-- Only a surplus makes the first digit eight or more. -/
theorem exists_digitsOver (u : Ulid) (h : surplus < 4) :
    ∃ d ds, u.digitsOver surplus = d :: ds ∧ (d < 8 ↔ surplus = 0) := by
  obtain ⟨d, ds, hds⟩ := List.exists_cons_of_length_eq_add_one (length_digitsOver surplus u)
  refine ⟨d, ds, hds, ?_⟩
  have hlen : ds.length = 25 := by
    have := length_digitsOver surplus u
    rw [hds, List.length_cons] at this
    omega
  have hrest : Radix.ofDigits 32 ds < 32 ^ ds.length :=
    Radix.ofDigits_lt fun e he => lt_of_mem_digitsOver (hds ▸ List.mem_cons_of_mem d he)
  have hnumber := ofDigits_digitsOver (u := u) h
  have hu := u.toNat_lt_count
  rw [hds, Radix.ofDigits_cons, hlen] at hnumber
  rw [hlen] at hrest
  unfold count at hnumber hu
  omega

/-- A ULID is read off its digits, whatever surplus is above it. -/
theorem parse_eq_ok_iff_over :
    parse cs = .ok u ↔ ∃ surplus < 4, cs.map Char.toUpper = u.charsOver surplus := by
  rw [parse_eq_ok_iff_digits]
  constructor
  · rintro ⟨digits, hlen, hlt, hcs, rfl⟩
    have hnumber : Radix.ofDigits 32 digits < 4 * count := by
      have hwidth : 32 ^ 26 = 4 * count := by norm_num [count]
      have := Radix.ofDigits_lt hlt
      rwa [hlen, hwidth] at this
    have hback := Radix.toDigits_ofDigits hlt
    rw [hlen] at hback
    refine ⟨Radix.ofDigits 32 digits / count, Nat.div_lt_of_lt_mul (by rwa [Nat.mul_comm]), ?_⟩
    have hsame : Radix.ofDigits 32 digits / count * count +
        (BitVec.ofNat 128 (Radix.ofDigits 32 digits)).toNat = Radix.ofDigits 32 digits := by
      rw [BitVec.toNat_ofNat]
      exact Nat.div_add_mod' _ _
    rw [hcs, charsOver, digitsOver, hsame, hback]
  · rintro ⟨surplus, hsurplus, hcs⟩
    refine ⟨u.digitsOver surplus, length_digitsOver _ _, fun d => lt_of_mem_digitsOver, hcs, ?_⟩
    apply BitVec.eq_of_toNat_eq
    rw [ofDigits_digitsOver hsurplus, BitVec.toNat_ofNat]
    have hu := u.toNat_lt_count
    unfold count at hu ⊢
    omega

end Ulid

namespace LocalId

variable {kind : IdKind} {s t : String} {id : LocalId kind} {surplus : Nat}

/-- Behind the underscore the two texts differ in the case of letters at most. -/
def Recased (kind : IdKind) (s t : String) : Prop :=
  ∃ body body' : String, s = kind.tag ++ "_" ++ body ∧ t = kind.tag ++ "_" ++ body' ∧
    body.toList.map Char.toUpper = body'.toList.map Char.toUpper

def Narrow (kind : IdKind) (s : String) : Prop :=
  ∃ body : String, s = kind.tag ++ "_" ++ body ∧ ∃ c ∈ body.toList.head?, '0' ≤ c ∧ c ≤ '7'

def textOver (surplus : Nat) (id : LocalId kind) : String :=
  kind.tag ++ "_" ++ String.ofList (id.ulid.charsOver surplus)

theorem textOver_zero (id : LocalId kind) : id.textOver 0 = id.text := by
  rw [textOver, Ulid.charsOver_zero, text, Ulid.text]

theorem body_inj {body body' : String} (h : kind.tag ++ "_" ++ body = kind.tag ++ "_" ++ body') :
    body = body' := by
  have hlist := congrArg String.toList h
  simp only [String.toList_append] at hlist
  exact String.toList_inj.1 (List.append_cancel_left hlist)

theorem narrow_body_iff (kind : IdKind) (body : String) :
    Narrow kind (kind.tag ++ "_" ++ body) ↔ ∃ c ∈ body.toList.head?, '0' ≤ c ∧ c ≤ '7' := by
  constructor
  · rintro ⟨body', h, hfirst⟩
    obtain rfl := body_inj h
    exact hfirst
  · exact fun hfirst => ⟨body, rfl, hfirst⟩

theorem recased_textOver_iff : Recased kind s (id.textOver surplus) ↔
    ∃ body, s = kind.tag ++ "_" ++ body ∧ body.toList.map Char.toUpper = id.ulid.charsOver surplus := by
  constructor
  · rintro ⟨body, body', hs, ht, hbody⟩
    obtain rfl := body_inj ht
    exact ⟨body, hs, by rw [hbody, String.toList_ofList, Ulid.map_toUpper_charsOver]⟩
  · rintro ⟨body, hs, hbody⟩
    exact ⟨body, _, hs, rfl, by rw [hbody, String.toList_ofList, Ulid.map_toUpper_charsOver]⟩

theorem parse_eq_ok_iff_over :
    parse kind s = .ok id ↔ ∃ surplus < 4, Recased kind s (id.textOver surplus) := by
  simp only [parse_eq_ok_iff, Ulid.parse_eq_ok_iff_over, recased_textOver_iff]
  constructor
  · rintro ⟨body, hs, surplus, hsurplus, hbody⟩
    exact ⟨surplus, hsurplus, body, hs, hbody⟩
  · rintro ⟨surplus, hsurplus, body, hs, hbody⟩
    exact ⟨body, hs, surplus, hsurplus, hbody⟩

theorem recased_inj {m n : Nat} (hm : m < 4) (hn : n < 4) (h : Recased kind s (id.textOver m))
    (h' : Recased kind s (id.textOver n)) : m = n := by
  obtain ⟨body, rfl, hbody⟩ := recased_textOver_iff.1 h
  obtain ⟨body', hs, hbody'⟩ := recased_textOver_iff.1 h'
  obtain rfl := body_inj hs
  exact Ulid.charsOver_injective hm hn (hbody.symm.trans hbody')

/-- A text that is read as an id without a surplus is one whose first digit is below eight. -/
theorem narrow_iff (hsurplus : surplus < 4) (h : Recased kind s (id.textOver surplus)) :
    Narrow kind s ↔ surplus = 0 := by
  obtain ⟨body, rfl, hbody⟩ := recased_textOver_iff.1 h
  obtain ⟨d, ds, hds, hfirst⟩ := id.ulid.exists_digitsOver hsurplus
  have hd : d < 32 := Ulid.lt_of_mem_digitsOver (hds ▸ List.mem_cons_self ..)
  rw [Ulid.charsOver, hds, List.map_cons] at hbody
  obtain ⟨c, rest, hcs, hc, -⟩ := List.map_eq_cons_iff.1 hbody
  rw [← hfirst, Base32.lt_eight_iff hd hc, narrow_body_iff, hcs]
  simp

theorem Recased.symm (h : Recased kind s t) : Recased kind t s := by
  obtain ⟨body, body', hs, ht, hbody⟩ := h
  exact ⟨body', body, ht, hs, hbody.symm⟩

theorem Recased.trans {u : String} (h : Recased kind s t) (h' : Recased kind t u) : Recased kind s u := by
  obtain ⟨body, body', hs, rfl, hbody⟩ := h
  obtain ⟨body'', body''', ht, hu, hbody'⟩ := h'
  obtain rfl := body_inj ht
  exact ⟨body, body''', hs, hu, hbody.trans hbody'⟩

theorem recased_text_iff (h : parse kind s = .ok id) : Recased kind s id.text ↔ Narrow kind s := by
  obtain ⟨surplus, hsurplus, hs⟩ := parse_eq_ok_iff_over.1 h
  rw [narrow_iff hsurplus hs, ← textOver_zero]
  constructor
  · exact fun hzero => recased_inj hsurplus (by decide) hs hzero
  · rintro rfl
    exact hs

/-- Which texts are read as an id, and which of them the id is written back as. Each id has four forms, by
what stands above its bits, and two texts of it differ in the case of letters alone exactly when they are
of one form. -/
theorem parse_strict_iff (kind : IdKind) (s t : String) (id : LocalId kind) :
    (parse kind s = .ok id ↔ ∃ surplus < 4, Recased kind s (id.textOver surplus)) ∧
    (id.textOver 0 = id.text ∧
      ∀ m n, m < 4 → n < 4 → (Recased kind (id.textOver m) (id.textOver n) ↔ m = n)) ∧
    (parse kind s = .ok id → (Recased kind s id.text ↔ Narrow kind s)) ∧
    (parse kind s = .ok id → parse kind t = .ok id → Narrow kind s →
      (Recased kind s t ↔ Narrow kind t)) := by
  refine ⟨parse_eq_ok_iff_over, ⟨id.textOver_zero, ?_⟩, recased_text_iff, ?_⟩
  · intro m n hm hn
    constructor
    · exact fun h => recased_inj hm hn ⟨_, _, rfl, rfl, rfl⟩ h
    · rintro rfl
      exact ⟨_, _, rfl, rfl, rfl⟩
  · intro hs ht hnarrow
    have htext := (recased_text_iff hs).2 hnarrow
    rw [← recased_text_iff ht]
    exact ⟨fun h => h.symm.trans htext, fun h => htext.trans h.symm⟩

/-- A text in mixed case that is written back in upper case, and two texts of one id of which only the one
is written back. -/
theorem mixed_case_strict :
    Recased .request "req_00000000000000000000000a0Z" (⟨10271⟩ : RequestId).text ∧
    ¬Recased .record "pid_7zzzzzzzzzzzzzzzzzzzzzzzzz" "pid_ZZZZZZZZZZZZZZZZZZZZZZZZZZ" := by
  have hmixed : parse .request "req_00000000000000000000000a0Z" = .ok ⟨10271⟩ :=
    parse_eq_ok_iff_spells.2 ⟨"00000000000000000000000a0Z", rfl, 0, by decide, by decide, by decide⟩
  have hlower : parse .record "pid_7zzzzzzzzzzzzzzzzzzzzzzzzz" = .ok ⟨-1⟩ :=
    parse_eq_ok_iff_spells.2 ⟨"7zzzzzzzzzzzzzzzzzzzzzzzzz", rfl, 7, by decide, by decide, by decide⟩
  have hupper : parse .record "pid_ZZZZZZZZZZZZZZZZZZZZZZZZZZ" = .ok ⟨-1⟩ :=
    parse_eq_ok_iff_spells.2 ⟨"ZZZZZZZZZZZZZZZZZZZZZZZZZZ", rfl, 31, by decide, by decide, by decide⟩
  have hfirst : Narrow .request "req_00000000000000000000000a0Z" :=
    ⟨"00000000000000000000000a0Z", rfl, '0', by decide⟩
  have hnarrow : Narrow .record "pid_7zzzzzzzzzzzzzzzzzzzzzzzzz" :=
    ⟨"7zzzzzzzzzzzzzzzzzzzzzzzzz", rfl, '7', by decide⟩
  have hwide : ¬Narrow .record "pid_ZZZZZZZZZZZZZZZZZZZZZZZZZZ" := fun h => by
    obtain ⟨c, hc, -, hle⟩ := (narrow_body_iff .record "ZZZZZZZZZZZZZZZZZZZZZZZZZZ").1 h
    obtain rfl : c = 'Z' := Option.mem_unique hc (by decide)
    exact absurd hle (by decide)
  obtain ⟨-, -, hback, -⟩ := parse_strict_iff .request "req_00000000000000000000000a0Z" "" ⟨10271⟩
  obtain ⟨-, -, -, hsame⟩ := parse_strict_iff .record "pid_7zzzzzzzzzzzzzzzzzzzzzzzzz"
    "pid_ZZZZZZZZZZZZZZZZZZZZZZZZZZ" ⟨-1⟩
  exact ⟨(hback hmixed).2 hfirst, fun h => hwide ((hsame hlower hupper hnarrow).1 h)⟩

/-- A first digit of eight is taken for one of zero: the text is read and does not come back. -/
theorem surplus_dropped :
    parse .record "pid_80000000000000000000000000" = .ok ⟨0⟩ ∧
    parse .record "pid_00000000000000000000000000" = .ok ⟨0⟩ ∧
    ¬Recased .record "pid_80000000000000000000000000" (⟨0⟩ : RecordId).text := by
  have hread : parse .record "pid_80000000000000000000000000" = .ok ⟨0⟩ :=
    parse_eq_ok_iff_spells.2 ⟨"80000000000000000000000000", rfl, 8, by decide, by decide, by decide⟩
  refine ⟨hread, LocalId.parse_text ⟨0⟩, fun h => ?_⟩
  obtain ⟨c, hc, -, hle⟩ :=
    (narrow_body_iff .record "80000000000000000000000000").1 ((recased_text_iff hread).1 h)
  obtain rfl : c = '8' := Option.mem_unique hc (by decide)
  exact absurd hle (by decide)

end LocalId

end IdentifierRegistrar
