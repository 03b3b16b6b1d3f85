import IdentifierRegistrar.Proofs.Identifier.ReadBack
import Mathlib.Data.List.Basic
import Mathlib.Data.List.Induction
import Mathlib.Data.List.GetD
import Mathlib.Tactic.Ring

/-!
All the ways to write an id. A ULID may be written in lower case and with a larger first digit, of
which the three lower bits count; a UUID in either case, with or without hyphens, in braces or after
`urn:uuid:`. A text is read as an id exactly when it is one of the ways to write that id, so
nothing that is accepted can be taken for another id.
-/

namespace IdentifierRegistrar

/-- Reading symbol by symbol, where `spell` is what the symbols have in common that stand for one value. -/
theorem mapM_eq_some_iff {α β γ : Type} {f : α → Option β} {fold : α → γ} {spell : β → γ} {p : β → Prop}
    (h : ∀ a b, f a = some b ↔ p b ∧ fold a = spell b) {as : List α} {bs : List β} :
    as.mapM f = some bs ↔ (∀ b ∈ bs, p b) ∧ as.map fold = bs.map spell := by
  induction as generalizing bs with
  | nil => cases bs <;> simp
  | cons a as ih =>
    rw [List.mapM_cons]
    cases bs with
    | nil => cases f a <;> cases as.mapM f <;> simp
    | cons b bs =>
      have hstep : (do let b' ← f a; let bs' ← as.mapM f; pure (b' :: bs') : Option (List β)) =
          some (b :: bs) ↔ f a = some b ∧ as.mapM f = some bs := by
        cases f a <;> cases as.mapM f <;> simp
      rw [hstep, h, ih]
      simp only [List.mem_cons, forall_eq_or_imp, List.map_cons, List.cons.injEq]
      tauto

namespace Text

/-- What holds of the ASCII characters, one by one, holds of every character below 128. -/
theorem forall_ascii {p : Char → Prop} (h : ∀ n < 128, p (Char.ofNat n)) {c : Char} (hc : c.toNat < 128) :
    p c := by
  have := h c.toNat hc
  rwa [Char.ofNat_toNat] at this

theorem toLower_eq_self {c : Char} (hc : ¬c.toNat < 128) : c.toLower = c := by
  unfold Char.toLower
  split
  · rename_i h
    have : c.toNat ≤ 90 := h.2
    omega
  · rfl

theorem toUpper_eq_self {c : Char} (hc : ¬c.toNat < 128) : c.toUpper = c := by
  unfold Char.toUpper
  split
  · rename_i h
    have : c.toNat ≤ 122 := h.2
    omega
  · rfl

theorem utf8Size_toLower (c : Char) : c.toLower.utf8Size = c.utf8Size := by
  by_cases hc : c.toNat < 128
  · exact forall_ascii (p := fun c => c.toLower.utf8Size = c.utf8Size) (by decide) hc
  · rw [toLower_eq_self hc]

theorem utf8Size_toUpper (c : Char) : c.toUpper.utf8Size = c.utf8Size := by
  by_cases hc : c.toNat < 128
  · exact forall_ascii (p := fun c => c.toUpper.utf8Size = c.utf8Size) (by decide) hc
  · rw [toUpper_eq_self hc]

theorem toLower_eq_hyphen (c : Char) : c.toLower = '-' ↔ c = '-' := by
  by_cases hc : c.toNat < 128
  · exact forall_ascii (p := fun c => c.toLower = '-' ↔ c = '-') (by decide) hc
  · rw [toLower_eq_self hc]

theorem split_map {c : Char} {f : Char → Char} (hf : ∀ d, f d = c ↔ d = c) (cs : List Char) :
    split c (cs.map f) = (split c cs).map (List.map f) := by
  induction cs with
  | nil => rfl
  | cons d cs ih =>
    rw [List.map_cons, split, split, ih]
    by_cases hd : d = c
    · rw [if_pos hd, if_pos ((hf d).2 hd)]
      rfl
    · rw [if_neg hd, if_neg fun h => hd ((hf d).1 h)]
      cases hs : split c cs with
      | nil => rfl
      | cons part parts => rfl

end Text

namespace Radix

theorem ofDigits_cons (base d : Nat) (ds : List Nat) :
    ofDigits base (d :: ds) = d * base ^ ds.length + ofDigits base ds := by
  induction ds using List.reverseRecOn with
  | nil => simp [ofDigits]
  | append_singleton ds e ih =>
    rw [← List.cons_append, ofDigits_concat, ih, ofDigits_concat, List.length_append,
      List.length_singleton, Nat.pow_succ]
    ring

theorem ofDigits_lt {base : Nat} {ds : List Nat} (h : ∀ d ∈ ds, d < base) :
    ofDigits base ds < base ^ ds.length := by
  induction ds with
  | nil => simp [ofDigits]
  | cons d ds ih =>
    simp only [List.mem_cons, forall_eq_or_imp] at h
    have hrest := ih h.2
    rw [ofDigits_cons, List.length_cons, Nat.pow_succ']
    calc d * base ^ ds.length + ofDigits base ds
        < d * base ^ ds.length + base ^ ds.length := by omega
      _ = (d + 1) * base ^ ds.length := by ring
      _ ≤ base * base ^ ds.length := Nat.mul_le_mul_right _ h.1

/-- Writing undoes reading. -/
theorem toDigits_ofDigits {base : Nat} {ds : List Nat} (h : ∀ d ∈ ds, d < base) :
    toDigits base ds.length (ofDigits base ds) = ds := by
  induction ds using List.reverseRecOn with
  | nil => rfl
  | append_singleton ds d ih =>
    have hd : d < base := h d (by simp)
    have hdiv : (ofDigits base ds * base + d) / base = ofDigits base ds := by
      rw [Nat.mul_comm, Nat.mul_add_div (by omega), Nat.div_eq_of_lt hd, Nat.add_zero]
    have hmod : (ofDigits base ds * base + d) % base = d := by
      rw [Nat.mul_comm, Nat.mul_add_mod, Nat.mod_eq_of_lt hd]
    rw [List.length_append, List.length_singleton, toDigits, ofDigits_concat, hdiv, hmod,
      ih fun e he => h e (by simp [he])]

end Radix

namespace Base32

theorem digit?_eq_some_iff (c : Char) (d : Nat) : digit? c = some d ↔ d < 32 ∧ c.toUpper = symbol d := by
  have hsymbol : ∀ e < 32, alphabet.idxOf? (symbol e) = some e := by decide
  constructor
  · intro h
    obtain ⟨hd, hc, -⟩ := List.idxOf?_eq_some_iff.1 h
    refine ⟨hd, ?_⟩
    rw [← hc, symbol, List.getD_eq_getElem _ _ hd]
  · rintro ⟨hd, hc⟩
    rw [digit?, hc, hsymbol d hd]

end Base32

namespace Ulid

/-- The ways to write a ULID: the letters in either case, and of the first digit only the three lower
bits count. -/
def Spells (u : Ulid) : List Char → Prop
  | [] => False
  | c :: cs => ∃ d < 32, c.toUpper = Base32.symbol d ∧ u.chars = Base32.symbol (d % 8) :: cs.map Char.toUpper

/-- Of the first digit, what is above the three lower bits is dropped. -/
theorem chars_ofNat {d : Nat} {ds : List Nat} (hlen : ds.length = 25) (hds : ∀ e ∈ ds, e < 32) :
    chars (BitVec.ofNat 128 (Radix.ofDigits 32 (d :: ds))) =
      Base32.symbol (d % 8) :: ds.map Base32.symbol := by
  have hlt : ∀ e ∈ d % 8 :: ds, e < 32 := by
    intro e he
    rcases List.mem_cons.1 he with rfl | he
    · omega
    · exact hds e he
  have hnum : (BitVec.ofNat 128 (Radix.ofDigits 32 (d :: ds))).toNat = Radix.ofDigits 32 (d % 8 :: ds) := by
    have hrest := Radix.ofDigits_lt hds
    rw [BitVec.toNat_ofNat, Radix.ofDigits_cons, Radix.ofDigits_cons, hlen]
    rw [hlen] at hrest
    omega
  have hback := Radix.toDigits_ofDigits hlt
  rw [List.length_cons, hlen] at hback
  rw [chars, hnum, hback, List.map_cons]

theorem chars_injective {u v : Ulid} (h : u.chars = v.chars) : u = v := by
  have := parse_chars u
  rw [h, parse_chars v] at this
  exact (Except.ok.inj this).symm

theorem utf8ByteSize_eq {cs : List Char} {digits : List Nat} (hd : ∀ d ∈ digits, d < 32)
    (hcs : cs.map Char.toUpper = digits.map Base32.symbol) :
    (String.ofList cs).utf8ByteSize = digits.length := by
  have hlen : cs.length = digits.length := by simpa using congrArg List.length hcs
  rw [← hlen, Text.utf8ByteSize_ofList]
  intro c hc
  have hmem : c.toUpper ∈ digits.map Base32.symbol := hcs ▸ List.mem_map_of_mem hc
  obtain ⟨d, hdm, hsymbol⟩ := List.mem_map.1 hmem
  rw [← Text.utf8Size_toUpper, ← hsymbol, Base32.utf8Size_symbol d (hd d hdm)]

theorem parse_eq_ok_iff_digits {cs : List Char} {u : Ulid} :
    parse cs = .ok u ↔ ∃ digits : List Nat, digits.length = 26 ∧ (∀ d ∈ digits, d < 32) ∧
      cs.map Char.toUpper = digits.map Base32.symbol ∧ BitVec.ofNat 128 (Radix.ofDigits 32 digits) = u := by
  have hread (digits : List Nat) : cs.mapM Base32.digit? = some digits ↔
      (∀ d ∈ digits, d < 32) ∧ cs.map Char.toUpper = digits.map Base32.symbol :=
    mapM_eq_some_iff Base32.digit?_eq_some_iff
  constructor
  · intro h
    unfold parse at h
    split at h
    · cases h
    rename_i hsize
    split at h
    · cases h
    rename_i digits hdigits
    obtain ⟨hlt, hcs⟩ := (hread digits).1 hdigits
    rw [not_not, utf8ByteSize_eq hlt hcs] at hsize
    exact ⟨digits, hsize, hlt, hcs, Except.ok.inj h⟩
  · rintro ⟨digits, hlen, hlt, hcs, rfl⟩
    rw [parse, if_neg (by rw [utf8ByteSize_eq hlt hcs, hlen, not_not]), (hread digits).2 ⟨hlt, hcs⟩]

theorem parse_eq_ok_iff {cs : List Char} {u : Ulid} : parse cs = .ok u ↔ u.Spells cs := by
  rw [parse_eq_ok_iff_digits]
  constructor
  · rintro ⟨digits, hlen, hlt, hcs, rfl⟩
    obtain ⟨d, ds, rfl⟩ := List.exists_cons_of_length_eq_add_one hlen
    cases cs with
    | nil => cases hcs
    | cons c cs =>
      simp only [List.map_cons, List.cons.injEq] at hcs
      refine ⟨d, hlt d (by simp), hcs.1, ?_⟩
      rw [chars_ofNat (Nat.succ.inj hlen) fun e he => hlt e (by simp [he]), hcs.2]
  · intro h
    cases cs with
    | nil => exact h.elim
    | cons c cs =>
      obtain ⟨d, hd, hc, hchars⟩ := h
      -- The other 25 digits are those that `u` itself is written with.
      obtain ⟨e, ds, hds⟩ := List.exists_cons_of_length_eq_add_one (Radix.length_toDigits 32 26 u.toNat)
      have hlt : ∀ i ∈ ds, i < 32 := fun i hi =>
        Radix.lt_of_mem_toDigits (by decide) (hds ▸ List.mem_cons_of_mem e hi)
      have hlen : ds.length = 25 := by
        have := Radix.length_toDigits 32 26 u.toNat
        rw [hds] at this
        exact Nat.succ.inj this
      have hrest : cs.map Char.toUpper = ds.map Base32.symbol := by
        rw [chars, hds] at hchars
        exact (List.cons.inj hchars).2.symm
      refine ⟨d :: ds, by rw [List.length_cons, hlen], ?_,
        by rw [List.map_cons, List.map_cons, hc, hrest], ?_⟩
      · intro i hi
        rcases List.mem_cons.1 hi with rfl | hi
        · exact hd
        · exact hlt i hi
      · apply chars_injective
        rw [chars_ofNat hlen hlt, hchars, hrest]

end Ulid

namespace Hex

theorem digit?_eq_none {c : Char} (hc : ¬c.toNat < 128) : digit? c = none := by
  have hle (e : Char) (he : e.toNat < 128) : ¬c ≤ e := fun h => by
    have : c.toNat ≤ e.toNat := h
    omega
  simp [digit?, hle '9' (by decide), hle 'f' (by decide), hle 'F' (by decide)]

theorem digit?_eq_some_iff (c : Char) (d : Nat) : digit? c = some d ↔ d < 16 ∧ c.toLower = lower d := by
  have hlower : ∀ d < 16, (lower d).toNat < 128 := by decide
  by_cases hc : c.toNat < 128
  · have hrange : (digit? c).all (· < 16) = true :=
      Text.forall_ascii (p := fun c => (digit? c).all (· < 16) = true) (by decide) hc
    have hcase : ∀ d < 16, digit? c = some d ↔ c.toLower = lower d :=
      Text.forall_ascii (p := fun c => ∀ d < 16, digit? c = some d ↔ c.toLower = lower d)
        (by decide +kernel) hc
    constructor
    · intro h
      have hd : d < 16 := by simpa [h] using hrange
      exact ⟨hd, (hcase d hd).1 h⟩
    · rintro ⟨hd, h⟩
      exact (hcase d hd).2 h
  · rw [digit?_eq_none hc, Text.toLower_eq_self hc]
    refine iff_of_false (by simp) ?_
    rintro ⟨hd, rfl⟩
    exact hc (hlower d hd)

end Hex

namespace Uuid

theorem ofHex?_eq_some_iff {cs : List Char} {u : Uuid} :
    ofHex? cs = some u ↔ cs.map Char.toLower = u.hexChars := by
  have hread (digits : List Nat) : cs.mapM Hex.digit? = some digits ↔
      (∀ d ∈ digits, d < 16) ∧ cs.map Char.toLower = digits.map Hex.lower :=
    mapM_eq_some_iff Hex.digit?_eq_some_iff
  constructor
  · intro h
    unfold ofHex? at h
    split at h
    · rename_i hlen
      obtain ⟨digits, hdigits, rfl⟩ := Option.map_eq_some_iff.1 h
      obtain ⟨hlt, hcs⟩ := (hread digits).1 hdigits
      have hsize : digits.length = 32 := by
        rw [← hlen, ← List.length_map, ← hcs, List.length_map]
      have hbound := Radix.ofDigits_lt hlt
      have hback := Radix.toDigits_ofDigits hlt
      rw [hsize] at hbound hback
      rw [hexChars, BitVec.toNat_ofNat, Nat.mod_eq_of_lt (by omega), hback, hcs]
    · cases h
  · intro h
    have hlen : cs.length = 32 := by simpa [hexChars] using congrArg List.length h
    have hlt : u.toNat < Nat.pow 16 32 := Nat.lt_of_lt_of_le u.isLt (by decide)
    have hdigits := (hread _).2 ⟨fun d hd => Radix.lt_of_mem_toDigits (by decide) hd, h⟩
    rw [ofHex?, if_pos hlen, hdigits, Option.map_some, Radix.ofDigits_toDigits_of_lt hlt,
      BitVec.ofNat_toNat, BitVec.setWidth_eq]

theorem group_flatten (parts : List (List Char)) : group (parts.map List.length) parts.flatten = parts := by
  induction parts with
  | nil => rfl
  | cons part parts ih =>
    rw [List.map_cons, List.flatten_cons, group, List.take_left, List.drop_left, ih]

theorem split_chars (u : Uuid) : Text.split '-' u.chars = group groupLengths u.hexChars := by
  apply Text.split_join (by simp [groupLengths, group])
  intro part hp hc
  obtain ⟨d, hd, h⟩ := mem_hexChars (mem_of_mem_group hp _ hc)
  exact Hex.lower_ne_hyphen d hd h.symm

theorem ofHyphenated?_eq_some_iff {cs : List Char} {u : Uuid} :
    ofHyphenated? cs = some u ↔ cs.map Char.toLower = u.chars := by
  have hsplit := Text.split_map Text.toLower_eq_hyphen cs
  have hlengths : ((Text.split '-' cs).map (List.map Char.toLower)).map List.length =
      (Text.split '-' cs).map List.length := by simp
  constructor
  · intro h
    unfold ofHyphenated? at h
    simp only at h
    split at h
    · rename_i hgroups
      have hhex := ofHex?_eq_some_iff.1 h
      have hparts := group_flatten ((Text.split '-' cs).map (List.map Char.toLower))
      rw [hlengths, hgroups, ← List.map_flatten, hhex] at hparts
      rw [← Text.join_split '-' (cs.map Char.toLower), hsplit, ← hparts]
      rfl
    · cases h
  · intro h
    have hlen : u.hexChars.length = groupLengths.sum := by simp [hexChars, groupLengths]
    rw [h, split_chars] at hsplit
    have hgroups : (Text.split '-' cs).map List.length = groupLengths := by
      rw [← hlengths, ← hsplit, map_length_group hlen]
    have hhex : (Text.split '-' cs).flatten.map Char.toLower = u.hexChars := by
      rw [List.map_flatten, ← hsplit, flatten_group hlen]
    rw [ofHyphenated?, if_pos hgroups, ofHex?_eq_some_iff.2 hhex]

inductive Spells (u : Uuid) : List Char → Prop
  | plain {cs : List Char} (h : cs.map Char.toLower = u.hexChars) : Spells u cs
  | hyphenated {cs : List Char} (h : cs.map Char.toLower = u.chars) : Spells u cs
  | braced {cs : List Char} (h : cs.map Char.toLower = u.chars) : Spells u ('{' :: cs ++ ['}'])
  | urn {lead cs : List Char} (hlead : lead.map Char.toLower = "urn:uuid:".toList)
      (h : cs.map Char.toLower = u.chars) : Spells u (lead ++ cs)

theorem byteLength_append (cs ds : List Char) : byteLength (cs ++ ds) = byteLength cs + byteLength ds := by
  rw [byteLength, String.ofList_append, String.utf8ByteSize_append]
  rfl

theorem byteLength_map_toLower (cs : List Char) : byteLength (cs.map Char.toLower) = byteLength cs := by
  induction cs with
  | nil => rfl
  | cons c cs ih =>
    have hone (d : Char) : byteLength [d] = d.utf8Size := String.utf8ByteSize_singleton
    rw [List.map_cons, ← List.singleton_append, byteLength_append, ih, hone, Text.utf8Size_toLower, ← hone,
      ← byteLength_append, List.singleton_append]

theorem byteLength_eq {cs : List Char} {u : Uuid} (h : cs.map Char.toLower = u.chars) :
    byteLength cs = 36 := by
  rw [← byteLength_map_toLower, h, byteLength_chars]

theorem byteLength_hexChars (u : Uuid) : byteLength u.hexChars = 32 := by
  rw [byteLength, Text.utf8ByteSize_ofList]
  · simp [hexChars]
  · intro c hc
    obtain ⟨d, hd, rfl⟩ := mem_hexChars hc
    exact Hex.utf8Size_lower d hd

theorem braced?_eq_some_iff {cs inner : List Char} :
    braced? cs = some inner ↔ cs = '{' :: inner ++ ['}'] := by
  constructor
  · intro h
    unfold braced? at h
    split at h
    · rename_i rest
      split at h
      · rename_i hlast
        obtain ⟨front, rfl⟩ := List.getLast?_eq_some_iff.1 hlast
        rw [List.dropLast_concat] at h
        rw [Option.some.inj h, List.cons_append]
      · cases h
    · cases h
  · rintro rfl
    simp [braced?]

theorem urn?_eq_some_iff {cs inner : List Char} :
    urn? cs = some inner ↔ ∃ lead, lead.map Char.toLower = "urn:uuid:".toList ∧ cs = lead ++ inner := by
  constructor
  · intro h
    unfold urn? at h
    split at h
    · rename_i hlead
      refine ⟨cs.take 9, hlead, ?_⟩
      rw [← Option.some.inj h, List.take_append_drop]
    · cases h
  · rintro ⟨lead, hlead, rfl⟩
    have hlen : lead.length = 9 := by simpa using congrArg List.length hlead
    rw [urn?, ← hlen, List.take_left, List.drop_left, if_pos hlead]

theorem parseHyphenated_eq_ok_iff {cs : List Char} {u : Uuid} :
    parseHyphenated cs = .ok u ↔ cs.map Char.toLower = u.chars := by
  rw [← ofHyphenated?_eq_some_iff, parseHyphenated]
  cases ofHyphenated? cs <;> simp

/-- A text is read as a UUID exactly when it is one of the ways to write it. -/
theorem parse_eq_ok_iff {cs : List Char} {u : Uuid} : parse cs = .ok u ↔ u.Spells cs := by
  constructor
  · intro h
    unfold parse at h
    simp only at h
    split at h
    · cases h
    split at h
    · rw [parseSimple] at h
      split at h
      · rename_i hhex
        rw [Except.ok.inj h] at hhex
        exact .plain (ofHex?_eq_some_iff.1 hhex)
      · cases h
    split at h
    · exact .hyphenated (parseHyphenated_eq_ok_iff.1 h)
    split at h
    · rename_i hbraced
      split at h
      · rw [braced?_eq_some_iff.1 hbraced]
        exact .braced (parseHyphenated_eq_ok_iff.1 h)
      · cases h
    · rename_i hurn
      split at h
      · obtain ⟨lead, hlead, rfl⟩ := urn?_eq_some_iff.1 hurn
        exact .urn hlead (parseHyphenated_eq_ok_iff.1 h)
      · cases h
    · cases h
  · intro h
    cases h with
    | plain h =>
      have hbytes : byteLength cs = 32 := by rw [← byteLength_map_toLower, h, byteLength_hexChars]
      simp [parse, hbytes, parseSimple, ofHex?_eq_some_iff.2 h]
    | hyphenated h =>
      simp [parse, byteLength_eq h, parseHyphenated_eq_ok_iff.2 h]
    | @braced inner h =>
      have hbytes : byteLength ('{' :: inner ++ ['}']) = 38 := by
        rw [← List.singleton_append, List.append_assoc, byteLength_append, byteLength_append, byteLength_eq h]
        rfl
      simp only [parse, hbytes, braced?_eq_some_iff.2 rfl, parseHyphenated_eq_ok_iff.2 h]
      rfl
    | @urn lead inner hlead h =>
      have hbytes : byteLength (lead ++ inner) = 45 := by
        rw [byteLength_append, byteLength_eq h, ← byteLength_map_toLower, hlead]
        rfl
      -- The text begins with a letter, so it is not in braces.
      have hbraced : braced? (lead ++ inner) = none := by
        apply Option.eq_none_iff_forall_ne_some.2
        intro rest hrest
        have heq := braced?_eq_some_iff.1 hrest
        cases lead with
        | nil => cases hlead
        | cons c lead =>
          obtain ⟨rfl, -⟩ := List.cons.inj heq
          exact absurd (List.cons.inj hlead).1 (by decide)
      simp only [parse, hbytes, hbraced, urn?_eq_some_iff.2 ⟨lead, hlead, rfl⟩,
        parseHyphenated_eq_ok_iff.2 h]
      rfl

end Uuid

theorem LocalId.parse_eq_ok_iff_spells {kind : IdKind} {s : String} {id : LocalId kind} :
    parse kind s = .ok id ↔ ∃ body, s = kind.tag ++ "_" ++ body ∧ id.ulid.Spells body.toList := by
  simp only [LocalId.parse_eq_ok_iff, Ulid.parse_eq_ok_iff]

theorem ResourceId.parse_eq_ok_iff_spells {s : String} {id : ResourceId} :
    parse s = .ok id ↔ id.uuid.Spells s.toList := by
  rw [ResourceId.parse_eq_ok_iff, Uuid.parse_eq_ok_iff]

end IdentifierRegistrar
