import IdentifierRegistrar.Proofs.Store.Decoded
import Mathlib.Data.List.Induction
import Mathlib.Data.List.Sort

/-!
What it takes for a value to be read. A record is read off what is given to its fields, each at most
once (`RecordShape.read_eq_ok_iff`); a map off the last of the members of each key
(`asMap_eq_ok_iff`). Every reader is the same as a relation between values and what they stand for
that does not mention it.
-/

namespace IdentifierRegistrar

theorem Except.mapM_eq_ok_iff {α β ε : Type} {f : α → Except ε β} {as : List α} {bs : List β} :
    as.mapM f = .ok bs ↔ List.Forall₂ (fun a b => f a = .ok b) as bs := by
  induction as generalizing bs with
  | nil =>
    rw [List.mapM_nil, List.forall₂_nil_left_iff]
    exact ⟨fun h => (Except.ok.inj h).symm, fun h => congrArg Except.ok h.symm⟩
  | cons a as ih =>
    rw [List.mapM_cons, List.forall₂_cons_left_iff]
    constructor
    · intro h
      obtain ⟨b, hb, hrest⟩ := Except.bind_eq_ok_iff.1 h
      obtain ⟨bs', hbs', hcons⟩ := Except.bind_eq_ok_iff.1 hrest
      exact ⟨b, bs', hb, ih.1 hbs', (Except.ok.inj hcons).symm⟩
    · rintro ⟨b, bs', hb, hrest, rfl⟩
      rw [hb, ih.2 hrest]
      rfl

theorem Except.bind_pure_eq_ok_iff {α β ε : Type} {x : Except ε α} {f : α → β} {b : β} :
    (do return f (← x)) = (.ok b : Except ε β) ↔ ∃ a, x = .ok a ∧ f a = b := by
  rw [Except.bind_eq_ok_iff]
  exact exists_congr fun a => and_congr_right fun _ => ⟨Except.ok.inj, congrArg Except.ok⟩

namespace Json

/-- What a value gives to the fields of a record: an object to each field by name, once at most, and
an array to one field after the other, where all that are left over may be left out. -/
inductive Gives (fields optional : List String) : Json → List (String × Json) → Prop
  | named {members : List (String × Json)}
    (hnodup : ((members.filter (·.1 ∈ fields)).map (·.1)).Nodup) :
    Gives fields optional (.object members) (members.filter (·.1 ∈ fields))
  | listed {items : List Json} (hlength : items.length ≤ fields.length)
    (hrest : ∀ f ∈ fields.drop items.length, f ∈ optional) :
    Gives fields optional (.array items) (fields.zip items)

/-- What a field says: `standard` where nothing is given to it. -/
inductive Part {α : Type} (given : List (String × Json)) (field : String) (Reads : Json → α → Prop)
    (standard : α) : α → Prop
  | given {w : Json} {a : α} (hw : (field, w) ∈ given) (h : Reads w a) : Part given field Reads standard a
  | missing (hnone : field ∉ given.map (·.1)) : Part given field Reads standard standard

inductive Nullable {α : Type} (Reads : Json → α → Prop) : Json → Option α → Prop
  | null : Nullable Reads .null none
  | given {v : Json} {a : α} (hv : v ≠ .null) (h : Reads v a) : Nullable Reads v (some a)

def Lists {α : Type} (Reads : Json → α → Prop) (v : Json) (as : List α) : Prop :=
  ∃ items, v = .array items ∧ List.Forall₂ Reads items as

/-- The table that members make: one entry for each key, in the order of the keys, with what the
last member of that key says. -/
structure Tabled {α : Type} (members table : List (String × α)) : Prop where
  ascending : table.Pairwise (·.1 < ·.1)
  last : ∀ key a, (key, a) ∈ table ↔
    ∃ before after, members = before ++ (key, a) :: after ∧ key ∉ after.map (·.1)

def Maps {α : Type} (Reads : Json → α → Prop) (v : Json) (table : List (String × α)) : Prop :=
  ∃ members entries, v = .object members ∧
    List.Forall₂ (fun m e => m.1 = e.1 ∧ Reads m.2 e.2) members entries ∧ Tabled entries table

section Part

variable {α : Type} {given : List (String × Json)} {key field : String} {Reads : Json → α → Prop}
  {standard a : α} {w : Json}

theorem part_of_not_mem (h : field ∉ given.map (·.1)) : Part given field Reads standard a ↔ a = standard := by
  constructor
  · rintro (⟨hw, -⟩ | -)
    · exact absurd (List.mem_map_of_mem hw) h
    · rfl
  · rintro rfl
    exact .missing h

theorem part_cons_self (h : field ∉ given.map (·.1)) :
    Part ((field, w) :: given) field Reads standard a ↔ Reads w a := by
  constructor
  · rintro (⟨hw, hread⟩ | hnone)
    · rcases List.mem_cons.1 hw with heq | hw
      · cases heq
        exact hread
      · exact absurd (List.mem_map_of_mem hw) h
    · exact absurd List.mem_cons_self hnone
  · exact fun hread => .given List.mem_cons_self hread

theorem part_cons_of_ne (h : key ≠ field) :
    Part ((key, w) :: given) field Reads standard a ↔ Part given field Reads standard a := by
  constructor
  · rintro (⟨hw, hread⟩ | hnone)
    · rcases List.mem_cons.1 hw with heq | hw
      · cases heq
        exact absurd rfl h
      · exact .given hw hread
    · exact .missing fun hmem => hnone (List.mem_cons_of_mem _ hmem)
  · rintro (⟨hw, hread⟩ | hnone)
    · exact .given (List.mem_cons_of_mem _ hw) hread
    · refine .missing fun hmem => ?_
      rcases List.mem_cons.1 hmem with heq | hmem
      · exact h heq.symm
      · exact hnone hmem

end Part

section Gives

variable {fields optional : List String} {v : Json} {given : List (String × Json)}

theorem Gives.mem (h : Gives fields optional v given) {m : String × Json} (hm : m ∈ given) :
    m.1 ∈ fields := by
  cases h with
  | named _ => simpa using (List.mem_filter.1 hm).2
  | listed _ _ => exact (List.of_mem_zip hm).1

theorem Gives.nodup (h : Gives fields optional v given) (hfields : fields.Nodup) :
    (given.map (·.1)).Nodup := by
  cases h with
  | named hnodup => exact hnodup
  | listed hlength _ =>
    rw [List.zip_eq_zip_take_min, Nat.min_eq_right hlength, List.map_fst_zip (by simp)]
    exact hfields.sublist (List.take_sublist _ _)

theorem Gives.sole {field : String} (h : Gives [field] optional v given) :
    given = [] ∨ ∃ w, given = [(field, w)] := by
  have hnodup := h.nodup (List.nodup_singleton field)
  have hkey (m : String × Json) (hm : m ∈ given) : m.1 = field := List.mem_singleton.1 (h.mem hm)
  match given with
  | [] => exact .inl rfl
  | [(key, w)] =>
    obtain rfl : key = field := hkey _ List.mem_cons_self
    exact .inr ⟨w, rfl⟩
  | m :: m' :: rest =>
    have heq : m.1 = m'.1 := (hkey m (by simp)).trans (hkey m' (by simp)).symm
    simp [heq] at hnodup

end Gives

namespace RecordShape

variable {σ : Type} {shape : RecordShape σ} {seen fields : List String} {members : List (String × Json)}
  {items : List Json} {s s' : σ} {v : Json} {count index : Nat}

def setAll (shape : RecordShape σ) (given : List (String × Json)) (s : σ) : Except Mismatch σ :=
  given.foldlM (fun s m => shape.set m.1 m.2 s) s

theorem setAll_cons {m : String × Json} {given : List (String × Json)} :
    shape.setAll (m :: given) s = shape.set m.1 m.2 s >>= shape.setAll given := List.foldlM_cons ..

theorem setAll_singleton (m : String × Json) (s : σ) : shape.setAll [m] s = shape.set m.1 m.2 s := by
  rw [setAll_cons]
  exact bind_pure _

theorem readMembers_eq_ok_iff :
    shape.readMembers seen members s = .ok s' ↔
      ((members.filter (·.1 ∈ shape.fields)).map (·.1)).Nodup ∧
      (∀ m ∈ members.filter (·.1 ∈ shape.fields), m.1 ∉ seen) ∧
      shape.setAll (members.filter (·.1 ∈ shape.fields)) s = .ok s' := by
  induction members generalizing seen s with
  | nil => simp [readMembers, setAll, pure, Except.pure]
  | cons m members ih =>
    obtain ⟨key, w⟩ := m
    rw [readMembers]
    by_cases hkey : key ∈ shape.fields
    · rw [if_pos hkey, List.filter_cons_of_pos (by simpa using hkey), List.map_cons, List.nodup_cons,
        List.forall_mem_cons, setAll_cons]
      by_cases hseen : key ∈ seen
      · rw [if_pos hseen]
        exact iff_of_false (by simp) fun h => h.2.1.1 hseen
      · rw [if_neg hseen, Except.bind_eq_ok_iff, Except.bind_eq_ok_iff]
        simp only [ih, List.mem_cons, not_or]
        constructor
        · rintro ⟨s₁, hs₁, hnodup, hfresh, hrest⟩
          refine ⟨⟨fun hmem => ?_, hnodup⟩, ⟨hseen, fun m hm => (hfresh m hm).2⟩, s₁, hs₁, hrest⟩
          obtain ⟨m, hm, hmkey⟩ := List.mem_map.1 hmem
          exact (hfresh m hm).1 hmkey
        · rintro ⟨⟨hmem, hnodup⟩, ⟨-, hfresh⟩, s₁, hs₁, hrest⟩
          refine ⟨s₁, hs₁, hnodup, fun m hm => ⟨fun hmkey => hmem ?_, hfresh m hm⟩, hrest⟩
          exact hmkey ▸ List.mem_map_of_mem hm
    · rw [if_neg hkey, List.filter_cons_of_neg (by simpa using hkey), ih]

theorem readItems_eq_ok_iff :
    shape.readItems count index fields items s = .ok s' ↔ items.length ≤ fields.length ∧
      (∀ f ∈ fields.drop items.length, f ∈ shape.optional) ∧ shape.setAll (fields.zip items) s = .ok s' := by
  induction fields generalizing index items s with
  | nil =>
    cases items with
    | nil => simp [readItems, setAll, pure, Except.pure]
    | cons item items => simp [readItems]
  | cons field fields ih =>
    cases items with
    | nil =>
      rw [readItems]
      by_cases hfield : field ∈ shape.optional
      · rw [if_pos hfield, ih]
        simp [hfield]
      · rw [if_neg hfield]
        simp [hfield]
    | cons item items =>
      rw [readItems, Except.bind_eq_ok_iff, List.zip_cons_cons, setAll_cons, Except.bind_eq_ok_iff]
      simp only [ih, List.length_cons, Nat.add_le_add_iff_right, List.drop_succ_cons]
      constructor
      · rintro ⟨s₁, hs₁, hlength, hrest, hall⟩
        exact ⟨hlength, hrest, s₁, hs₁, hall⟩
      · rintro ⟨hlength, hrest, s₁, hs₁, hall⟩
        exact ⟨s₁, hs₁, hlength, hrest, hall⟩

/-- A record is read off what is given to its fields. -/
theorem read_eq_ok_iff :
    shape.read s v = .ok s' ↔
      ∃ given, Gives shape.fields shape.optional v given ∧ shape.setAll given s = .ok s' := by
  constructor
  · intro h
    cases v with
    | object members =>
      obtain ⟨hnodup, -, hall⟩ := readMembers_eq_ok_iff.1 h
      exact ⟨_, .named hnodup, hall⟩
    | array items =>
      obtain ⟨hlength, hrest, hall⟩ := readItems_eq_ok_iff.1 h
      exact ⟨_, .listed hlength hrest, hall⟩
    | _ => cases h
  · rintro ⟨given, ⟨hnodup⟩ | ⟨hlength, hrest⟩, hall⟩
    · exact readMembers_eq_ok_iff.2 ⟨hnodup, fun _ _ => List.not_mem_nil, hall⟩
    · exact readItems_eq_ok_iff.2 ⟨hlength, hrest, hall⟩

end RecordShape

section Readers

variable {α : Type} {read : Decoder α} {Reads : Json → α → Prop} {v : Json}

theorem required_eq_ok_iff {field : String} {o : Option α} {a : α} :
    required field o = .ok a ↔ o = some a := by
  cases o <;> simp [required]

theorem asString_eq_ok_iff {s : String} : asString v = .ok s ↔ v = .string s := by
  cases v <;> simp [asString]

theorem asOption_eq_ok_iff (hread : ∀ v a, read v = .ok a ↔ Reads v a) {o : Option α} :
    asOption read v = .ok o ↔ Nullable Reads v o := by
  by_cases hv : v = .null
  · subst hv
    constructor
    · rintro ⟨⟩
      exact .null
    · rintro (- | ⟨hne, -⟩)
      · rfl
      · exact absurd rfl hne
  · have hmap : asOption read v = (read v).map some := by
      cases v <;> first | rfl | exact absurd rfl hv
    rw [hmap]
    constructor
    · intro h
      cases hr : read v with
      | error e =>
        rw [hr] at h
        cases h
      | ok a =>
        rw [hr] at h
        obtain rfl := Except.ok.inj h
        exact .given hv ((hread v a).1 hr)
    · rintro (- | ⟨-, h⟩)
      · exact absurd rfl hv
      · rw [(hread _ _).2 h]
        rfl

theorem asList_eq_ok_iff (hread : ∀ v a, read v = .ok a ↔ Reads v a) {as : List α} :
    asList read v = .ok as ↔ Lists Reads v as := by
  cases v with
  | array items =>
    rw [asList, Except.mapM_eq_ok_iff]
    simp only [hread, Lists, Json.array.injEq, exists_eq_left']
  | _ => simp [asList, Lists]

end Readers

section Tables

theorem key_ne_of_lt {k l : String} (h : k < l) : l ≠ k := fun heq => String.lt_irrefl k (heq ▸ h)

variable {α : Type} {key k : String} {a b : α} {table table' members : List (String × α)}

/-- The last member of a key, once another member has come. -/
theorem exists_last_concat_iff {m : String × α} :
    (∃ before after, members ++ [m] = before ++ (k, b) :: after ∧ k ∉ after.map (·.1)) ↔
      m = (k, b) ∨ k ≠ m.1 ∧ ∃ before after, members = before ++ (k, b) :: after ∧ k ∉ after.map (·.1) := by
  constructor
  · rintro ⟨before, after, heq, hafter⟩
    rcases after.eq_nil_or_concat with rfl | ⟨after, m', rfl⟩
    · exact .inl (List.singleton_inj.1 (List.append_inj' heq rfl).2)
    · rw [List.concat_eq_append] at heq hafter
      rw [← List.cons_append, ← List.append_assoc] at heq
      obtain ⟨hmembers, hm⟩ := List.append_inj' heq rfl
      obtain rfl : m = m' := List.singleton_inj.1 hm
      simp only [List.map_append, List.mem_append, List.map_cons, List.map_nil, List.mem_singleton,
        not_or] at hafter
      exact .inr ⟨hafter.2, before, after, hmembers, hafter.1⟩
  · rintro (rfl | ⟨hne, before, after, rfl, hafter⟩)
    · exact ⟨members, [], rfl, List.not_mem_nil⟩
    · refine ⟨before, after ++ [m], by simp, ?_⟩
      simp only [List.map_append, List.mem_append, List.map_cons, List.map_nil, List.mem_singleton, not_or]
      exact ⟨hafter, hne⟩

theorem mem_place (h : table.Pairwise (·.1 < ·.1)) :
    (k, b) ∈ asMap.place key a table ↔ k = key ∧ b = a ∨ k ≠ key ∧ (k, b) ∈ table := by
  induction table with
  | nil => simp [asMap.place]
  | cons entry table ih =>
    obtain ⟨l, w⟩ := entry
    obtain ⟨hl, htable⟩ := List.pairwise_cons.1 h
    rw [asMap.place]
    split
    · rename_i heq
      subst heq
      rw [List.mem_cons, List.mem_cons, Prod.mk.injEq, Prod.mk.injEq]
      constructor
      · rintro (heq | hmem)
        · exact .inl heq
        · exact .inr ⟨key_ne_of_lt (hl _ hmem), .inr hmem⟩
      · rintro (heq | ⟨hne, heq | hmem⟩)
        · exact .inl heq
        · exact absurd heq.1 hne
        · exact .inr hmem
    split
    · rename_i hlt
      rw [List.mem_cons, Prod.mk.injEq]
      refine or_congr_right (iff_and_self.2 fun hmem => ?_)
      rcases List.mem_cons.1 hmem with heq | hmem
      · cases heq
        exact key_ne_of_lt hlt
      · exact key_ne_of_lt (String.lt_trans hlt (hl _ hmem))
    · rename_i hne _
      rw [List.mem_cons, List.mem_cons, ih htable]
      constructor
      · rintro (heq | heq | ⟨hk, hmem⟩)
        · cases heq
          exact .inr ⟨Ne.symm hne, .inl rfl⟩
        · exact .inl heq
        · exact .inr ⟨hk, .inr hmem⟩
      · rintro (heq | ⟨hk, heq | hmem⟩)
        · exact .inr (.inl heq)
        · exact .inl heq
        · exact .inr (.inr ⟨hk, hmem⟩)

theorem pairwise_place (h : table.Pairwise (·.1 < ·.1)) :
    (asMap.place key a table).Pairwise (·.1 < ·.1) := by
  induction table with
  | nil => simp [asMap.place]
  | cons entry table ih =>
    obtain ⟨l, w⟩ := entry
    obtain ⟨hl, htable⟩ := List.pairwise_cons.1 h
    rw [asMap.place]
    split
    · rename_i heq
      subst heq
      exact List.pairwise_cons.2 ⟨hl, htable⟩
    split
    · rename_i hlt
      refine List.pairwise_cons.2 ⟨fun entry hentry => ?_, h⟩
      rcases List.mem_cons.1 hentry with rfl | hentry
      · exact hlt
      · exact String.lt_trans hlt (hl _ hentry)
    · rename_i hne hle
      refine List.pairwise_cons.2 ⟨fun entry hentry => ?_, ih htable⟩
      rcases (mem_place htable).1 hentry with ⟨heq, -⟩ | ⟨-, hentry⟩
      · rw [heq]
        exact String.not_le.1 fun hge => hne (String.le_antisymm hge (String.not_lt.1 hle))
      · exact hl _ hentry

theorem tabled_foldl (members : List (String × α)) :
    Tabled members (members.foldl (fun placed m => asMap.place m.1 m.2 placed) []) := by
  induction members using List.reverseRecOn with
  | nil => exact ⟨List.Pairwise.nil, by simp⟩
  | append_singleton members m ih =>
    rw [List.foldl_concat]
    refine ⟨pairwise_place ih.ascending, fun k b => ?_⟩
    rw [mem_place ih.ascending, exists_last_concat_iff, ih.last]
    obtain ⟨key, a⟩ := m
    simp only [Prod.mk.injEq, eq_comm]

theorem Tabled.unique (h : Tabled members table) (h' : Tabled members table') : table = table' := by
  have hirrefl : Std.Irrefl fun x y : String × α => x.1 < y.1 := ⟨fun x => String.lt_irrefl x.1⟩
  have hantisymm : Std.Antisymm fun x y : String × α => x.1 < y.1 :=
    ⟨fun x y hxy hyx => absurd hyx (String.lt_asymm hxy)⟩
  exact h.ascending.eq_of_mem_iff h'.ascending fun entry => (h.last _ _).trans (h'.last _ _).symm

/-- A map is read off the last of the members of each key. -/
theorem asMap_eq_ok_iff {read : Decoder α} {Reads : Json → α → Prop} {v : Json}
    (hread : ∀ v a, read v = .ok a ↔ Reads v a) : asMap read v = .ok table ↔ Maps Reads v table := by
  have hmember (m : String × Json) (e : String × α) :
      (do return (m.1, ← read m.2) : Except Mismatch (String × α)) = .ok e ↔
        m.1 = e.1 ∧ Reads m.2 e.2 := by
    rw [Except.bind_pure_eq_ok_iff]
    constructor
    · rintro ⟨a, ha, rfl⟩
      exact ⟨rfl, (hread _ _).1 ha⟩
    · rintro ⟨hkey, ha⟩
      exact ⟨e.2, (hread _ _).2 ha, Prod.ext hkey rfl⟩
  cases v with
  | object members =>
    rw [asMap, Except.bind_eq_ok_iff]
    constructor
    · rintro ⟨entries, hentries, htable⟩
      refine ⟨members, entries, rfl, (Except.mapM_eq_ok_iff.1 hentries).imp fun m e => (hmember m e).1, ?_⟩
      obtain rfl := Except.ok.inj htable
      exact tabled_foldl entries
    · rintro ⟨members', entries, hmembers, hentries, htable⟩
      obtain rfl := Json.object.inj hmembers
      refine ⟨entries, Except.mapM_eq_ok_iff.2 (hentries.imp fun m e => (hmember m e).2), ?_⟩
      exact congrArg Except.ok ((tabled_foldl entries).unique htable)
  | _ => simp [asMap, Maps]

end Tables

end Json

end IdentifierRegistrar
