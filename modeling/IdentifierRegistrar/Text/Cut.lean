/-!
Cutting a text at a character. `cutFirst` takes the first place where the character stands,
`cutLast` the last place that leaves something behind it. Joined with the character, the two
parts are the text again. `takeBytes?` cuts by the count of bytes, and only between characters.
-/

namespace IdentifierRegistrar.Text

def cutFirst (c : Char) : List Char → Option (List Char × List Char)
  | [] => none
  | d :: rest =>
    if d = c then some ([], rest)
    else (cutFirst c rest).map fun (before, after) => (d :: before, after)

/-- The text before the last `c` that something follows, and what follows it. -/
def cutLast (c : Char) : List Char → Option (List Char × List Char)
  | [] => none
  | d :: rest =>
    match cutLast c rest with
    | some (before, after) => some (d :: before, after)
    | none => if d = c ∧ rest ≠ [] then some ([], rest) else none

def dropLead : List Char → List Char → Option (List Char)
  | [], cs => some cs
  | _ :: _, [] => none
  | l :: lead, c :: cs => if l = c then dropLead lead cs else none

/-- The parts between the places where `c` stands: always one more than there are such places. -/
def split (c : Char) : List Char → List (List Char)
  | [] => [[]]
  | d :: rest =>
    if d = c then [] :: split c rest
    else
      match split c rest with
      | [] => [[d]]
      | part :: parts => (d :: part) :: parts

def join (c : Char) : List (List Char) → List Char
  | [] => []
  | [part] => part
  | part :: parts => part ++ c :: join c parts

/-- The characters of the first `n` bytes, if a character ends there. -/
def takeBytes? : (n : Nat) → List Char → Option (List Char)
  | 0, _ => some []
  | _ + 1, [] => none
  | n + 1, c :: cs => if c.utf8Size ≤ n + 1 then (takeBytes? (n + 1 - c.utf8Size) cs).map (c :: ·) else none

theorem eq_of_cutFirst {c : Char} {cs before after : List Char}
    (h : cutFirst c cs = some (before, after)) : cs = before ++ c :: after ∧ c ∉ before := by
  induction cs generalizing before with
  | nil => simp [cutFirst] at h
  | cons d rest ih =>
    by_cases hd : d = c
    · simp [cutFirst, hd] at h
      obtain ⟨rfl, rfl⟩ := h
      simp [hd]
    · simp [cutFirst, hd] at h
      obtain ⟨b, hb, rfl⟩ := h
      obtain ⟨rfl, hc⟩ := ih hb
      exact ⟨rfl, by simp [hc, Ne.symm hd]⟩

theorem cutFirst_append {c : Char} {before : List Char} (h : c ∉ before) (after : List Char) :
    cutFirst c (before ++ c :: after) = some (before, after) := by
  induction before with
  | nil => simp [cutFirst]
  | cons d rest ih =>
    simp only [List.mem_cons, not_or] at h
    simp [cutFirst, Ne.symm h.1, ih h.2]

theorem cutLast_eq_none_iff {c : Char} {cs : List Char} : cutLast c cs = none ↔ c ∉ cs.dropLast := by
  induction cs with
  | nil => simp [cutLast]
  | cons d rest ih =>
    by_cases hrest : rest = []
    · simp [cutLast, hrest]
    · cases hcut : cutLast c rest with
      | none =>
        rw [hcut, eq_self, true_iff] at ih
        simp [cutLast, hcut, hrest, List.dropLast_cons_of_ne_nil hrest, ih, eq_comm]
      | some parts =>
        have hmem : c ∈ rest.dropLast := Classical.not_not.1 fun h => by simp [ih.2 h] at hcut
        simp [cutLast, hcut, List.dropLast_cons_of_ne_nil hrest, hmem]

theorem eq_of_cutLast {c : Char} {cs before after : List Char}
    (h : cutLast c cs = some (before, after)) :
    cs = before ++ c :: after ∧ after ≠ [] ∧ c ∉ after.dropLast := by
  induction cs generalizing before with
  | nil => simp [cutLast] at h
  | cons d rest ih =>
    cases hcut : cutLast c rest with
    | none =>
      simp only [cutLast, hcut] at h
      split at h
      · rename_i hd
        obtain ⟨rfl, rfl⟩ := Prod.mk.inj (Option.some.inj h)
        exact ⟨by simp [hd.1], hd.2, cutLast_eq_none_iff.1 hcut⟩
      · cases h
    | some parts =>
      simp only [cutLast, hcut] at h
      obtain ⟨rfl, rfl⟩ := Prod.mk.inj (Option.some.inj h)
      obtain ⟨rfl, hafter⟩ := ih hcut
      exact ⟨rfl, hafter⟩

theorem cutLast_append {c : Char} {after : List Char} (hne : after ≠ []) (h : c ∉ after.dropLast)
    (before : List Char) : cutLast c (before ++ c :: after) = some (before, after) := by
  induction before with
  | nil => simp [cutLast, cutLast_eq_none_iff.2 h, hne]
  | cons d rest ih => simp [cutLast, ih]

theorem dropLead_eq_some_iff {lead cs rest : List Char} :
    dropLead lead cs = some rest ↔ cs = lead ++ rest := by
  induction lead generalizing cs with
  | nil => simp [dropLead, eq_comm]
  | cons l lead ih =>
    cases cs with
    | nil => simp [dropLead]
    | cons c cs =>
      by_cases h : l = c
      · simp [dropLead, h, ih]
      · simp [dropLead, h, Ne.symm h]

theorem split_ne_nil (c : Char) (cs : List Char) : split c cs ≠ [] := by
  cases cs with
  | nil => simp [split]
  | cons d rest =>
    unfold split
    split
    · simp
    · split <;> simp

theorem join_split (c : Char) (cs : List Char) : join c (split c cs) = cs := by
  induction cs with
  | nil => rfl
  | cons d rest ih =>
    unfold split
    cases hs : split c rest with
    | nil => exact absurd hs (split_ne_nil c rest)
    | cons part parts =>
      rw [hs] at ih
      by_cases hd : d = c
      · simp [hd, join, ih]
      · cases parts with
        | nil => simp_all [join]
        | cons q qs => simp_all [join]

theorem utf8ByteSize_ofList_cons (c : Char) (cs : List Char) :
    (String.ofList (c :: cs)).utf8ByteSize = c.utf8Size + (String.ofList cs).utf8ByteSize := by
  have hone : (String.ofList [c]).utf8ByteSize = c.utf8Size := String.utf8ByteSize_singleton
  rw [← List.singleton_append, String.ofList_append, String.utf8ByteSize_append, hone]

theorem takeBytes?_eq_some_iff {n : Nat} {cs lead : List Char} :
    takeBytes? n cs = some lead ↔ ∃ rest, cs = lead ++ rest ∧ (String.ofList lead).utf8ByteSize = n := by
  induction cs generalizing n lead with
  | nil =>
    cases n with
    | zero => cases lead <;> simp [takeBytes?]
    | succ n => cases lead <;> simp [takeBytes?]
  | cons c cs ih =>
    cases n with
    | zero =>
      cases lead with
      | nil => simp [takeBytes?]
      | cons d lead =>
        have hpos := d.utf8Size_pos
        rw [utf8ByteSize_ofList_cons]
        simp [takeBytes?]
        omega
    | succ n =>
      cases lead with
      | nil => simp [takeBytes?]
      | cons d lead =>
        have hstep : takeBytes? (n + 1) (c :: cs) = some (d :: lead) ↔
            c.utf8Size ≤ n + 1 ∧ c = d ∧ takeBytes? (n + 1 - c.utf8Size) cs = some lead := by
          rw [takeBytes?]
          split
          · rename_i hle
            simp only [Option.map_eq_some_iff, List.cons.injEq, hle, true_and]
            constructor
            · rintro ⟨rest, hrest, rfl, rfl⟩
              exact ⟨rfl, hrest⟩
            · rintro ⟨rfl, hrest⟩
              exact ⟨lead, hrest, rfl, rfl⟩
          · rename_i hle
            simp [hle]
        rw [hstep, utf8ByteSize_ofList_cons]
        simp only [ih]
        constructor
        · rintro ⟨hle, rfl, rest, rfl, hsum⟩
          exact ⟨rest, rfl, by omega⟩
        · rintro ⟨rest, hcs, hsum⟩
          obtain ⟨rfl, rfl⟩ := List.cons.inj hcs
          exact ⟨by omega, rfl, rest, rfl, by omega⟩

end IdentifierRegistrar.Text
