/-!
Blanks: the characters with the White_Space property of Unicode. Trimming takes them off both
ends of a text (`trimChars_eq_iff`); a text is blank when nothing is left.
-/

namespace IdentifierRegistrar.Text

def isSpace (c : Char) : Bool :=
  let n := c.toNat
  (9 ≤ n && n ≤ 13) || n == 0x20 || n == 0x85 || n == 0xA0 || n == 0x1680
    || (0x2000 ≤ n && n ≤ 0x200A) || n == 0x2028 || n == 0x2029 || n == 0x202F || n == 0x205F
    || n == 0x3000

/-- `cs` without the longest run at its end whose characters satisfy `p`. -/
def dropEnd (p : Char → Bool) (cs : List Char) : List Char := (cs.reverse.dropWhile p).reverse

def trimChars (cs : List Char) : List Char := dropEnd isSpace (cs.dropWhile isSpace)

def trim (s : String) : String := String.ofList (trimChars s.toList)

def isBlank (s : String) : Bool := s.toList.all isSpace

/-- A base address as it is joined to a path: without the slashes at its end. -/
def dropSlashes (s : String) : String := String.ofList (dropEnd (· == '/') s.toList)

/-- What is dropped from the end is dropped behind a part that does not end in it. -/
theorem dropEnd_append {p : Char → Bool} {xs : List Char} (h : ∀ c ∈ xs.getLast?, p c = false)
    (ys : List Char) : dropEnd p (xs ++ ys) = xs ++ dropEnd p ys := by
  have hxs : xs.reverse.dropWhile p = xs.reverse := by
    cases hr : xs.reverse with
    | nil => rfl
    | cons c cs => rw [List.dropWhile_cons_of_neg (by simp [h c (by simp [← List.head?_reverse, hr])])]
  rw [dropEnd, dropEnd, List.reverse_append, List.dropWhile_append]
  split
  next hall => simp [hxs, List.isEmpty_iff.1 hall]
  next => simp

theorem prefix_dropEnd (p : Char → Bool) (xs : List Char) : dropEnd p xs <+: xs := by
  rw [dropEnd, ← List.reverse_suffix, List.reverse_reverse]
  exact List.dropWhile_suffix p

theorem dropWhile_eq_nil {p : Char → Bool} {xs : List Char} (h : ∀ c ∈ xs, p c = true) :
    xs.dropWhile p = [] := by
  rw [← List.append_nil xs, List.dropWhile_append_of_pos h, List.dropWhile_nil]

theorem dropEnd_eq_iff {p : Char → Bool} {xs ys : List Char} :
    dropEnd p xs = ys ↔
      (∀ c ∈ ys.getLast?, p c = false) ∧ ∃ trail, xs = ys ++ trail ∧ ∀ c ∈ trail, p c = true := by
  constructor
  · rintro rfl
    refine ⟨fun c hc => ?_, (xs.reverse.takeWhile p).reverse, ?_, fun c hc => ?_⟩
    · have hdrop := List.head?_dropWhile_not p xs.reverse
      rw [dropEnd, List.getLast?_reverse] at hc
      rw [Option.mem_def.1 hc] at hdrop
      exact hdrop
    · rw [dropEnd, ← List.reverse_append, List.takeWhile_append_dropWhile, List.reverse_reverse]
    · exact List.all_eq_true.1 List.all_takeWhile c (List.mem_reverse.1 hc)
  · rintro ⟨hlast, trail, rfl, htrail⟩
    have hnil : dropEnd p trail = [] := by
      rw [dropEnd, dropWhile_eq_nil fun c hc => htrail c (List.mem_reverse.1 hc), List.reverse_nil]
    rw [dropEnd_append hlast, hnil, List.append_nil]

/-- The text does not begin or end with a blank. -/
def Trimmed (cs : List Char) : Prop :=
  (∀ c ∈ cs.head?, isSpace c = false) ∧ ∀ c ∈ cs.getLast?, isSpace c = false

def Pads (inner cs : List Char) : Prop :=
  ∃ lead trail, cs = lead ++ inner ++ trail ∧ (∀ c ∈ lead, isSpace c = true) ∧
    ∀ c ∈ trail, isSpace c = true

theorem trimChars_eq_iff {cs inner : List Char} : trimChars cs = inner ↔ Trimmed inner ∧ Pads inner cs := by
  rw [trimChars, dropEnd_eq_iff]
  constructor
  · rintro ⟨hlast, trail, htrail, hspace⟩
    refine ⟨⟨fun c hc => ?_, hlast⟩, cs.takeWhile isSpace, trail, ?_,
      List.all_eq_true.1 List.all_takeWhile, hspace⟩
    · have hdrop := List.head?_dropWhile_not isSpace cs
      rw [htrail, List.head?_append, Option.mem_def.1 hc] at hdrop
      exact hdrop
    · rw [List.append_assoc, ← htrail, List.takeWhile_append_dropWhile]
  · rintro ⟨⟨hhead, hlast⟩, lead, trail, rfl, hlead, htrail⟩
    rw [List.append_assoc, List.dropWhile_append_of_pos hlead]
    refine ⟨hlast, ?_⟩
    cases inner with
    | nil => exact ⟨[], dropWhile_eq_nil htrail, by simp⟩
    | cons c inner =>
      exact ⟨trail, List.dropWhile_cons_of_neg (by simp [hhead c rfl]), htrail⟩

end IdentifierRegistrar.Text
