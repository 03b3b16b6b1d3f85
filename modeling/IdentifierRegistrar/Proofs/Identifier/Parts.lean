import IdentifierRegistrar.Proofs.Identifier.Grammar

/-! The parts of a dArk value. The text is cut where the first part is longest: at its last slash, or at
the one before if nothing stands behind the last (`arkParts?_eq_some_iff`). Put together again they are
the text; and two parts that make a value are its parts, unless the second holds a slash before its end
(`arkParts_rejoin`). -/

namespace IdentifierRegistrar

/-- Of all cuts at `c` that leave something behind it, the one behind which `c` stands at the end at most
leaves most before it. -/
theorem Text.length_le_of_cut {c : Char} {before after before' after' : List Char}
    (h : before ++ c :: after = before' ++ c :: after') (hafter : c ∉ after.dropLast)
    (hne : after' ≠ []) : before'.length ≤ before.length := by
  rcases List.append_eq_append_iff.1 h with ⟨more, rfl, hmore⟩ | ⟨more, rfl, -⟩
  · cases more with
    | nil => simp
    | cons d more =>
      have hsplit : after = more ++ c :: after' := (List.cons.inj hmore).2
      refine absurd ?_ hafter
      rw [hsplit, List.dropLast_append_of_ne_nil (by simp), List.dropLast_cons_of_ne_nil hne]
      simp
  · simp

theorem arkParts?_eq_some_iff {body first second : List Char} :
    arkParts? body = some (first, second) ↔ '\n' ∉ body ∧ body = first ++ '/' :: second ∧
      first ≠ [] ∧ second ≠ [] ∧ '/' ∉ second.dropLast := by
  constructor
  · intro h
    unfold arkParts? at h
    split at h
    · cases h
    rename_i hfeed
    split at h
    · rename_i before after hcut
      obtain ⟨hbody, hafter, hslash⟩ := Text.eq_of_cutLast hcut
      split at h
      · cases h
      · rename_i hbefore
        obtain ⟨rfl, rfl⟩ := Prod.mk.inj (Option.some.inj h)
        exact ⟨hfeed, hbody, hbefore, hafter, hslash⟩
    · cases h
  · rintro ⟨hfeed, rfl, hfirst, hsecond, hslash⟩
    simp [arkParts?, hfeed, Text.cutLast_append hsecond hslash, hfirst]

/-- A text whose second part holds no slash. Where that part is empty, the cut moves into the first. -/
theorem Scheme.dark_writes_pair_iff {first second : String} (hslash : '/' ∉ second.toList) :
    Scheme.dark.Writes ("dark:/" ++ first ++ "/" ++ second) ↔
      ('\n' ∉ first.toList ∧ '\n' ∉ second.toList) ∧
        if second = "" then '/' ∈ first.toList.tail else first ≠ "" := by
  have hbody : "dark:/" ++ first ++ "/" ++ second = "dark:/" ++ (first ++ "/" ++ second) := by
    simp [String.append_assoc]
  rw [hbody, dark_writes_iff]
  refine and_congr (by simp) ?_
  have hlist : (first ++ "/" ++ second).toList = first.toList ++ '/' :: second.toList := by simp
  rw [hlist]
  by_cases hsecond : second = ""
  · cases hfirst : first.toList with
    | nil => simp [hsecond]
    | cons d rest => simp [hsecond]
  · rw [if_neg hsecond]
    by_cases hfirst : first = ""
    · refine iff_of_false ?_ (not_not.2 hfirst)
      rw [hfirst]
      exact fun h => hslash ((List.dropLast_sublist _).mem h)
    · refine iff_of_true ?_ hfirst
      exact Text.exists_parts_iff.1 ⟨_, _, rfl, by simpa using hfirst, by simpa using hsecond⟩

namespace IdentifierValue

variable {v : IdentifierValue} {first second : String}

def Cut (s first second : String) : Prop :=
  s = "dark:/" ++ first ++ "/" ++ second ∧ first ≠ "" ∧ second ≠ ""

theorem Cut.toList {s : String} (h : Cut s first second) :
    s.toList = "dark:/".toList ++ (first.toList ++ '/' :: second.toList) := by
  rw [h.1]
  simp

/-- A cut of one text that leaves the second part as short as it may leaves the first part longest. -/
theorem Cut.length_le {s first' second' : String} (h : Cut s first second) (h' : Cut s first' second')
    (hslash : '/' ∉ second.toList.dropLast) : first'.length ≤ first.length := by
  have hbody : first.toList ++ '/' :: second.toList = first'.toList ++ '/' :: second'.toList :=
    List.append_cancel_left (h.toList.symm.trans h'.toList)
  have hlength := Text.length_le_of_cut hbody hslash (by simpa using h'.2.2)
  rwa [String.length_toList, String.length_toList] at hlength

/-- The parts are the cut behind which a slash stands at the end at most. -/
theorem arkParts?_eq_some_iff : v.arkParts? = some (first, second) ↔
    v.scheme = .dark ∧ Cut v.text first second ∧ '/' ∉ second.toList.dropLast := by
  have hwrites := v.writes_text
  unfold arkParts?
  cases hscheme : v.scheme with
  | doi => simp
  | dark =>
    rw [hscheme] at hwrites
    simp only [Option.map_eq_some_iff, Option.bind_eq_some_iff, Text.dropLead_eq_some_iff, true_and]
    constructor
    · rintro ⟨⟨first', second'⟩, ⟨body, htext, hparts⟩, heq⟩
      obtain ⟨rfl, rfl⟩ := Prod.mk.inj heq
      obtain ⟨-, rfl, hfirst, hsecond, hslash⟩ := IdentifierRegistrar.arkParts?_eq_some_iff.1 hparts
      refine ⟨⟨by simp [String.ext_iff, htext], ?_, ?_⟩, by simpa using hslash⟩
      · simpa [String.ext_iff] using hfirst
      · simpa [String.ext_iff] using hsecond
    · rintro ⟨hcut, hslash⟩
      have htext : v.text = "dark:/" ++ (first ++ "/" ++ second) := by
        rw [hcut.1]
        simp [String.append_assoc]
      rw [htext, Scheme.dark_writes_iff] at hwrites
      refine ⟨(first.toList, second.toList), ⟨_, hcut.toList, ?_⟩, by simp⟩
      refine IdentifierRegistrar.arkParts?_eq_some_iff.2 ⟨by simpa using hwrites.1, rfl, ?_, ?_, hslash⟩
      · simpa using hcut.2.1
      · simpa using hcut.2.2

/-- Every dArk value has two parts, which put together are its text, and of all such cuts of the text this
one has the longest first part; so its second part holds no slash but at its end. Every two parts without
line feeds make a value, and they are the parts of it if and only if the second holds no slash before
its end. -/
theorem arkParts_rejoin :
    (∀ v : IdentifierValue, v.scheme = .dark → ∃ first second, v.arkParts? = some (first, second) ∧
      Cut v.text first second ∧
      (∀ first' second', Cut v.text first' second' → first'.length ≤ first.length) ∧
      '/' ∉ second.toList.dropLast) ∧
    ∀ first second : String, first ≠ "" → second ≠ "" → '\n' ∉ first.toList → '\n' ∉ second.toList →
      ∃ v, ofArk first second = .ok v ∧
        (v.arkParts? = some (first, second) ↔ '/' ∉ second.toList.dropLast) := by
  constructor
  · intro v hv
    obtain ⟨first, second, hparts⟩ := exists_arkParts hv
    obtain ⟨-, hcut, hslash⟩ := arkParts?_eq_some_iff.1 hparts
    exact ⟨first, second, hparts, hcut, fun _ _ hcut' => hcut.length_le hcut' hslash, hslash⟩
  · intro first second hfirst hsecond hfeed hfeed'
    have hwrites : Scheme.dark.Writes ("dark:/" ++ first ++ "/" ++ second) :=
      ⟨first, second, rfl, ⟨hfirst, hfeed⟩, hsecond, hfeed'⟩
    refine ⟨_, parse_of_writes hwrites, ?_⟩
    rw [arkParts?_eq_some_iff]
    exact ⟨fun h => h.2.2, fun h => ⟨rfl, ⟨rfl, hfirst, hsecond⟩, h⟩⟩

def slashedArk : IdentifierValue := ⟨.dark, "dark:/low//tide/", by decide⟩

theorem slashed_rejoined :
    (∃ first second, slashedArk.arkParts? = some (first, second) ∧ Cut slashedArk.text first second) ∧
    ∃ v, ofArk "low/" "tide/" = .ok v ∧ v.arkParts? = some ("low/", "tide/") := by
  obtain ⟨first, second, hparts, hcut, -⟩ := arkParts_rejoin.1 slashedArk rfl
  obtain ⟨v, hv, hiff⟩ :=
    arkParts_rejoin.2 "low/" "tide/" (by decide) (by decide) (by decide) (by decide)
  exact ⟨⟨first, second, hparts, hcut⟩, v, hv, hiff.2 (by decide)⟩

end IdentifierValue

end IdentifierRegistrar
