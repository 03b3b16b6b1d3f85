import IdentifierRegistrar.Proofs.Identifier.ReadBack
import IdentifierRegistrar.Resource.Json

/-! The written form of identifier values. `Scheme.Writes` says it without a reader: a DOI is cut at the
first slash of its name, a dArk value at any slash that leaves a part on either side. Reading accepts
these texts and no others, and says of every other text what is wrong with it (`parse_exact`). -/

namespace IdentifierRegistrar

namespace Text

variable {c : Char} {cs : List Char}

/-- There are two parts around a place of `c` when it stands neither first nor last. -/
theorem exists_parts_iff :
    (∃ before after, cs = before ++ c :: after ∧ before ≠ [] ∧ after ≠ []) ↔ c ∈ cs.tail.dropLast := by
  constructor
  · rintro ⟨before, after, rfl, hbefore, hafter⟩
    obtain ⟨d, rest, rfl⟩ := List.exists_cons_of_ne_nil hbefore
    rw [List.cons_append, List.tail_cons, List.dropLast_append_of_ne_nil (by simp),
      List.dropLast_cons_of_ne_nil hafter]
    simp
  · intro h
    cases cs with
    | nil => simp at h
    | cons d rest =>
      rw [List.tail_cons] at h
      have hne : rest ≠ [] := by
        rintro rfl
        simp at h
      obtain ⟨before, after, hparts⟩ := List.append_of_mem h
      have hrest : rest = before ++ c :: (after ++ [rest.getLast hne]) := by
        calc
          rest = rest.dropLast ++ [rest.getLast hne] := (List.dropLast_append_getLast hne).symm
          _ = before ++ c :: (after ++ [rest.getLast hne]) := by rw [hparts]; simp
      exact ⟨d :: before, after ++ [rest.getLast hne], congrArg (d :: ·) hrest, by simp, by simp⟩

/-- A reader of what stands behind a lead accepts just the texts of which `P` holds, if `P` holds behind the
lead of what it accepts there and nowhere else. -/
theorem isSome_bind_dropLead {α : Type} {lead s : String} {f : List Char → Option α} {P : String → Prop}
    (hbody : ∀ body : String, (f body.toList).isSome = true ↔ P (lead ++ body))
    (hlead : P s → ∃ body, s = lead ++ body) :
    ((dropLead lead.toList s.toList).bind f).isSome = true ↔ P s := by
  constructor
  · intro h
    obtain ⟨rest, hrest⟩ : ∃ rest, dropLead lead.toList s.toList = some rest := by
      cases hdrop : dropLead lead.toList s.toList with
      | none => simp [hdrop] at h
      | some rest => exact ⟨rest, rfl⟩
    have hs : s = lead ++ String.ofList rest := by
      simp [String.ext_iff, dropLead_eq_some_iff.1 hrest]
    rw [hs, ← hbody, String.toList_ofList]
    simpa [hrest] using h
  · intro h
    obtain ⟨body, rfl⟩ := hlead h
    rw [dropLead_eq_some_iff.2 String.toList_append]
    exact (hbody body).2 h

end Text

def Scheme.Writes : Scheme → String → Prop
  | doi, s => ∃ registrant suffix : String, s = "doi:" ++ registrant ++ "/" ++ suffix ∧
      registrant ≠ "" ∧ '/' ∉ registrant.toList ∧ suffix ≠ ""
  | dark, s => ∃ first second : String, s = "dark:/" ++ first ++ "/" ++ second ∧
      (first ≠ "" ∧ '\n' ∉ first.toList) ∧ second ≠ "" ∧ '\n' ∉ second.toList

theorem doiParts?_isSome_iff {name : List Char} : (doiParts? name).isSome = true ↔
    ∃ registrant suffix, name = registrant ++ '/' :: suffix ∧
      registrant ≠ [] ∧ '/' ∉ registrant ∧ suffix ≠ [] := by
  constructor
  · intro h
    unfold doiParts? at h
    split at h
    · rename_i registrant suffix hcut
      obtain ⟨hname, hslash⟩ := Text.eq_of_cutFirst hcut
      split at h
      · cases h
      · rename_i hne
        rw [not_or] at hne
        exact ⟨registrant, suffix, hname, hne.1, hslash, hne.2⟩
    · cases h
  · rintro ⟨registrant, suffix, rfl, hregistrant, hslash, hsuffix⟩
    simp [doiParts?, Text.cutFirst_append hslash, hregistrant, hsuffix]

theorem arkParts?_isSome_iff {body : List Char} :
    (arkParts? body).isSome = true ↔ '\n' ∉ body ∧ '/' ∈ body.tail.dropLast := by
  unfold arkParts?
  by_cases hfeed : '\n' ∈ body
  · simp [hfeed]
  · rw [if_neg hfeed, and_iff_right hfeed]
    cases hcut : Text.cutLast '/' body with
    | none =>
      have hslash : '/' ∉ body.dropLast := Text.cutLast_eq_none_iff.1 hcut
      refine iff_of_false (by simp) fun h => hslash ?_
      rw [← List.tail_dropLast] at h
      exact List.mem_of_mem_tail h
    | some parts =>
      obtain ⟨first, second⟩ := parts
      obtain ⟨rfl, hne, hslash⟩ := Text.eq_of_cutLast hcut
      by_cases hfirst : first = []
      · simp [hfirst, hslash]
      · have hmem : '/' ∈ (first ++ '/' :: second).tail.dropLast :=
          Text.exists_parts_iff.1 ⟨first, second, rfl, hfirst, hne⟩
        exact iff_of_true (by simp [hfirst]) hmem

/-- A text behind `dark:/` is that of a value if it holds no line feed and, neither first nor last, a
slash. -/
theorem Scheme.dark_writes_iff {body : String} :
    Scheme.dark.Writes ("dark:/" ++ body) ↔ '\n' ∉ body.toList ∧ '/' ∈ body.toList.tail.dropLast := by
  rw [← Text.exists_parts_iff]
  constructor
  · rintro ⟨first, second, hs, ⟨hfirst, hfeed⟩, hsecond, hfeed'⟩
    have hbody : body.toList = first.toList ++ '/' :: second.toList := by
      simpa [String.ext_iff] using hs
    refine ⟨by simp [hbody, hfeed, hfeed'], first.toList, second.toList, hbody, ?_, ?_⟩
    · simpa using hfirst
    · simpa using hsecond
  · rintro ⟨hfeed, first, second, hbody, hfirst, hsecond⟩
    rw [hbody] at hfeed
    simp only [List.mem_append, List.mem_cons, not_or] at hfeed
    refine ⟨String.ofList first, String.ofList second, by simp [String.ext_iff, hbody], ?_, ?_⟩
    · simpa [String.ext_iff, hfirst] using hfeed.1
    · simpa [String.ext_iff, hsecond] using hfeed.2.2

theorem Scheme.doi_writes_iff {name : String} : Scheme.doi.Writes ("doi:" ++ name) ↔
    ∃ registrant suffix, name.toList = registrant ++ '/' :: suffix ∧
      registrant ≠ [] ∧ '/' ∉ registrant ∧ suffix ≠ [] := by
  constructor
  · rintro ⟨registrant, suffix, hs, hregistrant, hslash, hsuffix⟩
    refine ⟨registrant.toList, suffix.toList, by simpa [String.ext_iff] using hs, ?_, hslash, ?_⟩
    · simpa using hregistrant
    · simpa using hsuffix
  · rintro ⟨registrant, suffix, hname, hregistrant, hslash, hsuffix⟩
    refine ⟨String.ofList registrant, String.ofList suffix, by simp [String.ext_iff, hname], ?_, ?_, ?_⟩
    · simpa [String.ext_iff] using hregistrant
    · simpa using hslash
    · simpa [String.ext_iff] using hsuffix

theorem Scheme.Writes.lead {scheme : Scheme} {s : String} (h : scheme.Writes s) :
    scheme.lead.toList <+: s.toList := by
  cases scheme with
  | doi =>
    obtain ⟨registrant, suffix, rfl, -⟩ := h
    exact ⟨registrant.toList ++ '/' :: suffix.toList, by simp [Scheme.lead]⟩
  | dark =>
    obtain ⟨first, second, rfl, -⟩ := h
    exact ⟨'/' :: (first.toList ++ '/' :: second.toList), by simp [Scheme.lead]⟩

theorem Scheme.accepts_iff {scheme : Scheme} {s : String} :
    scheme.accepts s.toList = true ↔ scheme.Writes s := by
  cases scheme with
  | doi =>
    refine Text.isSome_bind_dropLead (fun name => doiParts?_isSome_iff.trans doi_writes_iff.symm) ?_
    rintro ⟨registrant, suffix, rfl, -⟩
    exact ⟨registrant ++ "/" ++ suffix, by simp [String.append_assoc]⟩
  | dark =>
    refine Text.isSome_bind_dropLead (fun body => arkParts?_isSome_iff.trans dark_writes_iff.symm) ?_
    rintro ⟨first, second, rfl, -⟩
    exact ⟨first ++ "/" ++ second, by simp [String.append_assoc]⟩

namespace IdentifierValue

variable {s : String} {scheme : Scheme}

/-- What is wrong with a text that is no value: it is empty, it begins as no scheme's values do, or it
begins as those of a scheme and is none of them. -/
inductive Fault (s : String) : IdError → Prop
  | empty (h : s = "") : Fault s .empty
  | unknownScheme (hne : s ≠ "") (h : ∀ scheme : Scheme, ¬ scheme.lead.toList <+: s.toList) :
    Fault s (.unknownScheme s)
  | malformed {scheme : Scheme} (hlead : scheme.lead.toList <+: s.toList) (h : ¬ scheme.Writes s) :
    Fault s (.malformed scheme s)

/-- No text begins as the values of two schemes. -/
theorem find_lead (h : scheme.lead.toList <+: s.toList) :
    (Scheme.all.find? fun t => t.lead.toList.isPrefixOf s.toList) = some scheme := by
  obtain ⟨rest, hrest⟩ := h
  rw [← hrest]
  cases scheme <;> simp [Scheme.all, Scheme.lead]

/-- A text that begins as the values of a scheme do is read as one of them or not at all. -/
theorem parse_of_lead (h : scheme.lead.toList <+: s.toList) : parse s = ofText scheme s := by
  have hne : s.isEmpty = false := by
    rw [String.isEmpty_eq_false_iff]
    rintro rfl
    cases scheme <;> simp [Scheme.lead] at h
  rw [parse, hne, find_lead h]
  rfl

theorem parse_of_no_lead (hne : s ≠ "") (h : ∀ scheme : Scheme, ¬ scheme.lead.toList <+: s.toList) :
    parse s = .error (.unknownScheme s) := by
  have hfind : (Scheme.all.find? fun t => t.lead.toList.isPrefixOf s.toList) = none := by
    rw [List.find?_eq_none]
    intro t _ hprefix
    exact h t (List.isPrefixOf_iff_prefix.1 hprefix)
  rw [parse, String.isEmpty_eq_false_iff.2 hne, hfind]
  rfl

theorem parse_of_writes (h : scheme.Writes s) :
    parse s = .ok ⟨scheme, s, Scheme.accepts_iff.2 h⟩ := by
  rw [parse_of_lead h.lead, ofText, dif_pos]

theorem parse_of_fault {e : IdError} (h : Fault s e) : parse s = .error e := by
  cases h with
  | empty h => rw [h]; rfl
  | unknownScheme hne h => exact parse_of_no_lead hne h
  | malformed hlead h => rw [parse_of_lead hlead, ofText, dif_neg (mt Scheme.accepts_iff.1 h)]

theorem writes_text (v : IdentifierValue) : v.scheme.Writes v.text := Scheme.accepts_iff.1 v.accepted

theorem scheme_of_parse {v : IdentifierValue} (hlead : scheme.lead.toList <+: s.toList)
    (h : parse s = .ok v) : v.scheme = scheme := by
  rw [parse_of_lead hlead, ofText] at h
  split at h
  · obtain rfl := Except.ok.inj h
    rfl
  · cases h

theorem exists_parse_iff (hlead : scheme.lead.toList <+: s.toList) :
    (∃ v, parse s = .ok v) ↔ scheme.Writes s := by
  constructor
  · rintro ⟨v, hv⟩
    have hwrites := v.writes_text
    rwa [text_of_parse hv, scheme_of_parse hlead hv] at hwrites
  · intro h
    exact ⟨_, parse_of_writes h⟩

/-- Every text is that of a value or has a fault. -/
theorem writes_or_fault (s : String) : (∃ scheme : Scheme, scheme.Writes s) ∨ ∃ e, Fault s e := by
  by_cases hlead : ∃ scheme : Scheme, scheme.lead.toList <+: s.toList
  · obtain ⟨scheme, hlead⟩ := hlead
    by_cases h : scheme.Writes s
    · exact .inl ⟨scheme, h⟩
    · exact .inr ⟨_, .malformed hlead h⟩
  · by_cases hne : s = ""
    · exact .inr ⟨_, .empty hne⟩
    · exact .inr ⟨_, .unknownScheme hne (not_exists.1 hlead)⟩

theorem ofJson_string (s : String) :
    ofJson (.string s) = (parse s).mapError fun e => .content e.message := by
  unfold ofJson asParsed
  simp only [Json.asString, Except.bind, bind]
  cases parse s <;> rfl

theorem ofJson_eq_ok_iff {j : Json} {v : IdentifierValue} : ofJson j = .ok v ↔ j = v.toJson := by
  constructor
  · intro h
    cases j with
    | string s =>
      rw [ofJson_string] at h
      cases hs : parse s with
      | error e =>
        rw [hs] at h
        cases h
      | ok w =>
        rw [hs] at h
        obtain rfl := Except.ok.inj h
        rw [toJson, text_of_parse hs]
    | _ => cases h
  · rintro rfl
    rw [toJson, ofJson_string, parse_text]
    rfl

/-- Reading accepts exactly the written forms. What is read is the value that has the text as it was
given and the scheme that it begins as, and from its own text a value is read again; a text that is not
accepted is reported with the fault that it has. A JSON string is taken as its text is, and nothing else
is taken. -/
theorem parse_exact (s : String) :
    ((∃ v, parse s = .ok v) ↔ ∃ scheme : Scheme, scheme.Writes s) ∧
    (∀ v, parse s = .ok v ↔ v.text = s ∧ v.scheme.Writes s) ∧
    (∀ v, parse v.text = .ok v) ∧
    (∀ e, parse s = .error e ↔ Fault s e) ∧
    ofJson (.string s) = (parse s).mapError (fun e => .content e.message) ∧
    ∀ j v, ofJson j = .ok v ↔ j = v.toJson := by
  refine ⟨⟨?_, ?_⟩, fun v => ⟨fun h => ?_, ?_⟩, parse_text, fun e => ⟨fun h => ?_, parse_of_fault⟩,
    ofJson_string s, fun j v => ofJson_eq_ok_iff⟩
  · rintro ⟨v, hv⟩
    exact ⟨v.scheme, text_of_parse hv ▸ v.writes_text⟩
  · rintro ⟨scheme, h⟩
    exact ⟨_, parse_of_writes h⟩
  · obtain rfl := text_of_parse h
    exact ⟨rfl, v.writes_text⟩
  · rintro ⟨rfl, -⟩
    exact parse_text v
  · rcases writes_or_fault s with ⟨scheme, hwrites⟩ | ⟨e', hfault⟩
    · rw [parse_of_writes hwrites] at h
      cases h
    · rw [parse_of_fault hfault] at h
      obtain rfl := Except.error.inj h
      exact hfault

end IdentifierValue

end IdentifierRegistrar
