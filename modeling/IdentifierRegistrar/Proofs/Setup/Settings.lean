import IdentifierRegistrar.Config
import IdentifierRegistrar.Proofs.Identifier.Spelling
import IdentifierRegistrar.Proofs.Store.Decoded
import Mathlib.Logic.Function.Basic

/-!
Settings as they are given by keys and texts. Which texts say a flag or a number of seconds, what an
enabled provider needs, and what each setting is where nothing is given to it; settings are read
exactly where all this holds (`Config.read_eq_ok_iff`, `Config.exists_read_iff`). A key whose text is
blank is not given (`Config.read_update_blank`).
-/

namespace IdentifierRegistrar

namespace Text

theorem isSpace_of_isDigit {c : Char} (h : c.isDigit = true) : isSpace c = false := by
  simp only [Char.isDigit, Bool.and_eq_true, decide_eq_true_eq] at h
  have hlow : 48 ≤ c.toNat := h.1
  have hhigh : c.toNat ≤ 57 := h.2
  simp only [isSpace, Bool.or_eq_false_iff, Bool.and_eq_false_iff, decide_eq_false_iff_not,
    beq_eq_false_iff_ne]
  omega

theorem isSpace_toLower (c : Char) : isSpace c.toLower = isSpace c := by
  by_cases hc : c.toNat < 128
  · exact forall_ascii (p := fun c => isSpace c.toLower = isSpace c) (by decide) hc
  · rw [toLower_eq_self hc]

theorem trimmed_of_forall {cs : List Char} (h : ∀ c ∈ cs, isSpace c = false) : Trimmed cs :=
  ⟨fun c hc => h c (List.mem_of_mem_head? hc), fun c hc => h c (List.mem_of_mem_getLast? hc)⟩

theorem trimChars_of_pads {inner cs : List Char} (h : Pads inner cs)
    (hinner : ∀ c ∈ inner, isSpace c = false) : trimChars cs = inner :=
  trimChars_eq_iff.2 ⟨trimmed_of_forall hinner, h⟩

theorem pads_trimChars (cs : List Char) : Pads (trimChars cs) cs := (trimChars_eq_iff.1 rfl).2

/-- The text is the word, its letters in either case, with blanks around it. -/
def SaysWord (text word : String) : Prop :=
  ∃ inner, Pads inner text.toList ∧ inner.map Char.toLower = word.toList

theorem saysWord_iff {text word : String} (hword : ∀ c ∈ word.toList, isSpace c = false) :
    SaysWord text word ↔ String.ofList ((trimChars text.toList).map Char.toLower) = word := by
  constructor
  · rintro ⟨inner, hpads, hlower⟩
    rw [trimChars_of_pads hpads, hlower, String.ofList_toList]
    intro c hc
    rw [← isSpace_toLower]
    exact hword _ (hlower ▸ List.mem_map_of_mem hc)
  · rintro rfl
    exact ⟨_, pads_trimChars _, String.toList_ofList.symm⟩

/-- The text is a decimal number, a plus sign allowed before it and blanks around it. -/
def SaysNumber (text : String) (n : Nat) : Prop :=
  ∃ plus digits, Pads (plus ++ digits) text.toList ∧ (plus = [] ∨ plus = ['+']) ∧ digits ≠ [] ∧
    (∀ c ∈ digits, c.isDigit = true) ∧ Radix.ofDigits 10 (digits.map fun c => c.toNat - 48) = n

end Text

namespace Config

variable {lookup : String → Option String} {key text standard : String} {b enabled : Bool} {n : Nat}
  {o : Option String}

def Unset (lookup : String → Option String) (key : String) : Prop :=
  ∀ text, lookup key = some text → ∀ c ∈ text.toList, Text.isSpace c = true

def Given (lookup : String → Option String) (key text : String) : Prop :=
  lookup key = some text ∧ ∃ c ∈ text.toList, Text.isSpace c = false

inductive Valued (lookup : String → Option String) (key : String) : Option String → Prop
  | unset (h : Unset lookup key) : Valued lookup key none
  | given {text : String} (h : Given lookup key text) : Valued lookup key (some text)

inductive Filled (lookup : String → Option String) (key standard : String) : String → Prop
  | unset (h : Unset lookup key) : Filled lookup key standard standard
  | given {text : String} (h : Given lookup key text) : Filled lookup key standard text

inductive Flag (lookup : String → Option String) (key : String) : Bool → Prop
  | unset (h : Unset lookup key) : Flag lookup key false
  | on {text word : String} (h : Given lookup key text) (hword : word ∈ ["1", "true", "yes"])
    (hsaid : Text.SaysWord text word) : Flag lookup key true
  | off {text word : String} (h : Given lookup key text) (hword : word ∈ ["0", "false", "no"])
    (hsaid : Text.SaysWord text word) : Flag lookup key false

/-- A number of seconds: positive, and one of 64 bits. -/
inductive Seconds (lookup : String → Option String) (key : String) (standard : Nat) : Nat → Prop
  | unset (h : Unset lookup key) : Seconds lookup key standard standard
  | given {text : String} {n : Nat} (h : Given lookup key text) (hsaid : Text.SaysNumber text n)
    (hpos : 0 < n) (hlt : n < 2 ^ 64) : Seconds lookup key standard n

def enabledKey : Scheme → String
  | .dark => "PIDREG_DARK_ENABLED"
  | .doi => "PIDREG_DOI_ENABLED"

def addressKey : Scheme → String
  | .dark => "PIDREG_DARK_BASE_URL"
  | .doi => "PIDREG_DOI_BASE_URL"

def partKey : Scheme → String
  | .dark => "PIDREG_DARK_REPO_PREFIX"
  | .doi => "PIDREG_DOI_PREFIX"

def standardPart : Scheme → String
  | .dark => "local"
  | .doi => "10.5072"

/-- What is set for a provider. An enabled one has an address, and a first part for its values. -/
structure Provides (lookup : String → Option String) (scheme : Scheme) (enabled : Bool)
    (address : Option String) (part : String) : Prop where
  flag : Flag lookup (enabledKey scheme) enabled
  address : Valued lookup (addressKey scheme) address
  part : Filled lookup (partKey scheme) (standardPart scheme) part
  ready : enabled = true → ∃ address part, Given lookup (addressKey scheme) address ∧
    Given lookup (partKey scheme) part

def Ready (lookup : String → Option String) (scheme : Scheme) : Prop :=
  ∃ enabled, Flag lookup (enabledKey scheme) enabled ∧ (enabled = true → ∃ address part,
    Given lookup (addressKey scheme) address ∧ Given lookup (partKey scheme) part)

structure Describes (lookup : String → Option String) (c : Config) : Prop where
  databasePath : Filled lookup "PIDREG_DB_PATH" "pidreg.db" c.databasePath
  logLevel : Filled lookup "PIDREG_LOG_LEVEL" "info" c.logLevel
  sweep : Seconds lookup "PIDREG_SWEEP_INTERVAL_SECS" 60 c.sweepSeconds
  timeout : Seconds lookup "PIDREG_HTTP_TIMEOUT_SECS" 10 c.timeoutSeconds
  repositoryApi : Valued lookup "PIDREG_REPOSITORY_API_URL" c.repositoryApi
  policy : ∃ requested uiBase, Valued lookup "PIDREG_SEND_METADATA" requested ∧
    Valued lookup "PIDREG_UI_URL" uiBase ∧ c.policy = readPolicy requested uiBase
  dark : Provides lookup .dark c.dark.enabled c.dark.address c.dark.repository
  doi : Provides lookup .doi c.doi.enabled c.doi.address c.doi.registrant
  separator : Filled lookup "PIDREG_DOI_NAMESPACE_SEPARATOR" "" c.doi.separator
  username : Valued lookup "PIDREG_DOI_USERNAME" c.doi.username
  password : Valued lookup "PIDREG_DOI_PASSWORD" c.doi.password

def given? (lookup : String → Option String) (key : String) : Option String :=
  (lookup key).filter fun text => !Text.isBlank text

theorem given?_eq_none_iff : given? lookup key = none ↔ Unset lookup key := by
  rw [given?, Option.filter_eq_none_iff]
  simp [Unset, Text.isBlank]

theorem given?_eq_some_iff : given? lookup key = some text ↔ Given lookup key text := by
  rw [given?, Option.filter_eq_some_iff]
  simp [Given, Text.isBlank]

theorem Unset.not_given (h : Unset lookup key) : ¬Given lookup key text := fun hgiven => by
  cases (given?_eq_none_iff.2 h).symm.trans (given?_eq_some_iff.2 hgiven)

theorem Given.unique {text' : String} (h : Given lookup key text) (h' : Given lookup key text') :
    text = text' := Option.some.inj (h.1.symm.trans h'.1)

theorem valued_iff : Valued lookup key o ↔ given? lookup key = o := by
  constructor
  · rintro (h | h)
    · exact given?_eq_none_iff.2 h
    · exact given?_eq_some_iff.2 h
  · rintro rfl
    cases h : given? lookup key with
    | none => exact .unset (given?_eq_none_iff.1 h)
    | some text => exact .given (given?_eq_some_iff.1 h)

theorem filled_iff : Filled lookup key standard text ↔ (given? lookup key).getD standard = text := by
  constructor
  · rintro (h | h)
    · rw [given?_eq_none_iff.2 h, Option.getD_none]
    · rw [given?_eq_some_iff.2 h, Option.getD_some]
  · rintro rfl
    cases h : given? lookup key with
    | none => exact .unset (given?_eq_none_iff.1 h)
    | some text => exact .given (given?_eq_some_iff.1 h)

theorem word_unspaced (word : String) (hword : word ∈ ["1", "true", "yes"] ++ ["0", "false", "no"]) :
    ∀ c ∈ word.toList, Text.isSpace c = false := by
  have h : (["1", "true", "yes"] ++ ["0", "false", "no"]).all
      (fun word => word.toList.all fun c => !Text.isSpace c) = true := by decide
  intro c hc
  simpa using List.all_eq_true.1 (List.all_eq_true.1 h word hword) c hc

theorem words_disjoint : ∀ word ∈ ["1", "true", "yes"], word ∉ ["0", "false", "no"] := by decide

/-- The text says one of the words that a flag may be given by. -/
theorem says_mem_iff {words : List String} (hwords : words ⊆ ["1", "true", "yes"] ++ ["0", "false", "no"]) :
    String.ofList ((Text.trimChars text.toList).map Char.toLower) ∈ words ↔
      ∃ word ∈ words, Text.SaysWord text word := by
  constructor
  · exact fun h => ⟨_, h, (Text.saysWord_iff (word_unspaced _ (hwords h))).2 rfl⟩
  · rintro ⟨word, hword, hsaid⟩
    rw [(Text.saysWord_iff (word_unspaced _ (hwords hword))).1 hsaid]
    exact hword

theorem flag_of_unset (h : Unset lookup key) : Flag lookup key b ↔ b = false := by
  constructor
  · rintro (- | ⟨hgiven, -, -⟩ | -)
    · rfl
    · exact absurd hgiven h.not_given
    · rfl
  · rintro rfl
    exact .unset h

theorem flag_of_given (h : Given lookup key text) : Flag lookup key b ↔
    b = true ∧ (∃ word ∈ ["1", "true", "yes"], Text.SaysWord text word) ∨
      b = false ∧ ∃ word ∈ ["0", "false", "no"], Text.SaysWord text word := by
  constructor
  · rintro (hunset | ⟨hgiven, hword, hsaid⟩ | ⟨hgiven, hword, hsaid⟩)
    · exact absurd h hunset.not_given
    · obtain rfl := hgiven.unique h
      exact .inl ⟨rfl, _, hword, hsaid⟩
    · obtain rfl := hgiven.unique h
      exact .inr ⟨rfl, _, hword, hsaid⟩
  · rintro (⟨rfl, word, hword, hsaid⟩ | ⟨rfl, word, hword, hsaid⟩)
    · exact .on h hword hsaid
    · exact .off h hword hsaid

theorem readFlag_eq_ok_iff : readFlag key (given? lookup key) = .ok b ↔ Flag lookup key b := by
  unfold readFlag
  cases h : given? lookup key with
  | none =>
    rw [flag_of_unset (given?_eq_none_iff.1 h), Except.ok.injEq]
    exact eq_comm
  | some text =>
    rw [flag_of_given (given?_eq_some_iff.1 h), ← says_mem_iff (List.subset_append_left _ _),
      ← says_mem_iff (List.subset_append_right _ _)]
    dsimp only
    split
    next hon =>
      have hoff := words_disjoint _ hon
      simp only [hon, hoff, and_true, and_false, or_false, Except.ok.injEq, eq_comm]
    next hon =>
      split
      next hoff => simp only [hon, hoff, and_true, and_false, false_or, Except.ok.injEq, eq_comm]
      next hoff => simp only [hon, hoff, and_false, or_false, reduceCtorEq]

theorem readWord_eq_some_iff {cs : List Char} : readWord cs = some n ↔
    ∃ plus digits, cs = plus ++ digits ∧ (plus = [] ∨ plus = ['+']) ∧ digits ≠ [] ∧
      (∀ c ∈ digits, c.isDigit = true) ∧
      Radix.ofDigits 10 (digits.map fun c => c.toNat - 48) = n ∧ n < 2 ^ 64 := by
  have hcount : Word.count = 2 ^ 64 := rfl
  have hread (digits : List Char) (hdigits : (Text.dropLead ['+'] cs).getD cs = digits) :
      readWord cs = some n ↔ digits ≠ [] ∧ (∀ c ∈ digits, c.isDigit = true) ∧
        Radix.ofDigits 10 (digits.map fun c => c.toNat - 48) = n ∧ n < 2 ^ 64 := by
    unfold readWord
    simp only [hdigits]
    split
    next h =>
      refine iff_of_false nofun fun ⟨hne, hall, _⟩ => ?_
      rcases h with h | h
      · exact hne h
      · simp [List.all_eq_true.2 hall] at h
    next h =>
      obtain ⟨hne, hall⟩ := not_or.1 h
      have hall' : ∀ c ∈ digits, c.isDigit = true := by simpa using hall
      rw [← hcount]
      constructor
      · intro h
        obtain ⟨hlt, heq⟩ := Option.ite_none_right_eq_some.1 h
        exact ⟨hne, hall', Option.some.inj heq, (Option.some.inj heq) ▸ hlt⟩
      · rintro ⟨-, -, rfl, hlt⟩
        exact if_pos hlt
  constructor
  · intro h
    cases hplus : Text.dropLead ['+'] cs with
    | none => exact ⟨[], cs, rfl, .inl rfl, (hread cs (by rw [hplus, Option.getD_none])).1 h⟩
    | some digits =>
      exact ⟨['+'], digits, Text.dropLead_eq_some_iff.1 hplus, .inr rfl,
        (hread digits (by rw [hplus, Option.getD_some])).1 h⟩
  · rintro ⟨plus, digits, rfl, hplus, hdigits⟩
    refine (hread digits ?_).2 hdigits
    rcases hplus with rfl | rfl
    · cases digits with
      | nil => exact absurd rfl hdigits.1
      | cons c digits =>
        have hc : c ≠ '+' := by
          rintro rfl
          exact absurd (hdigits.2.1 '+' List.mem_cons_self) (by decide)
        simp [Text.dropLead, hc.symm]
    · rw [Text.dropLead_eq_some_iff.2 rfl, Option.getD_some]

theorem readWord_trimChars_iff :
    readWord (Text.trimChars text.toList) = some n ↔ Text.SaysNumber text n ∧ n < 2 ^ 64 := by
  rw [readWord_eq_some_iff]
  constructor
  · rintro ⟨plus, digits, hcs, hplus, hne, hall, hn, hlt⟩
    exact ⟨⟨plus, digits, hcs ▸ Text.pads_trimChars _, hplus, hne, hall, hn⟩, hlt⟩
  · rintro ⟨⟨plus, digits, hpads, hplus, hne, hall, hn⟩, hlt⟩
    refine ⟨plus, digits, Text.trimChars_of_pads hpads fun c hc => ?_, hplus, hne, hall, hn, hlt⟩
    rcases List.mem_append.1 hc with hc | hc
    · rcases hplus with rfl | rfl
      · cases hc
      · obtain rfl := List.mem_singleton.1 hc
        decide
    · exact Text.isSpace_of_isDigit (hall c hc)

theorem seconds_of_unset {standard : Nat} (h : Unset lookup key) :
    Seconds lookup key standard n ↔ n = standard := by
  constructor
  · rintro (- | ⟨hgiven, -, -, -⟩)
    · rfl
    · exact absurd hgiven h.not_given
  · rintro rfl
    exact .unset h

theorem seconds_of_given {standard : Nat} (h : Given lookup key text) :
    Seconds lookup key standard n ↔ (Text.SaysNumber text n ∧ n < 2 ^ 64) ∧ 0 < n := by
  constructor
  · rintro (hunset | ⟨hgiven, hsaid, hpos, hlt⟩)
    · exact absurd h hunset.not_given
    · obtain rfl := hgiven.unique h
      exact ⟨⟨hsaid, hlt⟩, hpos⟩
  · rintro ⟨⟨hsaid, hlt⟩, hpos⟩
    exact .given h hsaid hpos hlt

theorem readSeconds_eq_ok_iff {standard : Nat} :
    readSeconds key (given? lookup key) standard = .ok n ↔ Seconds lookup key standard n := by
  unfold readSeconds
  cases h : given? lookup key with
  | none =>
    rw [seconds_of_unset (given?_eq_none_iff.1 h), Except.ok.injEq]
    exact eq_comm
  | some text =>
    rw [seconds_of_given (given?_eq_some_iff.1 h), ← readWord_trimChars_iff]
    dsimp only
    split
    next m hm =>
      rw [hm]
      constructor
      · rintro ⟨⟩
        exact ⟨rfl, Nat.succ_pos m⟩
      · rintro ⟨⟨⟩, -⟩
        rfl
    next hno =>
      refine iff_of_false nofun fun ⟨hread, hpos⟩ => ?_
      obtain ⟨m, rfl⟩ := Nat.exists_eq_succ_of_ne_zero hpos.ne'
      exact hno m hread

theorem readAddress_eq_ok_iff {error : String} {value : Option String} :
    readAddress enabled error value = .ok o ↔ value = o ∧ (enabled = true → ∃ text, value = some text) := by
  cases enabled <;> cases value <;> simp [readAddress]

theorem readPart_eq_ok_iff {error : String} {value : Option String} :
    readPart enabled error value standard = .ok text ↔
      value.getD standard = text ∧ (enabled = true → ∃ text, value = some text) := by
  cases enabled <;> cases value <;> simp [readPart]

theorem provides_iff {scheme : Scheme} {address : Option String} {part : String} :
    Provides lookup scheme enabled address part ↔
      readFlag (enabledKey scheme) (given? lookup (enabledKey scheme)) = .ok enabled ∧
      readAddress enabled (addressKey scheme) (given? lookup (addressKey scheme)) = .ok address ∧
      readPart enabled (partKey scheme) (given? lookup (partKey scheme)) (standardPart scheme) =
        .ok part := by
  rw [readFlag_eq_ok_iff, readAddress_eq_ok_iff, readPart_eq_ok_iff, ← valued_iff, ← filled_iff]
  simp only [given?_eq_some_iff]
  constructor
  · intro h
    refine ⟨h.flag, ⟨h.address, fun henabled => ?_⟩, h.part, fun henabled => ?_⟩
    · obtain ⟨address, -, haddress, -⟩ := h.ready henabled
      exact ⟨address, haddress⟩
    · obtain ⟨-, part, -, hpart⟩ := h.ready henabled
      exact ⟨part, hpart⟩
  · rintro ⟨hflag, ⟨haddress, hreach⟩, hpart, hnamed⟩
    refine ⟨hflag, haddress, hpart, fun henabled => ?_⟩
    obtain ⟨address, haddress⟩ := hreach henabled
    obtain ⟨part, hpart⟩ := hnamed henabled
    exact ⟨address, part, haddress, hpart⟩

theorem readDark_eq_ok_iff {s : DarkSettings} :
    readDark (given? lookup) = .ok s ↔ Provides lookup .dark s.enabled s.address s.repository := by
  rw [provides_iff, readDark]
  simp only [Except.bind_eq_ok_iff]
  constructor
  · rintro ⟨enabled, henabled, address, haddress, repository, hrepository, hs⟩
    obtain rfl := Except.ok.inj hs
    exact ⟨henabled, haddress, hrepository⟩
  · rintro ⟨henabled, haddress, hrepository⟩
    exact ⟨_, henabled, _, haddress, _, hrepository, rfl⟩

theorem readDoi_eq_ok_iff {s : DoiSettings} : readDoi (given? lookup) = .ok s ↔
    Provides lookup .doi s.enabled s.address s.registrant ∧
      Filled lookup "PIDREG_DOI_NAMESPACE_SEPARATOR" "" s.separator ∧
      Valued lookup "PIDREG_DOI_USERNAME" s.username ∧ Valued lookup "PIDREG_DOI_PASSWORD" s.password := by
  rw [provides_iff, filled_iff, valued_iff, valued_iff, readDoi]
  simp only [Except.bind_eq_ok_iff]
  constructor
  · rintro ⟨enabled, henabled, address, haddress, registrant, hregistrant, hs⟩
    obtain rfl := Except.ok.inj hs
    exact ⟨⟨henabled, haddress, hregistrant⟩, rfl, rfl, rfl⟩
  · rintro ⟨⟨henabled, haddress, hregistrant⟩, hseparator, husername, hpassword⟩
    refine ⟨_, henabled, _, haddress, _, hregistrant, ?_⟩
    rw [hseparator, husername, hpassword]
    rfl

theorem read_eq (lookup : String → Option String) : read lookup = do
    let sweepSeconds ←
      readSeconds "PIDREG_SWEEP_INTERVAL_SECS" (given? lookup "PIDREG_SWEEP_INTERVAL_SECS") 60
    let timeoutSeconds ←
      readSeconds "PIDREG_HTTP_TIMEOUT_SECS" (given? lookup "PIDREG_HTTP_TIMEOUT_SECS") 10
    let dark ← readDark (given? lookup)
    let doi ← readDoi (given? lookup)
    return {
      databasePath := (given? lookup "PIDREG_DB_PATH").getD "pidreg.db"
      logLevel := (given? lookup "PIDREG_LOG_LEVEL").getD "info"
      sweepSeconds, timeoutSeconds
      repositoryApi := given? lookup "PIDREG_REPOSITORY_API_URL"
      policy := readPolicy (given? lookup "PIDREG_SEND_METADATA") (given? lookup "PIDREG_UI_URL")
      dark, doi } := rfl

theorem read_eq_ok_iff {c : Config} : read lookup = .ok c ↔ Describes lookup c := by
  rw [read_eq]
  simp only [Except.bind_eq_ok_iff, readSeconds_eq_ok_iff, readDark_eq_ok_iff, readDoi_eq_ok_iff]
  constructor
  · rintro ⟨sweep, hsweep, timeout, htimeout, dark, hdark, doi, ⟨hdoi, hseparator, husername, hpassword⟩, hc⟩
    obtain rfl := Except.ok.inj hc
    exact ⟨filled_iff.2 rfl, filled_iff.2 rfl, hsweep, htimeout, valued_iff.2 rfl,
      ⟨_, _, valued_iff.2 rfl, valued_iff.2 rfl, rfl⟩, hdark, hdoi, hseparator, husername, hpassword⟩
  · intro h
    refine ⟨_, h.sweep, _, h.timeout, c.dark, h.dark, c.doi, ⟨h.doi, h.separator, h.username, h.password⟩, ?_⟩
    obtain ⟨requested, uiBase, hrequested, huiBase, hpolicy⟩ := h.policy
    rw [filled_iff.1 h.databasePath, filled_iff.1 h.logLevel, valued_iff.1 h.repositoryApi,
      valued_iff.1 hrequested, valued_iff.1 huiBase, ← hpolicy]
    rfl

theorem exists_provides_iff {scheme : Scheme} :
    (∃ enabled address part, Provides lookup scheme enabled address part) ↔ Ready lookup scheme := by
  constructor
  · rintro ⟨enabled, _, _, h⟩
    exact ⟨enabled, h.flag, h.ready⟩
  · rintro ⟨enabled, hflag, hready⟩
    exact ⟨enabled, _, _, hflag, valued_iff.2 rfl, filled_iff.2 rfl, hready⟩

/-- Settings are read exactly where the flags and the numbers of seconds can be, and each enabled
provider has what it needs. -/
theorem exists_read_iff : (∃ c, read lookup = .ok c) ↔
    (∃ n, Seconds lookup "PIDREG_SWEEP_INTERVAL_SECS" 60 n) ∧
    (∃ n, Seconds lookup "PIDREG_HTTP_TIMEOUT_SECS" 10 n) ∧ ∀ scheme, Ready lookup scheme := by
  simp only [read_eq_ok_iff, ← exists_provides_iff]
  constructor
  · rintro ⟨c, h⟩
    refine ⟨⟨_, h.sweep⟩, ⟨_, h.timeout⟩, fun scheme => ?_⟩
    cases scheme with
    | dark => exact ⟨_, _, _, h.dark⟩
    | doi => exact ⟨_, _, _, h.doi⟩
  · rintro ⟨⟨sweep, hsweep⟩, ⟨timeout, htimeout⟩, hready⟩
    obtain ⟨darkEnabled, darkAddress, repository, hdark⟩ := hready .dark
    obtain ⟨doiEnabled, doiAddress, registrant, hdoi⟩ := hready .doi
    let doi : DoiSettings := ⟨doiEnabled, doiAddress, registrant,
      (given? lookup "PIDREG_DOI_NAMESPACE_SEPARATOR").getD "", given? lookup "PIDREG_DOI_USERNAME",
      given? lookup "PIDREG_DOI_PASSWORD"⟩
    exact ⟨⟨_, _, sweep, timeout, _, _, ⟨darkEnabled, darkAddress, repository⟩, doi⟩,
      filled_iff.2 rfl, filled_iff.2 rfl, hsweep, htimeout, valued_iff.2 rfl,
      ⟨_, _, valued_iff.2 rfl, valued_iff.2 rfl, rfl⟩, hdark, hdoi, filled_iff.2 rfl, valued_iff.2 rfl,
      valued_iff.2 rfl⟩

theorem given?_update_blank (lookup : String → Option String) (key : String) {text : String}
    (h : ∀ c ∈ text.toList, Text.isSpace c = true) :
    given? (Function.update lookup key (some text)) = given? (Function.update lookup key none) := by
  funext other
  by_cases hkey : other = key
  · subst hkey
    simp only [given?, Function.update_self]
    have hblank : Text.isBlank text = true := List.all_eq_true.2 h
    simp [hblank]
  · simp only [given?, Function.update_of_ne hkey]

theorem read_update_blank (lookup : String → Option String) (key : String) {text : String}
    (h : ∀ c ∈ text.toList, Text.isSpace c = true) :
    read (Function.update lookup key (some text)) = read (Function.update lookup key none) := by
  rw [read_eq, read_eq, given?_update_blank lookup key h]

end Config

end IdentifierRegistrar
