import IdentifierRegistrar.Agency.Fault
import IdentifierRegistrar.Text.Blank
import Mathlib.Algebra.Order.BigOperators.Group.List
import Mathlib.Algebra.Order.Ring.Nat

/-!
What the body of a refusal says. A body that lists errors says the texts of its entries, in their
order; without such a text it says its message or its error, and without those it stands for itself.
The text of an entry is its title, and its detail only where it has no title at all: a title that is
no text hides the detail, and what the body says is then another text than that of all its errors,
save where no entry has a text and the body's own message happens to repeat theirs
(`rejectionMessage_exact`, `detail_hidden`).
-/

namespace IdentifierRegistrar

def Json.Says (v : Json) (key text : String) : Prop := v.get? key = some (.string text)

namespace Agency

inductive Entitled (e : Json) : String → Prop
  | title {t : String} (h : e.Says "title" t) : Entitled e t
  | detail {t : String} (hnone : e.get? "title" = none) (h : e.Says "detail" t) : Entitled e t

/-- The text of an entry: its title if that is a text, otherwise its detail if that is one. -/
inductive Told (e : Json) : String → Prop
  | title {t : String} (h : e.Says "title" t) : Told e t
  | detail {t : String} (hnone : ∀ t, ¬e.Says "title" t) (h : e.Says "detail" t) : Told e t

/-- Before the detail of the entry stands a title that is no text. -/
def Hides (e : Json) : Prop :=
  (∃ title, e.get? "title" = some title ∧ ∀ t, title ≠ .string t) ∧ ∃ t, e.Says "detail" t

/-- The texts of entries, in their order; an entry may have none. -/
inductive Texts (tells : Json → String → Prop) : List Json → List String → Prop
  | nil : Texts tells [] []
  | text {e : Json} {t : String} {es : List Json} {ts : List String} (h : tells e t)
      (hrest : Texts tells es ts) : Texts tells (e :: es) (t :: ts)
  | none {e : Json} {es : List Json} {ts : List String} (h : ∀ t, ¬tells e t)
      (hrest : Texts tells es ts) : Texts tells (e :: es) ts

/-- A body that lists no texts of errors: its message, else its error, else the body without the
blanks around it. -/
inductive Remarks (v : Json) (body : String) : String → Prop
  | message {m : String} (h : v.Says "message" m) : Remarks v body m
  | error {m : String} (hnone : ∀ t, ¬v.Says "message" t) (h : v.Says "error" m) : Remarks v body m
  | itself (hmessage : ∀ t, ¬v.Says "message" t) (herror : ∀ t, ¬v.Says "error" t) :
      Remarks v body (Text.trim body)

inductive Explains (tells : Json → String → Prop) (body : String) : String → Prop
  | listed {v : Json} {es : List Json} {ts : List String} (hbody : Json.parseWhole? body = some v)
      (herrors : v.get? "errors" = some (.array es)) (htexts : Texts tells es ts) (hne : ts ≠ []) :
      Explains tells body ("; ".intercalate ts)
  | unlisted {v : Json} {m : String} (hbody : Json.parseWhole? body = some v)
      (hnone : ∀ es, v.get? "errors" = some (.array es) → Texts tells es []) (h : Remarks v body m) :
      Explains tells body m
  | plain (hbody : Json.parseWhole? body = none) : Explains tells body (Text.trim body)

section Readers

variable {tells : Json → String → Prop} {text : Json → Option String} {v e : Json} {es : List Json}
  {ts : List String} {key body m t : String}

theorem bind_string?_eq_some_iff : (v.get? key).bind Json.string? = some t ↔ v.Says key t := by
  rw [Option.bind_eq_some_iff]
  constructor
  · rintro ⟨w, hw, ht⟩
    cases w <;> cases ht
    exact hw
  · intro h
    exact ⟨_, h, rfl⟩

theorem bind_string?_eq_none_iff : (v.get? key).bind Json.string? = none ↔ ∀ t, ¬v.Says key t := by
  simp only [Option.eq_none_iff_forall_ne_some, ne_eq, bind_string?_eq_some_iff]

theorem bind_items?_eq_some_iff :
    (v.get? key).bind Json.items? = some es ↔ v.get? key = some (.array es) := by
  rw [Option.bind_eq_some_iff]
  constructor
  · rintro ⟨w, hw, hes⟩
    cases w <;> cases hes
    exact hw
  · intro h
    exact ⟨_, h, rfl⟩

def entryText (e : Json) : Option String := ((e.get? "title").or (e.get? "detail")).bind Json.string?

def toldText (e : Json) : Option String :=
  ((e.get? "title").bind Json.string?).or ((e.get? "detail").bind Json.string?)

theorem entitled_iff : Entitled e t ↔ entryText e = some t := by
  rw [entryText]
  cases htitle : e.get? "title" with
  | none =>
    rw [Option.none_or, bind_string?_eq_some_iff]
    constructor
    · rintro (h | ⟨-, h⟩)
      · cases htitle.symm.trans h
      · exact h
    · exact .detail htitle
  | some title =>
    rw [Option.some_or, ← htitle, bind_string?_eq_some_iff]
    constructor
    · rintro (h | ⟨hnone, -⟩)
      · exact h
      · cases htitle.symm.trans hnone
    · exact .title

theorem told_iff : Told e t ↔ toldText e = some t := by
  rw [toldText, Option.or_eq_some_iff, bind_string?_eq_some_iff, bind_string?_eq_none_iff,
    bind_string?_eq_some_iff]
  constructor
  · rintro (h | ⟨hnone, h⟩)
    · exact .inl h
    · exact .inr ⟨hnone, h⟩
  · rintro (h | ⟨hnone, h⟩)
    · exact .title h
    · exact .detail hnone h

theorem toldText_of_entryText (h : entryText e = some t) : toldText e = some t := by
  rw [← told_iff]
  rcases entitled_iff.2 h with h | ⟨hnone, h⟩
  · exact .title h
  · refine .detail (fun t ht => ?_) h
    cases hnone.symm.trans ht

/-- The two readings of an entry part exactly where its title hides its detail. -/
theorem hides_iff : Hides e ↔ entryText e ≠ toldText e := by
  constructor
  · rintro ⟨⟨title, htitle, hno⟩, t, hdetail⟩ heq
    have htold : toldText e = some t := told_iff.1 (.detail (fun t ht => hno t (by
      rw [← Option.some_inj, ← htitle, ht])) hdetail)
    rcases entitled_iff.2 (heq.trans htold) with h | ⟨hnone, -⟩
    · exact hno t (Option.some_inj.1 (htitle.symm.trans h))
    · cases htitle.symm.trans hnone
  · intro hne
    cases htold : toldText e with
    | none =>
      have hentry : entryText e = none := by
        rw [Option.eq_none_iff_forall_ne_some]
        intro t ht
        cases htold.symm.trans (toldText_of_entryText ht)
      exact absurd (hentry.trans htold.symm) hne
    | some t =>
      rcases told_iff.2 htold with h | ⟨hnone, h⟩
      · exact absurd ((entitled_iff.1 (.title h)).trans htold.symm) hne
      · refine ⟨?_, t, h⟩
        cases htitle : e.get? "title" with
        | none => exact absurd ((entitled_iff.1 (.detail htitle h)).trans htold.symm) hne
        | some title => exact ⟨title, rfl, fun t ht => hnone t (by rw [Json.Says, htitle, ht])⟩

theorem texts_iff (htext : ∀ e t, tells e t ↔ text e = some t) :
    Texts tells es ts ↔ es.filterMap text = ts := by
  constructor
  · intro h
    induction h with
    | nil => rfl
    | text h _ ih => rw [List.filterMap_cons_some ((htext _ _).1 h), ih]
    | none h _ ih =>
      rw [List.filterMap_cons_none, ih]
      rw [Option.eq_none_iff_forall_ne_some]
      exact fun t ht => h t ((htext _ _).2 ht)
  · rintro rfl
    induction es with
    | nil => exact .nil
    | cons e es ih =>
      cases he : text e with
      | none =>
        rw [List.filterMap_cons_none he]
        refine .none (fun t ht => ?_) ih
        cases he.symm.trans ((htext _ _).1 ht)
      | some t =>
        rw [List.filterMap_cons_some he]
        exact .text ((htext _ _).2 he) ih

def remark (v : Json) (body : String) : String :=
  (["message", "error"].findSome? fun key => (v.get? key).bind Json.string?).getD (Text.trim body)

theorem remarks_iff : Remarks v body m ↔ remark v body = m := by
  rw [remark, List.findSome?_cons, List.findSome?_cons, List.findSome?_nil]
  constructor
  · rintro (h | ⟨hnone, h⟩ | ⟨hmessage, herror⟩)
    · rw [bind_string?_eq_some_iff.2 h]
      rfl
    · rw [bind_string?_eq_none_iff.2 hnone, bind_string?_eq_some_iff.2 h]
      rfl
    · rw [bind_string?_eq_none_iff.2 hmessage, bind_string?_eq_none_iff.2 herror]
      rfl
  · rintro rfl
    cases hmessage : (v.get? "message").bind Json.string? with
    | some m => exact .message (bind_string?_eq_some_iff.1 hmessage)
    | none =>
      cases herror : (v.get? "error").bind Json.string? with
      | some m => exact .error (bind_string?_eq_none_iff.1 hmessage) (bind_string?_eq_some_iff.1 herror)
      | none => exact .itself (bind_string?_eq_none_iff.1 hmessage) (bind_string?_eq_none_iff.1 herror)

def entries (v : Json) : List Json := ((v.get? "errors").bind Json.items?).getD []

theorem entries_eq (h : v.get? "errors" = some (.array es)) : entries v = es := by
  rw [entries, bind_items?_eq_some_iff.2 h]
  rfl

theorem entries_cases (v : Json) :
    v.get? "errors" = some (.array (entries v)) ∨
      entries v = [] ∧ ∀ es, v.get? "errors" ≠ some (.array es) := by
  cases h : (v.get? "errors").bind Json.items? with
  | some es =>
    rw [bind_items?_eq_some_iff] at h
    exact .inl (by rw [entries_eq h, h])
  | none =>
    refine .inr ⟨by rw [entries, h]; rfl, fun es hes => ?_⟩
    cases h.symm.trans (bind_items?_eq_some_iff.2 hes)

def joined (ts : List String) (other : String) : String :=
  if ts = [] then other else "; ".intercalate ts

def messageBy (text : Json → Option String) (body : String) : String :=
  match Json.parseWhole? body with
  | none => Text.trim body
  | some v => joined ((entries v).filterMap text) (remark v body)

theorem messageBy_eq (h : Json.parseWhole? body = some v) :
    messageBy text body = joined ((entries v).filterMap text) (remark v body) := by
  rw [messageBy, h]

theorem filterMap_entries (v : Json) :
    (entries v).filterMap entryText =
      (((v.get? "errors").bind Json.items?).map errorTexts).getD [] := by
  rw [entries]
  cases (v.get? "errors").bind Json.items? <;> rfl

theorem rejectionMessage_eq (body : String) : rejectionMessage body = messageBy entryText body := by
  rw [rejectionMessage, messageBy]
  cases Json.parseWhole? body with
  | none => rfl
  | some v =>
    dsimp only
    rw [joined, filterMap_entries]
    split
    next h => rw [h, Option.getD_some, if_neg (List.cons_ne_nil _ _)]
    next hno =>
      rw [if_pos]
      · rfl
      · cases h : ((v.get? "errors").bind Json.items?).map errorTexts with
        | none => rfl
        | some ts =>
          cases ts with
          | nil => rfl
          | cons t ts => exact (hno t ts h).elim

/-- A reading of the entries follows their rule, and so does what the body says under it. -/
theorem explains_iff (htext : ∀ e t, tells e t ↔ text e = some t) :
    Explains tells body m ↔ messageBy text body = m := by
  constructor
  · rintro (⟨hbody, herrors, htexts, hne⟩ | @⟨v, _, hbody, hnone, h⟩ | hbody)
    · rw [messageBy_eq hbody, entries_eq herrors, (texts_iff htext).1 htexts, joined, if_neg hne]
    · have hnil : (entries v).filterMap text = [] := by
        rcases entries_cases v with herrors | ⟨hnil, -⟩
        · exact (texts_iff htext).1 (hnone _ herrors)
        · rw [hnil, List.filterMap_nil]
      rw [messageBy_eq hbody, hnil, joined, if_pos rfl, remarks_iff.1 h]
    · rw [messageBy, hbody]
  · rintro rfl
    cases hbody : Json.parseWhole? body with
    | none =>
      rw [messageBy, hbody]
      exact .plain hbody
    | some v =>
      rw [messageBy_eq hbody, joined]
      split
      next hnil =>
        refine .unlisted hbody (fun es hes => ?_) (remarks_iff.2 rfl)
        rw [texts_iff htext, ← entries_eq hes, hnil]
      next hne =>
        rcases entries_cases v with herrors | ⟨hnil, -⟩
        · exact .listed hbody herrors ((texts_iff htext).2 rfl) hne
        · exact absurd (by rw [hnil, List.filterMap_nil]) hne

theorem explains_entitled_iff : Explains Entitled body m ↔ messageBy entryText body = m :=
  explains_iff fun _ _ => entitled_iff

theorem explains_told_iff : Explains Told body m ↔ messageBy toldText body = m :=
  explains_iff fun _ _ => told_iff

end Readers

section Lengths

variable {ts ts' : List String}

theorem length_intercalate (ts : List String) :
    ("; ".intercalate ts).length = (ts.map String.length).sum + 2 * (ts.length - 1) := by
  induction ts with
  | nil => rfl
  | cons t ts ih =>
    cases ts with
    | nil => simp
    | cons u ts =>
      have htwo : "; ".length = 2 := rfl
      rw [String.intercalate_cons_cons, String.length_append, String.length_append, ih, htwo]
      simp only [List.map_cons, List.sum_cons, List.length_cons]
      omega

/-- With fewer of the texts the whole is shorter. -/
theorem intercalate_ne_of_sublist (h : ts.Sublist ts') (hnil : ts ≠ []) (hne : ts ≠ ts') :
    "; ".intercalate ts ≠ "; ".intercalate ts' := by
  intro heq
  have hlength := congrArg String.length heq
  rw [length_intercalate, length_intercalate] at hlength
  have hsum : (ts.map String.length).sum ≤ (ts'.map String.length).sum :=
    List.Sublist.sum_le_sum (h.map _) fun _ _ => Nat.zero_le _
  have hpos := List.length_pos_iff.2 hnil
  have hlt : ts.length < ts'.length :=
    lt_of_le_of_ne h.length_le fun heq => hne (h.eq_of_length heq)
  omega

end Lengths

section Readings

variable {α β : Type} {f g : α → Option β}

theorem filterMap_sublist (h : ∀ a b, f a = some b → g a = some b) (as : List α) :
    (as.filterMap f).Sublist (as.filterMap g) := by
  induction as with
  | nil => exact .slnil
  | cons a as ih =>
    cases hf : f a with
    | none =>
      rw [List.filterMap_cons_none hf]
      exact ih.trans ((List.sublist_cons_self a as).filterMap g)
    | some b =>
      rw [List.filterMap_cons_some hf, List.filterMap_cons_some (h a b hf)]
      exact ih.cons_cons b

theorem filterMap_ne (h : ∀ a b, f a = some b → g a = some b) {as : List α} {a : α} (ha : a ∈ as)
    (hne : f a ≠ g a) : as.filterMap f ≠ as.filterMap g := by
  obtain ⟨before, after, rfl⟩ := List.append_of_mem ha
  cases hf : f a with
  | some b => exact absurd (hf.trans (h a b hf).symm) hne
  | none =>
    obtain ⟨b, hb⟩ := Option.ne_none_iff_exists'.1 fun hg => hne (hf.trans hg.symm)
    intro heq
    have hlength := congrArg List.length heq
    simp only [List.filterMap_append, List.filterMap_cons_none hf, List.filterMap_cons_some hb,
      List.length_append, List.length_cons] at hlength
    have hbefore := (filterMap_sublist h before).length_le
    have hafter := (filterMap_sublist h after).length_le
    omega

end Readings

/-- Texts that are fewer say the same only if there are none of them. -/
theorem joined_eq_iff {ts ts' : List String} {other : String} (h : ts.Sublist ts') (hne : ts ≠ ts') :
    joined ts' other = joined ts other ↔ ts = [] ∧ other = "; ".intercalate ts' := by
  have hne' : ts' ≠ [] := by
    rintro rfl
    exact hne (List.sublist_nil.1 h)
  rw [joined, joined, if_neg hne']
  by_cases hnil : ts = []
  · rw [if_pos hnil, and_iff_right hnil, eq_comm]
  · rw [if_neg hnil]
    exact iff_of_false (intercalate_ne_of_sublist h hnil hne).symm fun hand => hnil hand.1

theorem messageBy_eq_of_not_hides {body : String}
    (h : ∀ v es, Json.parseWhole? body = some v → v.get? "errors" = some (.array es) →
      ∀ e ∈ es, ¬Hides e) :
    messageBy toldText body = messageBy entryText body := by
  cases hbody : Json.parseWhole? body with
  | none => rw [messageBy, messageBy, hbody]
  | some v =>
    rw [messageBy_eq hbody, messageBy_eq hbody]
    rcases entries_cases v with herrors | ⟨hnil, -⟩
    · congr 1
      refine List.filterMap_congr fun e he => ?_
      by_contra hne
      exact h v _ hbody herrors e he (hides_iff.2 (Ne.symm hne))
    · rw [hnil, List.filterMap_nil, List.filterMap_nil]

/-- What the body of a refusal says, for every body; and when that is what all its errors tell. -/
theorem rejectionMessage_exact (body m : String) :
    (rejectionMessage body = m ↔ Explains Entitled body m) ∧
    (Explains Told body (rejectionMessage body) ↔
      ∀ v es ts, Json.parseWhole? body = some v → v.get? "errors" = some (.array es) →
        (∃ e ∈ es, Hides e) → Texts Told es ts →
        Texts Entitled es [] ∧ Remarks v body ("; ".intercalate ts)) := by
  have hentitled : ∀ e t, Entitled e t ↔ entryText e = some t := fun _ _ => entitled_iff
  have htold : ∀ e t, Told e t ↔ toldText e = some t := fun _ _ => told_iff
  have hfewer : ∀ e t, entryText e = some t → toldText e = some t := fun _ _ => toldText_of_entryText
  refine ⟨by rw [rejectionMessage_eq, explains_entitled_iff], ?_⟩
  rw [explains_told_iff, rejectionMessage_eq]
  -- where an entry hides its detail, the texts that are taken are fewer than those that are told
  have hparted : ∀ v es, Json.parseWhole? body = some v → v.get? "errors" = some (.array es) →
      (∃ e ∈ es, Hides e) → (messageBy toldText body = messageBy entryText body ↔
        es.filterMap entryText = [] ∧ remark v body = "; ".intercalate (es.filterMap toldText)) := by
    rintro v es hbody herrors ⟨e, he, hhides⟩
    rw [messageBy_eq hbody, messageBy_eq hbody, entries_eq herrors]
    exact joined_eq_iff (filterMap_sublist hfewer es) (filterMap_ne hfewer he (hides_iff.1 hhides))
  constructor
  · rintro heq v es ts hbody herrors hhides hts
    rw [← (texts_iff htold).1 hts, texts_iff hentitled, remarks_iff]
    exact (hparted v es hbody herrors hhides).1 heq
  · intro h
    by_cases hhidden : ∃ v es, Json.parseWhole? body = some v ∧ v.get? "errors" = some (.array es) ∧
        ∃ e ∈ es, Hides e
    · obtain ⟨v, es, hbody, herrors, hhides⟩ := hhidden
      obtain ⟨hnone, hremark⟩ := h v es _ hbody herrors hhides ((texts_iff htold).2 rfl)
      exact (hparted v es hbody herrors hhides).2 ⟨(texts_iff hentitled).1 hnone, remarks_iff.1 hremark⟩
    · exact messageBy_eq_of_not_hides fun v es hbody herrors e he hhides =>
        hhidden ⟨v, es, hbody, herrors, e, he, hhides⟩

def untitled : String := "\x7b\"errors\":[\x7b\"title\":null,\"detail\":\"Doi already taken\"\x7d]\x7d"

def untitledEntry : Json := .object [("title", .null), ("detail", .string "Doi already taken")]

/-- The check that a value is what the text stands for; values have no decidable equality. -/
def isUntitled : Json → Bool
  | .object [(errors, .array [.object [(title, .null), (detail, .string text)]])] =>
    errors == "errors" && title == "title" && detail == "detail" && text == "Doi already taken"
  | _ => false

theorem parseWhole?_untitled :
    Json.parseWhole? untitled = some (.object [("errors", .array [untitledEntry])]) := by
  have h : (Json.parseWhole? untitled).any isUntitled := by decide +kernel
  obtain ⟨v, hv, his⟩ := (Option.any_eq_true _ _).1 h
  unfold isUntitled at his
  split at his
  · simp only [Bool.and_eq_true, beq_iff_eq] at his
    obtain ⟨⟨⟨rfl, rfl⟩, rfl⟩, rfl⟩ := his
    exact hv
  · cases his

/-- The detail is lost, and the body stands for itself. -/
theorem detail_hidden :
    Explains Told untitled "Doi already taken" ∧ rejectionMessage untitled = untitled ∧
      ¬Explains Told untitled (rejectionMessage untitled) := by
  have herrors : (Json.object [("errors", .array [untitledEntry])]).get? "errors" =
      some (.array [untitledEntry]) := rfl
  have htold : Texts Told [untitledEntry] ["Doi already taken"] := by
    refine .text (.detail (fun t h => ?_) rfl) .nil
    cases h
  have hmessage : rejectionMessage untitled = untitled := by decide +kernel
  have hlisted : Explains Told untitled "Doi already taken" :=
    .listed parseWhole?_untitled herrors htold (List.cons_ne_nil _ _)
  refine ⟨hlisted, hmessage, fun h => ?_⟩
  rw [explains_told_iff] at hlisted h
  have hne : "Doi already taken" ≠ untitled := by decide
  exact hne (hlisted.symm.trans (h.trans hmessage))

end Agency

end IdentifierRegistrar
