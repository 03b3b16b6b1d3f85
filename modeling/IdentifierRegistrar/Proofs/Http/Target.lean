import IdentifierRegistrar.Http.Exchange
import IdentifierRegistrar.Proofs.Http.Spelling
import IdentifierRegistrar.Text.Blank
import Mathlib.Data.List.TakeDrop
import Mathlib.Data.List.TakeWhile

/-! What of an address goes into the request. Its scheme and authority are taken off (`opening?`), and
what follows is read character by character (`close`). A name below a plain address is spelled at the
end of the target, after a beginning that does not depend on it (`Plain.exists_root`). -/

namespace IdentifierRegistrar

namespace Text

theorem split_append (c : Char) (xs ys : List Char) :
    split c (xs ++ c :: ys) = split c xs ++ split c ys := by
  induction xs with
  | nil => simp [split]
  | cons d xs ih =>
    rw [List.cons_append, split, split, ih]
    cases h : split c xs with
    | nil => exact absurd h (split_ne_nil c xs)
    | cons part parts => split <;> rfl

theorem join_append (c : Char) (xss : List (List Char)) {yss : List (List Char)} (h : yss ≠ []) :
    join c (xss ++ yss) = xss.flatMap (· ++ [c]) ++ join c yss := by
  induction xss with
  | nil => rfl
  | cons xs xss ih =>
    obtain ⟨zs, zss, hz⟩ := List.exists_cons_of_ne_nil (List.append_ne_nil_of_right_ne_nil xss h)
    rw [List.cons_append, hz, join, ← hz, ih]
    · simp
    · simp

theorem toList_intercalate (parts : List (List Char)) :
    ("/".intercalate (parts.map String.ofList)).toList = join '/' parts := by
  induction parts with
  | nil => simp [join]
  | cons part parts ih =>
    cases parts with
    | nil => simp [join]
    | cons next parts =>
      rw [List.map_cons, List.map_cons, String.intercalate_cons_cons, ← List.map_cons, String.toList_append, ih]
      simp [join]

theorem span_append {p : Char → Bool} {xs : List Char} (hxs : ∀ c ∈ xs, p c = true) (ys : List Char) :
    (xs ++ ys).span p = (xs ++ (ys.span p).1, (ys.span p).2) := by
  simp only [List.span_eq_takeWhile_dropWhile, List.takeWhile_append_of_pos hxs,
    List.dropWhile_append_of_pos hxs]

theorem span_of_head {p : Char → Bool} {xs : List Char} (h : ∀ c ∈ xs.head?, p c = false) :
    xs.span p = ([], xs) := by
  cases xs with
  | nil => rfl
  | cons c xs => simp [List.span_eq_takeWhile_dropWhile, h c rfl]

end Text

namespace Url

def isStop (c : Char) : Bool := isSlash c || c == '?' || c == '#'

def clean (cs : List Char) : List Char :=
  ((cs.dropWhile isOuterGap).reverse.dropWhile isOuterGap).reverse.filter fun c => !isInnerGap c

def opening? (cs : List Char) : Option ((Bool × Host × Option Nat) × List Char) := do
  let (secure, cs) ← dropScheme? cs
  let (authority, rest) := (cs.dropWhile isSlash).span fun c => !isStop c
  let (host, portNumber) ← readAuthority authority
  return ((secure, host, portNumber), rest)

def close (origin : Bool × Host × Option Nat) (cs : List Char) : Url :=
  let (path, query) := (cs.takeWhile (· != '#')).span (· != '?')
  let query :=
    match query with
    | [] => none
    | _ :: query => some (String.ofList (query.flatMap (encodeChar reservedInQuery)))
  ⟨origin.1, origin.2.1, origin.2.2, readPath path, query⟩

theorem parse?_eq (s : String) :
    parse? s = (opening? (clean s.toList)).map fun (origin, rest) => close origin rest := by
  have hstop : (fun c => !isStop c) = fun c => !isSlash c && c != '?' && c != '#' := by
    funext c
    simp [isStop, bne, Bool.and_assoc]
  simp only [parse?, opening?, hstop, Option.bind_eq_bind, Option.map_bind, Function.comp_def]
  rfl

theorem dropScheme?_eq_some {cs rest : List Char} {secure : Bool}
    (h : dropScheme? cs = some (secure, rest)) : ∃ scheme, cs = scheme ++ rest ∧
      ∀ more, dropScheme? (scheme ++ more) = some (secure, more) := by
  simp only [dropScheme?] at h ⊢
  split at h
  next hword =>
    obtain ⟨after, hafter⟩ := List.isPrefixOf_iff_prefix.1 hword
    obtain ⟨scheme, rest, rfl, hlower, -⟩ := List.map_eq_append_iff.1 hafter.symm
    have hlength : scheme.length = 6 := by simpa using congrArg List.length hlower
    obtain ⟨rfl, rfl⟩ := Prod.mk.inj (Option.some.inj h)
    refine ⟨scheme, by rw [List.drop_left' hlength], fun more => ?_⟩
    rw [List.map_append, hlower, if_pos (List.isPrefixOf_iff_prefix.2 (List.prefix_append _ _)),
      List.drop_left' hlength]
  next =>
    split at h
    next hword =>
      obtain ⟨after, hafter⟩ := List.isPrefixOf_iff_prefix.1 hword
      obtain ⟨scheme, rest, rfl, hlower, -⟩ := List.map_eq_append_iff.1 hafter.symm
      have hlength : scheme.length = 5 := by simpa using congrArg List.length hlower
      obtain ⟨rfl, rfl⟩ := Prod.mk.inj (Option.some.inj h)
      refine ⟨scheme, by rw [List.drop_left' hlength], fun more => ?_⟩
      rw [List.map_append, hlower, if_neg (by simp),
        if_pos (List.isPrefixOf_iff_prefix.2 (List.prefix_append _ _)), List.drop_left' hlength]
    next => cases h

theorem readAuthority_nil : readAuthority [] = none := by cbv

/-- The opening of an address ends before what follows the authority, whatever that is. -/
theorem opening?_eq_some {cs rest : List Char} {origin : Bool × Host × Option Nat}
    (h : opening? cs = some (origin, rest)) : ∃ head, cs = head ++ rest ∧
      (∀ c ∈ head.getLast?, isStop c = false) ∧ (∀ c ∈ rest.head?, isStop c = true) ∧
      ∀ more, (∀ c ∈ more.head?, isStop c = true) → opening? (head ++ more) = some (origin, more) := by
  simp only [opening?, Option.bind_eq_bind, Option.bind_eq_some_iff, List.span_eq_takeWhile_dropWhile] at h
  obtain ⟨⟨secure, after⟩, hscheme, authority, hauthority, horigin⟩ := h
  obtain ⟨scheme, rfl, hmore⟩ := dropScheme?_eq_some hscheme
  obtain ⟨rfl, rfl⟩ := Prod.mk.inj (Option.some.inj horigin)
  -- The slashes before the authority, the authority, and what follows it.
  have hgap : ∀ c ∈ after.takeWhile isSlash, isSlash c = true := fun c hc => List.mem_takeWhile_imp hc
  have hafter : after = after.takeWhile isSlash ++ after.dropWhile isSlash :=
    List.takeWhile_append_dropWhile.symm
  generalize after.takeWhile isSlash = gap at hgap hafter
  generalize after.dropWhile isSlash = named at hauthority hafter ⊢
  have hnamed : named = named.takeWhile (fun c => !isStop c) ++ named.dropWhile fun c => !isStop c :=
    List.takeWhile_append_dropWhile.symm
  have hunstopped : ∀ c ∈ named.takeWhile (fun c => !isStop c), isStop c = false := fun c hc => by
    simpa using List.mem_takeWhile_imp hc
  have hrest : ∀ c ∈ (named.dropWhile fun c => !isStop c).head?, isStop c = true := fun c hc => by
    have := List.head?_dropWhile_not (fun c => !isStop c) named
    rw [Option.mem_def.1 hc] at this
    simpa using this
  generalize named.takeWhile (fun c => !isStop c) = name at hauthority hnamed hunstopped
  have hne : name ≠ [] := by
    rintro rfl
    simp [readAuthority_nil] at hauthority
  refine ⟨scheme ++ (gap ++ name), ?_, fun c hc => ?_, hrest, fun more hstop => ?_⟩
  · rw [hafter, List.append_assoc, List.append_assoc, ← hnamed]
  · rw [← List.append_assoc, List.getLast?_append, List.getLast?_eq_some_getLast hne] at hc
    obtain rfl := Option.some.inj hc
    exact hunstopped _ (List.getLast_mem hne)
  · have hskip : (gap ++ (name ++ more)).dropWhile isSlash = name ++ more := by
      obtain ⟨c, name, rfl⟩ := List.exists_cons_of_ne_nil hne
      have hc : isSlash c = false := by
        have := hunstopped c (by simp)
        simp only [isStop, Bool.or_eq_false_iff] at this
        exact this.1.1
      rw [List.dropWhile_append_of_pos hgap, List.cons_append, List.dropWhile_cons_of_neg (by simp [hc])]
    have hspan : (name ++ more).span (fun c => !isStop c) = (name, more) := by
      rw [Text.span_append fun c hc => by simp [hunstopped c hc],
        Text.span_of_head fun c hc => by simp [hstop c hc], List.append_nil]
    simp only [opening?, Option.bind_eq_bind, List.append_assoc, hmore, Option.bind_some, hskip, hspan,
      hauthority, Option.pure_def]

theorem exists_resolve (done segments : List (List Char)) :
    ∃ done', ∀ more, more ≠ [] → resolve done (segments ++ more) = resolve done' more := by
  induction segments generalizing done with
  | nil => exact ⟨done, fun _ _ => rfl⟩
  | cons segment segments ih =>
    have hstep : ∃ done₁, ∀ more : List (List Char), more ≠ [] →
        resolve done (segment :: (segments ++ more)) = resolve done₁ (segments ++ more) := by
      by_cases hparent : isParent segment = true
      · refine ⟨done.tail, fun more hmore => ?_⟩
        rw [resolve, if_pos hparent]
        simpa using fun _ => hmore
      · by_cases hhere : isHere segment = true
        · refine ⟨done, fun more hmore => ?_⟩
          rw [resolve, if_neg hparent, if_pos hhere]
          simpa using fun _ => hmore
        · refine ⟨segment.flatMap (encodeChar reservedInPath) :: done, fun more hmore => ?_⟩
          rw [resolve, if_neg hparent, if_neg hhere]
          simpa using fun _ => hmore
    obtain ⟨done₁, hdone₁⟩ := hstep
    obtain ⟨done', hdone'⟩ := ih done₁
    exact ⟨done', fun more hmore => (hdone₁ more hmore).trans (hdone' more hmore)⟩

theorem resolve_of_undotted {segments : List (List Char)} (done : List (List Char)) (hne : segments ≠ [])
    (h : ∀ segment ∈ segments, isHere segment = false ∧ isParent segment = false) :
    resolve done segments = done.reverse ++ segments.map (·.flatMap (encodeChar reservedInPath)) := by
  induction segments generalizing done with
  | nil => exact absurd rfl hne
  | cons segment segments ih =>
    obtain ⟨hhere, hparent⟩ := h segment (by simp)
    cases segments with
    | nil => simp [resolve, hhere, hparent]
    | cons next segments =>
      rw [resolve, if_neg (by simp [hparent]), if_neg (by simp [hhere]),
        ih _ (by simp) fun s hs => h s (by simp [hs])]
      · simp
      · simp

/-- A name that an address holds as it is: nothing in it ends the path, counts as a slash or as a step
along it, or is left out. -/
structure Legible (name : List Char) : Prop where
  nonempty : name ≠ []
  unsharp : '#' ∉ name
  unslashed : '\\' ∉ name
  gapless : ∀ c ∈ name, isInnerGap c = false
  closed : ∀ c ∈ name.getLast?, isOuterGap c = false
  undotted : ∀ segment ∈ Text.split '/' (name.span (· != '?')).1,
    isHere segment = false ∧ isParent segment = false

theorem legible_iff {name : List Char} : Legible name ↔ (name ≠ [] ∧ '#' ∉ name ∧ '\\' ∉ name ∧
    (name.all fun c => !isInnerGap c) = true ∧ (name.getLast?.all fun c => !isOuterGap c) = true ∧
    ((Text.split '/' (name.span (· != '?')).1).all fun segment =>
      !isHere segment && !isParent segment) = true) := by
  simp only [List.all_eq_true, Option.all_eq_true, Bool.and_eq_true, Bool.not_eq_true']
  constructor
  · exact fun h => ⟨h.nonempty, h.unsharp, h.unslashed, h.gapless, h.closed, h.undotted⟩
  · exact fun ⟨h₁, h₂, h₃, h₄, h₅, h₆⟩ => ⟨h₁, h₂, h₃, h₄, h₅, h₆⟩

instance (name : List Char) : Decidable (Legible name) := decidable_of_iff _ legible_iff.symm

theorem join_split_flatMap {c : Char} {f : Char → List Char} (hf : f c = [c]) (cs : List Char) :
    Text.join c ((Text.split c cs).map (·.flatMap f)) = cs.flatMap f := by
  induction cs with
  | nil => rfl
  | cons d cs ih =>
    obtain ⟨part, parts, hparts⟩ := List.exists_cons_of_ne_nil (Text.split_ne_nil c cs)
    rw [hparts] at ih
    by_cases hd : d = c
    · subst hd
      rw [Text.split, if_pos rfl, hparts, List.flatMap_cons, hf, ← ih]
      simp [Text.join]
    · rw [Text.split, if_neg hd, hparts, List.flatMap_cons, ← ih]
      cases parts <;> simp [Text.join]

def slashed (cs : List Char) : List Char := cs.map fun c => if c = '\\' then '/' else c

theorem slashed_append_slash {lead name : List Char} (h : '\\' ∉ name) :
    slashed (lead ++ '/' :: name) = slashed lead ++ '/' :: name := by
  have hname : slashed name = name := by
    refine (List.map_congr_left fun c hc => ?_).trans (List.map_id name)
    rw [if_neg (by rintro rfl; exact h hc), id]
  simpa [slashed] using hname

theorem dropLead_append {lead : List Char} (hne : lead ≠ []) (more : List Char) :
    (Text.dropLead ['/'] (lead ++ more)).getD (lead ++ more) =
      (Text.dropLead ['/'] lead).getD lead ++ more := by
  obtain ⟨c, cs, rfl⟩ := List.exists_cons_of_ne_nil hne
  simp only [List.cons_append, Text.dropLead]
  split <;> rfl

/-- Behind a path a name is spelled by its own segments. -/
theorem exists_readPath {lead : List Char} (hne : lead ≠ []) : ∃ root, ∀ name, '\\' ∉ name →
    (∀ segment ∈ Text.split '/' name, isHere segment = false ∧ isParent segment = false) →
    ("/".intercalate (readPath (lead ++ '/' :: name))).toList =
      root ++ name.flatMap (encodeChar reservedInPath) := by
  have hslashed : slashed lead ≠ [] := by simpa [slashed] using hne
  generalize hpath : (Text.dropLead ['/'] (slashed lead)).getD (slashed lead) = path
  obtain ⟨done, hdone⟩ := exists_resolve [] (Text.split '/' path)
  refine ⟨done.reverse.flatMap (· ++ ['/']), fun name hslash hdots => ?_⟩
  have hread : readPath (lead ++ '/' :: name) =
      (resolve [] (Text.split '/' (path ++ '/' :: name))).map String.ofList := by
    rw [readPath, ← slashed, slashed_append_slash hslash]
    simp only [dropLead_append hslashed, hpath]
  rw [hread, Text.toList_intercalate, Text.split_append, hdone _ (Text.split_ne_nil _ _),
    resolve_of_undotted _ (Text.split_ne_nil _ _) hdots,
    Text.join_append _ _ (by simpa using Text.split_ne_nil _ _), join_split_flatMap (by decide)]

theorem isEscaped_of_reservedInPath (c : Char) (h : reservedInPath c = true) : isEscaped c = true := by
  simp [isEscaped, h]

theorem isEscaped_of_reservedInQuery (c : Char) (h : reservedInQuery c = true) : isEscaped c = true := by
  simp [isEscaped, h]

def writeQuery (query : List Char) : List Char :=
  match query with
  | [] => []
  | _ :: query => '?' :: query.flatMap (encodeChar reservedInQuery)

theorem target_close (origin : Bool × Host × Option Nat) {cs : List Char} (h : '#' ∉ cs) :
    (target (close origin cs)).toList =
      '/' :: ("/".intercalate (readPath (cs.span (· != '?')).1)).toList ++ writeQuery (cs.span (· != '?')).2 := by
  have hcs : cs.takeWhile (· != '#') = cs :=
    List.takeWhile_eq_self_iff.2 fun c hc => by simpa using ne_of_mem_of_not_mem hc h
  simp only [target, close, hcs]
  cases (cs.span (· != '?')).2 <;> simp [writeQuery]

theorem spells_writeQuery {query : List Char} (h : ∀ c ∈ query.head?, c = '?') :
    Spells query (writeQuery query) := by
  cases query with
  | nil => exact .nil
  | cons c query =>
    obtain rfl := h c rfl
    exact .plain (.flatMap isEscaped_of_reservedInQuery query)

theorem Legible.unslashed_path {name : List Char} (h : Legible name) :
    '\\' ∉ (name.span (· != '?')).1 := by
  rw [List.span_eq_takeWhile_dropWhile]
  exact fun hmem => h.unslashed ((List.takeWhile_sublist _).subset hmem)

/-- A name at the end of a path is a part of the path and, from a question mark on, the query. -/
theorem spells_path (name : List Char) : Spells name
    ((name.span (· != '?')).1.flatMap (encodeChar reservedInPath) ++
      writeQuery (name.span (· != '?')).2) := by
  have hname : name = (name.span (· != '?')).1 ++ (name.span (· != '?')).2 := by
    rw [List.span_eq_takeWhile_dropWhile, List.takeWhile_append_dropWhile]
  have hquery : ∀ c ∈ (name.span (· != '?')).2.head?, c = '?' := by
    intro c hc
    have := List.head?_dropWhile_not (· != '?') name
    rw [List.span_eq_takeWhile_dropWhile] at hc
    rw [Option.mem_def.1 hc] at this
    simpa using this
  nth_rewrite 1 [hname]
  exact .append (.flatMap isEscaped_of_reservedInPath _) (spells_writeQuery hquery)

/-- Beyond its authority an address leaves room for a name: what the request names is spelled out of it
after what it begins with. -/
theorem exists_root_close (origin : Bool × Host × Option Nat) {lead : List Char} (hne : lead ≠ [])
    (hsharp : '#' ∉ lead) : ∃ root, ∀ name, Legible name → ∃ text, Spells name text ∧
      (target (close origin (lead ++ '/' :: name))).toList = root ++ text := by
  have hunsharp (name : List Char) (hname : Legible name) : '#' ∉ lead ++ '/' :: name := by
    simp [hsharp, hname.unsharp]
  by_cases hquery : '?' ∈ lead
  · -- The query has begun before the name.
    obtain ⟨path, query, rfl, hpath⟩ := List.eq_append_cons_of_mem hquery
    refine ⟨'/' :: ("/".intercalate (readPath path)).toList ++
      '?' :: (query ++ ['/']).flatMap (encodeChar reservedInQuery), fun name hname =>
      ⟨name.flatMap (encodeChar reservedInQuery), .flatMap isEscaped_of_reservedInQuery name, ?_⟩⟩
    have hspan : (path ++ '?' :: query ++ '/' :: name).span (· != '?') =
        (path, '?' :: query ++ '/' :: name) := by
      rw [List.append_assoc, Text.span_append fun c hc => by simpa using ne_of_mem_of_not_mem hc hpath,
        Text.span_of_head (by simp), List.append_nil]
    rw [target_close origin (hunsharp name hname), hspan]
    simp [writeQuery]
  · obtain ⟨root, hroot⟩ := exists_readPath hne
    refine ⟨'/' :: root, fun name hname => ⟨_, spells_path name, ?_⟩⟩
    have hspan : (lead ++ '/' :: name).span (· != '?') =
        (lead ++ '/' :: (name.span (· != '?')).1, (name.span (· != '?')).2) := by
      have hlead : ∀ c ∈ lead ++ ['/'], (c != '?') = true := by
        intro c hc
        rcases List.mem_append.1 hc with hc | hc
        · simpa using ne_of_mem_of_not_mem hc hquery
        · obtain rfl := List.mem_singleton.1 hc
          decide
      simpa using Text.span_append hlead name
    rw [target_close origin (hunsharp name hname), hspan,
      hroot _ hname.unslashed_path hname.undotted]
    simp

/-- An address of the web, written without blanks and without a fragment. -/
structure Plain (address : String) : Prop where
  read : (parse? address).isSome = true
  gapless : ∀ c ∈ address.toList, isOuterGap c = false
  unsharp : '#' ∉ address.toList

theorem plain_iff {address : String} : Plain address ↔ (parse? address).isSome = true ∧
    (address.toList.all fun c => !isOuterGap c) = true ∧ '#' ∉ address.toList := by
  simp only [List.all_eq_true, Bool.not_eq_true']
  exact ⟨fun h => ⟨h.read, h.gapless, h.unsharp⟩, fun ⟨h₁, h₂, h₃⟩ => ⟨h₁, h₂, h₃⟩⟩

instance (address : String) : Decidable (Plain address) := decidable_of_iff _ plain_iff.symm

theorem clean_of_ends {cs : List Char} (hfirst : ∀ c ∈ cs.head?, isOuterGap c = false)
    (hlast : ∀ c ∈ cs.getLast?, isOuterGap c = false) : clean cs = cs.filter fun c => !isInnerGap c := by
  have hdrop (xs : List Char) (h : ∀ c ∈ xs.head?, isOuterGap c = false) : xs.dropWhile isOuterGap = xs := by
    cases xs with
    | nil => rfl
    | cons c xs => simp [h c rfl]
  rw [clean, hdrop cs hfirst, hdrop cs.reverse (by simpa using hlast), List.reverse_reverse]

theorem filter_of_gapless {cs : List Char} (h : ∀ c ∈ cs, isInnerGap c = false) :
    cs.filter (fun c => !isInnerGap c) = cs :=
  List.filter_eq_self.2 fun c hc => by simp [h c hc]

theorem isInnerGap_of_not_outer {c : Char} (h : isOuterGap c = false) : isInnerGap c = false := by
  by_contra hc
  simp only [isInnerGap, Bool.not_eq_false, Bool.or_eq_true, beq_iff_eq] at hc
  obtain (rfl | rfl) | rfl := hc <;> exact absurd h (by decide)

namespace Plain

variable {address : String}

theorem clean_eq (h : Plain address) : clean address.toList = address.toList := by
  rw [clean_of_ends (fun c hc => h.gapless c (List.mem_of_mem_head? hc))
    fun c hc => h.gapless c (List.mem_of_mem_getLast? hc)]
  exact filter_of_gapless fun c hc => isInnerGap_of_not_outer (h.gapless c hc)

theorem mem_of_mem_dropSlashes {c : Char} (hc : c ∈ (Text.dropSlashes address).toList) :
    c ∈ address.toList := by
  rw [Text.dropSlashes, String.toList_ofList] at hc
  exact (Text.prefix_dropEnd _ _).subset hc

/-- The slashes that are dropped at the end of an address stand behind its authority. -/
theorem exists_opening (h : Plain address) : ∃ origin head rest,
    (Text.dropSlashes address).toList = head ++ rest ∧ (∀ c ∈ rest.head?, isStop c = true) ∧
      ∀ more, (∀ c ∈ more.head?, isStop c = true) → opening? (head ++ more) = some (origin, more) := by
  have hread := h.read
  rw [parse?_eq, h.clean_eq, Option.isSome_map] at hread
  obtain ⟨⟨origin, rest⟩, hopening⟩ := Option.isSome_iff_exists.1 hread
  obtain ⟨head, haddress, hhead, hrest, hmore⟩ := opening?_eq_some hopening
  refine ⟨origin, head, Text.dropEnd (· == '/') rest, ?_, fun c hc => ?_, hmore⟩
  · rw [Text.dropSlashes, String.toList_ofList, haddress, Text.dropEnd_append fun c hc => ?_]
    have := hhead c hc
    simp only [isStop, isSlash, Bool.or_eq_false_iff] at this
    exact this.1.1.1
  · obtain ⟨more, hmore⟩ := Text.prefix_dropEnd (· == '/') rest
    refine hrest c ?_
    rw [← hmore, Option.mem_def, List.head?_append, Option.mem_def.1 hc, Option.some_or]

/-- What is written below an address is cleaned of the blanks within. -/
theorem clean_below (h : Plain address) (middle : List Char) {name : List Char} (hname : Legible name) :
    clean ((Text.dropSlashes address).toList ++ '/' :: (middle ++ '/' :: name)) =
      (Text.dropSlashes address).toList ++
        '/' :: ((middle.filter fun c => !isInnerGap c) ++ '/' :: name) := by
  have hgapless : ∀ c ∈ (Text.dropSlashes address).toList, isOuterGap c = false :=
    fun c hc => h.gapless c (mem_of_mem_dropSlashes hc)
  generalize (Text.dropSlashes address).toList = base at hgapless ⊢
  rw [clean_of_ends]
  · have hslash : isInnerGap '/' = false := by decide
    rw [List.filter_append, filter_of_gapless fun c hc => isInnerGap_of_not_outer (hgapless c hc)]
    simp [hslash, filter_of_gapless hname.gapless]
  · intro c hc
    cases base with
    | nil =>
      obtain rfl := Option.some.inj hc
      decide
    | cons d base =>
      obtain rfl := Option.some.inj hc
      exact hgapless _ (by simp)
  · intro c hc
    refine hname.closed c ?_
    rw [show base ++ '/' :: (middle ++ '/' :: name) = (base ++ '/' :: middle ++ ['/']) ++ name by simp] at hc
    rwa [List.getLast?_append, List.getLast?_eq_some_getLast hname.nonempty, Option.some_or,
      ← List.getLast?_eq_some_getLast hname.nonempty] at hc

/-- Below a plain address each name has a target of its own making: one beginning for all names, and
behind it the name as it is spelled. -/
theorem exists_root (h : Plain address) {middle : List Char} (hmiddle : '#' ∉ middle) :
    ∃ root, ∀ name : String, Legible name.toList → ∃ text, Spells name.toList text ∧
      (parse? (Text.dropSlashes address ++ String.ofList ('/' :: middle) ++ "/" ++ name)).map target =
        some (String.ofList (root ++ text)) := by
  obtain ⟨origin, head, rest, hbase, hrest, hmore⟩ := h.exists_opening
  generalize hlead : (rest ++ '/' :: middle.filter fun c => !isInnerGap c) = lead
  have hsharp : '#' ∉ lead := by
    have hrest : '#' ∉ rest := fun hc => h.unsharp (mem_of_mem_dropSlashes (by simp [hbase, hc]))
    simp [← hlead, hrest, hmiddle]
  have hne : lead ≠ [] := by simp [← hlead]
  obtain ⟨root, hroot⟩ := exists_root_close origin hne hsharp
  refine ⟨root, fun name hname => ?_⟩
  obtain ⟨text, hspells, htarget⟩ := hroot name.toList hname
  refine ⟨text, hspells, ?_⟩
  have hclean : clean (Text.dropSlashes address ++ String.ofList ('/' :: middle) ++ "/" ++ name).toList =
      head ++ (lead ++ '/' :: name.toList) := by
    have hlist : (Text.dropSlashes address ++ String.ofList ('/' :: middle) ++ "/" ++ name).toList =
        (Text.dropSlashes address).toList ++ '/' :: (middle ++ '/' :: name.toList) := by
      simp [String.toList_append]
    rw [hlist, h.clean_below middle hname, hbase, ← hlead]
    simp
  have hstop : ∀ c ∈ (lead ++ '/' :: name.toList).head?, isStop c = true := by
    intro c hc
    cases rest with
    | nil =>
      subst hlead
      obtain rfl := Option.some.inj hc
      decide
    | cons d rest =>
      subst hlead
      obtain rfl := Option.some.inj hc
      exact hrest _ rfl
  rw [parse?_eq, hclean, hmore _ hstop, Option.map_some, Option.map_some, ← htarget, String.ofList_toList]

end Plain

end Url

end IdentifierRegistrar
