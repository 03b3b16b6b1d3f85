import IdentifierRegistrar.Directory.Rest
import IdentifierRegistrar.Proofs.Agency.Client
import IdentifierRegistrar.Proofs.Json.Shape

/-!
What a lookup in the repository brings. One request is made. A 404 says that the resource is not
known, a success whose body can be read shows the resource with every value of every field in its
place, and all else is an error (`RestDirectory.lookup_exact`).
-/

namespace IdentifierRegistrar

namespace RestDirectory

def Says (v : Json) (text : String) : Prop :=
  ∃ given, Json.Gives ["value"] [] v given ∧ ("value", .string text) ∈ given

abbrev Texted : Json → Option String → Prop := Json.Nullable fun w text => w = .string text

/-- What the repository says of a resource. Each part may be left out. -/
def Describes (v : Json) (item : Item) : Prop :=
  ∃ given, Json.Gives ["handle", "type", "metadata"] ["handle", "type", "metadata"] v given ∧
    Json.Part given "handle" Texted none item.handle ∧
    Json.Part given "type" Texted none item.kind ∧
    Json.Part given "metadata" (Json.Maps (Json.Lists Says)) [] item.metadata

/-- A body that has come as a whole and describes the resource. -/
def Carries (body : Http.Body) (item : Item) : Prop :=
  ∃ bytes v, body = .whole bytes ∧ Json.parseBytes? bytes = some v ∧ Describes v item

/-- The entries are the values of the table: fields ascend, the values of each field stand together
and in their order, and there is nothing else. -/
structure LaidOut (table : List (String × List String)) (entries : List MetadataEntry) : Prop where
  ascending : entries.Pairwise (·.field ≤ ·.field)
  stretch : ∀ field values, (field, values) ∈ table → ∃ before after,
    entries = before ++ values.map (⟨field, ·⟩) ++ after ∧ (∀ e ∈ before, e.field < field) ∧
      ∀ e ∈ after, field < e.field
  only : ∀ e ∈ entries, ∃ values, (e.field, values) ∈ table

structure Shows (id : ResourceId) (item : Item) (r : Resource) : Prop where
  id : r.id = id
  handle : r.handle = item.handle
  collection : r.type = .collection ↔ item.kind = some "collection"
  community : r.type = .community ↔ item.kind = some "community"
  otherwise : r.type = .item ↔ item.kind ≠ some "collection" ∧ item.kind ≠ some "community"
  laidOut : LaidOut item.metadata r.metadata
  length : r.metadata.length = (item.metadata.map (·.2.length)).sum
  first : ∀ field values, (field, values) ∈ item.metadata → r.firstValue? field = values.head?
  absent : ∀ field, field ∉ item.metadata.map (·.1) → r.firstValue? field = none

inductive Fails (id : ResourceId) : Http.Reply → DirectoryError → Prop
  | unreachable {reply : Http.Reply} (h : ∀ status body, reply ≠ .answer status body) :
    Fails id reply (.unreachable id)
  | refused {status : Nat} {body : Http.Body} (hfound : status ≠ 404)
    (h : ¬(200 ≤ status ∧ status < 300)) :
    Fails id (.answer status body) (.refused id status (body.text?.getD ""))
  | malformed {status : Nat} {body : Http.Body} (h : 200 ≤ status ∧ status < 300)
    (hbody : ∀ item, ¬Carries body item) : Fails id (.answer status body) (.malformed id)

section Reading

variable {v w : Json} {text : String} {given : List (String × Json)} {item start next : Item}
  {body : Http.Body}

def valueShape : Json.RecordShape (Option String) :=
  ⟨"MetadataValueResponse", ["value"], [], fun _ v _ => do return some (← Json.asString v)⟩

theorem readValue_eq (v : Json) : readValue v = valueShape.read none v >>= Json.required "value" := rfl

theorem readValue_eq_ok_iff : readValue v = .ok text ↔ Says v text := by
  rw [readValue_eq, Except.bind_eq_ok_iff]
  simp only [Json.RecordShape.read_eq_ok_iff, Json.required_eq_ok_iff, exists_eq_right]
  refine exists_congr fun given => and_congr_right fun hgiven => ?_
  rcases hgiven.sole with rfl | ⟨w, rfl⟩
  · exact iff_of_false nofun List.not_mem_nil
  · rw [Json.RecordShape.setAll_singleton, valueShape, Except.bind_pure_eq_ok_iff]
    simp only [Json.asString_eq_ok_iff, Option.some_inj, exists_eq_right, List.mem_singleton,
      Prod.mk.injEq, true_and]
    exact eq_comm

def itemShape : Json.RecordShape Item :=
  ⟨"ItemResponse", ["handle", "type", "metadata"], ["handle", "type", "metadata"], fun key v item => do
    if key = "handle" then return { item with handle := ← Json.asOption Json.asString v }
    else if key = "type" then return { item with kind := ← Json.asOption Json.asString v }
    else return { item with metadata := ← Json.asMap (Json.asList readValue) v }⟩

theorem readItem_eq (v : Json) : readItem v = itemShape.read ⟨none, none, []⟩ v := rfl

theorem asOption_asString {o : Option String} : Json.asOption Json.asString w = .ok o ↔ Texted w o :=
  Json.asOption_eq_ok_iff fun _ _ => Json.asString_eq_ok_iff

theorem asMap_asList {table : List (String × List String)} :
    Json.asMap (Json.asList readValue) w = .ok table ↔ Json.Maps (Json.Lists Says) w table :=
  Json.asMap_eq_ok_iff fun _ _ => Json.asList_eq_ok_iff fun _ _ => readValue_eq_ok_iff

/-- What is given to the fields fills in the parts, each by itself. -/
theorem itemShape_setAll (hkeys : ∀ m ∈ given, m.1 ∈ itemShape.fields) (hnodup : (given.map (·.1)).Nodup) :
    itemShape.setAll given start = .ok item ↔
      Json.Part given "handle" Texted start.handle item.handle ∧
      Json.Part given "type" Texted start.kind item.kind ∧
      Json.Part given "metadata" (Json.Maps (Json.Lists Says)) start.metadata item.metadata := by
  induction given generalizing start with
  | nil =>
    rw [Json.part_of_not_mem List.not_mem_nil, Json.part_of_not_mem List.not_mem_nil,
      Json.part_of_not_mem List.not_mem_nil]
    constructor
    · intro h
      obtain rfl := Except.ok.inj h
      exact ⟨rfl, rfl, rfl⟩
    · rintro ⟨hhandle, hkind, hmetadata⟩
      cases item
      cases hhandle
      cases hkind
      cases hmetadata
      rfl
  | cons m given ih =>
    obtain ⟨key, w⟩ := m
    obtain ⟨hnew, hnodup⟩ := List.nodup_cons.1 hnodup
    have hrest (next : Item) := @ih next (fun m hm => hkeys m (List.mem_cons_of_mem _ hm)) hnodup
    have hkey : key = "handle" ∨ key = "type" ∨ key = "metadata" := by
      simpa [itemShape] using hkeys _ List.mem_cons_self
    rw [Json.RecordShape.setAll_cons, Except.bind_eq_ok_iff]
    rcases hkey with rfl | rfl | rfl
    · have hset : itemShape.set "handle" w start =
        (do return { start with handle := ← Json.asOption Json.asString w }) := rfl
      simp only [hset, Except.bind_pure_eq_ok_iff, asOption_asString, hrest]
      rw [Json.part_cons_self hnew, Json.part_cons_of_ne (by decide), Json.part_cons_of_ne (by decide)]
      constructor
      · rintro ⟨_, ⟨handle, hw, rfl⟩, hhandle, hothers⟩
        obtain rfl := (Json.part_of_not_mem hnew).1 hhandle
        exact ⟨hw, hothers⟩
      · rintro ⟨hw, hothers⟩
        exact ⟨_, ⟨_, hw, rfl⟩, (Json.part_of_not_mem hnew).2 rfl, hothers⟩
    · have hset : itemShape.set "type" w start =
        (do return { start with kind := ← Json.asOption Json.asString w }) := rfl
      simp only [hset, Except.bind_pure_eq_ok_iff, asOption_asString, hrest]
      rw [Json.part_cons_self hnew, Json.part_cons_of_ne (by decide), Json.part_cons_of_ne (by decide)]
      constructor
      · rintro ⟨_, ⟨kind, hw, rfl⟩, hhandle, hkind, hmetadata⟩
        obtain rfl := (Json.part_of_not_mem hnew).1 hkind
        exact ⟨hhandle, hw, hmetadata⟩
      · rintro ⟨hhandle, hw, hmetadata⟩
        exact ⟨_, ⟨_, hw, rfl⟩, hhandle, (Json.part_of_not_mem hnew).2 rfl, hmetadata⟩
    · have hset : itemShape.set "metadata" w start =
        (do return { start with metadata := ← Json.asMap (Json.asList readValue) w }) := rfl
      simp only [hset, Except.bind_pure_eq_ok_iff, asMap_asList, hrest]
      rw [Json.part_cons_self hnew, Json.part_cons_of_ne (by decide), Json.part_cons_of_ne (by decide)]
      constructor
      · rintro ⟨_, ⟨metadata, hw, rfl⟩, hhandle, hkind, hmetadata⟩
        obtain rfl := (Json.part_of_not_mem hnew).1 hmetadata
        exact ⟨hhandle, hkind, hw⟩
      · rintro ⟨hhandle, hkind, hw⟩
        exact ⟨_, ⟨_, hw, rfl⟩, hhandle, hkind, (Json.part_of_not_mem hnew).2 rfl⟩

theorem readItem_eq_ok_iff : readItem v = .ok item ↔ Describes v item := by
  rw [readItem_eq, Json.RecordShape.read_eq_ok_iff]
  refine exists_congr fun given => and_congr_right fun hgiven => ?_
  exact itemShape_setAll (fun m => hgiven.mem) (hgiven.nodup (by decide))

theorem readBody_eq_some_iff : readBody body = some item ↔ Carries body item := by
  cases body with
  | cut => exact iff_of_false nofun fun ⟨_, _, h, _⟩ => nomatch h
  | whole bytes =>
    constructor
    · intro h
      rw [readBody] at h
      cases hv : Json.parseBytes? bytes with
      | none => simp [hv] at h
      | some v =>
        cases hitem : readItem v with
        | error e => simp [hv, hitem] at h
        | ok item' =>
          obtain rfl : item' = item := by simpa [hv, hitem] using h
          exact ⟨bytes, v, rfl, hv, readItem_eq_ok_iff.1 hitem⟩
    · rintro ⟨_, v, hbytes, hv, hitem⟩
      obtain rfl := Http.Body.whole.inj hbytes
      rw [readBody, hv, Option.map_some, readItem_eq_ok_iff.2 hitem]

end Reading

section Layout

variable {table : List (String × List String)} {entries entries' : List MetadataEntry} {field : String}
  {values : List String}

theorem flatten_append (table table' : List (String × List String)) :
    flatten (table ++ table') = flatten table ++ flatten table' := List.flatMap_append

theorem mem_flatten {e : MetadataEntry} :
    e ∈ flatten table ↔ ∃ values, (e.field, values) ∈ table ∧ e.value ∈ values := by
  rw [flatten, List.mem_flatMap]
  constructor
  · rintro ⟨⟨field, values⟩, hmem, he⟩
    obtain ⟨value, hvalue, rfl⟩ := List.mem_map.1 he
    exact ⟨values, hmem, hvalue⟩
  · rintro ⟨values, hmem, hvalue⟩
    exact ⟨_, hmem, List.mem_map.2 ⟨_, hvalue, rfl⟩⟩

theorem laidOut_flatten (h : table.Pairwise (·.1 < ·.1)) : LaidOut table (flatten table) := by
  refine ⟨?_, fun field values hmem => ?_, fun e he => ?_⟩
  · rw [flatten, List.pairwise_flatMap]
    refine ⟨fun l _ => ?_, h.imp fun {l l'} hlt e he e' he' => ?_⟩
    · rw [List.pairwise_map]
      exact List.pairwise_of_forall fun _ _ => String.le_refl _
    · obtain ⟨_, -, rfl⟩ := List.mem_map.1 he
      obtain ⟨_, -, rfl⟩ := List.mem_map.1 he'
      exact String.not_lt.1 (String.lt_asymm hlt)
  · obtain ⟨before, after, rfl⟩ := List.append_of_mem hmem
    obtain ⟨-, hafter, hbefore⟩ := List.pairwise_append.1 h
    refine ⟨flatten before, flatten after, ?_, fun e he => ?_, fun e he => ?_⟩
    · rw [flatten_append, List.append_assoc]
      rfl
    · obtain ⟨values', hmem', -⟩ := mem_flatten.1 he
      exact hbefore _ hmem' _ List.mem_cons_self
    · obtain ⟨values', hmem', -⟩ := mem_flatten.1 he
      exact (List.pairwise_cons.1 hafter).1 _ hmem'
  · obtain ⟨values, hmem, -⟩ := mem_flatten.1 he
    exact ⟨values, hmem⟩

theorem LaidOut.filter_of_mem (h : LaidOut table entries) (hmem : (field, values) ∈ table) :
    entries.filter (·.field = field) = values.map (⟨field, ·⟩) := by
  obtain ⟨before, after, rfl, hbefore, hafter⟩ := h.stretch field values hmem
  have hlead : before.filter (·.field = field) = [] :=
    List.filter_eq_nil_iff.2 fun e he => by simpa using (Json.key_ne_of_lt (hbefore e he)).symm
  have htrail : after.filter (·.field = field) = [] :=
    List.filter_eq_nil_iff.2 fun e he => by simpa using Json.key_ne_of_lt (hafter e he)
  have hall : (values.map (MetadataEntry.mk field)).filter (·.field = field) =
      values.map (MetadataEntry.mk field) := List.filter_eq_self.2 fun e he => by
    obtain ⟨_, -, rfl⟩ := List.mem_map.1 he
    exact decide_eq_true rfl
  rw [List.filter_append, List.filter_append, hlead, htrail, hall, List.nil_append, List.append_nil]

theorem LaidOut.filter_of_not_mem (h : LaidOut table entries) (hno : field ∉ table.map (·.1)) :
    entries.filter (·.field = field) = [] := by
  refine List.filter_eq_nil_iff.2 fun e he => ?_
  obtain ⟨values, hmem⟩ := h.only e he
  rw [decide_eq_true_iff]
  rintro rfl
  exact hno (List.mem_map_of_mem hmem)

theorem mem_of_filter_eq
    (heq : ∀ field, entries.filter (·.field = field) = entries'.filter (·.field = field))
    {e : MetadataEntry} (he : e ∈ entries) : e ∈ entries' := by
  have hfilter : e ∈ entries.filter (·.field = e.field) := List.mem_filter.2 ⟨he, by simp⟩
  rw [heq] at hfilter
  exact (List.mem_filter.1 hfilter).1

/-- Entries in the order of their fields are known by what stands under each field. -/
theorem eq_of_filter_eq (h : entries.Pairwise (·.field ≤ ·.field))
    (h' : entries'.Pairwise (·.field ≤ ·.field))
    (heq : ∀ field, entries.filter (·.field = field) = entries'.filter (·.field = field)) :
    entries = entries' := by
  induction entries generalizing entries' with
  | nil =>
    cases entries' with
    | nil => rfl
    | cons e' es' => simpa using heq e'.field
  | cons e es ih =>
    cases entries' with
    | nil => simpa using heq e.field
    | cons e' es' =>
      obtain ⟨hle, hes⟩ := List.pairwise_cons.1 h
      obtain ⟨hle', hes'⟩ := List.pairwise_cons.1 h'
      -- each of the two first entries is among the others, so neither field is before the other
      have hfield : e.field = e'.field := by
        apply String.le_antisymm
        · rcases List.mem_cons.1 (mem_of_filter_eq (fun f => (heq f).symm) List.mem_cons_self) with heq | hmem
          · exact heq ▸ String.le_refl _
          · exact hle _ hmem
        · rcases List.mem_cons.1 (mem_of_filter_eq heq List.mem_cons_self) with heq | hmem
          · exact heq ▸ String.le_refl _
          · exact hle' _ hmem
      have hfirst := heq e.field
      rw [List.filter_cons_of_pos (by simp), List.filter_cons_of_pos (by simp [hfield])] at hfirst
      obtain ⟨rfl, -⟩ := List.cons.inj hfirst
      refine congrArg (e :: ·) (ih hes hes' fun field => ?_)
      have hrest := heq field
      by_cases hf : e.field = field
      · rw [List.filter_cons_of_pos (by simpa using hf), List.filter_cons_of_pos (by simpa using hf)] at hrest
        exact (List.cons.inj hrest).2
      · rw [List.filter_cons_of_neg (by simpa using hf), List.filter_cons_of_neg (by simpa using hf)] at hrest
        exact hrest

theorem LaidOut.unique (h : LaidOut table entries) (h' : LaidOut table entries') : entries = entries' := by
  refine eq_of_filter_eq h.ascending h'.ascending fun field => ?_
  by_cases hmem : field ∈ table.map (·.1)
  · obtain ⟨⟨_, values⟩, hvalues, rfl⟩ := List.mem_map.1 hmem
    rw [h.filter_of_mem hvalues, h'.filter_of_mem hvalues]
  · rw [h.filter_of_not_mem hmem, h'.filter_of_not_mem hmem]

end Layout

theorem typeOf_iff (kind : Option String) :
    (typeOf kind = .collection ↔ kind = some "collection") ∧
    (typeOf kind = .community ↔ kind = some "community") ∧
    (typeOf kind = .item ↔ kind ≠ some "collection" ∧ kind ≠ some "community") := by
  unfold typeOf
  split
  next => simp
  next => simp
  next hcollection hcommunity =>
    exact ⟨iff_of_false nofun hcollection, iff_of_false nofun hcommunity,
      iff_of_true rfl ⟨hcollection, hcommunity⟩⟩

section Resource

variable {id : ResourceId} {item : Item} {r : Resource}

theorem length_flatten (table : List (String × List String)) :
    (flatten table).length = (table.map (·.2.length)).sum := by
  simp [flatten, List.length_flatMap]

theorem firstValue?_eq_head? (r : Resource) (field : String) :
    r.firstValue? field = (r.metadata.filter (·.field = field)).head?.map (·.value) := by
  rw [Resource.firstValue?, List.head?_filter]
  rfl

theorem shows_resource (h : item.metadata.Pairwise (·.1 < ·.1)) (id : ResourceId) :
    Shows id item (item.resource id) := by
  have hlaid := laidOut_flatten h
  obtain ⟨hcollection, hcommunity, hother⟩ := typeOf_iff item.kind
  refine ⟨rfl, rfl, hcollection, hcommunity, hother, hlaid, length_flatten _, fun field values hmem => ?_,
    fun field hno => ?_⟩
  · rw [firstValue?_eq_head?]
    change ((flatten item.metadata).filter _).head?.map _ = _
    rw [hlaid.filter_of_mem hmem, List.head?_map, Option.map_map]
    exact Option.map_id'
  · rw [firstValue?_eq_head?]
    change ((flatten item.metadata).filter _).head?.map _ = _
    rw [hlaid.filter_of_not_mem hno]
    rfl

/-- What is shown is one resource. -/
theorem Shows.eq_resource (h : Shows id item r) (hitem : item.metadata.Pairwise (·.1 < ·.1)) :
    r = item.resource id := by
  have hshown := shows_resource hitem id
  have htype : r.type = (item.resource id).type := by
    cases htype : (item.resource id).type with
    | collection => exact h.collection.2 (hshown.collection.1 htype)
    | community => exact h.community.2 (hshown.community.1 htype)
    | item => exact h.otherwise.2 (hshown.otherwise.1 htype)
  cases r
  cases h.id
  cases h.handle
  cases htype
  cases h.laidOut.unique hshown.laidOut
  rfl

theorem Carries.ascending {body : Http.Body} (h : Carries body item) :
    item.metadata.Pairwise (·.1 < ·.1) := by
  obtain ⟨bytes, v, -, -, given, -, -, -, hmetadata⟩ := h
  generalize item.metadata = table at hmetadata
  rcases hmetadata with ⟨-, _, _, -, -, htable⟩ | -
  · exact htable.ascending
  · exact List.Pairwise.nil

end Resource

def request (directory : RestDirectory) (id : ResourceId) : Http.Request :=
  ⟨.get, directory.base ++ "/core/items/" ++ id.text, none, none, none, none⟩

def outcome (id : ResourceId) : Http.Reply → Except DirectoryError (Option Resource)
  | .answer status body =>
    if status = Http.notFound then .ok none
    else if !Http.isSuccess status then .error (.refused id status (body.text?.getD ""))
    else
      match readBody body with
      | some item => .ok (some (item.resource id))
      | none => .error (.malformed id)
  | _ => .error (.unreachable id)

theorem lookup_eq (directory : RestDirectory) (id : ResourceId) :
    directory.lookup id = .ask (directory.request id) fun reply => .ofExcept (outcome id reply) := by
  refine congrArg (Program.ask (I := Http.interface) (directory.request id)) (funext fun reply => ?_)
  cases reply with
  | answer status body =>
    change (if status = Http.notFound then _ else _) = Program.ofExcept (if _ then _ else _)
    split
    · rfl
    · split
      · rfl
      · cases readBody body <;> rfl
  | _ => rfl

section Outcome

variable {id : ResourceId} {reply : Http.Reply} {r : Resource} {e : DirectoryError} {status : Nat}
  {body : Http.Body}

theorem isSuccess_iff : Http.isSuccess status = true ↔ 200 ≤ status ∧ status < 300 := by
  simp [Http.isSuccess]

theorem outcome_success (id : ResourceId) (body : Http.Body) (h : 200 ≤ status ∧ status < 300) :
    outcome id (.answer status body) = match readBody body with
      | some item => .ok (some (item.resource id))
      | none => .error (.malformed id) := by
  have hfound : status ≠ Http.notFound := by
    rintro rfl
    exact absurd h.2 (by decide)
  rw [outcome, if_neg hfound, isSuccess_iff.2 h]
  rfl

theorem outcome_carried (h : 200 ≤ status ∧ status < 300) {item : Item} (hbody : Carries body item) :
    outcome id (.answer status body) = .ok (some (item.resource id)) := by
  rw [outcome_success id body h, readBody_eq_some_iff.2 hbody]

theorem Fails.outcome_eq (h : Fails id reply e) : outcome id reply = .error e := by
  cases h with
  | unreachable h =>
    cases reply with
    | answer status body => exact absurd rfl (h status body)
    | _ => rfl
  | @refused status body hfound h =>
    rw [← isSuccess_iff, Bool.not_eq_true] at h
    have hfound : status ≠ Http.notFound := hfound
    rw [outcome, if_neg hfound, h]
    rfl
  | @malformed status body h hbody =>
    rw [outcome_success id body h]
    cases hread : readBody body with
    | none => rfl
    | some item => exact absurd (readBody_eq_some_iff.1 hread) (hbody item)

theorem reply_cases (id : ResourceId) (reply : Http.Reply) :
    (∃ body, reply = .answer 404 body) ∨
    (∃ status body item, reply = .answer status body ∧ (200 ≤ status ∧ status < 300) ∧ Carries body item) ∨
    ∃ e, Fails id reply e := by
  cases reply with
  | answer status body =>
    by_cases hsuccess : 200 ≤ status ∧ status < 300
    · by_cases hbody : ∃ item, Carries body item
      · obtain ⟨item, hitem⟩ := hbody
        exact .inr (.inl ⟨status, body, item, rfl, hsuccess, hitem⟩)
      · exact .inr (.inr ⟨_, .malformed hsuccess fun item hitem => hbody ⟨item, hitem⟩⟩)
    · by_cases hfound : status = 404
      · exact .inl ⟨body, by rw [hfound]⟩
      · exact .inr (.inr ⟨_, .refused hfound hsuccess⟩)
  | _ => exact .inr (.inr ⟨_, .unreachable nofun⟩)

theorem outcome_eq_none_iff : outcome id reply = .ok none ↔ ∃ body, reply = .answer 404 body := by
  constructor
  · intro h
    rcases reply_cases id reply with hnone | ⟨status, body, item, rfl, hsuccess, hitem⟩ | ⟨e, he⟩
    · exact hnone
    · cases (outcome_carried hsuccess hitem).symm.trans h
    · cases he.outcome_eq.symm.trans h
  · rintro ⟨body, rfl⟩
    rfl

theorem outcome_eq_some_iff : outcome id reply = .ok (some r) ↔
    ∃ status body item, reply = .answer status body ∧ (200 ≤ status ∧ status < 300) ∧ Carries body item ∧
      Shows id item r := by
  constructor
  · intro h
    rcases reply_cases id reply with ⟨body, rfl⟩ | ⟨status, body, item, rfl, hsuccess, hitem⟩ | ⟨e, he⟩
    · cases h
    · cases (outcome_carried hsuccess hitem).symm.trans h
      exact ⟨status, body, item, rfl, hsuccess, hitem, shows_resource hitem.ascending _⟩
    · cases he.outcome_eq.symm.trans h
  · rintro ⟨status, body, item, rfl, hsuccess, hitem, hr⟩
    rw [outcome_carried hsuccess hitem, hr.eq_resource hitem.ascending]

theorem outcome_eq_error_iff : outcome id reply = .error e ↔ Fails id reply e := by
  constructor
  · intro h
    rcases reply_cases id reply with ⟨body, rfl⟩ | ⟨status, body, item, rfl, hsuccess, hitem⟩ | ⟨e', he⟩
    · cases h
    · cases (outcome_carried hsuccess hitem).symm.trans h
    · cases he.outcome_eq.symm.trans h
      exact he
  · exact Fails.outcome_eq

end Outcome

/-- What a lookup brings, whatever the client's `send` comes to (`Http.Reply`): nothing exactly for a 404,
the resource exactly for a success that describes it, and an error for all else. -/
theorem lookup_exact {σ : Type} (directory : RestDirectory) (id : ResourceId)
    (serve : Answerer Http.interface σ) (s : σ) :
    let reply := (serve (directory.request id) s).1
    let result := (directory.lookup id).run serve s
    (directory.lookup id).exchanges serve s = [⟨directory.request id, reply⟩] ∧
    result.2 = (serve (directory.request id) s).2 ∧
    (result.1 = .ok none ↔ ∃ body, reply = .answer 404 body) ∧
    (∀ r, result.1 = .ok (some r) ↔ ∃ status body item, reply = .answer status body ∧
      (200 ≤ status ∧ status < 300) ∧ Carries body item ∧ Shows id item r) ∧
    ∀ e, result.1 = .error e ↔ Fails id reply e := by
  intro reply result
  have hrun : result = (outcome id reply, (serve (directory.request id) s).2) := by
    simp only [result, lookup_eq]
    exact Program.run_ofExcept _ _ _
  have hexchanges : (directory.lookup id).exchanges serve s = [⟨directory.request id, reply⟩] := by
    rw [lookup_eq]
    exact congrArg (_ :: ·) (Program.exchanges_ofExcept _ _ _)
  rw [hrun]
  exact ⟨hexchanges, rfl, outcome_eq_none_iff, fun r => outcome_eq_some_iff, fun e => outcome_eq_error_iff⟩

/-- Fields out of order, one of them without values. -/
def sampleBody : Http.Body :=
  .whole ("\x7b\"metadata\":\x7b\"dc.title\":[\x7b\"value\":\"Tides\"\x7d,\x7b\"value\":\"Ebb\"\x7d]," ++
    "\"dc.date\":[],\"dc.author\":[\x7b\"value\":\"Ada\"\x7d]\x7d,\"type\":\"collection\"\x7d").toUTF8.toList

example : outcome ⟨1⟩ (.answer 200 sampleBody) = .ok (some ⟨⟨1⟩, .collection, none,
    [⟨"dc.author", "Ada"⟩, ⟨"dc.title", "Tides"⟩, ⟨"dc.title", "Ebb"⟩]⟩) := by
  decide +kernel

end RestDirectory

end IdentifierRegistrar
