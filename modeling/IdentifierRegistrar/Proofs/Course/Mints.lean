import IdentifierRegistrar.Proofs.Course.Sequels
import IdentifierRegistrar.Proofs.Run.Queries

/-! Mints of one scheme for one resource, one after the other, with any operations between them. While its
record stands a mint returns it; once that record is lost nothing stands for the resource until a mint adds
another, for of all its records only the last may be live (`Sequel.sole`). Main result:
`Registrar.mint_once`. -/

namespace IdentifierRegistrar

open Service Operation

namespace Registrar

variable {g : Registrar} {set : Connectors Connector} {policy : ReleasePolicy} {w : Trouble}
  {resource resource' : ResourceId} {scheme scheme' : Scheme} {l m : Ledger} {es : List Exchange} {r : Record}

theorem Mints.same {e : RegistrarError} (h : g.Mints w resource scheme l es (.error e) m) : m = l := by
  cases h <;> rfl

theorem Mints.scheme_eq (hset : set.Built)
    (h : (set.registrar policy).Mints w resource scheme l es (.ok r) m)
    (hes : ∀ y ∈ es, Through set y.1 y.2) : r.scheme = scheme := by
  cases h with
  | stood _ hstands _ => exact hstands.scheme
  | added _ hg _ hvalue _ => exact Through.scheme hset (hes _ hvalue) hg

theorem Mints.resource_eq (h : g.Mints w resource scheme l es (.ok r) m)
    (hes : ∀ y ∈ es, Directs y.1 y.2) : r.resource = some resource := by
  cases h with
  | stood _ hstands _ => exact hstands.resource
  | added _ _ hfound _ _ => exact congrArg some (hes _ hfound)

/-- What a mint returns is in the store. -/
theorem Mints.has (h : g.Mints w resource scheme l es (.ok r) m) : m.Has r := by
  cases h with
  | stood hr _ _ => exact Ledger.has_of_mem hr
  | added _ _ _ _ hm => exact Ledger.find_added_self hm

theorem Mints.status (h : g.Mints w resource scheme l es (.ok r) m) : r.status ≠ .deleted := by
  cases h with
  | stood _ hstands _ => exact hstands.status
  | added _ _ _ _ _ => simp [Record.mint]

/-- A mint that is alone adds no second live record. -/
theorem Mints.sole {id : RecordId} (hset : set.Built)
    (h : (set.registrar policy).Mints w resource' scheme' l es (.ok r) m)
    (hdirects : ∀ y ∈ es, Directs y.1 y.2) (hthrough : ∀ y ∈ es, Through set y.1 y.2)
    (hsole : Sole resource scheme id l [])
    (hsame : resource' = resource → scheme' = scheme → ∃ s ∈ l.records, s.Stands resource scheme) :
    Sole resource scheme id m [] := by
  have hnew := h.resource_eq hdirects
  have hscheme := h.scheme_eq hset hthrough
  cases h with
  | stood _ _ _ => exact hsole
  | added hnone _ _ _ hm =>
    intro s hs hbound hs' hne
    rw [hm] at hs
    rcases List.mem_append.1 hs with hs | hs
    · exact hsole s hs hbound hs' hne
    · obtain rfl := List.mem_singleton.1 hs
      obtain rfl : resource' = resource := Option.some.inj (hnew.symm.trans hbound)
      obtain rfl : scheme' = scheme := hscheme.symm.trans hs'
      obtain ⟨s, hs, hstands⟩ := hsame rfl rfl
      exact absurd hstands (hnone s hs)

/-- Where a mint is stopped nothing has changed, unless it has come to its end. -/
theorem mint_reaches {E : (q : Request) → Reply q → Prop} {p : Operation Report} {t : Table}
    (h : Program.Reaches (fun t q x t' => Replies w t q x t' ∧ E q x)
      ((Errand.mint resource scheme).operation g) l.table p t) : ∃ m : Ledger, t = m.table ∧
      (m = l ∨ ∃ es r, (∀ y ∈ es, E y.1 y.2) ∧ p = .done (.record r) ∧
        g.Mints w resource scheme l es (.ok r) m) := by
  have hmint : ((Errand.mint resource scheme).operation g).Meets (noted w (· = l))
      (fun x s => ∃ y, x = y.map .record ∧ g.Mints w resource scheme l s.2 y s.1) (l, []) :=
    (g.mint_noted resource scheme).bind (fun r _ h => ⟨.ok r, rfl, h⟩) fun e _ h => ⟨.error e, rfl, h⟩
  obtain ⟨m, es, rfl, hes, hmeets⟩ := noted_reaches hmint h
  refine ⟨m, rfl, ?_⟩
  cases p with
  | ask q next => exact .inl hmeets.1
  | fail e =>
    obtain ⟨y, hy, hmints⟩ := hmeets
    cases y with
    | ok r => cases hy
    | error e => exact .inl hmints.same
  | done a =>
    obtain ⟨y, hy, hmints⟩ := hmeets
    cases y with
    | error e => cases hy
    | ok r =>
      obtain rfl : a = .record r := Except.ok.inj hy
      exact .inr ⟨es, r, hes, rfl, hmints⟩

end Registrar

/-- One operation, wherever it is stopped, leaves no second live record, if no mint for the resource begins and
ends well in it while nothing stands. -/
theorem Sole.next {set : Connectors Connector} {policy : ReleasePolicy} {w : Trouble} {resource : ResourceId}
    {scheme : Scheme} {id : RecordId} {l : Ledger} {e : Errand} {p : Operation Report} {t : Table}
    (hset : set.Built) (h : Sole resource scheme id l [])
    (hreaches : Program.Reaches (fun t q x t' => Replies w t q x t' ∧ Directs q x ∧ Through set q x)
      (e.operation (set.registrar policy)) l.table p t)
    (hmint : ∀ r, e = .mint resource scheme → p = .done (.record r) →
      ∃ s ∈ l.records, s.Stands resource scheme) :
    ∃ m : Ledger, t = m.table ∧ Sole resource scheme id m [] := by
  by_cases he : ∃ resource' scheme', e = .mint resource' scheme'
  · obtain ⟨resource', scheme', rfl⟩ := he
    obtain ⟨m, rfl, rfl | ⟨es, r, hes, rfl, hmints⟩⟩ := Registrar.mint_reaches hreaches
    · exact ⟨_, rfl, h⟩
    · refine ⟨m, rfl, hmints.sole hset (fun y hy => (hes y hy).1) (fun y hy => (hes y hy).2) h ?_⟩
      rintro rfl rfl
      exact hmint r rfl rfl
  · have hadds : AddsNothing (e.operation (set.registrar policy)) :=
      Errand.operation_addsNothing _ fun resource' scheme' h => he ⟨resource', scheme', h⟩
    exact h.reaches (e.operation_supervised _) hadds hreaches

/-- What has been minted stays the only record of its scheme for the resource that may be live, until a mint
that begins after it was lost adds another. -/
theorem Sequel.sole {set : Connectors Connector} {policy : ReleasePolicy} {w : Trouble}
    {resource : ResourceId} {scheme : Scheme} {l : Ledger} {r : Record} {t : Table} (hset : set.Built)
    (hhas : l.Has r) (hresource : r.resource = some resource) (hscheme : r.scheme = scheme)
    (hsole : Sole resource scheme r.id l [])
    (h : Sequel (set.registrar policy) (fun t q x t' => Replies w t q x t' ∧ Directs q x ∧ Through set q x)
      (fun t e p => t.Lost r.id → ∀ r', ¬ (e = .mint resource scheme ∧ p = .done (.record r'))) l.table t) :
    ∃ m : Ledger, t = m.table ∧ l.Continues m ∧ Sole resource scheme r.id m [] := by
  induction h with
  | nil => exact ⟨l, rfl, .refl l, hsole⟩
  | snoc _ hreaches hp ih =>
    obtain ⟨m, rfl, hm, hsole⟩ := ih
    obtain ⟨n, rfl, hcontinues⟩ := reaches_continues (hreaches.mono fun _ _ _ _ hx => hx.1)
    refine ⟨n, rfl, hm.trans hcontinues, ?_⟩
    obtain ⟨n', hn', hsole'⟩ := hsole.next hset hreaches fun r' he hdone => by
      -- A mint that ends well here has begun while the record stood.
      obtain ⟨s, hs, hdescends⟩ := hm r.id _ hhas
      have hkept : ¬ s.Lost := fun hlost =>
        hp ⟨s, (m.get?_table r.id).trans (congrArg _ hs), hlost⟩ r' ⟨he, hdone⟩
      exact ⟨s, Ledger.mem_of_find hs, hdescends.stands hresource hscheme hkept⟩
    obtain rfl := Ledger.table_injective hn'
    exact hsole'

namespace Registrar

/-- A mint has added `r` to a table, after what has passed: for the resource that the directory has found,
with the value that the agency has minted. -/
structure Adds (resource : ResourceId) (scheme : Scheme) (t : Table) (es : List Exchange) (r : Record)
    (t' : Table) : Prop where
  table : t' = t ++ [Row.ofRecord r]
  status : r.status = .minted
  version : r.version = 0
  unmarked : r.attention = none
  bound : ∃ found, ⟨.lookup resource, .ok (some found)⟩ ∈ es ∧ r.resource = some found.id ∧
    r.resourceType = found.type
  value : ⟨.agency scheme (.mint r.id), .ok r.value⟩ ∈ es
  apart : ∀ row ∈ t, row.id ≠ (Row.ofRecord r).id ∧ row.value ≠ (Row.ofRecord r).value

/-- A mint returns what stands for the resource, changes nothing and asks nobody outside. Where nothing
stands, it fails and has changed nothing, or it has added one record. -/
structure AllOrNothing (w : Trouble) (resource : ResourceId) (scheme : Scheme) (t : Table)
    (y : Except RegistrarError Record) (es : List Exchange) (t' : Table) : Prop where
  stands : ∀ row ∈ t, row.holds resource scheme = true → t' = t ∧ remotes es = [] ∧
    ∃ r, row.record = .ok r ∧ (y = .ok r ∨ w.store ∧ ∃ e, y = .error (.store e))
  vacant : (∀ row ∈ t, row.holds resource scheme = false) →
    (∃ e, y = .error e) ∧ t' = t ∨ ∃ r, y = .ok r ∧ Adds resource scheme t es r t'

/-- What is known of a record that was minted, from the table `t` on. No row is lost. Whatever has followed,
while the record is not lost every mint returns it. Once it is lost the next mint that ends well adds
another, provided that all went well with the directories and the connectors meanwhile. -/
structure Lasts (g : Registrar) (set : Connectors Connector) (resource : ResourceId) (scheme : Scheme)
    (r : Record) (t : Table) : Prop where
  kept : ∀ t₁, Sequel g (Replies .any) (fun _ _ _ => True) t t₁ →
    ∀ row ∈ t, ∃ row₁ ∈ t₁, row₁.id = row.id ∧ row₁.value = row.value
  again : ∀ t₁, Sequel g (Replies .any) (fun _ _ _ => True) t t₁ →
    ∃ s, t₁.get? r.id = .ok (some s) ∧ s.id = r.id ∧ s.value = r.value ∧ (¬ s.Lost →
      ∀ {τ : Type} {w : Trouble} {answer : Answerer interface (Table × τ)}, Attends w answer → ¬ w.store →
        ∀ u, ((g.mint resource scheme).run answer (t₁, u)).1 = .ok s ∧
          ((g.mint resource scheme).run answer (t₁, u)).2.1 = t₁ ∧
          remotes ((g.mint resource scheme).exchanges answer (t₁, u)) = [])
  anew : ∀ t₁, Sequel g (fun t q x t' => Replies .any t q x t' ∧ Directs q x ∧ Through set q x)
      (fun t e p => t.Lost r.id → ∀ r', ¬ (e = .mint resource scheme ∧ p = .done (.record r'))) t t₁ →
    t₁.Lost r.id → ∀ {τ : Type} {w : Trouble} {answer : Answerer interface (Table × τ)}, Attends w answer →
      ∀ u r', ((g.mint resource scheme).run answer (t₁, u)).1 = .ok r' →
        Adds resource scheme t₁ ((g.mint resource scheme).exchanges answer (t₁, u)) r'
          ((g.mint resource scheme).run answer (t₁, u)).2.1

section Ledgers

variable {g : Registrar} {set : Connectors Connector} {policy : ReleasePolicy} {w : Trouble}
  {resource : ResourceId} {scheme : Scheme} {l m : Ledger} {es : List Exchange} {r : Record}
  {y : Except RegistrarError Record}

theorem Mints.adds (hnone : ∀ s ∈ l.records, ¬ s.Stands resource scheme)
    (h : g.Mints w resource scheme l es (.ok r) m) : Adds resource scheme l.table es r m.table := by
  cases h with
  | stood hr hstands _ => exact absurd hstands (hnone r hr)
  | @added found id value now _ _ _ hfound hvalue hm =>
    refine ⟨?_, rfl, rfl, rfl, ⟨found, hfound, rfl, rfl⟩, hvalue, fun row hrow => ?_⟩
    · rw [Ledger.table, hm, List.map_append]
      rfl
    · obtain ⟨s, hs, rfl⟩ := List.mem_map.1 hrow
      constructor
      · intro hid
        exact Ledger.ne_of_added hm m.ids hs (LocalId.text_injective (Cell.text.inj hid))
      · intro hvalue
        exact Ledger.ne_of_added hm m.values hs (IdentifierValue.text_injective (Cell.text.inj hvalue))

theorem Mints.allOrNothing (h : g.Mints w resource scheme l es y m) :
    AllOrNothing w resource scheme l.table y es m.table where
  stands row hrow hholds := by
    obtain ⟨r, hr, rfl⟩ := List.mem_map.1 hrow
    have hstands := Record.holds_ofRecord_iff.1 hholds
    have hrecord : (Row.ofRecord r).record = .ok r := by rw [Row.record_ofRecord, l.whole r hr]
    cases h with
    | stood hr' hstands' hquiet =>
      obtain rfl := Ledger.eq_of_stands hr' hr hstands' hstands
      exact ⟨rfl, hquiet, _, hrecord, .inl rfl⟩
    | unread hw hquiet => exact ⟨rfl, hquiet, r, hrecord, .inr ⟨hw, _, rfl⟩⟩
    | failed hnone => exact absurd hstands (hnone r hr)
    | added hnone _ _ _ _ => exact absurd hstands (hnone r hr)
  vacant hvacant := by
    have hnone : ∀ s ∈ l.records, ¬ s.Stands resource scheme := by
      intro s hs hstands
      have hholds := hvacant _ (List.mem_map_of_mem hs)
      rw [Record.holds_ofRecord_iff.2 hstands] at hholds
      cases hholds
    cases y with
    | error e => exact .inl ⟨⟨e, rfl⟩, congrArg Ledger.table h.same⟩
    | ok r => exact .inr ⟨r, rfl, h.adds hnone⟩

/-- Where a record stands a mint finds it, unless the store does not answer. -/
theorem Mints.again (h : g.Mints w resource scheme l es y m) (hr : r ∈ l.records)
    (hstands : r.Stands resource scheme) (hw : ¬ w.store) : y = .ok r ∧ m = l ∧ remotes es = [] := by
  cases h with
  | stood hr' hstands' hquiet =>
    obtain rfl := Ledger.eq_of_stands hr' hr hstands' hstands
    exact ⟨rfl, rfl, hquiet⟩
  | unread hstore _ => exact absurd hstore hw
  | failed hnone => exact absurd hstands (hnone r hr)
  | added hnone _ _ _ _ => exact absurd hstands (hnone r hr)

/-- Where the only record that might be live is lost, nothing stands for the resource. -/
theorem not_stands_of_lost {s : Record} (hsole : Sole resource scheme s.id l []) (hs : s ∈ l.records)
    (hlost : s.Lost) : ∀ r ∈ l.records, ¬ r.Stands resource scheme := by
  intro r hr hstands
  by_cases hid : r.id = s.id
  · obtain rfl := Ledger.eq_of_id_eq hr hs hid
    exact hstands.not_lost hlost
  · exact hstands.status (hsole r hr hstands.resource hstands.scheme hid).1

theorem Mints.lasts (hset : set.Built)
    (h : (set.registrar policy).Mints w resource scheme l es (.ok r) m)
    (hresource : r.resource = some resource) (hscheme : r.scheme = scheme) :
    Lasts (set.registrar policy) set resource scheme r m.table where
  kept t₁ hsequel row hrow := by
    obtain ⟨n, rfl, hn⟩ := hsequel.continues
    exact hn.rows hrow
  again t₁ hsequel := by
    obtain ⟨n, rfl, hn⟩ := hsequel.continues
    obtain ⟨s, hs, hdescends⟩ := hn r.id _ h.has
    refine ⟨s, (n.get?_table r.id).trans (congrArg _ hs), hdescends.id, hdescends.value, ?_⟩
    intro hkept τ w' answer hanswer hw u
    obtain ⟨n', es', htable, hes, hmints⟩ :=
      noted_run ((set.registrar policy).mint_noted resource scheme) hanswer u
    have hstands := hdescends.stands hresource hscheme hkept
    obtain ⟨hy, rfl, hquiet⟩ := hmints.again (Ledger.mem_of_find hs) hstands hw
    exact ⟨hy, htable, hes ▸ hquiet⟩
  anew t₁ hsequel hlost τ w' answer hanswer u r' hr' := by
    have hstands : r.stored.Stands resource scheme := ⟨hresource, hscheme, h.status⟩
    have hsole := Sole.of_stands (Ledger.mem_of_find h.has) hstands
    obtain ⟨n, rfl, hn, hsole⟩ := hsequel.sole hset h.has hresource hscheme hsole
    obtain ⟨s, hs, hlost⟩ := hlost
    have hs : n.find r.id = some s := Except.ok.inj ((n.get?_table r.id).symm.trans hs)
    have hnone := not_stands_of_lost (Ledger.id_of_find hs ▸ hsole) (Ledger.mem_of_find hs) hlost
    obtain ⟨n', es', htable, hes, hmints⟩ :=
      noted_run ((set.registrar policy).mint_noted resource scheme) hanswer u
    rw [hr'] at hmints
    rw [htable, hes]
    exact hmints.adds hnone

end Ledgers

/-- A mint that has the store to itself is all or nothing, whatever the store has come to hold and whoever
answers it. With the registrar's own connectors the record is of the scheme that was asked for; if the
directory keeps to its contract (`Directs`), every later mint returns this record until it is lost, and the
next one after that a new one. -/
theorem mint_once {g g₀ : Registrar} (x : Run g₀) (n : Nat) {σ : Type} {w : Trouble}
    {answer : Answerer interface (Table × σ)} (hanswer : Attends w answer) (resource : ResourceId)
    (scheme : Scheme) (u : σ) :
    AllOrNothing w resource scheme (x.moment n).table
      ((g.mint resource scheme).run answer ((x.moment n).table, u)).1
      ((g.mint resource scheme).exchanges answer ((x.moment n).table, u))
      ((g.mint resource scheme).run answer ((x.moment n).table, u)).2.1 ∧
    ∀ (set : Connectors Connector) (policy : ReleasePolicy), set.Built → g = set.registrar policy →
      set.Behind answer →
      ∀ r, ((g.mint resource scheme).run answer ((x.moment n).table, u)).1 = .ok r →
        r.scheme = scheme ∧ (Directed answer → r.resource = some resource ∧
          Lasts g set resource scheme r
            ((g.mint resource scheme).run answer ((x.moment n).table, u)).2.1) := by
  rw [x.table_eq]
  obtain ⟨m, es, htable, hes, hmints⟩ :=
    noted_run (g.mint_noted resource scheme) hanswer u
  rw [htable, hes]
  refine ⟨hmints.allOrNothing, ?_⟩
  rintro set policy hset rfl hbehind r hr
  rw [hr] at hmints
  have hthrough : ∀ y ∈ es, Through set y.1 y.2 := hes ▸ forall_exchanges hbehind.through _ _
  have hscheme := hmints.scheme_eq hset hthrough
  refine ⟨hscheme, fun hdirects => ?_⟩
  have hresource := hmints.resource_eq (hes ▸ forall_exchanges hdirects _ _)
  exact ⟨hresource, hmints.lasts hset hresource hscheme⟩

def sampleMinters : Connectors Connector := Connectors.none.add .dark (.offline (.dark "k"))

def sampleMinting : World Nat where
  lookup := (sampleMinters.world fun _ n => (.timedOut, n)).lookup
  agency := (sampleMinters.world fun _ n => (.timedOut, n)).agency
  freshId n := (⟨n⟩, n + 1)
  now n := (.epoch, n)

def sampleMint (t : Table) (n : Nat) : Except RegistrarError Record × Table × Nat :=
  ((sampleMinters.registrar .standard).mint ⟨0⟩ .dark).run sampleMinting.answer (t, n)

def sampleFirst : Record :=
  .mint ⟨1⟩ ⟨.dark, "dark:/k/00000000000000000000000001", by decide⟩ ⟨⟨0⟩, .item, .none, []⟩ .epoch

def sampleDeletion (t : Table) : Except RegistrarError Report × Table × Nat :=
  ((Errand.execute ⟨1⟩ .delete).operation (sampleMinters.registrar .standard)).run sampleMinting.answer (t, 0)

def sampleSecond : Record :=
  .mint ⟨2⟩ ⟨.dark, "dark:/k/00000000000000000000000002", by decide⟩ ⟨⟨0⟩, .item, .none, []⟩ .epoch

theorem sampleMinting_behind : sampleMinters.Behind sampleMinting.answer :=
  fun scheme call c s hc => sampleMinters.behind_world _ scheme call c s hc

theorem sampleMinting_directed : Directed sampleMinting.answer := by
  intro q s
  cases q with
  | lookup id => exact rfl
  | _ => trivial

def sampleRetired : Record := ⟨⟨0⟩, onlyValue, none, .item, .deleted, none, 3, .epoch, .epoch⟩

def sampleHeld : Table := [Row.ofRecord sampleRetired, Row.ofRecord sampleFirst]

/-- In a store that has held a record for the resource before: what is minted is returned until it is
deleted, and then another is minted. -/
theorem released_minted : (Run.released.moment 20).table = [Row.ofRecord sampleRetired] ∧
    (sampleMint [Row.ofRecord sampleRetired] 1).1 = .ok sampleFirst ∧
    (sampleMint [Row.ofRecord sampleRetired] 1).2.1 = sampleHeld ∧
    (∃ s, (sampleMint sampleHeld 2).1 = .ok s ∧ s.id = sampleFirst.id ∧ s.value = sampleFirst.value) ∧
    (sampleMint (sampleDeletion sampleHeld).2.1 2).1 = .ok sampleSecond ∧
      sampleSecond.id ≠ sampleFirst.id ∧ sampleSecond.value ≠ sampleFirst.value := by
  have htable : (Run.released.moment 20).table = [Row.ofRecord sampleRetired] := by decide +kernel
  have hvacant : ∀ row ∈ [Row.ofRecord sampleRetired], row.holds ⟨0⟩ .dark = false := by decide +kernel
  have hfirst : (sampleMint [Row.ofRecord sampleRetired] 1).1 = .ok sampleFirst := by decide +kernel
  obtain ⟨hnothing, hsettled⟩ :=
    mint_once Run.released 20 (sampleMinting.attends (w := .any) trivial) ⟨0⟩ .dark 1
  rw [htable] at hnothing hsettled
  obtain ⟨-, hdirected⟩ := hsettled sampleMinters .standard (.add .none (.offline (.dark "k"))) rfl
    sampleMinting_behind _ hfirst
  obtain ⟨-, hlasts⟩ := hdirected sampleMinting_directed
  have hheld : (sampleMint [Row.ofRecord sampleRetired] 1).2.1 = sampleHeld := by
    rcases hnothing.vacant hvacant with ⟨⟨e, he⟩, -⟩ | ⟨r, hr, hadds⟩
    · cases he.symm.trans hfirst
    · obtain rfl := Except.ok.inj (hfirst.symm.trans hr)
      exact hadds.table
  replace hlasts : Lasts _ _ _ _ sampleFirst sampleHeld := hheld ▸ hlasts
  refine ⟨htable, hfirst, hheld, ?_, ?_⟩
  · obtain ⟨s, hget, hid, hvalue, hagain⟩ := hlasts.again _ .nil
    have hkept : sampleHeld.get? ⟨1⟩ = .ok (some sampleFirst) := by decide +kernel
    obtain rfl : sampleFirst = s := by simpa using hkept.symm.trans hget
    obtain ⟨hs, -⟩ := hagain (by decide) (sampleMinting.attends (w := ⟨False, True⟩) trivial) id 2
    exact ⟨_, hs, hid, hvalue⟩
  · have hsecond : (sampleMint (sampleDeletion sampleHeld).2.1 2).1 = .ok sampleSecond := by decide +kernel
    have hdeleted : (sampleDeletion sampleHeld).2.1.get? ⟨1⟩ =
        .ok (some { sampleFirst with status := .deleted, version := 3 }) := by decide +kernel
    have hanswer (q : Request) (s : Table × Nat) :
        Replies .any s.1 q (sampleMinting.answer q s).1 (sampleMinting.answer q s).2.1 ∧
          Directs q (sampleMinting.answer q s).1 ∧ Through sampleMinters q (sampleMinting.answer q s).1 :=
      ⟨sampleMinting.attends trivial q s, sampleMinting_directed q s, sampleMinting_behind.through q s⟩
    -- The record is deleted by an operation of its own.
    have hreaches : Program.Reaches
        (fun t q x t' => Replies .any t q x t' ∧ Directs q x ∧ Through sampleMinters q x)
        ((Errand.execute ⟨1⟩ .delete).operation (sampleMinters.registrar .standard)) sampleHeld _
        (sampleDeletion sampleHeld).2.1 :=
      Program.reaches_run hanswer _ (_, 0)
    have hadds := hlasts.anew _ (.snoc .nil hreaches fun _ _ h => by cases h.1)
      ⟨_, hdeleted, .inl rfl⟩ (sampleMinting.attends (w := .any) trivial) 2 _ hsecond
    obtain ⟨row, hrow, hid, hvalue⟩ := hlasts.kept _ (.snoc .nil (hreaches.mono fun _ _ _ _ h => h.1) trivial)
      (Row.ofRecord sampleFirst) (by simp [sampleHeld])
    obtain ⟨hne, hne'⟩ := hadds.apart row hrow
    refine ⟨hsecond, fun h => hne ?_, fun h => hne' ?_⟩
    · exact hid.trans (congrArg (fun id => Cell.text (LocalId.text id)) h.symm)
    · exact hvalue.trans (congrArg (fun v => Cell.text (IdentifierValue.text v)) h.symm)

end Registrar

end IdentifierRegistrar
