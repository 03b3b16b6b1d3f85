import IdentifierRegistrar.Proofs.Identifier.ReadBack
import IdentifierRegistrar.Proofs.Run.Minting

/-! The two queries. Each is answered from the table alone (`tells_identifiersFor`, `tells_resolve`). In
the store of a run a value has one row at most, so what one query lists under a resource the other finds
bound to it. A value that a mint has returned is found ever after: bound to its resource until a write
lets the binding go (`unbound_iff`), and orphaned from then on (`queries_agree`). -/

namespace IdentifierRegistrar

open Service Operation

def Record.resolution (r : Record) : Resolution := ⟨r.id, r.value, r.scheme, r.status, r.binding⟩

theorem Record.binding_eq_bound_iff {r : Record} {resource : ResourceId} :
    r.binding = .bound resource ↔ r.resource = some resource := by
  unfold binding
  cases r.resource <;> simp

theorem Record.binding_of_orphaned {r : Record} (h : r.resource = none) :
    r.binding = .orphaned r.resourceType := by
  unfold binding
  rw [h]

namespace Table

variable {α : Type} {t : Table} {p : Operation α} {y z : Except RegistrarError α}

/-- Whatever is outside the store, `p` gets `y` from the table, and leaves everything as it is. -/
def Tells (t : Table) (p : Operation α) (y : Except RegistrarError α) : Prop :=
  ∀ (σ : Type) (w : Surroundings σ) (s : σ), p.run w.answer (t, s) = (y, (t, s))

theorem Tells.unique (h : t.Tells p y) (h' : t.Tells p z) : y = z := by
  have hrun := (h Nat obliging 0).symm.trans (h' Nat obliging 0)
  exact (Prod.mk.inj hrun).1

theorem tells_read {c : Store.Call} {a : c.Result} {f : c.Result → Operation α}
    (ha : Store.answer t c = (.ok a, t)) (h : t.Tells (f a) y) : t.Tells (store c >>= f) y := by
  intro σ w s
  rw [Program.run_bind, w.run_store ha]
  exact h σ w s

end Table

namespace Ledger

variable (l : Ledger) {v : IdentifierValue} {r : Record} {resource : ResourceId}

def ofValue (v : IdentifierValue) : Option Record := l.records.find? (·.value = v)

variable {l}

theorem ofValue_eq_some_iff : l.ofValue v = some r ↔ r ∈ l.records ∧ r.value = v := by
  constructor
  · intro h
    exact ⟨List.mem_of_find?_eq_some h, by simpa using List.find?_some h⟩
  · rintro ⟨hr, rfl⟩
    cases hf : l.ofValue r.value with
    | none => exact absurd (List.find?_eq_none.1 hf r hr) (by simp)
    | some s =>
      have hs : s.value = r.value := by simpa using List.find?_some hf
      rw [eq_of_value_eq (List.mem_of_find?_eq_some hf) hr hs]

variable (l)

theorem tells_identifiersFor (resource : ResourceId) : l.table.Tells (Registrar.identifiersFor resource)
    (.ok ((l.boundTo resource).map Record.summary)) := by
  refine Table.tells_read (c := .listByResource resource) (a := l.boundTo resource) ?_ ?_
  · rw [Store.answer, l.listByResource_table]
    rfl
  · intro σ w s
    rfl

theorem tells_resolve (v : IdentifierValue) : l.table.Tells (Registrar.resolve v.text)
    (match l.ofValue v with
      | some r => .ok r.resolution
      | none => .error (.unknownValue v.text)) := by
  unfold Registrar.resolve
  rw [IdentifierValue.parse_text]
  refine Table.tells_read (c := .findByValue v) (a := l.ofValue v) ?_ ?_
  · rw [Store.answer, l.findByValue?_table]
    rfl
  · intro σ w s
    cases hf : l.ofValue v with
    | none => rfl
    | some r =>
      obtain ⟨-, rfl⟩ := ofValue_eq_some_iff.1 hf
      rfl

variable {l}

theorem tells_resolve_iff {a : Resolution} : l.table.Tells (Registrar.resolve v.text) (.ok a) ↔
    ∃ r ∈ l.records, r.value = v ∧ r.resolution = a := by
  have htells := l.tells_resolve v
  constructor
  · intro h
    have heq := htells.unique h
    cases hf : l.ofValue v with
    | none => simp [hf] at heq
    | some r =>
      obtain ⟨hr, hv⟩ := ofValue_eq_some_iff.1 hf
      rw [hf] at heq
      exact ⟨r, hr, hv, Except.ok.inj heq⟩
  · rintro ⟨r, hr, hv, rfl⟩
    rwa [ofValue_eq_some_iff.2 ⟨hr, hv⟩] at htells

end Ledger

/-- What is listed under a resource is found bound to it, and nothing else is. -/
structure Table.Agrees (t : Table) (resource : ResourceId) (listed : List Summary) : Prop where
  tells : t.Tells (Registrar.identifiersFor resource) (.ok listed)
  values : (listed.map Summary.value).Nodup
  found : ∀ s ∈ listed, t.Tells (Registrar.resolve s.value.text)
    (.ok ⟨s.record, s.value, s.scheme, s.status, .bound resource⟩)
  listed : ∀ (v : IdentifierValue) (a : Resolution), t.Tells (Registrar.resolve v.text) (.ok a) →
    a.binding = .bound resource → ∃ s ∈ listed, s.value = v

/-- No value is listed under two resources. -/
theorem Table.Agrees.resource_eq {t : Table} {resource resource' : ResourceId} {listed listed' : List Summary}
    (h : t.Agrees resource listed) (h' : t.Agrees resource' listed') {s s' : Summary} (hs : s ∈ listed)
    (hs' : s' ∈ listed') (hvalue : s.value = s'.value) : resource = resource' := by
  have hfound := h.found s hs
  rw [hvalue] at hfound
  have heq := congrArg Resolution.binding (Except.ok.inj (hfound.unique (h'.found s' hs')))
  exact Binding.bound.inj heq

theorem Ledger.agrees (l : Ledger) (resource : ResourceId) :
    l.table.Agrees resource ((l.boundTo resource).map Record.summary) where
  tells := l.tells_identifiersFor resource
  values := by
    rw [List.map_map]
    refine (l.sorted_nodup _ _).map_on fun r hr s hs hvalue => ?_
    exact eq_of_value_eq (l.mem_boundTo.1 hr).1 (l.mem_boundTo.1 hs).1 hvalue
  found s hs := by
    obtain ⟨r, hr, rfl⟩ := List.mem_map.1 hs
    obtain ⟨hmem, hresource⟩ := l.mem_boundTo.1 hr
    refine tells_resolve_iff.2 ⟨r, hmem, rfl, ?_⟩
    rw [Record.resolution, Record.binding_eq_bound_iff.2 hresource]
    rfl
  listed v a htells hbinding := by
    obtain ⟨r, hr, hvalue, rfl⟩ := tells_resolve_iff.1 htells
    have hresource := Record.binding_eq_bound_iff.1 hbinding
    exact ⟨r.summary, List.mem_map_of_mem (l.mem_boundTo.2 ⟨hr, hresource⟩), hvalue⟩

namespace Run

variable {g : Registrar} (x : Run g)

def Clears (t : Nat) (id : RecordId) : Prop :=
  ∃ i d d', x.event t = .answer i ⟨.store (.update d), .ok d'⟩ ∧ d.id = id ∧ d.resource = none

variable {x} {t u : Nat} {id : RecordId} {r : Record}

/-- A row is bound from its insertion until its binding is cleared. -/
theorem unbound_iff (h : x.row t id = some r) : r.resource = none ↔ ∃ u < t, x.Clears u id := by
  constructor
  · intro hnone
    induction t generalizing r with
    | zero => simp [x.row_zero] at h
    | succ t ih =>
      have hbefore {s : Record} (hs : x.row t id = some s) (hnone : s.resource = none) :
          ∃ u < t + 1, x.Clears u id := by
        obtain ⟨u, hu, hclears⟩ := ih hs hnone
        exact ⟨u, by omega, hclears⟩
      cases x.row_succ t id with
      | same hsame => exact hbefore (hsame ▸ h) hnone
      | @inserted w hw _ _ hsome =>
        obtain rfl := Option.some.inj (hsome.symm.trans h)
        have hbound := hw.bound
        rw [show w.resource = none from hnone] at hbound
        cases hbound
      | @written i c d s hw hid =>
        subst hid
        obtain rfl := Option.some.inj (hw.after.symm.trans h)
        by_cases hd : d.resource = none
        · exact ⟨t, Nat.lt_succ_self t, i, d, d.next, hw.answered, rfl, hd⟩
        · refine hbefore hw.row ?_
          simpa [Record.overwrite, Record.isOrphaned, hd] using hnone
  · rintro ⟨u, hut, i, d, d', hev, rfl, hd⟩
    obtain ⟨-, c, s, hw⟩ := x.writes_of_updated hev
    obtain ⟨s', hs', hdescends⟩ := x.row_descends hw.after hut
    obtain rfl := Option.some.inj (hs'.symm.trans h)
    have hnone : (s.overwrite d).resource = none := by simp [Record.overwrite, Record.isOrphaned, hd]
    rcases hdescends.resource with hsame | hnone'
    · exact hsame.trans hnone
    · exact hnone'

theorem inserted_of_row (h : x.row t id = some r) : ∃ u < t, ∃ i w,
    x.event u = .answer i ⟨.store (.insert w), .ok ()⟩ ∧ w.id = id ∧ w.stored.Descends r := by
  induction t generalizing r with
  | zero => simp [x.row_zero] at h
  | succ t ih =>
    cases hbefore : x.row t id with
    | some s =>
      obtain ⟨s', hs', hdescends⟩ := x.row_descends hbefore (Nat.le_succ t)
      obtain rfl := Option.some.inj (hs'.symm.trans h)
      obtain ⟨u, hu, i, w, hev, hid, hw⟩ := ih hbefore
      exact ⟨u, by omega, i, w, hev, hid, hw.trans hdescends⟩
    | none =>
      rcases x.ledger_succ t with hsame | ⟨i, call, a, hev⟩
      · rw [x.row_eq, hsame, ← x.row_eq, hbefore] at h
        cases h
      · have hanswers := x.ledger_answers hev
        rw [x.row_eq] at h hbefore
        generalize x.ledger (t + 1) = m at h hanswers
        cases hanswers with
        | @inserted w _ hadded =>
          by_cases hid : id = w.id
          · subst hid
            obtain rfl := Option.some.inj ((Ledger.find_added_self hadded).symm.trans h)
            exact ⟨t, Nat.lt_succ_self t, i, w, hev, rfl, .refl _⟩
          · rw [Ledger.find_added_of_ne hadded hid, hbefore] at h
            cases h
        | @updated d s _ hf _ hafter =>
          by_cases hid : id = d.id
          · rw [hid, hf] at hbefore
            cases hbefore
          · rw [Ledger.find_overwritten_of_ne hafter hid, hbefore] at h
            cases h
        | _ =>
          rw [hbefore] at h
          cases h

theorem sourced_of_mints {resource : ResourceId} {scheme : Scheme} {i : Nat}
    (h : x.stretch.Mints resource scheme t i (.ok r)) :
    ∃ p, (x.moment t).ongoing[i]? = some p ∧ Sourced resource scheme p.past r := by
  obtain ⟨p, hp, herrand, hends⟩ := h
  have hmeets := x.rest_meets_of (Errand.mint_sourced g resource scheme) (fun _ _ => rfl) hp herrand
  refine ⟨p, hp, ?_⟩
  unfold Ongoing.ends? at hends
  split at hends
  · rename_i a hrest
    rw [hrest] at hmeets
    cases hends
    exact hmeets r rfl
  · cases hends
  · cases hends

theorem row_of_mints {resource : ResourceId} {scheme : Scheme} {i : Nat}
    (h : x.stretch.Mints resource scheme t i (.ok r)) :
    (∃ u < t, x.row (u + 1) r.id = some r.stored) ∧
      ∃ b, r.resource = some b ∧ (x.stretch.Directed → b = resource) := by
  obtain ⟨p, hp, hsourced⟩ := sourced_of_mints h
  cases hsourced with
  | stood hmem =>
    obtain ⟨pre, post, hpast⟩ := List.append_of_mem hmem
    obtain ⟨u, hut, hev, -⟩ := x.answered hp hpast
    obtain ⟨hreply, hsame⟩ := (x.ledger_answers hev).of_read? rfl
    have hlive : r ∈ (x.ledger u).liveOf resource scheme :=
      List.mem_of_mem_head? (Except.ok.inj hreply).symm
    have hrecord := Ledger.mem_of_liveOf _ hlive
    refine ⟨⟨u, hut, ?_⟩, resource, ?_, fun _ => rfl⟩
    · rw [x.row_eq, hsame, Ledger.find_of_mem hrecord, (x.ledger u).whole r hrecord]
    · have hfor := List.mem_filter.1 (List.mem_mergeSort.1 hlive)
      exact (of_decide_eq_true hfor.2).1
  | @inserted found hfound hresource _ hmem =>
    obtain ⟨pre, post, hpast⟩ := List.append_of_mem hmem
    obtain ⟨u, hut, hev, -⟩ := x.answered hp hpast
    refine ⟨⟨u, hut, ?_⟩, found.id, hresource, fun hdirected => ?_⟩
    · have hanswers := x.ledger_answers hev
      rw [x.row_eq]
      generalize x.ledger (u + 1) = m at hanswers
      cases hanswers with
      | inserted hadded => exact Ledger.find_added_self hadded
    · obtain ⟨pre, post, hpast⟩ := List.append_of_mem hfound
      obtain ⟨v, -, hev, -⟩ := x.answered hp hpast
      exact hdirected v i _ _ hev

/-- The value of a row is found, with the binding that the row has left. -/
theorem tells_of_row (h : x.row t id = some r) : (x.moment t).table.Tells
    (Registrar.resolve r.value.text) (.ok r.resolution) := by
  rw [x.row_eq] at h
  rw [x.table_eq]
  exact Ledger.tells_resolve_iff.2 ⟨r, Ledger.mem_of_find h, rfl, rfl⟩

/-- At any time of any run the two queries agree for every resource, and no value is listed under two.
The value of a record that a mint has returned is found ever after, with the record's id: bound to the
resource it was minted for while nobody has cleared the binding, and from then on orphaned, with the
type that it was inserted with. That resource is the one that the mint was asked for if the directory keeps
to its contract (`Directs`). -/
theorem queries_agree (x : Run g) :
    (∀ t, (∀ resource, ∃ listed, (x.moment t).table.Agrees resource listed) ∧
      ∀ resource resource' listed listed', (x.moment t).table.Agrees resource listed →
        (x.moment t).table.Agrees resource' listed' → ∀ s ∈ listed, ∀ s' ∈ listed',
          s.value = s'.value → resource = resource') ∧
    ∀ resource scheme t i r, x.stretch.Mints resource scheme t i (.ok r) →
      ∃ b, r.resource = some b ∧ (x.stretch.Directed → b = resource) ∧
        (∃ u < t, ∃ j w, x.event u = .answer j ⟨.store (.insert w), .ok ()⟩ ∧ w.id = r.id ∧
          w.value = r.value ∧ w.resource = some b ∧ w.resourceType = r.resourceType) ∧
        ∀ u ≥ t, ∃ a, (x.moment u).table.Tells (Registrar.resolve r.value.text) (.ok a) ∧
          a.record = r.id ∧ a.value = r.value ∧
          ((∀ v < u, ¬ x.Clears v r.id) → a.binding = .bound b) ∧
          ∀ v < u, x.Clears v r.id → a.binding = .orphaned r.resourceType := by
  refine ⟨fun t => ⟨fun resource => ?_, ?_⟩, fun resource scheme t i r hmints => ?_⟩
  · rw [x.table_eq]
    exact ⟨_, (x.ledger t).agrees resource⟩
  · intro resource resource' listed listed' h h' s hs s' hs' hvalue
    exact h.resource_eq h' hs hs' hvalue
  · obtain ⟨⟨v, hvt, hrow⟩, b, hb, hdirected⟩ := row_of_mints hmints
    obtain ⟨u, huv, j, w, hev, hid, hw⟩ := inserted_of_row hrow
    refine ⟨b, hb, hdirected, ⟨u, by omega, j, w, hev, hid, hw.value.symm, ?_, hw.resourceType.symm⟩,
      fun u htu => ?_⟩
    · rcases hw.resource with hsame | hnone
      · exact hsame.symm.trans hb
      · rw [show r.stored.resource = some b from hb] at hnone
        cases hnone
    · obtain ⟨s, hs, hdescends⟩ := x.row_descends hrow (show v + 1 ≤ u by omega)
      refine ⟨s.resolution, ?_, hdescends.id, hdescends.value, fun hkept => ?_, fun v hv hclears => ?_⟩
      · have htells := tells_of_row hs
        rwa [hdescends.value] at htells
      · refine Record.binding_eq_bound_iff.2 ?_
        rcases hdescends.resource with hsame | hnone
        · exact hsame.trans hb
        · obtain ⟨v, hv, hclears⟩ := (unbound_iff hs).1 hnone
          exact absurd hclears (hkept v hv)
      · have hnone := (unbound_iff hs).2 ⟨v, hv, hclears⟩
        rw [Record.resolution, Record.binding_of_orphaned hnone, hdescends.resourceType]
        rfl

section Releasing

def releasing : List Command :=
  .start (.mint ⟨0⟩ .dark) :: List.replicate 8 (.go 0) ++
    .start (.release ⟨0⟩) :: List.replicate 10 (.go 1)

def released : Run ⟨fun _ => true, .standard⟩ := Run.ofSchedule _ fair_answers 0 releasing

/-- The value points at the resource before, and at its type after. -/
theorem released_agrees : ∃ r a a', released.stretch.Mints ⟨0⟩ .dark 9 0 (.ok r) ∧
    (released.moment 9).table.Tells (Registrar.resolve r.value.text) (.ok a) ∧
    a.record = r.id ∧ a.binding = .bound ⟨0⟩ ∧
    (released.moment 20).table.Tells (Registrar.resolve r.value.text) (.ok a') ∧
    a'.record = r.id ∧ a'.binding = .orphaned .item := by
  have hends : ((released.moment 9).ongoing[0]?.map fun p => (p.errand, p.ends?)) =
      some (.mint ⟨0⟩ .dark, some (.ok (.record
        ⟨⟨0⟩, onlyValue, some ⟨0⟩, .item, .minted, none, 0, .epoch, .epoch⟩))) := by
    decide +kernel
  obtain ⟨p, hp, heq⟩ := Option.map_eq_some_iff.1 hends
  have hmints : released.stretch.Mints ⟨0⟩ .dark 9 0 (.ok
      ⟨⟨0⟩, onlyValue, some ⟨0⟩, .item, .minted, none, 0, .epoch, .epoch⟩) :=
    ⟨p, hp, (Prod.mk.inj heq).1, (Prod.mk.inj heq).2⟩
  obtain ⟨-, hstands⟩ := queries_agree released
  obtain ⟨b, hb, -, -, hlater⟩ := hstands _ _ _ _ _ hmints
  obtain rfl : ⟨0⟩ = b := Option.some.inj hb
  obtain ⟨a, htells, hid, -, hbound, -⟩ := hlater 9 (Nat.le_refl _)
  obtain ⟨a', htells', hid', -, -, horphaned⟩ := hlater 20 (by decide)
  have hbefore : (released.row 9 ⟨0⟩).map Record.resource = some (some ⟨0⟩) := by decide +kernel
  have hafter : (released.row 20 ⟨0⟩).map Record.resource = some none := by decide +kernel
  obtain ⟨s, hs, hresource⟩ := Option.map_eq_some_iff.1 hbefore
  obtain ⟨s', hs', hnone⟩ := Option.map_eq_some_iff.1 hafter
  refine ⟨_, a, a', hmints, htells, hid, hbound fun v hv hclears => ?_, htells', hid', ?_⟩
  · rw [(unbound_iff hs).2 ⟨v, hv, hclears⟩] at hresource
    cases hresource
  · obtain ⟨v, hv, hclears⟩ := (unbound_iff hs').1 hnone
    exact horphaned v hv hclears

end Releasing

end Run

end IdentifierRegistrar
