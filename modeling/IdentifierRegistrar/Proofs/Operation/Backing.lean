import IdentifierRegistrar.Proofs.Operation.Alone
import IdentifierRegistrar.Proofs.Operation.Solo
import IdentifierRegistrar.Proofs.Operation.Wire

/-! What the stored status of a DOI says of what the agency holds for its name. An operation works on
one record after the other, and on each as if it were by itself: the others and their holdings are
left alone (`Beside`). Main result: every operation keeps all records backed (`Errand.backed_calls`). -/

namespace IdentifierRegistrar

open Agency Service Operation

/-- What may be held for a name while its record stands at a status. -/
def Status.Backs : Status → Holding → Prop
  | minted, h | pending, h => h = .absent
  | toBeReserved, h => h = .absent ∨ h = .draft
  | isReserved, h | updateReserved, h => h = .draft
  | toBeRegistered, h | updateBeforeRegistration, h => h = .absent ∨ h = .draft ∨ h = .findable
  | isRegistered, h | updateRegistered, h => h = .findable
  | toBeDeleted, _ => True
  | deleted, h => h = .absent ∨ h = .registered

namespace Status.Backs

variable {s t : Status} {h : Holding} {c : Change}

theorem change (hs : s.Backs h) (hc : s.asks? = some c.action) : s.Backs (h.change c) := by
  cases s <;> cases c <;> simp [Status.asks?, Change.action] at hc <;>
    cases h <;> simp [Status.Backs, Holding.change, Holding.put] at hs ⊢

theorem confirmed (hs : s.Backs h) (hc : s.asks? = some c.action) (ht : s.confirmed? = some t) :
    t.Backs (h.change c) := by
  cases s <;> cases c <;> simp [Status.asks?, Change.action, Status.confirmed?] at hc ht <;> subst ht <;>
    cases h <;> simp [Status.Backs, Holding.change, Holding.put, Holding.remove] at hs ⊢

end Status.Backs

namespace Wiring

variable (a : Wiring)

/-- Every DOI record is backed by what the agency holds, and it holds nothing that has no record. The
names of the records stand in addresses as they are. -/
structure Backed (l : Ledger) (held : Holdings) : Prop where
  plain : ∀ id r name, l.find id = some r → r.value.doiName? = some name → a.Plain name
  backs : ∀ id r name, l.find id = some r → r.value.doiName? = some name → r.status.Backs (held name)
  absent : ∀ name, (∀ id r, l.find id = some r → r.value.doiName? ≠ some name) → held name = .absent

theorem Backed.empty : a.Backed .empty fun _ => .absent where
  plain _ _ _ h := by simp [Ledger.find, Ledger.empty] at h
  backs _ _ _ h := by simp [Ledger.find, Ledger.empty] at h
  absent _ _ := rfl

variable {a} in
/-- A new record finds nothing held for its name. -/
theorem Backed.added {l m : Ledger} {held : Holdings} {r : Record} (hs : a.Backed l held)
    (hm : m.records = l.records ++ [r.stored]) (hr : r.status = .minted)
    (hplain : ∀ name, r.value.doiName? = some name → a.Plain name) : a.Backed m held := by
  have hrow (id : RecordId) (q : Record) (hq : m.find id = some q) :
      q = r.stored ∨ l.find id = some q := by
    by_cases hid : id = r.id
    · subst hid
      exact .inl (Option.some.inj (hq.symm.trans (Ledger.find_added_self hm)))
    · rw [Ledger.find_added_of_ne hm hid] at hq
      exact .inr hq
  have hkept (id : RecordId) (q : Record) (hq : l.find id = some q) :
      m.find id = some q ∧ q.value ≠ r.value := by
    have hid : id ≠ r.id := by
      rintro rfl
      simp [Ledger.find_eq_none_of_added hm] at hq
    refine ⟨(Ledger.find_added_of_ne hm hid).trans hq, fun hvalue => ?_⟩
    have hnodup := m.values
    rw [hm, List.map_append, List.nodup_append] at hnodup
    exact hnodup.2.2 q.value (List.mem_map_of_mem (Ledger.mem_of_find hq)) r.value (by simp) hvalue
  refine ⟨fun id q name hq hname => ?_, fun id q name hq hname => ?_, fun name hname => ?_⟩
  · rcases hrow id q hq with rfl | hq
    · exact hplain name hname
    · exact hs.plain id q name hq hname
  · rcases hrow id q hq with rfl | hq
    · have habsent : held name = .absent := hs.absent name fun id q hq hq' =>
        (hkept id q hq).2 (IdentifierValue.doiName?_injective hq' hname)
      rw [show r.stored.status = .minted from hr, habsent]
      rfl
    · exact hs.backs id q name hq hname
  · exact hs.absent name fun id q hq => hname id q (hkept id q hq).1

def outside (trouble : Prop) : Outside Holding where
  fails := trouble
  lookup _ _ := True
  change h c x h' := c.value.scheme = .doi → Attempted trouble h (h.change c) x h'

def Stands (r : Record) (h : Holding) : Prop := r.scheme = .doi → r.status.Backs h

theorem outside_carries (trouble : Prop) : (outside trouble).Carries Stands Stands where
  holds h := h
  registers {r h t} hK hubr hd := by
    have hs : r.status.Backs h := hK hd
    rw [hubr] at hs
    exact hs
  parks h _ := h
  asks {r h c x h'} hK hc hx hd := by
    have hs : r.status.Backs h := hK hd
    have hdoi : c.value.scheme = .doi := hc.1 ▸ hd
    cases hx hdoi with
    | made => exact hs.change hc.2
    | refused _ => exact hs
    | unsaid _ => exact hs.change hc.2
  confirms {r h c h' confirmed t} hK hc hx hrest hd := by
    have hs : r.status.Backs h := hK hd
    have hdoi : c.value.scheme = .doi := hc.1 ▸ hd
    cases hx hdoi
    exact hs.confirmed hc.2 hrest

/-- The statuses that a request writes are backed, each one in turn. -/
theorem stands_plan {action : Action} {r s : Record} {steps : List Status} {h : Holding}
    (hr : Stands r h) (hplan : action.plan r.status = .ok (.drive steps)) (hvalue : s.value = r.value)
    (hs : s.status ∈ steps ∨ steps = [] ∧ s.status = r.status) : Stands s h := by
  intro hd
  have hbacks := hr ((congrArg IdentifierValue.scheme hvalue).symm.trans hd)
  rcases hs with hs | ⟨-, hs⟩
  · cases action <;> cases hst : r.status <;> rw [hst] at hplan hbacks <;> cases hplan <;>
      simp at hs <;> (try rcases hs with hs | hs) <;> simp_all [Status.Backs]
  · rw [hs]
    exact hbacks

/-- What an operation on `r`, begun at `s`, has made of all: it has changed the row of `r` and what is
held for its name. -/
structure Beside (r : Record) (s : Ledger × Holdings) (u : Record × Holding) (t : Ledger × Holdings) :
    Prop where
  row : t.1.find r.id = some u.1
  value : u.1.value = r.value
  others : s.1.SameBut r.id t.1
  holds : ∀ name, r.value.doiName? = some name → t.2 name = u.2
  keeps : ∀ name, r.value.doiName? ≠ some name → t.2 name = s.2 name

section Beside

variable {a} {trouble : Prop} {r : Record} {s t t' : Ledger × Holdings} {u : Record × Holding}

theorem Beside.id (h : Beside r s u t) : u.1.id = r.id := Ledger.id_of_find h.row

theorem Beside.backed (h : Beside r s u t) (hs : a.Backed s.1 s.2) (hr : s.1.find r.id = some r)
    (hu : Stands u.1 u.2) : a.Backed t.1 t.2 := by
  have hrow (id : RecordId) (q : Record) (hq : t.1.find id = some q) :
      q = u.1 ∨ s.1.find id = some q ∧ q.value ≠ r.value := by
    by_cases hid : id = r.id
    · subst hid
      exact .inl (Option.some.inj (hq.symm.trans h.row))
    · rw [h.others id hid] at hq
      refine .inr ⟨hq, fun hvalue => hid ?_⟩
      obtain rfl := List.inj_on_of_nodup_map s.1.values (Ledger.mem_of_find hq) (Ledger.mem_of_find hr)
        hvalue
      exact (Ledger.id_of_find hq).symm
  refine ⟨fun id q name hq hname => ?_, fun id q name hq hname => ?_, fun name hname => ?_⟩
  · rcases hrow id q hq with rfl | ⟨hq, -⟩
    · exact hs.plain r.id r name hr (h.value ▸ hname)
    · exact hs.plain id q name hq hname
  · rcases hrow id q hq with rfl | ⟨hq, hne⟩
    · rw [h.holds name (h.value ▸ hname)]
      exact hu (IdentifierValue.doiName?_eq_some_iff.1 hname).1
    · rw [h.keeps name fun hr => hne (IdentifierValue.doiName?_injective hname hr)]
      exact hs.backs id q name hq hname
  · rw [h.keeps name (h.value ▸ hname r.id u.1 h.row)]
    refine hs.absent name fun id q hq => ?_
    by_cases hid : id = r.id
    · subst hid
      obtain rfl := Option.some.inj (hq.symm.trans hr)
      exact h.value ▸ hname _ u.1 h.row
    · exact hname id q ((h.others id hid).trans hq)

theorem Beside.gives_store {call : Store.Call} {x : Except StoreError call.Result} {m : Ledger}
    (h : Beside r s u t) (hq : Minds u.1 (.store call)) (hx : t.1.Answers call x m) :
    ∃ u', (outside trouble).Gives u (.store call) x u' ∧ Beside r s u' (m, t.2) := by
  obtain ⟨row, value, others, holds, keeps⟩ := h
  cases hx with
  | get id =>
    obtain rfl : id = u.1.id := hq
    rw [show t.1.find u.1.id = some u.1 from Ledger.id_of_find row ▸ row]
    exact ⟨u, .got, row, value, others, holds, keeps⟩
  | @updated d c' m hf hv hm =>
    obtain ⟨c, hc, hd⟩ : ∃ c : Record, c.stored = u.1 ∧ c.Revision d := hq
    have hdid : d.id = r.id := by
      rw [hd.id, ← Ledger.id_of_find row, ← hc]
      rfl
    obtain rfl : c' = c.stored := by
      rw [hdid] at hf
      exact Option.some.inj (hf.symm.trans (hc ▸ row))
    have hnext : m.find r.id = some d.next.stored := by
      rw [← hdid, ← hd.overwrite_stored]
      exact Ledger.find_overwritten_self hm hf
    have hvalue : d.next.stored.value = r.value := hd.value.trans ((congrArg Record.value hc).trans value)
    have hgives : (outside trouble).Gives u (.store (.update d)) (.ok d.next) (d.next.stored, u.2) :=
      .wrote
    refine ⟨_, hgives, hnext, hvalue, fun k hk => ?_, holds, keeps⟩
    rw [Ledger.find_overwritten_of_ne hm (hdid ▸ hk)]
    exact others k hk
  | notUpdated he =>
    obtain ⟨c, hc, hd⟩ : ∃ c : Record, c.stored = u.1 ∧ c.Revision _ := hq
    have hid : c.id = r.id := (congrArg Record.id hc).trans (Ledger.id_of_find row)
    have hhas : t.1.Has c := by
      rw [Ledger.Has, hid, hc]
      exact row
    exact absurd he (Ledger.not_misses hhas hd)
  | _ => exact hq.elim

theorem Beside.gives_change {c : Change} {name : String} {x : Except AgencyError Unit}
    {held' : Holdings} (h : Beside r s u t) (hc : c.Suits u.1) (hname : c.value.doiName? = some name)
    (hx : Attempted trouble t.2 (Function.update t.2 name ((t.2 name).change c)) x held') :
    ∃ u', (outside trouble).Gives u (.agency u.1.scheme (.change c)) x u' ∧
      Beside r s u' (t.1, held') := by
  obtain ⟨row, value, others, holds, keeps⟩ := h
  rw [hc.1, value] at hname
  have hheld : t.2 name = u.2 := holds name hname
  have hmine : (outside trouble).change u.2 c x (held' name) := fun _ => by
    have h := hx.map (· name)
    simp only [Function.update_self, hheld] at h
    exact h
  refine ⟨(u.1, held' name), .changed hmine, row, value, others, fun n hn => ?_, fun n hn => ?_⟩
  · rw [Option.some.inj (hn.symm.trans hname)]
  · have hne : n ≠ name := fun h => hn (h ▸ hname)
    have h := hx.map (· n)
    simp only [Function.update_of_ne hne] at h
    exact h.same.trans (keeps n hn)

theorem Beside.gives {q : Service.Request} {x : Service.Reply q} (h : Beside r s u t)
    (hq : Minds u.1 q) (hx : a.Deals trouble t q x t') :
    ∃ u', (outside trouble).Gives u q x u' ∧ Beside r s u' t' := by
  cases hx with
  | @service l m held q x hne hx hfits =>
    have hsame (hq : ∀ call, q ≠ .store call) : m = l := by
      rcases hx with hx | ⟨-, hfails⟩
      · exact hx.other hq
      · exact Ledger.table_injective hfails.same
    cases q with
    | store call =>
      rcases hx with hx | ⟨ht, ⟨e, rfl⟩, hm⟩
      · exact h.gives_store hq hx.store
      · obtain rfl := Ledger.table_injective hm
        exact ⟨u, .failed ht, h⟩
    | lookup resource =>
      obtain rfl := hsame (by simp)
      exact ⟨u, .lookup trivial, h⟩
    | agency scheme call =>
      obtain rfl := hsame (by simp)
      cases call with
      | change c =>
        obtain ⟨rfl, hc⟩ : scheme = u.1.scheme ∧ c.Suits u.1 := hq
        have hdark : c.value.scheme ≠ .doi := by
          rw [hc.1]
          intro h
          exact hne (.change c) (by rw [show u.1.scheme = .doi from h])
        exact ⟨u, .changed fun h => absurd h hdark, h⟩
      | _ => exact hq.elim
    | freshId => exact hq.elim
    | now =>
      obtain rfl := hsame (by simp)
      exact ⟨u, .now, h⟩
  | minted => exact hq.elim
  | changed hname hx =>
    obtain ⟨hscheme, hc⟩ : Scheme.doi = u.1.scheme ∧ _ := hq
    rw [hscheme]
    exact h.gives_change hc hname hx
  | reserved _ _ => exact hq.elim
  | registered _ _ => exact hq.elim

theorem Beside.knows {q : Service.Request} (h : Beside r s u t) (ht : a.Backed t.1 t.2)
    (hq : Minds u.1 q) : a.Knows q := by
  cases q with
  | agency scheme call =>
    cases call with
    | change c =>
      obtain ⟨rfl, hc⟩ : scheme = u.1.scheme ∧ c.Suits u.1 := hq
      cases hscheme : u.1.scheme with
      | dark => trivial
      | doi =>
        obtain ⟨name, hname⟩ := IdentifierValue.exists_doiName hscheme
        exact ⟨name, hc.1 ▸ hname, ht.plain r.id u.1 name h.row hname⟩
    | _ => exact hq.elim
  | _ => trivial

end Beside

section Operations

variable {a} {α β : Type} {trouble : Prop} {l : Ledger} {held : Holdings} {r : Record} {g : Registrar}

def holdingOf (held : Holdings) (r : Record) : Holding := r.value.doiName?.elim .absent held

def Leaves (a : Wiring) (l : Ledger) (r : Record) (_ : Except RegistrarError α) (t : Ledger × Holdings) :
    Prop := a.Backed t.1 t.2 ∧ l.SameBut r.id t.1

/-- What keeps a record backed by itself keeps all records backed. -/
theorem record_calls {p : Operation α} (hs : a.Backed l held) (hr : l.find r.id = some r)
    (hp : Stands r (holdingOf held r) → p.Meets (solo (outside trouble) Stands)
      (fun _ u => Stands u.1 u.2) (r, holdingOf held r)) :
    p.Meets (a.calls trouble a.Backed) (Leaves a l r) (l, held) := by
  have hstands : Stands r (holdingOf held r) := by
    intro hd
    obtain ⟨name, hname⟩ := IdentifierValue.exists_doiName hd
    rw [holdingOf, hname]
    exact hs.backs r.id r name hr hname
  have hstart : Beside r (l, held) (r, holdingOf held r) (l, held) := by
    refine ⟨hr, rfl, .refl l r.id, fun name hname => ?_, fun _ _ => rfl⟩
    rw [holdingOf, hname]
    rfl
  refine ((hp hstands).simulate (T := a.calls trouble a.Backed) (fun u t q hu hq => ?_)
    (fun u t q x t' hu hq hx => hu.gives hq.2 hx) hstart).mono fun x t hx => ?_
  · have ht := hu.backed hs hr hq.1
    exact ⟨ht, hu.knows ht hq.2⟩
  · obtain ⟨u, hu, hstands⟩ := hx
    exact ⟨hu.backed hs hr hstands, hu.others⟩

end Operations

end Wiring

open Wiring

namespace Registrar

variable {a : Wiring} {α β : Type} {trouble : Prop} {l : Ledger} {held : Holdings} {r : Record}
  {g : Registrar}

theorem drive_calls (hs : a.Backed l held) (hr : l.find r.id = some r) :
    (g.drive r).Meets (a.calls trouble a.Backed) (Leaves a l r) (l, held) := by
  refine record_calls hs hr fun h => ?_
  have hdrive := drive_solo (g := g) (r := r) (outside_carries trouble) h
  rw [l.whole_of_find hr] at hdrive
  exact hdrive.mono fun x u hu => hu.kept

theorem releaseRecord_calls (hs : a.Backed l held) (hr : l.find r.id = some r) :
    (g.releaseRecord r).Meets (a.calls trouble a.Backed) (Leaves a l r) (l, held) := by
  refine record_calls hs hr fun h => ?_
  refine releaseRecord_solo (outside_carries trouble) (l.whole_of_find hr) h (fun s hvalue hst => ?_)
    fun steps hplan s hvalue hst => stands_plan h hplan hvalue hst
  intro hd
  rw [hst]
  exact h ((congrArg IdentifierValue.scheme hvalue).symm.trans hd)

def Backs (a : Wiring) (_ : Except RegistrarError α) (t : Ledger × Holdings) : Prop := a.Backed t.1 t.2

/-- What leaves all records but one as they were can be done with one record after the other. -/
theorem forEach_calls {f : Record → Operation β} {rs : List Record} (hs : a.Backed l held)
    (hrs : ∀ r ∈ rs, l.find r.id = some r) (hids : (rs.map (·.id)).Nodup)
    (hf : ∀ r l held, a.Backed l held → l.find r.id = some r →
      (f r).Meets (a.calls trouble a.Backed) (Leaves a l r) (l, held)) :
    (forEach f rs).Meets (a.calls trouble a.Backed) (Backs a) (l, held) := by
  induction rs generalizing l held with
  | nil => exact hs
  | cons r rs ih =>
    rw [List.map_cons, List.nodup_cons] at hids
    refine (hf r l held hs (hrs r (by simp))).bind (fun b t ht => ?_) fun _ _ ht => ht.1
    obtain ⟨ht, hsame⟩ := ht
    refine (ih ht (fun q hq => ?_) hids.2).bind (fun _ _ ht => ht) fun _ _ ht => ht
    have hne : q.id ≠ r.id := fun h => hids.1 (h ▸ List.mem_map_of_mem hq)
    rw [hsame q.id hne]
    exact hrs q (by simp [hq])

theorem knows_of_ne {q : Service.Request} (h : ∀ call, q ≠ .agency .doi call) : a.Knows q := by
  cases q with
  | agency scheme call =>
    cases scheme with
    | doi => exact absurd rfl (h call)
    | dark => cases call <;> trivial
  | _ => trivial

theorem meets_aside {q : Service.Request} {f : Service.Reply q → Operation β}
    {Q : Except RegistrarError β → Ledger × Holdings → Prop} (hs : a.Backed l held)
    (hstore : ∀ call, q ≠ .store call) (hdoi : ∀ call, q ≠ .agency .doi call)
    (h : ∀ x, a.Fits q x → (f x).Meets (a.calls trouble a.Backed) Q (l, held)) :
    (request q >>= f).Meets (a.calls trouble a.Backed) Q (l, held) := by
  refine ⟨⟨hs, knows_of_ne hdoi⟩, fun x t hx => ?_⟩
  cases hx with
  | service _ hx hfits =>
    rcases hx with hx | ⟨-, hfails⟩
    · obtain rfl := hx.other hstore
      exact h x hfits
    · obtain rfl := Ledger.table_injective hfails.same
      exact h x hfits
  | minted => exact absurd rfl (hdoi _)
  | changed _ _ => exact absurd rfl (hdoi _)
  | reserved _ _ => exact absurd rfl (hdoi _)
  | registered _ _ => exact absurd rfl (hdoi _)

theorem meets_consult {call : Store.Call} {f : call.Result → Operation β}
    {Q : Except RegistrarError β → Ledger × Holdings → Prop} {y : call.Result} (hs : a.Backed l held)
    (hy : l.read? call = some y) (hok : (f y).Meets (a.calls trouble a.Backed) Q (l, held))
    (herror : ∀ e, trouble → Q (.error (.store e)) (l, held)) :
    (store call >>= f).Meets (a.calls trouble a.Backed) Q (l, held) := by
  refine ⟨⟨hs, trivial⟩, fun x t hx => ?_⟩
  cases hx with
  | service _ hx _ =>
    rcases hx with hx | ⟨ht, ⟨e, rfl⟩, hsame⟩
    · obtain ⟨rfl, rfl⟩ := hx.store.of_read? hy
      exact hok
    · obtain rfl := Ledger.table_injective hsame
      exact herror e ht

theorem meets_add {f : Except StoreError Unit → Operation β}
    {Q : Except RegistrarError β → Ledger × Holdings → Prop} (hs : a.Backed l held)
    (hr : r.status = .minted) (hplain : ∀ name, r.value.doiName? = some name → a.Plain name)
    (hok : ∀ m, a.Backed m held → (f (.ok ())).Meets (a.calls trouble a.Backed) Q (m, held))
    (herror : ∀ e, (f (.error e)).Meets (a.calls trouble a.Backed) Q (l, held)) :
    (request (.store (.insert r)) >>= f).Meets (a.calls trouble a.Backed) Q (l, held) := by
  refine ⟨⟨hs, trivial⟩, fun x t hx => ?_⟩
  cases hx with
  | service _ hx _ =>
    rcases hx with hx | ⟨-, ⟨e, rfl⟩, hsame⟩
    · cases hx.store with
      | inserted hm => exact hok _ (hs.added hm hr hplain)
      | notInserted _ => exact herror _
    · obtain rfl := Ledger.table_injective hsame
      exact herror e

/-- An operation on one record that is loaded first. -/
theorem load_calls {id : RecordId} {f : Record → Operation β} (hs : a.Backed l held)
    (hsome : ∀ r, l.find r.id = some r → r.id = id →
      (load r.id >>= f).Meets (a.calls trouble a.Backed) (Leaves a l r) (l, held)) :
    (load id >>= f).Meets (a.calls trouble a.Backed) (Backs a) (l, held) := by
  cases hr : l.find id with
  | some r =>
    obtain rfl := Ledger.id_of_find hr
    exact (hsome r hr rfl).mono fun _ _ h => h.1
  | none =>
    rw [load, Program.bind_assoc]
    refine meets_consult hs rfl ?_ fun _ _ => hs
    rw [hr]
    exact hs

theorem execute_calls (id : RecordId) (action : Action) (hs : a.Backed l held) :
    (g.execute id action).Meets (a.calls trouble a.Backed) (Backs a) (l, held) := by
  refine load_calls hs fun r hr _ => record_calls hs hr fun h => ?_
  have hexecute := execute_solo (g := g) (outside_carries trouble) action (l.whole_of_find hr) h
    fun steps hplan s hstage _ hst => stands_plan h hplan hstage.value hst
  exact hexecute.mono fun x u hu => hu.kept

theorem hold_calls (id : RecordId) (hs : a.Backed l held) :
    (hold id).Meets (a.calls trouble a.Backed) (Backs a) (l, held) := by
  refine load_calls hs fun r hr _ => record_calls hs hr fun h => ?_
  refine hold_solo (l.whole_of_find hr) h fun htarget t hd => ?_
  have hbacks := h hd
  cases hst : r.status <;> simp [hst, Status.targets] at htarget
  rw [hst] at hbacks
  exact hbacks

theorem release_calls (resource : ResourceId) (hs : a.Backed l held) :
    (g.release resource).Meets (a.calls trouble a.Backed) (Backs a) (l, held) := by
  refine meets_consult hs rfl ?_ fun _ _ => hs
  exact forEach_calls hs (fun r hr => Ledger.find_of_mem (l.mem_boundTo.1 hr).1)
    (l.boundTo_ids_nodup resource) fun r l held hs hr => releaseRecord_calls hs hr

theorem sweep_calls (hs : a.Backed l held) :
    g.sweep.Meets (a.calls trouble a.Backed) (Backs a) (l, held) := by
  refine meets_consult hs rfl ?_ fun _ _ => hs
  refine (forEach_calls hs (fun r hr => Ledger.find_of_mem (l.mem_retryable.1 hr).1)
    (l.retryable_ids_nodup (by decide)) fun r l held hs hr => ?_).bind (fun _ _ h => h) fun _ _ h => h
  exact Program.meets_attempt.2 ((drive_calls hs hr).mono fun _ _ h => h)

theorem identifiersFor_calls (resource : ResourceId) (hs : a.Backed l held) :
    (identifiersFor resource).Meets (a.calls trouble a.Backed) (Backs a) (l, held) :=
  meets_consult hs rfl hs fun _ _ => hs

theorem resolve_calls (text : String) (hs : a.Backed l held) :
    (resolve text).Meets (a.calls trouble a.Backed) (Backs a) (l, held) := by
  unfold resolve
  split
  · exact hs
  · rename_i value _
    refine meets_consult hs rfl ?_ fun _ _ => hs
    cases l.records.find? (·.value = value) <;> exact hs

/-- The value that a connector mints has a name that stands in addresses as it is. -/
theorem meets_mint {scheme : Scheme} {id : RecordId}
    {f : Except AgencyError IdentifierValue → Operation β} (hs : a.Backed l held)
    (hid : a.Plain (a.nameFor id))
    (h : ∀ x, (∀ v name, x = .ok v → v.doiName? = some name → a.Plain name) →
      (f x).Meets (a.calls trouble a.Backed) (Backs a) (l, held)) :
    (agency scheme (.mint id) >>= f).Meets (a.calls trouble a.Backed) (Backs a) (l, held) := by
  cases scheme with
  | dark =>
    refine meets_aside hs (by simp) (by simp) fun x hfits => h x fun v name hx hname => ?_
    have hdark : v.scheme = .dark := hfits v hx
    have hdoi := (IdentifierValue.doiName?_eq_some_iff.1 hname).1
    rw [hdark] at hdoi
    cases hdoi
  | doi =>
    refine ⟨⟨hs, hid⟩, fun x t hx => ?_⟩
    cases hx with
    | service hq _ _ => exact absurd rfl (hq _)
    | minted =>
      refine h _ fun v name hx hname => ?_
      cases hv : (Minter.doi a.registrant a.separator).mint id with
      | error e => simp [hv, Except.mapError] at hx
      | ok v' =>
        rw [hv] at hx
        obtain rfl := Except.ok.inj hx
        have hminted := IdentifierValue.doiName?_of_ofDoiName hv
        rwa [← Option.some.inj (hminted.symm.trans hname)]

theorem mintNew_calls (resource : Resource) (scheme : Scheme) (wanted : ResourceId)
    (hs : a.Backed l held) :
    (g.mintNew resource scheme wanted).Meets (a.calls trouble a.Backed) (Backs a) (l, held) := by
  unfold mintNew requireConnector
  split
  · simp only [Program.pure_eq, Program.done_bind]
    refine meets_aside hs (by simp) (by simp) fun id hid => meets_mint hs hid fun x hx => ?_
    cases x with
    | error e => exact hs
    | ok value =>
      refine meets_aside hs (by simp) (by simp) fun t _ => ?_
      have hplain (name : String) (hname : value.doiName? = some name) : a.Plain name :=
        hx value name rfl hname
      refine meets_add hs rfl hplain (fun m hm => hm) fun e => ?_
      cases e with
      | liveRecordExists _ _ =>
        refine meets_consult hs rfl ?_ fun _ _ => hs
        cases (l.liveOf wanted scheme).head? <;> exact hs
      | _ => exact hs
  · exact hs

theorem mint_calls (resource : ResourceId) (scheme : Scheme) (hs : a.Backed l held) :
    (g.mint resource scheme).Meets (a.calls trouble a.Backed) (Backs a) (l, held) := by
  refine meets_consult hs rfl ?_ fun _ _ => hs
  cases (l.liveOf resource scheme).head? with
  | some r => exact hs
  | none =>
    refine meets_aside hs (by simp) (by simp) fun x _ => ?_
    rcases x with e | (_ | found)
    · exact hs
    · exact hs
    · exact mintNew_calls found scheme resource hs

/-- The true report on a DOI record: a draft is reserved, and what is public is registered. -/
def remoteState (r : Record) (h : Holding) : RemoteState :=
  ⟨r.id, r.value, r.status, h == .draft, h == .registered || h == .findable⟩

/-- What reconciling a DOI record comes to: the true report, which finds it backed, or an error. -/
inductive Reconciled (trouble : Prop) (r : Record) (h : Holding) :
    Except RegistrarError RemoteState → Prop
  | told (hbacked : (remoteState r h).isConsistent = true) :
    Reconciled trouble r h (.ok (remoteState r h))
  | failed {e : RegistrarError} (ht : trouble) : Reconciled trouble r h (.error e)

/-- The two answers tell whether a status that is confirmed is backed. -/
theorem isConsistent_of_backs {r : Record} {h : Holding} (hs : r.status.Backs h) :
    (remoteState r h).isConsistent = true := by
  unfold RemoteState.isConsistent remoteState
  cases hst : r.status <;> rw [hst] at hs <;> simp [Status.Backs] at hs <;> simp [hs]

section Questions

variable {v : IdentifierValue} {name : String} {f : Bool → Operation β}
  {Q : Except RegistrarError β → Ledger × Holdings → Prop}

/-- A question to the agency, which is answered or fails. -/
theorem meets_question {call : Agency.Call} {y : call.Result} {f : call.Result → Operation β}
    (hs : a.Backed l held) (hknows : a.Knows (.agency .doi call))
    (hcall : ∀ {x t}, a.Deals trouble (l, held) (.agency .doi call) x t →
      Inquired trouble y x ∧ t = (l, held))
    (hok : (f y).Meets (a.calls trouble a.Backed) Q (l, held))
    (herror : ∀ e, trouble → Q (.error e) (l, held)) :
    (question .doi call >>= f).Meets (a.calls trouble a.Backed) Q (l, held) := by
  refine ⟨⟨hs, hknows⟩, fun x t hx => ?_⟩
  obtain ⟨hanswer, rfl⟩ := hcall hx
  cases hanswer with
  | told => exact hok
  | refused ht => exact herror _ ht

theorem meets_isReserved (hs : a.Backed l held) (hname : v.doiName? = some name)
    (hplain : a.Plain name)
    (hok : (f (held name == .draft)).Meets (a.calls trouble a.Backed) Q (l, held))
    (herror : ∀ e, trouble → Q (.error e) (l, held)) :
    (question .doi (.isReserved v) >>= f).Meets (a.calls trouble a.Backed) Q (l, held) := by
  refine meets_question hs ⟨name, hname, hplain⟩ (fun hx => ?_) hok herror
  cases hx with
  | service hq _ _ => exact absurd rfl (hq _)
  | reserved hname' hx =>
    obtain rfl := Option.some.inj (hname'.symm.trans hname)
    exact ⟨hx, rfl⟩

theorem meets_isRegistered (hs : a.Backed l held) (hname : v.doiName? = some name)
    (hplain : a.Plain name)
    (hok : (f (held name == .registered || held name == .findable)).Meets (a.calls trouble a.Backed) Q
      (l, held))
    (herror : ∀ e, trouble → Q (.error e) (l, held)) :
    (question .doi (.isRegistered v) >>= f).Meets (a.calls trouble a.Backed) Q (l, held) := by
  refine meets_question hs ⟨name, hname, hplain⟩ (fun hx => ?_) hok herror
  cases hx with
  | service hq _ _ => exact absurd rfl (hq _)
  | registered hname' hx =>
    obtain rfl := Option.some.inj (hname'.symm.trans hname)
    exact ⟨hx, rfl⟩

end Questions

/-- Reconciling a DOI record finds it backed, if its queries are answered. -/
theorem reconcile_calls {name : String} (hs : a.Backed l held) (hr : l.find r.id = some r)
    (hdoi : r.scheme = .doi) (hname : r.value.doiName? = some name) (hg : g.connected .doi) :
    (g.reconcile r.id).Meets (a.calls trouble a.Backed)
      (fun x t => t = (l, held) ∧ Reconciled trouble r (held name) x) (l, held) := by
  have hplain := hs.plain r.id r name hr hname
  unfold reconcile
  rw [load, Program.bind_assoc]
  refine meets_consult hs rfl ?_ fun e ht => ⟨rfl, .failed ht⟩
  rw [hr]
  simp only [Program.pure_eq, Program.done_bind, hdoi, requireConnector, hg, if_true]
  refine meets_isReserved hs hname hplain ?_ fun e ht => ⟨rfl, .failed ht⟩
  refine meets_isRegistered hs hname hplain ?_ fun e ht => ⟨rfl, .failed ht⟩
  exact ⟨rfl, .told (isConsistent_of_backs (hs.backs r.id r name hr hname))⟩

theorem question_aside {call : Agency.Call} {f : call.Result → Operation β} (hs : a.Backed l held)
    (hf : ∀ y, (f y).Meets (a.calls trouble a.Backed) (Backs a) (l, held)) :
    (question .dark call >>= f).Meets (a.calls trouble a.Backed) (Backs a) (l, held) := by
  unfold question
  rw [Program.bind_assoc]
  refine meets_aside hs (by simp) (by simp) fun x _ => ?_
  cases x with
  | ok y => exact hf y
  | error e => exact hs

/-- Reconciling leaves everything as it is, whatever the record. -/
theorem reconcile_backs (id : RecordId) (hs : a.Backed l held) :
    (g.reconcile id).Meets (a.calls trouble a.Backed) (Backs a) (l, held) := by
  unfold reconcile
  rw [load, Program.bind_assoc]
  refine meets_consult hs rfl ?_ fun _ _ => hs
  cases hr : l.find id with
  | none => exact hs
  | some r =>
    obtain rfl := Ledger.id_of_find hr
    simp only [Program.pure_eq, Program.done_bind, requireConnector]
    split
    · simp only [Program.done_bind]
      cases hscheme : r.scheme with
      | dark => exact question_aside hs fun _ => question_aside hs fun _ => hs
      | doi =>
        obtain ⟨name, hname⟩ := IdentifierValue.exists_doiName hscheme
        have hplain := hs.plain r.id r name hr hname
        exact meets_isReserved hs hname hplain (meets_isRegistered hs hname hplain hs fun _ _ => hs)
          fun _ _ => hs
    · exact hs

end Registrar

/-- Every operation keeps every DOI record backed. -/
theorem Errand.backed_calls {a : Wiring} {trouble : Prop} {l : Ledger} {held : Holdings}
    (g : Registrar) (e : Errand) (hs : a.Backed l held) :
    (e.operation g).Meets (a.calls trouble a.Backed) (Registrar.Backs a) (l, held) := by
  have hreport {α : Type} {p : Operation α} (f : α → Report)
      (hp : p.Meets (a.calls trouble a.Backed) (Registrar.Backs a) (l, held)) :
      (p >>= fun y => pure (f y)).Meets (a.calls trouble a.Backed) (Registrar.Backs a) (l, held) :=
    hp.bind (fun _ _ h => h) fun _ _ h => h
  cases e with
  | mint resource scheme => exact hreport .record (Registrar.mint_calls resource scheme hs)
  | hold id => exact hreport .record (Registrar.hold_calls id hs)
  | execute id action => exact hreport .outcome (Registrar.execute_calls id action hs)
  | release resource => exact hreport .outcomes (Registrar.release_calls resource hs)
  | sweep => exact hreport .stats (Registrar.sweep_calls hs)
  | reconcile id => exact hreport .remote (Registrar.reconcile_backs id hs)
  | identifiersFor resource => exact hreport .summaries (Registrar.identifiersFor_calls resource hs)
  | resolve text => exact hreport .resolution (Registrar.resolve_calls text hs)

end IdentifierRegistrar
