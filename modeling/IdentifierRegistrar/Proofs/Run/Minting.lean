import IdentifierRegistrar.Proofs.Operation.Minting
import IdentifierRegistrar.Proofs.Run.Standing
import IdentifierRegistrar.Proofs.Run.Sweeping

/-! Mints that run into each other. Until somebody inserts a record of the scheme for the resource
nothing stands for it (`vacant`); from then on that record does (`occupied`), so nobody inserts another
(`claims_unique`) and whoever looks for one finds it (`claims_of_found`). All mints that end well end with
that record, and those that end badly have changed nothing (`mints_agree`). -/

namespace IdentifierRegistrar

open Service Operation

theorem Status.eq_of_deleted_mem_targets {s : Status} (h : deleted ∈ s.targets) : s = toBeDeleted := by
  cases s <;> simp [targets] at h ⊢

/-- A later state of a new record, or a copy of one: still bound and not on the way to deletion. -/
structure Record.Lives (w c : Record) : Prop where
  id : c.id = w.id
  value : c.value = w.value
  resource : c.resource = w.resource
  undeleted : c.status ≠ .toBeDeleted ∧ c.status ≠ .deleted

namespace Record

variable {w c d s : Record}

structure Keeps (c d : Record) : Prop where
  revision : c.Revision d
  resource : d.resource = c.resource
  deletion : d.status = .toBeDeleted → c.status = .toBeDeleted

theorem Keeps.deleted (h : c.Keeps d) (hc : c.status = .deleted) : d.status = .deleted := by
  rcases h.revision.status with hsame | hmem
  · exact hsame.trans hc
  · rw [hc] at hmem
    cases hmem

theorem Lives.of_fresh (h : w.Fresh) : w.Lives w := ⟨rfl, rfl, rfl, by simp [h.status]⟩

theorem Lives.stored (h : w.Lives c) : w.Lives c.stored := ⟨h.id, h.value, h.resource, h.undeleted⟩

theorem Lives.next (h : w.Lives c) : w.Lives c.next := ⟨h.id, h.value, h.resource, h.undeleted⟩

theorem Lives.revise (h : w.Lives c) (hd : c.Keeps d) : w.Lives d where
  id := hd.revision.id.trans h.id
  value := hd.revision.value.trans h.value
  resource := hd.resource.trans h.resource
  undeleted := by
    constructor
    · intro hs
      exact h.undeleted.1 (hd.deletion hs)
    · intro hs
      rcases hd.revision.status with hsame | hmem
      · exact h.undeleted.2 (hsame.symm.trans hs)
      · rw [hs] at hmem
        exact h.undeleted.1 (Status.eq_of_deleted_mem_targets hmem)

theorem Lives.overwrite (hs : w.Lives s) (hd : w.Lives d) (hw : w.resource.isSome) :
    w.Lives (s.overwrite d) where
  id := hs.id
  value := hs.value
  resource := by
    have hbound : d.isOrphaned = false := by
      rw [Record.isOrphaned, hd.resource]
      simpa using hw
    simp [Record.overwrite, hbound, hs.resource]
  undeleted := hd.undeleted

end Record

theorem Except.map_record_injective {y z : Except RegistrarError Record}
    (h : y.map Report.record = z.map Report.record) : y = z := by
  cases y <;> cases z <;> cases h <;> rfl

namespace Stretch

variable {g : Registrar} (x : Stretch g)

def Directed : Prop := ∀ t i q y, x.event t = .answer i ⟨q, y⟩ → Directs q y

/-- Mints begin while nothing stands for the resource. Other operations may run meanwhile, but
deletions may not, and the others only where each id is spelled as the registrar spells it: two rows
may else pass for one record. -/
structure Uncontested (resource : ResourceId) (scheme : Scheme) : Prop where
  kept : (x.moment 0).table.Kept
  vacant : (x.moment 0).table.findLive? resource scheme = .ok none
  company : ∀ t e, x.event t = .start e → e.mints ∨ ¬ e.licence.deletes ∧ x.Spelled
  directed : x.Directed
  issued : ∀ t i q y, x.event t = .answer i ⟨q, y⟩ → Issues q y

structure Claims (resource : ResourceId) (scheme : Scheme) (t : Nat) (w : Record) : Prop where
  answered : ∃ i, x.event t = .answer i ⟨.store (.insert w), .ok ()⟩
  resource : w.resource = some resource
  scheme : w.scheme = scheme

def Adds (resource : ResourceId) (scheme : Scheme) (t : Nat) (row : Row) : Prop :=
  (x.moment (t + 1)).table = (x.moment t).table ++ [row] ∧ row.isFor resource scheme = true

def Mints (resource : ResourceId) (scheme : Scheme) (t i : Nat) (y : Except RegistrarError Record) : Prop :=
  ∃ p, (x.moment t).ongoing[i]? = some p ∧ p.errand = .mint resource scheme ∧
    p.ends? = some (y.map .record)

/-- Nothing stands for the resource, nor does anybody know of something that did. -/
structure Vacant (resource : ResourceId) (scheme : Scheme) (t : Nat) : Prop where
  rows : ∀ row ∈ (x.moment t).table, row.holds resource scheme = false
  copies : x.Spelled → ∀ row ∈ (x.moment t).table, row.isFor resource scheme = true →
    ∀ c, x.Handed t c → row.hasId c.id = true → c.status = .deleted

structure Occupied (w : Record) (t : Nat) : Prop where
  row : ∃ s, Row.ofRecord s ∈ (x.moment t).table ∧ w.Lives s
  copies : x.Spelled → ∀ c, x.Handed t c → c.id = w.id → w.Lives c

section Uncontested

variable {x} {resource : ResourceId} {scheme : Scheme} (h : x.Uncontested resource scheme)
include h

theorem mint_rest {t i : Nat} {p : Ongoing} {resource' : ResourceId} {scheme' : Scheme}
    (hp : (x.moment t).ongoing[i]? = some p) (he : p.errand = .mint resource' scheme') :
    p.rest.Meets (minting resource' scheme')
      (fun y past => ∃ z, y = z.map .record ∧ Minted resource' scheme' z past) p.past :=
  x.rest_meets_of (Errand.mint_meets g resource' scheme')
    (fun _ hev => ⟨rfl, h.directed _ _ _ _ hev, h.issued _ _ _ _ hev⟩) hp he

theorem minting_of_event {t i : Nat} {p : Ongoing} {q : Request} {y : Reply q} {resource' : ResourceId}
    {scheme' : Scheme} (hev : x.event t = .answer i ⟨q, y⟩) (hp : (x.moment t).ongoing[i]? = some p)
    (he : p.errand = .mint resource' scheme') : (minting resource' scheme').allows p.past q :=
  x.allows_of_answer hev hp (mint_rest h hp he)

theorem minted_of_ends {t i : Nat} {p : Ongoing} {y : Except RegistrarError Record}
    (hp : (x.moment t).ongoing[i]? = some p) (he : p.errand = .mint resource scheme)
    (hends : p.ends? = some (y.map .record)) : Minted resource scheme y p.past := by
  have hmeets := mint_rest h hp he
  unfold Ongoing.ends? at hends
  split at hends
  · rename_i a hrest
    rw [hrest] at hmeets
    obtain ⟨z, hz, hminted⟩ := hmeets
    obtain rfl := Except.map_record_injective ((Option.some.inj hends).symm.trans hz)
    exact hminted
  · rename_i e hrest
    rw [hrest] at hmeets
    obtain ⟨z, hz, hminted⟩ := hmeets
    obtain rfl := Except.map_record_injective ((Option.some.inj hends).symm.trans hz)
    exact hminted
  · cases hends

/-- Only other operations write over rows, and they keep what they write. -/
theorem keeps_of_updated {t i : Nat} {d d' : Record}
    (hev : x.event t = .answer i ⟨.store (.update d), .ok d'⟩) :
    x.Spelled ∧ ∃ c, x.Handed t c ∧ c.Keeps d := by
  obtain ⟨p, hp, -, c, hc, hd, hpermits, -⟩ := x.licensed_of_answer hev
  obtain ⟨u, hstart⟩ := x.started hp
  rcases h.company u _ hstart with hmints | ⟨hdeletes, hspelled⟩
  · cases he : p.errand with
    | mint resource' scheme' => exact (minting_of_event h hev hp he).elim
    | _ =>
      rw [he] at hmints
      exact hmints.elim
  · refine ⟨hspelled, c, ⟨i, p, hp, hc⟩, hd, ?_, fun hs => (hpermits.deletion hs).resolve_right hdeletes⟩
    exact hpermits.binding.resolve_right fun hunbinds => hdeletes (Errand.deletes_of_unbinds hunbinds)

namespace Vacant

theorem updated {t i : Nat} {d d' : Record} {row : Row} (hv : x.Vacant resource scheme t)
    (hev : x.event t = .answer i ⟨.store (.update d), .ok d'⟩) (hrow : row ∈ (x.moment t).table)
    (hfor : row.isFor resource scheme = true) (hid : row.hasId d.id = true) : d.status = .deleted := by
  obtain ⟨hspelled, c, hc, hkeeps⟩ := keeps_of_updated h hev
  exact hkeeps.deleted (hv.copies hspelled row hrow hfor c hc (hkeeps.revision.id ▸ hid))

theorem succ {t : Nat} (hv : x.Vacant resource scheme t) (hno : ∀ w, ¬ x.Claims resource scheme t w) :
    x.Vacant resource scheme (t + 1) where
  rows row hrow := by
    rcases row_origin h.kept hrow with hrow | ⟨i, r, hev, rfl⟩ | ⟨i, d, hev, row₀, hrow₀, hid, rfl⟩
    · exact hv.rows row hrow
    · rw [Row.holds_ofRecord, decide_eq_false_iff_not]
      exact fun ⟨hresource, hscheme, _⟩ => hno r ⟨⟨i, hev⟩, hresource, hscheme⟩
    · rw [Row.holds, Bool.and_eq_false_iff, or_iff_not_imp_left, Bool.not_eq_false]
      intro hfor
      simp [Row.isLive_updateFrom, hv.updated h hev hrow₀ (Row.isFor_of_updateFrom hfor) hid]
  copies hspelled row hrow hfor c hc hid := by
    -- The row was for the resource before.
    have hbefore : ∃ row₀ ∈ (x.moment t).table, row₀.isFor resource scheme = true ∧
        row₀.hasId c.id = true := by
      rcases row_origin h.kept hrow with hrow | ⟨i, r, hev, rfl⟩ | ⟨i, d, hev, row₀, hrow₀, -, rfl⟩
      · exact ⟨row, hrow, hfor, hid⟩
      · rw [Row.isFor_ofRecord, decide_eq_true_iff] at hfor
        exact absurd ⟨⟨i, hev⟩, hfor.1, hfor.2⟩ (hno r)
      · exact ⟨row₀, hrow₀, Row.isFor_of_updateFrom hfor, hid⟩
    obtain ⟨row₀, hrow₀, hfor₀, hid₀⟩ := hbefore
    rcases handed_succ h.kept hc with hc | ⟨-, row', hrow', hrecord⟩ | ⟨i, d, hev, rfl⟩
    · exact hv.copies hspelled row₀ hrow₀ hfor₀ c hc hid₀
    · have hid' := (canonical h.kept hspelled t row' hrow').hasId hrecord
      obtain rfl := (x.kept h.kept t).sound.eq_of_hasId hrow₀ hrow' hid₀ hid'
      exact Row.status_of_not_holds hrecord hfor₀ (hv.rows row₀ hrow₀)
    · exact show d.status = .deleted from hv.updated h hev hrow₀ hfor₀ hid₀

end Vacant

/-- Nothing stands for the resource until a record is inserted. -/
theorem vacant {t : Nat} (hno : ∀ u < t, ∀ w, ¬ x.Claims resource scheme u w) :
    x.Vacant resource scheme t := by
  induction t with
  | zero =>
    exact ⟨Table.not_holds_of_findLive? h.vacant, fun _ _ _ _ c hc => absurd hc (x.not_handed_zero c)⟩
  | succ t ih => exact (ih fun u hu => hno u (by omega)).succ h (hno t (by omega))

namespace Occupied

variable {w : Record}

/-- A new record is known to nobody. -/
theorem of_claims {t : Nat} (hw : x.Claims resource scheme t w) : x.Occupied w (t + 1) := by
  obtain ⟨⟨i, hev⟩, -, -⟩ := hw
  obtain ⟨p, -, -, hfresh⟩ := x.licensed_of_answer hev
  obtain ⟨htable, hfits⟩ := inserted h.kept hev
  refine ⟨⟨w, by simp [htable], .of_fresh hfresh⟩, ?_⟩
  intro hspelled c hc hid
  rcases handed_succ h.kept hc with hc | ⟨hsame, -⟩ | ⟨j, d, hev', -⟩
  · obtain ⟨row, hrow, hrowid⟩ := hasId_of_handed h.kept hspelled hc
    refine absurd (Row.clashes_of_hasId ?_ hrowid) (hfits row hrow)
    rw [Row.hasId_ofRecord, hid, decide_eq_true rfl]
  · rw [hsame] at htable
    simp at htable
  · rw [hev] at hev'
    cases hev'

theorem updated {t i : Nat} {d d' : Record} (ho : x.Occupied w t)
    (hev : x.event t = .answer i ⟨.store (.update d), .ok d'⟩) (hid : d.id = w.id) : w.Lives d := by
  obtain ⟨hspelled, c, hc, hkeeps⟩ := keeps_of_updated h hev
  exact (ho.copies hspelled c hc (hkeeps.revision.id.symm.trans hid)).revise hkeeps

theorem succ {t : Nat} (hw : w.resource.isSome) (ho : x.Occupied w t) : x.Occupied w (t + 1) := by
  obtain ⟨s, hs, hlives⟩ := ho.row
  constructor
  · rcases row_forward h.kept hs with hs | ⟨i, d, hev, hid, hrow⟩
    · exact ⟨s, hs, hlives⟩
    · rw [Row.hasId_ofRecord, decide_eq_true_iff] at hid
      rw [Row.updateFrom_ofRecord] at hrow
      exact ⟨_, hrow, hlives.overwrite (ho.updated h hev (hid.symm.trans hlives.id)) hw⟩
  · intro hspelled c hc hid
    rcases handed_succ h.kept hc with hc | ⟨-, row, hrow, hrecord⟩ | ⟨i, d, hev, rfl⟩
    · exact ho.copies hspelled c hc hid
    · have hrowid := (canonical h.kept hspelled t row hrow).hasId hrecord
      have hsid : (Row.ofRecord s).hasId c.id = true := by
        rw [Row.hasId_ofRecord, hid, hlives.id, decide_eq_true rfl]
      obtain rfl := (x.kept h.kept t).sound.eq_of_hasId hs hrow hsid hrowid
      rw [Row.record_ofRecord] at hrecord
      obtain rfl := Except.ok.inj hrecord
      exact hlives.stored
    · exact (ho.updated h hev hid).next

end Occupied

/-- A record that was inserted stands ever after. -/
theorem occupied {u t : Nat} {w : Record} (hw : x.Claims resource scheme u w) (hut : u < t) :
    x.Occupied w t := by
  induction hut with
  | refl => exact .of_claims h hw
  | step _ ih => exact ih.succ h (by simp [hw.resource])

/-- So there is one row for the resource. -/
theorem holds_of_claims {u t : Nat} {w : Record} (hw : x.Claims resource scheme u w) (hut : u < t) :
    ∃ s, Row.ofRecord s ∈ (x.moment t).table ∧ w.Lives s ∧
      (Row.ofRecord s).holds resource scheme = true := by
  obtain ⟨s, hs, hlives⟩ := (occupied h hw hut).row
  refine ⟨s, hs, hlives, ?_⟩
  rw [Row.holds_ofRecord, decide_eq_true_iff]
  refine ⟨hlives.resource.trans hw.resource, ?_, hlives.undeleted.2⟩
  rw [Record.scheme, hlives.value]
  exact hw.scheme

/-- Of two that are inserted, the later would clash with the earlier. -/
theorem not_claims_later {u u' : Nat} {w w' : Record} (hw : x.Claims resource scheme u w)
    (hlt : u < u') : ¬ x.Claims resource scheme u' w' := by
  intro hw'
  obtain ⟨s, hs, -, hholds⟩ := holds_of_claims h hw hlt
  obtain ⟨⟨i, hev⟩, hresource, hscheme⟩ := hw'
  obtain ⟨p, -, -, hfresh⟩ := x.licensed_of_answer hev
  have hholds' : (Row.ofRecord w').holds resource scheme = true := by
    rw [Row.holds_ofRecord, decide_eq_true_iff]
    exact ⟨hresource, hscheme, by simp [hfresh.status]⟩
  exact (inserted h.kept hev).2 _ hs (Row.clashes_of_holds hholds' hholds)

theorem claims_unique {u u' : Nat} {w w' : Record} (hw : x.Claims resource scheme u w)
    (hw' : x.Claims resource scheme u' w') : u = u' ∧ w = w' := by
  rcases Nat.lt_trichotomy u u' with hlt | rfl | hlt
  · exact absurd hw' (not_claims_later h hw hlt)
  · obtain ⟨⟨i, hev⟩, -, -⟩ := hw
    obtain ⟨⟨i', hev'⟩, -, -⟩ := hw'
    rw [hev] at hev'
    cases hev'
    exact ⟨rfl, rfl⟩
  · exact absurd hw (not_claims_later h hw' hlt)

/-- What is found for the resource is what was inserted. -/
theorem claims_of_found {t i : Nat} {r : Record}
    (hev : x.event t = .answer i ⟨.store (.findLive resource scheme), .ok (some r)⟩) :
    ∃ u < t, ∃ w, x.Claims resource scheme u w ∧ w.Lives r := by
  have hfind : (x.moment t).table.findLive? resource scheme = .ok (some r) := by
    rcases (x.asked hev).2 with hr | ⟨⟨e, he⟩, -⟩
    · exact (Prod.mk.inj hr).1
    · cases he
  obtain ⟨row, hrow, hholds, hrecord⟩ := Table.exists_row_of_findLive? hfind
  by_cases hclaimed : ∃ u < t, ∃ w, x.Claims resource scheme u w
  · obtain ⟨u, hut, w, hw⟩ := hclaimed
    obtain ⟨s, hs, hlives, hsholds⟩ := holds_of_claims h hw hut
    obtain rfl := (x.kept h.kept t).sound.eq_of_holds hrow hs hholds hsholds
    rw [Row.record_ofRecord] at hrecord
    obtain rfl := Except.ok.inj hrecord
    exact ⟨u, hut, w, hw, hlives.stored⟩
  · have hnone := (vacant h fun u hu w hw => hclaimed ⟨u, hu, w, hw⟩).rows row hrow
    rw [hholds] at hnone
    cases hnone

/-- A mint that ends well ends with what was inserted. -/
theorem claims_of_mints {t i : Nat} {r : Record} (hr : x.Mints resource scheme t i (.ok r)) :
    ∃ u < t, ∃ w, x.Claims resource scheme u w ∧ w.Lives r := by
  obtain ⟨p, hp, he, hends⟩ := hr
  rcases minted_of_ends h hp he hends with hfound | hinserted
  · obtain ⟨pre, post, hpast⟩ := List.append_of_mem hfound
    obtain ⟨v, hvt, hev, -⟩ := x.answered hp hpast
    obtain ⟨u, huv, hw⟩ := claims_of_found h hev
    exact ⟨u, by omega, hw⟩
  · obtain ⟨pre, post, hpast⟩ := List.append_of_mem hinserted
    obtain ⟨u, hut, hev, p₀, hp₀, -⟩ := x.answered hp hpast
    have he₀ := (x.errand_eq (Nat.le_of_lt hut) hp₀ hp).trans he
    obtain ⟨hresource, hscheme, -⟩ := minting_of_event h hev hp₀ he₀
    obtain ⟨_, -, -, hfresh⟩ := x.licensed_of_answer hev
    exact ⟨u, hut, r, ⟨⟨i, hev⟩, hresource, hscheme⟩, .of_fresh hfresh⟩

/-- A mint that ends badly has changed nothing. -/
theorem unchanged_of_mints {t i u : Nat} {e : RegistrarError}
    (he : x.Mints resource scheme t i (.error e)) (hut : u < t) (hactor : (x.event u).actor? = some i) :
    (x.moment (u + 1)).table = (x.moment u).table := by
  obtain ⟨p, hp, herrand, hends⟩ := he
  rcases x.table_succ u with hsame | ⟨j, r, hev⟩ | ⟨j, d, d', hev⟩
  · exact hsame
  · rw [hev] at hactor
    obtain rfl := Option.some.inj hactor
    exact absurd trivial (minted_of_ends h hp herrand hends _ (x.answer_mem_past hev hut hp))
  · rw [hev] at hactor
    obtain rfl := Option.some.inj hactor
    obtain ⟨⟨p₀, -, hp₀, -⟩, -⟩ := x.asked hev
    have herrand₀ := (x.errand_eq (Nat.le_of_lt hut) hp₀ hp).trans herrand
    exact (minting_of_event h hev hp₀ herrand₀).elim

theorem adds_of_claims {u : Nat} {w : Record} (hw : x.Claims resource scheme u w) :
    x.Adds resource scheme u (Row.ofRecord w) := by
  obtain ⟨⟨i, hev⟩, hresource, hscheme⟩ := hw
  refine ⟨(inserted h.kept hev).1, ?_⟩
  rw [Row.isFor_ofRecord, decide_eq_true_iff]
  exact ⟨hresource, hscheme⟩

theorem claims_of_adds {u : Nat} {row : Row} (hadds : x.Adds resource scheme u row) :
    ∃ w, x.Claims resource scheme u w := by
  obtain ⟨htable, hfor⟩ := hadds
  rcases x.table_succ u with hsame | ⟨i, r, hev⟩ | ⟨i, d, d', hev⟩
  · simp [hsame] at htable
  · rw [(inserted h.kept hev).1, List.append_cancel_left_eq] at htable
    obtain rfl := (List.cons.inj htable).1
    rw [Row.isFor_ofRecord, decide_eq_true_iff] at hfor
    exact ⟨r, ⟨i, hev⟩, hfor.1, hfor.2⟩
  · obtain ⟨-, -, hmap⟩ := updated h.kept hev
    simpa using congrArg List.length (hmap.symm.trans htable)

/-- However mints of one scheme for one resource come in between each other, over a directory that keeps to
its contract (`Directs`): all that return a record return the same one, for which one row has been added, at
one time, and stands; and those that return an error have left the table as it was at each of their steps. -/
theorem mints_agree (t i : Nat) :
    (∀ r, x.Mints resource scheme t i (.ok r) →
      (∀ t' i' r', x.Mints resource scheme t' i' (.ok r') → r'.id = r.id ∧ r'.value = r.value) ∧
      (∃ u < t, ∃ w, x.Adds resource scheme u (Row.ofRecord w) ∧ w.id = r.id ∧ w.value = r.value ∧
        ∀ u' row, x.Adds resource scheme u' row → u' = u) ∧
      ∃ s, (x.moment t).table.filter (Row.holds resource scheme) = [Row.ofRecord s] ∧
        s.id = r.id ∧ s.value = r.value) ∧
    ∀ e, x.Mints resource scheme t i (.error e) → ∀ u < t, (x.event u).actor? = some i →
      (x.moment (u + 1)).table = (x.moment u).table := by
  constructor
  · intro r hr
    obtain ⟨u, hut, w, hw, hlives⟩ := claims_of_mints h hr
    refine ⟨?_, ⟨u, hut, w, adds_of_claims h hw, hlives.id.symm, hlives.value.symm, ?_⟩, ?_⟩
    · intro t' i' r' hr'
      obtain ⟨u', -, w', hw', hlives'⟩ := claims_of_mints h hr'
      obtain ⟨rfl, rfl⟩ := claims_unique h hw hw'
      exact ⟨hlives'.id.trans hlives.id.symm, hlives'.value.trans hlives.value.symm⟩
    · intro u' row hadds
      obtain ⟨w', hw'⟩ := claims_of_adds h hadds
      exact (claims_unique h hw' hw).1
    · obtain ⟨s, hs, hslives, hholds⟩ := holds_of_claims h hw hut
      exact ⟨s, (x.kept h.kept t).sound.filter_holds hs hholds, hslives.id.trans hlives.id.symm,
        hslives.value.trans hlives.value.symm⟩
  · intro e he u hut hactor
    exact unchanged_of_mints h he hut hactor

end Uncontested

end Stretch

section Racing

def soleValue : Scheme → IdentifierValue
  | .doi => ⟨.doi, "doi:10.1/x", by decide⟩
  | .dark => onlyValue

def fair : Surroundings Nat where
  lookup := obliging.lookup
  agency scheme call s := match call with
    | .mint _ => (.ok (soleValue scheme), s)
    | call => obliging.agency scheme call s
  freshId := obliging.freshId
  now := obliging.now

theorem fair_answers (q : Request) (s : Table × Nat) :
    Answers s.1 q (fair.answer q s).1 (fair.answer q s).2.1 := by
  cases q with
  | agency scheme call => cases call <;> rfl
  | _ => rfl

theorem fair_directed : Service.Directed fair.answer := by
  intro q s
  cases q with
  | lookup id => exact rfl
  | _ => trivial

theorem fair_issues (q : Request) (s : Table × Nat) : Issues q (fair.answer q s).1 := by
  cases q with
  | agency scheme call =>
    cases call with
    | mint id => cases scheme <;> rfl
    | _ => trivial
  | _ => trivial

def racing : List Command :=
  .start (.mint ⟨0⟩ .dark) :: .start (.mint ⟨0⟩ .dark) :: (List.replicate 9 [.go 0, .go 1]).flatten

def race : Stretch ⟨fun _ => true, .standard⟩ := (Run.ofSchedule _ fair_answers 0 racing).stretch

theorem race_uncontested : race.Uncontested ⟨0⟩ .dark where
  kept := ⟨.nil, fun _ hrow => absurd hrow List.not_mem_nil⟩
  vacant := by decide +kernel
  company t e hstart := by
    have hmem : .start e ∈ racing := Run.mem_of_starts fair_answers hstart
    have he : e = .mint ⟨0⟩ .dark := by simpa [racing] using hmem
    exact .inl (he ▸ trivial)
  directed t i q y hev := by
    obtain ⟨before, rfl⟩ := Run.reply_of_answers fair_answers hev
    exact fair_directed q before
  issued t i q y hev := by
    obtain ⟨before, rfl⟩ := Run.reply_of_answers fair_answers hev
    exact fair_issues q before

/-- The second is refused its own record, and returns that of the first. -/
theorem race_agrees : race.Uncontested ⟨0⟩ .dark ∧
    ∃ r r', race.Mints ⟨0⟩ .dark 20 0 (.ok r) ∧ race.Mints ⟨0⟩ .dark 20 1 (.ok r') ∧
      r'.id = r.id ∧ r'.value = r.value := by
  have hends : ∀ i < 2, ((race.moment 20).ongoing[i]?.map fun p => (p.errand, p.ends?)) =
      some (.mint ⟨0⟩ .dark, some (.ok (.record
        ⟨⟨0⟩, onlyValue, some ⟨0⟩, .item, .minted, none, 0, .epoch, .epoch⟩))) := by
    decide +kernel
  have hmints : ∀ i < 2, race.Mints ⟨0⟩ .dark 20 i
      (.ok ⟨⟨0⟩, onlyValue, some ⟨0⟩, .item, .minted, none, 0, .epoch, .epoch⟩) := by
    intro i hi
    obtain ⟨p, hp, heq⟩ := Option.map_eq_some_iff.1 (hends i hi)
    exact ⟨p, hp, (Prod.mk.inj heq).1, (Prod.mk.inj heq).2⟩
  obtain ⟨hsame, -⟩ := (race.mints_agree race_uncontested 20 0).1 _ (hmints 0 (by decide))
  obtain ⟨hid, hvalue⟩ := hsame 20 1 _ (hmints 1 (by decide))
  exact ⟨race_uncontested, _, _, hmints 0 (by decide), hmints 1 (by decide), hid, hvalue⟩

end Racing

end IdentifierRegistrar
