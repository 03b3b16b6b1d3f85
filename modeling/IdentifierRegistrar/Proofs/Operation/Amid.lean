import IdentifierRegistrar.Proofs.Operation.Alone
import IdentifierRegistrar.Proofs.Operation.Solo
import IdentifierRegistrar.Proofs.Store.Shown

/-! One record amid others. What holds of an operation on a record by itself holds of it in every
table that shows the record (`meets_among`), whatever else is in the table. The sweep comes to the
record in its turn; what it does with the others does not concern the row (`sweep_among`). -/

namespace IdentifierRegistrar

open Service Operation

def Outside.Admits (w : Outside Unit) : (q : Service.Request) → Service.Reply q → Prop
  | .lookup resource, x => w.lookup resource x
  | .agency _ (.change c), x => w.change () c x ()
  | _, _ => True

def Service.Amid (w : Outside Unit) (t : Table) (q : Request) (x : Reply q) (t' : Table) : Prop :=
  (Answers t q x t' ∨ w.fails ∧ Fails t q x t') ∧ w.Admits q x

def Service.among (w : Outside Unit) (J : Record → Unit → Prop) : Setting interface Table where
  allows t _ := ∃ s, t.Shows s ∧ J s ()
  moves := Amid w

section Lifting

variable {α : Type} {p : Operation α} {w : Outside Unit} {J : Record → Unit → Prop}
  {Q : Except RegistrarError α → Record × Unit → Prop} {s : Record} {t t' : Table}

theorem Table.Shows.gives {q : Service.Request} {x : Service.Reply q} (ht : t.Shows s)
    (hq : Minds s q) (hx : Amid w t q x t') : ∃ s', w.Gives (s, ()) q x s' ∧ t'.Shows s'.1 := by
  obtain ⟨hx, hadmits⟩ := hx
  have hfailed {call : Store.Call} {x : Service.Reply (.store call)}
      (h : w.fails ∧ Fails t (.store call) x t') :
      ∃ s', w.Gives (s, ()) (.store call) x s' ∧ t'.Shows s'.1 := by
    obtain ⟨hw, ⟨e, rfl⟩, rfl⟩ := h
    exact ⟨(s, ()), .failed hw, ht⟩
  cases q with
  | store call =>
    cases call with
    | get id =>
      obtain rfl : id = s.id := hq
      rcases hx with hx | hx
      · have hanswer : (t.get? s.id, t) = (x, t') := hx
        rw [ht.get?] at hanswer
        obtain ⟨rfl, rfl⟩ := Prod.mk.inj hanswer
        exact ⟨(s, ()), .got, ht⟩
      · exact hfailed hx
    | update d =>
      obtain ⟨c, rfl, hd⟩ : ∃ c : Record, c.stored = s ∧ c.Revision d := hq
      rcases hx with hx | hx
      · obtain ⟨t'', hupdate, hshows⟩ := ht.update hd
        have hanswer : Store.answer t (.update d) = (x, t') := hx
        simp only [Store.answer, hupdate] at hanswer
        obtain ⟨rfl, rfl⟩ := Prod.mk.inj hanswer
        exact ⟨(d.next.stored, ()), .wrote, hshows⟩
      · exact hfailed hx
    | _ => exact hq.elim
  | lookup resource =>
    obtain rfl : t' = t := hx.elim id fun h => h.2.elim
    exact ⟨(s, ()), .lookup hadmits, ht⟩
  | agency scheme call =>
    obtain rfl : t' = t := hx.elim id fun h => h.2.elim
    cases call with
    | change c => exact ⟨(s, ()), .changed hadmits, ht⟩
    | _ => exact hq.elim
  | freshId => exact hq.elim
  | now =>
    obtain rfl : t' = t := hx.elim id fun h => h.2.elim
    exact ⟨(s, ()), .now, ht⟩

/-- A contract with one record by itself holds in every table that shows the record. -/
theorem meets_among (h : p.Meets (solo w J) Q (s, ())) (ht : t.Shows s) :
    p.Meets (among w J) (fun x t => ∃ s, t.Shows s ∧ Q x (s, ())) t := by
  have hshows (s : Record × Unit) (t : Table) (q : Service.Request) (x : Service.Reply q)
      (t' : Table) (ht : t.Shows s.1) (hq : (solo w J).allows s q) (hx : (among w J).moves t q x t') :
      ∃ s', (solo w J).moves s q x s' ∧ t'.Shows s'.1 := ht.gives hq.2 hx
  have hallows (s : Record × Unit) (t : Table) (q : Service.Request) (ht : t.Shows s.1)
      (hq : (solo w J).allows s q) : (among w J).allows t q := ⟨s.1, ht, hq.1⟩
  refine (h.simulate hallows hshows ht).mono fun x t hx => ?_
  obtain ⟨s, ht, hs⟩ := hx
  exact ⟨s.1, ht, hs⟩

end Lifting

namespace Service

def apart (id : RecordId) : Setting interface Unit where
  allows _
    | .store (.update d) => d.id ≠ id
    | .store _ => False
    | _ => True
  moves _ q x _ := match q, x with
    | .store (.update d), .ok d' => d'.id = d.id
    | _, _ => True

end Service

theorem Table.Shows.apart {w : Outside Unit} {s : Record} {t t' : Table} {q : Service.Request}
    {x : Service.Reply q} (ht : t.Shows s)
    (hq : (apart s.id).allows () q) (hx : Amid w t q x t') :
    (apart s.id).moves () q x () ∧ t'.Shows s := by
  rcases hx.1 with hx | hx
  · cases q with
    | store call =>
      have ht' : t' = (Store.answer t call).2 := (congrArg Prod.snd hx).symm
      have hx : x = (Store.answer t call).1 := (congrArg Prod.fst hx).symm
      cases call with
      | update d =>
        refine ⟨?_, ht' ▸ ht.answer fun d' a hd _ => ?_⟩
        · cases x with
          | error e => trivial
          | ok d' =>
            cases hupdate : t.updateRecord d with
            | error e => simp [Store.answer, hupdate] at hx
            | ok a =>
              obtain ⟨d'', t''⟩ := a
              simp only [Store.answer, hupdate] at hx
              obtain rfl := Except.ok.inj hx
              rw [(Table.update_of_updateRecord hupdate).1]
              rfl
        · obtain rfl := Store.Call.update.inj hd
          exact hq
      | _ => exact hq.elim
    | _ => exact ⟨trivial, hx ▸ ht⟩
  · obtain ⟨-, hfails⟩ := hx
    refine ⟨?_, hfails.same ▸ ht⟩
    cases q with
    | store call =>
      obtain ⟨e, rfl⟩ := hfails.1
      cases call <;> trivial
    | _ => trivial

theorem Operation.meets_apart {β : Type} {id : RecordId} {q : Service.Request}
    {f : Service.Reply q → Operation β} {Q : Except RegistrarError β → Unit → Prop}
    (hq : (apart id).allows () q) (h : ∀ x, (apart id).moves () q x () → (f x).Meets (apart id) Q ()) :
    (request q >>= f).Meets (apart id) Q () := ⟨hq, fun x _ hx => h x hx⟩

namespace Registrar

variable {g : Registrar} {id : RecordId} {r : Record}

theorem write_apart (hr : r.id ≠ id) : (write r).Meets (apart id)
    (fun x _ => ∀ d, x = .ok d → d.id = r.id) () := by
  refine meets_apart hr fun x hx => ?_
  cases x with
  | error e => rintro d ⟨⟩
  | ok d =>
    rintro d' hd
    obtain rfl := Except.ok.inj hd
    exact hx

theorem commit_apart (hr : r.id ≠ id) (target : Status) : (commit r target).Meets (apart id)
    (fun x _ => ∀ d, x = .ok d → d.id = r.id) () := by
  refine meets_apart trivial fun t _ => ?_
  cases hd : r.transition target t with
  | error e => simp [Program.Meets]
  | ok d =>
    obtain ⟨-, rfl⟩ := Record.transition_eq_ok_iff.1 hd
    exact write_apart hr

theorem park_apart (hr : r.id ≠ id) (message : String) :
    (park r message).Meets (apart id) (fun _ _ => True) () := by
  refine meets_apart trivial fun t _ => ?_
  exact (write_apart (r := r.flag message t) hr).bind (fun _ _ _ => trivial) fun _ _ _ => trivial

theorem resume_apart (hr : r.id ≠ id) : (g.resume r).Meets (apart id) (fun _ _ => True) () := by
  refine resume_meets_of (P := fun _ => True) (fun _ => trivial) ?_ ?_ ?_ ?_ ?_ ?_ ?_ ?_
  · exact fun _ => trivial
  · exact fun _ _ => trivial
  · exact fun _ _ => park_apart hr _
  · exact fun _ _ _ => trivial
  · exact fun _ _ _ _ _ _ _ => trivial
  · exact fun _ _ _ _ _ _ => park_apart hr _
  · exact fun _ _ _ _ _ _ => trivial
  · intro confirmed c _ _ _ _
    refine meets_apart trivial fun x _ => ?_
    rcases x with e | ⟨⟩
    · cases e with
      | rejected status message => exact park_apart hr _
      | _ => trivial
    · exact (commit_apart hr confirmed).bind (fun _ _ _ => trivial) fun _ _ _ => trivial

/-- Driving a record writes to no row of another id. -/
theorem drive_apart (hr : r.id ≠ id) : (g.drive r).Meets (apart id) (fun _ _ => True) () := by
  refine drive_meets_of (fun _ _ => park_apart hr _) (fun _ => ?_) fun _ => resume_apart hr
  refine (commit_apart hr .toBeRegistered).bind (fun d _ hd => ?_) fun _ _ _ => trivial
  exact resume_apart (by rw [hd d rfl]; exact hr)

theorem forEach_append {α β : Type} {f : α → Operation β} (as bs : List α) :
    forEach f (as ++ bs) = (do
      let xs ← forEach f as
      let ys ← forEach f bs
      return xs ++ ys) := by
  induction as with
  | nil => exact (Program.bind_done _).symm
  | cons a as ih =>
    rw [List.cons_append, forEach, forEach, ih]
    simp only [Program.bind_assoc, Program.pure_eq, Program.done_bind, List.cons_append]

variable {w : Outside Unit} {s : Record} {t : Table}

/-- Driving records of other ids leaves the record as the table shows it. -/
theorem forEach_among {rs : List Record} (hrs : ∀ r ∈ rs, r.id ≠ s.id) (ht : t.Shows s) :
    (forEach (fun r => (g.drive r).attempt) rs :
      Operation (List (Except RegistrarError Outcome))).Meets (among w fun _ _ => True)
        (fun x t => (∃ xs, x = .ok xs) ∧ t.Shows s) t := by
  induction rs generalizing t with
  | nil => exact ⟨⟨[], rfl⟩, ht⟩
  | cons r rs ih =>
    have hdrive : (g.drive r).Meets (among w fun _ _ => True) (fun _ t => t.Shows s) t := by
      have hallows (_ : Unit) (t : Table) (q : Service.Request) (ht : t.Shows s)
          (_ : (apart s.id).allows () q) : (among w fun _ _ => True).allows t q := ⟨s, ht, trivial⟩
      have hmoves (_ : Unit) (t : Table) (q : Service.Request) (x : Service.Reply q) (t' : Table)
          (ht : t.Shows s) (hq : (apart s.id).allows () q) (hx : (among w fun _ _ => True).moves t q x t') :
          ∃ u, (apart s.id).moves () q x u ∧ t'.Shows s := ⟨(), ht.apart hq hx⟩
      refine ((drive_apart (hrs r (by simp))).simulate hallows hmoves ht).mono fun x t hx => ?_
      exact hx.choose_spec.1
    refine hdrive.attempt_bind fun x t ht => ?_
    refine (ih (fun r hr => hrs r (by simp [hr])) ht).bind (fun xs t h => ?_) fun e t h => ?_
    · exact ⟨⟨_, rfl⟩, h.2⟩
    · obtain ⟨⟨xs, hxs⟩, -⟩ := h
      cases hxs

def Brought (s : Record) (t : Table) : Prop :=
  ∃ s', t.Shows s' ∧ s'.status = s.status.goal ∧ s'.attention = none ∧ s.Stage s'

/-- Where nothing goes wrong for a record, driving it brings it to its goal. -/
theorem drive_among (ht : t.Shows s) (hw : w.Kind s (s.status ≠ .toBeDeleted)) (hg : Ready g s)
    (ha : s.attention = none) :
    (g.drive s).Meets (among w fun _ _ => True) (fun _ t => Brought s t) t := by
  have hcarries : w.Carries (fun _ _ => True) (fun _ _ => True) := by constructor <;> simp
  have hsolo := drive_solo (r := s) (h := ()) (g := g) hcarries trivial
  rw [ht.stored] at hsolo
  refine (meets_among hsolo ht).mono fun x t hx => ?_
  obtain ⟨s', ht', hcomes⟩ := hx
  have hcame := hcomes.came hw hg
  exact ⟨s', ht', hcame.status, hcame.attention.trans ha, hcame.stage⟩

/-- So does driving it in its turn, whatever becomes of the records before and after it. -/
theorem forEach_brings {before after : List Record} (hothers : ∀ r ∈ before ++ after, r.id ≠ s.id)
    (ht : t.Shows s) (hw : w.Kind s (s.status ≠ .toBeDeleted)) (hg : Ready g s)
    (ha : s.attention = none) : (forEach (fun r => (g.drive r).attempt) (before ++ s :: after) :
      Operation (List (Except RegistrarError Outcome))).Meets (among w fun _ _ => True)
        (fun x t => (∃ xs, x = .ok xs) ∧ Brought s t) t := by
  rw [forEach_append]
  refine (forEach_among (fun r hr => hothers r (by simp [hr])) ht).bind (fun xs t h => ?_) fun e t h => ?_
  · rw [forEach, Program.bind_assoc]
    refine (drive_among h.2 hw hg ha).attempt_bind fun x t hx => ?_
    obtain ⟨s', ht', hstatus, hmark, hstage⟩ := hx
    rw [Program.bind_assoc]
    have hrest (r : Record) (hr : r ∈ after) : r.id ≠ s'.id := by
      rw [hstage.id]
      exact hothers r (by simp [hr])
    refine (forEach_among hrest ht').bind (fun ys t h => ?_) fun e t h => ?_
    · exact ⟨⟨_, rfl⟩, s', h.2, hstatus, hmark, hstage⟩
    · obtain ⟨⟨xs, hxs⟩, -⟩ := h
      cases hxs
  · obtain ⟨⟨xs, hxs⟩, -⟩ := h
    cases hxs

/-- Where nothing goes wrong for a record, a sweep that can read all intents brings it to its goal,
whatever becomes of the others. -/
theorem sweep_among (ht : t.Shows s) (hw : w.Kind s (s.status ≠ .toBeDeleted)) (hg : Ready g s)
    (hs : s.status ∈ Status.intents) (ha : s.attention = none) (hdecodes : t.Decodes Status.intents)
    (hspells : t.Spells Status.intents s.id) :
    g.sweep.Meets (among w fun _ _ => True)
      (fun x t => (∃ stats, x = .ok stats) ∧ Brought s t) t := by
  obtain ⟨before, after, hlist, hothers⟩ :=
    ht.listRetryable (by decide) hs ha hdecodes hspells
  refine ⟨⟨s, ht, trivial⟩, fun x t' hx => ?_⟩
  rcases hx.1 with hx | hx
  · have hanswer : (t.listRetryable Status.intents, t) = (x, t') := hx
    rw [hlist] at hanswer
    obtain ⟨rfl, rfl⟩ := Prod.mk.inj hanswer
    refine (forEach_brings hothers ht hw hg ha).bind (fun _ _ h => ⟨⟨_, rfl⟩, h.2⟩) fun e t h => ?_
    obtain ⟨⟨xs, hxs⟩, -⟩ := h
    cases hxs
  · exact absurd hx.1 hw.store

end Registrar

end IdentifierRegistrar
