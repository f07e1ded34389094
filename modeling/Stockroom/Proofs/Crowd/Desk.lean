import Stockroom.Proofs.Crowd.Assured
import Stockroom.Proofs.Store.Stage

/-!
# Proofs/Crowd/Desk — what a caller knows while it works

**`Desk.At writes tape commits` is everything that the rules of this module keep track of**: which
writes wait in the open unit of work, how far the tape was used, and which commits were made.  What
an open unit of work shows of a row that it has not written was committed at some time
(`UnitOfWork.Faithful`), and `Was` is how this is remembered.

There is one rule for each kind of request, and `Desk.At.inUnit` for a whole unit of work.
-/

namespace Stockroom

open Store

variable {A : ServiceCall → Prop} {call : ServiceCall} {α : Type} {s s' : Store}

/-! ## Units of work -/

/-- **What can be relied on in a unit of work**: a row that it has not written was committed at some
time up to now. -/
structure Store.UnitOfWork.Faithful (A : ServiceCall → Prop) (u : UnitOfWork) (s : Store) :
    Prop where
  written : u.written = u.pending.filterMap Write.row?
  keys : u.working.KeepsKeys
  seen : ∀ row, row ∉ u.written → Was A s fun t => u.working.AgreeAt t row

namespace Store.UnitOfWork.Faithful

variable {u : UnitOfWork}

theorem start (hs : Reachable A s) : (UnitOfWork.start s.committed).Faithful A s where
  written := rfl
  keys := hs.wellKept.reservationKey
  seen row _ := .now hs (.refl _ row)

theorem later (h : u.Faithful A s) (hl : Later A s s') : u.Faithful A s' :=
  ⟨h.written, h.keys, fun row hrow => (h.seen row hrow).later hl⟩

theorem refreshed (h : u.Faithful A s) (hs : Reachable A s) (row? : Option RowName) :
    (u.refreshed s.committed row?).Faithful A s := by
  unfold UnitOfWork.refreshed
  cases row? with
  | none => exact h
  | some row =>
    dsimp only
    split
    · exact h
    · refine ⟨h.written, h.keys.refresh hs.wellKept.reservationKey, fun other hother => ?_⟩
      by_cases heq : other = row
      · subst heq
        rcases Tables.refresh_agreeAt u.working s.committed other with hagree | hagree
        · exact .now hs hagree
        · exact (h.seen other hother).imp fun _ _ => hagree.trans
      · exact (h.seen other hother).imp fun _ _ =>
          (Tables.refresh_agreeAt_of_ne u.working s.committed heq).trans

theorem refreshed_pending (u : UnitOfWork) (t : Tables) (row? : Option RowName) :
    (u.refreshed t row?).pending = u.pending := by
  unfold UnitOfWork.refreshed
  cases row? with
  | none => rfl
  | some row =>
    dsimp only
    split <;> rfl

/-- **Staging a write**: it is remembered exactly if its condition holds. -/
theorem stage (h : u.Faithful A s) (hs : Reachable A s) (w : Write) :
    (u.stage s.committed w).2.Faithful A s ∧
      ((u.stage s.committed w).1 = .ok true →
        (u.stage s.committed w).2.pending = u.pending ++ [w]) := by
  have hu := h.refreshed hs w.row?
  have hpending := refreshed_pending u s.committed w.row?
  simp only [UnitOfWork.stage]
  split
  · next working happly =>
    refine ⟨⟨?_, Write.keepsKeys_of_apply hu.keys happly, fun row hrow => ?_⟩,
      fun _ => congrArg (· ++ [w]) hpending⟩
    · rw [List.filterMap_append, ← hu.written]
      cases hrow : w.row? <;> simp [hrow]
    · rw [List.mem_append, not_or] at hrow
      have hframe := Write.agreeAt_of_apply hu.keys happly fun he => hrow.2 (Option.mem_toList.mpr he)
      exact (hu.seen row hrow.1).imp fun _ _ => hframe.trans
  · exact ⟨hu, fun h => by cases h⟩
  · exact ⟨hu, fun h => by cases h⟩

end Store.UnitOfWork.Faithful

/-! ## Where a caller stands -/

namespace Store.Session

variable {unit : Option UnitOfWork} {u : UnitOfWork}

theorem commit_of_ok {t : Tables} (hu : unit = some u)
    (h : Write.applyAll u.pending s.committed = .ok t) :
    Session.answer ⟨s, unit⟩ .commit = (.ok (), ⟨⟨t, s.nextOrder⟩, none⟩) := by
  subst hu
  simp only [Session.answer, Session.commit, UnitOfWork.commit, h]
  rfl

theorem commit_of_error {rejection : Rejection} (hu : unit = some u)
    (h : Write.applyAll u.pending s.committed = .error rejection) :
    ∃ error, Session.answer ⟨s, unit⟩ .commit = (.error error, ⟨s, none⟩) := by
  subst hu
  simp only [Session.answer, Session.commit, UnitOfWork.commit, h]
  cases rejection with
  | mismatch mismatch => exact ⟨_, rfl⟩
  | failed error => exact ⟨_, rfl⟩

/-- An order is numbered first, and then written. -/
theorem answer_insertOrder {draft : Draft} :
    Session.answer ⟨s, unit⟩ (.within (.insertOrder draft)) =
      ((Session.stage ⟨⟨s.committed, s.nextOrder + 1⟩, unit⟩
          (.insertOrder (draft.toOrder ⟨s.nextOrder⟩))).1.map fun _ => draft.toOrder ⟨s.nextOrder⟩,
        (Session.stage ⟨⟨s.committed, s.nextOrder + 1⟩, unit⟩
          (.insertOrder (draft.toOrder ⟨s.nextOrder⟩))).2) :=
  rfl

/-- A write whose condition cannot fail takes effect if it does not fail altogether. -/
theorem stage_held {session : Session} {w : Write} {held : Bool}
    (hw : ∀ t mismatch, w.apply t ≠ .error (.mismatch mismatch))
    (h : (session.stage w).1 = .ok held) : held = true := by
  unfold Session.stage at h
  split at h
  · cases h
  · simp only [UnitOfWork.stage] at h
    split at h
    · cases h
      rfl
    · next happly => exact absurd happly (hw _ _)
    · cases h

end Store.Session

namespace Desk

variable {d : Desk} {r : StoreRequest} {writes : List Write} {work work' : Option (List Write)}
  {tape : Tape} {commits : List Deed}

/-- **Where a caller stands**: its writes, if it works on a unit, its tape, and its commits. -/
structure At (A : ServiceCall → Prop) (work : Option (List Write)) (tape : Tape)
    (commits : List Deed) (d : Desk) (s : Store) : Prop where
  unit : ∀ writes, work = some writes →
    ∃ u, d.unit = some u ∧ u.pending = writes ∧ u.Faithful A s
  tape : d.tape = tape
  commits : d.commits = commits

namespace At

theorem later (h : d.At A work tape commits s) (hl : Later A s s') :
    d.At A work tape commits s' where
  unit writes hwrites := by
    obtain ⟨u, hu, hpending, hfaithful⟩ := h.unit writes hwrites
    exact ⟨u, hu, hpending, hfaithful.later hl⟩
  tape := h.tape
  commits := h.commits

/-- Nothing needs to be known about a unit of work. -/
theorem any (d : Desk) (s : Store) : d.At A none d.tape d.commits s := ⟨nofun, rfl, rfl⟩

/-- After any request but a commit. -/
theorem after {s₀ : Store} {session : Session} (h : d.At A work tape commits s)
    (hr : r ≠ .commit)
    (hunit : ∀ writes, work' = some writes →
      ∃ u, session.unit = some u ∧ u.pending = writes ∧ u.Faithful A s') :
    (d.after r s₀ session).At A work' tape commits s' where
  unit := hunit
  tape := h.tape
  commits := by
    rw [← h.commits]
    simp [Desk.commits, Desk.after, List.filter_append, hr]

/-! ## Rules outside of the store -/

theorem now (h : d.At A work tape commits s) :
    Call.now.Assured A call
      (fun now d s => now = tape.time ∧ d.At A work tape.read commits s) d s := by
  refine Call.Assured.request fun s' hl _ _ => ⟨.inl rfl, fun s'' hl' => ?_⟩
  have h' := h.later (hl.trans hl')
  exact ⟨congrArg Tape.time h.tape, h'.unit, congrArg Tape.read h'.tape, h'.commits⟩

theorem log (h : d.At A work tape commits s) (record : LogRecord) :
    (Call.log record).Assured A call (fun _ d s => d.At A work tape commits s) d s :=
  Call.Assured.request fun _ hl _ _ => ⟨.inl rfl, fun _ hl' => h.later (hl.trans hl')⟩

/-! ## Rules inside a unit of work -/

theorem begin (h : d.At A work tape commits s) :
    (Call.demand .begin).Assured A call (fun _ d s => d.At A (some []) tape commits s) d s := by
  refine Call.Assured.demand fun s' hl hs _ => ⟨_, _, rfl, .inl rfl, fun _ _ s'' hl' => ?_⟩
  refine ((h.later hl).after (by nofun) fun writes hwrites => ?_).later hl'
  cases hwrites
  exact ⟨_, rfl, rfl, .start hs⟩

/-- **A request that reads in the open unit of work** shows its working copy. -/
theorem shows {r : UnitRequest} (read : Tables → r.Result) {u : UnitOfWork}
    (h : d.At A (some writes) tape commits s) (hu : d.unit = some u)
    (hread : ∀ session : Session, session.answerWithin r = session.find read) :
    (Call.within r).Assured A call (fun result d s => d.At A (some writes) tape commits s ∧
      result = read u.working) d s := by
  refine Call.Assured.demand fun s' hl _ _ =>
    ⟨.ok (read u.working), ⟨s', some u⟩, ?_, .inl rfl, fun result hresult s'' hl' => ?_⟩
  · rw [Session.answer, hread, hu]
    rfl
  · cases hresult
    exact ⟨((h.later hl).after (fun h => by cases h) fun writes hwrites => hu ▸ (h.later hl).unit writes hwrites).later
      hl', rfl⟩

/-- A row that was not written is shown as it was committed at some time. -/
theorem find {r : UnitRequest} {read : Tables → r.Result} {row : RowName}
    (h : d.At A (some writes) tape commits s)
    (hread : ∀ session : Session, session.answerWithin r = session.find read)
    (hrow : ∀ t t' : Tables, t.AgreeAt t' row → read t = read t') :
    (Call.within r).Assured A call (fun result d s => d.At A (some writes) tape commits s ∧
      (row ∉ writes.filterMap Write.row? → Was A s fun t => read t = result)) d s := by
  obtain ⟨u, hu, rfl, hfaithful⟩ := h.unit writes rfl
  refine (h.shows read hu hread).mono fun result d s hl ⟨h, hresult⟩ => ⟨h, fun hnew => ?_⟩
  rw [← hfaithful.written] at hnew
  exact ((hfaithful.seen row hnew).imp fun t _ hagree => (hrow _ _ hagree).symm.trans hresult.symm).later hl

theorem findStock (h : d.At A (some writes) tape commits s) (product : ProductId) :
    (Call.within (.findStock product)).Assured A call (fun found d s =>
      d.At A (some writes) tape commits s ∧ (.stock product ∉ writes.filterMap Write.row? →
        Was A s fun t => t.liveStock? product = found)) d s :=
  h.find (fun _ => rfl) fun _ _ => Tables.AgreeAt.liveStock?

theorem showsStock {u : UnitOfWork} (h : d.At A (some writes) tape commits s) (hu : d.unit = some u)
    (product : ProductId) :
    (Call.within (.findStock product)).Assured A call (fun found d s =>
      d.At A (some writes) tape commits s ∧ found = u.working.liveStock? product) d s :=
  h.shows (r := .findStock product) (·.liveStock? product) hu fun _ => rfl

theorem findReservation (h : d.At A (some writes) tape commits s) (product : ProductId)
    (order : OrderId) :
    (Call.within (.findReservation product order)).Assured A call (fun found d s =>
      d.At A (some writes) tape commits s ∧
        (.reservation ⟨product, order⟩ ∉ writes.filterMap Write.row? →
          Was A s fun t => t.reservation? product order = found)) d s :=
  h.find (fun _ => rfl) fun _ _ hagree => hagree

theorem findOrder (h : d.At A (some writes) tape commits s) (id : OrderId) :
    (Call.within (.findOrder id)).Assured A call (fun found d s =>
      d.At A (some writes) tape commits s ∧ (.order id ∉ writes.filterMap Write.row? →
        Was A s fun t => t.order? id = found)) d s :=
  h.find (fun _ => rfl) fun _ _ hagree => hagree

/-- A write is remembered if it takes effect. -/
theorem stage (h : d.At A (some writes) tape commits s) (hs : Reachable A s) (w : Write) :
    (Session.stage ⟨s, d.unit⟩ w).2.store = s ∧ ∀ r s₀, r ≠ .commit →
      (Session.stage ⟨s, d.unit⟩ w).1 = .ok true →
        (d.after r s₀ (Session.stage ⟨s, d.unit⟩ w).2).At A (some (writes ++ [w])) tape commits s := by
  obtain ⟨u, hu, rfl, hfaithful⟩ := h.unit writes rfl
  rw [Session.stage, hu]
  obtain ⟨hnext, hpending⟩ := hfaithful.stage hs w
  refine ⟨rfl, fun r s₀ hr hok => h.after hr fun _ hwrites => ?_⟩
  exact ⟨_, rfl, (hpending hok).trans (Option.some.inj hwrites), hnext⟩

/-- **A request that writes in the open unit of work**, where `P` tells from the result that the write
took effect. -/
theorem write {r : UnitRequest} {w : Write} {P : r.Result → Prop}
    (h : d.At A (some writes) tape commits s)
    (hstage : ∀ session : Session, (session.answerWithin r).2 = (session.stage w).2 ∧
      ∀ result, (session.answerWithin r).1 = .ok result → P result →
        (session.stage w).1 = .ok true) :
    (Call.within r).Assured A call
      (fun result d s => P result → d.At A (some (writes ++ [w])) tape commits s) d s := by
  refine Call.Assured.demand fun s' hl hs _ =>
    ⟨_, _, rfl, .inl ?_, fun result hresult s'' hl' hP => ?_⟩
  all_goals obtain ⟨hsession, hok⟩ := hstage ⟨s', d.unit⟩
  all_goals obtain ⟨hstore, hat⟩ := (h.later hl).stage hs w
  · exact (congrArg Session.store hsession).trans hstore
  · have hat' := hat (.within r) s' nofun (hok result hresult hP)
    rw [← hsession] at hat' hstore
    exact hat'.later (hstore ▸ hl')

/-- **A restock that takes effect** was added to a record that was committed, and the unit of work shows what
came out. -/
theorem increaseStock {product : ProductId} {quantity : Int} {now : Instant}
    (h : d.At A (some writes) tape commits s) (hnew : .stock product ∉ writes.filterMap Write.row?) :
    (Call.within (.increaseStock product quantity now)).Assured A call (fun held d s => held = true →
      d.At A (some (writes ++ [.increaseStock product quantity now])) tape commits s ∧
        ∃ seen shown u, Was A s (fun t => t.liveStock? product = some seen) ∧
          seen.restock quantity now = .ok shown ∧ d.unit = some u ∧
          u.working.liveStock? product = some shown) d s := by
  obtain ⟨u, hu, rfl, hfaithful⟩ := h.unit writes rfl
  refine Call.Assured.demand fun s' hl hs _ => ?_
  obtain ⟨hstore, hat⟩ := (h.later hl).stage hs (.increaseStock product quantity now)
  refine ⟨_, _, rfl, .inl hstore, fun held hheld s'' hl' htrue => ?_⟩
  subst htrue
  have hl'' : Later A s' s'' := hstore ▸ hl'
  refine ⟨(hat (.within (.increaseStock product quantity now)) s' nofun hheld).later hl'', ?_⟩
  rw [← hfaithful.written] at hnew
  rw [hu] at hheld
  obtain ⟨seen, shown, working, hlive, hshown, hworking, hstaged⟩ :=
    UnitOfWork.stage_increaseStock hnew hheld
  have hunit : ∃ u', (Session.stage ⟨s', d.unit⟩ (.increaseStock product quantity now)).2.unit = some u' ∧
      u'.working.liveStock? product = some shown := by
    rw [hu, Session.stage_some hstaged]
    exact ⟨_, rfl, hworking⟩
  obtain ⟨u', hunit, hshows⟩ := hunit
  exact ⟨seen, shown, u', (Was.now hs hlive).later hl'', hshown, hunit, hshows⟩

/-- A new order is written under a number that was drawn for it. -/
theorem insertOrder (h : d.At A (some writes) tape commits s) (hA : A call)
    (hdraw : ∀ s : Store, Change call s ⟨s.committed, s.nextOrder + 1⟩) (draft : Draft) :
    (Call.within (.insertOrder draft)).Assured A call (fun order d s => ∃ id,
      order = draft.toOrder id ∧ d.At A (some (writes ++ [.insertOrder order])) tape commits s)
      d s := by
  refine Call.Assured.demand fun s' hl hs _ => ?_
  have hdrawn := Later.single hA (hdraw s')
  obtain ⟨hstore, hat⟩ := ((h.later hl).later hdrawn).stage (hs.later hdrawn)
    (.insertOrder (draft.toOrder ⟨s'.nextOrder⟩))
  refine ⟨_, _, Session.answer_insertOrder, .inr ⟨hA, ?_⟩,
    fun order hresult s'' hl' => ⟨⟨s'.nextOrder⟩, ?_⟩⟩
  · exact hstore.symm ▸ hdraw s'
  · obtain ⟨held, hheld, rfl⟩ := map_eq_ok_iff.mp hresult
    obtain rfl := Session.stage_held (fun _ _ h => by cases h) hheld
    exact ⟨rfl, (hat (.within (.insertOrder draft)) s' nofun hheld).later (hstore ▸ hl')⟩

end At

/-! ## A whole unit of work -/

/-- **What a committed unit of work leaves behind**: its writes took effect on the store before its
commit, and `R` holds of them and of that store. -/
def Delivers (A : ServiceCall → Prop) (commits : List Deed) (R : List Write → Tape → Store → Prop)
    (d : Desk) (s : Store) : Prop :=
  ∃ writes tape before t, Reachable A before ∧ before.Admits writes ∧ R writes tape before ∧
    Write.applyAll writes before.committed = .ok t ∧
    d.At A none tape (commits ++ [⟨.commit, before, ⟨t, before.nextOrder⟩⟩]) s

theorem Delivers.later {R : List Write → Tape → Store → Prop} (h : d.Delivers A commits R s)
    (hl : Later A s s') : d.Delivers A commits R s' := by
  obtain ⟨writes, tape, before, t, hs, hadmits, hR, happly, h⟩ := h
  exact ⟨writes, tape, before, t, hs, hadmits, hR, happly, h.later hl⟩

end Desk

namespace Call.Assured

variable {d : Desk} {tape : Tape} {commits : List Deed} {work : Option (List Write)}

theorem rollBack {component : String} {cause : ServiceError} :
    (Call.rollBack component cause).Assured A call (fun _ _ _ => True) d s := by
  refine seq (Q := fun _ _ _ => True)
    (attempt fun s' _ _ _ => ⟨_, _, rfl, .inl rfl, fun _ _ => trivial⟩) fun answer d' s' _ _ => ?_
  cases answer with
  | ok result => exact pure fun _ _ => trivial
  | error failure => exact request fun _ _ _ _ => ⟨.inl rfl, fun _ _ => trivial⟩

/-- **A call in a unit of work of its own.**  It is enough that the writes which the body ends with make
a change of the call wherever they take effect. -/
theorem inUnit {component : String} {body : Call α} {R : α → List Write → Tape → Store → Prop}
    (hA : A call) (h : d.At A work tape commits s)
    (hbody : ∀ d s, d.At A (some []) tape commits s →
      body.Assured A call (fun a d s =>
        ∃ writes tape', d.At A (some writes) tape' commits s ∧ R a writes tape' s) d s)
    (hcommit : ∀ a writes tape' s t, Reachable A s → s.Admits writes → R a writes tape' s →
      Write.applyAll writes s.committed = .ok t → Change call s ⟨t, s.nextOrder⟩) :
    (Call.inUnit component body).Assured A call (fun a d s => d.Delivers A commits (R a) s) d s := by
  refine h.begin.seq fun _ d s _ h => (hbody d s h).caught.bind fun result d s _ hQ => ?_
  cases result with
  | error cause => exact rollBack.seq fun _ _ _ _ _ => throw
  | ok a =>
    refine seq (Q := fun _ d s => d.Delivers A commits (R a) s) (demand fun s' hl hs hadmits => ?_)
      fun _ d' s' _ h' => pure fun _ hl => h'.later hl
    obtain ⟨writes, tape', h', hR⟩ := hQ s' hl a rfl
    obtain ⟨u, hu, rfl, -⟩ := h'.unit _ rfl
    rw [Desk.pending, hu] at hadmits
    cases happly : Write.applyAll u.pending s'.committed with
    | ok t =>
      refine ⟨_, _, Session.commit_of_ok hu happly, .inr ⟨hA, ?_⟩, fun _ _ s'' hl' => ?_⟩
      · exact hcommit a _ tape' s' t hs hadmits hR happly
      · refine ⟨_, tape', s', t, hs, hadmits, hR, happly, nofun, h'.tape, ?_⟩
        rw [← h'.commits]
        simp [Desk.commits, Desk.after, List.filter_append]
    | error rejection =>
      obtain ⟨error, herror⟩ := Session.commit_of_error hu happly
      exact ⟨_, _, herror, .inl rfl, nofun⟩

end Call.Assured

/-- What was delivered can be reported before the value is returned. -/
theorem Desk.Delivers.reported {d : Desk} {commits : List Deed} {record : LogRecord} {value : α}
    {R : α → List Write → Tape → Store → Prop} (h : d.Delivers A commits (R value) s) :
    Call.Assured A call (fun value d s => d.Delivers A commits (R value) s)
      (do Call.log record; return value) d s := by
  obtain ⟨writes, tape, before, t, hs, hadmits, hR, happly, h⟩ := h
  exact (h.log record).seq fun _ _ _ _ h => .pure fun s' hl =>
    ⟨writes, tape, before, t, hs, hadmits, hR, happly, h.later hl⟩

end Stockroom
