import Stockroom.Proofs.Crowd.Alone
import Stockroom.Proofs.Crowd.Lasting

/-!
# Proofs/Crowd/Replay — a unit of work commits what it has seen

A unit of work makes each write twice: on its copy when it is asked to, and on the committed state when it
is committed.  **As long as nobody else changes what is committed, both come to the same**
(`Store.replay_agrees`): the copy is the state at the beginning with the granted writes applied, a row that
is refreshed was the same before, and the commit leaves exactly the copy.  If others did change it, the
commit applies the granted writes in their order to what is committed by then, or fails and changes nothing.

What is done with a unit of work is a list of `Moment`s: requests of its owner in any order and with any
arguments, and stores that others leave behind.  `UnitOfWork.Mirrors` is the invariant of the requests, and
what each granted write shows to its owner follows from it (`Session.shows_granted`).
-/

namespace Stockroom.Store

/-! ## The states of a store -/

/-- **A state that a store can be in**: whatever was asked of it, by whoever had whatever at hand, and
whatever was put into its catalogue. -/
inductive Attained : Store → Prop where
  | empty : Attained .empty
  | catalogued {s : Store} (h : Attained s) (product : Product) :
      Attained { s with committed := s.committed.putProduct product }
  | answered {s : Store} (h : Attained s) (d : Desk) (request : HostRequest) :
      Attained (d.answer s request).2.2

/-- **What no request ends holds in all of them**, if it holds in a new store and the catalogue does not
matter. -/
theorem Attained.lasts {P : Tables → Prop} (hP : Lasting P) (hempty : P .empty)
    (hput : ∀ (t : Tables) (product : Product), P t → P (t.putProduct product)) {s : Store}
    (h : Attained s) : P s.committed := by
  induction h with
  | empty => exact hempty
  | catalogued _ product ih => exact hput _ product ih
  | answered _ d request ih => exact hP.committed_answer (d := d) ih request

theorem Attained.filed {s : Store} (h : Attained s) : s.committed.Filed :=
  h.lasts lasting_filed ⟨fun _ _ h => (nomatch h), fun _ _ h => (nomatch h)⟩
    fun _ _ ht => ⟨ht.stock, ht.reservations⟩

/-! ## One write -/

namespace UnitOfWork

variable {u : UnitOfWork} {c : Tables}

/-- **A unit of work whose copy is a state with its writes applied.** -/
structure Mirrors (c : Tables) (u : UnitOfWork) : Prop where
  written : u.written = u.pending.filterMap Write.row?
  working : Write.applyAll u.pending c = .ok u.working

theorem mirrors_start (c : Tables) : (start c).Mirrors c := ⟨rfl, Write.applyAll_nil_iff.mpr rfl⟩

/-- **A write keeps it**, whether it takes effect or not: there is nothing to refresh. -/
theorem Mirrors.stage (h : u.Mirrors c) (hc : c.KeepsKeys) (w : Write) :
    (u.stage c w).2.Mirrors c := by
  have hrefreshed : u.refreshed c w.row? = u :=
    refreshed_eq_self (s := ⟨c, 0⟩) hc h.written h.working w.row?
  unfold UnitOfWork.stage
  rw [hrefreshed]
  dsimp only
  split
  · next working happly =>
    refine ⟨?_, ?_⟩
    · rw [List.filterMap_append, h.written]
      cases hrow : w.row? <;> simp [hrow]
    · have hlast : Write.applyAll [w] u.working = .ok working :=
        Write.applyAll_cons_iff.mpr ⟨working, happly, Write.applyAll_nil_iff.mpr rfl⟩
      exact Write.applyAll_append_iff.mpr ⟨u.working, h.working, hlast⟩
  · exact h
  · exact h

end UnitOfWork

/-! ## Everything that happens while a unit of work is open -/

/-- What can happen while somebody has a unit of work open. -/
inductive Moment where
  /-- Its owner makes a request inside of it. -/
  | own (request : UnitRequest)
  /-- Others leave the store like this. -/
  | others (store : Store)

namespace Session

/-- The session after a moment. -/
def next (x : Session) : Moment → Session
  | .own request => (x.answerWithin request).2
  | .others store => { x with store := store }

/-- The session after several moments. -/
def after (x : Session) (moments : List Moment) : Session := moments.foldl next x

/-- **The writes that the answers have granted**, in the order of the requests. -/
def granted : Session → List Moment → List Write
  | _, [] => []
  | x, .own request :: rest =>
    (request.granted (x.answerWithin request).1).toList ++ (x.next (.own request)).granted rest
  | x, .others store :: rest => (x.next (.others store)).granted rest

/-- Whether the others leave the committed state alone. -/
def Undisturbed (c : Tables) (moments : List Moment) : Prop :=
  ∀ store, .others store ∈ moments → store.committed = c

/-- **A session whose unit of work shows these tables**, whatever is looked for. -/
structure Shows (t : Tables) (x : Session) : Prop where
  working : x.unit.map UnitOfWork.working = some t
  stock : ∀ product, x.answer (.within (.findStock product)) = (.ok (t.liveStock? product), x)
  reservation : ∀ product order, x.answer (.within (.findReservation product order)) =
    (.ok (t.reservation? product order), x)
  order : ∀ order, x.answer (.within (.findOrder order)) = (.ok (t.order? order), x)

variable {x : Session} {c : Tables} {moments : List Moment} {u : UnitOfWork}

theorem shows_working (hu : x.unit = some u) : x.Shows u.working := by
  obtain ⟨s, unit⟩ := x
  subst hu
  exact ⟨rfl, fun _ => rfl, fun _ _ => rfl, fun _ => rfl⟩

/-- **What waits after several moments**: what waited before, and what was granted since. -/
theorem staged_after (x : Session) (moments : List Moment) :
    (x.after moments).staged = x.staged.map (· ++ x.granted moments) := by
  induction moments generalizing x with
  | nil => simp [after, granted]
  | cons moment rest ih =>
    refine (ih (x.next moment)).trans ?_
    cases moment with
    | own request =>
      rw [granted, next, staged_within, Option.map_map]
      simp [Function.comp_def]
    | others store => rfl

/-- **A request inside the unit of work** leaves what is committed alone, and the mirror true. -/
theorem mirrors_answerWithin (hc : c.KeepsKeys) (hcommitted : x.store.committed = c)
    (hu : x.unit = some u) (h : u.Mirrors c) (request : UnitRequest) :
    (x.answerWithin request).2.store.committed = c ∧
      ∃ u', (x.answerWithin request).2.unit = some u' ∧ u'.Mirrors c := by
  obtain ⟨hsame, hunit⟩ := x.answerWithin_unit request
  refine ⟨hsame.trans hcommitted, ?_⟩
  rcases hunit with hunit | ⟨v, w, hv, -, hunit⟩
  · exact ⟨u, hunit.trans hu, h⟩
  · obtain rfl : u = v := Option.some.inj (hu.symm.trans hv)
    rw [hcommitted] at hunit
    exact ⟨_, hunit, h.stage hc w⟩

/-- **A unit of work sees its own writes**: after a request that was granted, whatever is looked for shows its
write. -/
theorem shows_granted (hc : c.KeepsKeys) (hcommitted : x.store.committed = c) (hu : x.unit = some u)
    (h : u.Mirrors c) {request : UnitRequest} {w : Write}
    (hgranted : request.granted (x.answerWithin request).1 = some w) :
    ∃ t, (x.answerWithin request).2.Shows t ∧ w.Shows u.working t := by
  obtain ⟨-, u', hu', h'⟩ := mirrors_answerWithin hc hcommitted hu h request
  have hpending : u'.pending = u.pending ++ [w] := by
    have hstaged := staged_within (x := x) request
    simpa [staged, hu, hu', hgranted] using hstaged
  obtain ⟨t, ht, hw⟩ := Write.applyAll_append_iff.mp (hpending ▸ h'.working)
  obtain rfl := Except.ok.inj (h.working.symm.trans ht)
  obtain ⟨t', happly, hrest⟩ := Write.applyAll_cons_iff.mp hw
  obtain rfl := Write.applyAll_nil_iff.mp hrest
  exact ⟨u'.working, shows_working hu', Write.shows_of_apply (Write.keepsKeys_of_applyAll hc ht) happly⟩

/-- **As long as nobody else changes what is committed**, it stays as it is and the mirror true. -/
theorem mirrors_after (hc : c.KeepsKeys) (hquiet : Undisturbed c moments)
    (hcommitted : x.store.committed = c) (hu : x.unit = some u) (h : u.Mirrors c) :
    (x.after moments).store.committed = c ∧
      ∃ u', (x.after moments).unit = some u' ∧ u'.Mirrors c := by
  induction moments generalizing x u with
  | nil => exact ⟨hcommitted, u, hu, h⟩
  | cons moment rest ih =>
    have hrest : Undisturbed c rest := fun store hmem => hquiet store (List.mem_cons_of_mem _ hmem)
    cases moment with
    | own request =>
      obtain ⟨hcommitted', u', hu', h'⟩ := mirrors_answerWithin hc hcommitted hu h request
      exact ih hrest hcommitted' hu' h'
    | others store => exact ih hrest (hquiet store List.mem_cons_self) hu h

/-- **A commit is all or nothing**: the writes that wait, in their order, on what is committed by then. -/
theorem commit_of_staged {writes : List Write} (h : x.staged = some writes) :
    (∃ t, Write.applyAll writes x.store.committed = .ok t ∧
        x.answer .commit = (.ok (), ⟨⟨t, x.store.nextOrder⟩, none⟩)) ∨
      ∃ rejection error, Write.applyAll writes x.store.committed = .error rejection ∧
        x.answer .commit = (.error error, ⟨x.store, none⟩) := by
  obtain ⟨u, hu, rfl⟩ := Option.map_eq_some_iff.mp h
  cases happly : Write.applyAll u.pending x.store.committed with
  | ok t => exact .inl ⟨t, rfl, commit_of_ok hu happly⟩
  | error rejection =>
    obtain ⟨error, hanswer⟩ := commit_of_error hu happly
    exact .inr ⟨rejection, error, rfl, hanswer⟩

end Session

/-! ## The commit -/

/-- **A unit of work commits what it has seen.**  It is begun in any state that a store can be in, and then
its owner makes any requests inside of it, while others leave the store as they like.  The writes that were
granted wait in their order, and no request changes what is committed.  The commit applies them all to what
is committed by then, or fails and leaves it alone.  If the others leave what is committed alone, it stays as
it was until the commit, every look into the unit of work shows the state at the beginning with the granted
writes applied and nothing else, one more write that is granted is shown right after it, and the commit
succeeds and leaves exactly what was shown. -/
theorem replay_agrees {s : Store} (hs : s.Attained) (unit : Option UnitOfWork) (moments : List Moment) :
    let opened : Session := (Session.answer ⟨s, unit⟩ .begin).2
    let x := opened.after moments
    let writes := opened.granted moments
    x.staged = some writes ∧
      (∀ request, (x.answer (.within request)).2.store.committed = x.store.committed) ∧
      ((∃ t, Write.applyAll writes x.store.committed = .ok t ∧
          x.answer .commit = (.ok (), ⟨⟨t, x.store.nextOrder⟩, none⟩)) ∨
        ∃ rejection error, Write.applyAll writes x.store.committed = .error rejection ∧
          x.answer .commit = (.error error, ⟨x.store, none⟩)) ∧
      (Session.Undisturbed s.committed moments →
        x.store.committed = s.committed ∧
          ∃ t, Write.applyAll writes s.committed = .ok t ∧ x.Shows t ∧
            (∀ request w, request.granted (x.answerWithin request).1 = some w →
              ∃ t', (x.answerWithin request).2.Shows t' ∧ w.Shows t t') ∧
            x.answer .commit = (.ok (), ⟨⟨t, x.store.nextOrder⟩, none⟩)) := by
  intro opened x writes
  have hstaged : x.staged = some writes := Session.staged_after opened moments
  refine ⟨hstaged, fun request => (x.answerWithin_unit request).1, Session.commit_of_staged hstaged, ?_⟩
  intro hquiet
  obtain ⟨hcommitted, u, hu, hmirrors⟩ := Session.mirrors_after (x := opened) hs.filed.reservations hquiet
    rfl rfl (UnitOfWork.mirrors_start s.committed)
  have hpending : u.pending = writes := by
    rw [Session.staged, hu] at hstaged
    exact Option.some.inj hstaged
  have happly := hmirrors.working
  refine ⟨hcommitted, u.working, hpending ▸ happly, Session.shows_working hu,
    fun request w => Session.shows_granted hs.filed.reservations hcommitted hu hmirrors, ?_⟩
  rw [← hcommitted] at happly
  exact Session.commit_of_ok hu happly

/-- The record of a crate with five pieces. -/
def crateRecord : StockRecord := ⟨⟨1⟩, 5, 0, 1, 0, ⟨0⟩, ⟨0⟩⟩

/-- A store with a single crate. -/
def crateStore : Store :=
  ((Desk.fresh (.unused (fun _ => ⟨0⟩) fun _ => ⟨0⟩)).answer .empty
    (.store (.createStock crateRecord))).2.2

/-- Two pieces are put aside for an order. -/
def crateHeld : StockRecord := { crateRecord with available := 3, reserved := 2, version := 1 }

def crateHold : Reservation := .start ⟨1⟩ ⟨9⟩ 2 ⟨0⟩ ⟨60⟩

/-- Two pieces are put aside, once in vain because of an old version and once because the reservation is
there, and then four pieces arrive. -/
def crateMoments : List Moment :=
  [.own (.replaceStock crateHeld 0), .own (.replaceStock crateRecord 0), .own (.insertReservation crateHold),
    .own (.insertReservation crateHold), .own (.increaseStock ⟨1⟩ 4 ⟨1⟩)]

/-- Three of the five requests are granted, and the commit leaves seven free pieces. -/
theorem replay_agrees_crate :
    crateStore.Attained ∧ Session.Undisturbed crateStore.committed crateMoments ∧
      ∃ t, Write.applyAll [.replaceStock crateHeld 0, .insertReservation crateHold,
          .increaseStock ⟨1⟩ 4 ⟨1⟩] crateStore.committed = .ok t ∧
        t.liveStock? ⟨1⟩ = some ⟨⟨1⟩, 7, 2, 1, 2, ⟨0⟩, ⟨1⟩⟩ ∧
        ((Session.answer ⟨crateStore, none⟩ .begin).2.after crateMoments).answer .commit =
          (.ok (), ⟨⟨t, 1⟩, none⟩) := by
  have hattained : crateStore.Attained := .answered .empty _ _
  have hquiet : Session.Undisturbed crateStore.committed crateMoments := by
    intro store hstore
    simp [crateMoments] at hstore
  obtain ⟨-, t, happly, hshows, -, hcommit⟩ := (replay_agrees hattained none crateMoments).2.2.2 hquiet
  have hwrites : (Session.answer ⟨crateStore, none⟩ .begin).2.granted crateMoments =
    [.replaceStock crateHeld 0, .insertReservation crateHold, .increaseStock ⟨1⟩ 4 ⟨1⟩] := by decide
  rw [hwrites] at happly
  refine ⟨hattained, hquiet, t, happly, ?_, hcommit⟩
  have hfound := congrArg Prod.fst (hshows.stock ⟨1⟩)
  exact (Except.ok.inj hfound).symm

end Stockroom.Store
