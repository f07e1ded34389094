import Stockroom.Proofs.Crowd.Placement
import Stockroom.Proofs.Crowd.Trail

/-!
# Proofs/Crowd/History — history is never rewritten

Whoever has a stale copy at hand in the meantime, **a later moment of a run keeps everything of an earlier
one**: orders and reservations with all their details, settled ones altogether, records with the time of
their creation, and the ledger as its beginning (`Crowd.history_run`).

The number of an order is drawn outside of every unit of work.  Each draw raises the next number and
nothing lowers it, so a number is not given twice, whether the attempt that drew it is committed or not
(`Crowd.Draws.ne`).
-/

namespace Stockroom

open Store

namespace Crowd

variable {w : Crowd} {i j : Nat} {id id' : OrderId} {A : ServiceCall → Prop}
  {calls : List (ServiceCall × Tape)}

/-! ## Later moments -/

/-- **The store after a run is a later one.** -/
theorem Assured.later_run {steps : Nat} (h : w.Assured A calls) (hcounted : w.Counted steps)
    {schedule : List Nat} (hsteps : steps + schedule.length ≤ 2 ^ 63) :
    Later A w.store (w.run schedule).store := by
  induction schedule generalizing w steps with
  | nil => exact .refl _
  | cons i schedule ih =>
    rw [List.length_cons] at hsteps
    have hrest := ih (h.step hcounted (by omega) i) (hcounted.step i) (by omega)
    rcases h.change_step hcounted (by omega) i with hsame | ⟨call, tape, -, hA, hchange⟩
    · rwa [hsame] at hrest
    · exact (Later.single hA hchange).trans hrest

/-! ## Numbers of orders -/

/-- The caller at a position is given a number for a new order in its next step. -/
def Draws (w : Crowd) (i : Nat) (id : OrderId) : Prop :=
  ∃ draft order, w.saying i = [⟨.store (.within (.insertOrder draft)), .ok order⟩] ∧ order.id = id

/-- **The number that is drawn** is the next one of the store, which moves on. -/
theorem Draws.next (h : w.Draws i id) :
    id.value = w.store.nextOrder ∧ (w.step i).store.nextOrder = w.store.nextOrder + 1 := by
  obtain ⟨draft, order, hsaying, rfl⟩ := h
  cases hi : w.callers[i]? with
  | none =>
    rw [saying, hi] at hsaying
    cases hsaying
  | some c =>
    rw [saying_of_getElem? hi] at hsaying
    rcases c.saying_cases w.store with ⟨hnothing, -⟩ | ⟨request, next, hrest⟩
    · cases hnothing.symm.trans hsaying
    rw [Caller.saying_of_ask hrest] at hsaying
    obtain ⟨rfl, hanswer⟩ := Exchange.mk.inj (List.cons.inj hsaying).1
    have hanswer : (Session.answer ⟨w.store, c.desk.unit⟩ (.within (.insertOrder draft))).1 = .ok order :=
      eq_of_heq hanswer
    rw [Session.answer_insertOrder] at hanswer
    obtain ⟨held, -, rfl⟩ := map_eq_ok_iff.mp hanswer
    have hstage := (Session.stage_effect ⟨⟨w.store.committed, w.store.nextOrder + 1⟩, c.desk.unit⟩
      (.insertOrder (draft.toOrder ⟨w.store.nextOrder⟩))).1
    rw [step_of_getElem? hi, Caller.step_eq_of_ask hrest]
    exact ⟨rfl, congrArg Store.nextOrder hstage⟩

theorem nextOrder_le_run (w : Crowd) (schedule : List Nat) :
    w.store.nextOrder ≤ (w.run schedule).store.nextOrder := by
  induction schedule generalizing w with
  | nil => exact Int.le_refl _
  | cons i schedule ih => exact Int.le_trans (w.nextOrder_le_step i) (ih (w.step i))

/-- A number that is drawn later is larger. -/
theorem Draws.lt {first rest : List Nat} (h : (w.run first).Draws i id)
    (h' : (w.run (first ++ i :: rest)).Draws j id') : id.value < id'.value := by
  have hle := nextOrder_le_run ((w.run first).step i) rest
  rw [h.next.2, ← run_cons, ← run_append, ← h'.next.1] at hle
  rw [h.next.1]
  omega

/-- **No number is drawn twice in a run**, whoever draws it and whatever becomes of it. -/
theorem Draws.ne {first rest first' rest' : List Nat} (h : (w.run first).Draws i id)
    (h' : (w.run first').Draws j id') (hsplit : first ++ i :: rest = first' ++ j :: rest')
    (hne : first ≠ first') : id ≠ id' := by
  rintro rfl
  rcases List.append_eq_append_iff.mp hsplit with ⟨mid, rfl, hmid⟩ | ⟨mid, rfl, hmid⟩
  · cases mid with
    | nil => exact hne (List.append_nil first).symm
    | cons k mid =>
      obtain ⟨rfl, -⟩ := List.cons_eq_cons.mp hmid
      exact absurd (h.lt h') (Int.lt_irrefl _)
  · cases mid with
    | nil => exact hne (List.append_nil first')
    | cons k mid =>
      obtain ⟨rfl, -⟩ := List.cons_eq_cons.mp hmid
      exact absurd (h'.lt h) (Int.lt_irrefl _)

/-! ## Runs -/

/-- **History is never rewritten**: a later moment of a run has every row of an earlier one or a later state
of it, in the ledger new entries come last and are numbered on, and no two steps are given the same number
for an order. -/
theorem history_run (catalogue : Table ProductId Product) (hfits : ∀ call ∈ calls, call.1.Fits)
    {first rest : List Nat} (hsteps : (first ++ rest).length < 2 ^ 63) :
    ((opening catalogue calls).run first).store.committed.Precedes
        (Tunable (· ∈ calls.map Prod.fst))
        ((opening catalogue calls).run (first ++ rest)).store.committed ∧
      ((opening catalogue calls).run first).store.committed.Numbered ∧
      ((opening catalogue calls).run (first ++ rest)).store.committed.Numbered ∧
      ∀ before i after before' j after' id id', first ++ rest = before ++ i :: after →
        first ++ rest = before' ++ j :: after' → before ≠ before' →
          ((opening catalogue calls).run before).Draws i id →
            ((opening catalogue calls).run before').Draws j id' → id ≠ id' := by
  rw [List.length_append] at hsteps
  have hassured : ((opening catalogue calls).run first).Assured _ calls :=
    assured_run catalogue hfits (by omega)
  have hlater : Later _ ((opening catalogue calls).run first).store
      (((opening catalogue calls).run first).run rest).store :=
    hassured.later_run ((counted_opening catalogue calls).run first) (by omega)
  rw [run_append]
  exact ⟨hlater.precedes hassured.reachable, hassured.reachable.numbered,
    (hassured.reachable.later hlater).numbered, fun _ _ _ _ _ _ _ _ hsplit hsplit' hne h h' =>
      h.ne h' (hsplit.symm.trans hsplit') hne⟩

/-- The attempt that lost the race for the tea has used up the number 2; the order comes back under the
number 3, and the order of the other user is still there. -/
theorem history_run_tea :
    ((opening (Table.empty.insert ⟨1⟩ tea) teaCalls).run (teaSchedule.take 32)).store.committed.Precedes
        (Tunable (· ∈ teaCalls.map Prod.fst))
        ((opening (Table.empty.insert ⟨1⟩ tea) teaCalls).run teaSchedule).store.committed ∧
      ∃ before before', ((opening (Table.empty.insert ⟨1⟩ tea) teaCalls).run before).Draws 2 ⟨2⟩ ∧
        ((opening (Table.empty.insert ⟨1⟩ tea) teaCalls).run before').Draws 2 ⟨3⟩ ∧
        (⟨2⟩ : OrderId) ≠ ⟨3⟩ := by
  have h := @history_run teaCalls (Table.empty.insert ⟨1⟩ tea)
    (by simp [teaCalls, teaFor, ServiceCall.Fits]; decide) (teaSchedule.take 32) (teaSchedule.drop 32)
    (by decide)
  have hfirst : ((opening (Table.empty.insert ⟨1⟩ tea) teaCalls).run (teaSchedule.take 15)).Draws 2 ⟨2⟩ :=
    ⟨_, _, rfl, rfl⟩
  have hsecond : ((opening (Table.empty.insert ⟨1⟩ tea) teaCalls).run (teaSchedule.take 37)).Draws 2 ⟨3⟩ :=
    ⟨_, _, rfl, rfl⟩
  exact ⟨h.1, teaSchedule.take 15, teaSchedule.take 37, hfirst, hsecond,
    h.2.2.2 (teaSchedule.take 15) 2 (teaSchedule.drop 16) (teaSchedule.take 37) 2 (teaSchedule.drop 38)
      ⟨2⟩ ⟨3⟩ rfl rfl (by decide) hfirst hsecond⟩

end Crowd

end Stockroom
