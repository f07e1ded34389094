import Stockroom.Proofs.Crowd.Backing
import Stockroom.Proofs.Crowd.Chronicle

/-!
# Proofs/Crowd/Traceless — calls that fail leave no trace

A mutation takes effect once in its whole conversation, or not at all, and a step changes what is
committed exactly if it takes effect (`Crowd.effect_step`).  **So in every run, from any store and among
any other callers, a mutation that fails has changed nothing that is committed, and one that returns a
value has done all that it did in a single step.**  Only the numbers of orders that a failed call has drawn
are used up.
-/

namespace Stockroom

open Store

/-- Whether a caller has ended without a value. -/
def Caller.hasFailed (c : Caller) : Bool :=
  match c.rest with
  | .abort | .done (.error _) => true
  | _ => false

namespace Crowd

variable {w : Crowd} {i : Nat} {schedule first rest : List Nat}

/-- **A step changes what is committed** exactly if what its caller says takes effect. -/
theorem effect_step {c : Caller} (h : w.callers[i]? = some c) :
    (∃ x, w.saying i = [x] ∧ x.takesEffect ∧
      x.Effect c.desk.staged w.store.committed (w.step i).store.committed) ∨
    (w.saying i).Quiet ∧ (w.step i).store.committed = w.store.committed := by
  rw [saying_of_getElem? h, step_of_getElem? h]
  exact c.effect_step w.store

/-- A step in which nothing takes effect leaves what is committed as it is. -/
theorem committed_of_quiet (h : (w.saying i).Quiet) :
    (w.step i).store.committed = w.store.committed := by
  cases hi : w.callers[i]? with
  | none => rw [step, hi]
  | some c =>
    rcases effect_step hi with ⟨x, hx, htakes, -⟩ | ⟨-, hsame⟩
    · rw [hx] at h
      exact absurd (htakes.symm.trans (h x (List.mem_singleton_self x))) (by decide)
    · exact hsame

theorem nextOrder_le_step (w : Crowd) (i : Nat) : w.store.nextOrder ≤ (w.step i).store.nextOrder := by
  cases hi : w.callers[i]? with
  | none =>
    have hsame : w.step i = w := by rw [step, hi]
    exact Int.le_of_eq (congrArg (·.store.nextOrder) hsame.symm)
  | some c =>
    rw [step_of_getElem? hi]
    exact c.nextOrder_step w.store

/-- **Where nothing takes effect in the whole conversation**, no step of the caller changes what is
committed. -/
theorem committed_of_quiet_talk (h : (w.talk i (first ++ i :: rest)).Quiet) :
    ((w.run first).step i).store.committed = (w.run first).store.committed := by
  rw [talk_split] at h
  exact committed_of_quiet fun x hx => h x (List.mem_append_right _ (List.mem_append_left _ hx))

/-- **Where one answer takes effect**, every other step of the caller leaves what is committed as it is. -/
theorem committed_elsewhere {first' rest' : List Nat} (hbefore : (w.talk i first).Quiet)
    (hafter : ((w.run (first ++ [i])).talk i rest).Quiet)
    (hsplit : first ++ i :: rest = first' ++ i :: rest') (hne : first' ≠ first) :
    ((w.run first').step i).store.committed = (w.run first').store.committed := by
  rcases List.append_eq_append_iff.mp hsplit with ⟨mid, rfl, hmid⟩ | ⟨mid, rfl, hmid⟩
  · cases mid with
    | nil => exact absurd (List.append_nil first) hne
    | cons j mid =>
      obtain ⟨rfl, rfl⟩ := List.cons_eq_cons.mp hmid
      have hrun : w.run (first ++ i :: mid) = (w.run (first ++ [i])).run mid := by
        rw [← run_append, List.append_assoc, List.singleton_append]
      rw [hrun]
      exact committed_of_quiet_talk hafter
  · cases mid with
    | nil => exact absurd (List.append_nil first').symm hne
    | cons j mid =>
      obtain ⟨rfl, -⟩ := List.cons_eq_cons.mp hmid
      exact committed_of_quiet_talk hbefore

variable {call : ServiceCall} {tape : Tape} {c : Caller}

/-- **Nothing takes effect in the conversation of a mutation that fails.** -/
theorem quiet_of_hasFailed (hcaller : w.callers[i]? = some (.fresh call tape))
    (hcall : call.IsMutation) (hc : (w.run schedule).callers[i]? = some c) (hfailed : c.hasFailed) :
    (w.talk i schedule).Quiet := by
  obtain ⟨left, desk, hrun, hsays, -⟩ := says_talk hcaller schedule
  cases hrun.symm.trans hc
  have heffective := ServiceCall.isEffective hcall (w.talk i schedule)
  cases left with
  | done result =>
    cases result with
    | ok value => cases hfailed
    | error error => exact (heffective (some (.error error)) hsays).quiet_of_error
  | abort => exact (heffective none hsays).quiet nofun
  | ask request next => cases hfailed

/-- **One thing takes effect in the conversation of a mutation that returns a value.** -/
theorem split_of_hasReturned (hcaller : w.callers[i]? = some (.fresh call tape))
    (hcall : call.IsMutation) (hc : (w.run schedule).callers[i]? = some c)
    (hreturned : c.hasReturned) :
    ∃ (before : Talk) (x : Exchange) (after : Talk), w.talk i schedule = before ++ x :: after ∧
      before.Quiet ∧ x.takesEffect ∧ after.Quiet := by
  obtain ⟨left, desk, hrun, hsays, -⟩ := says_talk hcaller schedule
  cases hrun.symm.trans hc
  have heffective := ServiceCall.isEffective hcall (w.talk i schedule)
  cases left with
  | done result =>
    cases result with
    | ok value => exact (heffective (some (.ok value)) hsays).split
    | error error => cases hreturned
  | abort => cases hreturned
  | ask request next => cases hreturned

/-- What takes effect in a step does so on what the caller has staged. -/
theorem effect_of_saying {x : Exchange} (hcaller : w.callers[i]? = some (.fresh call tape))
    (hsaying : (w.run first).saying i = [x]) (hx : x.takesEffect) :
    x.Effect (w.talk i first).staged (w.run first).store.committed
      ((w.run first).step i).store.committed := by
  obtain ⟨left, desk, hrun, -, hfollows⟩ := says_talk hcaller first
  rcases effect_step hrun with ⟨y, hy, -, heffect⟩ | ⟨hquiet, -⟩
  · cases hsaying.symm.trans hy
    rw [hfollows.staged] at heffect
    exact heffect
  · rw [hsaying] at hquiet
    exact absurd (hx.symm.trans (hquiet x (List.mem_singleton_self x))) (by decide)

/-- **A call that fails leaves no trace**, and a call that returns a value has done all that it did in one
step. -/
theorem traceless_run (hcaller : w.callers[i]? = some (.fresh call tape)) (hcall : call.IsMutation)
    (schedule : List Nat) (hc : (w.run schedule).callers[i]? = some c) :
    (c.hasFailed → ∀ first rest, schedule = first ++ i :: rest →
      ((w.run first).step i).store.committed = (w.run first).store.committed ∧
        (w.run first).store.nextOrder ≤ ((w.run first).step i).store.nextOrder) ∧
    (c.hasReturned → ∃ first rest x, schedule = first ++ i :: rest ∧
      (w.run first).saying i = [x] ∧
      x.Effect (w.talk i first).staged (w.run first).store.committed
        ((w.run first).step i).store.committed ∧
      ∀ first' rest', schedule = first' ++ i :: rest' → first' ≠ first →
        ((w.run first').step i).store.committed = (w.run first').store.committed) := by
  constructor
  · intro hfailed first rest hsplit
    have hquiet := quiet_of_hasFailed hcaller hcall hc hfailed
    rw [hsplit] at hquiet
    exact ⟨committed_of_quiet_talk hquiet, nextOrder_le_step ..⟩
  · intro hreturned
    obtain ⟨before, x, after, htalk, hbefore, hx, hafter⟩ :=
      split_of_hasReturned hcaller hcall hc hreturned
    obtain ⟨first, rest, hsplit, rfl, hsaying, rfl⟩ := split_talk htalk
    exact ⟨first, rest, x, hsplit, hsaying, effect_of_saying hcaller hsaying hx,
      fun first' rest' hsplit' => committed_elsewhere hbefore hafter (hsplit.symm.trans hsplit')⟩

/-- The payment and the release of its reservation, before the first step. -/
def paymentOpening : Crowd := opening (Table.empty.insert ⟨1⟩ tea) paymentCalls

/-- **The release that is refused at its commit has left no trace**, and the payment that came first was one
step. -/
theorem traceless_run_payment :
    (∃ release, (paymentOpening.run (paymentSchedule ++ [3])).callers[3]? = some release ∧
      release.hasFailed) ∧
    (∀ first rest, paymentSchedule ++ [3] = first ++ 3 :: rest →
      ((paymentOpening.run first).step 3).store.committed = (paymentOpening.run first).store.committed) ∧
    (∃ payment, (paymentOpening.run (paymentSchedule ++ [3])).callers[2]? = some payment ∧
      payment.hasReturned) ∧
    ∃ first rest x, paymentSchedule ++ [3] = first ++ 2 :: rest ∧
      (paymentOpening.run first).saying 2 = [x] ∧
      x.Effect (paymentOpening.talk 2 first).staged (paymentOpening.run first).store.committed
        ((paymentOpening.run first).step 2).store.committed := by
  refine ⟨⟨_, rfl, rfl⟩, fun first rest hsplit => ?_, ⟨_, rfl, rfl⟩, ?_⟩
  · exact ((traceless_run (w := paymentOpening) (i := 3) rfl trivial (paymentSchedule ++ [3]) rfl).1 rfl
      first rest hsplit).1
  · obtain ⟨first, rest, x, hsplit, hsaying, heffect, -⟩ :=
      (traceless_run (w := paymentOpening) (i := 2) rfl trivial (paymentSchedule ++ [3]) rfl).2 rfl
    exact ⟨first, rest, x, hsplit, hsaying, heffect⟩

end Crowd

end Stockroom
