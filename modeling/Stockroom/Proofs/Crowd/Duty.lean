import Mathlib.Data.Nat.Find
import Stockroom.Proofs.Crowd.Run
import Stockroom.Proofs.Crowd.Terms

/-!
# Proofs/Crowd/Duty — callers that keep to their terms

**`Caller.Meets` is `Program.Meets` for somebody in a crowd**, with terms that may depend on the call.
A step of such a caller satisfies what its terms ask for (`Caller.Meets.step`).  Terms that rely on
nothing are kept in every run (`Crowd.meets_run`), and a program that ends is over after as many turns
as it has requests (`Crowd.endsWithin_run`).
-/

namespace Stockroom

open Store

namespace Caller

variable {c : Caller} {s s' : Store} {T : ServiceCall → Terms}
  {Q : (call : ServiceCall) → Except ServiceError call.Result → Desk → Store → Prop}

/-- A caller that has nothing left to do, and was not aborted. -/
def IsOver (c : Caller) : Prop := ∃ result, c.rest = .done result

/-- Whether a caller has returned a value. -/
def hasReturned (c : Caller) : Bool :=
  match c.rest with
  | .done (.ok _) => true
  | _ => false

/-- **A caller that keeps to the terms of its call.** -/
def Meets (T : ServiceCall → Terms)
    (Q : (call : ServiceCall) → Except ServiceError call.Result → Desk → Store → Prop) (c : Caller)
    (s : Store) : Prop :=
  c.rest.Meets (T c.call) (Q c.call) c.desk s

theorem Meets.later (h : c.Meets T Q s) (hs : (T c.call).rely s s') : c.Meets T Q s' :=
  Program.Meets.later h hs

/-- **A step of a caller** satisfies its terms, if it makes a request at all. -/
theorem Meets.step (h : c.Meets T Q s) :
    (c.step s = (c, s) ∨ ∃ request next, c.rest = .ask request next ∧
      (T c.call).owes c.desk request s) ∧ (c.step s).1.Meets T Q (c.step s).2 := by
  rcases step_cases c s with heq | ⟨request, next, hrest⟩
  · exact ⟨.inl heq, heq ▸ h⟩
  unfold Meets at h
  rw [hrest] at h
  obtain ⟨howes, hnext⟩ := h s ((T c.call).refl s)
  rw [step_eq_of_ask hrest]
  exact ⟨.inr ⟨request, next, hrest, howes⟩, hnext⟩

theorem endsWithin_step {n : Nat} (h : c.rest.EndsWithin n) :
    (c.step s).1.rest.EndsWithin (n - 1) := by
  cases hrest : c.rest with
  | done result =>
    have hstep : c.step s = (c, s) := by rw [step, hrest]
    rw [hstep, hrest]
    exact Program.endsWithin_done _ _
  | abort =>
    have hstep : c.step s = (c, s) := by rw [step, hrest]
    rw [hstep, hrest]
    exact Program.endsWithin_abort _
  | ask request next =>
    rw [step_eq_of_ask hrest]
    rw [hrest] at h
    obtain _ | n := n
    · exact h.elim
    · exact h _

end Caller

namespace Crowd

variable {w : Crowd} {i j : Nat} {c : Caller} {schedule : List Nat}

theorem callers_step (h : w.callers[i]? = some c) (j : Nat) :
    (w.step i).callers[j]? = if i = j then some (c.step w.store).1 else w.callers[j]? := by
  rw [step_of_getElem? h, List.getElem?_set]
  split
  · rw [if_pos (List.getElem?_eq_some_iff.mp h).1]
  · rfl

/-- A caller stays with its call. -/
theorem call_of_step {c' : Caller} (h : w.callers[j]? = some c)
    (h' : (w.step i).callers[j]? = some c') : c'.call = c.call := by
  cases hi : w.callers[i]? with
  | none =>
    rw [step, hi] at h'
    cases h.symm.trans h'
    rfl
  | some ci =>
    rw [callers_step hi] at h'
    split at h'
    · next hij =>
      subst hij
      cases hi.symm.trans h
      cases h'
      exact Caller.call_step ..
    · cases h.symm.trans h'
      rfl

/-- Nobody comes or goes. -/
theorem length_callers_run (w : Crowd) (schedule : List Nat) :
    (w.run schedule).callers.length = w.callers.length := by
  induction schedule generalizing w with
  | nil => rfl
  | cons i schedule ih =>
    rw [run_cons, ih]
    cases hi : w.callers[i]? with
    | none => rw [step, hi]
    | some c => rw [step_of_getElem? hi, List.length_set]

/-- **Every step of a caller uses up one of its requests.** -/
theorem endsWithin_run {schedule : List Nat} {n : Nat}
    (hends : ∀ c₀, w.callers[i]? = some c₀ → c₀.rest.EndsWithin n)
    (hc : (w.run schedule).callers[i]? = some c) : c.rest.EndsWithin (n - schedule.count i) := by
  induction schedule generalizing w n with
  | nil => exact hends c hc
  | cons j schedule ih =>
    by_cases hji : j = i
    · subst hji
      rw [List.count_cons_self, Nat.add_comm, ← Nat.sub_sub]
      refine ih (fun c₁ hc₁ => ?_) hc
      cases hj : w.callers[j]? with
      | none =>
        rw [step, hj, hj] at hc₁
        cases hc₁
      | some c₀ =>
        rw [callers_step hj, if_pos rfl] at hc₁
        cases hc₁
        exact Caller.endsWithin_step (hends c₀ hj)
    · rw [List.count_cons_of_ne hji]
      refine ih (fun c₁ hc₁ => hends c₁ ?_) hc
      cases hj : w.callers[j]? with
      | none => rwa [step, hj] at hc₁
      | some c₀ => rwa [callers_step hj, if_neg hji] at hc₁

variable {T : ServiceCall → Terms}
  {Q : (call : ServiceCall) → Except ServiceError call.Result → Desk → Store → Prop}

/-- Callers keep to their terms while somebody takes a step on which they may rely. -/
theorem meets_step_of (hrely : ∀ call, (T call).rely w.store (w.step i).store)
    (h : ∀ c ∈ w.callers, c.Meets T Q w.store) :
    ∀ c ∈ (w.step i).callers, c.Meets T Q (w.step i).store := by
  cases hi : w.callers[i]? with
  | none => rwa [step, hi]
  | some ci =>
    rw [step_of_getElem? hi] at hrely ⊢
    intro c hc
    rcases List.mem_or_eq_of_mem_set hc with hc | rfl
    · exact (h c hc).later (hrely c.call)
    · exact (h ci (List.mem_of_getElem? hi)).step.2

/-- **Callers keep to their terms in a run** in which they may rely on every step. -/
theorem meets_run_of (hrely : ∀ call first j,
      (T call).rely (w.run first).store ((w.run first).step j).store)
    (h : ∀ c ∈ w.callers, c.Meets T Q w.store) (schedule : List Nat) :
    ∀ c ∈ (w.run schedule).callers, c.Meets T Q (w.run schedule).store := by
  induction schedule generalizing w with
  | nil => exact h
  | cons i schedule ih =>
    exact ih (fun call first => hrely call (i :: first)) (meets_step_of (fun call => hrely call [] i) h)

/-- Callers that rely on nothing keep to their terms while somebody takes a step. -/
theorem meets_step (hrely : ∀ call s s', (T call).rely s s')
    (h : ∀ c ∈ w.callers, c.Meets T Q w.store) (i : Nat) :
    ∀ c ∈ (w.step i).callers, c.Meets T Q (w.step i).store :=
  meets_step_of (fun call => hrely call _ _) h

/-- **Callers that rely on nothing keep to their terms in every run.** -/
theorem meets_run (hrely : ∀ call s s', (T call).rely s s')
    (h : ∀ c ∈ w.callers, c.Meets T Q w.store) (schedule : List Nat) :
    ∀ c ∈ (w.run schedule).callers, c.Meets T Q (w.run schedule).store :=
  meets_run_of (fun call _ _ => hrely call _ _) h schedule

/-- **A caller keeps to its terms in a run** in which it may rely on every step. -/
theorem meets_at_run (hrely : ∀ call first j,
      (T call).rely (w.run first).store ((w.run first).step j).store)
    (hc : w.callers[i]? = some c) (h : c.Meets T Q w.store) (schedule : List Nat) :
    ∃ c', (w.run schedule).callers[i]? = some c' ∧ c'.call = c.call ∧
      c'.Meets T Q (w.run schedule).store := by
  induction schedule generalizing w c with
  | nil => exact ⟨c, hc, rfl, h⟩
  | cons j schedule ih =>
    by_cases hji : j = i
    · subst hji
      have hstep : (w.step j).callers[j]? = some (c.step w.store).1 := by
        rw [callers_step hc, if_pos rfl]
      rw [run_cons, ← c.call_step w.store]
      refine ih (fun call first => hrely call (j :: first)) hstep ?_
      rw [step_of_getElem? hc]
      exact h.step.2
    · refine ih (fun call first => hrely call (j :: first)) ?_ (h.later (hrely c.call [] j))
      cases hj : w.callers[j]? with
      | none => rwa [step, hj]
      | some cj => rwa [callers_step hj, if_neg hji]

/-! ## Callers that are not given up -/

/-- Turns without end of which a caller gets one again and again. -/
def Attends (turns : Nat → Nat) (i : Nat) : Prop := ∀ n, ∃ m, n ≤ m ∧ turns m = i

/-- A caller stays as it is while others have their turns. -/
theorem callers_run_of_not_mem (hi : i ∉ schedule) :
    (w.run schedule).callers[i]? = w.callers[i]? := by
  induction schedule generalizing w with
  | nil => rfl
  | cons j schedule ih =>
    obtain ⟨hij, hi⟩ := List.ne_and_not_mem_of_not_mem_cons hi
    rw [run_cons, ih hi]
    cases hj : w.callers[j]? with
    | none => rw [step, hj]
    | some cj => rw [callers_step hj, if_neg hij.symm]

/-- **A caller that is not given up comes to an end**: its program is a tree without infinite branches. -/
theorem over_run (hc : w.callers[i]? = some c) {turns : Nat → Nat} (hturns : Attends turns i) :
    ∃ n c', (w.run ((List.range n).map turns)).callers[i]? = some c' ∧ c'.call = c.call ∧
      (c'.IsOver ∨ c'.rest = .abort) := by
  obtain ⟨call, rest, desk⟩ := c
  induction rest generalizing w desk turns with
  | done result => exact ⟨0, _, hc, rfl, .inl ⟨result, rfl⟩⟩
  | abort => exact ⟨0, _, hc, rfl, .inr rfl⟩
  | ask request next ih =>
    -- The first turn of the caller, before which it only waits.
    have hturn : ∃ m, turns m = i := (hturns 0).imp fun _ h => h.2
    obtain ⟨m, hm, hbefore⟩ : ∃ m, turns m = i ∧ ∀ k < m, turns k ≠ i :=
      ⟨Nat.find hturn, Nat.find_spec hturn, fun _ => Nat.find_min hturn⟩
    have hwait : i ∉ (List.range m).map turns := fun hmem => by
      obtain ⟨k, hk, heq⟩ := List.mem_map.mp hmem
      exact hbefore k (List.mem_range.mp hk) heq
    have hwaited := (callers_run_of_not_mem (w := w) hwait).trans hc
    have hstep := callers_step hwaited i
    rw [if_pos rfl, Caller.step_eq_of_ask rfl, ← run_concat] at hstep
    have hlater : Attends (fun k => turns (m + 1 + k)) i := fun n => by
      obtain ⟨k, hk, heq⟩ := hturns (m + 1 + n)
      exact ⟨k - (m + 1), by omega, (congrArg turns (Nat.add_sub_of_le (by omega))).trans heq⟩
    obtain ⟨n, c', hrun, hcall, hover⟩ := ih _ hlater _ hstep
    refine ⟨m + 1 + n, c', ?_, hcall, hover⟩
    rw [List.range_add, List.map_append, List.map_map, run_append, List.range_succ, List.map_append,
      List.map_singleton, hm]
    exact hrun

end Crowd

end Stockroom
