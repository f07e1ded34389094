import Stockroom.Proofs.Crowd.Traceless
import Stockroom.Proofs.Service.Absence

/-!
# Proofs/Crowd/Removal — a product that was removed is frozen

Once somebody was told that a product is removed, **nothing that is held about it changes any more**
(`frozen_run`): not its row, not its reservations, not its entries.  Removing a product leaves its version
alone, so it is not the versions that protect it from units of work that have read the record before.  It is
that a commit looks for a live record once more, and that nothing is committed about a product without a
write of its record.

Whoever needs the product and begins later gets an error, and no listing shows the product.
-/

namespace Stockroom

open Store

variable {p : ProductId}

/-! ## One step -/

/-- **What takes effect changes nothing about a removed product**, if what is committed is anchored. -/
theorem Exchange.Effect.frozen {x : Exchange} {waiting : Option (List Write)} {t t' : Tables}
    (h : x.Effect waiting t t') (hanchored : x.request = .store .commit →
      ∀ writes, waiting = some writes → Write.Anchored writes)
    (ht : t.Filed) (hp : t.Removed p) : t.Frozen p t' := by
  obtain ⟨request, answer⟩ := x
  cases request with
  | store r =>
    cases r with
    | commit =>
      obtain ⟨writes, hwaiting, happly⟩ := h
      exact Write.frozen_of_anchored (hanchored rfl writes hwaiting) ht hp happly
    | createStock record =>
      obtain ⟨hnone, rfl⟩ := h
      obtain ⟨old, time, hrow⟩ := hp
      refine t.frozen_insert ?_
      rintro rfl
      cases hnone.symm.trans hrow
    | setThreshold product threshold now =>
      obtain ⟨live, updated, hlive, -, rfl⟩ := h
      exact t.frozen_insert (hp.ne_of_live hlive)
    | removeStock product now =>
      obtain ⟨live, hlive, rfl⟩ := h
      exact t.frozen_insert (hp.ne_of_live hlive)
    | _ => exact h.elim
  | _ => exact h.elim

namespace Caller

variable {c : Caller} {s : Store}

/-- **A step of a caller changes nothing about a removed product.** -/
theorem frozen_step (h : c.Meets (fun _ => anchoringTerms) (fun _ _ _ _ => True) s)
    (ht : s.committed.Filed) (hp : s.committed.Removed p) :
    s.committed.Frozen p (c.step s).2.committed := by
  rcases c.effect_step s with ⟨x, hsaying, -, heffect⟩ | ⟨-, hsame⟩
  · refine heffect.frozen (fun hcommit writes hwaiting => ?_) ht hp
    rcases c.saying_cases s with ⟨hnothing, -⟩ | ⟨request, next, hrest⟩
    · cases hnothing.symm.trans hsaying
    · rw [saying_of_ask hrest] at hsaying
      obtain rfl := List.singleton_inj.mp hsaying
      obtain ⟨u, hunit, rfl⟩ := Option.map_eq_some_iff.mp hwaiting
      unfold Meets at h
      rw [hrest] at h
      exact (h s id).1 hcommit u hunit
  · exact hsame ▸ .refl p _

end Caller

namespace Crowd

variable {w : Crowd} {schedule : List Nat}

/-! ## All steps -/

theorem filed_opening (catalogue : Table ProductId Product) (calls : List (ServiceCall × Tape))
    (schedule : List Nat) : ((opening catalogue calls).run schedule).store.committed.Filed := by
  refine lasting_filed.run ⟨fun _ _ h => ?_, fun _ _ h => ?_⟩ schedule <;> cases h

/-- **Whatever is committed is anchored.** -/
theorem anchoring_run (catalogue : Table ProductId Product) (calls : List (ServiceCall × Tape))
    (schedule : List Nat) : ∀ c ∈ ((opening catalogue calls).run schedule).callers,
      c.Meets (fun _ => anchoringTerms) (fun _ _ _ _ => True)
        ((opening catalogue calls).run schedule).store := by
  refine meets_run_of (fun _ first j h => lasting_filed.step h j) (fun c hc => ?_) schedule
  obtain ⟨⟨call, tape⟩, -, rfl⟩ := List.mem_map.mp hc
  have hfresh : (Desk.fresh tape).Anchored [] (emptyStore catalogue) :=
    ⟨Desk.shows_fresh tape (filed_opening catalogue [] []), nofun, nofun⟩
  exact (call.keeps_anchoring _ _ hfresh).mono fun _ _ _ _ => trivial

theorem frozen_step {i : Nat} (h : ∀ c ∈ w.callers,
      c.Meets (fun _ => anchoringTerms) (fun _ _ _ _ => True) w.store)
    (hs : w.store.committed.Absent p) : w.store.committed.Frozen p (w.step i).store.committed := by
  cases hi : w.callers[i]? with
  | none =>
    rw [step, hi]
    exact .refl p _
  | some c =>
    rw [step_of_getElem? hi]
    exact Caller.frozen_step (h c (List.mem_of_getElem? hi)) hs.1 hs.2

/-- **Nothing changes about a product after it was removed.** -/
theorem frozen_after {catalogue : Table ProductId Product} {calls : List (ServiceCall × Tape)}
    {past : List Nat} (hs : ((opening catalogue calls).run past).store.committed.Removed p)
    (more : List Nat) : ((opening catalogue calls).run past).store.committed.Frozen p
      ((opening catalogue calls).run (past ++ more)).store.committed := by
  induction more using List.reverseRecOn with
  | nil => exact (List.append_nil past).symm ▸ .refl p _
  | append_singleton more i ih =>
    rw [← List.append_assoc, run_concat]
    exact ih.trans (frozen_step (anchoring_run _ _ _) ⟨filed_opening .., hs.of_row ih.row⟩)

/-! ## Callers -/

/-- **A product that a caller has removed is removed.** -/
theorem removed_of_returned {catalogue : Table ProductId Product} {calls : List (ServiceCall × Tape)}
    {j : Nat} {desk : Desk} (hj : ((opening catalogue calls).run schedule).callers[j]? =
      some ⟨.remove p, .done (.ok ()), desk⟩) :
    ((opening catalogue calls).run schedule).store.committed.Removed p := by
  obtain ⟨tape, hcall⟩ := exists_tape_of_run hj
  have hmeets : (Caller.fresh (.remove p) tape).Meets
      (fun _ => .whileLasting (Tables.Removed p) (fun _ _ _ => True) False)
      (fun call result _ s => call = .remove p → result.isOk → s.committed.Removed p)
      (emptyStore catalogue) :=
    Program.Meets.mono StockService.meets_remove fun result _ s h _ hok => by
      cases result with
      | ok result => exact h
      | error error => cases hok
  obtain ⟨c, hrun, -, hc⟩ := meets_at_run (fun _ first j h => (lasting_removed p).step h j)
    (fresh_of_opening hcall) hmeets schedule
  cases hj.symm.trans hrun
  exact hc _ id rfl rfl

/-- Whoever had no turn has not begun. -/
theorem fresh_of_not_mem {catalogue : Table ProductId Product} {calls : List (ServiceCall × Tape)}
    {begun : List Nat} {i : Nat} {c : Caller}
    (hc : ((opening catalogue calls).run begun).callers[i]? = some c) (hi : i ∉ begun) :
    ∃ call tape, c = .fresh call tape := by
  obtain ⟨tape, hcall⟩ := exists_tape_of_run hc
  exact ⟨c.call, tape, Option.some_inj.mp
    (hc.symm.trans ((callers_run_of_not_mem hi).trans (fresh_of_opening hcall)))⟩

/-- **Whoever needs the product and begins when it was removed gets an error**: with turns enough the call
ends, it is not abandoned, and it does not succeed. -/
theorem fails_of_needs {catalogue : Table ProductId Product} {calls : List (ServiceCall × Tape)}
    {begun : List Nat} {i : Nat} {c : Caller} {turns : Nat → Nat}
    (hs : ((opening catalogue calls).run begun).store.committed.Removed p)
    (hc : ((opening catalogue calls).run begun).callers[i]? = some c) (hi : i ∉ begun)
    (hneeds : c.call.Needs p ((opening catalogue calls).run begun).store.committed)
    (hfirst : turns 0 = i) (hturns : Attends turns i) :
    ∃ n c', ((opening catalogue calls).run (begun ++ (List.range n).map turns)).callers[i]? = some c' ∧
      ∃ error, c'.rest = .done (.error error) := by
  obtain ⟨call, tape, rfl⟩ := fresh_of_not_mem hc hi
  -- After its first turn the caller balks, and then it comes to an end.
  have hstep := callers_step hc i
  rw [if_pos rfl] at hstep
  have hbalks := ServiceCall.balks_begun tape ⟨filed_opening catalogue calls begun, hs⟩ hneeds
  have hlater : Attends (fun k => turns (k + 1)) i := fun n => by
    obtain ⟨m, hm, heq⟩ := hturns (n + 1)
    exact ⟨m - 1, by omega, (congrArg turns (by omega)).trans heq⟩
  obtain ⟨n, c', hrun, -, hover⟩ := over_run hstep hlater
  obtain ⟨c'', hrun', -, hmeets⟩ := meets_at_run (fun _ first j h => (lasting_absent p).step h j) hstep
    (by rw [step_of_getElem? hc]; exact hbalks) ((List.range n).map fun k => turns (k + 1))
  cases hrun.symm.trans hrun'
  refine ⟨n + 1, c', ?_, ?_⟩
  · rw [run_append, List.range_succ_eq_map, List.map_cons, List.map_map, hfirst, run_cons]
    exact hrun
  · unfold Caller.Meets at hmeets
    rcases hover with ⟨result, hrest⟩ | hrest <;> rw [hrest] at hmeets
    · cases result with
      | ok value => exact (hmeets _ id).elim
      | error error => exact ⟨error, hrest⟩
    · exact hmeets.elim

/-- What a listing that has ended shows. -/
def Lists (p : ProductId) : (call : ServiceCall) → Except ServiceError call.Result → Prop
  | .listStock _, .ok result => ∀ record ∈ result.items, record.product ≠ p
  | .listLowStock _, .ok result => ∀ record ∈ result.items, record.product ≠ p
  | _, _ => True

/-- **No listing that begins when the product was removed shows it.** -/
theorem lists_of_removed {catalogue : Table ProductId Product} {calls : List (ServiceCall × Tape)}
    {begun later : List Nat} {i : Nat} {call : ServiceCall} {result : Except ServiceError call.Result}
    {desk : Desk} (hs : ((opening catalogue calls).run begun).store.committed.Removed p) (hi : i ∉ begun)
    (hc : ((opening catalogue calls).run (begun ++ later)).callers[i]? = some ⟨call, .done result, desk⟩) :
    Lists p call result := by
  obtain ⟨tape, hcall⟩ := exists_tape_of_run hc
  have hbegun : ((opening catalogue calls).run begun).callers[i]? = some (.fresh call tape) :=
    (callers_run_of_not_mem hi).trans (fresh_of_opening hcall)
  have habsent : (Desk.fresh tape).Shows (Tables.Absent p) ((opening catalogue calls).run begun).store :=
    Desk.shows_fresh tape ⟨filed_opening catalogue calls begun, hs⟩
  have hmeets (h : (Caller.fresh call tape).Meets (fun _ => (absence p).toTerms)
      (fun call result _ _ => Lists p call result) ((opening catalogue calls).run begun).store) :
      Lists p call result := by
    obtain ⟨c, hrun, -, hlists⟩ :=
      meets_at_run (fun _ first j h => (lasting_absent p).step h j) hbegun h later
    rw [← run_append] at hrun
    cases hc.symm.trans hrun
    exact hlists _ id
  cases call with
  | listStock page =>
    exact hmeets ((StockService.meets_listStock habsent).mono fun result _ _ h => by
      cases result <;> exact h)
  | listLowStock page =>
    exact hmeets ((StockService.meets_listLowStock habsent).mono fun result _ _ h => by
      cases result <;> exact h)
  | _ => exact trivial

/-- **A product that was removed is frozen.**  Once a caller was told that the product is removed, no step
changes its row, its reservations or its entries, whatever is waiting in units of work.  The row stays in the
way of a new registration; whoever needs the product and begins later gets an error; and no listing that
begins later shows the product. -/
theorem frozen_run (catalogue : Table ProductId Product) (calls : List (ServiceCall × Tape))
    {past : List Nat} {j : Nat} {p : ProductId} {desk : Desk}
    (hremoved : ((opening catalogue calls).run past).callers[j]? =
      some ⟨.remove p, .done (.ok ()), desk⟩) (more : List Nat) :
    ((opening catalogue calls).run past).store.committed.Frozen p
        ((opening catalogue calls).run (past ++ more)).store.committed ∧
      ((opening catalogue calls).run (past ++ more)).store.committed.Removed p ∧
      (∀ (record : StockRecord) unit, record.product = p → ∃ detail,
        Session.answer ⟨((opening catalogue calls).run (past ++ more)).store, unit⟩ (.createStock record) =
          (.error (.uniqueViolation detail), ⟨((opening catalogue calls).run (past ++ more)).store, unit⟩)) ∧
      (∀ (i : Nat) c turns, ((opening catalogue calls).run (past ++ more)).callers[i]? = some c →
        i ∉ past ++ more → c.call.Needs p ((opening catalogue calls).run (past ++ more)).store.committed →
        turns 0 = i → Attends turns i → ∃ n c',
          ((opening catalogue calls).run (past ++ more ++ (List.range n).map turns)).callers[i]? = some c' ∧
            ∃ error, c'.rest = .done (.error error)) ∧
      (∀ (i : Nat) page result desk, i ∉ past → (
        ((opening catalogue calls).run (past ++ more)).callers[i]? =
          some ⟨.listStock page, .done (.ok result), desk⟩ ∨
        ((opening catalogue calls).run (past ++ more)).callers[i]? =
          some ⟨.listLowStock page, .done (.ok result), desk⟩) →
        ∀ record ∈ result.items, record.product ≠ p) := by
  have hs := removed_of_returned hremoved
  have hfrozen := frozen_after hs more
  have hlater := hs.of_row hfrozen.row
  refine ⟨hfrozen, hlater, fun _ unit => StockService.createStock_of_removed hlater unit,
    fun i c turns hc hi => fails_of_needs hlater hc hi, fun i page result desk hi hc => ?_⟩
  exact hc.elim (lists_of_removed hs hi) (lists_of_removed hs hi)

/-- A product is registered, reserved and removed, and somebody wants to release what was reserved. -/
def retiringCalls : List (ServiceCall × Tape) :=
  [ .register ⟨1⟩ 10 2, .reserve .standard ⟨1⟩ 3 ⟨7⟩ none, .remove ⟨1⟩,
    .release ⟨1⟩ 3 ⟨7⟩ .cancelled ].map (·, .unused (fun _ => ⟨0⟩) fun _ => ⟨0⟩)

/-- The product is removed when everything that a reservation writes is waiting. -/
def retiringSchedule : List Nat := List.replicate 4 0 ++ List.replicate 7 1 ++ List.replicate 3 2

/-- **A reservation that had everything ready is not committed** over a removed product, and a release that
begins later fails. -/
theorem frozen_run_reserved :
    (∃ desk, ((opening .empty retiringCalls).run retiringSchedule).callers[2]? =
      some ⟨.remove ⟨1⟩, .done (.ok ()), desk⟩) ∧
    (((opening .empty retiringCalls).run (retiringSchedule ++ List.replicate 3 1)).callers[1]?.any
      Caller.hasFailed) ∧
    ((opening .empty retiringCalls).run retiringSchedule).store.committed.Frozen ⟨1⟩
      ((opening .empty retiringCalls).run (retiringSchedule ++ List.replicate 3 1)).store.committed ∧
    ∃ n c, ((opening .empty retiringCalls).run (retiringSchedule ++ List.replicate 3 1 ++
      (List.range n).map fun _ => 3)).callers[3]? = some c ∧
        ∃ error, c.rest = .done (.error error) := by
  have hremoved : ∃ desk, ((opening .empty retiringCalls).run retiringSchedule).callers[2]? =
      some ⟨.remove ⟨1⟩, .done (.ok ()), desk⟩ := ⟨_, rfl⟩
  refine ⟨hremoved, rfl, ?_⟩
  obtain ⟨desk, hremoved⟩ := hremoved
  obtain ⟨hfrozen, -, -, hfails, -⟩ :=
    frozen_run .empty retiringCalls hremoved (List.replicate 3 1)
  exact ⟨hfrozen, hfails 3 _ (fun _ => 3) rfl (by decide) rfl rfl fun n => ⟨n, le_rfl, rfl⟩⟩

end Crowd

end Stockroom
