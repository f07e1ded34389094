import Stockroom.Proofs.Crowd.Run
import Stockroom.Proofs.Ledger.Balance
import Stockroom.Proofs.Ledger.Settlement
import Stockroom.Proofs.Service.Alone

/-!
# Proofs/Crowd/Consistency — what is true at every moment of every run

Records, reservations and the ledger lie in different tables, and a unit of work writes them one by
one.  **Whatever order the calls take turns in, what is committed is consistent at every moment**: the
held pieces are the active reservations, a record is what its entries add up to, and no reservation is
settled twice.  Each of the three holds of a catalogue alone and is kept by every edit.
-/

namespace Stockroom

open Store

variable {A : ServiceCall → Prop} {s s' : Store}

/-! ## Reachable stores -/

theorem Reachable.storied (h : Reachable A s) : s.committed.Storied :=
  h.keeps (fun _ _ => rfl) fun _ ht he => ht.edit he

theorem Reachable.unposted (h : Reachable A s) : s.committed.Unposted :=
  h.keeps (fun _ _ h => (nomatch h)) fun _ ht he => ht.edit he

/-! ## Registered products -/

theorem Movement.Posts.known {m : Movement} {t t' : Tables} (h : m.Posts t t') {product : ProductId}
    (hnone : t.stock.get? product = none) : t'.stock.get? product = none := by
  obtain ⟨hlive, -, -, -, -, -, -⟩ := h
  have hne : product ≠ m.product := fun hp => by
    rw [hp, Tables.liveStock?_eq_some_iff.mp hlive] at hnone
    cases hnone
  rw [Table.get?_insert, if_neg hne]
  exact hnone

/-- Only the calls that register a product give it a row. -/
theorem Change.registers {call : ServiceCall} (h : Change call s s') {product : ProductId}
    {row : StockRow} (hnone : s.committed.stock.get? product = none)
    (hrow : s'.committed.stock.get? product = some row) :
    ∃ stock threshold, call = .register product stock threshold := by
  have hknown : s'.committed.stock.get? product ≠ none := by rw [hrow]; exact nofun
  have hwritten : ∀ {t : Tables} {other : ProductId} {old new : StockRow},
      t.stock.get? other = some old → t.stock.get? product = none →
      (t.stock.insert other new).get? product = none := by
    intro t other old new hold hnone
    rw [Table.get?_insert, if_neg (fun hp => by rw [hp, hold] at hnone; cases hnone)]
    exact hnone
  cases h with
  | post h hm => exact absurd (hm.known hnone) hknown
  | @register record stock threshold now t n hfresh hrecord hfits =>
    refine ⟨stock, threshold, ?_⟩
    by_cases hp : product = record.product
    · rw [hp]
    · have hsame : (t.putLive record.product record).stock.get? product = t.stock.get? product :=
        (Table.get?_insert ..).trans (if_neg hp)
      exact absurd (hsame.trans hnone) hknown
  | tune hlive htuned =>
    exact absurd (hwritten (Tables.liveStock?_eq_some_iff.mp hlive) hnone) hknown
  | remove hlive => exact absurd (hwritten (Tables.liveStock?_eq_some_iff.mp hlive) hnone) hknown
  | draw => exact absurd hnone hknown
  | place hlines huser hid hfresh hitems =>
    exact absurd (hitems.keeps (P := fun t => t.stock.get? product = none)
      (fun _ _ _ ⟨_, _, _, hm⟩ => hm.known) hnone) hknown
  | pay horder huser hpaid hitems =>
    exact absurd (hitems.keeps (P := fun t => t.stock.get? product = none)
      (fun _ _ _ ⟨_, hm⟩ => hm.known) hnone) hknown
  | ship horder hshipped => exact absurd hnone hknown
  | complete horder hcompleted => exact absurd hnone hknown
  | cancel horder huser hcancelled hitems =>
    refine absurd (hitems.keeps (P := fun t => t.stock.get? product = none) ?_ hnone) hknown
    rintro item t t' (⟨_, -, -, rfl⟩ | ⟨_, hm⟩) ht
    · exact ht
    · exact hm.known ht

/-- A product that was registered is in balance afterwards. -/
theorem Change.balanced {product : ProductId} {stock threshold : Int}
    (h : Change (.register product stock threshold) s s') (hs : Reachable A s) :
    s'.committed.Balanced product stock := by
  cases h with
  | post h hm => cases h
  | register hfresh hrecord hfits => exact Tables.balanced_register hs.unposted hfresh hrecord

theorem Later.balanced {product : ProductId} {stock : Int} (hs : Reachable A s) (hl : Later A s s')
    (h : s.committed.Balanced product stock) : s'.committed.Balanced product stock :=
  Edits.keeps (fun _ ht he => ht.edit he) hs.wellKept h (hl.edits hs.wellKept)

namespace Crowd

variable {calls : List (ServiceCall × Tape)} {w : Crowd}

/-- **A product was registered with so many free pieces**: a call to do so has changed the store. -/
def Registered (w : Crowd) (product : ProductId) (stock : Int) : Prop :=
  ∃ c ∈ w.callers, ∃ threshold, c.call = .register product stock threshold ∧
    ∃ deed ∈ c.desk.trail, deed.IsChange

theorem Assured.balanced (h : w.Assured A calls) {product : ProductId} {stock : Int}
    (hr : w.Registered product stock) : w.store.committed.Balanced product stock := by
  obtain ⟨c, hc, threshold, hcall, deed, hdeed, hchange⟩ := hr
  obtain ⟨i, hi⟩ := List.getElem?_of_mem hc
  obtain ⟨tape, -, hkeeps⟩ := h.callers i c hi
  obtain ⟨hbefore, hdid, hlater⟩ := hkeeps.trail deed hdeed
  rcases hdid with heq | hdid
  · exact absurd (congrArg Store.committed heq.symm) hchange
  · rw [hcall] at hdid
    exact hlater.balanced (hbefore.later (.single (hcall ▸ hkeeps.allowed) hdid))
      (hdid.balanced hbefore)

/-- Every row was registered by one of the calls. -/
def Recorded (w : Crowd) : Prop :=
  ∀ product row, w.store.committed.stock.get? product = some row →
    ∃ stock, w.Registered product stock

end Crowd

namespace Caller

/-- What a step changes is written down in the trail of the caller. -/
theorem exists_deed_of_step (c : Caller) (s : Store) (h : (c.step s).2 ≠ s) :
    ∃ deed ∈ (c.step s).1.desk.trail, deed.before = s ∧ deed.after = (c.step s).2 := by
  rcases step_cases c s with heq | ⟨request, next, hrest⟩
  · rw [heq] at h
    exact absurd rfl h
  rw [step_eq_of_ask hrest] at h ⊢
  cases request with
  | store r => exact ⟨_, List.mem_append_right _ (List.mem_singleton_self _), rfl, rfl⟩
  | now => exact absurd rfl h
  | freshId => exact absurd rfl h
  | log _ => exact absurd rfl h
  | sleep _ => exact absurd rfl h

end Caller

namespace Crowd

variable {calls : List (ServiceCall × Tape)} {w : Crowd}

/-- A caller that has taken a step still has done what it did. -/
theorem Registered.step {product : ProductId} {stock : Int} (h : w.Registered product stock)
    (i : Nat) : (w.step i).Registered product stock := by
  obtain ⟨c, hc, threshold, hcall, deed, hdeed, hchange⟩ := h
  obtain ⟨j, hj⟩ := List.getElem?_of_mem hc
  cases hi : w.callers[i]? with
  | none =>
    rw [Crowd.step, hi]
    exact ⟨c, hc, threshold, hcall, deed, hdeed, hchange⟩
  | some c' =>
    rw [step_of_getElem? hi]
    by_cases hij : i = j
    · subst hij
      rw [hi] at hj
      cases hj
      have hlt : i < w.callers.length := (List.getElem?_eq_some_iff.mp hi).1
      exact ⟨_, List.mem_set hlt _, threshold, (Caller.call_step ..).trans hcall, deed,
        (Caller.trail_prefix_step ..).subset hdeed, hchange⟩
    · have hj' : (w.callers.set i (c'.step w.store).1)[j]? = some c :=
        (List.getElem?_set_ne hij).trans hj
      exact ⟨c, List.mem_of_getElem? hj', threshold, hcall, deed, hdeed, hchange⟩

theorem recorded_opening (catalogue : Table ProductId Product) (calls : List (ServiceCall × Tape)) :
    (opening catalogue calls).Recorded := fun _ _ h => nomatch h

theorem Recorded.step {steps : Nat} (hr : w.Recorded) (h : w.Assured A calls)
    (hcounted : w.Counted steps) (hsteps : steps < 2 ^ 63) (i : Nat) : (w.step i).Recorded := by
  intro product row hrow
  cases hold : w.store.committed.stock.get? product with
  | some old =>
    obtain ⟨stock, hstock⟩ := hr product old hold
    exact ⟨stock, hstock.step i⟩
  | none =>
    have hnew : (w.step i).store.committed ≠ w.store.committed := fun heq => by
      rw [heq, hold] at hrow
      cases hrow
    cases hi : w.callers[i]? with
    | none => exact absurd (by rw [Crowd.step, hi]) hnew
    | some c =>
      rw [step_of_getElem? hi] at hrow hnew ⊢
      obtain ⟨tape, -, hkeeps⟩ := h.callers i c hi
      obtain ⟨hdid, -, -⟩ := hkeeps.step h.reachable (hcounted.admits hsteps hi)
      have hne : (c.step w.store).2 ≠ w.store := fun heq => hnew (congrArg Store.committed heq)
      obtain ⟨deed, hdeed, hbefore, hafter⟩ := c.exists_deed_of_step w.store hne
      obtain ⟨stock, threshold, hcall⟩ := (hdid.resolve_left hne).registers hold hrow
      have hlt : i < w.callers.length := (List.getElem?_eq_some_iff.mp hi).1
      refine ⟨stock, _, List.mem_set hlt _, threshold, (Caller.call_step ..).trans hcall, deed,
        hdeed, ?_⟩
      rw [Deed.IsChange, hbefore, hafter]
      exact hnew.symm

/-- **Every row of a run was registered.** -/
theorem Recorded.run {steps : Nat} (hr : w.Recorded) (h : w.Assured A calls)
    (hcounted : w.Counted steps) {schedule : List Nat}
    (hsteps : steps + schedule.length ≤ 2 ^ 63) : (w.run schedule).Recorded := by
  induction schedule generalizing w steps with
  | nil => exact hr
  | cons i schedule ih =>
    rw [List.length_cons] at hsteps
    exact ih (hr.step h hcounted (by omega) i) (h.step hcounted (by omega) i) (hcounted.step i)
      (by omega)

theorem recorded_run (catalogue : Table ProductId Product) (hfits : ∀ call ∈ calls, call.1.Fits)
    {schedule : List Nat} (hsteps : schedule.length < 2 ^ 63) :
    ((opening catalogue calls).run schedule).Recorded :=
  (recorded_opening catalogue calls).run
    (assured_opening catalogue (fun _ hcall => List.mem_map_of_mem hcall) hfits)
    (counted_opening catalogue calls) (by omega)

/-! ## Runs -/

/-- A product is registered and reserved, and then a release and a deduction race for the reservation. -/
def raceCalls : List (ServiceCall × Tape) :=
  [ .register ⟨1⟩ 5 1, .reserve .standard ⟨1⟩ 3 ⟨7⟩ none, .release ⟨1⟩ 3 ⟨7⟩ .cancelled,
    .deduct ⟨1⟩ 3 ⟨7⟩ ].map (·, .unused (fun _ => ⟨0⟩) fun _ => ⟨0⟩)

/-- The first two calls make all their requests; the other two take turns. -/
def raceSchedule : List Nat :=
  List.replicate 4 0 ++ List.replicate 9 1 ++ (List.replicate 10 [2, 3]).flatten

theorem raceCalls_fit : ∀ call ∈ raceCalls, call.1.Fits := by
  simp [raceCalls, ServiceCall.Fits]
  decide

/-- **The held pieces of a record are its active reservations**, at every moment of every run. -/
theorem sound_run (catalogue : Table ProductId Product) (hfits : ∀ call ∈ calls, call.1.Fits)
    {schedule : List Nat} (hsteps : schedule.length < 2 ^ 63) {product : ProductId} {row : StockRow}
    (hrow : ((opening catalogue calls).run schedule).store.committed.stock.get? product =
      some row) :
    row.record.InBounds ∧
      row.record.reserved =
        ((opening catalogue calls).run schedule).store.committed.held product ∧
      ∀ r ∈ ((opening catalogue calls).run schedule).store.committed.activeOf product,
        0 < r.quantity := by
  have hsound := (assured_run catalogue hfits hsteps).reachable.sound
  refine ⟨hsound.bounds _ _ hrow, hsound.held _ _ hrow, fun r hr => ?_⟩
  obtain ⟨key, hkey⟩ := Table.mem_values.mp (List.mem_filter.mp hr).1
  exact hsound.positive key r hkey

/-- While the release and the deduction are under way, three pieces are held. -/
theorem sound_run_race :
    ∃ row, ((opening .empty raceCalls).run (raceSchedule.take 17)).store.committed.stock.get? ⟨1⟩ =
        some row ∧
      row.record.InBounds ∧
      row.record.reserved =
        ((opening .empty raceCalls).run (raceSchedule.take 17)).store.committed.held ⟨1⟩ ∧
      row.record.reserved = 3 :=
  have h := @sound_run raceCalls .empty raceCalls_fit (raceSchedule.take 17) (by decide) ⟨1⟩ _ rfl
  ⟨_, rfl, h.1, h.2.1, rfl⟩

/-- **A record is what its entries add up to**, at every moment of every run: every row was registered
by a call, and the ledger of a registered product is in balance. -/
theorem balanced_run (catalogue : Table ProductId Product) (hfits : ∀ call ∈ calls, call.1.Fits)
    {schedule : List Nat} (hsteps : schedule.length < 2 ^ 63) :
    ((opening catalogue calls).run schedule).Recorded ∧
      ∀ product stock, ((opening catalogue calls).run schedule).Registered product stock →
        ((opening catalogue calls).run schedule).store.committed.Balanced product stock :=
  ⟨recorded_run catalogue hfits hsteps, fun _ _ hr =>
    (assured_run catalogue hfits hsteps).balanced hr⟩

/-- After the race the record is what its entries add up to. -/
theorem balanced_run_race :
    ((opening .empty raceCalls).run raceSchedule).Recorded ∧
      ((opening .empty raceCalls).run raceSchedule).store.committed.Balanced ⟨1⟩ 5 :=
  have h := @balanced_run raceCalls .empty raceCalls_fit raceSchedule (by decide)
  ⟨h.1, h.2 ⟨1⟩ 5 ⟨_, List.mem_cons_self, 1, rfl, _, .tail _ (.head _), by decide⟩⟩

/-- **No reservation is settled twice**: at every moment of every run the ledger has settled each as
often as its status says. -/
theorem tallies_run (catalogue : Table ProductId Product) (hfits : ∀ call ∈ calls, call.1.Fits)
    {schedule : List Nat} (hsteps : schedule.length < 2 ^ 63) (key : ReservationKey) :
    ((opening catalogue calls).run schedule).store.committed.Tallies key :=
  (assured_run catalogue hfits hsteps).reachable.storied.tallies key

/-- Of a release and a deduction that race, one has settled the reservation. -/
theorem tallies_run_race :
    ((opening .empty raceCalls).run raceSchedule).store.committed.Tallies ⟨⟨1⟩, ⟨7⟩⟩ :=
  tallies_run .empty raceCalls_fit (by decide) _

/-! ## Guarded calls -/

theorem not_tunable_of_forall (h : ∀ call ∈ calls, ∀ product threshold,
    call.1 ≠ .setThreshold product threshold) : ¬Tunable (· ∈ calls.map Prod.fst) := by
  rintro ⟨product, threshold, hmem⟩
  obtain ⟨call, hcall, heq⟩ := List.mem_map.mp hmem
  exact h call hcall product threshold heq

/-- **A guarded call that has returned a value might have run alone**, where no threshold may be set.
It has committed in exactly one of its steps; on the store before that step the same call alone, with
the same tape, returns the same value and leaves the store that was there after the step. -/
theorem alone_run (catalogue : Table ProductId Product) (hfits : ∀ call ∈ calls, call.1.Fits)
    (hfixed : ∀ call ∈ calls, ∀ product threshold, call.1 ≠ .setThreshold product threshold)
    {schedule : List Nat} (hsteps : schedule.length < 2 ^ 63) {i : Nat} {call : ServiceCall}
    {tape : Tape} {value : call.Result} {d : Desk} (hguarded : call.IsGuarded)
    (hcall : calls[i]? = some (call, tape))
    (hreturned : ((opening catalogue calls).run schedule).callers[i]? =
      some ⟨call, .done (.ok value), d⟩) :
    ∃ first rest, schedule = first ++ i :: rest ∧
      d.commits = [⟨.commit, ((opening catalogue calls).run first).store,
        ((opening catalogue calls).run (first ++ [i])).store⟩] ∧
      ∃ d' : Desk, d'.tape = d.tape ∧
        call.program.run.alone (.fresh tape) ((opening catalogue calls).run first).store =
          some (.ok value, d', ((opening catalogue calls).run (first ++ [i])).store) := by
  obtain ⟨tape', hcall', hkeeps⟩ := (assured_run catalogue hfits hsteps).callers i _ hreturned
  cases hcall.symm.trans hcall'
  obtain ⟨writes, tape', before, t, hs, hadmits, hdrafts, happly, hat⟩ :=
    hkeeps.rest _ (.refl _) value rfl hguarded
  obtain ⟨d', halone, htape⟩ := ServiceCall.alone_of_drafts hguarded
    (not_tunable_of_forall hfixed) hdrafts hs hadmits happly
  have hdeed : (⟨.commit, before, ⟨t, before.nextOrder⟩⟩ : Deed) ∈ d.trail := by
    have hmem := List.mem_singleton_self (⟨.commit, before, ⟨t, before.nextOrder⟩⟩ : Deed)
    rw [← List.nil_append [_], ← hat.commits] at hmem
    exact (List.mem_filter.mp hmem).1
  obtain ⟨first, rest, rfl, rfl, hafter⟩ := deed_of_opening hreturned hdeed
  refine ⟨first, rest, rfl, ?_, d', htape.trans hat.tape.symm, ?_⟩ <;> rw [← hafter]
  · exact hat.commits
  · exact halone

/-- The release that has won the race might have run alone. -/
theorem alone_run_race :
    ∃ first rest, raceSchedule = first ++ 2 :: rest ∧
      ∃ value d, (StockService.release ⟨1⟩ 3 ⟨7⟩ .cancelled).run.alone
          (.fresh (.unused (fun _ => ⟨0⟩) fun _ => ⟨0⟩))
          ((opening .empty raceCalls).run first).store =
        some (.ok value, d, ((opening .empty raceCalls).run (first ++ [2])).store) := by
  obtain ⟨first, rest, hsplit, -, d, -, halone⟩ := @alone_run raceCalls .empty raceCalls_fit
    (by simp [raceCalls]) raceSchedule (by decide) 2 (.release ⟨1⟩ 3 ⟨7⟩ .cancelled) _ _ _
    trivial rfl rfl
  exact ⟨first, rest, hsplit, _, d, halone⟩

end Crowd

end Stockroom
