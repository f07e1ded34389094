import Mathlib.Algebra.BigOperators.Group.Finset.Piecewise
import Mathlib.Algebra.Order.BigOperators.Group.Finset
import Stockroom.Proofs.Crowd.Closing
import Stockroom.Proofs.Crowd.Traceless
import Stockroom.Proofs.Crowd.Trail

/-!
# Proofs/Crowd/Supply — restocks add up, whoever else is there

A restock does not compare what it meets with what it has seen: its commit adds the pieces to whatever record
is there by then.  **So it never loses a race** (`restock_run`).  It fails only where the pieces do not fit into
a record that it meets, and if it returns a value one of its steps has added them, once and all of them.

The steps of a run are accounted for caller by caller.  **What the callers gain makes up the difference of the
run** (`sum_gain`), so restocks that race add up, and every other caller has gained what its own steps did.
-/

namespace Stockroom

open Store

/-! ## What a record gains -/

/-- The record after pieces were added to it. -/
def StockRecord.restocked (r : StockRecord) (quantity : Int) (now : Instant) : StockRecord :=
  { r with available := r.available + quantity, version := r.version + 1, updatedAt := now }

theorem StockRecord.eq_restocked {r next : StockRecord} {quantity : Int} {now : Instant}
    (hroom : Width.int64.Fits (r.version + 1)) (h : r.restock quantity now = .ok next) :
    next = r.restocked quantity now := by
  obtain ⟨-, hnext⟩ := restock_eq_ok_iff.mp h
  rw [(nextChecked_eq_ok_iff.mp hnext).2, StockRecord.next, Width.wrap_eq hroom]
  rfl

/-- The free pieces of a product, or none if it is not on offer. -/
def Store.Tables.free (t : Tables) (product : ProductId) : Int :=
  (t.liveStock? product).elim 0 StockRecord.available

theorem Store.Tables.free_of_live {t : Tables} {product : ProductId} {record : StockRecord}
    (h : t.liveStock? product = some record) : t.free product = record.available := by
  rw [free, h]
  rfl

namespace Crowd

variable {w : Crowd} {product : ProductId} {i : Nat} {schedule first rest : List Nat}

/-! ## What a caller gains -/

/-- **What the steps of one caller add to the free pieces of a product** in a run. -/
def gain (w : Crowd) (product : ProductId) (i : Nat) : List Nat → Int
  | [] => 0
  | j :: schedule =>
    (if j = i then (w.step j).store.committed.free product - w.store.committed.free product else 0) +
      (w.step j).gain product i schedule

theorem gain_append (w : Crowd) (product : ProductId) (i : Nat) (schedule more : List Nat) :
    w.gain product i (schedule ++ more) =
      w.gain product i schedule + (w.run schedule).gain product i more := by
  induction schedule generalizing w with
  | nil => exact (Int.zero_add _).symm
  | cons j schedule ih => rw [List.cons_append, gain, ih, gain, Int.add_assoc, run_cons]

/-- A caller whose steps change nothing that is committed gains nothing. -/
theorem gain_of_still (h : ∀ first rest, schedule = first ++ i :: rest →
    ((w.run first).step i).store.committed = (w.run first).store.committed) :
    w.gain product i schedule = 0 := by
  induction schedule generalizing w with
  | nil => rfl
  | cons j schedule ih =>
    have hlater : (w.step j).gain product i schedule = 0 := ih fun first rest hsplit =>
      h (j :: first) rest (congrArg (j :: ·) hsplit)
    rw [gain, hlater, Int.add_zero]
    split
    · next hji =>
      subst hji
      have hnow : (w.step j).store.committed = w.store.committed := h [] schedule rfl
      rw [hnow, Int.sub_self]
    · rfl

/-- **A caller with one step that changes what is committed** gains what this step adds. -/
theorem gain_of_once (hsplit : schedule = first ++ i :: rest)
    (hother : ∀ first' rest', schedule = first' ++ i :: rest' → first' ≠ first →
      ((w.run first').step i).store.committed = (w.run first').store.committed) :
    w.gain product i schedule = ((w.run first).step i).store.committed.free product -
      (w.run first).store.committed.free product := by
  have hbefore : w.gain product i first = 0 := gain_of_still fun first' rest' hfirst => by
    refine hother first' (rest' ++ i :: rest) (by rw [hsplit, hfirst, List.append_assoc]; rfl) ?_
    rintro rfl
    simpa using congrArg List.length hfirst
  have hafter : ((w.run first).step i).gain product i rest = 0 := gain_of_still fun first' rest' hrest => by
    have hrun : ((w.run first).step i).run first' = w.run (first ++ i :: first') := by
      rw [run_append, run_cons]
    rw [hrun]
    refine hother (first ++ i :: first') rest' (by rw [hsplit, hrest, List.append_assoc]; rfl) ?_
    intro heq
    simpa using congrArg List.length heq
  rw [hsplit, gain_append, hbefore, gain, if_pos rfl, hafter, Int.zero_add, Int.add_zero]

/-- Nobody makes a step at a place where there is no caller. -/
theorem step_of_length_le (h : w.callers.length ≤ i) : w.step i = w := by
  rw [step, List.getElem?_eq_none h]

/-- **The gains of all callers make up the difference of the run.** -/
theorem sum_gain (w : Crowd) (product : ProductId) (schedule : List Nat) :
    ∑ i ∈ Finset.range w.callers.length, w.gain product i schedule =
      (w.run schedule).store.committed.free product - w.store.committed.free product := by
  induction schedule generalizing w with
  | nil =>
    rw [run_nil, Int.sub_self]
    exact Finset.sum_const_zero
  | cons j schedule ih =>
    have hlength : (w.step j).callers.length = w.callers.length := length_callers_run w [j]
    have hlater := ih (w.step j)
    rw [hlength] at hlater
    simp only [gain, Finset.sum_add_distrib, hlater, Finset.sum_ite_eq, Finset.mem_range, run_cons]
    split
    · omega
    · next hj =>
      rw [step_of_length_le (Nat.le_of_not_lt hj)]
      omega

/-! ## One restock -/

/-- A caller that is to restock a product, and has not begun. -/
def AwaitsRestock (w : Crowd) (i : Nat) (product : ProductId) (quantity : Int) : Prop :=
  ∃ reason operator tape,
    w.callers[i]? = some (.fresh (.restock product quantity reason operator) tape)

/-- A restock that is over, with its result. -/
def EndsRestock (w : Crowd) (i : Nat) (product : ProductId) (quantity : Int)
    (result : Except ServiceError StockRecord) : Prop :=
  ∃ reason operator desk,
    w.callers[i]? = some ⟨.restock product quantity reason operator, .done result, desk⟩

/-- **A product that is on offer** as long as a caller is not over. -/
def OnOffer (w : Crowd) (i : Nat) (product : ProductId) (schedule : List Nat) : Prop :=
  ∀ first back c, schedule = first ++ back → (w.run first).callers[i]? = some c → ¬c.IsOver →
    ((w.run first).store.committed.liveStock? product).isSome

/-- **The pieces did not fit** into the record that was committed when the caller asked if they do. -/
def Overflowed (w : Crowd) (i : Nat) (product : ProductId) (quantity : Int) (schedule : List Nat) : Prop :=
  ∃ first back c r, schedule = first ++ i :: back ∧ (w.run first).callers[i]? = some c ∧ c.Asks r ∧
    r.Weighs product quantity ∧ (w.run first).store.committed.Overflows product quantity

/-- **The pieces were added once**: the commit of the caller has added them to the record that it met, and its
other steps change nothing. -/
def AddedOnce (w : Crowd) (i : Nat) (product : ProductId) (quantity : Int) (schedule : List Nat) : Prop :=
  ∃ first back c live now, schedule = first ++ i :: back ∧ (w.run first).callers[i]? = some c ∧
    c.Asks .commit ∧ (w.run first).store.committed.liveStock? product = some live ∧
    ((w.run first).step i).store.committed.liveStock? product = some (live.restocked quantity now) ∧
    ∀ first' back', schedule = first' ++ i :: back' → first' ≠ first →
      ((w.run first').step i).store.committed = (w.run first').store.committed

variable {quantity : Int}

/-- **A restock whose pieces were added once** has gained them. -/
theorem AddedOnce.gain_eq (h : w.AddedOnce i product quantity schedule) :
    w.gain product i schedule = quantity := by
  obtain ⟨first, back, -, live, now, hsplit, -, -, hlive, hrow, hother⟩ := h
  rw [gain_of_once hsplit hother, Tables.free_of_live hrow, Tables.free_of_live hlive]
  show live.available + quantity - live.available = quantity
  omega

/-- **Restocks whose pieces were added once add up**, and to this comes what the others have gained. -/
theorem free_run_of_addedOnce {won : Finset Nat} {quantity : Nat → Int}
    (h : ∀ i ∈ won, w.AddedOnce i product (quantity i) schedule) :
    (w.run schedule).store.committed.free product = w.store.committed.free product +
      ∑ i ∈ won, quantity i + ∑ i ∈ Finset.range w.callers.length \ won, w.gain product i schedule := by
  have hsub : won ⊆ Finset.range w.callers.length := by
    intro i hi
    obtain ⟨first, -, c, -, -, -, hc, -⟩ := h i hi
    rw [Finset.mem_range, ← length_callers_run w first]
    exact (List.getElem?_eq_some_iff.mp hc).1
  have hgains : ∑ i ∈ won, w.gain product i schedule = ∑ i ∈ won, quantity i :=
    Finset.sum_congr rfl fun i hi => (h i hi).gain_eq
  have htotal := sum_gain w product schedule
  rw [← Finset.sum_sdiff hsub, hgains] at htotal
  omega

section Restock

variable {reason : Option String} {operator : Option OperatorId} {tape : Tape}
  (hfresh : w.callers[i]? = some (.fresh (.restock product quantity reason operator) tape))
include hfresh

/-- **A restock in a run** has done what it owes when it is over. -/
theorem post_of_restock {result : Except ServiceError StockRecord}
    (hends : (w.run schedule).EndsRestock i product quantity result) : ∃ c,
      (w.run schedule).callers[i]? = some c ∧ c.hasReturned = result.isOk ∧ c.hasFailed = !result.isOk ∧
      Call.Post (fun value d _ => StockService.RestockDone product quantity value d)
        (fun error d _ => Excuses product quantity error d) result c.desk (w.run schedule).store := by
  obtain ⟨reason', operator', desk, hc⟩ := hends
  have hmeets : (Caller.fresh (.restock product quantity reason operator) tape).Meets
      ServiceCall.trailTerms ServiceCall.TrailPost w.store := ServiceCall.meets_trailTerms _ _ _
  obtain ⟨c, hrun, hcall, hpost⟩ :=
    meets_at_run (fun call _ _ => call.trailTerms_rely _ _) hfresh hmeets schedule
  cases hc.symm.trans hrun
  refine ⟨_, hc, ?_, ?_, hpost _ trivial⟩
  · cases result <;> rfl
  · cases result <;> rfl

/-- Whatever a caller has done it has asked for in the run. -/
theorem asks_of_restock {c : Caller} {deed : Deed} (hc : (w.run schedule).callers[i]? = some c)
    (hdeed : deed ∈ c.desk.trail) : ∃ first back c', schedule = first ++ i :: back ∧
      (w.run first).callers[i]? = some c' ∧ c'.Asks deed.request ∧
      deed.before = (w.run first).store ∧ deed.after = ((w.run first).step i).store := by
  rcases asks_of_run hc hdeed with ⟨c₀, hc₀, hmem⟩ | ⟨first, back, c', hsplit, hc', hasks, hbefore, hafter⟩
  · cases hfresh.symm.trans hc₀
    cases hmem
  · exact ⟨first, back, c', hsplit, hc', hasks, hbefore, run_concat w first i ▸ hafter⟩

/-- **A restock that fails** has met a record that its pieces do not fit into, if the product was on offer while
it lasted. -/
theorem overflowed_of_restock {error : ServiceError} (hquantity : 0 < quantity)
    (hbounds : ∀ first record, first <+: schedule →
      (w.run first).store.committed.liveStock? product = some record →
        (w.run first).store.committed.Offers product record)
    (hoffer : w.OnOffer i product schedule)
    (hends : (w.run schedule).EndsRestock i product quantity (.error error)) :
    error.TellsOverflow product ∧ w.Overflowed i product quantity schedule := by
  obtain ⟨c, hc, -, -, hexcuses⟩ := post_of_restock hfresh hends
  obtain ⟨htells, deed, hdeed, hweighs, hoverflows⟩ := hexcuses hquantity fun deed hdeed => by
    obtain ⟨first, back, c', hsplit, hcaller, ⟨next, hrest⟩, hbefore, -⟩ := asks_of_restock hfresh hc hdeed
    have hprogress : ¬c'.IsOver := by
      rintro ⟨result, hover⟩
      cases hrest.symm.trans hover
    obtain ⟨record, hlive⟩ := Option.isSome_iff_exists.mp (hoffer first _ c' hsplit hcaller hprogress)
    rw [hbefore]
    exact ⟨record, hbounds first record ⟨_, hsplit.symm⟩ hlive⟩
  obtain ⟨first, back, c', hsplit, hcaller, hasks, hbefore, -⟩ := asks_of_restock hfresh hc hdeed
  exact ⟨htells, first, back, c', _, hsplit, hcaller, hasks, hweighs, hbefore ▸ hoverflows⟩

/-- **A restock that fails** has changed nothing. -/
theorem still_of_restock {error : ServiceError}
    (hends : (w.run schedule).EndsRestock i product quantity (.error error)) {first back : List Nat}
    (hsplit : schedule = first ++ i :: back) :
    ((w.run first).step i).store.committed = (w.run first).store.committed := by
  obtain ⟨c, hc, -, hfailed, -⟩ := post_of_restock hfresh hends
  exact committed_of_quiet_talk (hsplit ▸ quiet_of_hasFailed hfresh trivial hc (hfailed))

/-- **A restock that returns a value** has added its pieces once. -/
theorem addedOnce_of_restock {value : StockRecord}
    (hroom : ∀ first, first <+: schedule → (w.run first).store.committed.HasRoom 1)
    (hends : (w.run schedule).EndsRestock i product quantity (.ok value)) :
    w.AddedOnce i product quantity schedule := by
  obtain ⟨c, hc, hreturned, -, staged, -, deed, hdeed, hcommit, hrestocked⟩ := post_of_restock hfresh hends
  obtain ⟨first, back, c', hsplit, hcaller, hasks, hbefore, hafter⟩ := asks_of_restock hfresh hc hdeed
  rw [hbefore, hafter] at hrestocked
  rw [hcommit] at hasks
  have hne := hrestocked.ne
  obtain ⟨-, -, -, hlive, hnext, hrow, -, -⟩ := hrestocked
  have hfits := (hroom first ⟨_, hsplit.symm⟩ _ _ (Tables.liveStock?_eq_some_iff.mp hlive)).2
  rw [StockRecord.eq_restocked hfits hnext] at hrow
  refine ⟨first, back, c', _, _, hsplit, hcaller, hasks, hlive, hrow, fun first' back' hsplit' hne' => ?_⟩
  -- Only one step changes anything, and this one does.
  obtain ⟨before, x, after, htalk, hquiet, -, hquiet'⟩ :=
    split_of_hasReturned hfresh trivial hc (hreturned)
  obtain ⟨once, later, honce, rfl, -, rfl⟩ := split_talk htalk
  have hfirst : first = once := by
    by_contra hother
    exact hne (committed_elsewhere hquiet hquiet' (honce.symm.trans hsplit) hother).symm
  subst hfirst
  exact committed_elsewhere hquiet hquiet' (honce.symm.trans hsplit') hne'

end Restock

/-! ## Runs -/

variable {calls : List (ServiceCall × Tape)} {past : List Nat}

/-- **Restocks never lose a race, and they add up.**  A restock of a product that is on offer while it lasts
fails only where its pieces do not fit into the record that is committed when it begins, when it writes, or when
it is committed; then it has changed nothing.  If it returns a value, then its commit has added the pieces to
the record that it met, and its other steps change nothing.  So the free pieces at the end are those at the
beginning, the pieces of any restocks that have returned a value, and what the steps of the others have
added. -/
theorem restock_run (catalogue : Table ProductId Product) (hfits : ∀ call ∈ calls, call.1.Fits)
    (hw : w = (opening catalogue calls).run past) (hsteps : past.length + schedule.length < 2 ^ 63)
    (product : ProductId) :
    (∀ i quantity, w.AwaitsRestock i product quantity → 0 < quantity → w.OnOffer i product schedule →
      (∀ error, (w.run schedule).EndsRestock i product quantity (.error error) →
        error.TellsOverflow product ∧ (∀ race, error ≠ .concurrentUpdate race) ∧
        (∀ subject, error ≠ .notFound subject) ∧ w.Overflowed i product quantity schedule ∧
        ∀ first back, schedule = first ++ i :: back →
          ((w.run first).step i).store.committed = (w.run first).store.committed) ∧
      ∀ value, (w.run schedule).EndsRestock i product quantity (.ok value) →
        w.AddedOnce i product quantity schedule) ∧
    ∀ (won : Finset Nat) (quantity : Nat → Int),
      (∀ i ∈ won, w.AwaitsRestock i product (quantity i) ∧
        ∃ value, (w.run schedule).EndsRestock i product (quantity i) (.ok value)) →
      (w.run schedule).store.committed.free product = w.store.committed.free product +
        ∑ i ∈ won, quantity i + ∑ i ∈ Finset.range w.callers.length \ won, w.gain product i schedule := by
  subst hw
  have horderly (first : List Nat) (hfirst : first <+: schedule) :
      (((opening catalogue calls).run past).run first).store.Orderly := by
    have hlength := hfirst.length_le
    rw [← run_append]
    exact orderly_run catalogue hfits (by rw [List.length_append]; omega)
  have hadded {i : Nat} {quantity : Int}
      (hawaits : ((opening catalogue calls).run past).AwaitsRestock i product quantity)
      {value : StockRecord}
      (hends : (((opening catalogue calls).run past).run schedule).EndsRestock i product quantity (.ok value)) :
      ((opening catalogue calls).run past).AddedOnce i product quantity schedule := by
    obtain ⟨reason, operator, tape, hfresh⟩ := hawaits
    exact addedOnce_of_restock hfresh (fun first hfirst => (horderly first hfirst).room) hends
  refine ⟨fun i quantity hawaits hquantity hoffer => ⟨fun error hends => ?_, fun value => hadded hawaits⟩,
    fun won quantity hwon => ?_⟩
  · obtain ⟨reason, operator, tape, hfresh⟩ := hawaits
    obtain ⟨htells, hoverflowed⟩ := overflowed_of_restock hfresh hquantity
      (fun first _ hfirst hlive => (horderly first hfirst).offers hlive) hoffer hends
    have hne : (∀ race, error ≠ .concurrentUpdate race) ∧ ∀ subject, error ≠ .notFound subject := by
      rcases htells with rfl | rfl <;> exact ⟨nofun, nofun⟩
    exact ⟨htells, hne.1, hne.2, hoverflowed, fun first back => still_of_restock hfresh hends⟩
  · refine free_run_of_addedOnce fun i hi => ?_
    obtain ⟨hawaits, value, hends⟩ := hwon i hi
    exact hadded hawaits hends

/-- Tea is registered; then three restocks race, and a reservation is there first. -/
def supplyCalls : List (ServiceCall × Tape) :=
  [ .register ⟨1⟩ 10 0, .restock ⟨1⟩ 5 none none, .restock ⟨1⟩ 3 none none,
    .reserve .standard ⟨1⟩ 2 ⟨7⟩ none, .restock ⟨1⟩ 2147483637 none none ].map
      (·, .unused (fun _ => ⟨0⟩) fun _ => ⟨0⟩)

/-- The tea is on offer, and nobody else has begun. -/
def supplyOpening : Crowd := (opening .empty supplyCalls).run (List.replicate 4 0)

/-- The restocks take turns up to their commits; the reservation overtakes them. -/
def supplySchedule : List Nat :=
  (List.replicate 6 [1, 2, 4]).flatten ++ List.replicate 8 3 ++ [1, 1, 2, 2, 4, 4]

/-- All numbers in the calls are small. -/
theorem fits_supplyCalls : ∀ call ∈ supplyCalls, call.1.Fits := by
  simp [supplyCalls, ServiceCall.Fits]
  decide

/-- The tea is never removed. -/
theorem onOffer_supplySchedule (i : Nat) : supplyOpening.OnOffer i ⟨1⟩ supplySchedule := by
  intro first back _ hsplit _ _
  have hall : ∀ n ≤ 32,
      ((supplyOpening.run (supplySchedule.take n)).store.committed.liveStock? ⟨1⟩).isSome := by
    decide +kernel
  have hlength : first.length ≤ supplySchedule.length := by
    rw [hsplit, List.length_append]
    omega
  have hfirst : supplySchedule.take first.length = first := by rw [hsplit, List.take_left]
  exact hfirst ▸ hall first.length hlength

/-- **Two restocks add up**, and the third one finds no room when it is committed. -/
theorem restock_run_raced :
    supplyOpening.AddedOnce 1 ⟨1⟩ 5 supplySchedule ∧ supplyOpening.AddedOnce 2 ⟨1⟩ 3 supplySchedule ∧
      supplyOpening.Overflowed 4 ⟨1⟩ 2147483637 supplySchedule ∧
      (supplyOpening.run supplySchedule).store.committed.free ⟨1⟩ = 10 + (5 + 3) +
        ∑ i ∈ Finset.range 5 \ {1, 2}, supplyOpening.gain ⟨1⟩ i supplySchedule := by
  have hone : supplyOpening.AwaitsRestock 1 ⟨1⟩ 5 := ⟨none, none, _, rfl⟩
  have htwo : supplyOpening.AwaitsRestock 2 ⟨1⟩ 3 := ⟨none, none, _, rfl⟩
  have hfour : supplyOpening.AwaitsRestock 4 ⟨1⟩ 2147483637 := ⟨none, none, _, rfl⟩
  obtain ⟨live₁, hends₁⟩ : ∃ value, (supplyOpening.run supplySchedule).EndsRestock 1 ⟨1⟩ 5 (.ok value) :=
    ⟨_, none, none, _, rfl⟩
  obtain ⟨live₂, hends₂⟩ : ∃ value, (supplyOpening.run supplySchedule).EndsRestock 2 ⟨1⟩ 3 (.ok value) :=
    ⟨_, none, none, _, rfl⟩
  obtain ⟨error, hends₄⟩ : ∃ error,
      (supplyOpening.run supplySchedule).EndsRestock 4 ⟨1⟩ 2147483637 (.error error) :=
    ⟨_, none, none, _, rfl⟩
  obtain ⟨hrestock, htotal⟩ := restock_run .empty fits_supplyCalls
    (rfl : supplyOpening = (opening .empty supplyCalls).run (List.replicate 4 0))
    (by decide : (List.replicate 4 0).length + supplySchedule.length < 2 ^ 63) ⟨1⟩
  refine ⟨(hrestock 1 5 hone (by decide) (onOffer_supplySchedule 1)).2 _ hends₁,
    (hrestock 2 3 htwo (by decide) (onOffer_supplySchedule 2)).2 _ hends₂,
    ((hrestock 4 _ hfour (by decide) (onOffer_supplySchedule 4)).1 _ hends₄).2.2.2.1, ?_⟩
  have hwon : ∀ i ∈ ({1, 2} : Finset Nat), supplyOpening.AwaitsRestock i ⟨1⟩ (if i = 1 then 5 else 3) ∧
      ∃ value, (supplyOpening.run supplySchedule).EndsRestock i ⟨1⟩ (if i = 1 then 5 else 3) (.ok value) := by
    intro i hi
    rcases Finset.mem_insert.mp hi with rfl | hi
    · exact ⟨hone, live₁, hends₁⟩
    · obtain rfl := Finset.mem_singleton.mp hi
      exact ⟨htwo, live₂, hends₂⟩
  exact htotal {1, 2} _ hwon

end Crowd

end Stockroom
