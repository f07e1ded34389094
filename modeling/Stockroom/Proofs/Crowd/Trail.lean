import Stockroom.Proofs.Crowd.Consistency
import Stockroom.Proofs.Crowd.Duty
import Stockroom.Proofs.Ledger.Trail
import Stockroom.Proofs.Service.Restock

/-!
# Proofs/Crowd/Trail — when the ledger is a continuous trail

Every movement but a restock enters the counts into the ledger that it has met.  A restock enters the
counts that it met when it was written; if the record has moved on before the commit, then the entry
and the value that is returned show counts which were never committed (`overtaken_restock`).

**Where no record moves on while pieces are added to it, the entries of a product are a continuous
trail** from the counts it was registered with to its present ones, and a restock returns the record
that its own commit has stored (`continuous_run`).
-/

namespace Stockroom

open Store

/-! ## Changes -/

section Change

variable {call : ServiceCall} {s s' : Store} {product : ProductId} {stock : Int}

/-- **Every change continues the trail of a product**, if a restock does. -/
theorem Change.continuous (h : Change call s s') (hc : s.committed.Continuous product stock)
    (hrestock : ∀ quantity reason operator, call = .restock product quantity reason operator →
      ∀ e live, s'.committed.entries = s.committed.entries ++ [e] →
        s.committed.liveStock? product = some live → e.before = live.snapshot) :
    s'.committed.Continuous product stock := by
  cases h with
  | post hmay hm =>
    refine hc.post hm fun hkind hp => ?_
    cases hmay with
    | restock => exact hp ▸ hrestock _ _ _ (congrArg (ServiceCall.restock · _ _ _) hp)
    | _ => cases hkind
  | @register record _ _ _ _ _ hfresh _ _ =>
    obtain ⟨row, hr, hchain⟩ := hc
    have hp : product ≠ record.product := fun hp => by
      rw [hp, hfresh] at hr
      cases hr
    exact ⟨row, ((Table.get?_insert ..).trans (if_neg hp)).trans hr, hchain⟩
  | tune hlive htuned =>
    obtain ⟨-, rfl⟩ := StockRecord.withThreshold_eq_ok_iff.mp htuned
    exact hc.recount (Tables.liveStock?_eq_some_iff.mp hlive) rfl
  | remove hlive => exact hc.recount (Tables.liveStock?_eq_some_iff.mp hlive) rfl
  | draw => exact hc
  | place _ _ _ _ hitems =>
    exact hitems.keeps (P := Tables.Continuous product stock)
      (fun _ _ _ ⟨_, _, _, hm⟩ ht => ht.post hm nofun) (hc.of_eq rfl rfl)
  | pay _ _ _ hitems =>
    exact (hitems.keeps (P := Tables.Continuous product stock)
      (fun _ _ _ ⟨_, hm⟩ ht => ht.post hm nofun) hc).of_eq rfl rfl
  | ship _ _ => exact hc.of_eq rfl rfl
  | complete _ _ => exact hc.of_eq rfl rfl
  | cancel _ _ _ hitems =>
    refine (hitems.keeps (P := Tables.Continuous product stock) ?_ hc).of_eq rfl rfl
    rintro item t t' (⟨_, -, -, rfl⟩ | ⟨_, hm⟩) ht
    · exact ht
    · exact ht.post hm nofun

/-- A product that is registered starts a trail. -/
theorem Change.continuous_register {A : ServiceCall → Prop} {threshold : Int}
    (h : Change (.register product stock threshold) s s') (hs : Reachable A s) :
    s'.committed.Continuous product stock := by
  cases h with
  | post hmay hm => cases hmay
  | register hfresh hrecord _ => exact Tables.continuous_register hs.unposted hfresh hrecord

/-- Reachable stores have numbered entries. -/
theorem Reachable.numbered {A : ServiceCall → Prop} (h : Reachable A s) : s.committed.Numbered :=
  h.keeps (fun catalogue => ⟨rfl, fun i e he => by simp [Crowd.emptyStore, Tables.empty] at he⟩)
    fun _ ht he => ht.edit he

end Change

/-! ## Restocks -/

namespace ServiceCall

/-- What the trail of a product needs of a call. -/
def trailTerms : ServiceCall → Terms
  | .restock product quantity _ _ => .always (StockService.restockOwes product quantity)
  | _ => .always fun _ _ _ => True

/-- What is known of a call that is done. -/
def TrailPost : (call : ServiceCall) → Except ServiceError call.Result → Desk → Store → Prop
  | .restock product quantity _ _ =>
    Call.Post (fun value d _ => StockService.RestockDone product quantity value d)
      fun error d _ => Excuses product quantity error d
  | _ => fun _ _ _ => True

theorem meets_trailTerms (call : ServiceCall) (d : Desk) (s : Store) :
    call.program.run.Meets call.trailTerms call.TrailPost d s := by
  cases call with
  | restock product quantity reason operator => exact StockService.meets_restock d s
  | _ => exact .trivially (fun _ _ _ => trivial) (fun _ _ _ => trivial) _

theorem trailTerms_rely (call : ServiceCall) (s s' : Store) : call.trailTerms.rely s s' := by
  cases call <;> exact trivial

end ServiceCall

/-- Whether a deed adds pieces to a product. -/
def Deed.addsTo (deed : Deed) (product : ProductId) : Bool :=
  match deed.request with
  | .within (.increaseStock other _ _) => other = product
  | _ => false

/-- **A record that nobody else has touched** between the time at which pieces were added to it and their
commit. -/
def Caller.Undisturbed (c : Caller) (product : ProductId) : Prop :=
  ∀ staged ∈ c.desk.trail, ∀ committed ∈ c.desk.trail, staged.addsTo product →
    committed.request = .commit → committed.IsChange →
      staged.before.committed.stock.get? product = committed.before.committed.stock.get? product

instance (c : Caller) (product : ProductId) : Decidable (c.Undisturbed product) :=
  inferInstanceAs (Decidable (∀ staged ∈ c.desk.trail, ∀ committed ∈ c.desk.trail,
    staged.addsTo product → committed.request = .commit → committed.IsChange →
      staged.before.committed.stock.get? product = committed.before.committed.stock.get? product))

section Restocked

variable {product : ProductId} {quantity : Int} {value : StockRecord} {staged deed : Deed}
  {t t' : Tables} {c : Caller} {s : Store} {reason : Option String} {operator : Option OperatorId}

theorem Restocked.addsTo (h : Restocked product quantity value staged t t') :
    staged.addsTo product := by
  obtain ⟨hstaged, -⟩ := h
  simp [Deed.addsTo, hstaged]

theorem Restocked.ne (h : Restocked product quantity value staged t t') : t ≠ t' := by
  obtain ⟨-, -, -, -, -, -, hentries, -⟩ := h
  rintro rfl
  simp at hentries

/-- **A restock that was not disturbed** returns the record that its commit has stored, and shows the counts
that it has met if they were within their bounds. -/
theorem Restocked.of_same (h : Restocked product quantity value staged t t')
    (hsame : staged.before.committed.stock.get? product = t.stock.get? product) :
    t'.liveStock? product = some value ∧ ∀ e live, t'.entries = t.entries ++ [e] →
      t.liveStock? product = some live → live.InBounds → e.before = live.snapshot := by
  obtain ⟨-, hseen, hvalue, hlive, hnext, hrow, hentries, hbefore⟩ := h
  have heq := (congrArg (·.bind StockRow.live?) hsame).symm.trans hseen
  cases hlive.symm.trans heq
  cases hnext.symm.trans hvalue
  refine ⟨hrow, fun e live he hlive' hbounds => ?_⟩
  cases List.append_cancel_left (hentries.symm.trans he)
  cases hlive.symm.trans hlive'
  exact hbefore.trans (StockService.beforeRestock_eq hbounds hvalue)

/-- **A step of a restock** leaves the store alone, or is its commit. -/
theorem Caller.restocked_of_step (h : c.Meets ServiceCall.trailTerms ServiceCall.TrailPost s)
    (hcall : c.call = .restock product quantity reason operator) :
    (c.step s).2 = s ∨ ∃ value, ∃ staged ∈ (c.step s).1.desk.trail,
      (⟨.commit, s, (c.step s).2⟩ : Deed) ∈ (c.step s).1.desk.trail ∧
        Restocked product quantity value staged s.committed (c.step s).2.committed := by
  rcases h.step.1 with heq | ⟨request, next, hrest, howes⟩
  · exact .inl (congrArg Prod.snd heq)
  rw [hcall] at howes
  rw [step_eq_of_ask hrest]
  rcases howes with heq | ⟨rfl, value, staged, hmem, hrestocked⟩
  · exact .inl heq
  · exact .inr ⟨value, staged, List.mem_append_left _ hmem,
      List.mem_append_right _ (List.mem_singleton_self _), hrestocked⟩

end Restocked

/-! ## Runs -/

namespace Crowd

variable {calls : List (ServiceCall × Tape)} {w : Crowd} {product : ProductId} {stock : Int}

/-- **A product whose record does not move on while pieces are added to it.** -/
def Undisturbed (w : Crowd) (product : ProductId) : Prop :=
  ∀ c ∈ w.callers, c.Undisturbed product

instance (w : Crowd) (product : ProductId) : Decidable (w.Undisturbed product) :=
  inferInstanceAs (Decidable (∀ c ∈ w.callers, c.Undisturbed product))

/-- Whoever is undisturbed has been so all the time. -/
theorem Undisturbed.of_step {i : Nat} (h : (w.step i).Undisturbed product) :
    w.Undisturbed product := by
  intro c hc
  obtain ⟨j, hj⟩ := List.getElem?_of_mem hc
  cases hi : w.callers[i]? with
  | none =>
    rw [step, hi] at h
    exact h c hc
  | some ci =>
    have hstep := callers_step hi j
    split at hstep
    · next hij =>
      subst hij
      cases hi.symm.trans hj
      have hsub := (c.trail_prefix_step w.store).subset
      have hall := h _ (List.mem_of_getElem? hstep)
      exact fun staged hstaged committed hcommitted =>
        hall staged (hsub hstaged) committed (hsub hcommitted)
    · exact h c (List.mem_of_getElem? (hstep.trans hj))

theorem Undisturbed.of_run {schedule : List Nat} (h : (w.run schedule).Undisturbed product) :
    w.Undisturbed product := by
  induction schedule generalizing w with
  | nil => exact h
  | cons i schedule ih => exact (ih h).of_step

/-- A product that is registered now either was before, or has been by this very step. -/
theorem Registered.of_step {i : Nat} {c : Caller} (hi : w.callers[i]? = some c)
    (h : (w.step i).Registered product stock) :
    w.Registered product stock ∨ (c.step w.store).2 ≠ w.store ∧
      ∃ threshold, c.call = .register product stock threshold := by
  obtain ⟨c', hc', threshold, hcall, deed, hdeed, hchange⟩ := h
  rw [step_of_getElem? hi] at hc'
  rcases List.mem_or_eq_of_mem_set hc' with hc' | rfl
  · exact .inl ⟨c', hc', threshold, hcall, deed, hdeed, hchange⟩
  rw [Caller.call_step] at hcall
  rcases Caller.mem_trail_step hdeed with hdeed | ⟨hbefore, hafter⟩
  · exact .inl ⟨c, List.mem_of_getElem? hi, threshold, hcall, deed, hdeed, hchange⟩
  · refine .inr ⟨fun heq => hchange ?_, threshold, hcall⟩
    rw [hbefore, hafter, heq]

/-- **A step continues the trails** of the products that are undisturbed. -/
theorem continuous_step {steps : Nat} (h : w.Assured (· ∈ calls.map Prod.fst) calls)
    (hmeets : ∀ c ∈ w.callers, c.Meets ServiceCall.trailTerms ServiceCall.TrailPost w.store)
    (hcounted : w.Counted steps) (hsteps : steps < 2 ^ 63) {i : Nat}
    (hold : w.Registered product stock → w.store.committed.Continuous product stock)
    (hundisturbed : (w.step i).Undisturbed product)
    (hregistered : (w.step i).Registered product stock) :
    (w.step i).store.committed.Continuous product stock := by
  cases hi : w.callers[i]? with
  | none =>
    rw [step, hi] at hregistered ⊢
    exact hold hregistered
  | some c =>
    obtain ⟨tape, -, hkeeps⟩ := h.callers i c hi
    obtain ⟨hdid, -, -⟩ := hkeeps.step h.reachable (hcounted.admits hsteps hi)
    have hnow := Registered.of_step hi hregistered
    have hmem : (c.step w.store).1 ∈ (w.step i).callers :=
      List.mem_of_getElem? ((callers_step hi i).trans (if_pos rfl))
    rw [step_of_getElem? hi]
    rcases hnow with hbefore | ⟨hne, threshold, hcall⟩
    · rcases hdid with heq | hchange
      · show Tables.Continuous product stock (c.step w.store).2.committed
        rw [heq]
        exact hold hbefore
      refine hchange.continuous (hold hbefore) fun quantity reason operator hcall => ?_
      rcases Caller.restocked_of_step (hmeets c (List.mem_of_getElem? hi)) hcall with
        heq | ⟨value, staged, hstaged, hcommit, hrestocked⟩
      · intro e live he
        simp [heq] at he
      · obtain ⟨-, hshows⟩ := hrestocked.of_same
          (hundisturbed _ hmem staged hstaged _ hcommit hrestocked.addsTo rfl hrestocked.ne)
        exact fun e live he hlive => hshows e live he hlive
          (h.reachable.sound.bounds _ _ (Tables.liveStock?_eq_some_iff.mp hlive))
    · exact (hcall ▸ hdid.resolve_left hne : Change (.register product stock threshold) _ _)
        |>.continuous_register h.reachable

theorem continuous_of_run {steps : Nat} {schedule : List Nat}
    (h : w.Assured (· ∈ calls.map Prod.fst) calls)
    (hmeets : ∀ c ∈ w.callers, c.Meets ServiceCall.trailTerms ServiceCall.TrailPost w.store)
    (hcounted : w.Counted steps) (hsteps : steps + schedule.length ≤ 2 ^ 63)
    (hold : w.Registered product stock → w.store.committed.Continuous product stock)
    (hundisturbed : (w.run schedule).Undisturbed product)
    (hregistered : (w.run schedule).Registered product stock) :
    (w.run schedule).store.committed.Continuous product stock := by
  induction schedule generalizing w steps with
  | nil => exact hold hregistered
  | cons i schedule ih =>
    rw [List.length_cons] at hsteps
    rw [run_cons] at hundisturbed hregistered ⊢
    have hnow := hundisturbed.of_run
    exact ih (h.step hcounted (by omega) i) (meets_step ServiceCall.trailTerms_rely hmeets i)
      (hcounted.step i) (by omega)
      (continuous_step h hmeets hcounted (by omega) hold hnow) hundisturbed hregistered

/-- **The ledger is a continuous trail where no record moves on while pieces are added to it**: the
entries of a registered product lead, in the order of their numbers, from the counts it was registered
with to its present ones; and a restock that has returned a record has stored it by its own
commit. -/
theorem continuous_run (catalogue : Table ProductId Product) (hfits : ∀ call ∈ calls, call.1.Fits)
    {schedule : List Nat} (hsteps : schedule.length < 2 ^ 63)
    (hregistered : ((opening catalogue calls).run schedule).Registered product stock)
    (hundisturbed : ((opening catalogue calls).run schedule).Undisturbed product) :
    ((opening catalogue calls).run schedule).store.committed.Numbered ∧
      ((opening catalogue calls).run schedule).store.committed.Continuous product stock ∧
      ∀ (i : Nat) (quantity : Int) (reason : Option String) (operator : Option OperatorId)
        (value : StockRecord) (d : Desk),
        ((opening catalogue calls).run schedule).callers[i]? =
            some ⟨.restock product quantity reason operator, .done (.ok value), d⟩ →
          ∃ deed ∈ d.trail, deed.request = .commit ∧
            deed.after.committed.liveStock? product = some value := by
  have hopening : ∀ c ∈ (opening catalogue calls).callers,
      c.Meets ServiceCall.trailTerms ServiceCall.TrailPost (opening catalogue calls).store :=
    fun c hc => by
      obtain ⟨⟨call, tape⟩, -, rfl⟩ := List.mem_map.mp hc
      exact call.meets_trailTerms _ _
  refine ⟨(assured_run catalogue hfits hsteps).reachable.numbered,
    continuous_of_run (assured_opening catalogue (fun _ hcall => List.mem_map_of_mem hcall) hfits)
      hopening (counted_opening catalogue calls) (by omega) ?_ hundisturbed hregistered, ?_⟩
  · rintro ⟨c, hc, threshold, -, deed, hdeed, -⟩
    obtain ⟨call, -, rfl⟩ := List.mem_map.mp hc
    exact absurd hdeed List.not_mem_nil
  · intro i quantity reason operator value d hc
    have hmem := List.mem_of_getElem? hc
    obtain ⟨staged, hstaged, deed, hdeed, hcommit, hrestocked⟩ :=
      meets_run ServiceCall.trailTerms_rely hopening schedule _ hmem
        ((opening catalogue calls).run schedule).store trivial
    exact ⟨deed, hdeed, hcommit, (hrestocked.of_same
      (hundisturbed _ hmem staged hstaged deed hdeed hrestocked.addsTo hcommit hrestocked.ne)).1⟩

/-- A product is registered, and then pieces are added to it and reserved. -/
def restockCalls : List (ServiceCall × Tape) :=
  [ .register ⟨1⟩ 10 0, .restock ⟨1⟩ 5 none none, .reserve .standard ⟨1⟩ 3 ⟨7⟩ none ].map
    (·, .unused (fun _ => ⟨0⟩) fun _ => ⟨0⟩)

theorem restockCalls_fit : ∀ call ∈ restockCalls, call.1.Fits := by
  simp [restockCalls, ServiceCall.Fits]
  decide

/-- One call after the other. -/
def orderlySchedule : List Nat :=
  List.replicate 4 0 ++ List.replicate 8 1 ++ List.replicate 8 2

/-- The pieces are reserved while the restock waits for its commit. -/
def overtakingSchedule : List Nat :=
  List.replicate 4 0 ++ List.replicate 6 1 ++ List.replicate 8 2 ++ List.replicate 2 1

/-- One after the other, the calls leave a continuous trail. -/
theorem continuous_run_orderly :
    ((opening .empty restockCalls).run orderlySchedule).store.committed.Continuous ⟨1⟩ 10 ∧
      (((opening .empty restockCalls).run orderlySchedule).store.committed.trailOf ⟨1⟩).map
        Entry.after = [⟨15, 0⟩, ⟨12, 3⟩] := by
  have h := @continuous_run restockCalls ⟨1⟩ 10 .empty restockCalls_fit orderlySchedule (by decide)
    ⟨_, List.mem_cons_self, 0, rfl, _, .tail _ (.head _), by decide⟩ (by decide)
  exact ⟨h.2.1, rfl⟩

/-- **A restock that is overtaken breaks the trail**: its entry and the record that it returns show
fifteen free pieces, while its own commit has stored twelve and a newer version. -/
theorem overtaken_restock :
    ((opening .empty restockCalls).run overtakingSchedule).Registered ⟨1⟩ 10 ∧
      ¬((opening .empty restockCalls).run overtakingSchedule).store.committed.Continuous ⟨1⟩ 10 ∧
      ∃ value d, ((opening .empty restockCalls).run overtakingSchedule).callers[1]? =
          some ⟨.restock ⟨1⟩ 5 none none, .done (.ok value), d⟩ ∧
        value.available = 15 ∧ value.version = 1 ∧
        ∃ stored, ((opening .empty restockCalls).run
            overtakingSchedule).store.committed.liveStock? ⟨1⟩ = some stored ∧
          stored.available = 12 ∧ stored.version = 2 := by
  refine ⟨⟨_, List.mem_cons_self, 0, rfl, _, .tail _ (.head _), by decide⟩, ?_,
    _, _, rfl, rfl, rfl, _, rfl, rfl, rfl⟩
  rintro ⟨row, hrow, hchain⟩
  cases hrow
  exact absurd hchain (by decide)

end Crowd

end Stockroom
