import Mathlib.Data.List.Induction
import Stockroom.Proofs.Crowd.Duty
import Stockroom.Proofs.Service.Threshold

/-!
# Proofs/Crowd/Threshold — when a threshold that was set stays

A guarded movement writes the whole record of its product back, with the threshold that it has read,
and setting a threshold does not raise the version that guards the record.  So a movement that began
before a threshold was set and commits after it puts the old one back (`overwritten_threshold`).

**Nothing else changes a threshold**: a step that is not a tuning leaves it alone, or is the commit of a
call that may write the whole record and puts a threshold back that was committed since its unit of
work began.  Hence no threshold appears that nobody has set; and where thresholds are set while no
such call is at work, the committed threshold is always the one that was set last
(`threshold_run`).
-/

namespace Stockroom

open Store

variable {product : ProductId} {P P' : Int → Prop}

/-! ## Requests -/

/-- **What a request does to the thresholds of a product**, if it sets none: the committed one stays, or is
one that satisfies `P`, and those that the unit of work holds satisfy `P'`. -/
structure Desk.Carries (product : ProductId) (mayRewrite : Prop) (P P' : Int → Prop) (s : Store)
    (d' : Desk) (s' : Store) : Prop where
  keeps : s'.committed.KeepsProducts
  holds : ∀ u, d'.unit = some u → u.Holds product mayRewrite P'
  threshold : s'.committed.threshold? product = s.committed.threshold? product ∨
    mayRewrite ∧ ∃ x, s'.committed.threshold? product = some x ∧ P x

namespace Desk

variable {d d' : Desk} {s s' : Store} {mayRewrite : Prop}

/-- A request that changes neither what is committed nor the unit of work. -/
theorem Carries.quietly (hkeeps : s.committed.KeepsProducts)
    (hholds : ∀ u, d.unit = some u → u.Holds product mayRewrite P)
    (hlater : d'.unit ≠ none → ∀ x, P x → P' x) (hcommitted : s'.committed = s.committed)
    (hunit : d'.unit = d.unit) : Carries product mayRewrite P P' s d' s' where
  keeps := hcommitted ▸ hkeeps
  holds u hu := (hholds u (hunit.symm.trans hu)).mono (hlater (hu ▸ Option.some_ne_none u))
  threshold := .inl (hcommitted ▸ rfl)

/-! ### Each request -/

section Answer

variable {on : ProductId → Prop} (hkeeps : s.committed.KeepsProducts)
  (hholds : ∀ u, d.unit = some u → u.Holds product (on product) P)
include hkeeps hholds

theorem carries_commit : Carries product (on product) P P' s (d.answer s (.store .commit)).2.1
    (d.answer s (.store .commit)).2.2 := by
  cases hunit : d.unit with
  | none =>
    obtain ⟨error, hanswer⟩ := Session.commit_of_none hunit
    rw [answer_store hanswer]
    exact ⟨hkeeps, nofun, .inl rfl⟩
  | some u =>
    cases happly : Write.applyAll u.pending s.committed with
    | ok t =>
      rw [answer_store (Session.commit_of_ok hunit happly)]
      obtain ⟨hkeeps', hthreshold⟩ := (hholds u hunit).commit hkeeps happly
      exact ⟨hkeeps', nofun, hthreshold⟩
    | error rejection =>
      obtain ⟨error, hanswer⟩ := Session.commit_of_error hunit happly
      rw [answer_store hanswer]
      exact ⟨hkeeps, nofun, .inl rfl⟩

/-- A product that is taken out of the stockroom keeps its threshold. -/
theorem carries_removeStock {other : ProductId} {now : Instant}
    (hlater : (d.answer s (.store (.removeStock other now))).2.1.unit ≠ none → ∀ x, P x → P' x) :
    Carries product (on product) P P' s (d.answer s (.store (.removeStock other now))).2.1
      (d.answer s (.store (.removeStock other now))).2.2 := by
  rcases Session.removeStock_cases ⟨s, d.unit⟩ other now with ⟨live, hlive, hanswer⟩ | ⟨answer, hanswer⟩
  · rw [answer_store (r := .removeStock other now) hanswer] at hlater ⊢
    exact ⟨hkeeps.insert (hkeeps.live hlive), fun u hu =>
      (hholds u hu).mono (hlater (hu ▸ Option.some_ne_none u)),
      .inl (Tables.threshold?_insert_of_same hlive rfl)⟩
  · rw [answer_store (r := .removeStock other now) hanswer] at hlater ⊢
    exact .quietly hkeeps hholds hlater rfl rfl

/-- **A request inside a unit of work** writes a whole record only with the threshold of the copy. -/
theorem carries_within {request : UnitRequest}
    (hcarried : Carried on d (.store (.within request)) s)
    (hlater : (d.answer s (.store (.within request))).2.1.unit ≠ none → ∀ x, P x → P' x)
    (hnow : (d.answer s (.store (.within request))).2.1.unit ≠ none → ∀ x,
      (d.answer s (.store (.within request))).2.2.committed.threshold? product = some x → P' x) :
    Carries product (on product) P P' s (d.answer s (.store (.within request))).2.1
      (d.answer s (.store (.within request))).2.2 := by
  obtain ⟨hcommitted, hunit | ⟨u, w, hu, hwrite, hunit⟩⟩ :=
    Session.answerWithin_unit ⟨s, d.unit⟩ request
  · exact .quietly hkeeps hholds hlater hcommitted hunit
  have hopen : (d.answer s (.store (.within request))).2.1.unit ≠ none := fun hnone =>
    Option.some_ne_none _ (hunit.symm.trans hnone)
  have hheld := (hholds u hu).mono (hlater hopen)
  refine ⟨hcommitted ▸ hkeeps, fun u' hu' => ?_,
    .inl (congrArg (Tables.threshold? · product) hcommitted)⟩
  cases hunit.symm.trans hu'
  refine hheld.stage hkeeps (hcommitted ▸ hnow hopen) w fun next version hw hproduct => ?_
  obtain rfl := Session.write?_eq_replaceStock (hw ▸ hwrite)
  obtain ⟨_, other, live, hon, hu', hlive, hsame⟩ := hcarried
  cases hu.symm.trans hu'
  obtain rfl : other = product :=
    (hheld.keeps.live hlive).symm.trans (hsame.product.symm.trans hproduct)
  exact ⟨hon, hsame.threshold ▸ hheld.copy _ (Tables.threshold?_of_live hlive)⟩

/-- **Every request that carries thresholds along** changes a threshold only to one that the unit of work
has held. -/
theorem carries_answer {r : HostRequest} (hcarried : Carried on d r s)
    (hlater : (d.answer s r).2.1.unit ≠ none → ∀ x, P x → P' x)
    (hnow : (d.answer s r).2.1.unit ≠ none → ∀ x,
      (d.answer s r).2.2.committed.threshold? product = some x → P' x) :
    Carries product (on product) P P' s (d.answer s r).2.1 (d.answer s r).2.2 := by
  match r with
  | .now | .freshId | .log _ | .sleep _ => exact .quietly hkeeps hholds hlater rfl rfl
  | .store (.createStock _) | .store (.setThreshold ..) => exact hcarried.elim
  | .store (.stockOf _) | .store (.listStock _) | .store (.listLowStock _)
  | .store (.entriesOf ..) | .store (.expiredReservations ..) | .store (.reservationsOf _)
  | .store (.orderOf _) | .store (.orderByNumber _) | .store (.ordersOf ..)
  | .store (.productsOf _) => exact .quietly hkeeps hholds hlater rfl rfl
  | .store .begin =>
    refine ⟨hkeeps, fun u hu => ?_, .inl rfl⟩
    cases hu
    exact .start hkeeps (hnow (Option.some_ne_none _))
  | .store .rollback => exact ⟨hkeeps, nofun, .inl rfl⟩
  | .store .commit => exact carries_commit hkeeps hholds
  | .store (.removeStock _ _) => exact carries_removeStock hkeeps hholds hlater
  | .store (.within _) => exact carries_within hkeeps hholds hcarried hlater hnow

end Answer

end Desk

/-! ## Callers -/

namespace Caller

variable {c : Caller} {s : Store}

/-- **What a step of a caller sets the threshold of a product to**, if anything: a call that sets it returns
a value, or a call that registers the product enters its record. -/
def tunes? (c : Caller) (s : Store) (product : ProductId) : Option Int :=
  match c.call with
  | .setThreshold other threshold =>
    if other = product ∧ !c.hasReturned ∧ (c.step s).1.hasReturned then some threshold else none
  | .register other _ threshold =>
    if other = product ∧ (c.step s).2 ≠ s then some threshold else none
  | _ => none

/-- What is known of the thresholds that a caller holds in its unit of work. -/
def Holds (c : Caller) (product : ProductId) (P : Int → Prop) : Prop :=
  ∀ u, c.desk.unit = some u → u.Holds product (c.call.Rewrites product) P

theorem Holds.step (h : c.Holds product P) (hunit : (c.step s).1.desk.unit = c.desk.unit)
    (hlater : (c.step s).1.desk.unit ≠ none → ∀ x, P x → P' x) : (c.step s).1.Holds product P' := by
  intro u hu
  rw [call_step]
  exact (h u (hunit.symm.trans hu)).mono (hlater (hu ▸ Option.some_ne_none u))

/-- **What a step does to the thresholds of a product.** -/
structure Retunes (c : Caller) (s : Store) (product : ProductId) (P P' : Int → Prop) : Prop where
  keeps : (c.step s).2.committed.KeepsProducts
  holds : (c.step s).1.Holds product P'
  tuned : ∀ x, c.tunes? s product = some x → (c.step s).2.committed.threshold? product = some x
  untuned : c.tunes? s product = none →
    (c.step s).2.committed.threshold? product = s.committed.threshold? product ∨
      c.call.Rewrites product ∧ ∃ x, (c.step s).2.committed.threshold? product = some x ∧ P x

/-- A call that sets no threshold carries thresholds along. -/
theorem Retunes.carried {request : HostRequest}
    {next : request.Answer → Program Host (Except ServiceError c.call.Result)}
    (hrest : c.rest = .ask request next) (hcarried : Carried c.call.Rewrites c.desk request s)
    (hkeeps : s.committed.KeepsProducts) (hholds : c.Holds product P)
    (hlater : (c.step s).1.desk.unit ≠ none → ∀ x, P x → P' x)
    (hnow : (c.step s).1.desk.unit ≠ none → ∀ x,
      (c.step s).2.committed.threshold? product = some x → P' x)
    (hnone : c.tunes? s product = none) : c.Retunes s product P P' := by
  rw [step_eq_of_ask hrest] at hlater hnow
  have h := Desk.carries_answer hkeeps hholds hcarried hlater hnow
  refine ⟨?_, fun u hu => ?_, fun x hx => (nomatch hnone.symm.trans hx), fun _ => ?_⟩
  · rw [step_eq_of_ask hrest]
    exact h.keeps
  · rw [call_step]
    rw [step_eq_of_ask hrest] at hu
    exact h.holds u hu
  · rw [step_eq_of_ask hrest]
    exact h.threshold

/-- A call that leaves the store alone, or writes the live record of one product. -/
theorem Retunes.tuning {other : ProductId} (hkeeps : s.committed.KeepsProducts)
    (hholds : (c.step s).1.Holds product P')
    (hstep : (c.step s).2 = s ∨ ∃ record : StockRecord, record.product = other ∧
      (c.step s).2.committed = s.committed.putLive other record)
    (htuned : ∀ x, c.tunes? s product = some x →
      (c.step s).2.committed.threshold? product = some x)
    (huntuned : c.tunes? s product = none → (c.step s).2 = s ∨ other ≠ product) :
    c.Retunes s product P P' := by
  refine ⟨?_, hholds, htuned, fun hnone => .inl ?_⟩
  · rcases hstep with heq | ⟨record, hproduct, hcommitted⟩
    · rwa [heq]
    · exact hcommitted ▸ hkeeps.insert hproduct
  · rcases huntuned hnone with heq | hne
    · rw [heq]
    rcases hstep with heq | ⟨record, -, hcommitted⟩
    · rw [heq]
    · exact hcommitted ▸ Tables.threshold?_insert.trans (if_neg hne.symm)

variable {other : ProductId} {stock threshold : Int} {request : HostRequest}
  {next : request.Answer → Program Host (Except ServiceError c.call.Result)}

/-- **A call that registers a product** enters its record with the threshold that it was given. -/
theorem Retunes.register (hcall : c.call = .register other stock threshold)
    (hrest : c.rest = .ask request next)
    (henters : StockService.Enters other threshold c.desk request s)
    (hkeeps : s.committed.KeepsProducts) (hholds : c.Holds product P)
    (hlater : (c.step s).1.desk.unit ≠ none → ∀ x, P x → P' x) : c.Retunes s product P P' := by
  have hanswer := henters.answer
  have hdid : (c.step s).1.desk.unit = c.desk.unit ∧ ((c.step s).2 = s ∨
      ∃ record : StockRecord, record.product = other ∧ record.threshold = threshold ∧
        (c.step s).2.committed = s.committed.putLive other record) := by
    rw [step_eq_of_ask hrest]
    exact hanswer
  obtain ⟨hunit, hstep⟩ := hdid
  have htunes : c.tunes? s product =
      if other = product ∧ (c.step s).2 ≠ s then some threshold else none := by
    simp only [tunes?, hcall]
  refine .tuning hkeeps (hholds.step hunit hlater)
    (hstep.imp_right fun ⟨record, hproduct, _, hcommitted⟩ => ⟨record, hproduct, hcommitted⟩)
    (fun x hx => ?_) fun hnone => ?_
  · rw [htunes] at hx
    split at hx
    · next hdid =>
      cases hx
      obtain ⟨record, -, hthreshold, hcommitted⟩ := hstep.resolve_left hdid.2
      rw [hcommitted, Tables.putLive, Tables.threshold?_insert, if_pos hdid.1.symm, hthreshold]
    · cases hx
  · rw [htunes] at hnone
    split at hnone
    · cases hnone
    · next hdid => exact (Decidable.not_and_iff_or_not.mp hdid).symm.imp_left Decidable.not_not.mp

/-- **A call that sets a threshold** has returned a value and set it, or has changed nothing so far. -/
theorem Meets.tuned_or_quiet (h : c.Meets ServiceCall.thresholdTerms ServiceCall.ThresholdPost s)
    (hcall : c.call = .setThreshold other threshold) :
    c.hasReturned ∧ StockService.Tuned other threshold c.desk ∨
      c.hasReturned = false ∧ ∀ deed ∈ c.desk.trail, deed.after = deed.before := by
  obtain ⟨call, rest, desk⟩ := c
  cases hcall
  rcases StockService.tuned_or_quiet h with ⟨⟨value, rfl⟩, htuned⟩ | ⟨hrest, hquiet⟩
  · exact .inl ⟨rfl, htuned⟩
  · refine .inr ⟨?_, hquiet⟩
    unfold hasReturned
    split
    · next value heq => exact absurd heq (hrest value)
    · rfl

/-- **A call that sets a threshold** sets it in the step in which it returns a value, and in no other. -/
theorem Retunes.setThreshold (hcall : c.call = .setThreshold other threshold)
    (hrest : c.rest = .ask request next)
    (hnext : (c.step s).1.Meets ServiceCall.thresholdTerms ServiceCall.ThresholdPost (c.step s).2)
    (htunes : StockService.Tunes other threshold c.desk request s)
    (hkeeps : s.committed.KeepsProducts) (hholds : c.Holds product P)
    (hlater : (c.step s).1.desk.unit ≠ none → ∀ x, P x → P' x) : c.Retunes s product P P' := by
  have hanswer := htunes.answer hkeeps
  have hdid : (c.step s).1.desk.unit = c.desk.unit ∧ ((c.step s).2 = s ∨
      ∃ record : StockRecord, record.product = other ∧
        (c.step s).2.committed = s.committed.putLive other record) := by
    rw [step_eq_of_ask hrest]
    exact hanswer
  obtain ⟨hunit, hstep⟩ := hdid
  have hfirst : c.hasReturned = false := by
    rw [hasReturned, hrest]
  have hreturns : c.tunes? s product =
      if other = product ∧ (c.step s).1.hasReturned then some threshold else none := by
    simp only [tunes?, hcall, hfirst, Bool.not_false, true_and]
  have hended := hnext.tuned_or_quiet ((call_step c s).trans hcall)
  refine .tuning hkeeps (hholds.step hunit hlater) hstep (fun x hx => ?_)
    fun hnone => ?_
  · rw [hreturns] at hx
    split at hx
    · next hret =>
      cases hx
      obtain ⟨deed, hdeed, hset, hafter⟩ :=
        (hended.resolve_right fun hquiet => Bool.false_ne_true (hquiet.1.symm.trans hret.2)).2
      -- Before this step the caller has only looked, so the deed is what it did now.
      rcases mem_trail_step hdeed with hold | ⟨-, hnow⟩
      · exact absurd (htunes.1 deed hold).1 hset
      · rw [← hret.1, ← hnow, hafter]
    · cases hx
  · rw [hreturns] at hnone
    split at hnone
    · cases hnone
    next hret =>
    by_cases hother : other = product
    · have hquiet := (hended.resolve_left fun hset => hret ⟨hother, hset.1⟩).2
      refine .inl ?_
      cases request with
      | store r =>
        rw [step_eq_of_ask hrest] at hquiet ⊢
        exact hquiet ⟨r, s, _⟩ (List.mem_append_right _ (List.mem_singleton_self _))
      | _ =>
        rw [step_eq_of_ask hrest]
        rfl
    · exact .inr hother

/-- **Every step** sets a threshold, or leaves it alone, or puts one in its place that its caller has
held. -/
theorem Meets.retunes (h : c.Meets ServiceCall.thresholdTerms ServiceCall.ThresholdPost s)
    (hkeeps : s.committed.KeepsProducts) (hholds : c.Holds product P)
    (hlater : (c.step s).1.desk.unit ≠ none → ∀ x, P x → P' x)
    (hnow : (c.step s).1.desk.unit ≠ none → ∀ x,
      (c.step s).2.committed.threshold? product = some x → P' x) : c.Retunes s product P P' := by
  obtain ⟨heq | ⟨request, next, hrest, howes⟩, hnext⟩ := h.step
  · have hnone : c.tunes? s product = none := by
      unfold tunes?
      split <;> simp [heq]
    refine ⟨by rwa [heq], hholds.step (by rw [heq]) hlater, fun x hx => ?_, fun _ => .inl (by rw [heq])⟩
    cases hnone.symm.trans hx
  cases hcall : c.call with
  | setThreshold other threshold =>
    exact .setThreshold hcall hrest hnext (by rwa [hcall] at howes) hkeeps hholds hlater
  | register other stock threshold =>
    exact .register hcall hrest (by rwa [hcall] at howes) hkeeps hholds hlater
  | _ =>
    refine .carried hrest ?_ hkeeps hholds hlater hnow (by simp only [tunes?, hcall])
    rw [hcall] at howes ⊢
    exact howes

end Caller

/-! ## Runs -/

namespace Crowd

variable {w : Crowd} {schedule : List Nat} {i : Nat} {x : Int}

/-- What a step of the caller at a position sets the threshold of a product to, if anything. -/
def tunes? (w : Crowd) (product : ProductId) (i : Nat) : Option Int :=
  w.callers[i]?.bind fun c => c.tunes? w.store product

/-- **The thresholds that were set for a product** in a run, one after the other; the first is the one with
which it was registered. -/
def tunings (w : Crowd) (product : ProductId) : List Nat → List Int
  | [] => []
  | i :: schedule => (w.tunes? product i).toList ++ (w.step i).tunings product schedule

/-- **A run in which thresholds of a product are set at rest**: while no call that may write the whole record
of the product has a unit of work open. -/
def TunedAtRest (w : Crowd) (product : ProductId) : List Nat → Prop
  | [] => True
  | i :: schedule =>
    (w.tunes? product i ≠ none → w.store.committed.threshold? product ≠ none →
      ∀ c ∈ w.callers, c.call.Rewrites product → c.desk.unit = none) ∧
    (w.step i).TunedAtRest product schedule

instance decidableTunedAtRest (product : ProductId) :
    (w : Crowd) → (schedule : List Nat) → Decidable (w.TunedAtRest product schedule)
  | _, [] => .isTrue trivial
  | w, i :: schedule =>
    have := decidableTunedAtRest product (w.step i) schedule
    inferInstanceAs (Decidable (_ ∧ _))

/-- **A threshold that was committed since the caller at a position began its unit of work.** -/
def SeenInUnit (w : Crowd) (product : ProductId) (schedule : List Nat) (i : Nat) (x : Int) : Prop :=
  ∃ begun since, schedule = begun ++ since ∧
    (w.run begun).store.committed.threshold? product = some x ∧
    ∀ during, during <+: since →
      ∃ c, (w.run (begun ++ during)).callers[i]? = some c ∧ c.desk.unit ≠ none

theorem tunings_concat (w : Crowd) (schedule : List Nat) (i : Nat) :
    w.tunings product (schedule ++ [i]) =
      w.tunings product schedule ++ ((w.run schedule).tunes? product i).toList := by
  induction schedule generalizing w with
  | nil => simp [tunings]
  | cons j schedule ih =>
    rw [List.cons_append, tunings, ih, tunings, List.append_assoc, run_cons]

theorem tunedAtRest_concat :
    w.TunedAtRest product (schedule ++ [i]) ↔ w.TunedAtRest product schedule ∧
      ((w.run schedule).tunes? product i ≠ none →
        (w.run schedule).store.committed.threshold? product ≠ none →
        ∀ c ∈ (w.run schedule).callers, c.call.Rewrites product → c.desk.unit = none) := by
  induction schedule generalizing w with
  | nil => simp [TunedAtRest]
  | cons j schedule ih => rw [List.cons_append, TunedAtRest, ih, TunedAtRest, and_assoc, run_cons]

/-! ### What callers hold -/

theorem SeenInUnit.now {c : Caller} (hc : (w.run schedule).callers[i]? = some c)
    (hopen : c.desk.unit ≠ none)
    (hx : (w.run schedule).store.committed.threshold? product = some x) :
    w.SeenInUnit product schedule i x := by
  refine ⟨schedule, [], (List.append_nil _).symm, hx, fun during hduring => ?_⟩
  rw [List.prefix_nil.mp hduring, List.append_nil]
  exact ⟨c, hc, hopen⟩

theorem SeenInUnit.step {c : Caller} {j : Nat} (h : w.SeenInUnit product schedule i x)
    (hc : (w.run (schedule ++ [j])).callers[i]? = some c) (hopen : c.desk.unit ≠ none) :
    w.SeenInUnit product (schedule ++ [j]) i x := by
  obtain ⟨begun, since, rfl, hx, hduring⟩ := h
  refine ⟨begun, since ++ [j], List.append_assoc .., hx, fun during hpre => ?_⟩
  rcases List.prefix_concat_iff.mp hpre with rfl | hpre
  · exact ⟨c, by rwa [← List.append_assoc], hopen⟩
  · exact hduring during hpre

/-- What was seen is committed now, or had been seen before the last step. -/
theorem SeenInUnit.of_concat {j : Nat} (h : w.SeenInUnit product (schedule ++ [j]) i x) :
    (w.run (schedule ++ [j])).store.committed.threshold? product = some x ∨
      w.SeenInUnit product schedule i x ∧
        ∃ c, (w.run schedule).callers[i]? = some c ∧ c.desk.unit ≠ none := by
  obtain ⟨begun, since, heq, hx, hduring⟩ := h
  rcases List.eq_nil_or_concat since with rfl | ⟨since, k, rfl⟩
  · rw [List.append_nil] at heq
    exact .inl (heq ▸ hx)
  · rw [List.concat_eq_append, ← List.append_assoc] at heq
    obtain ⟨rfl, -⟩ := List.append_inj' heq rfl
    rw [List.concat_eq_append] at hduring
    exact .inr ⟨⟨begun, since, rfl, hx, fun during hpre =>
      hduring during (hpre.trans (List.prefix_append ..))⟩, hduring since (List.prefix_append ..)⟩

/-- **All that callers hold was seen in their units of work.** -/
structure Watched (w : Crowd) (product : ProductId) (schedule : List Nat) : Prop where
  meets : ∀ c ∈ (w.run schedule).callers,
    c.Meets ServiceCall.thresholdTerms ServiceCall.ThresholdPost (w.run schedule).store
  keeps : (w.run schedule).store.committed.KeepsProducts
  holds : ∀ (i : Nat) c, (w.run schedule).callers[i]? = some c →
    c.Holds product (w.SeenInUnit product schedule i)

variable {c : Caller}

theorem store_concat (hi : (w.run schedule).callers[i]? = some c) :
    (w.run (schedule ++ [i])).store = (c.step (w.run schedule).store).2 := by
  rw [run_concat, step_of_getElem? hi]

theorem tunes?_of_getElem? (hi : (w.run schedule).callers[i]? = some c) :
    (w.run schedule).tunes? product i = c.tunes? (w.run schedule).store product := by
  rw [tunes?, hi]
  rfl

/-- **A step of a run** sets a threshold, or puts one back that was seen in its unit of work. -/
theorem Watched.retunes (h : w.Watched product schedule)
    (hi : (w.run schedule).callers[i]? = some c) :
    c.Retunes (w.run schedule).store product (w.SeenInUnit product schedule i)
      (w.SeenInUnit product (schedule ++ [i]) i) := by
  have hc : (w.run (schedule ++ [i])).callers[i]? = some (c.step (w.run schedule).store).1 := by
    rw [run_concat, callers_step hi, if_pos rfl]
  refine (h.meets c (List.mem_of_getElem? hi)).retunes h.keeps (h.holds i c hi)
    (fun hopen x hx => hx.step hc hopen) fun hopen x hx => .now hc hopen ?_
  rwa [store_concat hi]

theorem Watched.step (h : w.Watched product schedule) (i : Nat) :
    w.Watched product (schedule ++ [i]) := by
  have hmeets := meets_step ServiceCall.thresholdTerms_rely h.meets i
  rw [← run_concat] at hmeets
  cases hi : (w.run schedule).callers[i]? with
  | none =>
    have hrun : w.run (schedule ++ [i]) = w.run schedule := by rw [run_concat, Crowd.step, hi]
    refine ⟨hmeets, hrun ▸ h.keeps, fun j cj hj u hu => ?_⟩
    exact (h.holds j cj (hrun ▸ hj) u hu).mono fun x hx => hx.step hj (hu ▸ Option.some_ne_none u)
  | some ci =>
    have hretunes := h.retunes hi
    refine ⟨hmeets, store_concat hi ▸ hretunes.keeps, fun j cj hj => ?_⟩
    have hstep := hj
    rw [run_concat, callers_step hi] at hstep
    split at hstep
    · next hij =>
      subst hij
      cases hstep
      exact hretunes.holds
    · exact fun u hu => (h.holds j cj hstep u hu).mono fun x hx =>
        hx.step hj (hu ▸ Option.some_ne_none u)

theorem watched_opening (catalogue : Table ProductId Product) (calls : List (ServiceCall × Tape))
    (product : ProductId) (schedule : List Nat) :
    (opening catalogue calls).Watched product schedule := by
  induction schedule using List.reverseRecOn with
  | nil =>
    refine ⟨fun c hc => ?_, fun _ _ h => ?_, fun i c hc u hu => ?_⟩
    · obtain ⟨⟨call, tape⟩, -, rfl⟩ := List.mem_map.mp hc
      exact call.meets_thresholdTerms tape _
    · cases h
    · obtain ⟨call, -, rfl⟩ := Option.map_eq_some_iff.mp ((List.getElem?_map ..).symm.trans hc)
      cases hu
  | append_singleton schedule i ih => exact ih.step i

/-! ### What is committed -/

section Committed

variable (h : ∀ schedule, w.Watched product schedule)
include h

/-- A step that is not a tuning. -/
theorem threshold_untuned (hnone : (w.run schedule).tunes? product i = none) :
    ((w.run schedule).step i).store.committed.threshold? product =
        (w.run schedule).store.committed.threshold? product ∨
      ∃ c x, (w.run schedule).callers[i]? = some c ∧ c.call.Rewrites product ∧
        ((w.run schedule).step i).store.committed.threshold? product = some x ∧
        w.SeenInUnit product schedule i x := by
  cases hi : (w.run schedule).callers[i]? with
  | none => exact .inl (by rw [Crowd.step, hi])
  | some c =>
    rw [tunes?_of_getElem? hi] at hnone
    rw [step_of_getElem? hi]
    refine ((h schedule).retunes hi).untuned hnone |>.imp_right ?_
    rintro ⟨hmay, x, hx, hseen⟩
    exact ⟨c, x, rfl, hmay, hx, hseen⟩

theorem threshold_tuned (hx : (w.run schedule).tunes? product i = some x) :
    ((w.run schedule).step i).store.committed.threshold? product = some x := by
  cases hi : (w.run schedule).callers[i]? with
  | none =>
    rw [tunes?, hi] at hx
    cases hx
  | some c =>
    rw [tunes?_of_getElem? hi] at hx
    rw [step_of_getElem? hi]
    exact ((h schedule).retunes hi).tuned x hx

/-- **No threshold is committed that nobody has set.** -/
theorem mem_tunings (hnone : w.store.committed.threshold? product = none) {begun : List Nat}
    (hbegun : begun <+: schedule)
    (hx : (w.run begun).store.committed.threshold? product = some x) :
    x ∈ w.tunings product schedule := by
  induction schedule using List.reverseRecOn generalizing begun with
  | nil =>
    rw [List.prefix_nil.mp hbegun] at hx
    cases hnone.symm.trans hx
  | append_singleton schedule i ih =>
    rw [tunings_concat]
    rcases List.prefix_concat_iff.mp hbegun with rfl | hbegun
    · rw [run_concat] at hx
      cases htunes : (w.run schedule).tunes? product i with
      | some v =>
        cases (threshold_tuned h htunes).symm.trans hx
        exact List.mem_append_right _ (List.mem_singleton_self _)
      | none =>
        refine List.mem_append_left _ ?_
        rcases threshold_untuned h htunes with hsame | ⟨c, y, -, -, hy, begun, since, rfl, hseen, -⟩
        · exact ih List.prefix_rfl (hsame.symm.trans hx)
        · cases hy.symm.trans hx
          exact ih (List.prefix_append ..) hseen
    · exact List.mem_append_left _ (ih hbegun hx)

/-- **Where thresholds are set at rest** the last one stays, and it is all that anybody has seen who may write
it back. -/
theorem threshold_at_rest (hnone : w.store.committed.threshold? product = none)
    (hrest : w.TunedAtRest product schedule) :
    (w.run schedule).store.committed.threshold? product = (w.tunings product schedule).getLast? ∧
      ∀ (i : Nat) c x, (w.run schedule).callers[i]? = some c → c.call.Rewrites product →
        w.SeenInUnit product schedule i x →
        (w.run schedule).store.committed.threshold? product = some x := by
  induction schedule using List.reverseRecOn with
  | nil =>
    refine ⟨hnone, fun i c x _ _ ⟨begun, since, heq, hx, _⟩ => ?_⟩
    rwa [(List.append_eq_nil_iff.mp heq.symm).1] at hx
  | append_singleton schedule i ih =>
    obtain ⟨hrest, hnow⟩ := tunedAtRest_concat.mp hrest
    obtain ⟨hlast, hseen⟩ := ih hrest
    rw [tunings_concat]
    cases htunes : (w.run schedule).tunes? product i with
    | some v =>
      have htuned := threshold_tuned h htunes
      rw [← run_concat] at htuned
      refine ⟨htuned.trans List.getLast?_concat.symm, fun j c x hj hmay hx => ?_⟩
      rcases hx.of_concat with hx | ⟨hx, c', hj', hopen⟩
      · exact hx
      -- Whoever has seen a threshold before has a unit of work open, so nobody tunes.
      have hmay' : c'.call.Rewrites product := call_of_step hj' (run_concat .. ▸ hj) ▸ hmay
      exact absurd (hnow (by rw [htunes]; exact Option.some_ne_none v)
        (by rw [hseen j c' x hj' hmay' hx]; exact Option.some_ne_none x) c'
        (List.mem_of_getElem? hj') hmay') hopen
    | none =>
      have hsame : (w.run (schedule ++ [i])).store.committed.threshold? product =
          (w.run schedule).store.committed.threshold? product := by
        rw [run_concat]
        rcases threshold_untuned h htunes with hsame | ⟨c, x, hi, hmay, hx, hheld⟩
        · exact hsame
        · exact hx.trans (hseen i c x hi hmay hheld).symm
      refine ⟨?_, fun j c x hj hmay hx => ?_⟩
      · rw [hsame, hlast, Option.toList_none, List.append_nil]
      rcases hx.of_concat with hx | ⟨hx, c', hj', -⟩
      · exact hx
      · exact hsame.trans (hseen j c' x hj' (call_of_step hj' (run_concat .. ▸ hj) ▸ hmay) hx)

end Committed

/-- **Only a call that writes a whole record back changes a threshold without setting it**: its commit puts a
threshold back that was committed since its unit of work began.  So nobody's threshold appears out of
nothing, and where thresholds are set at rest the committed one is always the last. -/
theorem threshold_run (catalogue : Table ProductId Product) (calls : List (ServiceCall × Tape))
    (product : ProductId) (schedule : List Nat) :
    (∀ (i : Nat), ((opening catalogue calls).run schedule).tunes? product i = none →
      (((opening catalogue calls).run schedule).step i).store.committed.threshold? product =
          ((opening catalogue calls).run schedule).store.committed.threshold? product ∨
        ∃ c x, ((opening catalogue calls).run schedule).callers[i]? = some c ∧
          c.call.Rewrites product ∧
          (((opening catalogue calls).run schedule).step i).store.committed.threshold? product =
            some x ∧
          (opening catalogue calls).SeenInUnit product schedule i x) ∧
      (∀ x, ((opening catalogue calls).run schedule).store.committed.threshold? product = some x →
        x ∈ (opening catalogue calls).tunings product schedule) ∧
      ((opening catalogue calls).TunedAtRest product schedule →
        ((opening catalogue calls).run schedule).store.committed.threshold? product =
          ((opening catalogue calls).tunings product schedule).getLast?) := by
  have hwatched := watched_opening catalogue calls product
  exact ⟨fun i => threshold_untuned hwatched, fun x => mem_tunings hwatched rfl List.prefix_rfl,
    fun hrest => (threshold_at_rest hwatched rfl hrest).1⟩

/-- A product is registered and reserved, and its threshold is set. -/
def tuningCalls : List (ServiceCall × Tape) :=
  [ .register ⟨1⟩ 10 2, .reserve .standard ⟨1⟩ 3 ⟨7⟩ none, .setThreshold ⟨1⟩ 5 ].map
    (·, .unused (fun _ => ⟨0⟩) fun _ => ⟨0⟩)

/-- The threshold is set before the pieces are reserved. -/
def restingSchedule : List Nat :=
  List.replicate 4 0 ++ List.replicate 3 2 ++ List.replicate 8 1

/-- The threshold is set after the record was read, and before it is written back. -/
def crossingSchedule : List Nat :=
  List.replicate 4 0 ++ List.replicate 3 1 ++ List.replicate 3 2 ++ List.replicate 5 1

/-- A threshold that is set at rest stays. -/
theorem threshold_run_at_rest :
    (opening .empty tuningCalls).TunedAtRest ⟨1⟩ restingSchedule ∧
      ((opening .empty tuningCalls).run restingSchedule).store.committed.threshold? ⟨1⟩ = some 5 := by
  have hrest : (opening .empty tuningCalls).TunedAtRest ⟨1⟩ restingSchedule := by decide
  exact ⟨hrest, (threshold_run .empty tuningCalls ⟨1⟩ restingSchedule).2.2 hrest⟩

/-- **A threshold that is set while pieces are being reserved is lost**: both calls return a value, five was
set last, and the committed threshold is two again. -/
theorem overwritten_threshold :
    (opening .empty tuningCalls).tunings ⟨1⟩ crossingSchedule = [2, 5] ∧
      (∃ value d, ((opening .empty tuningCalls).run crossingSchedule).callers[2]? =
        some ⟨.setThreshold ⟨1⟩ 5, .done (.ok value), d⟩ ∧ value.threshold = 5) ∧
      ((opening .empty tuningCalls).run crossingSchedule).store.committed.threshold? ⟨1⟩ = some 2 :=
  ⟨by decide, ⟨_, _, rfl, rfl⟩, rfl⟩

end Crowd

end Stockroom
