import Stockroom.Proofs.Crowd.Counters
import Stockroom.Proofs.Service.Promise

/-!
# Proofs/Crowd/Run — all calls together

Every call keeps its promise as long as the others keep theirs, and the counters of the store leave
room for as many steps as a run may have.  **Hence in a run of the crowd every step leaves the store
alone or is a `Change`** (`Crowd.assured_run`): the store stays `Reachable`, every deed is a change of
the call that did it, and a guarded call that has returned a value has delivered its draft.
-/

namespace Stockroom

open Store

variable {A : ServiceCall → Prop}

/-- **What is known of a call that has returned a value**: a guarded one has delivered its draft. -/
def ServiceCall.Outcome (A : ServiceCall → Prop) (tape : Tape) (call : ServiceCall)
    (value : call.Result) (d : Desk) (s : Store) : Prop :=
  call.IsGuarded → d.Delivers A [] (call.Drafts A tape value) s

theorem ServiceCall.assured_outcome {call : ServiceCall} (hA : A call) (hfits : call.Fits)
    (tape : Tape) (s : Store) :
    call.program.Assured A call (call.Outcome A tape) (.fresh tape) s := by
  by_cases hguarded : call.IsGuarded
  · exact (assured_of_guarded hguarded hA (.any (.fresh tape) s)).mono fun _ _ _ _ h _ => h
  · exact (assured hA hfits (.fresh tape) s).mono fun _ _ _ _ _ h => absurd h hguarded

/-! ## One caller -/

namespace Caller

variable {c : Caller} {s : Store}

theorem call_step (c : Caller) (s : Store) : (c.step s).1.call = c.call := by
  unfold step
  split <;> rfl

theorem step_eq_of_ask {request : HostRequest}
    {next : request.Answer → Program Host (Except ServiceError c.call.Result)}
    (h : c.rest = .ask request next) :
    c.step s = ({ c with
      rest := next (c.desk.answer s request).1
      desk := (c.desk.answer s request).2.1 }, (c.desk.answer s request).2.2) := by
  rw [step, h]

/-- A caller either has nothing to do or makes a request. -/
theorem step_cases (c : Caller) (s : Store) :
    c.step s = (c, s) ∨ ∃ request next, c.rest = .ask request next := by
  cases h : c.rest with
  | done result => exact .inl (by rw [step, h])
  | abort => exact .inl (by rw [step, h])
  | ask request next => exact .inr ⟨request, next, rfl⟩

/-- A caller makes this request to the store next. -/
def Asks (c : Caller) (r : StoreRequest) : Prop := ∃ next, c.rest = .ask (.store r) next

/-- **The trail of a caller grows by the request that it makes.** -/
theorem asks_of_mem_trail_step {deed : Deed} (h : deed ∈ (c.step s).1.desk.trail) :
    deed ∈ c.desk.trail ∨ c.Asks deed.request ∧ deed.before = s ∧ deed.after = (c.step s).2 := by
  rcases step_cases c s with heq | ⟨request, next, hrest⟩
  · exact .inl (by rwa [heq] at h)
  rw [step_eq_of_ask hrest] at h ⊢
  cases request with
  | store r =>
    rcases List.mem_append.mp h with h | h
    · exact .inl h
    · cases List.mem_singleton.mp h
      exact .inr ⟨⟨next, hrest⟩, rfl, rfl⟩
  | _ => exact .inl h

theorem mem_trail_step {deed : Deed} (h : deed ∈ (c.step s).1.desk.trail) :
    deed ∈ c.desk.trail ∨ deed.before = s ∧ deed.after = (c.step s).2 :=
  (asks_of_mem_trail_step h).imp_right And.right

theorem trail_prefix_step (c : Caller) (s : Store) :
    c.desk.trail <+: (c.step s).1.desk.trail := by
  rcases step_cases c s with heq | ⟨request, next, hrest⟩
  · exact heq ▸ List.prefix_rfl
  rw [step_eq_of_ask hrest]
  cases request with
  | store r => exact List.prefix_append ..
  | _ => exact List.prefix_rfl

/-- **A caller that keeps its promise** at every request. -/
structure Keeps (A : ServiceCall → Prop) (c : Caller) (tape : Tape) (s : Store) : Prop where
  allowed : A c.call
  rest : c.rest.Assured A c.call
    (fun result d s => ∀ value, result = .ok value → c.call.Outcome A tape value d s) c.desk s
  trail : ∀ deed ∈ c.desk.trail, Reachable A deed.before ∧
    (deed.after = deed.before ∨ Change c.call deed.before deed.after) ∧ Later A deed.after s

variable {tape : Tape}

theorem Keeps.later {s' : Store} (h : c.Keeps A tape s) (hl : Later A s s') : c.Keeps A tape s' :=
  ⟨h.allowed, h.rest.later hl, fun deed hdeed =>
    ⟨(h.trail deed hdeed).1, (h.trail deed hdeed).2.1, (h.trail deed hdeed).2.2.trans hl⟩⟩

/-- **A step of a caller that keeps its promise** is a change of its call, or none. -/
theorem Keeps.step (h : c.Keeps A tape s) (hs : Reachable A s) (hadmits : s.Admits c.desk.pending) :
    ((c.step s).2 = s ∨ Change c.call s (c.step s).2) ∧ Later A s (c.step s).2 ∧
      (c.step s).1.Keeps A tape (c.step s).2 := by
  rcases step_cases c s with heq | ⟨request, next, hrest⟩
  · rw [heq]
    exact ⟨.inl rfl, .refl s, h⟩
  have hassured := h.rest
  rw [hrest] at hassured
  obtain ⟨hstep, hnext⟩ := hassured s (.refl s) hs hadmits
  have hchange : (c.step s).2 = s ∨ Change c.call s (c.step s).2 := by
    rw [step_eq_of_ask hrest]
    exact hstep.imp_right And.right
  have hlater : Later A s (c.step s).2 := by
    rcases hchange with heq | hchange
    · rw [heq]
      exact .refl s
    · exact .single h.allowed hchange
  refine ⟨hchange, hlater, ?_, ?_, fun deed hdeed => ?_⟩
  · rw [step_eq_of_ask hrest]
    exact h.allowed
  · rw [step_eq_of_ask hrest]
    exact hnext
  · rcases mem_trail_step hdeed with hdeed | ⟨hbefore, hafter⟩
    · obtain ⟨hreach, hch, hl⟩ := h.trail deed hdeed
      exact ⟨hreach, by rwa [call_step], hl.trans hlater⟩
    · rw [hbefore, hafter, call_step]
      exact ⟨hs, hchange, .refl _⟩

end Caller

/-! ## Deeds of a run -/

namespace Crowd

/-- **Every deed was asked for in a step of the run**, unless it had been done before. -/
theorem asks_of_run {w : Crowd} {schedule : List Nat} {i : Nat} {c : Caller} {deed : Deed}
    (hc : (w.run schedule).callers[i]? = some c) (hdeed : deed ∈ c.desk.trail) :
    (∃ c₀, w.callers[i]? = some c₀ ∧ deed ∈ c₀.desk.trail) ∨
      ∃ first rest c', schedule = first ++ i :: rest ∧ (w.run first).callers[i]? = some c' ∧
        c'.Asks deed.request ∧ deed.before = (w.run first).store ∧
        deed.after = (w.run (first ++ [i])).store := by
  induction schedule generalizing w with
  | nil => exact .inl ⟨c, hc, hdeed⟩
  | cons j schedule ih =>
    rcases ih hc with ⟨c₁, hc₁, hdeed₁⟩ | ⟨first, rest, c', hsplit, hc', hasks⟩
    · cases hj : w.callers[j]? with
      | none =>
        rw [Crowd.step, hj] at hc₁
        exact .inl ⟨c₁, hc₁, hdeed₁⟩
      | some cj =>
        rw [step_of_getElem? hj, List.getElem?_set] at hc₁
        split at hc₁
        · next heq =>
          subst heq
          rw [if_pos (List.getElem?_eq_some_iff.mp hj).1] at hc₁
          cases hc₁
          rcases Caller.asks_of_mem_trail_step hdeed₁ with hdeed₀ | ⟨hasks, hbefore, hafter⟩
          · exact .inl ⟨cj, hj, hdeed₀⟩
          · refine .inr ⟨[], schedule, cj, rfl, hj, hasks, hbefore, ?_⟩
            rw [List.nil_append, run_cons, run_nil, step_of_getElem? hj]
            exact hafter
        · exact .inl ⟨c₁, hc₁, hdeed₁⟩
    · exact .inr ⟨j :: first, rest, c', congrArg (j :: ·) hsplit, hc', hasks⟩

/-- **Every deed of a run from the opening** was done in one of its steps. -/
theorem deed_of_opening {catalogue : Table ProductId Product} {calls : List (ServiceCall × Tape)}
    {schedule : List Nat} {i : Nat} {c : Caller} {deed : Deed}
    (hc : ((opening catalogue calls).run schedule).callers[i]? = some c)
    (hdeed : deed ∈ c.desk.trail) :
    ∃ first rest, schedule = first ++ i :: rest ∧
      deed.before = ((opening catalogue calls).run first).store ∧
      deed.after = ((opening catalogue calls).run (first ++ [i])).store := by
  rcases asks_of_run hc hdeed with ⟨c₀, hc₀, hmem⟩ | ⟨first, rest, -, hsplit, -, -, hstores⟩
  · obtain ⟨call, -, rfl⟩ := Option.map_eq_some_iff.mp ((List.getElem?_map ..).symm.trans hc₀)
    exact absurd hmem List.not_mem_nil
  · exact ⟨first, rest, hsplit, hstores⟩

end Crowd

/-! ## All callers -/

namespace Crowd

/-- **A crowd whose callers all keep their promises.** -/
structure Assured (A : ServiceCall → Prop) (calls : List (ServiceCall × Tape)) (w : Crowd) :
    Prop where
  reachable : Reachable A w.store
  callers : ∀ (i : Nat) c, w.callers[i]? = some c →
    ∃ tape, calls[i]? = some (c.call, tape) ∧ c.Keeps A tape w.store

variable {calls : List (ServiceCall × Tape)} {w : Crowd}

theorem assured_opening (catalogue : Table ProductId Product)
    (hA : ∀ call ∈ calls, A call.1) (hfits : ∀ call ∈ calls, call.1.Fits) :
    (opening catalogue calls).Assured A calls where
  reachable := ⟨catalogue, .refl _⟩
  callers i c hc := by
    obtain ⟨⟨call, tape⟩, hcall, rfl⟩ :=
      Option.map_eq_some_iff.mp ((List.getElem?_map ..).symm.trans hc)
    have hmem := List.mem_of_getElem? hcall
    exact ⟨tape, hcall, hA _ hmem, call.assured_outcome (hA _ hmem) (hfits _ hmem) tape _,
      fun _ hdeed => absurd hdeed List.not_mem_nil⟩

theorem Assured.step {steps : Nat} (h : w.Assured A calls) (hcounted : w.Counted steps)
    (hsteps : steps < 2 ^ 63) (i : Nat) : (w.step i).Assured A calls := by
  unfold Crowd.step
  split
  · exact h
  next c hc =>
  obtain ⟨tape, hcall, hkeeps⟩ := h.callers i c hc
  obtain ⟨-, hlater, hkeeps'⟩ := hkeeps.step h.reachable (hcounted.admits hsteps hc)
  refine ⟨h.reachable.later hlater, fun j c' hj => ?_⟩
  rw [List.getElem?_set] at hj
  split at hj
  · next heq =>
    subst heq
    split at hj
    · cases hj
      exact ⟨tape, by rwa [Caller.call_step], hkeeps'⟩
    · cases hj
  · obtain ⟨tape', hcall', hkeeps''⟩ := h.callers j c' hj
    exact ⟨tape', hcall', hkeeps''.later hlater⟩

/-- **A step of an assured crowd** is a change of the call that makes it, or none. -/
theorem Assured.change_step {steps : Nat} (h : w.Assured A calls) (hcounted : w.Counted steps)
    (hsteps : steps < 2 ^ 63) (i : Nat) : (w.step i).store = w.store ∨
      ∃ call tape, calls[i]? = some (call, tape) ∧ A call ∧ Change call w.store (w.step i).store := by
  cases hi : w.callers[i]? with
  | none => exact .inl (by rw [Crowd.step, hi])
  | some c =>
    obtain ⟨tape, hcall, hkeeps⟩ := h.callers i c hi
    rw [step_of_getElem? hi]
    exact (hkeeps.step h.reachable (hcounted.admits hsteps hi)).1.imp_right fun hchange =>
      ⟨c.call, tape, hcall, hkeeps.allowed, hchange⟩

theorem Assured.run {steps : Nat} (h : w.Assured A calls) (hcounted : w.Counted steps)
    {schedule : List Nat} (hsteps : steps + schedule.length ≤ 2 ^ 63) :
    (w.run schedule).Assured A calls := by
  induction schedule generalizing w steps with
  | nil => exact h
  | cons i schedule ih =>
    rw [List.length_cons] at hsteps
    exact ih (h.step hcounted (by omega) i) (hcounted.step i) (by omega)

/-- **Runs from the opening are assured**: the calls that were there from the beginning are all that can
have changed the store. -/
theorem assured_run (catalogue : Table ProductId Product)
    (hfits : ∀ call ∈ calls, call.1.Fits) {schedule : List Nat} (hsteps : schedule.length < 2 ^ 63) :
    ((opening catalogue calls).run schedule).Assured (· ∈ calls.map Prod.fst) calls :=
  (assured_opening catalogue (fun _ hcall => List.mem_map_of_mem hcall) hfits).run
    (counted_opening catalogue calls) (by omega)

end Crowd

end Stockroom
