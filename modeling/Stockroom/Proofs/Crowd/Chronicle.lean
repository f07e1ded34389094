import Stockroom.Proofs.Crowd.Threshold
import Stockroom.Proofs.Dialogue.Effect

/-!
# Proofs/Crowd/Chronicle — what one caller of many says

`Crowd.talk` is what a caller says in a run, whoever steps in between.  **It is a conversation of its
program** (`Crowd.says_talk`), and its requests stand in the order of the caller's own steps
(`Crowd.split_talk`).  So what holds of every conversation of a call holds in every run.

The conversation also tells what the caller has at hand: the writes that wait in its unit of work
(`Talk.staged`) and how much of its tape was used.  **A step changes what is committed exactly if it takes
effect, and then by what waits** (`Exchange.Effect`).
-/

namespace Stockroom

open Store

/-! ## Writes that wait -/

/-- The write that an answer has granted. -/
def UnitRequest.granted : (request : UnitRequest) → Except StoreError request.Result → Option Write
  | .replaceStock next expectedVersion, .ok held =>
    if held then some (.replaceStock next expectedVersion) else none
  | .increaseStock product quantity now, .ok held =>
    if held then some (.increaseStock product quantity now) else none
  | .insertReservation reservation, .ok _ => some (.insertReservation reservation)
  | .moveReservation product order expected next now, .ok held =>
    if held then some (.moveReservation product order expected next now) else none
  | .appendEntry entry, .ok _ => some (.appendEntry entry)
  | .insertOrder _, .ok order => some (.insertOrder order)
  | .replaceOrder order expected, .ok held =>
    if held then some (.replaceOrder order expected) else none
  | _, _ => none

/-- The writes that wait after one more exchange, if a unit of work is open. -/
def Exchange.stage (waiting : Option (List Write)) : Exchange → Option (List Write)
  | ⟨.store .begin, _⟩ => some []
  | ⟨.store .commit, _⟩ | ⟨.store .rollback, _⟩ => none
  | ⟨.store (.within request), answer⟩ => waiting.map (· ++ (request.granted answer).toList)
  | _ => waiting

namespace Talk

/-- **The writes that wait in the unit of work** that a conversation has open. -/
def staged (talk : Talk) : Option (List Write) := talk.foldl Exchange.stage none

/-- The readings of the clock. -/
def readings (talk : Talk) : List Instant := talk.filterMap Exchange.time?

theorem readings_append (talk more : Talk) :
    readings (talk ++ more) = talk.readings ++ more.readings := List.filterMap_append ..

/-- The last reading is one of them. -/
theorem mem_readings_of_time? {now : Instant} (h : time? talk = some now) : now ∈ talk.readings := by
  obtain ⟨x, hx, hnow⟩ := List.exists_of_findSome?_eq_some h
  exact List.mem_filterMap.mpr ⟨x, List.mem_reverse.mp hx, hnow⟩

end Talk

/-- **What an answer does to the committed state** if it takes effect, where these writes wait in the unit of
work. -/
def Exchange.Effect (waiting : Option (List Write)) (t t' : Tables) : Exchange → Prop
  | ⟨.store .commit, _⟩ => ∃ writes, waiting = some writes ∧ Write.applyAll writes t = .ok t'
  | ⟨.store (.createStock record), _⟩ =>
    t.stock.get? record.product = none ∧ t' = t.putLive record.product record
  | ⟨.store (.setThreshold product threshold now), _⟩ => ∃ live updated,
    t.liveStock? product = some live ∧ live.withThreshold threshold now = .ok updated ∧
      t' = t.putLive product updated
  | ⟨.store (.removeStock product now), _⟩ => ∃ live, t.liveStock? product = some live ∧
    t' = { t with stock := t.stock.insert product ⟨live, some now⟩ }
  | _ => False

namespace Store

/-- A write waits once it was granted. -/
theorem UnitOfWork.pending_stage (u : UnitOfWork) (committed : Tables) (w : Write) :
    (u.stage committed w).2.pending =
      u.pending ++ (if (u.stage committed w).1 = .ok true then [w] else []) := by
  have hpending := UnitOfWork.Faithful.refreshed_pending u committed w.row?
  cases happly : w.apply (u.refreshed committed w.row?).working with
  | ok working => simp [stage, happly, hpending]
  | error rejection =>
    cases rejection with
    | mismatch mismatch => simp [stage, happly, hpending]
    | failed error => simp [stage, happly, hpending]

namespace Session

/-- The writes that wait in the open unit of work. -/
def staged (x : Session) : Option (List Write) := x.unit.map UnitOfWork.pending

variable {x : Session} {w : Write}

theorem staged_stage : (x.stage w).2.staged =
    x.staged.map (· ++ if (x.stage w).1 = .ok true then [w] else []) := by
  obtain ⟨s, _ | u⟩ := x
  · rfl
  · exact congrArg some (u.pending_stage s.committed w)

/-- A write that has no condition waits if it did not fail. -/
theorem staged_stageUnit (hw : ∀ t mismatch, w.apply t ≠ .error (.mismatch mismatch)) :
    (x.stageUnit w).2.staged = x.staged.map (· ++ if (x.stageUnit w).1 = .ok () then [w] else []) := by
  have hanswer : (x.stageUnit w).1 = (x.stage w).1.map fun _ => () := rfl
  have hstaged : (x.stageUnit w).2.staged = _ := staged_stage
  rw [hstaged, hanswer]
  cases hstage : (x.stage w).1 with
  | error error => rfl
  | ok held =>
    obtain rfl := stage_held hw hstage
    rfl

/-- **What waits after a request** inside a unit of work: what its answer has granted comes last. -/
theorem staged_within (request : UnitRequest) : (x.answerWithin request).2.staged =
    x.staged.map (· ++ (request.granted (x.answerWithin request).1).toList) := by
  have hfind {α : Type} (read : Tables → α) : (x.find read).2.staged = x.staged.map (· ++ []) := by
    rw [find_snd]
    simp
  have hheld {w : Write} (granted : Except StoreError Bool → Option Write)
      (hgranted : ∀ answer, (granted answer).toList = if answer = .ok true then [w] else []) :
      (x.stage w).2.staged = x.staged.map (· ++ (granted (x.stage w).1).toList) := by
    rw [staged_stage, hgranted]
  have hunit {w : Write} (granted : Except StoreError Unit → Option Write)
      (hgranted : ∀ answer, (granted answer).toList = if answer = .ok () then [w] else [])
      (hw : ∀ t mismatch, w.apply t ≠ .error (.mismatch mismatch)) :
      (x.stageUnit w).2.staged = x.staged.map (· ++ (granted (x.stageUnit w).1).toList) := by
    rw [staged_stageUnit hw, hgranted]
  cases request with
  | findStock product => exact hfind _
  | findReservation product order => exact hfind _
  | findOrder order => exact hfind _
  | replaceStock next version =>
    exact hheld (UnitRequest.granted (.replaceStock next version)) fun answer => by
      rcases answer with _ | _ | _ <;> rfl
  | increaseStock product quantity now =>
    exact hheld (UnitRequest.granted (.increaseStock product quantity now)) fun answer => by
      rcases answer with _ | _ | _ <;> rfl
  | moveReservation product order expected next now =>
    exact hheld (UnitRequest.granted (.moveReservation product order expected next now)) fun answer => by
      rcases answer with _ | _ | _ <;> rfl
  | replaceOrder order expected =>
    exact hheld (UnitRequest.granted (.replaceOrder order expected)) fun answer => by
      rcases answer with _ | _ | _ <;> rfl
  | insertReservation reservation =>
    refine hunit (UnitRequest.granted (.insertReservation reservation)) (fun answer => ?_) fun t _ h => ?_
    · rcases answer with _ | _ <;> rfl
    · rw [Write.apply] at h
      split at h <;> cases h
  | appendEntry entry =>
    refine hunit (UnitRequest.granted (.appendEntry entry)) (fun answer => ?_) fun t _ h => ?_
    · rcases answer with _ | _ <;> rfl
    · cases h
  | insertOrder draft =>
    let order := draft.toOrder ⟨x.store.nextOrder⟩
    let drawn : Session := { x with store := ⟨x.store.committed, x.store.nextOrder + 1⟩ }
    have hanswer : (x.answerWithin (.insertOrder draft)).1 =
        (drawn.stageUnit (.insertOrder order)).1.map fun _ => order := by
      show (drawn.stage (.insertOrder order)).1.map (fun _ => order) =
        ((drawn.stage (.insertOrder order)).1.map fun _ => ()).map fun _ => order
      cases (drawn.stage (.insertOrder order)).1 <;> rfl
    have hstaged : (x.answerWithin (.insertOrder draft)).2.staged = _ :=
      staged_stageUnit (x := drawn) (w := .insertOrder order) fun t _ h => by cases h
    rw [hstaged, hanswer]
    cases (drawn.stageUnit (.insertOrder order)).1 <;> rfl

end Session

end Store

/-! ## One request -/

namespace Desk

variable {d : Desk} {s : Store}

/-- The writes that wait in the open unit of work. -/
def staged (d : Desk) : Option (List Write) := d.unit.map UnitOfWork.pending

/-- **What waits after a request** can be told from the answer. -/
theorem staged_answer (request : HostRequest) : (d.answer s request).2.1.staged =
    Exchange.stage d.staged ⟨request, (d.answer s request).1⟩ := by
  cases request with
  | store r =>
    cases r with
    | begin => rfl
    | commit =>
      cases hunit : d.unit with
      | none =>
        obtain ⟨error, hanswer⟩ := Session.commit_of_none (s := s) hunit
        rw [answer_store hanswer]
        rfl
      | some u =>
        cases happly : Write.applyAll u.pending s.committed with
        | ok t =>
          rw [answer_store (Session.commit_of_ok hunit happly)]
          rfl
        | error rejection =>
          obtain ⟨error, hanswer⟩ := Session.commit_of_error hunit happly
          rw [answer_store hanswer]
          rfl
    | rollback => rfl
    | within request => exact Session.staged_within (x := ⟨s, d.unit⟩) request
    | createStock record =>
      rcases Session.createStock_cases ⟨s, d.unit⟩ record with hanswer | ⟨answer, hanswer⟩
      all_goals
        rw [answer_store (r := .createStock record) hanswer]
        rfl
    | setThreshold product threshold now =>
      rcases Session.setThreshold_cases ⟨s, d.unit⟩ product threshold now with
        ⟨live, updated, -, -, -, hanswer⟩ | ⟨answer, -, hanswer⟩
      all_goals
        rw [answer_store (r := .setThreshold product threshold now) hanswer]
        rfl
    | removeStock product now =>
      rcases Session.removeStock_cases ⟨s, d.unit⟩ product now with ⟨live, -, hanswer⟩ | ⟨answer, hanswer⟩
      all_goals
        rw [answer_store (r := .removeStock product now) hanswer]
        rfl
    | _ => rfl
  | _ => rfl

/-- **What a conversation tells about a desk**: the writes that wait, and how much of the tape was used. -/
structure Follows (d : Desk) (talk : Talk) (d' : Desk) : Prop where
  staged : d'.staged = talk.foldl Exchange.stage d.staged
  clock : d'.tape.clock = d.tape.clock
  readings : d'.tape.readings = d.tape.readings + talk.readings.length
  times : talk.readings =
    (List.range talk.readings.length).map fun k => d.tape.clock (d.tape.readings + k)

theorem Follows.refl (d : Desk) : d.Follows [] d := ⟨rfl, rfl, rfl, rfl⟩

theorem Follows.trans {d' d'' : Desk} {talk more : Talk} (h : d.Follows talk d')
    (h' : d'.Follows more d'') : d.Follows (talk ++ more) d'' where
  staged := by rw [h'.staged, h.staged, List.foldl_append]
  clock := h'.clock.trans h.clock
  readings := by rw [h'.readings, h.readings, Talk.readings_append, List.length_append, Nat.add_assoc]
  times := by
    have htimes := h'.times
    rw [h.clock, h.readings] at htimes
    rw [Talk.readings_append, List.length_append, List.range_add, List.map_append, List.map_map,
      ← h.times]
    refine congrArg _ (htimes.trans (List.map_congr_left fun k _ => ?_))
    rw [Nat.add_assoc, Function.comp_apply]

/-- **The last readings of a conversation** are the last ones of the tape. -/
theorem Follows.last {d' : Desk} {talk : Talk} {earlier times : List Instant}
    (h : d.Follows talk d') (htalk : talk.readings = earlier ++ times) :
    d'.tape.readings = d.tape.readings + earlier.length + times.length ∧
      times = (List.range times.length).map fun k =>
        d.tape.clock (d.tape.readings + earlier.length + k) := by
  have htimes := h.times
  rw [htalk, List.length_append, List.range_add, List.map_append, List.map_map] at htimes
  refine ⟨by rw [h.readings, htalk, List.length_append, Nat.add_assoc], ?_⟩
  refine (List.append_inj htimes (by simp)).2.trans (List.map_congr_left fun k _ => ?_)
  rw [Nat.add_assoc, Function.comp_apply]

/-- **Every reading of a conversation** is one of the tape. -/
theorem Follows.mem_readings {d' : Desk} {talk : Talk} {now : Instant} (h : d.Follows talk d')
    (hnow : now ∈ talk.readings) : ∃ k, now = d.tape.clock k := by
  rw [h.times] at hnow
  obtain ⟨k, -, rfl⟩ := List.mem_map.mp hnow
  exact ⟨_, rfl⟩

theorem Follows.answer (request : HostRequest) :
    d.Follows [⟨request, (d.answer s request).1⟩] (d.answer s request).2.1 := by
  refine ⟨staged_answer request, ?_, ?_, ?_⟩ <;> cases request <;> rfl

/-- **A request changes what is committed exactly if it takes effect.** -/
theorem effect_answer (request : HostRequest) :
    Exchange.takesEffect ⟨request, (d.answer s request).1⟩ ∧
        Exchange.Effect d.staged s.committed (d.answer s request).2.2.committed
          ⟨request, (d.answer s request).1⟩ ∨
      Exchange.takesEffect ⟨request, (d.answer s request).1⟩ = false ∧
        (d.answer s request).2.2.committed = s.committed := by
  cases request with
  | store r =>
    cases r with
    | commit =>
      cases hunit : d.unit with
      | none =>
        obtain ⟨error, hanswer⟩ := Session.commit_of_none (s := s) hunit
        rw [answer_store hanswer]
        exact .inr ⟨rfl, rfl⟩
      | some u =>
        cases happly : Write.applyAll u.pending s.committed with
        | ok t =>
          rw [answer_store (Session.commit_of_ok hunit happly)]
          exact .inl ⟨rfl, u.pending, congrArg (Option.map UnitOfWork.pending) hunit, happly⟩
        | error rejection =>
          obtain ⟨error, hanswer⟩ := Session.commit_of_error hunit happly
          rw [answer_store hanswer]
          exact .inr ⟨rfl, rfl⟩
    | within request =>
      exact .inr ⟨rfl, (Session.answerWithin_unit ⟨s, d.unit⟩ request).1⟩
    | createStock record =>
      cases hrow : s.committed.stock.get? record.product with
      | some row =>
        have hanswer : Session.answer ⟨s, d.unit⟩ (.createStock record) = (_, ⟨s, d.unit⟩) :=
          if_pos (by rw [Table.contains, hrow]; rfl)
        rw [answer_store hanswer]
        exact .inr ⟨rfl, rfl⟩
      | none =>
        have hanswer : Session.answer ⟨s, d.unit⟩ (.createStock record) = (.ok (), _) :=
          if_neg (by rw [Table.contains, hrow]; exact Bool.false_ne_true)
        rw [answer_store hanswer]
        exact .inl ⟨rfl, hrow, rfl⟩
    | setThreshold product threshold now =>
      cases hlive : s.committed.liveStock? product with
      | none =>
        have hanswer : Session.answer ⟨s, d.unit⟩ (.setThreshold product threshold now) =
            (.ok false, ⟨s, d.unit⟩) := by
          simp only [Session.answer, Session.setThreshold, hlive]
        rw [answer_store hanswer]
        exact .inr ⟨rfl, rfl⟩
      | some live =>
        cases hupdated : live.withThreshold threshold now with
        | ok updated =>
          have hanswer : Session.answer ⟨s, d.unit⟩ (.setThreshold product threshold now) =
              (.ok true, Session.withCommitted ⟨s, d.unit⟩ (s.committed.putLive product updated)) := by
            simp only [Session.answer, Session.setThreshold, hlive, hupdated]
          rw [answer_store hanswer]
          exact .inl ⟨rfl, live, updated, hlive, hupdated, rfl⟩
        | error refusal =>
          have hanswer : Session.answer ⟨s, d.unit⟩ (.setThreshold product threshold now) =
              (.error (.operationFailed refusal.message), ⟨s, d.unit⟩) := by
            simp only [Session.answer, Session.setThreshold, hlive, hupdated]
          rw [answer_store hanswer]
          exact .inr ⟨rfl, rfl⟩
    | removeStock product now =>
      cases hlive : s.committed.liveStock? product with
      | none =>
        have hanswer : Session.answer ⟨s, d.unit⟩ (.removeStock product now) =
            (.ok false, ⟨s, d.unit⟩) := by
          simp only [Session.answer, Session.removeStock, hlive]
        rw [answer_store hanswer]
        exact .inr ⟨rfl, rfl⟩
      | some live =>
        have hanswer : Session.answer ⟨s, d.unit⟩ (.removeStock product now) =
            (.ok true, Session.withCommitted ⟨s, d.unit⟩ { s.committed with
              stock := s.committed.stock.insert product ⟨live, some now⟩ }) := by
          simp only [Session.answer, Session.removeStock, hlive]
        rw [answer_store hanswer]
        exact .inl ⟨rfl, live, hlive, rfl⟩
    | _ => exact .inr ⟨rfl, rfl⟩
  | _ => exact .inr ⟨rfl, rfl⟩

end Desk

/-! ## One caller -/

namespace Caller

variable {c : Caller} {s : Store}

/-- **What a caller says with its next request**, if it has one. -/
def saying (c : Caller) (s : Store) : Talk :=
  match c.rest with
  | .done _ | .abort => []
  | .ask request _ => [⟨request, (c.desk.answer s request).1⟩]

theorem saying_of_ask {request : HostRequest}
    {next : request.Answer → Program Host (Except ServiceError c.call.Result)}
    (h : c.rest = .ask request next) : c.saying s = [⟨request, (c.desk.answer s request).1⟩] := by
  rw [saying, h]

/-- A caller that has nothing to say stays as it is. -/
theorem saying_cases (c : Caller) (s : Store) :
    c.saying s = [] ∧ c.step s = (c, s) ∨ ∃ request next, c.rest = .ask request next := by
  cases h : c.rest with
  | done result => exact .inl ⟨by rw [saying, h], by rw [step, h]⟩
  | abort => exact .inl ⟨by rw [saying, h], by rw [step, h]⟩
  | ask request next => exact .inr ⟨request, next, rfl⟩

/-- **A step of a caller** is the next part of its conversation. -/
theorem says_step (c : Caller) (s : Store) : ∃ rest desk, (c.step s).1 = ⟨c.call, rest, desk⟩ ∧
    c.rest.Says (c.saying s) rest ∧ c.desk.Follows (c.saying s) desk := by
  rcases saying_cases c s with ⟨hsaying, hstep⟩ | ⟨request, next, hrest⟩
  · rw [hsaying, hstep]
    exact ⟨c.rest, c.desk, rfl, .nil _, .refl _⟩
  · rw [saying_of_ask hrest, step_eq_of_ask hrest]
    refine ⟨_, _, rfl, ?_, .answer request⟩
    rw [hrest]
    exact (Program.Says.nil _).ask

/-- **A step of a caller** changes what is committed exactly if what it says takes effect. -/
theorem effect_step (c : Caller) (s : Store) :
    (∃ x, c.saying s = [x] ∧ x.takesEffect ∧
      x.Effect c.desk.staged s.committed (c.step s).2.committed) ∨
    (c.saying s).Quiet ∧ (c.step s).2.committed = s.committed := by
  rcases saying_cases c s with ⟨hsaying, hstep⟩ | ⟨request, next, hrest⟩
  · rw [hsaying, hstep]
    exact .inr ⟨Talk.quiet_nil, rfl⟩
  · rw [saying_of_ask hrest, step_eq_of_ask hrest]
    rcases Desk.effect_answer (d := c.desk) (s := s) request with ⟨htakes, heffect⟩ | ⟨htakes, hsame⟩
    · exact .inl ⟨_, rfl, htakes, heffect⟩
    · exact .inr ⟨.cons htakes Talk.quiet_nil, hsame⟩

/-- Numbers of orders are only drawn. -/
theorem nextOrder_step (c : Caller) (s : Store) : s.nextOrder ≤ (c.step s).2.nextOrder :=
  (c.counts s).next

end Caller

/-! ## Many callers -/

namespace Crowd

variable {w : Crowd} {i : Nat} {schedule first rest : List Nat}

/-- What the caller at a position says with its next request. -/
def saying (w : Crowd) (i : Nat) : Talk := w.callers[i]?.elim [] (·.saying w.store)

/-- **What the caller at a position says in a run.** -/
def talk (w : Crowd) (i : Nat) : List Nat → Talk
  | [] => []
  | j :: schedule => (if j = i then w.saying i else []) ++ (w.step j).talk i schedule

/-- The callers of an opening have not made a request. -/
theorem fresh_of_opening {catalogue : Table ProductId Product} {calls : List (ServiceCall × Tape)}
    {call : ServiceCall} {tape : Tape} (h : calls[i]? = some (call, tape)) :
    (opening catalogue calls).callers[i]? = some (.fresh call tape) := by
  rw [opening, List.getElem?_map, h]
  rfl

theorem saying_of_getElem? {c : Caller} (h : w.callers[i]? = some c) : w.saying i = c.saying w.store := by
  rw [saying, h]
  rfl

theorem talk_append (w : Crowd) (i : Nat) (schedule more : List Nat) :
    w.talk i (schedule ++ more) = w.talk i schedule ++ (w.run schedule).talk i more := by
  induction schedule generalizing w with
  | nil => rfl
  | cons j schedule ih => rw [List.cons_append, talk, ih, talk, List.append_assoc, run_cons]

/-- **What is said in a run** is said before a step, in it, and after it. -/
theorem talk_split (w : Crowd) (i : Nat) (first rest : List Nat) : w.talk i (first ++ i :: rest) =
    w.talk i first ++ ((w.run first).saying i ++ (w.run (first ++ [i])).talk i rest) := by
  rw [talk_append, talk, if_pos rfl, run_concat]

/-- **A caller holds a conversation of its program**, whoever steps in between. -/
theorem says_talk {c : Caller} (h : w.callers[i]? = some c) (schedule : List Nat) :
    ∃ rest desk, (w.run schedule).callers[i]? = some ⟨c.call, rest, desk⟩ ∧
      c.rest.Says (w.talk i schedule) rest ∧ c.desk.Follows (w.talk i schedule) desk := by
  induction schedule generalizing w c with
  | nil => exact ⟨c.rest, c.desk, h, .nil _, .refl _⟩
  | cons j schedule ih =>
    rw [run_cons, talk]
    by_cases hji : j = i
    · subst hji
      obtain ⟨rest, desk, hstep, hsays, hfollows⟩ := c.says_step w.store
      have hc : (w.step j).callers[j]? = some ⟨c.call, rest, desk⟩ := by
        rw [callers_step h, if_pos rfl, hstep]
      obtain ⟨rest', desk', hrun, hsays', hfollows'⟩ := ih hc
      rw [if_pos rfl, saying_of_getElem? h]
      exact ⟨rest', desk', hrun, hsays.append hsays', hfollows.trans hfollows'⟩
    · have hc : (w.step j).callers[i]? = some c := by
        cases hj : w.callers[j]? with
        | none => rwa [step, hj]
        | some cj => rwa [callers_step hj, if_neg hji]
      rw [if_neg hji]
      exact ih hc

/-- **Everybody in a run has called at its beginning.** -/
theorem exists_tape_of_run {catalogue : Table ProductId Product} {calls : List (ServiceCall × Tape)}
    {c : Caller} (h : ((opening catalogue calls).run schedule).callers[i]? = some c) :
    ∃ tape, calls[i]? = some (c.call, tape) := by
  cases hcall : calls[i]? with
  | some called =>
    have hfresh : (opening catalogue calls).callers[i]? = _ := fresh_of_opening hcall
    obtain ⟨rest, desk, hrun, -, -⟩ := says_talk hfresh schedule
    cases h.symm.trans hrun
    exact ⟨called.2, rfl⟩
  | none =>
    have hlength := (List.getElem?_eq_some_iff.mp h).1
    rw [length_callers_run, opening, List.length_map] at hlength
    exact absurd hlength (Nat.not_lt.mpr (List.getElem?_eq_none_iff.mp hcall))

/-- Nobody says more than one thing in a step. -/
theorem saying_cases (w : Crowd) (i : Nat) : w.saying i = [] ∨ ∃ x, w.saying i = [x] := by
  cases h : w.callers[i]? with
  | none => exact .inl (by rw [saying, h]; rfl)
  | some c =>
    rw [saying_of_getElem? h]
    rcases c.saying_cases w.store with ⟨hsaying, -⟩ | ⟨request, next, hrest⟩
    · exact .inl hsaying
    · exact .inr ⟨_, Caller.saying_of_ask hrest⟩

/-- **Whatever is said is said in a step of the caller's own.** -/
theorem split_talk {before after : Talk} {x : Exchange} (h : w.talk i schedule = before ++ x :: after) :
    ∃ first rest, schedule = first ++ i :: rest ∧ w.talk i first = before ∧
      (w.run first).saying i = [x] ∧ (w.run (first ++ [i])).talk i rest = after := by
  induction schedule generalizing w before with
  | nil => exact absurd h.symm (List.append_ne_nil_of_right_ne_nil _ (List.cons_ne_nil _ _))
  | cons j schedule ih =>
    rw [talk] at h
    -- The step says nothing of the caller's own, or the first thing that is said.
    have hsaid : (if j = i then w.saying i else []) = [] ∨ j = i ∧ ∃ y, w.saying i = [y] := by
      by_cases hji : j = i
      · rw [if_pos hji]
        exact (w.saying_cases i).imp_right fun hy => ⟨hji, hy⟩
      · exact .inl (if_neg hji)
    have hlater {before' : Talk} (hbefore : before = (if j = i then w.saying i else []) ++ before')
        (htalk : (w.step j).talk i schedule = before' ++ x :: after) :
        ∃ first rest, j :: schedule = first ++ i :: rest ∧ w.talk i first = before ∧
          (w.run first).saying i = [x] ∧ (w.run (first ++ [i])).talk i rest = after := by
      obtain ⟨first, rest, rfl, hfirst, hsaying, hrest⟩ := ih htalk
      exact ⟨j :: first, rest, rfl, by rw [talk, hfirst, hbefore], hsaying, hrest⟩
    rcases hsaid with hnothing | ⟨rfl, y, hy⟩
    · exact hlater (by rw [hnothing]; rfl) (by rwa [hnothing] at h)
    · rw [if_pos rfl, hy] at h
      cases before with
      | nil =>
        obtain ⟨rfl, rfl⟩ := List.cons_eq_cons.mp h
        exact ⟨[], schedule, rfl, rfl, hy, rfl⟩
      | cons z before =>
        obtain ⟨rfl, htalk⟩ := List.cons_eq_cons.mp h
        exact hlater (by rw [if_pos rfl, hy]; rfl) htalk

end Crowd

end Stockroom
