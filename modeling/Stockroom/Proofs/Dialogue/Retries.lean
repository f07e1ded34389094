import Stockroom.Proofs.Dialogue.Discipline

/-!
# Proofs/Dialogue/Retries — attempts that lose races, and the one that ends it

Creating an order is trying again and again.  **`OrderService.Retried` is the protocol**: another attempt
is made exactly while attempts are left and the last one was lost, the first order is returned, an error
that is not a lost race is passed on, and too many lost races are reported with the last of them.

An attempt is lost exactly if an answer in it loses a race (`OrderService.Retried.lost`): a conditional write
does not hold, or the store reports a conflict.
-/

namespace Stockroom

open Call Exchange

/-! ## Lost races -/

namespace ServiceError

/-- A refusal, or something that is missing. -/
def isVerdict : ServiceError → Bool
  | refused _ | notFound _ => true
  | _ => false

/-- Too many lost races. -/
def isExhausted : ServiceError → Bool
  | retriesExhausted .. => true
  | _ => false

theorem kind_of_isVerdict {error : ServiceError} (h : error.isVerdict) :
    error.isRetryable = false ∧ error.isExhausted = false := by
  cases error <;> first | exact ⟨rfl, rfl⟩ | cases h

theorem isExhausted_ofStore (failure : StoreError) : (ofStore failure).isExhausted = false := by
  cases failure <;> rfl

end ServiceError

/-- **Whether an answer loses a race**: a condition did not hold, or the store reports a conflict.  What
becomes of a rollback decides nothing. -/
def Exchange.losesRace : Exchange → Bool
  | ⟨.store .rollback, _⟩ => false
  | ⟨.store _, .error (.conflict _)⟩ => true
  | ⟨.store (.within (.replaceStock ..)), .ok held⟩ => !held
  | ⟨.store (.within (.moveReservation ..)), .ok held⟩ => !held
  | ⟨.store (.within (.replaceOrder ..)), .ok held⟩ => !held
  | _ => false

namespace Exchange

variable {y : Exchange}

theorem losesRace_of_isRecord (h : y.IsRecord) : y.losesRace = false := by
  obtain ⟨request, answer⟩ := y
  obtain ⟨record, rfl⟩ := h
  rfl

theorem losesRace_of_failure {r : StoreRequest} {failure : StoreError} (hr : r ≠ .rollback) :
    losesRace ⟨.store r, .error failure⟩ = (ServiceError.ofStore failure).isRetryable := by
  cases r <;> first | exact absurd rfl hr | (cases failure <;> rfl)

end Exchange

namespace Transaction

variable {x : Transaction} {past : Talk} {error : ServiceError}

/-! ### What rules say -/

theorem isVerdict_refusal? {α : Type} {y : Except Refusal α} (h : refusal? y = some error) :
    error.isVerdict := by
  cases y with
  | ok a => cases h
  | error refusal =>
    cases h
    rfl

theorem isVerdict_recordRule {record : StockRecord} (h : x.recordRule past record = some error) :
    error.isVerdict := by
  obtain ⟨now, -, h⟩ := Option.bind_eq_some_iff.mp h
  cases x with
  | reserve | release | deduct | adjust => exact isVerdict_refusal? h
  | restock =>
    dsimp only at h
    split at h
    · cases h
    · exact isVerdict_refusal? h
  | pay | cancel | place =>
    obtain ⟨item, -, h⟩ := Option.bind_eq_some_iff.mp h
    exact isVerdict_refusal? h
  | ship | complete => cases h

theorem isVerdict_reservationRule {product : ProductId} {order : OrderId}
    {found : Option Reservation} (h : x.reservationRule past product order found = some error) :
    error.isVerdict := by
  unfold reservationRule at h
  split at h
  · cases h
  obtain ⟨quantity, -, h⟩ := Option.bind_eq_some_iff.mp h
  cases found with
  | none =>
    cases h
    rfl
  | some reservation => exact isVerdict_refusal? h

theorem isVerdict_orderRule {id : OrderId} {order : Order} (h : x.orderRule past id order = some error) :
    error.isVerdict := by
  unfold orderRule at h
  split at h
  · obtain ⟨now, -, h⟩ := Option.bind_eq_some_iff.mp h
    cases x with
    | ship | complete => exact isVerdict_refusal? h
    | _ => cases h
  · cases h
    rfl

theorem isVerdict_timeRule {now : Instant} (h : x.timeRule past now = some error) :
    error.isVerdict := by
  cases x with
  | pay | cancel =>
    obtain ⟨order, -, h⟩ := Option.bind_eq_some_iff.mp h
    exact isVerdict_refusal? h
  | place =>
    dsimp only [timeRule] at h
    split at h
    · cases h
    obtain ⟨products, -, h⟩ := Option.bind_eq_some_iff.mp h
    obtain ⟨items, -, h⟩ := Option.bind_eq_some_iff.mp h
    exact isVerdict_refusal? h
  | _ => cases h

theorem isVerdict_quote {products : List Product} {line : OrderLine}
    (h : OrderService.quote products line = .error error) : error.isVerdict := by
  unfold OrderService.quote at h
  split at h
  · next product hfound =>
    cases hitem : OrderItem.ofProduct product line.quantity with
    | ok item =>
      rw [hitem] at h
      cases h
    | error refusal =>
      rw [hitem] at h
      cases h
      rfl
  · cases h
    rfl

theorem isVerdict_productsRule {products : List Product}
    (h : x.productsRule products = some error) : error.isVerdict := by
  cases x with
  | place settings request lines =>
    unfold productsRule at h
    induction lines with
    | nil => cases h
    | cons line lines ih =>
      dsimp only at h ih
      rw [List.mapM_cons] at h
      cases hitem : OrderService.quote products line with
      | error verdict =>
        rw [hitem] at h
        cases h
        exact isVerdict_quote hitem
      | ok item =>
        rw [hitem] at h
        cases hitems : lines.mapM (OrderService.quote products) with
        | error verdict =>
          rw [hitems] at h ih
          exact ih h
        | ok items =>
          rw [hitems] at h
          cases h
  | _ => cases h

theorem isVerdict_stockRule {record : StockRecord} (h : x.stockRule past record = some error) :
    error.isVerdict := by
  cases x with
  | place settings request lines =>
    dsimp only [stockRule] at h
    split at h
    · obtain ⟨pair, -, rfl⟩ := Option.map_eq_some_iff.mp h
      rfl
    · cases h
  | _ => cases h

/-! ### What objections are -/

theorem kind_objectionWithin {r : UnitRequest} {result : r.Result}
    (h : x.objectionWithin past r result = some error) :
    error.isRetryable = losesRace ⟨.store (.within r), .ok result⟩ ∧ error.isExhausted = false := by
  cases r with
  | findStock product =>
    cases result with
    | none =>
      cases h
      exact ⟨rfl, rfl⟩
    | some record => exact ServiceError.kind_of_isVerdict (isVerdict_recordRule h)
  | findReservation product order =>
    exact ServiceError.kind_of_isVerdict (isVerdict_reservationRule h)
  | findOrder id =>
    cases result with
    | none =>
      cases h
      exact ⟨rfl, rfl⟩
    | some order => exact ServiceError.kind_of_isVerdict (isVerdict_orderRule h)
  | insertReservation | appendEntry | insertOrder => cases h
  | replaceStock | increaseStock | moveReservation | replaceOrder =>
    cases result <;> cases h
    exact ⟨rfl, rfl⟩

/-- **An objection is a lost race exactly if the answer loses one**, and it is never that there were too
many of them. -/
theorem kind_objection {y : Exchange} (hy : y.request ≠ .store .rollback)
    (h : x.objection past y = some error) :
    error.isRetryable = y.losesRace ∧ error.isExhausted = false := by
  obtain ⟨request, answer⟩ := y
  cases request with
  | now => exact ServiceError.kind_of_isVerdict (isVerdict_timeRule h)
  | freshId | log | sleep => cases h
  | store r =>
    cases answer with
    | error failure =>
      cases h
      have hr : r ≠ .rollback := fun heq => hy (congrArg _ heq)
      exact ⟨(losesRace_of_failure hr).symm, ServiceError.isExhausted_ofStore failure⟩
    | ok result =>
      cases r with
      | within request => exact kind_objectionWithin h
      | productsOf products => exact ServiceError.kind_of_isVerdict (isVerdict_productsRule h)
      | stockOf product =>
        cases result with
        | none =>
          cases h
          exact ⟨rfl, rfl⟩
        | some record => exact ServiceError.kind_of_isVerdict (isVerdict_stockRule h)
      | _ => cases h

/-- Nothing loses a race without being objected to. -/
theorem losesRace_of_objection_none {y : Exchange} (h : x.objection past y = none) :
    y.losesRace = false := by
  obtain ⟨request, answer⟩ := y
  cases request with
  | store r =>
    cases answer with
    | error failure => cases h
    | ok result =>
      cases r with
      | within request =>
        cases request <;> first | rfl | (cases result <;> first | rfl | cases h)
      | _ => rfl
  | _ => rfl

end Transaction

/-- Whether a call has ended with a lost race. -/
def endsInRace {α : Type} : Option (Except ServiceError α) → Bool
  | some (.error error) => error.isRetryable
  | _ => false

namespace Transaction

variable {x : Transaction} {past talk : Talk} {α : Type} {R : Talk → α → Prop}
  {outcome : Option (Except ServiceError α)}

theorem any_losesRace_of_clear (h : x.audit.Clear past talk) : talk.any losesRace = false := by
  refine List.any_eq_false.mpr fun y hy => ?_
  obtain ⟨front, rest, rfl⟩ := List.append_of_mem hy
  rw [losesRace_of_objection_none (h front y rest rfl)]
  exact Bool.false_ne_true

theorem any_losesRace_of_records (h : ∀ y ∈ talk, y.IsRecord) : talk.any losesRace = false :=
  List.any_eq_false.mpr fun y hy => by
    rw [losesRace_of_isRecord (h y hy)]
    exact Bool.false_ne_true

/-- **A transaction ends with a lost race exactly if an answer loses one.** -/
theorem endsInRace_of_disciplined (h : x.audit.Disciplined R talk outcome) :
    endsInRace outcome = talk.any losesRace ∧
      ∀ error, outcome = some (.error error) → error.isExhausted = false := by
  cases h with
  | refused => exact ⟨rfl, fun error herror => by cases herror; rfl⟩
  | @unopened before y error outside clear h =>
    have hy : y.request ≠ .store .rollback := by
      intro heq
      have houtside := (List.forall_mem_append.mp outside).2 y (List.mem_singleton_self y)
      rw [heq] at houtside
      exact houtside
    obtain ⟨hrace, hexhausted⟩ := kind_objection hy h
    refine ⟨?_, fun error' herror => by cases herror; exact hexhausted⟩
    simp [endsInRace, any_losesRace_of_clear clear, hrace]
  | @unbegun before failure outside clear =>
    refine ⟨?_, fun error herror => by cases herror; exact ServiceError.isExhausted_ofStore failure⟩
    have hbegin : losesRace (begun (.error failure)) = _ := losesRace_of_failure nofun
    simp [endsInRace, any_losesRace_of_clear clear, hbegin]
  | committed opened h records =>
    refine ⟨?_, nofun⟩
    have hclear := any_losesRace_of_clear opened.clear
    rw [List.any_append, hclear, List.any_cons, any_losesRace_of_records records]
    rfl
  | @uncommitted before body failure opened =>
    refine ⟨?_, fun error herror => by cases herror; exact ServiceError.isExhausted_ofStore failure⟩
    have hcommit : losesRace (.committed (.error failure)) = _ := losesRace_of_failure nofun
    rw [List.any_append, any_losesRace_of_clear opened.clear, List.any_cons, hcommit]
    simp [endsInRace]
  | @rolledBack before body after y error answer opened inside h records =>
    have hy : y.request ≠ .store .rollback := by
      intro heq
      rw [heq] at inside
      exact inside
    obtain ⟨hrace, hexhausted⟩ := kind_objection hy h
    refine ⟨?_, fun error' herror => by cases herror; exact hexhausted⟩
    have hrollback : losesRace (.rolledBack answer) = false := rfl
    rw [List.any_append, any_losesRace_of_clear opened.clear, List.any_cons, List.any_cons,
      hrollback, any_losesRace_of_records records, ← hrace]
    simp [endsInRace]
  | aborted opened h => exact ⟨(any_losesRace_of_clear opened.clear).symm, nofun⟩

end Transaction

/-! ## Attempts -/

namespace OrderService

/-- What was said in an attempt to create an order, and how the attempt ended. -/
structure Attempt where
  talk : Talk
  outcome : Option (Except ServiceError Order)

/-- Whether an attempt was lost. -/
def Attempt.isLost (a : Attempt) : Bool := endsInRace a.outcome

/-- **The conversations of attempts**, from the one with a number on: `remaining` are left, and `last` is
the error of the one before. -/
inductive Tried (tryOnce : Call Order) (backoff : Nat) : (attempt : Nat) → (last : ServiceError) →
    (remaining : Nat) → List Attempt → Talk → Option (Except ServiceError Order) → Prop where
  /-- All attempts were lost. -/
  | exhausted {attempt : Nat} {last : ServiceError} {record : LogRecord} :
      Tried tryOnce backoff attempt last 0 [] [⟨.log record, ()⟩]
        (some (.error (.retriesExhausted (attempt - 1) last)))
  /-- An attempt that is not lost is the last one. -/
  | ended {attempt remaining : Nat} {last : ServiceError} {a : Attempt} {after : Talk}
      (h : tryOnce.Ends a.talk a.outcome) (hlost : a.isLost = false)
      (records : ∀ x ∈ after, x.IsRecord) :
      Tried tryOnce backoff attempt last (remaining + 1) [a] (a.talk ++ after) a.outcome
  /-- A lost attempt is followed by a wait. -/
  | lost {attempt remaining : Nat} {last error : ServiceError} {said talk : Talk}
      {attempts : List Attempt} {outcome : Option (Except ServiceError Order)} {record : LogRecord}
      (h : tryOnce.Ends said (some (.error error))) (hlost : error.isRetryable)
      (rest : Tried tryOnce backoff (attempt + 1) error remaining attempts talk outcome) :
      Tried tryOnce backoff attempt last (remaining + 1) (⟨said, some (.error error)⟩ :: attempts)
        (said ++ ⟨.log record, ()⟩ :: ⟨.sleep (backoff * attempt), ()⟩ :: talk) outcome

variable {tryOnce : Call Order} {user : UserId} {correlation : CorrelationId}
  {backoff attempt remaining : Nat} {last : ServiceError} {attempts : List Attempt} {talk : Talk}
  {outcome : Option (Except ServiceError Order)}

theorem tried_of_attemptFrom
    (h : (attemptFrom tryOnce user correlation backoff attempt last remaining).Ends talk outcome) :
    ∃ attempts, Tried tryOnce backoff attempt last remaining attempts talk outcome := by
  induction remaining generalizing attempt last talk with
  | zero =>
    obtain ⟨_, rest, rfl, hrest⟩ := Program.Ends.of_ask h
    obtain ⟨rfl, rfl⟩ := Program.Ends.of_done hrest
    exact ⟨_, .exhausted⟩
  | succ remaining ih =>
    rw [attemptFrom] at h
    rcases Ends.of_bind h with ⟨hnone, rfl⟩ | ⟨error, herror, -⟩ | ⟨result, said, rest, rfl, hsaid, hrest⟩
    · rcases Ends.of_caught hnone with ⟨hnone, -⟩ | ⟨_, -, houtcome⟩
      · have hlast : Tried tryOnce backoff attempt last (remaining + 1) [⟨talk, none⟩] (talk ++ [])
            none := .ended (a := ⟨talk, none⟩) hnone rfl (List.forall_mem_nil _)
        exact ⟨_, List.append_nil talk ▸ hlast⟩
      · cases houtcome
    · rcases Ends.of_caught herror with ⟨-, houtcome⟩ | ⟨_, -, houtcome⟩ <;> cases houtcome
    rcases Ends.of_caught hsaid with ⟨-, houtcome⟩ | ⟨result, hsaid, houtcome⟩
    · cases houtcome
    cases houtcome
    cases result with
    | ok order =>
      obtain ⟨_, rest, rfl, hdone⟩ := Program.Ends.of_ask hrest
      obtain ⟨rfl, rfl⟩ := Program.Ends.of_done hdone
      exact ⟨_, .ended (a := ⟨said, some (.ok order)⟩) hsaid rfl
        (List.forall_mem_singleton.mpr ⟨_, rfl⟩)⟩
    | error error =>
      dsimp only at hrest
      by_cases hretry : error.isRetryable
      · rw [if_pos hretry] at hrest
        obtain ⟨_, rest, rfl, hpause⟩ := Program.Ends.of_ask hrest
        obtain ⟨_, rest, rfl, hnext⟩ := Program.Ends.of_ask hpause
        obtain ⟨attempts, htried⟩ := ih hnext
        exact ⟨_, .lost hsaid hretry htried⟩
      · rw [if_neg hretry] at hrest
        obtain ⟨rfl, rfl⟩ := Program.Ends.of_done hrest
        exact ⟨_, .ended (a := ⟨said, some (.error error)⟩) hsaid (eq_false_of_ne_true hretry)
          (List.forall_mem_nil _)⟩

/-- Only an attempt that ends with an error is lost. -/
theorem Attempt.isLost_eq_false {a : Attempt} (h : ∀ error, a.outcome ≠ some (.error error)) :
    a.isLost = false := by
  obtain ⟨said, _ | error | order⟩ := a
  · rfl
  · exact absurd rfl (h error)
  · rfl

namespace Tried

/-- All that is said of an attempt is a conversation of it. -/
theorem ends (h : Tried tryOnce backoff attempt last remaining attempts talk outcome) :
    ∀ a ∈ attempts, tryOnce.Ends a.talk a.outcome := by
  induction h with
  | exhausted => exact List.forall_mem_nil _
  | ended h => exact List.forall_mem_singleton.mpr h
  | lost h _ _ ih => exact List.forall_mem_cons.mpr ⟨h, ih⟩

theorem length_pos_iff (h : Tried tryOnce backoff attempt last remaining attempts talk outcome) :
    0 < attempts.length ↔ 0 < remaining := by
  cases h <;> simp

/-- **Another attempt is made** exactly while one is left and the last one was lost. -/
theorem again (h : Tried tryOnce backoff attempt last remaining attempts talk outcome) (k : Nat)
    (a : Attempt) (ha : attempts[k]? = some a) :
    k + 1 < attempts.length ↔ a.isLost ∧ k + 1 < remaining := by
  induction h generalizing k with
  | exhausted => cases ha
  | @ended _ remaining _ b _ _ hlost =>
    obtain ⟨rfl, rfl⟩ : k = 0 ∧ b = a := by
      cases k with
      | zero => exact ⟨rfl, Option.some.inj ha⟩
      | succ k => cases ha
    simp [hlost]
  | @lost _ _ _ error said _ _ _ _ _ hlost rest ih =>
    cases k with
    | zero =>
      cases ha
      have hfirst : Attempt.isLost ⟨said, some (.error error)⟩ = true := hlost
      simpa [hfirst] using rest.length_pos_iff
    | succ k => simpa using ih k ha

/-- **An attempt that is not lost** decides how the call ends. -/
theorem settled (h : Tried tryOnce backoff attempt last remaining attempts talk outcome) (a : Attempt)
    (ha : a ∈ attempts) (hlost : a.isLost = false) : outcome = a.outcome := by
  induction h with
  | exhausted => cases ha
  | ended => rw [List.mem_singleton.mp ha]
  | lost _ hretry _ ih =>
    rcases List.mem_cons.mp ha with rfl | ha
    · exact absurd (hlost.symm.trans hretry) Bool.false_ne_true
    · exact ih ha

/-- **The call ends as an attempt that was not lost**, or all attempts were lost and it ends with the error
of the last one. -/
theorem decided (h : Tried tryOnce backoff attempt last remaining attempts talk outcome) :
    (∃ a ∈ attempts, a.isLost = false ∧ outcome = a.outcome) ∨
      (∀ a ∈ attempts, a.isLost) ∧ attempts.length = remaining ∧ ∃ error,
        outcome = some (.error (.retriesExhausted (attempt + remaining - 1) error)) ∧
        (attempts = [] ∧ error = last ∨
          ∃ a, attempts.getLast? = some a ∧ a.outcome = some (.error error)) := by
  induction h with
  | exhausted => exact .inr ⟨List.forall_mem_nil _, rfl, _, rfl, .inl ⟨rfl, rfl⟩⟩
  | ended _ hlost => exact .inl ⟨_, List.mem_singleton_self _, hlost, rfl⟩
  | @lost attempt remaining last error said talk attempts outcome record _ hretry _ ih =>
    rcases ih with ⟨a, ha, hlost, houtcome⟩ | ⟨hall, hcount, final, houtcome, hfinal⟩
    · exact .inl ⟨a, List.mem_cons_of_mem _ ha, hlost, houtcome⟩
    refine .inr ⟨List.forall_mem_cons.mpr ⟨hretry, hall⟩, congrArg Nat.succ hcount, final, ?_, .inr ?_⟩
    · rw [houtcome, Nat.add_right_comm, Nat.add_assoc]
    · rcases hfinal with ⟨rfl, rfl⟩ | ⟨a, ha, hout⟩
      · exact ⟨_, rfl, rfl⟩
      · exact ⟨a, by rw [List.getLast?_cons, ha]; rfl, hout⟩

end Tried

/-- **The protocol of attempts.** -/
structure Retried (tryOnce : Call Order) (limit : Nat) (attempts : List Attempt)
    (outcome : Option (Except ServiceError Order)) : Prop where
  ends : ∀ a ∈ attempts, tryOnce.Ends a.talk a.outcome
  /-- An attempt is lost exactly if an answer in it loses a race. -/
  lost : ∀ a ∈ attempts, a.isLost ↔ ∃ x ∈ a.talk, x.losesRace
  tried : 0 < attempts.length
  again : ∀ (k : Nat) a, attempts[k]? = some a →
    (k + 1 < attempts.length ↔ a.isLost ∧ k + 1 < limit)
  returned : ∀ order, outcome = some (.ok order) ↔ ∃ a ∈ attempts, a.outcome = some (.ok order)
  refused : ∀ error, outcome = some (.error error) ∧ error.isExhausted = false ↔
    ∃ a ∈ attempts, a.isLost = false ∧ a.outcome = some (.error error)
  exhausted : ∀ n last, outcome = some (.error (.retriesExhausted n last)) ↔
    n = limit ∧ attempts.length = limit ∧ (∀ a ∈ attempts, a.isLost) ∧
      ∃ a, attempts.getLast? = some a ∧ a.outcome = some (.error last)
  aborted : outcome = none ↔ ∃ a ∈ attempts, a.outcome = none

/-- **Attempts follow the protocol**, if each of them is lost exactly if an answer in it loses a race. -/
theorem Tried.retried {limit : Nat} (hlimit : 0 < limit)
    (hkind : ∀ talk outcome, tryOnce.Ends talk outcome →
      endsInRace outcome = talk.any losesRace ∧
        ∀ error, outcome = some (.error error) → error.isExhausted = false)
    (h : Tried tryOnce backoff 1 last limit attempts talk outcome) :
    Retried tryOnce limit attempts outcome where
  ends := h.ends
  lost a ha := by rw [Attempt.isLost, (hkind _ _ (h.ends a ha)).1, List.any_eq_true]
  tried := h.length_pos_iff.mpr hlimit
  again := h.again
  returned order := by
    constructor
    · intro houtcome
      rcases h.decided with ⟨a, ha, -, heq⟩ | ⟨-, -, error, heq, -⟩
      · exact ⟨a, ha, heq.symm.trans houtcome⟩
      · cases houtcome.symm.trans heq
    · rintro ⟨a, ha, hout⟩
      have hlost := Attempt.isLost_eq_false fun error heq => nomatch hout.symm.trans heq
      exact (h.settled a ha hlost).trans hout
  refused error := by
    constructor
    · rintro ⟨houtcome, hexhausted⟩
      rcases h.decided with ⟨a, ha, hlost, heq⟩ | ⟨-, -, last, heq, -⟩
      · exact ⟨a, ha, hlost, heq.symm.trans houtcome⟩
      · cases houtcome.symm.trans heq
        cases hexhausted
    · rintro ⟨a, ha, hlost, hout⟩
      exact ⟨(h.settled a ha hlost).trans hout, (hkind _ _ (h.ends a ha)).2 error hout⟩
  exhausted n last' := by
    constructor
    · intro houtcome
      rcases h.decided with ⟨a, ha, -, heq⟩ | ⟨hall, hcount, error, heq, hlast⟩
      · cases (hkind _ _ (h.ends a ha)).2 _ (heq.symm.trans houtcome)
      · cases houtcome.symm.trans heq
        refine ⟨Nat.add_sub_cancel_left .., hcount, hall, hlast.resolve_left fun hnone => ?_⟩
        rw [hnone.1, List.length_nil] at hcount
        omega
    · rintro ⟨rfl, -, hall, a, ha, hout⟩
      rcases h.decided with ⟨b, hb, hlost, -⟩ | ⟨-, -, error, heq, hlast⟩
      · exact absurd (hlost.symm.trans (hall b hb)) Bool.false_ne_true
      rcases hlast with ⟨hnone, -⟩ | ⟨b, hb, herror⟩
      · rw [hnone] at ha
        cases ha
      · cases hb.symm.trans ha
        cases herror.symm.trans hout
        rw [heq, Nat.add_sub_cancel_left]
  aborted := by
    constructor
    · intro houtcome
      rcases h.decided with ⟨a, ha, -, heq⟩ | ⟨-, -, error, heq, -⟩
      · exact ⟨a, ha, heq.symm.trans houtcome⟩
      · cases houtcome.symm.trans heq
    · rintro ⟨a, ha, hout⟩
      have hlost := Attempt.isLost_eq_false fun error heq => nomatch hout.symm.trans heq
      exact (h.settled a ha hlost).trans hout

/-! ## Creating an order -/

variable {stock : StockSettings} {settings : OrderSettings} {request : OrderRequest}
  {lines : List OrderLine}

/-- Lines that do not merge are not tried at all. -/
theorem ends_of_merge_error {refusal : Refusal} (hmerge : OrderLine.merge request.lines = .error refusal)
    (h : (create stock settings request).Ends talk outcome) :
    ∃ correlation, talk = [⟨.freshId, correlation⟩] ∧ outcome = some (.error (.refused refusal)) := by
  rw [create, hmerge] at h
  obtain ⟨correlation, rest, rfl, hrest⟩ := Program.Ends.of_ask h
  obtain ⟨rfl, rfl⟩ := Program.Ends.of_done hrest
  exact ⟨correlation, rfl, rfl⟩

/-- **Creating an order is trying again and again**, once it has a name. -/
theorem tried_of_create (hmerge : OrderLine.merge request.lines = .ok lines)
    (h : (create stock settings request).Ends talk outcome) :
    ∃ correlation attempts said, talk = ⟨.freshId, correlation⟩ :: said ∧
      Tried (tryCreate stock request lines) settings.backoff 1 neverTried
        (max settings.maxAttempts 1) attempts said outcome := by
  rw [create, hmerge] at h
  obtain ⟨correlation, said, rfl, hsaid⟩ := Program.Ends.of_ask h
  obtain ⟨attempts, htried⟩ := tried_of_attemptFrom hsaid
  exact ⟨correlation, attempts, said, rfl, htried⟩

/-- **What is said while an order is created, and how it ends**: attempts that follow the protocol. -/
def TriesAgain (stock : StockSettings) (settings : OrderSettings) (request : OrderRequest)
    (lines : List OrderLine) (talk : Talk) (outcome : Option (Except ServiceError Order)) : Prop :=
  ∃ correlation attempts said, talk = ⟨.freshId, correlation⟩ :: said ∧
    Tried (tryCreate stock request lines) settings.backoff 1 neverTried (max settings.maxAttempts 1)
      attempts said outcome ∧
    Retried (tryCreate stock request lines) (max settings.maxAttempts 1) attempts outcome

/-- **Every conversation of a call that creates an order follows the protocol.** -/
theorem triesAgain_of_ends (hmerge : OrderLine.merge request.lines = .ok lines)
    (h : (create stock settings request).Ends talk outcome) :
    TriesAgain stock settings request lines talk outcome := by
  obtain ⟨correlation, attempts, said, rfl, htried⟩ := tried_of_create hmerge h
  have hpositive : 0 < max settings.maxAttempts 1 :=
    Nat.lt_of_lt_of_le Nat.zero_lt_one (Nat.le_max_right ..)
  exact ⟨correlation, attempts, said, rfl, htried, htried.retried hpositive fun _ _ hends =>
    Transaction.endsInRace_of_disciplined (Transaction.disciplined_place hends)⟩

end OrderService

end Stockroom
