import Stockroom.Proofs.Crowd.Call
import Stockroom.Proofs.Dialogue.Retries

/-!
# Proofs/Dialogue/Effect — calls that take effect once, or not at all

An answer takes effect if it means that something was committed.  **Every mutation hears one such answer
if it returns a value, and none otherwise** (`ServiceCall.isEffective`): a unit of work takes effect
when it is committed, and an attempt that is lost has taken none.
-/

namespace Stockroom

open Call Exchange

/-- **Whether an answer means that something was committed.** -/
def Exchange.takesEffect : Exchange → Bool
  | ⟨.store .commit, .ok _⟩ => true
  | ⟨.store (.createStock _), .ok _⟩ => true
  | ⟨.store (.setThreshold ..), .ok held⟩ => held
  | ⟨.store (.removeStock ..), .ok held⟩ => held
  | _ => false

namespace Talk

/-- Nothing takes effect in the conversation. -/
def Quiet (talk : Talk) : Prop := ∀ x ∈ talk, x.takesEffect = false

/-- **A conversation takes effect once** if it ends with a value, and not at all otherwise. -/
inductive Effective {α : Type} : Talk → Option (Except ServiceError α) → Prop where
  | once {before after : Talk} {x : Exchange} {a : α} (hbefore : before.Quiet)
      (hx : x.takesEffect) (hafter : after.Quiet) :
      Effective (before ++ x :: after) (some (.ok a))
  | never {talk : Talk} {outcome : Option (Except ServiceError α)}
      (houtcome : ∀ a, outcome ≠ some (.ok a)) (hquiet : talk.Quiet) : Effective talk outcome

variable {talk more : Talk}

theorem Effective.quiet {α : Type} {outcome : Option (Except ServiceError α)}
    (h : talk.Effective outcome) (houtcome : ∀ a, outcome ≠ some (.ok a)) : talk.Quiet := by
  cases h with
  | once => exact absurd rfl (houtcome _)
  | never _ hquiet => exact hquiet

theorem Effective.quiet_of_error {α : Type} {error : ServiceError}
    (h : talk.Effective (some (.error error) : Option (Except ServiceError α))) : talk.Quiet :=
  h.quiet nofun

theorem Effective.split {α : Type} {a : α}
    (h : talk.Effective (some (.ok a) : Option (Except ServiceError α))) :
    ∃ (before : Talk) (x : Exchange) (after : Talk), talk = before ++ x :: after ∧ before.Quiet ∧
      x.takesEffect ∧ after.Quiet := by
  cases h with
  | once hbefore hx hafter => exact ⟨_, _, _, rfl, hbefore, hx, hafter⟩
  | never houtcome => exact absurd rfl (houtcome a)

/-- What takes effect does so in a conversation that ends with a value. -/
theorem Effective.exists_value {α : Type} {outcome : Option (Except ServiceError α)} {x : Exchange}
    (h : talk.Effective outcome) (hmem : x ∈ talk) (hx : x.takesEffect) :
    ∃ a, outcome = some (.ok a) := by
  cases h with
  | once => exact ⟨_, rfl⟩
  | never _ hquiet => exact absurd (hx.symm.trans (hquiet x hmem)) (by decide)

theorem Effective.of_error {α : Type} {error : ServiceError} (h : talk.Quiet) :
    talk.Effective (some (.error error) : Option (Except ServiceError α)) := .never nofun h

theorem Effective.single {α : Type} {x : Exchange} {a : α} (hx : x.takesEffect) :
    Effective [x] (some (.ok a)) := .once (List.forall_mem_nil _) hx (List.forall_mem_nil _)

theorem quiet_nil : Quiet [] := List.forall_mem_nil _

theorem Quiet.append (h : talk.Quiet) (h' : more.Quiet) : (talk ++ more).Quiet :=
  List.forall_mem_append.mpr ⟨h, h'⟩

theorem Quiet.cons {x : Exchange} (hx : x.takesEffect = false) (h : talk.Quiet) :
    Quiet (x :: talk) := List.forall_mem_cons.mpr ⟨hx, h⟩

theorem Quiet.pause (h : talk.Quiet) (record : LogRecord) (millis : Nat) :
    Quiet (⟨.log record, ()⟩ :: ⟨.sleep millis, ()⟩ :: talk) := .cons rfl (.cons rfl h)

theorem Effective.append {α : Type} {outcome : Option (Except ServiceError α)}
    (h : talk.Effective outcome) (hmore : more.Quiet) : Effective (talk ++ more) outcome := by
  cases h with
  | once hbefore hx hafter =>
    rw [List.append_assoc, List.cons_append]
    exact .once hbefore hx (hafter.append hmore)
  | never houtcome hquiet => exact .never houtcome (hquiet.append hmore)

theorem Effective.prepend {α : Type} {outcome : Option (Except ServiceError α)}
    (h : more.Effective outcome) (htalk : talk.Quiet) : Effective (talk ++ more) outcome := by
  cases h with
  | once hbefore hx hafter =>
    rw [← List.append_assoc]
    exact .once (htalk.append hbefore) hx hafter
  | never houtcome hquiet => exact .never houtcome (htalk.append hquiet)

theorem quiet_of_outside (h : ∀ x ∈ talk, x.request.IsOutside) : talk.Quiet := by
  intro x hx
  have houtside := h x hx
  obtain ⟨request, answer⟩ := x
  cases request with
  | store r => cases r <;> first | rfl | exact houtside.elim
  | _ => rfl

theorem quiet_of_inside (h : ∀ x ∈ talk, x.request.IsInside) : talk.Quiet := by
  intro x hx
  have hinside := h x hx
  obtain ⟨request, answer⟩ := x
  cases request with
  | store r => cases r <;> first | rfl | exact hinside.elim
  | _ => rfl

theorem quiet_of_records (h : ∀ x ∈ talk, x.IsRecord) : talk.Quiet := by
  intro x hx
  obtain ⟨request, answer⟩ := x
  obtain ⟨record, rfl⟩ := h _ hx
  rfl

/-- **What takes effect can be in one place only**, if all the rest is quiet. -/
theorem split_unique {before after before' after' : Talk} {x y : Exchange} (hbefore : before'.Quiet)
    (hx : x.takesEffect) (hafter : after'.Quiet) (h : before ++ x :: after = before' ++ y :: after') :
    before = before' ∧ x = y ∧ after = after' := by
  rcases List.append_eq_append_iff.mp h with ⟨mid, rfl, hmid⟩ | ⟨mid, rfl, hmid⟩
  · cases mid with
    | nil => exact ⟨(List.append_nil before).symm, List.cons_eq_cons.mp hmid⟩
    | cons z mid =>
      obtain ⟨rfl, -⟩ := List.cons_eq_cons.mp hmid
      exact absurd (hx.symm.trans (hbefore x (by simp))) (by decide)
  · cases mid with
    | nil =>
      obtain ⟨rfl, rfl⟩ := List.cons_eq_cons.mp hmid
      exact ⟨List.append_nil before', rfl, rfl⟩
    | cons z mid =>
      obtain ⟨-, rfl⟩ := List.cons_eq_cons.mp hmid
      exact absurd (hx.symm.trans (hafter x (by simp))) (by decide)

end Talk

/-! ## Units of work -/

variable {α : Type} {talk : Talk} {outcome : Option (Except ServiceError α)}

theorem Audit.Opened.quiet {J : Audit} {before body : Talk} (h : J.Opened before body) :
    Talk.Quiet (before ++ begun (.ok ()) :: body) :=
  (Talk.quiet_of_outside h.outside).append (.cons rfl (Talk.quiet_of_inside h.inside))

/-- **A call with one unit of work takes effect when it is committed.** -/
theorem Audit.Disciplined.effective {J : Audit} {R : Talk → α → Prop}
    (h : J.Disciplined R talk outcome) : talk.Effective outcome := by
  cases h with
  | refused => exact .of_error Talk.quiet_nil
  | unopened outside clear h => exact .of_error (Talk.quiet_of_outside outside)
  | unbegun outside clear =>
    exact .of_error ((Talk.quiet_of_outside outside).append (.cons rfl Talk.quiet_nil))
  | committed opened h records => exact .once opened.quiet rfl (Talk.quiet_of_records records)
  | uncommitted opened =>
    exact .of_error (opened.quiet.append (.cons rfl Talk.quiet_nil))
  | rolledBack opened inside h records =>
    refine .of_error (opened.quiet.append ?_)
    have hlast := Talk.quiet_of_inside (List.forall_mem_singleton.mpr inside)
    exact hlast.append (.cons rfl (Talk.quiet_of_records records))
  | aborted opened h => exact .never nofun opened.quiet

/-! ## Attempts -/

namespace OrderService

variable {tryOnce : Call Order} {backoff attempt remaining : Nat} {last : ServiceError}
  {attempts : List Attempt} {outcome : Option (Except ServiceError Order)}

/-- **Attempts take effect once**, or not at all, if each of them does. -/
theorem Tried.effective (h : Tried tryOnce backoff attempt last remaining attempts talk outcome)
    (hone : ∀ talk outcome, tryOnce.Ends talk outcome → talk.Effective outcome) :
    talk.Effective outcome := by
  induction h with
  | exhausted =>
    exact .of_error (Talk.quiet_of_records (List.forall_mem_singleton.mpr ⟨_, rfl⟩))
  | ended h _ records => exact (hone _ _ h).append (Talk.quiet_of_records records)
  | @lost attempt _ _ _ said talk _ _ record h _ _ ih =>
    have hsaid : said.Quiet := (hone _ _ h).quiet_of_error
    have hpause := Talk.quiet_nil.pause record (backoff * attempt)
    exact (ih.prepend hpause).prepend hsaid

/-- **The attempt that succeeds** comes after others that took no effect. -/
theorem Tried.successful (h : Tried tryOnce backoff attempt last remaining attempts talk outcome)
    (hone : ∀ talk outcome, tryOnce.Ends talk outcome → talk.Effective outcome) {order : Order}
    (houtcome : outcome = some (.ok order)) :
    ∃ front said after, talk = front ++ said ++ after ∧ front.Quiet ∧
      tryOnce.Ends said (some (.ok order)) ∧ ∀ x ∈ after, x.IsRecord := by
  induction h with
  | exhausted => cases houtcome
  | @ended _ _ _ a after h _ records =>
    exact ⟨[], a.talk, after, rfl, Talk.quiet_nil, houtcome ▸ h, records⟩
  | @lost attempt _ _ _ said talk _ _ record h _ _ ih =>
    obtain ⟨front, said', after, rfl, hfront, hends, hrecords⟩ := ih houtcome
    have hsaid : said.Quiet := (hone _ _ h).quiet_of_error
    refine ⟨said ++ ⟨.log record, ()⟩ :: ⟨.sleep (backoff * attempt), ()⟩ :: front, said', after,
      ?_, hsaid.append (hfront.pause record _), hends, hrecords⟩
    simp only [List.append_assoc, List.cons_append]

end OrderService

/-! ## Calls -/

namespace Call

variable {β : Type} {p : Call α} {f : α → Call β}

/-- Nothing takes effect in any conversation of the call. -/
def IsQuiet (p : Call α) : Prop :=
  ∀ (talk : Talk) (outcome : Option (Except ServiceError α)), p.Ends talk outcome → talk.Quiet

/-- **Every conversation of the call takes effect once** if it ends with a value, and not at all otherwise. -/
def IsEffective (p : Call α) : Prop :=
  ∀ (talk : Talk) (outcome : Option (Except ServiceError α)),
    p.Ends talk outcome → talk.Effective outcome

theorem IsEffective.bind (hp : p.IsQuiet) (hf : ∀ a, (f a).IsEffective) : (p >>= f).IsEffective := by
  intro talk outcome h
  rcases Ends.of_bind h with ⟨hnone, rfl⟩ | ⟨error, herror, rfl⟩ | ⟨a, before, after, rfl, hbefore, hafter⟩
  · exact .never nofun (hp _ _ hnone)
  · exact .of_error (hp _ _ herror)
  · exact (hf a _ _ hafter).prepend (hp _ _ hbefore)

/-- What only reports may follow, if it returns a value. -/
theorem IsEffective.followed (hp : p.IsEffective)
    (hf : ∀ a talk outcome, (f a).Ends talk outcome →
      (∀ x ∈ talk, x.IsRecord) ∧ ∃ b, outcome = some (.ok b)) : (p >>= f).IsEffective := by
  intro talk outcome h
  rcases Ends.of_bind h with ⟨hnone, rfl⟩ | ⟨error, herror, rfl⟩ | ⟨a, said, rest, rfl, hsaid, hrest⟩
  · exact .never nofun ((hp _ _ hnone).quiet nofun)
  · exact .of_error (hp _ _ herror).quiet_of_error
  · obtain ⟨hrecords, b, rfl⟩ := hf a _ _ hrest
    obtain ⟨before, x, after, rfl, hbefore, hx, hafter⟩ := (hp _ _ hsaid).split
    rw [List.append_assoc, List.cons_append]
    exact .once hbefore hx (hafter.append (Talk.quiet_of_records hrecords))

theorem isEffective_throw {error : ServiceError} : (throw error : Call α).IsEffective := by
  intro talk outcome h
  obtain ⟨rfl, rfl⟩ := Ends.of_throw h
  exact .of_error Talk.quiet_nil

theorem isQuiet_now : now.IsQuiet := by
  intro talk outcome h
  obtain ⟨time, rfl, -⟩ := Ends.of_request h
  exact .cons rfl Talk.quiet_nil

theorem isQuiet_stockOf (product : ProductId) : (demand (.stockOf product)).IsQuiet := by
  intro talk outcome h
  obtain ⟨answer, rfl, -⟩ := Ends.of_demand h
  exact .cons rfl Talk.quiet_nil

theorem isQuiet_obey {y : Except Refusal α} : (obey y).IsQuiet := by
  intro talk outcome h
  cases y with
  | ok a =>
    obtain ⟨rfl, -⟩ := Ends.of_pure h
    exact Talk.quiet_nil
  | error refusal =>
    obtain ⟨rfl, -⟩ := Ends.of_throw h
    exact Talk.quiet_nil

theorem isEffective_createStock (record : StockRecord) : (demand (.createStock record)).IsEffective := by
  intro talk outcome h
  obtain ⟨answer, rfl, rfl⟩ := Ends.of_demand h
  cases answer with
  | ok result => exact .single rfl
  | error failure => exact .of_error (.cons rfl Talk.quiet_nil)

/-- **A condition that the answer to one request has to meet**, where the answer takes effect if it meets
it. -/
theorem isEffective_insist {answer : Call Bool} {otherwise : ServiceError}
    (h : ∀ talk outcome, answer.Ends talk outcome → ∃ x, ∃ reply : Except StoreError Bool,
      talk = [x] ∧ outcome = some (reply.mapError ServiceError.ofStore) ∧
        x.takesEffect = reply.toOption.getD false) :
    (insist answer otherwise).IsEffective := by
  intro talk outcome hends
  rcases Ends.of_bind hends with ⟨hnone, -⟩ | ⟨error, herror, rfl⟩ | ⟨held, said, rest, rfl, hsaid, hrest⟩
  · obtain ⟨x, reply, -, houtcome, -⟩ := h _ _ hnone
    cases houtcome
  · obtain ⟨x, reply, rfl, houtcome, hx⟩ := h _ _ herror
    cases reply with
    | ok held => cases houtcome
    | error failure => exact .of_error (.cons hx Talk.quiet_nil)
  · obtain ⟨x, reply, rfl, houtcome, hx⟩ := h _ _ hsaid
    cases reply with
    | error failure => cases houtcome
    | ok held' =>
    cases houtcome
    cases held with
    | true =>
      obtain ⟨rfl, rfl⟩ := Ends.of_pure hrest
      exact .single hx
    | false =>
      obtain ⟨rfl, rfl⟩ := Ends.of_throw hrest
      exact .of_error (.cons hx Talk.quiet_nil)

end Call

namespace StockService

theorem ends_of_report {α : Type} {record : LogRecord} {a : α} {talk : Talk}
    {outcome : Option (Except ServiceError α)}
    (h : (do log record; return a : Call α).Ends talk outcome) :
    (∀ x ∈ talk, x.IsRecord) ∧ ∃ b, outcome = some (.ok b) := by
  obtain ⟨hrecords, rfl⟩ := Audit.isAfterword_log (fun _ => record) a talk outcome h
  exact ⟨hrecords, a, rfl⟩

theorem isEffective_register (product : ProductId) (stock threshold : Int) :
    (register product stock threshold).IsEffective := by
  refine .bind isQuiet_now fun now => .bind isQuiet_obey fun record =>
    .bind (isQuiet_stockOf product) fun found => ?_
  cases found with
  | some found => exact isEffective_throw
  | none =>
    refine .followed (isEffective_createStock record) fun _ talk outcome h => ?_
    exact ends_of_report h

theorem isQuiet_stockOf (product : ProductId) : (stockOf product).IsQuiet := by
  intro talk outcome h
  rcases Ends.of_bind h with ⟨hnone, -⟩ | ⟨error, herror, -⟩ | ⟨found, said, rest, rfl, hsaid, hrest⟩
  · exact Call.isQuiet_stockOf product _ _ hnone
  · exact Call.isQuiet_stockOf product _ _ herror
  · refine (Call.isQuiet_stockOf product _ _ hsaid).append ?_
    cases found with
    | some record =>
      obtain ⟨rfl, -⟩ := Ends.of_pure hrest
      exact Talk.quiet_nil
    | none =>
      obtain ⟨rfl, -⟩ := Ends.of_throw hrest
      exact Talk.quiet_nil

theorem isEffective_setThreshold (product : ProductId) (threshold : Int) :
    (setThreshold product threshold).IsEffective := by
  refine .bind (isQuiet_stockOf product) fun current => .bind isQuiet_now fun now =>
    .bind isQuiet_obey fun updated => ?_
  refine .followed (isEffective_insist fun talk outcome h => ?_) fun _ talk outcome h => ?_
  · obtain ⟨answer, rfl, rfl⟩ := Ends.of_demand h
    exact ⟨_, answer, rfl, rfl, by cases answer <;> rfl⟩
  · obtain ⟨rfl, rfl⟩ := Ends.of_pure h
    exact ⟨List.forall_mem_nil _, updated, rfl⟩

theorem isEffective_remove (product : ProductId) : (remove product).IsEffective := by
  refine .bind isQuiet_now fun now => ?_
  refine .followed (isEffective_insist fun talk outcome h => ?_) fun _ talk outcome h => ?_
  · obtain ⟨answer, rfl, rfl⟩ := Ends.of_demand h
    exact ⟨_, answer, rfl, rfl, by cases answer <;> rfl⟩
  · obtain ⟨_, rfl, rfl⟩ := Ends.of_request h
    exact ⟨List.forall_mem_singleton.mpr ⟨_, rfl⟩, (), rfl⟩

end StockService

/-! ## Mutations -/

namespace ServiceCall

/-- **Whether a call is meant to change what is committed**, by itself and all at once. -/
def IsMutation : ServiceCall → Prop
  | register .. | reserve .. | release .. | deduct .. | restock .. | adjust .. => True
  | setThreshold .. | remove _ => True
  | create .. | pay .. | ship _ | complete _ | cancel .. => True
  | _ => False

/-- **Every mutation takes effect once** if it returns a value, and not at all otherwise. -/
theorem isEffective {call : ServiceCall} (h : call.IsMutation) : call.program.IsEffective := by
  have htransaction : ∀ x : Transaction, x.program.IsEffective :=
    fun x _ _ hends => (x.disciplined_of_ends hends).effective
  cases call with
  | register product stock threshold => exact StockService.isEffective_register product stock threshold
  | setThreshold product threshold => exact StockService.isEffective_setThreshold product threshold
  | remove product => exact StockService.isEffective_remove product
  | reserve settings product quantity order ttl =>
    exact htransaction (.reserve settings product quantity order ttl)
  | release product quantity order target => exact htransaction (.release product quantity order target)
  | deduct product quantity order => exact htransaction (.deduct product quantity order)
  | restock product quantity reason operator =>
    exact htransaction (.restock product quantity reason operator)
  | adjust product delta reason operator => exact htransaction (.adjust product delta reason operator)
  | pay user order => exact htransaction (.pay user order)
  | ship order => exact htransaction (.ship order)
  | complete order => exact htransaction (.complete order)
  | cancel user order => exact htransaction (.cancel user order)
  | create stock settings request =>
    intro talk outcome hends
    cases hmerge : OrderLine.merge request.lines with
    | error refusal =>
      obtain ⟨correlation, rfl, rfl⟩ := OrderService.ends_of_merge_error hmerge hends
      exact .of_error (.cons rfl Talk.quiet_nil)
    | ok lines =>
      obtain ⟨correlation, attempts, said, rfl, htried⟩ := OrderService.tried_of_create hmerge hends
      have hsaid := htried.effective fun _ _ hends => (Transaction.disciplined_place hends).effective
      exact hsaid.prepend (.cons rfl Talk.quiet_nil)
  | _ => exact h.elim

end ServiceCall

end Stockroom
