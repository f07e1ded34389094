import Stockroom.Proofs.Crowd.Chronicle
import Stockroom.Proofs.Store.Removal

/-!
# Proofs/Crowd/Lasting — what no request can end

A property of the tables is `Lasting` if no write and no request ends it.  **Then it lasts in every run**,
whatever the calls are (`Lasting.run`), and a desk that shows it goes on showing it (`Lasting.answer`).
Every row is filed under its own key, and a product that was removed stays removed.

So a caller may rely on such a property while it waits.  An `Upkeep` is terms of that kind together with an
invariant of the desk that every allowed request keeps.  `Call.Keeps` is that a call keeps the invariant
whatever it is answered, and `Call.Balks` that it does so and never returns a value.
-/

namespace Stockroom

open Store

/-! ## Properties of the tables -/

namespace Store

variable {P P' : Tables → Prop} {t t' c : Tables}

/-- **A property that no request ends.** -/
structure Lasting (P : Tables → Prop) : Prop where
  write : ∀ {w : Write} {t t' : Tables}, P t → w.apply t = .ok t' → P t'
  refresh : ∀ {t c : Tables} (row : RowName), P t → P c → P (t.refresh c row)
  enter : ∀ {t : Tables} {record : StockRecord}, P t → t.stock.get? record.product = none →
    P (t.putLive record.product record)
  tune : ∀ {t : Tables} {product : ProductId} {live updated : StockRecord} {threshold : Int}
    {now : Instant}, P t → t.liveStock? product = some live →
    live.withThreshold threshold now = .ok updated → P (t.putLive product updated)
  remove : ∀ {t : Tables} {product : ProductId} {live : StockRecord} {now : Instant}, P t →
    t.liveStock? product = some live → P { t with stock := t.stock.insert product ⟨live, some now⟩ }

/-- Rows stay under their own keys. -/
theorem lasting_filed : Lasting Tables.Filed where
  write := Write.filed_of_apply
  refresh _ ht hc := ht.refresh hc
  enter ht _ := ⟨Table.forall_insert ht.stock rfl, ht.reservations⟩
  tune ht hlive hupdated := by
    obtain ⟨-, rfl⟩ := StockRecord.withThreshold_eq_ok_iff.mp hupdated
    have hproduct := ht.product_of_live hlive
    exact ⟨Table.forall_insert ht.stock hproduct, ht.reservations⟩
  remove ht hlive := ⟨Table.forall_insert ht.stock (ht.product_of_live hlive), ht.reservations⟩

/-- **A product that was removed stays removed.** -/
theorem lasting_removed (p : ProductId) : Lasting (Tables.Removed p) where
  write hp h := Write.removed_of_apply h hp
  refresh row ht hc := ht.refresh row hc
  enter {t record} hp hnone := by
    obtain ⟨old, time, hrow⟩ := hp
    have hne : record.product ≠ p := by
      rintro rfl
      cases hnone.symm.trans hrow
    exact ⟨old, time, (t.frozen_insert hne).row.trans hrow⟩
  tune {t} _ _ _ _ _ hp hlive _ := hp.of_row (t.frozen_insert (hp.ne_of_live hlive)).row
  remove {t} _ _ _ hp hlive := hp.of_row (t.frozen_insert (hp.ne_of_live hlive)).row

namespace Lasting

theorem and (hP : Lasting P) (hP' : Lasting P') : Lasting fun t => P t ∧ P' t where
  write ht h := ⟨hP.write ht.1 h, hP'.write ht.2 h⟩
  refresh row ht hc := ⟨hP.refresh row ht.1 hc.1, hP'.refresh row ht.2 hc.2⟩
  enter ht h := ⟨hP.enter ht.1 h, hP'.enter ht.2 h⟩
  tune ht h h' := ⟨hP.tune ht.1 h h', hP'.tune ht.2 h h'⟩
  remove ht h := ⟨hP.remove ht.1 h, hP'.remove ht.2 h⟩

variable (hP : Lasting P)
include hP

theorem applyAll {ws : List Write} (ht : P t) (h : Write.applyAll ws t = .ok t') : P t' := by
  induction ws generalizing t with
  | nil => exact Write.applyAll_nil_iff.mp h ▸ ht
  | cons w ws ih =>
    obtain ⟨t₁, hw, hws⟩ := Write.applyAll_cons_iff.mp h
    exact ih (hP.write ht hw) hws

/-- Nothing that takes effect ends it. -/
theorem effect {x : Exchange} {waiting : Option (List Write)} (ht : P t) (h : x.Effect waiting t t') :
    P t' := by
  obtain ⟨request, answer⟩ := x
  cases request with
  | store r =>
    cases r with
    | commit =>
      obtain ⟨writes, -, happly⟩ := h
      exact hP.applyAll ht happly
    | createStock record =>
      obtain ⟨hnone, rfl⟩ := h
      exact hP.enter ht hnone
    | setThreshold product threshold now =>
      obtain ⟨live, updated, hlive, hupdated, rfl⟩ := h
      exact hP.tune ht hlive hupdated
    | removeStock product now =>
      obtain ⟨live, hlive, rfl⟩ := h
      exact hP.remove ht hlive
    | _ => exact h.elim
  | _ => exact h.elim

/-- A copy that is written to keeps it, if what is committed has it. -/
theorem stage {u : UnitOfWork} (hu : P u.working) (hc : P c) (w : Write) :
    P (u.stage c w).2.working := by
  have hrefreshed : P (u.refreshed c w.row?).working := by
    unfold UnitOfWork.refreshed
    cases w.row? with
    | none => exact hu
    | some row =>
      dsimp only
      split
      · exact hu
      · exact hP.refresh row hu hc
  unfold UnitOfWork.stage
  dsimp only
  split
  · next happly => exact hP.write hrefreshed happly
  · exact hrefreshed
  · exact hrefreshed

end Lasting

end Store

/-! ## Desks -/

namespace Desk

variable {P : Tables → Prop} {d : Desk} {s : Store}

/-- **A desk that shows a property**: what is committed has it, and so has the copy in the open unit of
work. -/
structure Shows (P : Tables → Prop) (d : Desk) (s : Store) : Prop where
  committed : P s.committed
  working : ∀ u, d.unit = some u → P u.working

theorem shows_fresh (tape : Tape) (h : P s.committed) : (Desk.fresh tape).Shows P s := ⟨h, nofun⟩

/-- **The unit of work after a request**: it is opened or ended, or stays as it is but for a write. -/
theorem unit_answer (d : Desk) (s : Store) (request : HostRequest) :
    (d.answer s request).2.1.unit = none ∨
      request = .store .begin ∧ (d.answer s request).2.1.unit = some (.start s.committed) ∨
      (d.answer s request).2.1.unit = d.unit ∨
      ∃ r u w, request = .store (.within r) ∧ d.unit = some u ∧
        Session.write? ⟨s, d.unit⟩ r = some w ∧
        (d.answer s request).2.1.unit = some (u.stage s.committed w).2 := by
  cases request with
  | store r =>
    cases r with
    | begin => exact .inr (.inl ⟨rfl, rfl⟩)
    | rollback => exact .inl rfl
    | commit =>
      refine .inl ?_
      show (Session.commit ⟨s, d.unit⟩).2.unit = none
      unfold Session.commit
      split
      · next hunit => exact hunit
      · dsimp only
        split <;> rfl
    | within r =>
      refine .inr (.inr ((Session.answerWithin_unit ⟨s, d.unit⟩ r).2.imp_right ?_))
      rintro ⟨u, w, hu, hw, hunit⟩
      exact ⟨r, u, w, rfl, hu, hw, hunit⟩
    | createStock record =>
      rcases Session.createStock_cases ⟨s, d.unit⟩ record with hanswer | ⟨answer, hanswer⟩
      all_goals
        rw [answer_store (r := .createStock record) hanswer]
        exact .inr (.inr (.inl rfl))
    | setThreshold product threshold now =>
      rcases Session.setThreshold_cases ⟨s, d.unit⟩ product threshold now with
        ⟨live, updated, -, -, -, hanswer⟩ | ⟨answer, -, hanswer⟩
      all_goals
        rw [answer_store (r := .setThreshold product threshold now) hanswer]
        exact .inr (.inr (.inl rfl))
    | removeStock product now =>
      rcases Session.removeStock_cases ⟨s, d.unit⟩ product now with ⟨live, -, hanswer⟩ | ⟨answer, hanswer⟩
      all_goals
        rw [answer_store (r := .removeStock product now) hanswer]
        exact .inr (.inr (.inl rfl))
    | _ => exact .inr (.inr (.inl rfl))
  | _ => exact .inr (.inr (.inl rfl))

end Desk

namespace Store.Lasting

variable {P : Tables → Prop} {d : Desk} {s : Store} (hP : Lasting P)
include hP

theorem committed_answer (h : P s.committed) (request : HostRequest) :
    P (d.answer s request).2.2.committed := by
  rcases Desk.effect_answer (d := d) (s := s) request with ⟨-, heffect⟩ | ⟨-, hsame⟩
  · exact hP.effect h heffect
  · rwa [hsame]

/-- **A desk goes on showing it**, whatever is asked. -/
theorem answer (h : d.Shows P s) (request : HostRequest) :
    (d.answer s request).2.1.Shows P (d.answer s request).2.2 := by
  refine ⟨hP.committed_answer h.committed request, fun u hu => ?_⟩
  rcases d.unit_answer s request with hnone | ⟨-, hstart⟩ | hsame | ⟨r, v, w, -, hv, -, hstage⟩
  · cases hnone.symm.trans hu
  · cases hstart.symm.trans hu
    exact h.committed
  · exact h.working u (hsame.symm.trans hu)
  · cases hstage.symm.trans hu
    exact hP.stage (h.working v hv) h.committed w

theorem step {w : Crowd} (h : P w.store.committed) (i : Nat) : P (w.step i).store.committed := by
  cases hi : w.callers[i]? with
  | none => rwa [Crowd.step, hi]
  | some c =>
    rw [Crowd.step_of_getElem? hi]
    rcases Caller.step_cases c w.store with heq | ⟨request, next, hrest⟩
    · rwa [heq]
    · rw [Caller.step_eq_of_ask hrest]
      exact hP.committed_answer h request

/-- **It lasts in every run.** -/
theorem run {w : Crowd} (h : P w.store.committed) (schedule : List Nat) :
    P (w.run schedule).store.committed := by
  induction schedule generalizing w with
  | nil => exact h
  | cons i schedule ih => exact ih (hP.step h i)

end Store.Lasting

/-! ## Calls -/

/-- **Terms with an invariant** of the desk that every allowed request keeps, and that outlasts what others
may do. -/
structure Upkeep extends Terms where
  holds : Desk → Store → Prop
  allows : HostRequest → Prop
  later : ∀ {d s s'}, rely s s' → holds d s → holds d s'
  answer : ∀ {d s} {r : HostRequest}, allows r → holds d s →
    owes d r s ∧ holds (d.answer s r).2.1 (d.answer s r).2.2

/-- Terms that rely on a property to last. -/
def Terms.whileLasting (P : Tables → Prop) (owes : Desk → HostRequest → Store → Prop)
    (mayAbort : Prop) : Terms where
  rely s s' := P s.committed → P s'.committed
  refl _ := id
  trans h h' := h' ∘ h
  owes := owes
  mayAbort := mayAbort

namespace Call

variable {U : Upkeep} {α β : Type}

/-- **A call that keeps the invariant**, whatever it is answered. -/
def Keeps (U : Upkeep) (p : Call α) : Prop :=
  ∀ d s, U.holds d s → p.Meets U.toTerms (fun _ => U.holds) (fun _ => U.holds) d s

/-- **A call that never returns a value**, and keeps the invariant. -/
def Balks (U : Upkeep) (p : Call α) : Prop :=
  ∀ d s, U.holds d s → p.Meets U.toTerms (fun _ _ _ => False) (fun _ => U.holds) d s

namespace Keeps

theorem pure (a : α) : (Pure.pure a : Call α).Keeps U := fun _ _ hd =>
  Meets.pure fun _ hs => U.later hs hd

theorem throw (error : ServiceError) : (throw error : Call α).Keeps U := fun _ _ hd =>
  Meets.throw fun _ hs => U.later hs hd

theorem bind {p : Call α} {f : α → Call β} (h : p.Keeps U) (hf : ∀ a, (f a).Keeps U) :
    (p >>= f).Keeps U := fun d s hd =>
  (h d s hd).seq fun a d' s' hd' => hf a d' s' hd'

theorem caught {p : Call α} (h : p.Keeps U) : Call.Keeps U (ExceptT.lift p.run) := fun d s hd =>
  Program.Meets.bind (h d s hd) fun result _ s' hresult => by
    have hholds := hresult s' (U.refl s')
    cases result <;> exact Meets.pure fun _ hs => U.later hs hholds

theorem request {r : HostRequest} (hr : U.allows r) :
    Call.Keeps U (ExceptT.lift (Program.request (I := Host) r)) := fun _ _ hd =>
  Meets.request fun _ hs => by
    obtain ⟨howes, hd'⟩ := U.answer hr (U.later hs hd)
    exact ⟨howes, fun _ hs' => U.later hs' hd'⟩

theorem demand {r : StoreRequest} (hr : U.allows (.store r)) : (Call.demand r).Keeps U :=
  bind (request hr) fun answer => by
    cases answer with
    | ok result => exact pure result
    | error error => exact throw _

/-- **A request, with what its answer tells.** -/
theorem demand_knows {d : Desk} {s : Store} {r : StoreRequest} {F : r.Result → Desk → Prop}
    (hr : U.allows (.store r)) (hd : U.holds d s)
    (hF : ∀ s' result, U.holds d s' → (d.answer s' (.store r)).1 = .ok result →
      F result (d.answer s' (.store r)).2.1) :
    (Call.demand r).Meets U.toTerms (fun result d' s' => F result d' ∧ U.holds d' s')
      (fun _ => U.holds) d s := by
  refine Meets.demand fun s' hs => ?_
  have hs' := U.later hs hd
  obtain ⟨howes, hd'⟩ := U.answer hr hs'
  have hF' := fun result => hF s' result hs'
  cases hanswer : Session.answer ⟨s', d.unit⟩ r with
  | mk answer session =>
    rw [Desk.answer_store hanswer] at hd' hF'
    refine ⟨howes, answer, session, rfl, fun s'' hs'' => ?_⟩
    cases answer with
    | ok result => exact ⟨hF' result rfl, U.later hs'' hd'⟩
    | error error => exact U.later hs'' hd'

theorem obey_bind {x : Except Refusal α} {f : α → Call β} (hf : ∀ a, x = .ok a → (f a).Keeps U) :
    (Call.obey x >>= f).Keeps U := by
  cases x with
  | ok a => exact hf a rfl
  | error refusal => exact throw _

theorem obey (x : Except Refusal α) : (Call.obey x).Keeps U := by
  cases x with
  | ok a => exact pure a
  | error refusal => exact throw _

theorem orAbort_bind (habort : U.mayAbort) {x : Option α} {f : α → Call β}
    (hf : ∀ a, x = some a → (f a).Keeps U) : (Call.orAbort x >>= f).Keeps U := by
  cases x with
  | some a => exact hf a rfl
  | none => exact fun _ _ _ => habort

theorem insist {p : Call Bool} {otherwise : ServiceError} (h : p.Keeps U) :
    (Call.insist p otherwise).Keeps U :=
  bind h fun held => by
    cases held with
    | true => exact pure ()
    | false => exact throw otherwise

theorem mapM {f : β → Call α} (hf : ∀ b, (f b).Keeps U) (bs : List β) : (bs.mapM f).Keeps U := by
  induction bs with
  | nil => exact pure []
  | cons b bs ih =>
    rw [List.mapM_cons]
    exact bind (hf b) fun _ => bind ih fun _ => pure _

theorem forM {f : β → Call PUnit} (hf : ∀ b, (f b).Keeps U) (bs : List β) : (bs.forM f).Keeps U := by
  induction bs with
  | nil => exact pure _
  | cons b bs ih => exact bind (hf b) fun _ => ih

theorem rollBack (hrollback : U.allows (.store .rollback)) (hlog : ∀ record, U.allows (.log record))
    {component : String} {cause : ServiceError} : (Call.rollBack component cause).Keeps U :=
  bind (request hrollback) fun answer => by
    cases answer with
    | ok _ => exact pure ()
    | error failure => exact request (hlog _)

theorem inUnit (hbegin : U.allows (.store .begin)) (hcommit : U.allows (.store .commit))
    (hrollback : U.allows (.store .rollback)) (hlog : ∀ record, U.allows (.log record))
    {component : String} {body : Call α} (h : body.Keeps U) : (Call.inUnit component body).Keeps U :=
  bind (demand hbegin) fun _ => bind h.caught fun result => by
    cases result with
    | ok a => exact bind (demand hcommit) fun _ => pure a
    | error cause => exact bind (rollBack hrollback hlog) fun _ => throw cause

/-- A call that keeps the invariant, and then another one that never returns a value. -/
theorem balks {p : Call α} {f : α → Call β} (h : p.Keeps U) (hf : ∀ a, (f a).Balks U) :
    (p >>= f).Balks U := fun d s hd =>
  (h d s hd).seq fun a d' s' hd' => hf a d' s' hd'

end Keeps

/-- What is left of a unit of work once it is open. -/
theorem balks_opened {d : Desk} {s : Store} (hrollback : U.allows (.store .rollback))
    (hlog : ∀ record, U.allows (.log record)) {component : String} {body : Call α}
    (h : body.Meets U.toTerms (fun _ _ _ => False) (fun _ => U.holds) d s) :
    Call.Meets U.toTerms (fun _ _ _ => False) (fun _ => U.holds) (do
      match ← ExceptT.lift body.run with
      | .ok value =>
        Call.demand .commit
        return value
      | .error cause =>
        Call.rollBack component cause
        throw cause : Call α) d s :=
  h.caught.seq fun result d' s' hresult => by
    cases result with
    | ok a => exact hresult.elim
    | error cause =>
      exact (Keeps.rollBack hrollback hlog d' s' hresult).seq fun _ _ _ hd =>
        Meets.throw fun _ hs => U.later hs hd

namespace Balks

theorem throw (error : ServiceError) : (throw error : Call α).Balks U := fun _ _ hd =>
  Meets.throw fun _ hs => U.later hs hd

/-- What comes after a call that never returns a value is not reached. -/
theorem bind {p : Call α} (h : p.Balks U) (f : α → Call β) : (p >>= f).Balks U := fun d s hd =>
  (h d s hd).seq fun _ _ _ hfalse => hfalse.elim

/-- A request after each of whose answers no value is returned. -/
theorem demand_bind {r : StoreRequest} {f : r.Result → Call β} (hr : U.allows (.store r))
    (h : ∀ d s result, U.holds d s → (d.answer s (.store r)).1 = .ok result → (f result).Balks U) :
    (Call.demand r >>= f).Balks U := fun d _ hd =>
  (Keeps.demand_knows (F := fun result _ => (f result).Balks U) hr hd fun s' result hs' =>
    h d s' result hs').seq fun _ d' s' hd' => hd'.1 d' s' hd'.2

theorem inUnit (hbegin : U.allows (.store .begin)) (hrollback : U.allows (.store .rollback))
    (hlog : ∀ record, U.allows (.log record)) {component : String} {body : Call α} (h : body.Balks U) :
    (Call.inUnit component body).Balks U :=
  (Keeps.demand hbegin).balks fun _ d s hd => balks_opened hrollback hlog (h d s hd)

theorem obey_bind {x : Except Refusal α} {f : α → Call β} (hf : ∀ a, x = .ok a → (f a).Balks U) :
    (Call.obey x >>= f).Balks U := by
  cases x with
  | ok a => exact hf a rfl
  | error refusal => exact throw _

theorem mapM {f : β → Call α} (hf : ∀ b, (f b).Keeps U) {bs : List β} {b : β} (hmem : b ∈ bs)
    (hb : (f b).Balks U) : (bs.mapM f).Balks U := by
  induction bs with
  | nil => cases hmem
  | cons first bs ih =>
    rw [List.mapM_cons]
    rcases List.mem_cons.mp hmem with rfl | hmem
    · exact hb.bind _
    · exact (hf first).balks fun _ => (ih hmem).bind _

/-- **A loop with a turn that never returns a value.** -/
theorem forM {f : β → Call PUnit} (hf : ∀ b, (f b).Keeps U) {bs : List β} {b : β} (hmem : b ∈ bs)
    (hb : (f b).Balks U) : (bs.forM f).Balks U := by
  induction bs with
  | nil => cases hmem
  | cons first bs ih =>
    rcases List.mem_cons.mp hmem with rfl | hmem
    · exact hb.bind _
    · exact (hf first).balks fun _ => ih hmem

end Balks

end Call

end Stockroom
