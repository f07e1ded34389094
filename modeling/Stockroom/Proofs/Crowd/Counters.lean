import Stockroom.Proofs.Crowd.Desk
import Stockroom.Proofs.Crowd.Plan

/-!
# Proofs/Crowd/Counters — no counter of the store runs out

Whatever the callers do, a run of `n` steps leaves at most `n` entries, records, reservations and waiting
writes together, and the number of an order is drawn for one caller only (`Crowd.Counted`).
**So in a run of fewer than 2⁶³ steps the store admits every open unit of work** (`Counted.admits`).

None of this depends on what the programs of the calls are: `Session.Counts` holds of every request.
-/

namespace Stockroom

open Store

/-! ## One request -/

namespace Store

variable {t t' : Tables}

/-- A write gives no number to an order but the one that it inserts. -/
theorem Write.order_of_apply {w : Write} (h : w.apply t = .ok t') {id : OrderId}
    (hid : t'.order? id ≠ none) : t.order? id ≠ none ∨ ∃ order, w = .insertOrder order ∧ order.id = id := by
  have hput : ∀ order : Order, (t.putOrder order).order? id ≠ none →
      t.order? id ≠ none ∨ order.id = id := fun order hid => by
    by_cases heq : id = order.id
    · exact .inr heq.symm
    · rw [Tables.order?_putOrder, if_neg heq] at hid
      exact .inl hid
  cases w with
  | replaceStock next expected =>
    obtain ⟨live, -, -, rfl⟩ := apply_replaceStock_iff.mp h
    exact .inl hid
  | increaseStock product quantity now =>
    obtain ⟨live, next, -, -, rfl⟩ := apply_increaseStock_iff.mp h
    exact .inl hid
  | insertReservation reservation =>
    obtain ⟨-, rfl⟩ := apply_insertReservation_iff.mp h
    exact .inl hid
  | moveReservation product order expected next now =>
    obtain ⟨r, -, -, -, rfl⟩ := apply_moveReservation_iff.mp h
    exact .inl hid
  | appendEntry entry =>
    obtain rfl := apply_appendEntry_iff.mp h
    exact .inl hid
  | insertOrder order =>
    obtain rfl := apply_insertOrder_iff.mp h
    exact (hput order hid).imp_right fun heq => ⟨order, rfl, heq⟩
  | replaceOrder order expected =>
    obtain ⟨o, ho, -, rfl⟩ := apply_replaceOrder_iff.mp h
    exact .inl ((hput order hid).elim (·) fun heq => by rw [← heq, ho]; exact Option.some_ne_none _)

theorem Write.order_of_applyAll {ws : List Write} (h : applyAll ws t = .ok t') {id : OrderId}
    (hid : t'.order? id ≠ none) :
    t.order? id ≠ none ∨ ∃ order, .insertOrder order ∈ ws ∧ order.id = id := by
  induction ws generalizing t with
  | nil =>
    obtain rfl := applyAll_nil_iff.mp h
    exact .inl hid
  | cons w ws ih =>
    obtain ⟨t₁, hw, hws⟩ := applyAll_cons_iff.mp h
    rcases ih hws with hid | ⟨order, hmem, heq⟩
    · exact (order_of_apply hw hid).imp_right fun ⟨order, hw, heq⟩ =>
        ⟨order, hw ▸ List.mem_cons_self, heq⟩
    · exact .inr ⟨order, List.mem_cons_of_mem _ hmem, heq⟩

namespace Session

/-- The writes of the open unit of work. -/
def pending (x : Session) : List Write := x.unit.elim [] UnitOfWork.pending

/-- **What a request does to the counters**, whatever it is: it takes the room of one row or entry at most,
and a new order gets the next number. -/
structure Counts (x x' : Session) : Prop where
  room : x'.store.committed.size + x'.pending.length ≤
    x.store.committed.size + x.pending.length + 1
  next : x.store.nextOrder ≤ x'.store.nextOrder
  placed : ∀ id, x'.store.committed.order? id ≠ none → x.store.committed.order? id ≠ none ∨
    ∃ order, .insertOrder order ∈ x.pending ∧ order.id = id
  drawn : ∀ order, .insertOrder order ∈ x'.pending →
    x'.store.committed.orders = x.store.committed.orders ∧
      (.insertOrder order ∈ x.pending ∨
        order.id.value = x.store.nextOrder ∧ x.store.nextOrder < x'.store.nextOrder)

variable {x : Session}

theorem Counts.refl (x : Session) : Counts x x :=
  ⟨Nat.le_succ _, Int.le_refl _, fun _ => .inl, fun _ h => ⟨rfl, .inl h⟩⟩

/-- A unit of work is opened or given up. -/
theorem Counts.dropped {unit : Option UnitOfWork} (h : unit.elim [] UnitOfWork.pending = []) :
    Counts x ⟨x.store, unit⟩ := by
  refine ⟨?_, Int.le_refl _, fun _ => .inl, fun order hmem => ?_⟩
  · rw [pending, h]
    exact Nat.le_succ_of_le (Nat.le_add_right ..)
  · rw [pending, h] at hmem
    cases hmem

/-- Only the stock is written. -/
theorem Counts.stock (product : ProductId) (row : StockRow) :
    Counts x (x.withCommitted
      { x.store.committed with stock := x.store.committed.stock.insert product row }) := by
  refine ⟨?_, Int.le_refl _, fun _ => .inl, fun order h => ⟨rfl, .inl h⟩⟩
  have := Nat.add_le_add_right (x.store.committed.size_insertStock_le product row) x.pending.length
  exact Nat.le_trans this (by omega)

/-- A write is remembered or not; the store stays as it is. -/
theorem stage_effect (x : Session) (w : Write) :
    (x.stage w).2.store = x.store ∧
      ((x.stage w).2.pending = x.pending ∨ (x.stage w).2.pending = x.pending ++ [w]) := by
  cases hu : x.unit with
  | none => exact ⟨by rw [stage, hu]; rfl, .inl (by rw [stage, hu]; rfl)⟩
  | some u =>
    have hpending := UnitOfWork.Faithful.refreshed_pending u x.store.committed w.row?
    rw [stage, hu]
    refine ⟨rfl, ?_⟩
    simp only [pending, hu, Option.elim_some, UnitOfWork.stage]
    split
    · exact .inr (congrArg (· ++ [w]) hpending)
    · exact .inl hpending
    · exact .inl hpending

theorem Counts.stage {w : Write} (hw : ∀ order, w ≠ .insertOrder order) :
    Counts x (x.stage w).2 := by
  obtain ⟨hstore, hpending⟩ := stage_effect x w
  refine ⟨?_, Int.le_of_eq (by rw [hstore]), fun id => ?_,
    fun order hmem => ⟨by rw [hstore], .inl ?_⟩⟩
  · rw [hstore]
    rcases hpending with heq | heq <;> rw [heq]
    · exact Nat.le_succ _
    · rw [List.length_append]
      exact Nat.le_refl _
  · rw [hstore]
    exact .inl
  · rcases hpending with heq | heq <;> rw [heq] at hmem
    · exact hmem
    · exact (List.mem_append.mp hmem).elim (·) fun h => absurd (List.mem_singleton.mp h).symm (hw order)

/-- **A new order gets the next number**, and nobody else will. -/
theorem Counts.insertOrder (draft : Draft) : Counts x (x.insertOrder draft).2 := by
  let drawn : Session := { x with store := { x.store with nextOrder := x.store.nextOrder + 1 } }
  let order := draft.toOrder ⟨x.store.nextOrder⟩
  obtain ⟨hstore, hpending⟩ := stage_effect drawn (.insertOrder order)
  have hnext : (x.insertOrder draft).2.store.nextOrder = x.store.nextOrder + 1 := by
    have := congrArg Store.nextOrder hstore
    exact this
  have hcommitted : (x.insertOrder draft).2.store.committed = x.store.committed := by
    have := congrArg Store.committed hstore
    exact this
  refine ⟨?_, by rw [hnext]; omega, fun id => by rw [hcommitted]; exact .inl, fun o hmem =>
    ⟨by rw [hcommitted], ?_⟩⟩
  · rw [hcommitted]
    rcases hpending with heq | heq
    · exact Nat.le_succ_of_le (Nat.le_of_eq (congrArg _ (congrArg List.length heq)))
    · rw [show (x.insertOrder draft).2.pending = x.pending ++ [.insertOrder order] from heq,
        List.length_append]
      exact Nat.le_refl _
  · rcases hpending with heq | heq
    · exact .inl (heq ▸ hmem)
    · rcases List.mem_append.mp (heq ▸ hmem : _ ∈ x.pending ++ [.insertOrder order]) with h | h
      · exact .inl h
      · cases List.mem_singleton.mp h
        exact .inr ⟨rfl, by rw [hnext]; omega⟩

theorem Counts.commit : Counts x x.commit.2 := by
  cases hu : x.unit with
  | none =>
    rw [Session.commit, hu]
    exact .refl x
  | some u =>
    cases happly : Write.applyAll u.pending x.store.committed with
    | error rejection =>
      obtain ⟨error, herror⟩ := commit_of_error (s := x.store) hu happly
      rw [show x.commit.2 = ⟨x.store, none⟩ from congrArg Prod.snd herror]
      exact .dropped rfl
    | ok t =>
      rw [show x.commit.2 = ⟨⟨t, x.store.nextOrder⟩, none⟩ from
        congrArg Prod.snd (commit_of_ok (s := x.store) hu happly)]
      have hpending : x.pending = u.pending := by rw [pending, hu]; rfl
      refine ⟨?_, Int.le_refl _, fun id hid => ?_, fun _ hmem => absurd hmem List.not_mem_nil⟩
      · have := (Write.growth_of_applyAll happly).2
        rw [hpending]
        exact Nat.le_succ_of_le this
      · rw [hpending]
        exact Write.order_of_applyAll happly hid

theorem Counts.within (r : UnitRequest) : Counts x (x.answerWithin r).2 := by
  have hfind : ∀ {α : Type} (read : Tables → α), (x.find read).2 = x := fun read => by
    unfold find
    split <;> rfl
  cases r with
  | findStock product => exact (hfind _).symm ▸ .refl x
  | findReservation product order => exact (hfind _).symm ▸ .refl x
  | findOrder order => exact (hfind _).symm ▸ .refl x
  | replaceStock next expected => exact .stage fun _ h => nomatch h
  | increaseStock product quantity now => exact .stage fun _ h => nomatch h
  | insertReservation reservation => exact .stage fun _ h => nomatch h
  | moveReservation product order expected next now => exact .stage fun _ h => nomatch h
  | appendEntry entry => exact .stage (w := .appendEntry entry) fun _ h => nomatch h
  | insertOrder draft => exact .insertOrder draft
  | replaceOrder order expected => exact .stage fun _ h => nomatch h

/-- **Every request keeps count.** -/
theorem Counts.answer (r : StoreRequest) : Counts x (x.answer r).2 := by
  cases r with
  | begin => exact .dropped rfl
  | commit => exact .commit
  | rollback => exact .dropped rfl
  | within request => exact .within request
  | createStock record =>
    simp only [Session.answer, createStock]
    split
    · exact .refl x
    · exact .stock _ _
  | setThreshold product threshold now =>
    simp only [Session.answer, setThreshold]
    split
    · exact .refl x
    · split
      · exact .stock _ _
      · exact .refl x
  | removeStock product now =>
    simp only [Session.answer, removeStock]
    split
    · exact .refl x
    · exact .stock _ _
  | _ => exact .refl x

end Session

end Store

/-! ## Many callers -/

/-- What a request does to the counters, at a desk. -/
theorem Desk.counts (d : Desk) (s : Store) (request : HostRequest) :
    Session.Counts ⟨s, d.unit⟩
      ⟨(d.answer s request).2.2, (d.answer s request).2.1.unit⟩ := by
  cases request with
  | store r => exact .answer r
  | _ => exact .refl _

theorem Caller.counts (c : Caller) (s : Store) :
    Session.Counts ⟨s, c.desk.unit⟩ ⟨(c.step s).2, (c.step s).1.desk.unit⟩ := by
  unfold Caller.step
  split
  · exact .refl _
  · exact .refl _
  · exact c.desk.counts s _

namespace Crowd

/-- The writes that wait in all open units of work. -/
def waiting (callers : List Caller) : Nat := (callers.map fun c => c.desk.pending.length).sum

theorem waiting_set {callers : List Caller} {i : Nat} {c : Caller} (h : callers[i]? = some c)
    (c' : Caller) : waiting (callers.set i c') + c.desk.pending.length =
      waiting callers + c'.desk.pending.length := by
  induction callers generalizing i with
  | nil => cases h
  | cons first rest ih =>
    cases i with
    | zero =>
      cases h
      simp only [waiting, List.set_cons_zero, List.map_cons, List.sum_cons]
      omega
    | succ i =>
      have := ih (i := i) h
      simp only [waiting, List.set_cons_succ, List.map_cons, List.sum_cons] at this ⊢
      omega

theorem pending_le_waiting {callers : List Caller} {c : Caller} (h : c ∈ callers) :
    c.desk.pending.length ≤ waiting callers := by
  induction h with
  | head rest => exact Nat.le_add_right ..
  | tail first _ ih => exact Nat.le_trans ih (Nat.le_add_left ..)

/-- **The counters after a number of steps.**  Different callers have drawn different numbers, and a
number that was drawn but not committed is not in use. -/
structure Counted (w : Crowd) (steps : Nat) : Prop where
  room : w.store.committed.size + waiting w.callers ≤ steps
  placed : ∀ id, w.store.committed.order? id ≠ none → id.value < w.store.nextOrder
  drawn : ∀ (i : Nat) c order, w.callers[i]? = some c → .insertOrder order ∈ c.desk.pending →
    order.id.value < w.store.nextOrder ∧ w.store.committed.order? order.id = none
  apart : ∀ (i j : Nat) c c' order order', i ≠ j → w.callers[i]? = some c →
    w.callers[j]? = some c' → .insertOrder order ∈ c.desk.pending →
      .insertOrder order' ∈ c'.desk.pending → order.id ≠ order'.id

/-- **A counted crowd admits every open unit of work**, as long as the steps fit into 63 bits. -/
theorem Counted.admits {w : Crowd} {steps : Nat} (h : w.Counted steps) (hsteps : steps < 2 ^ 63)
    {i : Nat} {c : Caller} (hc : w.callers[i]? = some c) : w.store.Admits c.desk.pending where
  room := by
    have := pending_le_waiting (List.mem_of_getElem? hc)
    have := h.room
    dsimp only [Tables.size] at this
    omega
  fresh order hmem := (h.drawn i c order hc hmem).symm

/-- **The next number is not in use.** -/
theorem Counted.order?_nextOrder {w : Crowd} {steps : Nat} (h : w.Counted steps) :
    w.store.committed.order? ⟨w.store.nextOrder⟩ = none := by
  by_contra horder
  exact Int.lt_irrefl _ (h.placed _ horder)

theorem counted_opening (catalogue : Table ProductId Product) (calls : List (ServiceCall × Tape)) :
    (opening catalogue calls).Counted 0 := by
  have hfresh : ∀ c ∈ (opening catalogue calls).callers, c.desk.pending = [] := fun c hc => by
    obtain ⟨call, -, rfl⟩ := List.mem_map.mp hc
    rfl
  refine ⟨?_, fun id hid => absurd rfl hid, fun i c order hc hmem => ?_,
    fun i j c c' order order' _ hc _ hmem => ?_⟩
  · have : waiting (opening catalogue calls).callers = 0 := by
      rw [waiting, List.map_congr_left fun c hc => by rw [hfresh c hc]]
      simp
    rw [this]
    exact Nat.le_refl _
  · rw [hfresh c (List.mem_of_getElem? hc)] at hmem
    cases hmem
  · rw [hfresh c (List.mem_of_getElem? hc)] at hmem
    cases hmem

/-- **Every step keeps count.**  Only the new numbers of the caller that makes the step have to be looked
at: they are larger than all others. -/
theorem Counted.step {w : Crowd} {steps : Nat} (h : w.Counted steps) (i : Nat) :
    (w.step i).Counted (steps + 1) := by
  unfold Crowd.step
  split
  · exact ⟨Nat.le_succ_of_le h.room, h.placed, h.drawn, h.apart⟩
  next c hc =>
  have hcounts := c.counts w.store
  have hnew : ∀ order, .insertOrder order ∈ (c.step w.store).1.desk.pending →
      (c.step w.store).2.committed.orders = w.store.committed.orders ∧
        (.insertOrder order ∈ c.desk.pending ∨ order.id.value = w.store.nextOrder ∧
          w.store.nextOrder < (c.step w.store).2.nextOrder) := hcounts.drawn
  have hlookup : ∀ j c', (w.callers.set i (c.step w.store).1)[j]? = some c' →
      (j = i ∧ c' = (c.step w.store).1) ∨ (j ≠ i ∧ w.callers[j]? = some c') := fun j c' hj => by
    rw [List.getElem?_set] at hj
    split at hj
    · next heq =>
      split at hj
      · exact .inl ⟨heq.symm, (Option.some.inj hj).symm⟩
      · cases hj
    · next hne => exact .inr ⟨fun heq => hne heq.symm, hj⟩
  refine ⟨?_, fun id hid => ?_, fun j c' order hj hmem => ?_,
    fun j k cj ck order order' hjk hj hk hmem hmem' => ?_⟩
  · have := h.room
    have := hcounts.room
    have := waiting_set hc (c.step w.store).1
    simp only [Session.pending, Desk.pending] at *
    omega
  · refine Int.lt_of_lt_of_le ?_ hcounts.next
    rcases hcounts.placed id hid with hid | ⟨order, hmem, rfl⟩
    · exact h.placed id hid
    · exact (h.drawn i c order hc hmem).1
  · rcases hlookup j c' hj with ⟨rfl, rfl⟩ | ⟨hne, hj⟩
    · obtain ⟨horders, hmem | ⟨hid, hlt⟩⟩ := hnew order hmem
      · obtain ⟨hlt, hnone⟩ := h.drawn j c order hc hmem
        exact ⟨Int.lt_of_lt_of_le hlt hcounts.next, by rwa [Tables.order?, horders]⟩
      · refine ⟨hid ▸ hlt, ?_⟩
        rw [Tables.order?, horders]
        by_contra hsome
        exact absurd (h.placed _ hsome) (by omega)
    · obtain ⟨hlt, hnone⟩ := h.drawn j c' order hj hmem
      refine ⟨Int.lt_of_lt_of_le hlt hcounts.next, ?_⟩
      by_contra hsome
      rcases hcounts.placed _ hsome with hsome | ⟨other, hother, heq⟩
      · exact hsome hnone
      · exact h.apart i j c c' other order hne.symm hc hj hother hmem heq
  · rcases hlookup j cj hj with ⟨rfl, rfl⟩ | ⟨-, hold⟩
    · rcases hlookup k ck hk with ⟨rfl, -⟩ | ⟨-, hold⟩
      · exact absurd rfl hjk
      · obtain ⟨-, hmem | ⟨hid, -⟩⟩ := hnew order hmem
        · exact h.apart j k c ck order order' hjk hc hold hmem hmem'
        · have := (h.drawn k ck order' hold hmem').1
          rintro heq
          rw [← heq] at this
          omega
    · rcases hlookup k ck hk with ⟨rfl, rfl⟩ | ⟨-, hold'⟩
      · obtain ⟨-, hmem' | ⟨hid, -⟩⟩ := hnew order' hmem'
        · exact h.apart j k cj c order order' hjk hold hc hmem hmem'
        · have := (h.drawn j cj order hold hmem).1
          rintro heq
          rw [heq] at this
          omega
      · exact h.apart j k cj ck order order' hjk hold hold' hmem hmem'

/-- **A run keeps count of its steps.** -/
theorem Counted.run {w : Crowd} {steps : Nat} (h : w.Counted steps) (schedule : List Nat) :
    (w.run schedule).Counted (steps + schedule.length) := by
  induction schedule generalizing w steps with
  | nil => exact h
  | cons i schedule ih =>
    have := ih (h.step i)
    rwa [Nat.add_assoc, Nat.add_comm 1] at this

/-- **A short run leaves a small store.** -/
theorem size_run (catalogue : Table ProductId Product) (calls : List (ServiceCall × Tape)) (past : List Nat) :
    ((opening catalogue calls).run past).store.committed.size ≤ past.length := by
  have := ((counted_opening catalogue calls).run past).room
  omega

end Crowd

end Stockroom
