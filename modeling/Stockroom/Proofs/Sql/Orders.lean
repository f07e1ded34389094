import Mathlib.Logic.Relation
import Stockroom.Proofs.Ledger.Edit
import Stockroom.Proofs.Sql.Found
import Stockroom.Proofs.Sql.Stored

/-!
# Proofs/Sql/Orders — the rows of orders and of their items

`Access.StoresOrder` is a program that inserts an order: one statement for its row and, once the database has
numbered it, one for each of its items.  **The rows that they leave keep the order** as the program answered
it, as long as the client reads its times as it writes them.

An order that is moved is written over its row; its items stay.  **Whatever the row said before about the
progress of the order, it then keeps the order that was written** (`replaceOrder_stores`).
-/

namespace Stockroom

open Rehearsal Sql

variable {κ : Type} {format : TimeFormat κ} {draft : Draft} {o o' : Order} {before after : Row} {rows : List Row}

/-- All times of a timeline. -/
def Timeline.times (t : Timeline) : List Instant :=
  t.paidAt.toList ++ t.shippedAt.toList ++ t.completedAt.toList ++ t.cancelledAt.toList ++ [t.updatedAt]

/-! ## The row of a new order -/

/-- What the table of orders gives to a new row by itself: a number, and no times of moves. -/
structure Sql.Row.IsNewOrder (row : Row) (order : OrderId) : Prop where
  id : row.lookup "id" = some (.ofId order)
  paidAt : row.lookup "paid_at" = some .null
  shippedAt : row.lookup "shipped_at" = some .null
  completedAt : row.lookup "completed_at" = some .null
  cancelledAt : row.lookup "cancelled_at" = some .null

/-- The server after it was sent statements. -/
def Rehearsal.Server.sentAll (s : Server) (sts : List Statement) (replies : List Reply) : Server :=
  { s with executed := s.executed ++ sts.map .statement, replies := replies }

theorem Rehearsal.Server.sentAll_sent (s : Server) (st : Statement) (sts : List Statement)
    (replies replies' : List Reply) :
    (s.sent (.statement st) replies').sentAll sts replies = s.sentAll (st :: sts) replies := by
  simp [sentAll, sent]

namespace Sql

open Gateway Access

/-- **A program that inserts an order.**  The statements for the items are known once the database has
numbered the order. -/
structure Access.StoresOrder (p : Access Order) (format : TimeFormat κ) (draft : Draft) (st : Statement)
    (sts : OrderId → List Statement) : Prop where
  performs : format.accepts draft.createdAt = true →
    ∀ (s : Server) (change : Sql.Change) (changes : List Sql.Change) rest, s.isClosed = false →
      changes.length = draft.items.length → s.replies = .change change :: (changes.map .change ++ rest) →
        p.Performs format s (draft.toOrder ⟨Width.int64.wrap change.lastId⟩)
          (s.sentAll (st :: sts ⟨Width.int64.wrap change.lastId⟩) rest)
  aborts : format.accepts draft.createdAt = false → ∀ s : Server, p.Aborts format s s
  /-- No cell is left for the database to work out. -/
  isBound : st.bound?.isSome ∧ ∀ order, ∀ st ∈ sts order, st.bound?.isSome
  reads : format.Returns draft.createdAt → ∀ (order : OrderId) before after rows,
    Width.int64.Fits order.value → before.IsNewOrder order → st.Leaves format before after →
      List.Forall₂ (fun st row => ∃ before, st.Leaves format before row) (sts order) rows →
        (draft.toOrder order).IsKept format after rows

theorem insertItem_stores (format : TimeFormat κ) {i : OrderItem} (h : i.IsSound) (draft : Draft)
    (order : OrderId) :
    ∃ st, (insertItem draft order i).Stores format st (fun _ => ()) [draft.createdAt]
      fun _ after => after.IsItem i := by
  refine ⟨_, (Stores.execute rfl ?_ ?_).map fun _ => ()⟩
  · cases i.image <;> rfl
  intro before after hfills
  refine ⟨?_, fun name hname => hfills.mem_columns rfl ?_⟩
  · obtain ⟨_, ⟨⟩, hafter⟩ := hfills
    exact Reading.item_eq_ok_iff.mpr
      ⟨Reading.id_of_lookup (hafter "product_id") h.product, Reading.text_of_lookup (hafter "product_name"),
        Reading.text?_of_lookup (hafter "product_image"),
        Reading.int_of_lookup (hafter "quantity") h.quantity,
        Reading.money_of_lookup (hafter "unit_price") h.unitPrice,
        Reading.money_of_lookup (hafter "total_price") h.totalPrice⟩
  · revert name
    exact (show Reading.itemColumns ⊆ ["order_id", "product_id", "product_name", "product_image", "quantity",
      "unit_price", "total_price", "created_at"] by decide)

/-- **Statements for items**, one for each: they are executed one after the other. -/
structure InsertsItems (format : TimeFormat κ) (draft : Draft) (order : OrderId) (items : List OrderItem)
    (sts : List Statement) : Prop where
  performs : format.accepts draft.createdAt = true → ∀ (s : Server) (changes : List Sql.Change) rest,
    s.isClosed = false → changes.length = items.length → s.replies = changes.map .change ++ rest →
      (items.forM (insertItem draft order)).Performs format s () (s.sentAll sts rest)
  isBound : ∀ st ∈ sts, st.bound?.isSome
  reads : format.Returns draft.createdAt → ∀ rows,
    List.Forall₂ (fun st row => ∃ before, st.Leaves format before row) sts rows →
      List.Forall₂ Row.IsItem rows items

theorem exists_insertsItems {items : List OrderItem} (h : ∀ i ∈ items, i.IsSound) (draft : Draft)
    (order : OrderId) : ∃ sts, InsertsItems format draft order items sts := by
  induction items with
  | nil =>
    refine ⟨[], fun _ s changes rest _ hlength hreplies => ?_, nofun, fun _ rows hrows => ?_⟩
    · obtain rfl := List.length_eq_zero_iff.mp hlength
      have hs : s.sentAll [] rest = s := by simp [Server.sentAll, ← show s.replies = rest from hreplies]
      rw [hs]
      exact .pure
    · cases hrows
      exact .nil
  | cons i items ih =>
    obtain ⟨hi, hitems⟩ := List.forall_mem_cons.mp h
    obtain ⟨st, hst⟩ := insertItem_stores format hi draft order
    obtain ⟨sts, hsts⟩ := ih hitems
    refine ⟨st :: sts, fun haccepts s changes rest hopen hlength hreplies => ?_,
      List.forall_mem_cons.mpr ⟨hst.isBound, hsts.isBound⟩, fun hreturns rows hrows => ?_⟩
    · obtain ⟨change, changes, rfl⟩ := List.exists_cons_of_length_eq_add_one hlength
      rw [← Server.sentAll_sent]
      exact .bind (hst.performs (by simpa using haccepts) s change _ hopen hreplies)
        (hsts.performs haccepts _ changes rest hopen (by simpa using hlength) rfl)
    · obtain _ | ⟨⟨before, hrow⟩, hrows⟩ := hrows
      exact .cons (hst.reads (by simpa using hreturns) before _ hrow) (hsts.reads hreturns _ hrows)

/-- **The row of an order, then those of its items.** -/
theorem Access.StoresOrder.of_row {p : Access Sql.Change} {st : Statement} {sts : OrderId → List Statement}
    (hrow : p.Stores format st (fun change => change) [draft.createdAt, draft.createdAt] fun before after =>
      ∀ order : OrderId, Width.int64.Fits order.value → before.IsNewOrder order →
        Reading.order draft.items after = .ok (draft.toOrder order))
    (hitems : ∀ order, InsertsItems format draft order draft.items (sts order)) :
    StoresOrder (do
      let inserted ← p
      let id : OrderId := ⟨Width.int64.wrap inserted.lastId⟩
      draft.items.forM (insertItem draft id)
      return draft.toOrder id) format draft st sts where
  performs haccepts s change changes rest hopen hlength hreplies := by
    rw [← Server.sentAll_sent]
    exact .bind (hrow.performs (by simpa using haccepts) s change _ hopen hreplies)
      (.bind ((hitems _).performs haccepts _ changes rest hopen hlength rfl) .pure)
  aborts hrefused s := (hrow.aborts ⟨_, List.mem_cons_self, hrefused⟩ s).bind
  isBound := ⟨hrow.isBound, fun order => (hitems order).isBound⟩
  reads hreturns order before after rows hid hnew hafter hrows := Order.isKept_iff.mpr
    ⟨hrow.reads (by simpa using hreturns) before after hafter order hid hnew,
      mapM_item_aligned ((hitems order).reads hreturns rows hrows)⟩

/-- **An order that is inserted is read back**, with its items. -/
theorem insertOrder_stores (h : draft.IsSound) :
    ∃ st sts, StoresOrder (insertOrder draft) format draft st sts := by
  obtain ⟨sts, hitems⟩ := Classical.skolem.mp fun order => exists_insertsItems h.items draft order
  refine ⟨_, sts, .of_row (Stores.execute rfl ?_ ?_) hitems⟩
  · cases draft.receiver.zipCode <;> cases draft.remark <;> rfl
  rintro before after ⟨_, ⟨⟩, hafter⟩ order hid hnew
  refine Reading.order_eq_ok_iff.mpr ⟨rfl, ?_, ?_, ?_⟩
  · exact Reading.id_of_lookup ((hafter "id").trans hnew.id) hid
  · exact {
      receiver := Reading.receiver_eq_ok_iff.mpr ⟨_, _, _, _, Reading.text_of_lookup (hafter "receiver_name"),
        Reading.text_of_lookup (hafter "receiver_phone"), Reading.text_of_lookup (hafter "receiver_address"),
        Reading.text?_of_lookup (hafter "receiver_zip_code"), h.receiver⟩
      createdAt := Reading.time_of_lookup (hafter "created_at")
      orderNo := Reading.text_of_lookup (hafter "order_no")
      user := Reading.id_of_lookup (hafter "user_id") h.user
      total := Reading.money_of_lookup (hafter "total_amount") h.total
      discount := Reading.money_of_lookup (hafter "discount_amount") h.discount
      shipping := Reading.money_of_lookup (hafter "shipping_fee") h.shipping
      pay := Reading.money_of_lookup (hafter "pay_amount") h.pay
      remark := Reading.text?_of_lookup (hafter "remark") }
  · have hnull : ∀ {name : String}, after.lookup name = some .null → Reading.time? name after = .ok none :=
      fun hlookup => Reading.time?_of_lookup (t := none) hlookup
    exact {
      status := ⟨_, Reading.text_of_lookup (hafter "status"), OrderStatus.pending.ofText_text⟩
      paidAt := hnull ((hafter "paid_at").trans hnew.paidAt)
      shippedAt := hnull ((hafter "shipped_at").trans hnew.shippedAt)
      completedAt := hnull ((hafter "completed_at").trans hnew.completedAt)
      cancelledAt := hnull ((hafter "cancelled_at").trans hnew.cancelledAt)
      updatedAt := Reading.time_of_lookup (hafter "updated_at") }

end Sql

/-! ## An order that moves -/

/-- The order is the other one after a move. -/
def Order.Moves (o o' : Order) : Prop := ∃ (move : OrderMove) (now : Instant), move.apply o now = .ok o'

theorem Order.same_of_moves (h : Relation.ReflTransGen Moves o o') : o'.id = o.id ∧ o'.draft = o.draft := by
  induction h with
  | refl => exact ⟨rfl, rfl⟩
  | tail _ hmove ih =>
    obtain ⟨move, now, hmove⟩ := hmove
    have hprecedes := OrderMove.apply_precedes hmove
    exact ⟨hprecedes.id.trans ih.1, hprecedes.draft.trans ih.2⟩

/-- **An order that has moved is read back**, with the items that it always had. -/
theorem Sql.replaceOrder_stores {expected : OrderStatus} (h : Relation.ReflTransGen Order.Moves o o') :
    ∃ st, (Gateway.replaceOrder o' expected).Stores format st (fun change => decide (change.affected = 1))
      o'.timeline.times fun before after =>
        ∀ rows, o.IsKept format before rows → o'.IsKept format after rows := by
  refine ⟨_, (Access.Stores.execute rfl ?_ ?_).map fun change => decide (change.affected = 1)⟩
  · obtain ⟨_, _, _, paidAt, shippedAt, completedAt, cancelledAt, updatedAt⟩ := o'
    cases paidAt <;> cases shippedAt <;> cases completedAt <;> cases cancelledAt <;> rfl
  intro before after hfills rows hbefore
  obtain ⟨hid, hdraft⟩ := Order.same_of_moves h
  have hsame : ∀ name ∉ Reading.progressColumns, after.lookup name = before.lookup name :=
    fun name hname => hfills.lookup_of_notMem rfl hname
  obtain ⟨_, ⟨⟩, hafter⟩ := hfills
  obtain ⟨horder, hrows⟩ := Order.isKept_iff.mp hbefore
  obtain ⟨-, hidBefore, hreads, -⟩ := Reading.order_eq_ok_iff.mp horder
  refine Order.isKept_iff.mpr ⟨Reading.order_eq_ok_iff.mpr ⟨rfl, ?_, ?_, ?_⟩, ?_⟩
  · rw [hid]
    exact (Reading.local_id (hsame "id" (by decide))).trans hidBefore
  · rw [hdraft]
    exact hreads.congr hsame
  · exact ⟨⟨_, Reading.text_of_lookup (hafter "status"), o'.status.ofText_text⟩,
      Reading.time?_of_lookup (hafter "paid_at"), Reading.time?_of_lookup (hafter "shipped_at"),
      Reading.time?_of_lookup (hafter "completed_at"), Reading.time?_of_lookup (hafter "cancelled_at"),
      Reading.time_of_lookup (hafter "updated_at")⟩
  · rw [Order.items, hdraft]
    exact hrows

/-- **One more write of an order**: it moves, and is written over the row that was left.  The client reads the
times that it then has as it writes them. -/
inductive Order.Rewritten (format : TimeFormat κ) : Order × Row → Order × Row → Prop
  | move {o o' : Order} {expected : OrderStatus} {st : Statement} {before after : Row}
      (hmoves : Relation.ReflTransGen Moves o o')
      (hst : (Gateway.replaceOrder o' expected).Executes format st)
      (hreturns : ∀ t ∈ o'.timeline.times, format.Returns t) (hafter : st.Leaves format before after) :
      Rewritten format (o, before) (o', after)

theorem Order.Rewritten.isKept {written written' : Order × Row} (h : Rewritten format written written')
    (hkept : written.1.IsKept format written.2 rows) : written'.1.IsKept format written'.2 rows := by
  obtain ⟨hmoves, hst, hreturns, hafter⟩ := h
  obtain ⟨st, hstores⟩ := Sql.replaceOrder_stores hmoves
  obtain rfl := hstores.eq_of_executes hst
  exact hstores.reads hreturns _ _ hafter rows hkept

/-- **However often an order is written, its row keeps it** as it was written last. -/
theorem Order.isKept_of_rewritten {written written' : Order × Row}
    (h : Relation.ReflTransGen (Rewritten format) written written')
    (hkept : written.1.IsKept format written.2 rows) : written'.1.IsKept format written'.2 rows := by
  induction h with
  | refl => exact hkept
  | tail _ hwrite ih => exact hwrite.isKept ih

end Stockroom
