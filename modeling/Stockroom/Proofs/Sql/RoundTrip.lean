import Stockroom.Proofs.Sql.Orders

/-!
# Proofs/Sql/RoundTrip — what is written to a database is read back

A database is expected to leave what is bound under the columns that a statement names, and to give it back
unchanged; how its client writes times is a format, of which nothing is expected but that it returns the times
that are written.  **Then everything that the store writes is read back**: records that are created and that
move, reservations, entries, and orders with their items, however often they move.

A format that does not take a time keeps the whole statement back: the program that would write it is aborted
before anything is sent.
-/

namespace Stockroom

open Rehearsal Sql Gateway

/-- **What is written is read back**, whatever the format of times, wherever it returns the times that are
written. -/
theorem rows_round_trip {κ : Type} (format : TimeFormat κ) :
    (∀ record : StockRecord, record.Fits →
      ∃ st, (createStock record).Stores format st (fun _ => ()) [record.createdAt, record.updatedAt]
        fun _ after => Reading.stock after = .ok record) ∧
    (∀ (m : Movement) (record next : StockRecord) (expectedVersion : Int), record.Fits →
      m.next record = .ok next →
      ∃ st, (replaceStock next expectedVersion).Stores format st (fun change => decide (change.affected = 1))
        [next.updatedAt] fun before after =>
          Reading.stock before = .ok record → Reading.stock after = .ok next) ∧
    (∀ reservation : Reservation, reservation.Fits →
      ∃ st, (insertReservation reservation).Stores format st (fun _ => ())
        [reservation.expiresAt, reservation.createdAt, reservation.updatedAt]
        fun _ after => Reading.reservation after = .ok reservation) ∧
    (∀ e : Entry, e.Fits →
      ∃ st, (appendEntry e).Stores format st (fun _ => ()) [e.createdAt] fun before after =>
        ∀ id, Width.int64.Fits id → before.lookup "id" = some (.int id) →
          Reading.entry after = .ok (e.numbered id)) ∧
    (∀ draft : Draft, draft.IsPrepared →
      ∃ st sts, Access.StoresOrder (insertOrder draft) format draft st sts) ∧
    (∀ (o o' : Order) (expected : OrderStatus), Relation.ReflTransGen Order.Moves o o' →
      ∃ st, (replaceOrder o' expected).Stores format st (fun change => decide (change.affected = 1))
        o'.timeline.times fun before after =>
          ∀ rows, o.IsKept format before rows → o'.IsKept format after rows) ∧
    ∀ (rows : List Row) (written written' : Order × Row),
      Relation.ReflTransGen (Order.Rewritten format) written written' →
      written.1.IsKept format written.2 rows → written'.1.IsKept format written'.2 rows :=
  ⟨fun _ => createStock_stores, fun _ _ _ _ => replaceStock_stores, fun _ => insertReservation_stores,
    fun _ => appendEntry_stores, fun _ h => insertOrder_stores h.isSound, fun _ _ _ => replaceOrder_stores,
    fun _ _ _ => Order.isKept_of_rewritten⟩

/-! ## Tea -/

/-- A whole second. -/
def teaTime : Instant := ⟨1717200000000000000⟩

/-- A second later. -/
def paidTime : Instant := ⟨1717200001000000000⟩

def teaRecord : StockRecord := ⟨⟨1⟩, 5, 0, 1, 0, teaTime, teaTime⟩

/-- Two packets of tea. -/
def teaItem : OrderItem := ⟨⟨1⟩, "tea", none, 2, ⟨300⟩, ⟨600⟩⟩

def teaDraft : Draft :=
  ⟨orderNumber teaTime, ⟨8⟩, [teaItem], ⟨600⟩, ⟨0⟩, ⟨50⟩, ⟨650⟩, ⟨"Ada", "1", "Here", none⟩, none,
    teaTime⟩

theorem teaDraft_isPrepared : teaDraft.IsPrepared := by
  have hprice : Money.of 300 = .ok ⟨300⟩ := rfl
  have hitem : OrderItem.ofProduct ⟨⟨1⟩, "tea", ⟨300⟩, none⟩ 2 = .ok teaItem := rfl
  have hitems : ∀ i ∈ [teaItem], i.IsPriced := fun i hi =>
    List.mem_singleton.mp hi ▸ .ofProduct (by decide) (by decide) hprice (by decide) hitem
  have hreceiver : Receiver.of "Ada" "1" "Here" none = .ok ⟨"Ada", "1", "Here", none⟩ := rfl
  have hdiscount : Money.of 0 = .ok ⟨0⟩ := rfl
  have hshipping : Money.of 50 = .ok ⟨50⟩ := rfl
  have hdraft : Draft.prepare ⟨8⟩ [teaItem] ⟨"Ada", "1", "Here", none⟩ ⟨0⟩ ⟨50⟩ none teaTime =
      .ok teaDraft := rfl
  exact .prepare (by decide) hreceiver (by decide) hdiscount (by decide) hshipping hitems hdraft

/-- The row of the order, when it has the number 1. -/
def teaRow : Row :=
  [("id", .int 1), ("order_no", .text (orderNumber teaTime)), ("user_id", .int 8), ("total_amount", .int 600),
    ("discount_amount", .int 0), ("shipping_fee", .int 50), ("pay_amount", .int 650), ("status", .text "pending"),
    ("receiver_name", .text "Ada"), ("receiver_phone", .text "1"), ("receiver_address", .text "Here"),
    ("receiver_zip_code", .null), ("remark", .null), ("paid_at", .null), ("shipped_at", .null),
    ("completed_at", .null), ("cancelled_at", .null), ("created_at", .time teaTime),
    ("updated_at", .time teaTime)]

def teaItemRow : Row :=
  [("product_id", .int 1), ("product_name", .text "tea"), ("product_image", .null), ("quantity", .int 2),
    ("unit_price", .int 300), ("total_price", .int 600)]

theorem teaRow_keeps : (teaDraft.toOrder ⟨1⟩).IsKept microseconds teaRow [teaItemRow] :=
  Order.isKept_iff.mpr ⟨rfl, rfl⟩

/-- The order, paid. -/
def paidTea : Order := ⟨⟨1⟩, teaDraft, .paid, ⟨some paidTime, none, none, none, paidTime⟩⟩

theorem moves_paidTea : Relation.ReflTransGen Order.Moves (teaDraft.toOrder ⟨1⟩) paidTea :=
  .single ⟨.pay, paidTime, rfl⟩

/-- **Tea is stored**, reserved, ordered and paid, and all of it is read back. -/
theorem rows_round_trip_tea :
    (∃ st, (createStock teaRecord).Executes microseconds st ∧
      ∃ after, st.Leaves microseconds [] after ∧ Reading.stock after = .ok teaRecord) ∧
    (∃ st, (replaceStock ⟨⟨1⟩, 3, 2, 1, 1, teaTime, paidTime⟩ 0).Executes microseconds st ∧
      ∀ before after, st.Leaves microseconds before after → Reading.stock before = .ok teaRecord →
        Reading.stock after = .ok ⟨⟨1⟩, 3, 2, 1, 1, teaTime, paidTime⟩) ∧
    (∃ st, (insertReservation (.start ⟨1⟩ ⟨7⟩ 2 paidTime teaTime)).Executes microseconds st ∧
      ∃ after, st.Leaves microseconds [] after ∧
        Reading.reservation after = .ok (.start ⟨1⟩ ⟨7⟩ 2 paidTime teaTime)) ∧
    (∃ st, (appendEntry (.ofSnapshots ⟨1⟩ .reserve 2 ⟨5, 0⟩ ⟨3, 2⟩ teaTime)).Executes microseconds st ∧
      ∃ after, st.Leaves microseconds [("id", .int 4)] after ∧
        Reading.entry after = .ok ((Entry.ofSnapshots ⟨1⟩ .reserve 2 ⟨5, 0⟩ ⟨3, 2⟩ teaTime).numbered 4)) ∧
    (∃ st sts, Access.StoresOrder (insertOrder teaDraft) microseconds teaDraft st sts) ∧
    (∃ st, (replaceOrder paidTea .pending).Stores microseconds st (fun change => decide (change.affected = 1))
      [paidTime, paidTime] fun before after =>
        ∀ rows, (teaDraft.toOrder ⟨1⟩).IsKept microseconds before rows →
          paidTea.IsKept microseconds after rows) ∧
    ∃ after, Relation.ReflTransGen (Order.Rewritten microseconds) (teaDraft.toOrder ⟨1⟩, teaRow)
      (paidTea, after) ∧ paidTea.IsKept microseconds after [teaItemRow] := by
  obtain ⟨hcreate, hreplace, hreserve, happend, hinsert, hmove, hrun⟩ := rows_round_trip microseconds
  have hrecord : teaRecord.Fits := by constructor <;> decide
  obtain ⟨created, hcreated⟩ := hcreate teaRecord hrecord
  obtain ⟨moved, hmoved⟩ := hreplace (.reserve ⟨1⟩ 2 ⟨7⟩ teaTime paidTime) teaRecord _ 0 hrecord rfl
  obtain ⟨reserved, hreserved⟩ := hreserve (.start ⟨1⟩ ⟨7⟩ 2 paidTime teaTime)
    ⟨by decide, by decide, by decide⟩
  obtain ⟨entry, hentry⟩ := happend (.ofSnapshots ⟨1⟩ .reserve 2 ⟨5, 0⟩ ⟨3, 2⟩ teaTime)
    ⟨by decide, nofun, by decide, by decide, by decide, by decide, by decide, nofun⟩
  obtain ⟨entryRow, hentryRow, hread⟩ := hentry.exists_after (by decide) [("id", .int 4)]
  obtain ⟨paid, hpaid⟩ := hmove _ _ .pending moves_paidTea
  obtain ⟨after, hafter, -⟩ := hpaid.exists_after (by decide) teaRow
  have hwritten : Relation.ReflTransGen (Order.Rewritten microseconds) (teaDraft.toOrder ⟨1⟩, teaRow)
      (paidTea, after) :=
    .single (.move moves_paidTea (hpaid.executes (by decide)) (by decide) hafter)
  refine ⟨⟨created, hcreated.executes (by decide), hcreated.exists_after (by decide) []⟩,
    ⟨moved, hmoved.executes (by decide), hmoved.reads (by decide)⟩,
    ⟨reserved, hreserved.executes (by decide), hreserved.exists_after (by decide) []⟩,
    ⟨entry, hentry.executes (by decide), entryRow, hentryRow, hread 4 (by decide) rfl⟩,
    hinsert teaDraft teaDraft_isPrepared, ⟨paid, hpaid⟩, after, hwritten, ?_⟩
  exact hrun _ _ _ hwritten teaRow_keeps

end Stockroom
