import Mathlib.Data.List.Basic
import Mathlib.Data.List.Forall2
import Stockroom.Proofs.Sql.Cells
import Stockroom.Proofs.Sql.Perform

/-!
# Proofs/Sql/Found — when an order is found among rows

`Order.IsKept` is that a program that looks for an order finds it, when a database replies with one row of an
order and with the rows of items, whatever the format of the times that its client writes.  **An order is kept exactly if its items are read from theirs and the order
from its own** (`Order.isKept_iff`).

A result has the columns of its first row.  That takes nothing away from rows that all have the columns which
an item is read from (`Row.IsItem`).
-/

namespace Stockroom

open Rehearsal Sql Access

variable {κ : Type} {format : TimeFormat κ} {row row' : Row} {rows : List Row} {i : OrderItem} {items : List OrderItem} {o : Order}

namespace Sql

/-! ## The columns of a result -/

namespace Row

/-- A cell in a row that got the columns of another. -/
theorem lookup_aligned {columns : List String} {name : String} (h : name ∈ row.map Prod.fst)
    (hcolumns : name ∈ columns) :
    (columns.map fun column => (column, (row.lookup column).getD .null)).lookup name = row.lookup name := by
  obtain ⟨value, hvalue⟩ := Option.isSome_iff_exists.mp (mem_columns_iff.mp h)
  exact (List.lookup_graph _ hcolumns).trans (by rw [hvalue]; rfl)

end Row

/-- **A result of one row** says what the row says. -/
theorem aligned_singleton (row : Row) :
    ∃ row', Server.aligned [row] = [row'] ∧ ∀ name, row'.lookup name = row.lookup name := by
  refine ⟨_, rfl, fun name => ?_⟩
  by_cases h : name ∈ row.map Prod.fst
  · exact Row.lookup_aligned h h
  · have hnone : ∀ {row : Row}, name ∉ row.map Prod.fst → row.lookup name = none := fun h => by
      rwa [Row.mem_columns_iff, Option.not_isSome_iff_eq_none] at h
    exact (hnone (by simpa using h)).trans (hnone h).symm

/-! ## Items -/

theorem Reading.item_congr (h : ∀ name ∈ itemColumns, row'.lookup name = row.lookup name) :
    item row' = item row := by
  have hcolumns : row'.lookup "product_id" = row.lookup "product_id" ∧
      row'.lookup "product_name" = row.lookup "product_name" ∧
      row'.lookup "product_image" = row.lookup "product_image" ∧
      row'.lookup "quantity" = row.lookup "quantity" ∧
      row'.lookup "unit_price" = row.lookup "unit_price" ∧
      row'.lookup "total_price" = row.lookup "total_price" := by
    simpa [itemColumns] using h
  obtain ⟨hproduct, hname, himage, hquantity, hunit, htotal⟩ := hcolumns
  rw [item, item, local_id hproduct, local_text hname, local_text? himage, int32, local_int _ hquantity,
    local_money hunit, local_money htotal]

/-- **The row of an item**: the item is read from it, and it has the columns for that. -/
structure Row.IsItem (row : Row) (i : OrderItem) : Prop where
  reads : Reading.item row = .ok i
  columns : ∀ name ∈ Reading.itemColumns, name ∈ row.map Prod.fst

/-- **Items are read from the result that their rows make.** -/
theorem mapM_item_aligned (h : List.Forall₂ Row.IsItem rows items) :
    (Server.aligned rows).mapM Reading.item = .ok items := by
  rw [mapM_eq_ok_iff, Server.aligned, List.forall₂_map_left_iff]
  cases h with
  | nil => exact .nil
  | cons hitem hitems =>
    refine (List.Forall₂.cons hitem hitems).imp fun row i hrow => ?_
    refine (Reading.item_congr fun name hname => ?_).trans hrow.reads
    exact Row.lookup_aligned (hrow.columns name hname) (hitem.columns name hname)

/-! ## Orders -/

namespace Reading

/-- The columns that change when an order moves. -/
def progressColumns : List String :=
  ["status", "paid_at", "shipped_at", "completed_at", "cancelled_at", "updated_at"]

theorem ReadsDraft.congr {draft : Draft} (hd : ReadsDraft row draft)
    (h : ∀ name ∉ progressColumns, row'.lookup name = row.lookup name) : ReadsDraft row' draft where
  receiver := by
    rw [Reading.receiver, local_text (h "receiver_name" (by decide)),
      local_text (h "receiver_phone" (by decide)), local_text (h "receiver_address" (by decide)),
      local_text? (h "receiver_zip_code" (by decide))]
    exact hd.receiver
  createdAt := (local_time (h _ (by decide))).trans hd.createdAt
  orderNo := (local_text (h _ (by decide))).trans hd.orderNo
  user := (local_id (h _ (by decide))).trans hd.user
  total := (local_money (h _ (by decide))).trans hd.total
  discount := (local_money (h _ (by decide))).trans hd.discount
  shipping := (local_money (h _ (by decide))).trans hd.shipping
  pay := (local_money (h _ (by decide))).trans hd.pay
  remark := (local_text? (h _ (by decide))).trans hd.remark

theorem ReadsProgress.congr {status : OrderStatus} {timeline : Timeline}
    (hp : ReadsProgress row status timeline) (h : ∀ name, row'.lookup name = row.lookup name) :
    ReadsProgress row' status timeline where
  status := hp.status.imp fun _ hs => ⟨(local_text (h _)).trans hs.1, hs.2⟩
  paidAt := (local_time? (h _)).trans hp.paidAt
  shippedAt := (local_time? (h _)).trans hp.shippedAt
  completedAt := (local_time? (h _)).trans hp.completedAt
  cancelledAt := (local_time? (h _)).trans hp.cancelledAt
  updatedAt := (local_time (h _)).trans hp.updatedAt

theorem order_eq_ok_of_lookup (ho : order items row = .ok o)
    (h : ∀ name, row'.lookup name = row.lookup name) : order items row' = .ok o := by
  obtain ⟨hitems, hid, hdraft, hprogress⟩ := order_eq_ok_iff.mp ho
  exact order_eq_ok_iff.mpr ⟨hitems, (local_id (h _)).trans hid, hdraft.congr fun name _ => h name,
    hprogress.congr h⟩

theorem order_congr (h : ∀ name, row'.lookup name = row.lookup name) :
    order items row' = .ok o ↔ order items row = .ok o :=
  ⟨fun ho => order_eq_ok_of_lookup ho fun name => (h name).symm, fun ho => order_eq_ok_of_lookup ho h⟩

theorem orderId_of_id {id : OrderId} (h : Reading.id "id" row = .ok id) : orderId row = .ok id := by
  rw [Reading.id, int64, column] at h
  rw [orderId]
  cases hint : Row.int .int64 row "id" with
  | ok n =>
    rw [hint] at h
    exact congrArg Except.ok (Except.ok.inj h)
  | error e =>
    rw [hint] at h
    cases h

end Reading

namespace Gateway

variable {s s' : Server} {rest : List Reply}

theorem itemsOf_performs_iff (order : OrderId) (hreplies : s.replies = .rows rows :: rest) :
    (∃ s', (itemsOf order).Performs format s items s') ↔
      (Server.aligned rows).mapM Reading.item = .ok items := by
  have hiff : ∀ s', (itemsOf order).Performs format s items s' ↔ _ := fun s' =>
    (Performs.bind_iff_of (.rows (by rfl) hreplies)).trans Performs.understand_iff
  exact ⟨fun ⟨_, h⟩ => ((hiff _).mp h).1, fun h => ⟨_, (hiff _).mpr ⟨h, rfl⟩⟩⟩

/-- **An order is made up** of its row and of the result that the rows of its items make. -/
theorem withItems_performs_iff (hreplies : s.replies = .rows rows :: rest) :
    (∃ s', (withItems row).Performs format s o s') ↔
      Reading.order o.items row = .ok o ∧ (Server.aligned rows).mapM Reading.item = .ok o.items := by
  simp only [withItems, Performs.bind_iff, Performs.understand_iff]
  constructor
  · rintro ⟨s', id, _, ⟨-, rfl⟩, items, s₁, hitems, ho, -⟩
    obtain rfl := (Reading.order_eq_ok_iff.mp ho).1
    exact ⟨ho, (itemsOf_performs_iff id hreplies).mp ⟨s₁, hitems⟩⟩
  · rintro ⟨ho, hitems⟩
    have hid := Reading.orderId_of_id (Reading.order_eq_ok_iff.mp ho).2.1
    obtain ⟨s₁, hs₁⟩ := (itemsOf_performs_iff o.id hreplies).mpr hitems
    exact ⟨s₁, o.id, s, ⟨hid, rfl⟩, o.items, s₁, hs₁, ho, rfl⟩

theorem findOrder_performs_iff (order : OrderId) (hreplies : s.replies = .rows [row] :: .rows rows :: rest) :
    (∃ s', (findOrder order).Performs format s (some o) s') ↔
      Reading.order o.items row = .ok o ∧ (Server.aligned rows).mapM Reading.item = .ok o.items := by
  obtain ⟨row', hrow', hlookup⟩ := aligned_singleton row
  obtain ⟨executed, hiff⟩ : ∃ executed, ∀ s', (findOrder order).Performs format s (some o) s' ↔
      (do return some (← withItems row') : Access (Option Order)).Performs format
        (s.sent executed (.rows rows :: rest)) (some o) s' :=
    ⟨_, fun s' => (Performs.bind_iff_of (.rows (by rfl) hreplies)).trans (by rw [hrow']; rfl)⟩
  rw [← Reading.order_congr hlookup, ← withItems_performs_iff (s := s.sent executed (.rows rows :: rest)) rfl]
  simp only [hiff, Performs.bind_iff, Performs.pure_iff, Option.some.injEq]
  constructor
  · rintro ⟨_, _, s₁, h, rfl, -⟩
    exact ⟨s₁, h⟩
  · rintro ⟨s₁, h⟩
    exact ⟨s₁, o, s₁, h, rfl, rfl⟩

end Gateway

end Sql

/-- **An order that a database keeps** in one row, and its items in others: a program that looks for it finds
it. -/
def Order.IsKept (o : Order) (format : TimeFormat κ) (row : Row) (rows : List Row) : Prop :=
  ∀ (s : Server) (rest : List Reply), s.replies = .rows [row] :: .rows rows :: rest →
    ∃ s', (Gateway.findOrder o.id).Performs format s (some o) s'

/-- **What it takes to keep an order.** -/
theorem Order.isKept_iff : o.IsKept format row rows ↔
    Reading.order o.items row = .ok o ∧ (Server.aligned rows).mapM Reading.item = .ok o.items := by
  refine ⟨fun h => ?_, fun h _ _ hreplies => (Gateway.findOrder_performs_iff o.id hreplies).mpr h⟩
  let s : Server := ⟨[.rows [row], .rows rows], [], false, ⟨0⟩, 0⟩
  exact (Gateway.findOrder_performs_iff o.id rfl).mp (h s [] rfl)

end Stockroom
