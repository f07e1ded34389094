import Stockroom.Proofs.Crowd.Replay
import Stockroom.Proofs.Ledger.Trail
import Stockroom.Proofs.Store.Overdue
import Stockroom.Proofs.Store.Pages

/-!
# Proofs/Crowd/Listing — what is listed, in which order, on which page

Four things are listed: the live stock, the stock that runs low, the ledger of a product, the orders of a
user.  **Each listing has what it is a listing of exactly once and in its order** (`Tables.Lists`), in every
state that a store can be in: rows stand in the order of their keys, every row is under its own key, and the
entries of the ledger are numbered (`Tables.Shelved`).  Sorting by the first key alone is enough, because it
keeps the order of equals (`pairwise_mergeSort_of_pairwise`).

Together with the cutting of pages: **whoever asks for one page after the other gets the listing**
(`Store.Attained.paged`).
-/

namespace Stockroom

open Store

/-- **A list of everything with a property**, each once and in an order. -/
structure Lists {α : Type} (before : α → α → Prop) (P : α → Prop) (listing : List α) : Prop where
  mem : ∀ a, a ∈ listing ↔ P a
  nodup : listing.Nodup
  sorted : listing.Pairwise before

/-- An order that nothing precedes itself in leaves no place for anything to come twice. -/
theorem Lists.of_irrefl {α : Type} {before : α → α → Prop} {P : α → Prop} {listing : List α}
    (hirrefl : ∀ a, ¬before a a) (hmem : ∀ a, a ∈ listing ↔ P a) (hsorted : listing.Pairwise before) :
    Lists before P listing where
  mem := hmem
  nodup := List.nodup_iff_pairwise_ne.mpr
    (hsorted.imp fun {a b} (hab : before a b) (heq : a = b) => hirrefl b (heq ▸ hab))
  sorted := hsorted

namespace Store

/-! ## Orders of listings -/

/-- By product. -/
def ByProduct (a b : StockRecord) : Prop := a.product.value < b.product.value

/-- By the number of free pieces, and then by product. -/
def ByStock (a b : StockRecord) : Prop :=
  a.available < b.available ∨ a.available = b.available ∧ a.product.value < b.product.value

/-- The entry that was committed later first. -/
def Tables.Newest (t : Tables) (a b : Entry) : Prop :=
  ∃ i j : Nat, t.entries[i]? = some a ∧ t.entries[j]? = some b ∧ j < i

/-- The order that was placed later first, and of orders of one moment the one with the higher number. -/
def ByPlacement (a b : Order) : Prop :=
  b.draft.createdAt < a.draft.createdAt ∨
    b.draft.createdAt = a.draft.createdAt ∧ b.id.value < a.id.value

theorem ByProduct.of_compare {a b : StockRecord} (h : compare a.product b.product = .lt) : ByProduct a b :=
  Int.compare_eq_lt.mp h

/-! ## What every state has -/

/-- Every order stays under its own number, and the entries of the ledger are numbered. -/
structure Tables.Shelved (t : Tables) : Prop where
  orders : ∀ id order, t.orders.get? id = some order → order.id = id
  entries : t.Numbered

/-- **No request ends it.** -/
theorem lasting_shelved : Lasting Tables.Shelved where
  write {w t t'} ht h := by
    have hsame : t.Numbered := ht.entries
    cases w with
    | replaceStock next expected =>
      obtain ⟨live, -, -, rfl⟩ := Write.apply_replaceStock_iff.mp h
      exact ⟨ht.orders, hsame.last, hsame.id⟩
    | increaseStock product quantity now =>
      obtain ⟨live, next, -, -, rfl⟩ := Write.apply_increaseStock_iff.mp h
      exact ⟨ht.orders, hsame.last, hsame.id⟩
    | insertReservation reservation =>
      obtain ⟨-, rfl⟩ := Write.apply_insertReservation_iff.mp h
      exact ⟨ht.orders, hsame.last, hsame.id⟩
    | moveReservation product order expected next now =>
      obtain ⟨r, -, -, -, rfl⟩ := Write.apply_moveReservation_iff.mp h
      exact ⟨ht.orders, hsame.last, hsame.id⟩
    | appendEntry entry =>
      obtain rfl := Write.apply_appendEntry_iff.mp h
      exact ⟨ht.orders, hsame.append entry t.stock t.reservations⟩
    | insertOrder order =>
      obtain rfl := Write.apply_insertOrder_iff.mp h
      exact ⟨Table.forall_insert ht.orders rfl, hsame.last, hsame.id⟩
    | replaceOrder order expected =>
      obtain ⟨o, -, -, rfl⟩ := Write.apply_replaceOrder_iff.mp h
      exact ⟨Table.forall_insert ht.orders rfl, hsame.last, hsame.id⟩
  refresh {t c} row ht hc := by
    have hsame : t.Numbered := ht.entries
    cases row with
    | order id =>
      cases h : c.orders.get? id with
      | none => exact Tables.refresh_order_of_none h ▸ ht
      | some order =>
        rw [Tables.refresh_order_of_some h]
        exact ⟨Table.forall_insert ht.orders (hc.orders id order h), hsame.last, hsame.id⟩
    | _ => exact ⟨ht.orders, hsame.last, hsame.id⟩
  enter ht _ := ⟨ht.orders, ht.entries.last, ht.entries.id⟩
  tune ht _ _ := ⟨ht.orders, ht.entries.last, ht.entries.id⟩
  remove ht _ := ⟨ht.orders, ht.entries.last, ht.entries.id⟩

theorem Attained.shelved {s : Store} (h : s.Attained) : s.committed.Shelved :=
  h.lasts lasting_shelved ⟨fun _ _ h => (nomatch h), ⟨rfl, fun _ _ h => (nomatch h)⟩⟩
    fun _ _ ht => ⟨ht.orders, ht.entries.last, ht.entries.id⟩

/-! ## The listings -/

namespace Tables

variable {t : Tables}

theorem mem_liveRecords (hfiled : t.Filed) (record : StockRecord) :
    record ∈ t.liveRecords ↔ t.liveStock? record.product = some record := by
  simp only [liveRecords, List.mem_filterMap, Table.mem_values]
  constructor
  · rintro ⟨row, ⟨key, hrow⟩, hlive⟩
    have hfound : t.liveStock? key = some record := by rw [liveStock?, hrow]; exact hlive
    rwa [hfiled.product_of_live hfound]
  · intro hfound
    obtain ⟨row, hrow, hlive⟩ := Option.bind_eq_some_iff.mp hfound
    exact ⟨row, ⟨_, hrow⟩, hlive⟩

/-- **The live stock, by product.** -/
theorem lists_liveRecords (hfiled : t.Filed) :
    Lists ByProduct (fun record => t.liveStock? record.product = some record) t.liveRecords := by
  refine .of_irrefl (fun _ => Int.lt_irrefl _) (mem_liveRecords hfiled) ?_
  rw [liveRecords, List.pairwise_filterMap]
  refine (Table.pairwise_values hfiled.stock).imp fun {a b} hlt record hrecord record' hrecord' => ?_
  have hlive {row : StockRow} {record : StockRecord} (h : row.live? = some record) :
      row.record = record := by
    rw [StockRow.live?] at h
    split at h
    · exact Option.some.inj h
    · cases h
  exact .of_compare (hlive hrecord ▸ hlive hrecord' ▸ hlt)

/-- **The stock that runs low, by the free pieces and then by product.** -/
theorem lists_lowRecords (hfiled : t.Filed) :
    Lists ByStock (fun record => t.liveStock? record.product = some record ∧
      record.available ≤ record.threshold) t.lowRecords := by
  refine .of_irrefl (fun a => by simp [ByStock]) (fun record => ?_) ?_
  · rw [lowRecords, List.mem_mergeSort, List.mem_filter, mem_liveRecords hfiled, StockRecord.isLow,
      decide_eq_true_iff]
  · refine (pairwise_mergeSort_of_pairwise (fun a b c hab hbc => ?_) (fun a b => ?_)
      ((lists_liveRecords hfiled).sorted.filter _)).imp fun {a b} ⟨hle, hequal⟩ => ?_
    · simp only [decide_eq_true_iff] at *
      exact Int.le_trans hab hbc
    · simpa using Int.le_total a.available b.available
    · rcases Int.lt_or_eq_of_le (of_decide_eq_true hle) with hlt | heq
      · exact .inl hlt
      · exact .inr ⟨heq, hequal (decide_eq_true (Int.le_of_eq heq.symm))⟩

/-- **The ledger of a product, from the last commit on.** -/
theorem lists_entriesOf (hshelved : t.Shelved) (product : ProductId) :
    Lists t.Newest (fun entry => entry ∈ t.entries ∧ entry.product = product) (t.entriesOf product) where
  mem entry := by simp [entriesOf]
  nodup := by
    refine List.Nodup.filter _ (List.nodup_reverse.mpr (List.pairwise_iff_getElem.mpr ?_))
    intro i j hi hj hlt heq
    have hnumber := hshelved.entries.id i _ (List.getElem?_eq_getElem hi)
    rw [heq, hshelved.entries.id j _ (List.getElem?_eq_getElem hj)] at hnumber
    injection hnumber with hnumber
    omega
  sorted := by
    refine List.Pairwise.filter _ (List.pairwise_reverse.mpr (List.pairwise_iff_getElem.mpr ?_))
    intro i j hi hj hlt
    exact ⟨j, i, List.getElem?_eq_getElem hj, List.getElem?_eq_getElem hi, hlt⟩

/-- **The orders of a user, from the last one on.** -/
theorem lists_ordersOf (hshelved : t.Shelved) (user : UserId) :
    Lists ByPlacement (fun order => t.order? order.id = some order ∧ order.user = user)
      (t.ordersOf user) := by
  refine .of_irrefl (fun a => ?_) (fun order => ?_) ?_
  · rintro (h | ⟨-, h⟩)
    · exact Int.lt_irrefl _ h
    · exact Int.lt_irrefl _ h
  · rw [ordersOf, List.mem_mergeSort, List.mem_reverse, List.mem_filter, Table.mem_values,
      Order.isOwnedBy, decide_eq_true_iff]
    refine and_congr_left fun _ => ⟨fun ⟨id, horder⟩ => ?_, fun horder => ⟨_, horder⟩⟩
    rwa [hshelved.orders id order horder]
  · have hreverse : ((t.orders.values.filter (·.isOwnedBy user)).reverse).Pairwise fun a b =>
        b.id.value < a.id.value :=
      List.pairwise_reverse.mpr (((Table.pairwise_values hshelved.orders).filter _).imp
        Int.compare_eq_lt.mp)
    refine (pairwise_mergeSort_of_pairwise (fun a b c hab hbc => ?_) (fun a b => ?_) hreverse).imp
      fun {a b} ⟨hle, hequal⟩ => ?_
    · exact decide_eq_true (Int.le_trans (of_decide_eq_true hbc) (of_decide_eq_true hab))
    · rw [Bool.or_eq_true, decide_eq_true_iff, decide_eq_true_iff]
      exact Int.le_total _ _
    · rcases Int.lt_or_eq_of_le (of_decide_eq_true hle) with hlt | heq
      · exact .inl hlt
      · exact .inr ⟨congrArg Instant.mk heq, hequal (decide_eq_true (Int.le_of_eq heq.symm))⟩

end Tables

end Store

/-! ## Page after page -/

/-- **A listing that is given out in pages.**  Whoever asks for its pages of a size, one after the other,
gets everything with a property, each once and in an order; asking changes nothing. -/
def Call.Pages {α : Type} (s : Store) (size : Option Nat) (ask : PageRequest → Call (Page α))
    (before : α → α → Prop) (P : α → Prop) : Prop :=
  ∃ (pageAt : Nat → Page α) (count : Nat) (listing : List α),
    (∀ number, 0 < number → ∀ d : Desk, ∃ d' : Desk,
      (ask (.of (some number) size)).run.alone d s = some (.ok (pageAt number), d', s)) ∧
    Page.CutsUp pageAt (PageRequest.clamped size) count listing ∧ Lists before P listing

/-- A request that only reads, however far the unit of work of the caller is. -/
theorem Call.alone_reading {s : Store} {r : StoreRequest} {result : r.Result}
    (h : ∀ unit, Session.answer ⟨s, unit⟩ r = (.ok result, ⟨s, unit⟩)) (d : Desk) :
    ∃ d' : Desk, (demand r).run.alone d s = some (.ok result, d', s) :=
  ⟨_, Yields.alone_demand (h d.unit)⟩

/-- A request that cuts its page out of a listing. -/
theorem Call.pages_of_cut {α : Type} {s : Store} {ask : PageRequest → Call (Page α)}
    {before : α → α → Prop} {P : α → Prop} {listing : List α} (hlists : Lists before P listing)
    (hask : ∀ page (d : Desk), ∃ d' : Desk,
      (ask page).run.alone d s = some (.ok (Page.cut listing page), d', s)) (size : Option Nat) :
    Call.Pages s size ask before P :=
  ⟨_, _, listing, fun number _ => hask (.of (some number) size), Page.cutsUp_cut listing size, hlists⟩

/-- **Page after page, each listing is given out as a whole**: the live stock by product, the stock that runs
low by the free pieces and then by product, the ledger of a product from the last commit on, and the orders
of a user from the last one on. -/
theorem Store.Attained.paged {s : Store} (h : s.Attained) (size : Option Nat) :
    Call.Pages s size StockService.listStock ByProduct
        (fun record => s.committed.liveStock? record.product = some record) ∧
      Call.Pages s size StockService.listLowStock ByStock
        (fun record => s.committed.liveStock? record.product = some record ∧
          record.available ≤ record.threshold) ∧
      (∀ product, Call.Pages s size (StockService.entriesOf product) s.committed.Newest
        (fun entry => entry ∈ s.committed.entries ∧ entry.product = product)) ∧
      ∀ user, Call.Pages s size (OrderService.ordersOf user) ByPlacement
        (fun order => s.committed.order? order.id = some order ∧ order.user = user) := by
  refine ⟨?_, ?_, fun product => ?_, fun user => ?_⟩
  · exact Call.pages_of_cut (Tables.lists_liveRecords h.filed)
      (fun page => Call.alone_reading (r := .listStock page) fun _ => rfl) size
  · exact Call.pages_of_cut (Tables.lists_lowRecords h.filed)
      (fun page => Call.alone_reading (r := .listLowStock page) fun _ => rfl) size
  · exact Call.pages_of_cut (Tables.lists_entriesOf h.shelved product)
      (fun page => Call.alone_reading (r := .entriesOf product page) fun _ => rfl) size
  · exact Call.pages_of_cut (Tables.lists_ordersOf h.shelved user)
      (fun page => Call.alone_reading (r := .ordersOf user page) fun _ => rfl) size

/-- A store that three products were entered into, the highest number first. -/
def crateRow : Store :=
  [3, 2, 1].foldl (fun s product => ((Desk.fresh (.unused (fun _ => ⟨0⟩) fun _ => ⟨0⟩)).answer s
    (.store (.createStock { crateRecord with product := ⟨product⟩ }))).2.2) .empty

/-- On pages of two, the third product stands alone on the second page, which is the last. -/
theorem paged_crateRow : crateRow.Attained ∧
    ∃ (pageAt : Nat → Page StockRecord) (listing : List StockRecord),
      Page.CutsUp pageAt 2 2 listing ∧ (pageAt 2).items = [{ crateRecord with product := ⟨3⟩ }] ∧
        Lists ByProduct (fun record => crateRow.committed.liveStock? record.product = some record)
          listing := by
  have hattained : crateRow.Attained := .answered (.answered (.answered .empty _ _) _ _) _ _
  obtain ⟨⟨pageAt, count, listing, hask, hcut, hlists⟩, -⟩ := hattained.paged (some 2)
  let d : Desk := .fresh (.unused (fun _ => ⟨0⟩) fun _ => ⟨0⟩)
  obtain ⟨d', hpage⟩ := hask 2 (by decide) d
  have hrun : (StockService.listStock (.of (some 2) (some 2))).run.alone d crateRow = _ :=
    Call.Yields.alone_demand (r := .listStock _) rfl
  have hsecond : pageAt 2 = Page.cut crateRow.committed.liveRecords (.of (some 2) (some 2)) := by
    rw [hrun] at hpage
    injection hpage with hpage
    injection hpage with hpage
    injection hpage with hpage
    exact hpage.symm
  have hcount : count = 2 := by
    rw [← hcut.pages 2 (by decide), hsecond]
    decide
  subst hcount
  exact ⟨hattained, pageAt, listing, hcut, by rw [hsecond]; decide, hlists⟩

end Stockroom
