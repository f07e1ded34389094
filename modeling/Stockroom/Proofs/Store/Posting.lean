import Stockroom.Proofs.Ledger.Edit

/-!
# Proofs/Store/Posting — what a movement of stock leaves alone

A movement of stock for an order writes the record of its product, one reservation and one entry
(`Tables.post`).  **Movements of different products for one order leave everything else alone**
(`Tables.Untouched`), and none of them touches what another one looks at.
-/

namespace Stockroom.Store.Tables

variable {t t' : Tables} {id : OrderId} {product other : ProductId} {moved : List ProductId}
  {next : StockRecord} {r : Reservation} {entry : Entry}

/-- The tables after the record of a product, a reservation and an entry were written. -/
def post (t : Tables) (product : ProductId) (next : StockRecord) (r : Reservation) (entry : Entry) : Tables :=
  ((t.putLive product next).putReservation r).append entry

theorem stock_post (other : ProductId) : (t.post product next r entry).stock.get? other =
    if other = product then some ⟨next, none⟩ else t.stock.get? other := Table.get?_insert ..

theorem reservations_post (key : ReservationKey) : (t.post product next r entry).reservations.get? key =
    if key = r.key then some r else t.reservations.get? key := Table.get?_insert ..

theorem entries_post : (t.post product next r entry).entries =
    t.entries ++ [entry.numbered (t.lastEntryId + 1)] := rfl

theorem liveStock?_post_self : (t.post product next r entry).liveStock? product = some next := by
  rw [liveStock?, stock_post, if_pos rfl]
  rfl

/-- The record of another product is not touched. -/
theorem liveStock?_post_of_ne (h : other ≠ product) :
    (t.post product next r entry).liveStock? other = t.liveStock? other := by
  rw [liveStock?, stock_post, if_neg h, liveStock?]

/-- The reservation of another product is not touched. -/
theorem reservation?_post_of_ne (hkey : r.key = ⟨product, id⟩) (h : other ≠ product) :
    (t.post product next r entry).reservation? other id = t.reservation? other id := by
  rw [reservation?, reservations_post, if_neg, reservation?]
  rw [hkey]
  exact fun heq => h (congrArg ReservationKey.product heq)

/-- **Whether nothing was touched but the records of these products and their reservations for one order**,
and each product has one more entry. -/
structure Untouched (id : OrderId) (moved : List ProductId) (t t' : Tables) : Prop where
  stock : ∀ product, product ∉ moved → t'.stock.get? product = t.stock.get? product
  reservations : ∀ key, (key.order = id → key.product ∉ moved) →
    t'.reservations.get? key = t.reservations.get? key
  earlier : t.entries <+: t'.entries
  entries : t'.entries.length = t.entries.length + moved.length
  lastEntryId : t'.lastEntryId = t.lastEntryId + moved.length
  orders : t'.orders = t.orders
  products : t'.products = t.products

theorem Untouched.nil (id : OrderId) (t : Tables) : Untouched id [] t t where
  stock _ _ := rfl
  reservations _ _ := rfl
  earlier := List.prefix_rfl
  entries := rfl
  lastEntryId := (Int.add_zero _).symm
  orders := rfl
  products := rfl

/-- **One more movement, before the others.** -/
theorem Untouched.cons (h : Untouched id moved (t.post product next r entry) t')
    (hkey : r.key = ⟨product, id⟩) : Untouched id (product :: moved) t t' := by
  have hlast : (t.post product next r entry).lastEntryId = t.lastEntryId + 1 := rfl
  refine ⟨fun other hother => ?_, fun key hnew => ?_, (List.prefix_append ..).trans h.earlier, ?_, ?_,
    h.orders, h.products⟩
  · rw [List.mem_cons, not_or] at hother
    rw [h.stock other hother.2, stock_post, if_neg hother.1]
  · have hne : key.order = id → key.product ≠ product ∧ key.product ∉ moved :=
      fun horder => by simpa using hnew horder
    rw [h.reservations key fun horder => (hne horder).2, reservations_post, hkey, if_neg]
    rintro rfl
    exact (hne rfl).1 rfl
  · rw [h.entries, entries_post, List.length_append, List.length_singleton, List.length_cons]
    omega
  · rw [h.lastEntryId, hlast, List.length_cons]
    omega

/-- The first movement has its entry behind the earlier ones. -/
theorem Untouched.first (h : Untouched id moved (t.post product next r entry) t') :
    t'.entries[t.entries.length + 0]? = some (entry.numbered (t.lastEntryId + 1)) := by
  obtain ⟨more, hmore⟩ := h.earlier
  rw [← hmore, entries_post, List.getElem?_append_left (by simp), Nat.add_zero, List.getElem?_concat_length]

end Stockroom.Store.Tables
