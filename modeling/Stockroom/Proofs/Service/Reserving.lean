import Stockroom.Proofs.Service.Alone
import Stockroom.Proofs.Service.Race
import Stockroom.Proofs.Store.Posting

/-!
# Proofs/Service/Reserving — items that are reserved one after the other

The items of an order are reserved in the unit of work that writes it.  `Tables.Reserves` is what that makes
of the tables: each item has its pieces held, a reservation and an entry, and nothing else is different.

**With nobody else around, covered items of different products are reserved unless one of them already is**
(`OrderService.reserveItems_yields`, `OrderService.reserveItems_fails`): what was reserved for one item does
not touch the record of the next.
-/

namespace Stockroom

open Store Call

variable {s : Store} {t t' t'' : Tables} {tape : Tape} {ttl : Span} {id : OrderId} {item : OrderItem}
  {items : List OrderItem} {record : StockRecord} {product : ProductId} {times : Nat → Instant}
  {now expiresAt : Instant}

/-- The readings that are left once the clock has been read. -/
theorem Tape.times_read (tape : Tape) : (fun i => tape.read.clock (tape.read.readings + i)) =
    fun i => tape.clock (tape.readings + (i + 1)) :=
  funext fun i => congrArg tape.clock (Nat.add_right_comm tape.readings 1 i)

/-! ## What is reserved -/

/-- **The record after pieces were held**: it is one version later. -/
def StockRecord.hold (record : StockRecord) (quantity : Int) (now : Instant) : StockRecord :=
  { record with
    available := record.available - quantity
    reserved := record.reserved + quantity
    version := record.version + 1
    updatedAt := now }

/-- **A covered quantity can be held.** -/
theorem StockRecord.reserve_eq_hold {quantity : Int} (hbounds : record.InBounds)
    (hroom : Width.int64.Fits (record.version + 1)) (hpositive : 0 < quantity)
    (hcovered : quantity ≤ record.available) (now : Instant) :
    record.reserve quantity now = .ok (record.hold quantity now) := by
  rw [reserve_of_covered hbounds hpositive hcovered, next, hold, Width.wrap_eq hroom]

namespace Store.Tables

/-- The tables after one item was reserved. -/
def book (t : Tables) (id : OrderId) (item : OrderItem) (record : StockRecord) (expiresAt now : Instant) :
    Tables :=
  ((t.putLive item.product (record.hold item.quantity now)).putReservation
    (.start item.product id item.quantity expiresAt now)).append
      ((Movement.reserve item.product item.quantity id expiresAt now).entry record.snapshot
        (record.hold item.quantity now).snapshot)

/-- **What it makes of the tables that items were reserved for an order**, one after the other, each at its
time: the record of an item has given its pieces up, there is a new reservation of them, and an entry with the
counts before and after.  Nothing else is different. -/
structure Reserves (ttl : Span) (id : OrderId) (times : Nat → Instant) (items : List OrderItem)
    (t t' : Tables) : Prop where
  each : ∀ i item, items[i]? = some item → ∃ record expiresAt,
    t.liveStock? item.product = some record ∧
    t'.liveStock? item.product = some (record.hold item.quantity (times i)) ∧
    (times i).after? ttl = some expiresAt ∧
    t.reservation? item.product id = none ∧
    t'.reservation? item.product id =
      some (.start item.product id item.quantity expiresAt (times i)) ∧
    t'.entries[t.entries.length + i]? =
      some (((Movement.reserve item.product item.quantity id expiresAt (times i)).entry record.snapshot
        (record.hold item.quantity (times i)).snapshot).numbered (t.lastEntryId + (i + 1)))
  stock : ∀ product, product ∉ items.map OrderItem.product → t'.stock.get? product = t.stock.get? product
  reservations : ∀ key, (key.order = id → key.product ∉ items.map OrderItem.product) →
    t'.reservations.get? key = t.reservations.get? key
  earlier : t.entries <+: t'.entries
  entries : t'.entries.length = t.entries.length + items.length
  lastEntryId : t'.lastEntryId = t.lastEntryId + items.length
  orders : t'.orders = t.orders
  products : t'.products = t.products

theorem Reserves.nil (t : Tables) : Reserves ttl id times [] t t where
  each i item h := by cases h
  stock _ _ := rfl
  reservations _ _ := rfl
  earlier := List.prefix_rfl
  entries := rfl
  lastEntryId := (Int.add_zero _).symm
  orders := rfl
  products := rfl

theorem Reserves.untouched (h : Reserves ttl id times items t t') :
    t.Untouched id (items.map OrderItem.product) t' where
  stock := h.stock
  reservations := h.reservations
  earlier := h.earlier
  entries := by rw [h.entries, List.length_map]
  lastEntryId := by rw [h.lastEntryId, List.length_map]
  orders := h.orders
  products := h.products

/-- An item that is reserved is a movement of its product. -/
theorem book_eq_post : t.book id item record expiresAt now =
    t.post item.product (record.hold item.quantity now) (.start item.product id item.quantity expiresAt now)
      ((Movement.reserve item.product item.quantity id expiresAt now).entry record.snapshot
        (record.hold item.quantity now).snapshot) := rfl

/-- An item of another product does not touch a record. -/
theorem liveStock?_book_of_ne (h : product ≠ item.product) :
    (t.book id item record expiresAt now).liveStock? product = t.liveStock? product :=
  liveStock?_post_of_ne h

theorem reservation?_book_of_ne (h : product ≠ item.product) :
    (t.book id item record expiresAt now).reservation? product id = t.reservation? product id :=
  reservation?_post_of_ne rfl h

/-- **One more item, before the others.** -/
theorem Reserves.cons
    (h : Reserves ttl id (fun i => times (i + 1)) items (t.book id item record expiresAt (times 0)) t'')
    (hother : item.product ∉ items.map OrderItem.product) (hlive : t.liveStock? item.product = some record)
    (hexpires : (times 0).after? ttl = some expiresAt) (hfree : t.reservation? item.product id = none) :
    Reserves ttl id times (item :: items) t t'' := by
  have hrest := h.untouched
  have huntouched : t.Untouched id ((item :: items).map OrderItem.product) t'' := hrest.cons rfl
  have hcount : (t.book id item record expiresAt (times 0)).entries.length = t.entries.length + 1 := by
    rw [book_eq_post, entries_post, List.length_append, List.length_singleton]
  have hlast : (t.book id item record expiresAt (times 0)).lastEntryId = t.lastEntryId + 1 := rfl
  refine ⟨fun i other hi => ?_, huntouched.stock, huntouched.reservations, huntouched.earlier,
    by rw [huntouched.entries, List.length_map], by rw [huntouched.lastEntryId, List.length_map],
    huntouched.orders, huntouched.products⟩
  cases i with
  | zero =>
    cases hi
    refine ⟨record, expiresAt, hlive, ?_, hexpires, hfree, ?_, hrest.first⟩
    · rw [liveStock?, h.stock _ hother]
      exact liveStock?_post_self
    · rw [reservation?, h.reservations _ fun _ => hother]
      exact (reservations_post _).trans (if_pos rfl)
  | succ i =>
    obtain ⟨record', expiresAt', hlater⟩ := h.each i other hi
    have hne : other.product ≠ item.product := fun heq =>
      hother (heq ▸ List.mem_map_of_mem (List.mem_of_getElem? hi))
    rw [liveStock?_book_of_ne hne, reservation?_book_of_ne hne, hcount, hlast, Nat.add_right_comm,
      Int.add_assoc, Int.add_comm 1] at hlater
    exact ⟨record', expiresAt', hlater⟩

/-- **An item that can be reserved**, if it is not already: there are enough pieces, and there is a next
version. -/
structure Bookable (t : Tables) (item : OrderItem) (record : StockRecord) : Prop where
  offered : t.Offers item.product record
  room : Width.int64.Fits (record.version + 1)
  positive : 0 < item.quantity
  covered : item.quantity ≤ record.available

/-- An item of another product takes nothing away. -/
theorem Bookable.book {other : OrderItem} {record' : StockRecord} (h : t.Bookable other record')
    (hne : other.product ≠ item.product) :
    (t.book id item record expiresAt now).Bookable other record' where
  offered := ⟨(liveStock?_book_of_ne hne).trans h.offered.live, h.offered.product, h.offered.bounds⟩
  room := h.room
  positive := h.positive
  covered := h.covered

theorem Bookable.reserve_eq (h : t.Bookable item record) (now : Instant) :
    record.reserve item.quantity now = .ok (record.hold item.quantity now) :=
  StockRecord.reserve_eq_hold h.offered.bounds h.room h.positive h.covered now

theorem Bookable.replaceStock_eq (h : t.Bookable item record) (now : Instant) :
    (Write.replaceStock (record.hold item.quantity now) record.version).apply t =
      .ok (t.putLive item.product (record.hold item.quantity now)) := by
  have hproduct : (record.hold item.quantity now).product = item.product := h.offered.product
  exact Write.apply_replaceStock_iff.mpr ⟨record, hproduct ▸ h.offered.live, rfl, by rw [hproduct]⟩

/-- **A bookable item that is not reserved yet** can be. -/
theorem Bookable.runs (h : t.Bookable item record) (hfree : t.reservation? item.product id = none)
    (expiresAt now : Instant) :
    (Movement.reserve item.product item.quantity id expiresAt now).Runs t record
      (record.hold item.quantity now) (t.book id item record expiresAt now) := by
  refine ⟨h.offered.live, h.offered.product, h.reserve_eq now, nofun, ?_⟩
  refine Write.applyAll_cons_iff.mpr ⟨_, h.replaceStock_eq now, Write.applyAll_cons_iff.mpr
    ⟨_, Write.apply_insertReservation_iff.mpr ⟨hfree, rfl⟩, Write.applyAll_cons_iff.mpr
      ⟨_, rfl, Write.applyAll_nil_iff.mpr rfl⟩⟩⟩

end Store.Tables

namespace OrderService

/-- Reserves one item for an order. -/
def reserveItem (ttl : Span) (id : OrderId) (item : OrderItem) : Call Unit := do
  let _ ← StockService.reserveIn item.product item.quantity id ttl

theorem reserveItem_yields (hk : s.committed.KeepsKeys) (hitem : t.Bookable item record)
    (hexpires : tape.time.after? ttl = some expiresAt) (hfree : t.reservation? item.product id = none) :
    (reserveItem ttl id item).Yields s t tape () (t.book id item record expiresAt tape.time) tape.read :=
  (StockService.reserveIn_yields hk hexpires (hitem.runs hfree _ _)).bind .pure

/-- **An item that is reserved already** is found to be when its reservation is written. -/
theorem reserveItem_fails (hk : s.committed.KeepsKeys) (hitem : t.Bookable item record)
    (hexpires : tape.time.after? ttl = some expiresAt) (htaken : t.reservation? item.product id ≠ none) :
    ∃ clash, (reserveItem ttl id item).Fails s t tape (.alreadyExists clash) tape.read := by
  have hobeyed : (obey (record.reserve item.quantity tape.time)).Yields s t tape.read
      (record.hold item.quantity tape.time) t tape.read := by
    rw [hitem.reserve_eq]
    exact .pure
  obtain ⟨detail, hclash⟩ :
      ∃ detail, (Write.insertReservation (.start item.product id item.quantity expiresAt tape.time)).apply
        (t.putLive item.product (record.hold item.quantity tape.time)) =
          .error (.failed (.uniqueViolation detail)) := Write.apply_insertReservation_of_taken htaken
  have hinsert : (within (.insertReservation (.start item.product id item.quantity expiresAt
      tape.time))).Fails s (t.putLive item.product (record.hold item.quantity tape.time)) tape.read
        (.alreadyExists (.stated detail)) tape.read :=
    .write hk hclash fun session h => Prod.ext (congrArg (Except.map fun _ => ()) h) rfl
  exact ⟨_, .bind (.after .now (.after (StockService.loadStock_yields hitem.offered.live)
    (.after hobeyed (.after (StockService.replaceGuarded_yields hk (hitem.replaceStock_eq _))
      (.after (StockService.openReservation_yields hitem.positive hexpires) hinsert.bind)))))⟩

/-- **Bookable items of different products are reserved** if none of them is yet. -/
theorem reserveItems_yields (tape : Tape) (hk : s.committed.KeepsKeys)
    (hitems : ∀ item ∈ items, ∃ record, t.Bookable item record)
    (hnodup : (items.map OrderItem.product).Nodup) (hexpires : ∀ i, ((tape.clock i).after? ttl).isSome)
    (hfree : ∀ item ∈ items, t.reservation? item.product id = none) :
    ∃ t' tape', (items.forM (reserveItem ttl id)).Yields s t tape () t' tape' ∧
      t.Reserves ttl id (fun i => tape.clock (tape.readings + i)) items t' := by
  induction items generalizing t tape with
  | nil => exact ⟨t, tape, .pure, .nil t⟩
  | cons item items ih =>
    obtain ⟨⟨record, hitem⟩, hrest⟩ := List.forall_mem_cons.mp hitems
    obtain ⟨hother, hnodup⟩ := List.nodup_cons.mp hnodup
    obtain ⟨hfirst, hfree⟩ := List.forall_mem_cons.mp hfree
    obtain ⟨expiresAt, hexpiresAt⟩ := Option.isSome_iff_exists.mp (hexpires tape.readings)
    have hne : ∀ other ∈ items, other.product ≠ item.product := fun other hmem heq =>
      hother (heq ▸ List.mem_map_of_mem hmem)
    obtain ⟨t', tape', hyields, hreserves⟩ := ih tape.read
      (t := t.book id item record expiresAt tape.time)
      (fun other hmem => (hrest other hmem).imp fun _ h => h.book (hne other hmem)) hnodup hexpires
      fun other hmem => (Tables.reservation?_book_of_ne (hne other hmem)).trans (hfree other hmem)
    refine ⟨t', tape', (reserveItem_yields hk hitem hexpiresAt hfirst).bind hyields, ?_⟩
    rw [Tape.times_read] at hreserves
    exact .cons hreserves hother hitem.offered.live hexpiresAt hfirst

/-- **They are not if one of them is**: then all of it is given up. -/
theorem reserveItems_fails (tape : Tape) (hk : s.committed.KeepsKeys)
    (hitems : ∀ item ∈ items, ∃ record, t.Bookable item record)
    (hnodup : (items.map OrderItem.product).Nodup) (hexpires : ∀ i, ((tape.clock i).after? ttl).isSome)
    (htaken : ∃ item ∈ items, t.reservation? item.product id ≠ none) :
    ∃ clash tape', (items.forM (reserveItem ttl id)).Fails s t tape (.alreadyExists clash) tape' := by
  induction items generalizing t tape with
  | nil => obtain ⟨item, hitem, -⟩ := htaken; cases hitem
  | cons item items ih =>
    obtain ⟨⟨record, hitem⟩, hrest⟩ := List.forall_mem_cons.mp hitems
    obtain ⟨hother, hnodup⟩ := List.nodup_cons.mp hnodup
    obtain ⟨expiresAt, hexpiresAt⟩ := Option.isSome_iff_exists.mp (hexpires tape.readings)
    by_cases hfirst : t.reservation? item.product id = none
    · have hne : ∀ other ∈ items, other.product ≠ item.product := fun other hmem heq =>
        hother (heq ▸ List.mem_map_of_mem hmem)
      obtain ⟨other, hmem, htaken⟩ := htaken
      have hlater : other ∈ items := (List.mem_cons.mp hmem).resolve_left fun heq => htaken (heq ▸ hfirst)
      obtain ⟨clash, tape', hfails⟩ := ih tape.read
        (t := t.book id item record expiresAt tape.time)
        (fun other hmem => (hrest other hmem).imp fun _ h => h.book (hne other hmem)) hnodup hexpires
        ⟨other, hlater, by rwa [Tables.reservation?_book_of_ne (hne other hlater)]⟩
      exact ⟨clash, tape', .after (reserveItem_yields hk hitem hexpiresAt hfirst) hfails⟩
    · obtain ⟨clash, hfails⟩ := reserveItem_fails hk hitem hexpiresAt hfirst
      exact ⟨clash, tape.read, hfails.bind⟩

end OrderService

end Stockroom
