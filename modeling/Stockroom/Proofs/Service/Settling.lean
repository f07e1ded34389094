import Stockroom.Proofs.Crowd.Backing
import Stockroom.Proofs.Service.Reserving
import Stockroom.Proofs.Store.Backlog

/-!
# Proofs/Service/Settling — items that are settled one after the other

Paying an order deducts its items, and cancelling it releases them, in the unit of work that moves the order.
`Tables.Settles` is what that makes of the tables: the reservation of each item ends, its pieces leave the
held ones, it has an entry, and nothing else is different.

**With nobody else around, items of different products are settled unless one of them is obstructed**
(`ItemStep.yields`, `ItemStep.fails`): its reservation is not active any more, or its product was removed.
Paying and cancelling differ only in how they settle (`Settlement`) and in the reservations that they skip
(`ItemStep`).
-/

namespace Stockroom

open Store Call StockService

variable {s : Store} {t t' t'' : Tables} {tape : Tape} {id : OrderId} {item other : OrderItem}
  {items : List OrderItem} {record : StockRecord} {r : Reservation} {product : ProductId}
  {times : Nat → Instant} {now : Instant} {how : Settlement} {error : ServiceError}
  {skips : ReservationStatus → Bool}

/-! ## What is settled -/

/-- The pieces that are free again. -/
def StockService.Settlement.freed : Settlement → Int → Int
  | release _, quantity => quantity
  | deduct, _ => 0

/-- A settlement marks the reservation. -/
theorem StockService.Settlement.markWrites_movement {quantity : Int} (how : Settlement) :
    (how.movement product quantity id now).markWrites =
      [.moveReservation product id .active how.status now] := by
  cases how <;> rfl

/-- **The record after held pieces were settled**: it is one version later. -/
def StockRecord.settled (record : StockRecord) (how : Settlement) (quantity : Int) (now : Instant) :
    StockRecord :=
  { record with
    available := record.available + how.freed quantity
    reserved := record.reserved - quantity
    version := record.version + 1
    updatedAt := now }

/-- The reservation after it was settled. -/
def Reservation.settled (r : Reservation) (how : Settlement) (now : Instant) : Reservation :=
  { r with status := how.status, updatedAt := now }

/-- **Held pieces can be settled.** -/
theorem StockRecord.next_eq_settled {quantity : Int} (hbounds : record.InBounds)
    (hroom : Width.int64.Fits (record.version + 1)) (hpositive : 0 < quantity)
    (hcovered : quantity ≤ record.reserved) (how : Settlement) (now : Instant) :
    (how.movement product quantity id now).next record = .ok (record.settled how quantity now) := by
  have hversion := Width.wrap_eq hroom
  cases how with
  | release target =>
    refine (release_of_covered hbounds hpositive hcovered now).trans ?_
    simp [next, settled, Settlement.freed, hversion]
  | deduct =>
    refine deduct_eq_ok_iff.mpr ⟨hpositive, hcovered, ?_⟩
    simp [next, settled, Settlement.freed, hversion]

namespace Store.Tables

/-- The tables after one item was settled. -/
def settle (t : Tables) (how : Settlement) (id : OrderId) (item : OrderItem) (record : StockRecord)
    (r : Reservation) (now : Instant) : Tables :=
  t.post item.product (record.settled how item.quantity now) (r.settled how now)
    ((how.movement item.product item.quantity id now).entry record.snapshot
      (record.settled how item.quantity now).snapshot)

/-- **An item that can be settled**: its reservation is active, and its record holds the pieces and has a next
version. -/
structure Settleable (t : Tables) (id : OrderId) (item : OrderItem) (record : StockRecord)
    (r : Reservation) : Prop where
  offered : t.Offers item.product record
  room : Width.int64.Fits (record.version + 1)
  reserved : t.reservation? item.product id = some r
  key : r.key = ⟨item.product, id⟩
  active : r.status = .active
  quantity : r.quantity = item.quantity
  positive : 0 < item.quantity
  covered : item.quantity ≤ record.reserved

/-- **What stands in the way of an item**: its reservation was settled before, or its product was removed. -/
inductive Obstructs (t : Tables) (skips : ReservationStatus → Bool) (id : OrderId) (item : OrderItem) :
    ServiceError → Prop where
  | inactive {r : Reservation} (reserved : t.reservation? item.product id = some r)
      (key : r.key = ⟨item.product, id⟩) (inactive : r.status ≠ .active) (kept : skips r.status = false) :
      Obstructs t skips id item (.refused (.invalidMove (.reservationNotActive item.product id r.status)))
  | removed {r : Reservation} (reserved : t.reservation? item.product id = some r)
      (active : r.status = .active) (quantity : r.quantity = item.quantity)
      (removed : t.liveStock? item.product = none) :
      Obstructs t skips id item (.notFound (.stock item.product))

/-- An item whose reservation is skipped. -/
def Skipped (t : Tables) (skips : ReservationStatus → Bool) (id : OrderId) (item : OrderItem) : Prop :=
  ∃ r, t.reservation? item.product id = some r ∧ r.status ≠ .active ∧ skips r.status = true

/-- **An item that nothing stands in the way of.** -/
def Ready (t : Tables) (skips : ReservationStatus → Bool) (id : OrderId) (item : OrderItem) : Prop :=
  (∃ record r, t.Settleable id item record r) ∨ t.Skipped skips id item

/-- Whether pieces are held for an item. -/
def isHeld (t : Tables) (id : OrderId) (item : OrderItem) : Bool :=
  (t.reservation? item.product id).any (·.status = .active)

theorem Settleable.isHeld (h : t.Settleable id item record r) : t.isHeld id item = true := by
  simp [Tables.isHeld, h.reserved, h.active]

theorem Skipped.isHeld (h : t.Skipped skips id item) : t.isHeld id item = false := by
  obtain ⟨r, hr, hinactive, -⟩ := h
  simp [Tables.isHeld, hr, hinactive]

/-! ## Items of other products -/

section Other

variable (h : t.Settleable id item record r) (hne : other.product ≠ item.product) (how : Settlement)
  (now : Instant)
include h hne

theorem Settleable.reservation?_settle :
    (t.settle how id item record r now).reservation? other.product id = t.reservation? other.product id :=
  reservation?_post_of_ne h.key hne

theorem Settleable.isHeld_settle :
    (t.settle how id item record r now).isHeld id other = t.isHeld id other := by
  rw [Tables.isHeld, h.reservation?_settle hne how now, Tables.isHeld]

/-- **An item stays ready** while another one is settled. -/
theorem Ready.settle (hother : t.Ready skips id other) :
    (t.settle how id item record r now).Ready skips id other := by
  have hreservation := h.reservation?_settle hne how now
  rcases hother with ⟨record', r', hother⟩ | ⟨r', hr', hskipped⟩
  · refine .inl ⟨record', r', ⟨?_, hother.offered.product, hother.offered.bounds⟩, hother.room,
      hreservation.trans hother.reserved, hother.key, hother.active, hother.quantity, hother.positive,
      hother.covered⟩
    exact (liveStock?_post_of_ne hne).trans hother.offered.live
  · exact .inr ⟨r', hreservation.trans hr', hskipped⟩

/-- **What stands in the way of an item** still does after another one was settled. -/
theorem Obstructs.settle (hother : t.Obstructs skips id other error) :
    (t.settle how id item record r now).Obstructs skips id other error := by
  have hreservation := h.reservation?_settle hne how now
  cases hother with
  | inactive hr hkey hinactive hkept => exact .inactive (hreservation.trans hr) hkey hinactive hkept
  | removed hr hactive hquantity hremoved =>
    exact .removed (hreservation.trans hr) hactive hquantity ((liveStock?_post_of_ne hne).trans hremoved)

end Other

/-! ## Several items -/

/-- **What it makes of the tables that items of an order were settled**, one after the other, each at its time:
the record of an item has its pieces settled, its reservation has ended, and there is an entry with the counts
before and after.  Nothing else is different. -/
structure Settles (how : Settlement) (id : OrderId) (times : Nat → Instant) (items : List OrderItem)
    (t t' : Tables) : Prop where
  each : ∀ i item, items[i]? = some item → ∃ record r,
    t.liveStock? item.product = some record ∧
    t'.liveStock? item.product = some (record.settled how item.quantity (times i)) ∧
    t.reservation? item.product id = some r ∧ r.status = .active ∧ r.quantity = item.quantity ∧
    t'.reservation? item.product id = some (r.settled how (times i)) ∧
    t'.entries[t.entries.length + i]? =
      some (((how.movement item.product item.quantity id (times i)).entry record.snapshot
        (record.settled how item.quantity (times i)).snapshot).numbered (t.lastEntryId + (i + 1)))
  untouched : t.Untouched id (items.map OrderItem.product) t'

theorem Settles.nil (t : Tables) : Settles how id times [] t t where
  each i item h := by cases h
  untouched := .nil id t

/-- **One more item, before the others.** -/
theorem Settles.cons
    (h : Settles how id (fun i => times (i + 1)) items (t.settle how id item record r (times 0)) t'')
    (hitem : t.Settleable id item record r) (hother : item.product ∉ items.map OrderItem.product) :
    Settles how id times (item :: items) t t'' := by
  have hkey : (r.settled how (times 0)).key = ⟨item.product, id⟩ := hitem.key
  have hcount : (t.settle how id item record r (times 0)).entries.length = t.entries.length + 1 := by
    rw [settle, entries_post, List.length_append, List.length_singleton]
  have hlast : (t.settle how id item record r (times 0)).lastEntryId = t.lastEntryId + 1 := rfl
  refine ⟨fun i other hi => ?_, h.untouched.cons hkey⟩
  cases i with
  | zero =>
    cases hi
    refine ⟨record, r, hitem.offered.live, ?_, hitem.reserved, hitem.active, hitem.quantity, ?_,
      h.untouched.first⟩
    · rw [liveStock?, h.untouched.stock _ hother]
      exact liveStock?_post_self
    · rw [reservation?, h.untouched.reservations _ fun _ => hother, settle, reservations_post, hkey,
        if_pos rfl]
  | succ i =>
    obtain ⟨record', r', hrest⟩ := h.each i other hi
    have hne : other.product ≠ item.product := fun heq =>
      hother (heq ▸ List.mem_map_of_mem (List.mem_of_getElem? hi))
    rw [hitem.reservation?_settle hne, settle, liveStock?_post_of_ne hne, ← settle, hcount, hlast,
      Nat.add_right_comm, Int.add_assoc, Int.add_comm 1] at hrest
    exact ⟨record', r', hrest⟩

theorem Settleable.next_eq (h : t.Settleable id item record r) (how : Settlement) (now : Instant) :
    (how.movement item.product item.quantity id now).next record =
      .ok (record.settled how item.quantity now) :=
  StockRecord.next_eq_settled h.offered.bounds h.room h.positive h.covered how now

/-- **A settleable item can be settled.** -/
theorem Settleable.runs (h : t.Settleable id item record r) (how : Settlement) (now : Instant) :
    (how.movement item.product item.quantity id now).Runs t record (record.settled how item.quantity now)
      (t.settle how id item record r now) := by
  have hproduct : (record.settled how item.quantity now).product = item.product := h.offered.product
  have hmove : r.status.canMoveTo how.status = true := by
    rw [h.active]
    cases how with
    | release target => cases target <;> rfl
    | deduct => rfl
  refine ⟨?_, ?_, h.next_eq how now, fun order quantity hsettles => ?_, ?_⟩
  · rw [how.movement_product]
    exact h.offered.live
  · rw [how.movement_product]
    exact hproduct
  · rw [how.movement_settles?] at hsettles
    cases hsettles
    rw [how.movement_product]
    exact ⟨r, h.reserved, Reservation.ensureSettleable_eq_ok_iff.mpr ⟨h.active, h.quantity⟩⟩
  · rw [Movement.guardedWrites, how.markWrites_movement]
    refine Write.applyAll_cons_iff.mpr ⟨t.putLive item.product _, ?_, Write.applyAll_cons_iff.mpr
      ⟨_, Write.apply_moveReservation_iff.mpr ⟨r, h.reserved, h.active, hmove, rfl⟩,
        Write.applyAll_cons_iff.mpr ⟨_, rfl, Write.applyAll_nil_iff.mpr rfl⟩⟩⟩
    exact Write.apply_replaceStock_iff.mpr ⟨record, hproduct ▸ h.offered.live, rfl, by rw [hproduct]⟩

end Store.Tables

/-! ## The calls -/

namespace OrderService

open StockService (Settlement)

/-- **A call that settles the items of an order**, unless it skips them, and that fails where something stands
in the way. -/
structure ItemStep (how : Settlement) (skips : ReservationStatus → Bool) (id : OrderId)
    (f : OrderItem → Call Unit) : Prop where
  settles : ∀ {s : Store} {t : Tables} {tape : Tape} {item : OrderItem} {record : StockRecord}
    {r : Reservation}, s.committed.KeepsKeys → t.Settleable id item record r →
    (f item).Yields s t tape () (t.settle how id item record r tape.time) tape.read
  passes : ∀ {s : Store} {t : Tables} {tape : Tape} {item : OrderItem}, t.Skipped skips id item →
    (f item).Yields s t tape () t tape
  stops : ∀ {s : Store} {t : Tables} {tape : Tape} {item : OrderItem} {error : ServiceError},
    t.Obstructs skips id item error → ∃ tape', (f item).Fails s t tape error tape'

/-- **A settlement that is obstructed** finds out before it writes. -/
theorem settleIn_fails (how : Settlement) (h : t.Obstructs skips id item error) :
    (StockService.settleIn how item.product item.quantity id).Fails s t tape error tape.read := by
  cases h with
  | @inactive r hr hkey hinactive _ =>
    have hproduct : r.product = item.product := congrArg ReservationKey.product hkey
    have horder : r.order = id := congrArg ReservationKey.order hkey
    have hrefused : r.ensureSettleable item.quantity =
        .error (.invalidMove (.reservationNotActive item.product id r.status)) := by
      rw [Reservation.ensureSettleable, if_neg hinactive, hproduct, horder]
      rfl
    have hfound : (StockService.loadSettleable item.product id item.quantity).Fails s t tape.read
        (.refused (.invalidMove (.reservationNotActive item.product id r.status))) tape.read := by
      refine .after (Yields.findReservation item.product id) ?_
      rw [hr]
      dsimp only
      rw [hrefused]
      exact .bind .throw
    exact .after .now hfound.bind
  | removed hr hactive hquantity hremoved =>
    have hsettle := Reservation.ensureSettleable_eq_ok_iff (u := ()) |>.mpr ⟨hactive, hquantity⟩
    exact StockService.settleIn_fails_of_removed how hr hsettle hremoved

/-- **Paying deducts every item.** -/
theorem itemStep_deductItem (id : OrderId) : ItemStep .deduct (fun _ => false) id (deductItem id) where
  settles hk h := (StockService.settleIn_yields .deduct hk (h.runs .deduct _)).bind .pure
  passes h := by
    obtain ⟨r, -, -, hskips⟩ := h
    cases hskips
  stops h := ⟨_, (settleIn_fails .deduct h).bind⟩

/-- **Cancelling releases every item** but those whose reservation has expired. -/
theorem itemStep_releaseItem (id : OrderId) :
    ItemStep (.release .cancelled) (· = .expired) id (releaseItem id) where
  settles {s t tape item record r} hk h := by
    refine .bind (Yields.findReservation item.product id) ?_
    rw [h.reserved, Option.map_some, h.active, if_neg nofun]
    exact (StockService.settleIn_yields (.release .cancelled) hk (h.runs _ _)).bind .pure
  passes {s t tape item} h := by
    obtain ⟨r, hr, -, hexpired⟩ := h
    refine .bind (Yields.findReservation item.product id) ?_
    rw [hr, Option.map_some, of_decide_eq_true hexpired, if_pos rfl]
    exact .log
  stops {s t tape item error} h := by
    refine ⟨tape.read, .after (Yields.findReservation item.product id) ?_⟩
    have hkept : (t.reservation? item.product id).map Reservation.status ≠ some .expired := by
      cases h with
      | inactive hr _ _ hkept =>
        rw [hr]
        exact fun heq => absurd (Option.some.inj heq) (of_decide_eq_false hkept)
      | removed hr hactive =>
        rw [hr, Option.map_some, hactive]
        exact nofun
    rw [if_neg hkept]
    exact (settleIn_fails (.release .cancelled) h).bind

namespace ItemStep

variable {f : OrderItem → Call Unit}

/-- **Items that nothing stands in the way of are settled**, each at its own time, but for those that are
skipped. -/
theorem yields (hf : ItemStep how skips id f) (tape : Tape) (hk : s.committed.KeepsKeys)
    (hitems : ∀ item ∈ items, t.Ready skips id item) (hnodup : (items.map OrderItem.product).Nodup) :
    ∃ t' tape', (items.forM f).Yields s t tape () t' tape' ∧
      t.Settles how id (fun i => tape.clock (tape.readings + i)) (items.filter (t.isHeld id)) t' := by
  induction items generalizing t tape with
  | nil => exact ⟨t, tape, .pure, .nil t⟩
  | cons item items ih =>
    obtain ⟨hitem, hrest⟩ := List.forall_mem_cons.mp hitems
    obtain ⟨hother, hnodup⟩ := List.nodup_cons.mp hnodup
    rcases hitem with ⟨record, r, hitem⟩ | hskipped
    · have hne : ∀ other ∈ items, other.product ≠ item.product := fun other hmem heq =>
        hother (heq ▸ List.mem_map_of_mem hmem)
      obtain ⟨t', tape', hyields, hsettles⟩ := ih tape.read
        (t := t.settle how id item record r tape.time)
        (fun other hmem => (hrest other hmem).settle hitem (hne other hmem) how _) hnodup
      have hsame : items.filter ((t.settle how id item record r tape.time).isHeld id) =
          items.filter (t.isHeld id) :=
        List.filter_congr fun other hmem => hitem.isHeld_settle (hne other hmem) how _
      refine ⟨t', tape', (hf.settles hk hitem).bind hyields, ?_⟩
      rw [hsame, Tape.times_read] at hsettles
      rw [List.filter_cons_of_pos hitem.isHeld]
      exact hsettles.cons hitem fun hmem => hother (List.map_subset _ (List.filter_subset_self _) hmem)
    · obtain ⟨t', tape', hyields, hsettles⟩ := ih tape hrest hnodup
      refine ⟨t', tape', (hf.passes hskipped).bind hyields, ?_⟩
      rwa [List.filter_cons_of_neg (by simp [hskipped.isHeld])]

/-- **The first item that something stands in the way of** ends the call, and all of it is given up. -/
theorem fails {front back : List OrderItem} (hf : ItemStep how skips id f) (tape : Tape)
    (hk : s.committed.KeepsKeys) (hfront : ∀ item ∈ front, t.Ready skips id item)
    (hother : item.product ∉ front.map OrderItem.product) (hnodup : (front.map OrderItem.product).Nodup)
    (hobstacle : t.Obstructs skips id item error) :
    ∃ tape', ((front ++ item :: back).forM f).Fails s t tape error tape' := by
  induction front generalizing t tape with
  | nil =>
    obtain ⟨tape', hfails⟩ : ∃ tape', (f item).Fails s t tape error tape' := hf.stops hobstacle
    exact ⟨tape', hfails.bind⟩
  | cons first front ih =>
    obtain ⟨hfirst, hrest⟩ := List.forall_mem_cons.mp hfront
    obtain ⟨hnew, hnodup⟩ := List.nodup_cons.mp hnodup
    obtain ⟨hne, hother⟩ := not_or.mp (List.mem_cons.not.mp hother)
    rcases hfirst with ⟨record, r, hfirst⟩ | hskipped
    · have hapart : ∀ other ∈ front, other.product ≠ first.product := fun other hmem heq =>
        hnew (heq ▸ List.mem_map_of_mem hmem)
      obtain ⟨tape', hfails⟩ := ih tape.read (t := t.settle how id first record r tape.time)
        (fun other hmem => (hrest other hmem).settle hfirst (hapart other hmem) how _) hother hnodup
        (hobstacle.settle hfirst hne how _)
      exact ⟨tape', .after (hf.settles hk hfirst) hfails⟩
    · obtain ⟨tape', hfails⟩ := ih tape hrest hother hnodup hobstacle
      exact ⟨tape', .after (hf.passes hskipped) hfails⟩

end ItemStep

end OrderService

end Stockroom
