import Stockroom.Proofs.Ledger.Movement
import Stockroom.Proofs.Order.Lifecycle

/-!
# Proofs/Ledger/Edit — the changes that tables go through

An `Edit` is one of the six ways in which tables change.  What can be said about any number of edits
follows from one lemma about a single one:

* `Tables.WellKept.edit` — every row stays under its own key, no version is ahead of the ledger, and
  the items of an order stay different products;
* `Tables.Precedes.ofEdit` — **rows only move forward**: a version is never used for two different
  counts, a removed or settled row stays as it is, and the ledger grows at its end.

The parameter `tunable` says whether thresholds may be set.  Where they may not, a record is the same
as soon as its version is (`StockRow.Precedes.same`).
-/

namespace Stockroom

open Store

/-! ## Growing tables -/

namespace Table

variable {κ α : Type} [Ord κ] {R : α → α → Prop}

/-- Every row is still there, and related to what it was. -/
def Grows (R : α → α → Prop) (t t' : Table κ α) : Prop :=
  ∀ key a, t.get? key = some a → ∃ b, t'.get? key = some b ∧ R a b

theorem Grows.refl (hR : ∀ a, R a a) (t : Table κ α) : t.Grows R t := fun _ a h => ⟨a, h, hR a⟩

theorem Grows.trans (hR : ∀ {a b c}, R a b → R b c → R a c) {t t' t'' : Table κ α}
    (h : t.Grows R t') (h' : t'.Grows R t'') : t.Grows R t'' := fun key a ha => by
  obtain ⟨b, hb, hab⟩ := h key a ha
  obtain ⟨c, hc, hbc⟩ := h' key b hb
  exact ⟨c, hc, hR hab hbc⟩

theorem Grows.insert [DecidableEq κ] [Std.LawfulEqOrd κ] [Std.TransOrd κ] (hR : ∀ a, R a a)
    (t : Table κ α) {key : κ} {value : α} (h : ∀ a, t.get? key = some a → R a value) :
    t.Grows R (t.insert key value) := fun other a ha => by
  rw [get?_insert]
  split
  · next heq =>
    subst heq
    exact ⟨value, rfl, h a ha⟩
  · exact ⟨a, ha, hR a⟩

/-- What holds of every row holds after a row is written of which it holds. -/
theorem forall_insert [DecidableEq κ] [Std.LawfulEqOrd κ] [Std.TransOrd κ] {P : κ → α → Prop}
    {t : Table κ α} (h : ∀ key a, t.get? key = some a → P key a) {key : κ} {value : α}
    (hv : P key value) : ∀ other a, (t.insert key value).get? other = some a → P other a := by
  intro other a ha
  rw [get?_insert] at ha
  split at ha
  · next heq =>
    cases ha
    exact heq ▸ hv
  · exact h other a ha

end Table

/-! ## Orders -/

/-- **Where an order can get to** from a status. -/
def OrderStatus.reaches : OrderStatus → OrderStatus → Bool
  | pending, _ => true
  | paid, next => next = .paid || next = .shipped || next = .completed
  | shipped, next => next = .shipped || next = .completed
  | completed, next => next = .completed
  | cancelled, next => next = .cancelled

theorem OrderStatus.reaches_refl (s : OrderStatus) : s.reaches s := by cases s <;> rfl

theorem OrderStatus.reaches_trans {s s' s'' : OrderStatus} (h : s.reaches s')
    (h' : s'.reaches s'') : s.reaches s'' := by
  revert h h'
  cases s <;> cases s' <;> cases s'' <;> decide

theorem OrderStatus.reaches_antisymm {s s' : OrderStatus} (h : s.reaches s')
    (h' : s'.reaches s) : s = s' := by
  revert h h'
  cases s <;> cases s' <;> decide

/-- A later state of an order: the same order, at least as far. -/
structure Order.Precedes (o o' : Order) : Prop where
  id : o'.id = o.id
  draft : o'.draft = o.draft
  reaches : o.status.reaches o'.status
  same : o.status = o'.status → o' = o

theorem Order.Precedes.refl (o : Order) : o.Precedes o :=
  ⟨rfl, rfl, o.status.reaches_refl, fun _ => rfl⟩

theorem Order.Precedes.trans {o o' o'' : Order} (h : o.Precedes o') (h' : o'.Precedes o'') :
    o.Precedes o'' where
  id := h'.id.trans h.id
  draft := h'.draft.trans h.draft
  reaches := OrderStatus.reaches_trans h.reaches h'.reaches
  same hs := by
    have hs' : o.status = o'.status :=
      OrderStatus.reaches_antisymm h.reaches (hs ▸ h'.reaches)
    rw [h'.same (hs'.symm.trans hs), h.same hs']

/-- **A move takes an order forward.** -/
theorem OrderMove.apply_precedes {move : OrderMove} {o o' : Order} {now : Instant}
    (h : move.apply o now = .ok o') : o.Precedes o' := by
  obtain ⟨hsource, rfl⟩ := apply_eq_ok_iff.mp h
  refine ⟨rfl, rfl, ?_, fun hsame => ?_⟩
  · rw [hsource]
    cases move <;> rfl
  · have hleads : move.source = move.target := hsource.symm.trans hsame
    cases move <;> cases hleads

/-! ## Reservations -/

/-- A later state of a reservation: the same reservation, settled at most once. -/
structure Reservation.Precedes (r r' : Reservation) : Prop where
  product : r'.product = r.product
  order : r'.order = r.order
  quantity : r'.quantity = r.quantity
  expiresAt : r'.expiresAt = r.expiresAt
  createdAt : r'.createdAt = r.createdAt
  settled : r.status ≠ .active → r' = r
  same : r'.status = .active → r' = r

theorem Reservation.Precedes.refl (r : Reservation) : r.Precedes r :=
  ⟨rfl, rfl, rfl, rfl, rfl, fun _ => rfl, fun _ => rfl⟩

theorem Reservation.Precedes.trans {r r' r'' : Reservation} (h : r.Precedes r')
    (h' : r'.Precedes r'') : r.Precedes r'' where
  product := h'.product.trans h.product
  order := h'.order.trans h.order
  quantity := h'.quantity.trans h.quantity
  expiresAt := h'.expiresAt.trans h.expiresAt
  createdAt := h'.createdAt.trans h.createdAt
  settled hs := by
    have heq := h.settled hs
    rw [h'.settled (heq ▸ hs), heq]
  same hs := by
    have heq := h'.same hs
    rw [heq, h.same (heq ▸ hs)]

/-- A reservation that is settled now. -/
theorem Reservation.precedes_settled {r : Reservation} (hr : r.status = .active)
    {status : ReservationStatus} (hs : status ≠ .active) (now : Instant) :
    r.Precedes { r with status := status, updatedAt := now } :=
  ⟨rfl, rfl, rfl, rfl, rfl, fun h => absurd hr h, fun h => absurd h hs⟩

theorem ReleaseTarget.status_ne_active (target : ReleaseTarget) : target.status ≠ .active := by
  cases target <;> exact nofun

theorem Movement.Marks.grows {m : Movement} {t t' : Table ReservationKey Reservation}
    (h : m.Marks t t') : t.Grows Reservation.Precedes t' := by
  cases m with
  | reserve product quantity order expiresAt now =>
    obtain ⟨hnone, rfl⟩ := h
    exact Table.Grows.insert .refl t fun r hr => by rw [hnone] at hr; cases hr
  | release product quantity order target now =>
    obtain ⟨r, hr, hactive, -, rfl⟩ := h
    exact Table.Grows.insert .refl t fun r' hr' => by
      rw [hr] at hr'
      cases hr'
      exact Reservation.precedes_settled hactive target.status_ne_active now
  | deduct product quantity order now =>
    obtain ⟨r, hr, hactive, -, rfl⟩ := h
    exact Table.Grows.insert .refl t fun r' hr' => by
      rw [hr] at hr'
      cases hr'
      exact Reservation.precedes_settled hactive (by decide) now
  | restock product quantity reason operator now => exact h ▸ Table.Grows.refl Reservation.Precedes.refl t
  | adjust product delta reason operator now => exact h ▸ Table.Grows.refl Reservation.Precedes.refl t

/-- A reservation that is opened or settled keeps its key. -/
theorem Movement.Marks.keys {m : Movement} {t t' : Table ReservationKey Reservation}
    (h : m.Marks t t') (hk : ∀ key r, t.get? key = some r → r.key = key) :
    ∀ key r, t'.get? key = some r → r.key = key := by
  cases m with
  | reserve product quantity order expiresAt now =>
    obtain ⟨-, rfl⟩ := h
    exact Table.forall_insert hk rfl
  | release product quantity order target now =>
    obtain ⟨r, hr, -, -, rfl⟩ := h
    have hkey := hk _ _ hr
    exact Table.forall_insert hk hkey
  | deduct product quantity order now =>
    obtain ⟨r, hr, -, -, rfl⟩ := h
    have hkey := hk _ _ hr
    exact Table.forall_insert hk hkey
  | restock product quantity reason operator now => exact h ▸ hk
  | adjust product delta reason operator now => exact h ▸ hk

/-! ## Records -/

/-- A later state of a row of stock.  **Equal versions mean equal counts**, and equal records where no
threshold may be set. -/
structure Store.StockRow.Precedes (tunable : Prop) (row row' : StockRow) : Prop where
  product : row'.record.product = row.record.product
  createdAt : row'.record.createdAt = row.record.createdAt
  version : row.record.version ≤ row'.record.version
  agrees : row.record.version = row'.record.version → row.record.Agrees row'.record
  same : ¬tunable → row.record.version = row'.record.version → row'.record = row.record
  removed : row.removedAt ≠ none → row' = row

namespace Store.StockRow

variable {tunable : Prop}

theorem Precedes.refl (row : StockRow) : row.Precedes tunable row :=
  ⟨rfl, rfl, Int.le_refl _, fun _ => .refl _, fun _ _ => rfl, fun _ => rfl⟩

theorem Precedes.trans {row row' row'' : StockRow} (h : row.Precedes tunable row')
    (h' : row'.Precedes tunable row'') : row.Precedes tunable row'' where
  product := h'.product.trans h.product
  createdAt := h'.createdAt.trans h.createdAt
  version := Int.le_trans h.version h'.version
  agrees hv := by
    have hv' : row.record.version = row'.record.version :=
      Int.le_antisymm h.version (hv ▸ h'.version)
    exact (h.agrees hv').trans (h'.agrees (hv'.symm.trans hv))
  same ht hv := by
    have hv' : row.record.version = row'.record.version :=
      Int.le_antisymm h.version (hv ▸ h'.version)
    rw [h'.same ht (hv'.symm.trans hv), h.same ht hv']
  removed hr := by
    have heq := h.removed hr
    rw [h'.removed (heq ▸ hr), heq]

end Store.StockRow

/-! ## Tables -/

/-- **One change of the tables.** -/
inductive Edit (tunable : Prop) : Tables → Tables → Prop
  | movement {t t' : Tables} {m : Movement} (h : m.Posts t t') : Edit tunable t t'
  | register {t : Tables} {record : StockRecord} {stock threshold : Int} {now : Instant}
      (hfresh : t.stock.get? record.product = none)
      (hrecord : StockRecord.register record.product stock threshold now = .ok record)
      (hfits : Width.int32.Fits stock) :
      Edit tunable t (t.putLive record.product record)
  | tune {t : Tables} {product : ProductId} {record tuned : StockRecord} {threshold : Int}
      {now : Instant} (ht : tunable) (hlive : t.liveStock? product = some record)
      (htuned : record.withThreshold threshold now = .ok tuned) :
      Edit tunable t (t.putLive product tuned)
  | remove {t : Tables} {product : ProductId} {record : StockRecord} {now : Instant}
      (hlive : t.liveStock? product = some record) :
      Edit tunable t { t with stock := t.stock.insert product ⟨record, some now⟩ }
  | place {t : Tables} {order : Order} (hfresh : t.order? order.id = none)
      (hitems : (order.items.map OrderItem.product).Nodup) :
      Edit tunable t (t.putOrder order)
  | advance {t : Tables} {move : OrderMove} {order moved : Order} {now : Instant}
      (horder : t.order? order.id = some order) (hmoved : move.apply order now = .ok moved) :
      Edit tunable t (t.putOrder moved)

/-- No edit changes the catalogue. -/
theorem Edit.products {tunable : Prop} {t t' : Tables} (h : Edit tunable t t') :
    t'.products = t.products := by
  cases h with
  | movement h =>
    cases h
    rfl
  | _ => rfl

namespace Store.Tables

variable {tunable : Prop} {t t' t'' : Tables}

/-- A live record is the record of a row that was not removed. -/
theorem liveStock?_eq_some_iff {product : ProductId} {record : StockRecord} :
    t.liveStock? product = some record ↔ t.stock.get? product = some ⟨record, none⟩ := by
  unfold liveStock?
  cases h : t.stock.get? product with
  | none => simp
  | some row =>
    obtain ⟨r, removedAt⟩ := row
    cases removedAt <;> simp [StockRow.live?]

/-- **What holds of the rows of tables that were only edited.** -/
structure WellKept (t : Tables) : Prop where
  stockKey : ∀ product row, t.stock.get? product = some row → row.record.product = product
  reservationKey : ∀ key r, t.reservations.get? key = some r → r.key = key
  orderKey : ∀ id order, t.orders.get? id = some order → order.id = id
  version : ∀ product row, t.stock.get? product = some row →
    0 ≤ row.record.version ∧ row.record.version ≤ t.entries.length
  items : ∀ id order, t.orders.get? id = some order →
    (order.items.map OrderItem.product).Nodup

/-- **So many more versions fit** into 63 bits. -/
def HasRoom (t : Tables) (versions : Nat) : Prop :=
  ∀ product row, t.stock.get? product = some row →
    0 ≤ row.record.version ∧ Width.int64.Fits (row.record.version + versions)

theorem HasRoom.mono {versions more : Nat} (h : t.HasRoom more) (hle : versions ≤ more) :
    t.HasRoom versions := fun product row hrow => by
  obtain ⟨h0, hfits⟩ := h product row hrow
  rw [Width.fits_int64] at *
  omega

/-- **Later tables**: every row is still there or a later state of it is, and the ledger has grown. -/
structure Precedes (tunable : Prop) (t t' : Tables) : Prop where
  stock : t.stock.Grows (StockRow.Precedes tunable) t'.stock
  reservations : t.reservations.Grows Reservation.Precedes t'.reservations
  orders : t.orders.Grows Order.Precedes t'.orders
  entries : t.entries <+: t'.entries

theorem Precedes.refl (t : Tables) : t.Precedes tunable t :=
  ⟨.refl StockRow.Precedes.refl _, .refl Reservation.Precedes.refl _, .refl Order.Precedes.refl _,
    List.prefix_rfl⟩

theorem Precedes.trans (h : t.Precedes tunable t') (h' : t'.Precedes tunable t'') :
    t.Precedes tunable t'' :=
  ⟨Table.Grows.trans (fun a b => a.trans b) h.stock h'.stock,
    Table.Grows.trans (fun a b => a.trans b) h.reservations h'.reservations,
    Table.Grows.trans (fun a b => a.trans b) h.orders h'.orders, h.entries.trans h'.entries⟩

/-! ## What an edit keeps -/

/-- The record of a movement is the live one, one version later. -/
theorem row_precedes_moved {m : Movement} {live seen next : StockRecord}
    (hseen : seen.Agrees live) (hnext : m.next seen = .ok next)
    (hversion : next.version = live.version + 1) :
    StockRow.Precedes tunable ⟨live, none⟩ ⟨next, none⟩ := by
  have heq := Movement.next_eq hnext
  refine ⟨?_, ?_, ?_, fun hv => ?_, fun _ hv => ?_, fun h => absurd rfl h⟩
  · rw [heq]; exact hseen.product
  · rw [heq]; exact hseen.createdAt
  · show live.version ≤ next.version
    omega
  · exact absurd hv (by show live.version ≠ next.version; omega)
  · exact absurd hv (by show live.version ≠ next.version; omega)

/-- **Edited tables are later tables.** -/
theorem Precedes.ofEdit (h : Edit tunable t t') : t.Precedes tunable t' := by
  cases h with
  | movement h =>
    obtain @⟨live, seen, next, reservations, before, after, hlive, hseen, hnext, hversion, hmarks,
      -, -⟩ := h
    have hrow := liveStock?_eq_some_iff.mp hlive
    refine ⟨Table.Grows.insert StockRow.Precedes.refl _ fun row hr => ?_, hmarks.grows,
      .refl Order.Precedes.refl _, List.prefix_append ..⟩
    rw [hrow] at hr
    cases hr
    exact row_precedes_moved hseen hnext hversion
  | register hfresh hrecord hfits =>
    refine ⟨Table.Grows.insert StockRow.Precedes.refl _ fun row hr => ?_,
      .refl Reservation.Precedes.refl _, .refl Order.Precedes.refl _, List.prefix_rfl⟩
    rw [hfresh] at hr
    cases hr
  | tune ht hlive htuned =>
    obtain ⟨-, rfl⟩ := StockRecord.withThreshold_eq_ok_iff.mp htuned
    refine ⟨Table.Grows.insert StockRow.Precedes.refl _ fun row hr => ?_,
      .refl Reservation.Precedes.refl _, .refl Order.Precedes.refl _, List.prefix_rfl⟩
    rw [liveStock?_eq_some_iff.mp hlive] at hr
    cases hr
    exact ⟨rfl, rfl, Int.le_refl _, fun _ => ⟨rfl, rfl, rfl, rfl, rfl⟩, fun hn => absurd ht hn,
      fun hr => absurd rfl hr⟩
  | remove hlive =>
    refine ⟨Table.Grows.insert StockRow.Precedes.refl _ fun row hr => ?_,
      .refl Reservation.Precedes.refl _, .refl Order.Precedes.refl _, List.prefix_rfl⟩
    rw [liveStock?_eq_some_iff.mp hlive] at hr
    cases hr
    exact ⟨rfl, rfl, Int.le_refl _, fun _ => .refl _, fun _ _ => rfl, fun hr => absurd rfl hr⟩
  | place hfresh hitems =>
    refine ⟨.refl StockRow.Precedes.refl _, .refl Reservation.Precedes.refl _,
      Table.Grows.insert Order.Precedes.refl _ fun order ho => ?_, List.prefix_rfl⟩
    rw [show t.orders.get? _ = none from hfresh] at ho
    cases ho
  | advance horder hmoved =>
    have hmove := OrderMove.apply_precedes hmoved
    refine ⟨.refl StockRow.Precedes.refl _, .refl Reservation.Precedes.refl _,
      Table.Grows.insert Order.Precedes.refl _ fun order ho => ?_, List.prefix_rfl⟩
    rw [hmove.id, show t.orders.get? _ = some _ from horder] at ho
    cases ho
    exact hmove

/-- **Edits keep the rows in order.** -/
theorem WellKept.edit (hk : t.WellKept) (h : Edit tunable t t') : t'.WellKept := by
  cases h with
  | movement h =>
    obtain @⟨live, seen, next, reservations, before, after, hlive, hseen, hnext, hversion, hmarks,
      -, -⟩ := h
    have hrow := liveStock?_eq_some_iff.mp hlive
    obtain ⟨hpos, hlen⟩ : 0 ≤ live.version ∧ live.version ≤ t.entries.length :=
      hk.version _ _ hrow
    refine ⟨Table.forall_insert hk.stockKey ?_, ?_, hk.orderKey, ?_, hk.items⟩
    · rw [Movement.next_eq hnext]
      exact hseen.product.trans (hk.stockKey _ _ hrow)
    · exact hmarks.keys hk.reservationKey
    · rw [List.length_append, List.length_singleton, Int.natCast_add]
      refine Table.forall_insert (fun product row hr => ?_) ?_
      · have := hk.version _ _ hr
        omega
      · show 0 ≤ next.version ∧ next.version ≤ _
        omega
  | register hfresh hrecord hfits =>
    obtain ⟨-, -, hrecord⟩ := StockRecord.register_eq_ok_iff.mp hrecord
    refine ⟨Table.forall_insert hk.stockKey rfl, hk.reservationKey, hk.orderKey,
      Table.forall_insert hk.version ?_, hk.items⟩
    rw [hrecord]
    exact ⟨Int.le_refl _, Int.natCast_nonneg _⟩
  | tune ht hlive htuned =>
    obtain ⟨-, rfl⟩ := StockRecord.withThreshold_eq_ok_iff.mp htuned
    have hrow := liveStock?_eq_some_iff.mp hlive
    have hproduct := hk.stockKey _ _ hrow
    have hversion := hk.version _ _ hrow
    exact ⟨Table.forall_insert hk.stockKey hproduct, hk.reservationKey, hk.orderKey,
      Table.forall_insert hk.version hversion, hk.items⟩
  | remove hlive =>
    have hrow := liveStock?_eq_some_iff.mp hlive
    have hproduct := hk.stockKey _ _ hrow
    have hversion := hk.version _ _ hrow
    exact ⟨Table.forall_insert hk.stockKey hproduct, hk.reservationKey, hk.orderKey,
      Table.forall_insert hk.version hversion, hk.items⟩
  | place hfresh hitems =>
    exact ⟨hk.stockKey, hk.reservationKey, Table.forall_insert hk.orderKey rfl, hk.version,
      Table.forall_insert hk.items hitems⟩
  | advance horder hmoved =>
    have hmove := OrderMove.apply_precedes hmoved
    refine ⟨hk.stockKey, hk.reservationKey, Table.forall_insert hk.orderKey rfl, hk.version,
      Table.forall_insert hk.items ?_⟩
    have := hk.items _ _ horder
    rwa [Order.items, ← hmove.draft] at this

end Store.Tables

end Stockroom
