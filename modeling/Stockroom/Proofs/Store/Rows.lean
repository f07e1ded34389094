import Stockroom.Proofs.Ledger.Edit
import Stockroom.Store.UnitOfWork

/-!
# Proofs/Store/Rows — what a write does to the rows

A write takes effect exactly under the condition that its `apply_…_iff` states, and what it has written is
then found (`Write.shows_of_apply`).  **It changes no row but its own** (`Write.agreeAt_of_apply`), and neither
does refreshing a row (`Tables.refresh_agreeAt`); so a row that a unit of work has not written is one that was
committed at some time.
-/

namespace Stockroom

/-- A reservation moves as its status may, and only its status and the time of the move change. -/
theorem Reservation.moveTo_eq_ok_iff {r r' : Reservation} {next : ReservationStatus}
    {now : Instant} :
    r.moveTo next now = .ok r' ↔
      r.status.canMoveTo next ∧ r' = { r with status := next, updatedAt := now } := by
  unfold moveTo
  by_cases h : r.status.canMoveTo next = true <;> simp [h, eq_comm (a := r')]

namespace Store

/-! ## Rows of two states -/

namespace Tables

variable {t t' t'' : Tables} {row : RowName}

/-- Whether two states have the same row under a name. -/
def AgreeAt (t t' : Tables) : RowName → Prop
  | .stock product => t.stock.get? product = t'.stock.get? product
  | .reservation key => t.reservations.get? key = t'.reservations.get? key
  | .order id => t.orders.get? id = t'.orders.get? id

theorem AgreeAt.refl (t : Tables) (row : RowName) : t.AgreeAt t row := by cases row <;> rfl

theorem AgreeAt.symm (h : t.AgreeAt t' row) : t'.AgreeAt t row := by cases row <;> exact Eq.symm h

theorem AgreeAt.trans (h : t.AgreeAt t' row) (h' : t'.AgreeAt t'' row) : t.AgreeAt t'' row := by
  cases row <;> exact Eq.trans h h'

theorem AgreeAt.liveStock? {product : ProductId} (h : t.AgreeAt t' (.stock product)) :
    t.liveStock? product = t'.liveStock? product := congrArg (·.bind StockRow.live?) h

theorem putLive_agreeAt {product : ProductId} {record : StockRecord} (h : row ≠ .stock product) :
    (t.putLive product record).AgreeAt t row := by
  cases row with
  | stock other => exact (Table.get?_insert ..).trans (if_neg fun he => h (congrArg _ he))
  | reservation key => rfl
  | order id => rfl

theorem putReservation_agreeAt {r : Reservation} {key : ReservationKey} (hkey : r.key = key)
    (h : row ≠ .reservation key) : (t.putReservation r).AgreeAt t row := by
  subst hkey
  cases row with
  | reservation other => exact (Table.get?_insert ..).trans (if_neg fun he => h (congrArg _ he))
  | stock product => rfl
  | order id => rfl

theorem putOrder_agreeAt {order : Order} (h : row ≠ .order order.id) :
    (t.putOrder order).AgreeAt t row := by
  cases row with
  | order other => exact (Table.get?_insert ..).trans (if_neg fun he => h (congrArg _ he))
  | stock product => rfl
  | reservation key => rfl

/-- Whether every reservation stays under its own key. -/
def KeepsKeys (t : Tables) : Prop := ∀ key r, t.reservations.get? key = some r → r.key = key

/-! ## Refreshing a row -/

theorem refresh_order_of_some {committed : Tables} {id : OrderId} {order : Order}
    (h : committed.orders.get? id = some order) :
    t.refresh committed (.order id) = { t with orders := t.orders.insert id order } := by
  simp only [refresh, h]

theorem refresh_order_of_none {committed : Tables} {id : OrderId}
    (h : committed.orders.get? id = none) : t.refresh committed (.order id) = t := by
  simp only [refresh, h]

/-- **A refreshed row is the committed one**, unless there is no committed order: then it stays. -/
theorem refresh_agreeAt (t committed : Tables) (row : RowName) :
    (t.refresh committed row).AgreeAt committed row ∨ (t.refresh committed row).AgreeAt t row := by
  cases row with
  | stock product => exact .inl ((Table.get?_set ..).trans (if_pos rfl))
  | reservation key => exact .inl ((Table.get?_set ..).trans (if_pos rfl))
  | order id =>
    cases h : committed.orders.get? id with
    | none => exact .inr (refresh_order_of_none h ▸ .refl _ _)
    | some order =>
      rw [refresh_order_of_some h]
      exact .inl (((Table.get?_insert ..).trans (if_pos rfl)).trans h.symm)

theorem refresh_agreeAt_of_ne (t committed : Tables) {other : RowName} (h : other ≠ row) :
    (t.refresh committed row).AgreeAt t other := by
  cases row with
  | stock product =>
    cases other with
    | stock product' => exact (Table.get?_set ..).trans (if_neg fun he => h (congrArg _ he))
    | reservation key => rfl
    | order id => rfl
  | reservation key =>
    cases other with
    | reservation key' => exact (Table.get?_set ..).trans (if_neg fun he => h (congrArg _ he))
    | stock product => rfl
    | order id => rfl
  | order id =>
    cases hc : committed.orders.get? id with
    | none => exact refresh_order_of_none hc ▸ .refl _ _
    | some order =>
      rw [refresh_order_of_some hc]
      cases other with
      | order id' => exact (Table.get?_insert ..).trans (if_neg fun he => h (congrArg _ he))
      | stock product => rfl
      | reservation key => rfl

/-- A row that is the committed one already is refreshed to itself. -/
theorem refresh_eq_self {committed : Tables} (h : t.AgreeAt committed row) :
    t.refresh committed row = t := by
  cases row with
  | stock product =>
    have hset : t.stock.set product (committed.stock.get? product) = t.stock :=
      Table.ext_get? fun other => by
        rw [Table.get?_set]
        split
        · next he => exact he ▸ h.symm
        · rfl
    exact congrArg (fun stock => { t with stock := stock }) hset
  | reservation key =>
    have hset : t.reservations.set key (committed.reservations.get? key) = t.reservations :=
      Table.ext_get? fun other => by
        rw [Table.get?_set]
        split
        · next he => exact he ▸ h.symm
        · rfl
    exact congrArg (fun reservations => { t with reservations := reservations }) hset
  | order id =>
    cases hc : committed.orders.get? id with
    | none => exact refresh_order_of_none hc
    | some order =>
      have hset : t.orders.insert id order = t.orders :=
        Table.ext_get? fun other => by
          rw [Table.get?_insert]
          split
          · next he => exact he ▸ (hc.symm.trans h.symm)
          · rfl
      rw [refresh_order_of_some hc, hset]

theorem KeepsKeys.refresh {committed : Tables} (ht : t.KeepsKeys) (hc : committed.KeepsKeys) :
    (t.refresh committed row).KeepsKeys := by
  cases row with
  | stock product => exact ht
  | reservation key =>
    intro other r hr
    have hr' := (Table.get?_set ..).symm.trans hr
    split at hr'
    · next he => exact hc _ _ (he ▸ hr')
    · exact ht _ _ hr'
  | order id =>
    cases h : committed.orders.get? id with
    | none => exact refresh_order_of_none h ▸ ht
    | some order =>
      rw [refresh_order_of_some h]
      exact ht

end Tables

/-! ## When a write takes effect -/

namespace Write

variable {t t' : Tables}

theorem orFail_eq_ok_iff {α : Type} {x : Except Refusal α} {a : α} :
    orFail x = .ok a ↔ x = .ok a := by
  cases x with
  | ok b => exact ⟨fun h => congrArg _ (Except.ok.inj h), fun h => congrArg _ (Except.ok.inj h)⟩
  | error e => exact ⟨nofun, nofun⟩

section Apply

attribute [local simp] apply

theorem apply_replaceStock_iff {next : StockRecord} {expected : Int} :
    (Write.replaceStock next expected).apply t = .ok t' ↔
      ∃ live, t.liveStock? next.product = some live ∧ live.version = expected ∧
        t' = t.putLive next.product next := by
  rw [apply]
  cases h : t.liveStock? next.product with
  | none => simp
  | some live => by_cases hv : live.version = expected <;> simp [hv, eq_comm (b := t')]

theorem apply_increaseStock_iff {product : ProductId} {quantity : Int} {now : Instant} :
    (Write.increaseStock product quantity now).apply t = .ok t' ↔
      ∃ live next, t.liveStock? product = some live ∧ live.restock quantity now = .ok next ∧
        t' = t.putLive product next := by
  rw [apply]
  cases h : t.liveStock? product with
  | none => simp
  | some live => simp [orFail_eq_ok_iff, eq_comm (b := t')]

/-- **Pieces are not added** if there is no live record, or if its rules refuse them. -/
theorem of_apply_increaseStock {product : ProductId} {quantity : Int} {now : Instant} {rejection : Rejection}
    (h : (Write.increaseStock product quantity now).apply t = .error rejection) :
    (t.liveStock? product = none ∧ ∃ mismatch, rejection = .mismatch mismatch) ∨
      ∃ live refusal, t.liveStock? product = some live ∧ live.restock quantity now = .error refusal ∧
        rejection = .failed (.operationFailed refusal.message) := by
  rw [apply] at h
  cases hlive : t.liveStock? product with
  | none =>
    rw [hlive] at h
    cases h
    exact .inl ⟨rfl, _, rfl⟩
  | some live =>
    rw [hlive] at h
    dsimp only at h
    cases hnext : live.restock quantity now with
    | ok next =>
      rw [hnext] at h
      cases h
    | error refusal =>
      rw [hnext] at h
      cases h
      exact .inr ⟨live, refusal, rfl, hnext, rfl⟩

theorem apply_insertReservation_iff {reservation : Reservation} :
    (Write.insertReservation reservation).apply t = .ok t' ↔
      t.reservations.get? reservation.key = none ∧ t' = t.putReservation reservation := by
  rw [apply, Table.contains]
  cases h : t.reservations.get? reservation.key <;> simp [eq_comm]

/-- **A reservation that is there already** is not written again. -/
theorem apply_insertReservation_of_taken {reservation : Reservation}
    (h : t.reservations.get? reservation.key ≠ none) :
    ∃ detail, (Write.insertReservation reservation).apply t =
      .error (.failed (.uniqueViolation detail)) := by
  rw [apply, Table.contains, if_pos (Option.isSome_iff_ne_none.mpr h)]
  exact ⟨_, rfl⟩

theorem apply_moveReservation_iff {product : ProductId} {order : OrderId}
    {expected next : ReservationStatus} {now : Instant} :
    (Write.moveReservation product order expected next now).apply t = .ok t' ↔
      ∃ r, t.reservation? product order = some r ∧ r.status = expected ∧
        r.status.canMoveTo next ∧
        t' = t.putReservation { r with status := next, updatedAt := now } := by
  rw [apply]
  cases h : t.reservation? product order with
  | none => simp
  | some r =>
    by_cases hs : r.status = expected
    · simp only [Option.filter_some, hs, decide_true, if_true, map_eq_ok_iff, orFail_eq_ok_iff,
        Reservation.moveTo_eq_ok_iff]
      constructor
      · rintro ⟨_, ⟨hm, rfl⟩, rfl⟩
        exact ⟨r, rfl, hs, hs ▸ hm, rfl⟩
      · rintro ⟨_, hr, -, hm, rfl⟩
        cases hr
        exact ⟨_, ⟨hs ▸ hm, rfl⟩, rfl⟩
    · simp [Option.filter_some, hs]

theorem apply_appendEntry_iff {entry : Entry} :
    (Write.appendEntry entry).apply t = .ok t' ↔ t' = t.append entry := by
  simp [eq_comm]

theorem apply_insertOrder_iff {order : Order} :
    (Write.insertOrder order).apply t = .ok t' ↔ t' = t.putOrder order := by
  simp [eq_comm]

theorem apply_replaceOrder_iff {order : Order} {expected : OrderStatus} :
    (Write.replaceOrder order expected).apply t = .ok t' ↔
      ∃ o, t.order? order.id = some o ∧ o.status = expected ∧ t' = t.putOrder order := by
  rw [apply]
  cases h : t.order? order.id with
  | none => simp
  | some o =>
    by_cases hs : o.status = expected <;> simp [Option.filter_some, hs, eq_comm (b := t')]

end Apply

/-! ## What a write shows

Whatever a write has put somewhere is found there right after it. -/

theorem liveStock?_of_replaceStock {next : StockRecord} {expected : Int}
    (h : (Write.replaceStock next expected).apply t = .ok t') : t'.liveStock? next.product = some next := by
  obtain ⟨live, -, -, rfl⟩ := apply_replaceStock_iff.mp h
  rw [Tables.liveStock?_putLive, if_pos rfl]

theorem liveStock?_of_increaseStock {product : ProductId} {quantity : Int} {now : Instant}
    (h : (Write.increaseStock product quantity now).apply t = .ok t') :
    ∃ live next, t.liveStock? product = some live ∧ live.restock quantity now = .ok next ∧
      t'.liveStock? product = some next := by
  obtain ⟨live, next, hlive, hnext, rfl⟩ := apply_increaseStock_iff.mp h
  exact ⟨live, next, hlive, hnext, (t.liveStock?_putLive ..).trans (if_pos rfl)⟩

theorem reservation?_of_insertReservation {r : Reservation}
    (h : (Write.insertReservation r).apply t = .ok t') : t'.reservation? r.product r.order = some r := by
  obtain ⟨-, rfl⟩ := apply_insertReservation_iff.mp h
  exact (t.reservation?_putReservation ..).trans (if_pos rfl)

theorem reservation?_of_moveReservation {product : ProductId} {order : OrderId}
    {expected next : ReservationStatus} {now : Instant} (ht : t.KeepsKeys)
    (h : (Write.moveReservation product order expected next now).apply t = .ok t') :
    ∃ r, t.reservation? product order = some r ∧ r.status = expected ∧
      t'.reservation? product order = some { r with status := next, updatedAt := now } := by
  obtain ⟨r, hr, hstatus, -, rfl⟩ := apply_moveReservation_iff.mp h
  exact ⟨r, hr, hstatus, (t.reservation?_putReservation ..).trans (if_pos (ht _ _ hr).symm)⟩

theorem entries_of_appendEntry {entry : Entry} (h : (Write.appendEntry entry).apply t = .ok t') :
    t'.entries = t.entries ++ [entry.numbered (t.lastEntryId + 1)] := by
  obtain rfl := apply_appendEntry_iff.mp h
  rfl

theorem order?_of_insertOrder {order : Order} (h : (Write.insertOrder order).apply t = .ok t') :
    t'.order? order.id = some order := by
  obtain rfl := apply_insertOrder_iff.mp h
  rw [Tables.order?_putOrder, if_pos rfl]

theorem order?_of_replaceOrder {order : Order} {expected : OrderStatus}
    (h : (Write.replaceOrder order expected).apply t = .ok t') : t'.order? order.id = some order := by
  obtain ⟨o, -, -, rfl⟩ := apply_replaceOrder_iff.mp h
  rw [Tables.order?_putOrder, if_pos rfl]

/-- **What a write shows** after it, next to what was there before. -/
def Shows : Write → Tables → Tables → Prop
  | replaceStock next _, _, t' => t'.liveStock? next.product = some next
  | increaseStock product quantity now, t, t' => ∃ live next, t.liveStock? product = some live ∧
      live.restock quantity now = .ok next ∧ t'.liveStock? product = some next
  | insertReservation r, _, t' => t'.reservation? r.product r.order = some r
  | moveReservation product order expected next now, t, t' =>
      ∃ r, t.reservation? product order = some r ∧ r.status = expected ∧
        t'.reservation? product order = some { r with status := next, updatedAt := now }
  | appendEntry entry, t, t' => t'.entries = t.entries ++ [entry.numbered (t.lastEntryId + 1)]
  | insertOrder order, _, t' | replaceOrder order _, _, t' => t'.order? order.id = some order

theorem shows_of_apply {w : Write} (ht : t.KeepsKeys) (h : w.apply t = .ok t') : w.Shows t t' := by
  cases w with
  | replaceStock next expected => exact liveStock?_of_replaceStock h
  | increaseStock product quantity now => exact liveStock?_of_increaseStock h
  | insertReservation reservation => exact reservation?_of_insertReservation h
  | moveReservation product order expected next now => exact reservation?_of_moveReservation ht h
  | appendEntry entry => exact entries_of_appendEntry h
  | insertOrder order => exact order?_of_insertOrder h
  | replaceOrder order expected => exact order?_of_replaceOrder h

/-! ## What a write leaves alone -/

/-- **A write changes no row but its own.** -/
theorem agreeAt_of_apply {w : Write} (ht : t.KeepsKeys) (h : w.apply t = .ok t') {row : RowName}
    (hrow : w.row? ≠ some row) : t'.AgreeAt t row := by
  cases w with
  | replaceStock next expected =>
    obtain ⟨live, -, -, rfl⟩ := apply_replaceStock_iff.mp h
    exact Tables.putLive_agreeAt fun he => hrow (congrArg some he.symm)
  | increaseStock product quantity now =>
    obtain ⟨live, next, -, -, rfl⟩ := apply_increaseStock_iff.mp h
    exact Tables.putLive_agreeAt fun he => hrow (congrArg some he.symm)
  | insertReservation reservation =>
    obtain ⟨-, rfl⟩ := apply_insertReservation_iff.mp h
    exact Tables.putReservation_agreeAt rfl fun he => hrow (congrArg some he.symm)
  | moveReservation product order expected next now =>
    obtain ⟨r, hr, -, -, rfl⟩ := apply_moveReservation_iff.mp h
    have hkey : r.key = ⟨product, order⟩ := ht _ _ hr
    exact Tables.putReservation_agreeAt hkey fun he => hrow (congrArg some he.symm)
  | appendEntry entry =>
    obtain rfl := apply_appendEntry_iff.mp h
    cases row <;> rfl
  | insertOrder order =>
    obtain rfl := apply_insertOrder_iff.mp h
    exact Tables.putOrder_agreeAt fun he => hrow (congrArg some he.symm)
  | replaceOrder order expected =>
    obtain ⟨o, -, -, rfl⟩ := apply_replaceOrder_iff.mp h
    exact Tables.putOrder_agreeAt fun he => hrow (congrArg some he.symm)

theorem keepsKeys_of_apply {w : Write} (ht : t.KeepsKeys) (h : w.apply t = .ok t') :
    t'.KeepsKeys := by
  cases w with
  | replaceStock next expected =>
    obtain ⟨live, -, -, rfl⟩ := apply_replaceStock_iff.mp h
    exact ht
  | increaseStock product quantity now =>
    obtain ⟨live, next, -, -, rfl⟩ := apply_increaseStock_iff.mp h
    exact ht
  | insertReservation reservation =>
    obtain ⟨-, rfl⟩ := apply_insertReservation_iff.mp h
    exact Table.forall_insert ht rfl
  | moveReservation product order expected next now =>
    obtain ⟨r, hr, -, -, rfl⟩ := apply_moveReservation_iff.mp h
    exact Table.forall_insert ht rfl
  | appendEntry entry =>
    obtain rfl := apply_appendEntry_iff.mp h
    exact ht
  | insertOrder order =>
    obtain rfl := apply_insertOrder_iff.mp h
    exact ht
  | replaceOrder order expected =>
    obtain ⟨o, -, -, rfl⟩ := apply_replaceOrder_iff.mp h
    exact ht

theorem applyAll_cons_iff {w : Write} {ws : List Write} :
    applyAll (w :: ws) t = .ok t' ↔ ∃ next, w.apply t = .ok next ∧ applyAll ws next = .ok t' := by
  unfold applyAll
  rw [List.foldlM_cons]
  exact bind_eq_ok_iff

theorem applyAll_append_iff {ws more : List Write} :
    applyAll (ws ++ more) t = .ok t' ↔
      ∃ next, applyAll ws t = .ok next ∧ applyAll more next = .ok t' := by
  rw [applyAll_append]
  exact bind_eq_ok_iff

theorem applyAll_nil_iff : applyAll [] t = .ok t' ↔ t' = t := by
  unfold applyAll
  rw [List.foldlM_nil, pure_eq_ok_iff, eq_comm]

theorem keepsKeys_of_applyAll {ws : List Write} (ht : t.KeepsKeys) (h : applyAll ws t = .ok t') :
    t'.KeepsKeys := by
  induction ws generalizing t with
  | nil => exact applyAll_nil_iff.mp h ▸ ht
  | cons w ws ih =>
    obtain ⟨t₁, hw, hws⟩ := applyAll_cons_iff.mp h
    exact ih (keepsKeys_of_apply ht hw) hws

/-- **Writes change no rows but their own.** -/
theorem agreeAt_of_applyAll {ws : List Write} (ht : t.KeepsKeys) (h : applyAll ws t = .ok t')
    {row : RowName} (hrow : row ∉ ws.filterMap Write.row?) : t'.AgreeAt t row := by
  induction ws generalizing t with
  | nil => exact applyAll_nil_iff.mp h ▸ .refl t row
  | cons w ws ih =>
    obtain ⟨t₁, hw, hws⟩ := applyAll_cons_iff.mp h
    have hfirst : w.row? ≠ some row := fun he => hrow (by simp [he])
    have hrest : row ∉ ws.filterMap Write.row? := fun hmem => hrow <| by
      obtain ⟨w', hw', he⟩ := List.mem_filterMap.mp hmem
      exact List.mem_filterMap.mpr ⟨w', List.mem_cons_of_mem _ hw', he⟩
    exact (ih (keepsKeys_of_apply ht hw) hws hrest).trans (agreeAt_of_apply ht hw hfirst)

end Write

end Store

end Stockroom
