import Mathlib.Algebra.Group.Int.Defs
import Stockroom.Proofs.Crowd.Assured
import Stockroom.Proofs.Store.Rows

/-!
# Proofs/Crowd/Plan — writes planned from what was seen

A movement is planned in a unit of work, from a record that may be old by the time its writes take
effect.  **Planned writes that take effect post the movement all the same** (`Planned.posts`): the
write of the record is guarded by the version, and an equal version means equal counts; the write of
the reservation is guarded by its status, and the quantity of a reservation never changes.

`Works` is one plan after the other, as the calls for whole orders make them.
-/

namespace Stockroom

open Store

variable {A : ServiceCall → Prop} {s s' : Store} {t t' : Tables} {writes : List Write}

/-! ## Old and new rows -/

namespace Was

variable {P : Tables → Prop}

/-- What was committed at some time, seen from tables that were edited since. -/
theorem before (h : Was A s P) (he : Edits (Tunable A) s.committed t) :
    ∃ t₀, P t₀ ∧ t₀.WellKept ∧ t₀.Precedes (Tunable A) t := by
  obtain ⟨s₀, hs₀, hl, hP⟩ := h
  exact ⟨s₀.committed, hP, hs₀.wellKept, (hl.precedes hs₀).trans (.ofEdits he)⟩

/-- **An equal version means equal counts**, and an equal record where no threshold may be set. -/
theorem agrees {product : ProductId} {seen live : StockRecord}
    (h : Was A s fun t => t.liveStock? product = some seen)
    (he : Edits (Tunable A) s.committed t) (hlive : t.liveStock? product = some live)
    (hv : live.version = seen.version) :
    seen.Agrees live ∧ (¬Tunable A → seen = live) := by
  obtain ⟨t₀, hseen, -, hp⟩ := h.before he
  obtain ⟨row, hrow, hprec⟩ := hp.stock _ _ (Tables.liveStock?_eq_some_iff.mp hseen)
  cases (Tables.liveStock?_eq_some_iff.mp hlive).symm.trans hrow
  exact ⟨hprec.agrees hv.symm, fun ht => (hprec.same ht hv.symm).symm⟩

/-- A reservation that is still active is the one that was seen. -/
theorem reservation {product : ProductId} {order : OrderId} {quantity : Int} {r : Reservation}
    (h : Was A s fun t => ∃ r, t.reservation? product order = some r ∧
      r.ensureSettleable quantity = .ok ())
    (he : Edits (Tunable A) s.committed t) (hr : t.reservation? product order = some r)
    (hactive : r.status = .active) : r.ensureSettleable quantity = .ok () := by
  obtain ⟨t₀, ⟨r₀, hr₀, hsettle⟩, -, hp⟩ := h.before he
  obtain ⟨r', hr', hprec⟩ := hp.reservations _ _ hr₀
  cases hr.symm.trans hr'
  exact hprec.same hactive ▸ hsettle

/-- **An order in the status in which it was seen is the order that was seen.** -/
theorem order {id : OrderId} {order o : Order} (h : Was A s fun t => t.order? id = some order)
    (he : Edits (Tunable A) s.committed t) (ho : t.order? id = some o)
    (hs : o.status = order.status) : o = order := by
  obtain ⟨t₀, horder, -, hp⟩ := h.before he
  obtain ⟨o', ho', hprec⟩ := hp.orders _ _ horder
  cases ho.symm.trans ho'
  exact hprec.same hs.symm

end Was

theorem Reservation.ensureSettleable_eq_ok_iff {r : Reservation} {quantity : Int} {u : Unit} :
    r.ensureSettleable quantity = .ok u ↔ r.status = .active ∧ r.quantity = quantity := by
  unfold ensureSettleable
  by_cases hs : r.status = .active <;> by_cases hq : r.quantity = quantity <;> simp [hs, hq]

/-! ## The writes of a movement -/

/-- **What a restock takes for the counts it has met** is what it has met, if they were within their bounds. -/
theorem StockService.beforeRestock_eq {seen shown : StockRecord} {quantity : Int} {now : Instant}
    (hseen : seen.InBounds) (h : seen.restock quantity now = .ok shown) :
    beforeRestock shown quantity = seen.snapshot := by
  obtain ⟨-, hnext⟩ := StockRecord.restock_eq_ok_iff.mp h
  obtain ⟨-, rfl⟩ := StockRecord.nextChecked_eq_ok_iff.mp hnext
  have hfits := StockRecord.fits_of_nonneg hseen.available hseen.reserved hseen.total
  simp only [beforeRestock, StockRecord.next, StockRecord.snapshot, Int.add_sub_cancel]
  rw [Width.wrap_eq hfits.1]

namespace Movement

/-- The write that opens or settles the reservation of a movement. -/
def markWrites : Movement → List Write
  | reserve product quantity order expiresAt now =>
    [.insertReservation (.start product order quantity expiresAt now)]
  | release product _ order target now =>
    [.moveReservation product order .active target.status now]
  | deduct product _ order now => [.moveReservation product order .active .confirmed now]
  | restock .. | adjust .. => []

/-- The order whose reservation a movement settles, and the quantity that it has to have. -/
def settles? : Movement → Option (OrderId × Int)
  | release _ quantity order .. | deduct _ quantity order _ => some (order, quantity)
  | reserve .. | restock .. | adjust .. => none

/-- The write of the record and the mark on the reservation, and the entry behind them. -/
def guardedWrites (m : Movement) (seen next : StockRecord) : List Write :=
  .replaceStock next seen.version ::
    (m.markWrites ++ [.appendEntry (m.entry seen.snapshot next.snapshot)])

/-- The writes of a movement that adds to whatever is there; its entry shows a record read later. -/
def restockWrites (product : ProductId) (quantity : Int) (reason : Option String)
    (operator : Option OperatorId) (now : Instant) (shown : StockRecord) : List Write :=
  [.increaseStock product quantity now,
    .appendEntry ((restock product quantity reason operator now).entry
      (StockService.beforeRestock shown quantity) shown.snapshot)]

/-- **The writes of a movement as a call plans them**, with the record that it answers. -/
inductive Planned (A : ServiceCall → Prop) (s : Store) :
    Movement → StockRecord → List Write → Prop
  | guarded {m : Movement} {seen next : StockRecord} (hkind : m.kind ≠ .restock)
      (hseen : Was A s fun t => t.liveStock? m.product = some seen)
      (hheld : ∀ order quantity, m.settles? = some (order, quantity) →
        Was A s fun t => ∃ r, t.reservation? m.product order = some r ∧
          r.ensureSettleable quantity = .ok ())
      (hnext : m.next seen = .ok next) : Planned A s m next (m.guardedWrites seen next)
  | restock {product : ProductId} {quantity : Int} {reason : Option String}
      {operator : Option OperatorId} {now : Instant} {seen shown : StockRecord}
      (hseen : Was A s fun t => t.liveStock? product = some seen)
      (hshown : seen.restock quantity now = .ok shown) :
      Planned A s (.restock product quantity reason operator now) shown
        (restockWrites product quantity reason operator now shown)

variable {m : Movement} {seen next : StockRecord} {after : StockRecord}

/-- The record that was seen is the one of the product. -/
theorem product_of_seen (hseen : Was A s fun t => t.liveStock? m.product = some seen)
    (hnext : m.next seen = .ok next) : next.product = m.product := by
  obtain ⟨s₀, hs₀, -, h⟩ := hseen
  rw [next_eq hnext]
  exact hs₀.wellKept.stockKey _ _ (Tables.liveStock?_eq_some_iff.mp h)

theorem Planned.later (h : m.Planned A s next writes) (hl : Later A s s') :
    m.Planned A s' next writes := by
  cases h with
  | guarded hkind hseen hheld hnext =>
    exact .guarded hkind (hseen.later hl) (fun o q h => (hheld o q h).later hl) hnext
  | restock hseen hshown => exact .restock (hseen.later hl) hshown

/-- A reservation that is settled stays under its key. -/
theorem settled_of_apply {product : ProductId} {order : OrderId} {status : ReservationStatus}
    {now : Instant} (ht : t.KeepsKeys)
    (h : (Write.moveReservation product order .active status now).apply t = .ok t') :
    ∃ r, t.reservations.get? ⟨product, order⟩ = some r ∧ r.status = .active ∧
      t' = { t with
        reservations := t.reservations.insert ⟨product, order⟩
          { r with status := status, updatedAt := now } } := by
  obtain ⟨r, hr, hactive, -, rfl⟩ := Write.apply_moveReservation_iff.mp h
  have hkey : r.key = ⟨product, order⟩ := ht _ _ hr
  refine ⟨r, hr, hactive, ?_⟩
  rw [← hkey]
  rfl

/-- **The marks that take effect are the ones of the movement**, if the reservation that it settles is
the one that was seen. -/
theorem marks_of_applyAll (ht : t.KeepsKeys)
    (hheld : ∀ order quantity r, m.settles? = some (order, quantity) →
      t.reservation? m.product order = some r → r.status = .active → r.quantity = quantity)
    (h : Write.applyAll m.markWrites t = .ok t') :
    ∃ reservations, m.Marks t.reservations reservations ∧
      t' = { t with reservations := reservations } := by
  cases m with
  | reserve product quantity order expiresAt now =>
    obtain ⟨t₁, happly, hnil⟩ := Write.applyAll_cons_iff.mp h
    obtain rfl := Write.applyAll_nil_iff.mp hnil
    obtain ⟨hnone, rfl⟩ := Write.apply_insertReservation_iff.mp happly
    exact ⟨_, ⟨hnone, rfl⟩, rfl⟩
  | release product quantity order target now =>
    obtain ⟨t₁, happly, hnil⟩ := Write.applyAll_cons_iff.mp h
    obtain rfl := Write.applyAll_nil_iff.mp hnil
    obtain ⟨r, hr, hactive, rfl⟩ := settled_of_apply ht happly
    exact ⟨_, ⟨r, hr, hactive, hheld _ _ r rfl hr hactive, rfl⟩, rfl⟩
  | deduct product quantity order now =>
    obtain ⟨t₁, happly, hnil⟩ := Write.applyAll_cons_iff.mp h
    obtain rfl := Write.applyAll_nil_iff.mp hnil
    obtain ⟨r, hr, hactive, rfl⟩ := settled_of_apply ht happly
    exact ⟨_, ⟨r, hr, hactive, hheld _ _ r rfl hr hactive, rfl⟩, rfl⟩
  | restock product quantity reason operator now =>
    obtain rfl := Write.applyAll_nil_iff.mp h
    exact ⟨_, rfl, rfl⟩
  | adjust product delta reason operator now =>
    obtain rfl := Write.applyAll_nil_iff.mp h
    exact ⟨_, rfl, rfl⟩

/-- The next version, as long as the ledger has room. -/
theorem version_of_next (hnext : m.next seen = .ok next) (h0 : 0 ≤ seen.version)
    (hroom : seen.version + 1 < 2 ^ 63) : next.version = seen.version + 1 := by
  rw [next_eq hnext]
  exact Width.wrap_eq (Width.fits_int64.mpr (by omega))

/-- **Planned writes that take effect post the movement.** -/
theorem Planned.posts (h : m.Planned A s after writes) (he : Edits (Tunable A) s.committed t)
    (hk : t.WellKept) (hroom : t.entries.length + 1 < 2 ^ 63)
    (happly : Write.applyAll writes t = .ok t') : m.Posts t t' := by
  have hroomed : ∀ live, t.liveStock? m.product = some live →
      0 ≤ live.version ∧ live.version + 1 < 2 ^ 63 := fun live hlive => by
    have := hk.version _ _ (Tables.liveStock?_eq_some_iff.mp hlive)
    dsimp only at this
    omega
  cases h with
  | @guarded _ seen _ hkind hseen hheld hnext =>
    obtain ⟨t₁, hstock, happly⟩ := Write.applyAll_cons_iff.mp happly
    obtain ⟨t₂, hmarked, happly⟩ := Write.applyAll_append_iff.mp happly
    obtain ⟨t₃, hentry, hnil⟩ := Write.applyAll_cons_iff.mp happly
    obtain rfl := Write.applyAll_nil_iff.mp hnil
    obtain rfl := Write.apply_appendEntry_iff.mp hentry
    obtain ⟨live, hlive, hversion, rfl⟩ := Write.apply_replaceStock_iff.mp hstock
    rw [product_of_seen hseen hnext] at hlive hmarked
    obtain ⟨hagrees, -⟩ := hseen.agrees he hlive hversion
    obtain ⟨h0, hfits⟩ := hroomed live hlive
    obtain ⟨reservations, hmarks, rfl⟩ := marks_of_applyAll (t := t.putLive m.product after)
      hk.reservationKey (fun order quantity r hm hr hactive =>
        (Reservation.ensureSettleable_eq_ok_iff.mp
          ((hheld order quantity hm).reservation he hr hactive)).2) hmarked
    refine .intro hlive hagrees hnext ?_ hmarks ?_ fun _ => rfl
    · rw [version_of_next hnext (by omega) (by omega), hversion]
    · rw [next_eq hnext]
      simp only [StockRecord.next, StockRecord.snapshot]
      exact Prod.ext (by omega) (by omega)
  | @restock product quantity reason operator now seen _ hseen hshown =>
    obtain ⟨t₁, hstock, happly⟩ := Write.applyAll_cons_iff.mp happly
    obtain ⟨t₂, hentry, hnil⟩ := Write.applyAll_cons_iff.mp happly
    obtain rfl := Write.applyAll_nil_iff.mp hnil
    obtain rfl := Write.apply_appendEntry_iff.mp hentry
    obtain ⟨live, next, hlive, hnext, rfl⟩ := Write.apply_increaseStock_iff.mp hstock
    obtain ⟨h0, hfits⟩ := hroomed live hlive
    let m : Movement := .restock product quantity reason operator now
    have hmoved : m.next live = .ok next := hnext
    refine .intro (m := m) hlive (.refl live) hmoved (version_of_next hmoved h0 hfits) rfl ?_
      fun h => absurd rfl h
    obtain ⟨s₀, hs₀, -, hseen⟩ := hseen
    have hbounds := hs₀.sound.bounds _ _ (Tables.liveStock?_eq_some_iff.mp hseen)
    rw [StockService.beforeRestock_eq hbounds hshown, next_eq (m := m) hshown]
    simp only [StockRecord.next, StockRecord.snapshot]
    exact Prod.ext (by omega) (by omega)

/-- A planned movement writes the record of its product and the reservation of its order. -/
theorem Planned.rows (h : m.Planned A s after writes) {order : OrderId}
    (horder : ∀ o, m.order? = some o → o = order) {row : RowName}
    (hrow : row ∈ writes.filterMap Write.row?) :
    row = .stock m.product ∨ row = .reservation ⟨m.product, order⟩ := by
  cases h with
  | guarded hkind hseen hheld hnext =>
    have hproduct := product_of_seen hseen hnext
    cases m <;> simp_all [guardedWrites, markWrites, Write.row?, order?, product,
      Reservation.start, Reservation.key]
  | restock hseen hshown => simp_all [restockWrites, Write.row?, product]

end Movement

/-! ## One plan after the other -/

/-- **Writes and readings of the clock for each of several things**, one after the other. -/
inductive Works {α : Type} (R : α → Tape → List Write → Tape → Prop) :
    List α → Tape → List Write → Tape → Prop
  | nil {tape : Tape} : Works R [] tape [] tape
  | cons {a : α} {rest : List α} {tape tape' tape'' : Tape} {writes more : List Write}
      (h : R a tape writes tape') (hrest : Works R rest tape' more tape'') :
      Works R (a :: rest) tape (writes ++ more) tape''

namespace Works

variable {α : Type} {R R' : α → Tape → List Write → Tape → Prop} {as : List α}
  {tape tape' : Tape}

theorem imp (h : Works R as tape writes tape')
    (hR : ∀ a tape writes tape', R a tape writes tape' → R' a tape writes tape') :
    Works R' as tape writes tape' := by
  induction h with
  | nil => exact .nil
  | cons h _ ih => exact .cons (hR _ _ _ _ h) ih

end Works

/-! ## Growing -/

/-- A table gets at most one row longer. -/
theorem Table.length_insertRow_le {κ α : Type} [Ord κ] (key : κ) (value : α) (rows : List (κ × α)) :
    (insertRow key value rows).length ≤ rows.length + 1 := by
  induction rows with
  | nil => exact Nat.le_refl _
  | cons row rest ih =>
    unfold insertRow
    split
    · exact Nat.le_refl _
    · exact Nat.le_succ _
    · exact Nat.succ_le_succ ih

namespace Store

/-- The entries, the records and the reservations of a store. -/
def Tables.size (t : Tables) : Nat :=
  t.entries.length + t.stock.rows.length + t.reservations.rows.length

theorem Tables.size_insertStock_le (t : Tables) (product : ProductId) (row : StockRow) :
    ({ t with stock := t.stock.insert product row } : Tables).size ≤ t.size + 1 := by
  have : (t.stock.insert product row).rows.length ≤ t.stock.rows.length + 1 :=
    Table.length_insertRow_le ..
  dsimp only [size]
  omega

theorem Tables.size_putReservation_le (t : Tables) (r : Reservation) :
    (t.putReservation r).size ≤ t.size + 1 := by
  have : (t.reservations.insert r.key r).rows.length ≤ t.reservations.rows.length + 1 :=
    Table.length_insertRow_le ..
  dsimp only [size, putReservation]
  omega

/-- **A small store has room** for a version for each reservation, and for one more: what has versions has a
row. -/
theorem Tables.WellKept.hasRoom (ht : t.WellKept) (hsize : t.size < 2 ^ 63) :
    t.HasRoom (t.reservations.rows.length + 1) := fun product row hrow => by
  obtain ⟨h0, hversion⟩ := ht.version product row hrow
  have hrows : 0 < t.stock.rows.length :=
    List.length_pos_of_mem (Table.mem_of_lookup_eq_some hrow)
  dsimp only [size] at hsize
  exact ⟨h0, Width.fits_int64.mpr (by omega)⟩

/-- **A write adds at most one** entry, record or reservation. -/
theorem Write.growth_of_apply {w : Write} (h : w.apply t = .ok t') :
    t'.entries.length ≤ t.entries.length + 1 ∧ t'.size ≤ t.size + 1 := by
  cases w with
  | replaceStock next expected =>
    obtain ⟨live, -, -, rfl⟩ := apply_replaceStock_iff.mp h
    exact ⟨Nat.le_succ _, t.size_insertStock_le _ _⟩
  | increaseStock product quantity now =>
    obtain ⟨live, next, -, -, rfl⟩ := apply_increaseStock_iff.mp h
    exact ⟨Nat.le_succ _, t.size_insertStock_le _ _⟩
  | insertReservation reservation =>
    obtain ⟨-, rfl⟩ := apply_insertReservation_iff.mp h
    exact ⟨Nat.le_succ _, t.size_putReservation_le _⟩
  | moveReservation product order expected next now =>
    obtain ⟨r, -, -, -, rfl⟩ := apply_moveReservation_iff.mp h
    exact ⟨Nat.le_succ _, t.size_putReservation_le _⟩
  | appendEntry entry =>
    obtain rfl := apply_appendEntry_iff.mp h
    simp only [Tables.size, Tables.append, List.length_append, List.length_singleton]
    omega
  | insertOrder order =>
    obtain rfl := apply_insertOrder_iff.mp h
    exact ⟨Nat.le_succ _, Nat.le_succ _⟩
  | replaceOrder order expected =>
    obtain ⟨o, -, -, rfl⟩ := apply_replaceOrder_iff.mp h
    exact ⟨Nat.le_succ _, Nat.le_succ _⟩

/-- Writes add at most one each. -/
theorem Write.growth_of_applyAll (h : applyAll writes t = .ok t') :
    t'.entries.length ≤ t.entries.length + writes.length ∧ t'.size ≤ t.size + writes.length := by
  induction writes generalizing t with
  | nil =>
    obtain rfl := applyAll_nil_iff.mp h
    exact ⟨Nat.le_refl _, Nat.le_refl _⟩
  | cons w ws ih =>
    obtain ⟨t₁, hw, hws⟩ := applyAll_cons_iff.mp h
    have := growth_of_apply hw
    have := ih hws
    rw [List.length_cons]
    omega

end Store

/-! ## Plans that take effect -/

/-- **Plans that take effect one after the other**: each of them finds tables that were only edited. -/
theorem Works.each {α : Type} {R : α → Tape → List Write → Tape → Prop}
    {X : α → Tables → Tables → Prop} {as : List α} {tape tape' : Tape} {t₀ : Tables}
    {tunable : Prop} (h : Works R as tape writes tape')
    (hR : ∀ a tape writes tape' t t', R a tape writes tape' → Edits tunable t₀ t →
      t.entries.length + writes.length < 2 ^ 63 → Write.applyAll writes t = .ok t' →
      X a t t' ∧ Edits tunable t t')
    (he : Edits tunable t₀ t) (hroom : t.entries.length + writes.length < 2 ^ 63)
    (happly : Write.applyAll writes t = .ok t') : Each X as t t' ∧ Edits tunable t t' := by
  induction h generalizing t with
  | nil =>
    obtain rfl := Write.applyAll_nil_iff.mp happly
    exact ⟨.nil, .refl⟩
  | cons h _ ih =>
    obtain ⟨t₁, hfirst, hrest⟩ := Write.applyAll_append_iff.mp happly
    rw [List.length_append] at hroom
    obtain ⟨hX, he₁⟩ := hR _ _ _ _ _ _ h he (by omega) hfirst
    have := (Write.growth_of_applyAll hfirst).1
    obtain ⟨heach, he₂⟩ := ih (he.trans he₁) (by omega) hrest
    exact ⟨.cons hX heach, he₁.trans he₂⟩

end Stockroom
