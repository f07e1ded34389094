import Mathlib.Algebra.Ring.Int.Defs
import Stockroom.Proofs.Ledger.Edit

/-!
# Proofs/Ledger/Held — the held pieces are the active reservations

The held pieces of a record and the reservations of its product lie in different tables.
**`Tables.Sound` says that they agree**: what a record holds is the sum of the active reservations, no
count is negative, and both counts together fit in 32 bits.  An edit keeps this (`Sound.edit`), because
a movement changes the record by its effect and the sum by the same number
(`Movement.Marks.held`).
-/

namespace Stockroom

open Store

/-! ## Sums over a table -/

namespace Table

variable {κ α : Type} [Ord κ] [Std.TransOrd κ]

theorem sum_insertRow (f : α → Int) (key : κ) (value : α) {rows : List (κ × α)}
    (h : rows.Pairwise fun a b => compare a.1 b.1 = .lt) :
    ((insertRow key value rows).map fun row => f row.2).sum =
      (rows.map fun row => f row.2).sum - ((lookup key rows).map f).getD 0 + f value := by
  induction rows with
  | nil => simp [insertRow, lookup]
  | cons first rest ih =>
    obtain ⟨hfirst, hrest⟩ := List.pairwise_cons.mp h
    simp only [insertRow]
    split
    · next hlt =>
      have hnone : lookup key (first :: rest) = none := by
        refine lookup_eq_none_of_lt fun row hrow => ?_
        rcases List.mem_cons.mp hrow with rfl | hrow
        · exact hlt
        · exact Std.TransCmp.lt_trans hlt (hfirst row hrow)
      simp only [hnone, List.map_cons, List.sum_cons, Option.map_none, Option.getD_none]
      omega
    · next heq =>
      simp only [lookup, heq, List.map_cons, List.sum_cons, if_true, Option.map_some,
        Option.getD_some]
      omega
    · next hgt =>
      have hne : ¬compare key first.1 = .eq := by rw [hgt]; decide
      simp only [lookup, if_neg hne, List.map_cons, List.sum_cons, ih hrest]
      omega

/-- **A row that is written replaces its part of a sum.** -/
theorem sum_values_insert [Std.LawfulEqOrd κ] (t : Table κ α) (f : α → Int) (key : κ) (value : α) :
    ((t.insert key value).values.map f).sum =
      (t.values.map f).sum - ((t.get? key).map f).getD 0 + f value := by
  have h := sum_insertRow f key value t.ascending
  simp only [values, List.map_map]
  exact h

end Table

/-! ## Held pieces -/

/-- What a reservation holds of a product. -/
def Reservation.holds (product : ProductId) (r : Reservation) : Int :=
  if r.product = product ∧ r.status = .active then r.quantity else 0

/-- The active reservations of a product. -/
def Store.Tables.activeOf (t : Tables) (product : ProductId) : List Reservation :=
  t.reservations.values.filter fun r => r.product = product ∧ r.status = .active

/-- **The sum of the active reservations of a product.** -/
def Store.Tables.held (t : Tables) (product : ProductId) : Int :=
  ((t.activeOf product).map Reservation.quantity).sum

theorem sum_holds (product : ProductId) (rs : List Reservation) :
    ((rs.filter fun r => r.product = product ∧ r.status = .active).map
      Reservation.quantity).sum = (rs.map (Reservation.holds product)).sum := by
  induction rs with
  | nil => rfl
  | cons r rs ih =>
    by_cases h : r.product = product ∧ r.status = .active
    · rw [List.filter_cons_of_pos (by simp [h]), List.map_cons, List.map_cons, List.sum_cons,
        List.sum_cons, ih, Reservation.holds, if_pos h]
    · rw [List.filter_cons_of_neg (by simp [h]), List.map_cons, List.sum_cons, ih,
        Reservation.holds, if_neg h, Int.zero_add]

namespace Store.Tables

variable {t t' : Tables} {product : ProductId} {key : ReservationKey} {r : Reservation}

theorem held_eq_sum (t : Tables) (product : ProductId) :
    t.held product = (t.reservations.values.map (Reservation.holds product)).sum :=
  sum_holds product t.reservations.values

/-- Nothing is held of a product that has no reservations. -/
theorem held_eq_zero (h : ∀ key r, t.reservations.get? key = some r → r.product ≠ product) :
    t.held product = 0 := by
  rw [held, activeOf, List.filter_eq_nil_iff.mpr]
  · rfl
  · intro r hr
    obtain ⟨key, hkey⟩ := Table.mem_values.mp hr
    simp [h key r hkey]

end Store.Tables

namespace Movement

variable {m : Movement} {t t' : Table ReservationKey Reservation}

/-- **A movement changes what is held by its effect**, and only of its own product. -/
theorem Marks.held (h : m.Marks t t') (hk : ∀ key r, t.get? key = some r → r.key = key)
    (product : ProductId) :
    (t'.values.map (Reservation.holds product)).sum =
      (t.values.map (Reservation.holds product)).sum +
        if product = m.product then (m.kind.effect m.change).2 else 0 := by
  have hsettled : ∀ {p order quantity status now r}, t.get? ⟨p, order⟩ = some r →
      r.status = .active → r.quantity = quantity → status ≠ .active →
      t' = t.insert ⟨p, order⟩ { r with status := status, updatedAt := now } →
      (t'.values.map (Reservation.holds product)).sum =
        (t.values.map (Reservation.holds product)).sum +
          if product = p then -quantity else 0 := by
    intro p order quantity status now r hr hactive hq hstatus ht
    have hp : r.product = p := congrArg ReservationKey.product (hk _ _ hr)
    rw [ht, Table.sum_values_insert, hr]
    simp only [Reservation.holds, Option.map_some, Option.getD_some, hactive, hstatus, hp, hq,
      and_true, and_false, if_false, eq_comm (a := product)]
    split <;> omega
  cases m with
  | reserve p quantity order expiresAt now =>
    obtain ⟨hnone, rfl⟩ := h
    rw [Table.sum_values_insert, hnone]
    by_cases hp : product = p
    · simp [Reservation.holds, Reservation.start, kind, change, ChangeKind.effect,
        Movement.product, hp]
    · simp [Reservation.holds, Reservation.start, Movement.product, hp, Ne.symm hp]
  | release p quantity order target now =>
    obtain ⟨r, hr, hactive, hq, ht⟩ := h
    exact hsettled hr hactive hq target.status_ne_active ht
  | deduct p quantity order now =>
    obtain ⟨r, hr, hactive, hq, ht⟩ := h
    exact hsettled hr hactive hq (by decide) ht
  | restock p quantity reason operator now =>
    rw [show t' = t from h]
    simp [kind, ChangeKind.effect]
  | adjust p delta reason operator now =>
    rw [show t' = t from h]
    simp [kind, ChangeKind.effect]

/-- A reservation after a movement was there before, with the same quantity, or is opened by it. -/
theorem Marks.opened (h : m.Marks t t') {key : ReservationKey} {r : Reservation}
    (hr : t'.get? key = some r) :
    (∃ r₀, t.get? key = some r₀ ∧ r.quantity = r₀.quantity) ∨
      key.product = m.product ∧ m.kind = .reserve ∧ r.quantity = m.change := by
  have hsettled : ∀ {key' r₀ status now}, t.get? key' = some r₀ →
      t' = t.insert key' { r₀ with status := status, updatedAt := now } →
      ∃ r₀, t.get? key = some r₀ ∧ r.quantity = r₀.quantity := by
    rintro key' r₀ status now hr₀ rfl
    rw [Table.get?_insert] at hr
    split at hr
    · next heq =>
      cases hr
      exact ⟨r₀, heq ▸ hr₀, rfl⟩
    · exact ⟨r, hr, rfl⟩
  cases m with
  | reserve p quantity order expiresAt now =>
    obtain ⟨-, rfl⟩ := h
    rw [Table.get?_insert] at hr
    split at hr
    · next heq =>
      cases hr
      exact .inr ⟨congrArg ReservationKey.product heq, rfl, rfl⟩
    · exact .inl ⟨r, hr, rfl⟩
  | release p quantity order target now =>
    obtain ⟨r₀, hr₀, -, -, ht⟩ := h
    exact .inl (hsettled hr₀ ht)
  | deduct p quantity order now =>
    obtain ⟨r₀, hr₀, -, -, ht⟩ := h
    exact .inl (hsettled hr₀ ht)
  | restock p quantity reason operator now => exact .inl ⟨r, h ▸ hr, rfl⟩
  | adjust p delta reason operator now => exact .inl ⟨r, h ▸ hr, rfl⟩

/-- Only a positive quantity is reserved. -/
theorem change_pos_of_reserve {seen next : StockRecord} (hkind : m.kind = .reserve)
    (hnext : m.next seen = .ok next) : 0 < m.change := by
  cases m with
  | reserve p quantity order expiresAt now => exact (StockRecord.reserve_eq_ok_iff.mp hnext).1
  | _ => cases hkind

end Movement

/-! ## Sound tables -/

namespace Store.Tables

variable {t t' : Tables} {tunable : Prop}

/-- **Records and reservations agree.** -/
structure Sound (t : Tables) : Prop where
  bounds : ∀ product row, t.stock.get? product = some row → row.record.InBounds
  held : ∀ product row, t.stock.get? product = some row → row.record.reserved = t.held product
  owned : ∀ key r, t.reservations.get? key = some r → t.stock.get? key.product ≠ none
  positive : ∀ key r, t.reservations.get? key = some r → 0 < r.quantity

/-- A record is written that counts what the row before it counted. -/
theorem Sound.recount {product : ProductId} {old new : StockRow} (h : t.Sound)
    (hrow : t.stock.get? product = some old) (hnew : new.record.InBounds)
    (hreserved : new.record.reserved = old.record.reserved) :
    ({ t with stock := t.stock.insert product new } : Tables).Sound where
  bounds := Table.forall_insert h.bounds hnew
  held := Table.forall_insert h.held (hreserved.trans (h.held _ _ hrow))
  owned key r hr := by
    rw [Table.get?_insert]
    split
    · exact nofun
    · exact h.owned key r hr
  positive := h.positive

theorem Sound.ofReservations {orders : Table OrderId Order} (h : t.Sound) :
    ({ t with orders := orders } : Tables).Sound := ⟨h.bounds, h.held, h.owned, h.positive⟩

/-- **A movement of the live record keeps records and reservations in agreement.** -/
theorem Sound.moved {m : Movement} {live seen next : StockRecord}
    {reservations : Table ReservationKey Reservation} {entries : List Entry} {last : Int} (h : t.Sound)
    (hk : ∀ key r, t.reservations.get? key = some r → r.key = key)
    (hlive : t.liveStock? m.product = some live) (hseen : seen.Agrees live)
    (hnext : m.next seen = .ok next) (hmarks : m.Marks t.reservations reservations) :
    ({ t with
      stock := t.stock.insert m.product ⟨next, none⟩
      reservations := reservations
      entries := entries
      lastEntryId := last } : Tables).Sound := by
  have hrow := liveStock?_eq_some_iff.mp hlive
  have heq := Movement.next_eq hnext
  have hheld : ∀ product, (reservations.values.map (Reservation.holds product)).sum =
      t.held product + if product = m.product then (m.kind.effect m.change).2 else 0 :=
    fun product => held_eq_sum t product ▸ hmarks.held hk product
  refine ⟨Table.forall_insert h.bounds ?_, fun product row hr => ?_, fun key r hr => ?_,
    fun key r hr => ?_⟩
  · obtain ⟨hav, hres, htot⟩ := h.bounds _ _ hrow
    exact Movement.next_inBounds ⟨hseen.available ▸ hav, hseen.reserved ▸ hres,
      by rw [hseen.available, hseen.reserved]; exact htot⟩ hnext
  · rw [held_eq_sum, hheld]
    rw [Table.get?_insert] at hr
    split at hr
    · next hp =>
      cases hr
      have hreserved : live.reserved = t.held m.product := h.held _ _ hrow
      rw [if_pos hp, hp, ← hreserved, ← hseen.reserved, heq]
      rfl
    · next hp =>
      rw [if_neg hp, Int.add_zero]
      exact h.held _ _ hr
  · rw [Table.get?_insert]
    split
    · exact nofun
    · next hne =>
      rcases hmarks.opened hr with ⟨r₀, hr₀, -⟩ | ⟨heq, -, -⟩
      · exact h.owned key r₀ hr₀
      · exact absurd heq hne
  · rcases hmarks.opened hr with ⟨r₀, hr₀, heq⟩ | ⟨-, hkind, heq⟩
    · exact heq ▸ h.positive key r₀ hr₀
    · exact heq ▸ Movement.change_pos_of_reserve hkind hnext

/-- **Every edit keeps records and reservations in agreement.** -/
theorem Sound.edit (h : t.Sound) (hk : t.WellKept) (he : Edit tunable t t') : t'.Sound := by
  cases he with
  | movement hposts =>
    obtain ⟨hlive, hseen, hnext, -, hmarks, -, -⟩ := hposts
    exact h.moved hk.reservationKey hlive hseen hnext hmarks
  | @register record stock threshold now hfresh hrecord hfits =>
    obtain ⟨hpos, -, hrecord⟩ := StockRecord.register_eq_ok_iff.mp hrecord
    have hzero : t.held record.product = 0 := held_eq_zero fun key r hr heq => by
      have hkey := hk.reservationKey key r hr
      have hproduct : key.product = record.product := by rw [← hkey]; exact heq
      exact h.owned key r hr (hproduct ▸ hfresh)
    refine ⟨Table.forall_insert h.bounds ?_, Table.forall_insert h.held ?_, fun key r hr => ?_,
      h.positive⟩
    · have := Width.fits_int32.mp hfits
      rw [hrecord]
      exact ⟨hpos, Int.le_refl 0, by show stock + 0 ≤ 2147483647; omega⟩
    · rw [hzero, hrecord]
    · show (t.stock.insert _ _).get? _ ≠ none
      rw [Table.get?_insert]
      split
      · exact nofun
      · exact h.owned key r hr
  | tune ht hlive htuned =>
    obtain ⟨-, rfl⟩ := StockRecord.withThreshold_eq_ok_iff.mp htuned
    have hrow := liveStock?_eq_some_iff.mp hlive
    obtain ⟨hav, hres, htot⟩ := h.bounds _ _ hrow
    exact h.recount hrow ⟨hav, hres, htot⟩ rfl
  | remove hlive =>
    have hrow := liveStock?_eq_some_iff.mp hlive
    obtain ⟨hav, hres, htot⟩ := h.bounds _ _ hrow
    exact h.recount hrow ⟨hav, hres, htot⟩ rfl
  | place hfresh hitems => exact h.ofReservations
  | advance horder hmoved => exact h.ofReservations

end Store.Tables

end Stockroom
