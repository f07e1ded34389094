import Stockroom.Proofs.Ledger.Trail
import Stockroom.Proofs.Store.Stage

/-!
# Proofs/Store/Slice — what a store holds about one product

The `slice` of a product is its record, its reservations, and its entries without their numbers.  **A
write about a product is decided by the slice of this product** (`Write.slice_apply`) **and changes no
other** (`Write.agreeBeyond_of_apply`).  So a unit of work that writes about one product only meets
nothing that is held about another one: two of them that show the same slice, over stores with the same
slice, answer the same (`UnitOfWork.Alike.stage`).
-/

namespace Stockroom

/-- An entry without its number. -/
def Entry.unnumbered (e : Entry) : Entry := { e with id := none }

namespace Store

/-- What a store holds about one product. -/
structure Slice where
  row : Option StockRow
  reservation : OrderId → Option Reservation
  entries : List Entry

/-- The product that a write is about. -/
def Write.product? : Write → Option ProductId
  | replaceStock next _ => some next.product
  | increaseStock product .. => some product
  | insertReservation reservation => some reservation.product
  | moveReservation product .. => some product
  | appendEntry entry => some entry.product
  | insertOrder _ | replaceOrder .. => none

namespace Tables

variable {t t' t'' c c' : Tables} {p q : ProductId}

/-- **What the tables hold about a product.** -/
def slice (t : Tables) (product : ProductId) : Slice where
  row := t.stock.get? product
  reservation order := t.reservations.get? ⟨product, order⟩
  entries := (t.trailOf product).map Entry.unnumbered

/-- Whether two states differ in nothing but what they hold about a product. -/
structure AgreeBeyond (p : ProductId) (t t' : Tables) : Prop where
  slice : ∀ q, q ≠ p → t'.slice q = t.slice q
  orders : t'.orders = t.orders
  products : t'.products = t.products

theorem AgreeBeyond.refl (p : ProductId) (t : Tables) : t.AgreeBeyond p t :=
  ⟨fun _ _ => rfl, rfl, rfl⟩

theorem AgreeBeyond.trans (h : t.AgreeBeyond p t') (h' : t'.AgreeBeyond p t'') :
    t.AgreeBeyond p t'' :=
  ⟨fun q hq => (h'.slice q hq).trans (h.slice q hq), h'.orders.trans h.orders,
    h'.products.trans h.products⟩

/-- **Whether two states hold the same**, product by product, but for the numbers of their entries. -/
structure Matches (t t' : Tables) : Prop where
  stock : t.stock = t'.stock
  reservations : t.reservations = t'.reservations
  orders : t.orders = t'.orders
  products : t.products = t'.products
  entries : ∀ product, (t.trailOf product).map Entry.unnumbered =
    (t'.trailOf product).map Entry.unnumbered

theorem Matches.of_slices (hslices : ∀ product, t.slice product = t'.slice product)
    (horders : t.orders = t'.orders) (hproducts : t.products = t'.products) : t.Matches t' where
  stock := Table.ext_get? fun product => congrArg Slice.row (hslices product)
  reservations := Table.ext_get? fun key =>
    congrFun (congrArg Slice.reservation (hslices key.product)) key.order
  orders := horders
  products := hproducts
  entries product := congrArg Slice.entries (hslices product)

/-- Whether every record and every reservation stays under its own key. -/
structure Filed (t : Tables) : Prop where
  stock : ∀ product row, t.stock.get? product = some row → row.record.product = product
  reservations : t.KeepsKeys

theorem WellKept.filed (h : t.WellKept) : t.Filed := ⟨h.stockKey, h.reservationKey⟩

theorem liveStock?_eq_of_slice (h : t.slice p = t'.slice p) : t.liveStock? p = t'.liveStock? p :=
  congrArg (fun slice => slice.row.bind StockRow.live?) h

theorem reservation?_eq_of_slice (h : t.slice p = t'.slice p) (order : OrderId) :
    t.reservation? p order = t'.reservation? p order :=
  congrFun (congrArg Slice.reservation h) order

/-- The live record of a product is the one that is filed under it. -/
theorem Filed.product_of_live {record : StockRecord} (ht : t.Filed)
    (h : t.liveStock? p = some record) : record.product = p :=
  ht.stock p _ (liveStock?_eq_some_iff.mp h)

/-! ## Rows that are written -/

theorem slice_putLive (t : Tables) (p : ProductId) (record : StockRecord) :
    (t.putLive p record).slice p = { t.slice p with row := some ⟨record, none⟩ } := by
  have hrow : (t.putLive p record).stock.get? p = some ⟨record, none⟩ :=
    (Table.get?_insert ..).trans (if_pos rfl)
  rw [slice, hrow]
  rfl

theorem agreeBeyond_putLive (t : Tables) (p : ProductId) (record : StockRecord) :
    t.AgreeBeyond p (t.putLive p record) := by
  refine ⟨fun q hq => ?_, rfl, rfl⟩
  have hrow : (t.putLive p record).stock.get? q = t.stock.get? q :=
    (Table.get?_insert ..).trans (if_neg hq)
  rw [slice, hrow]
  rfl

theorem slice_putReservation {r : Reservation} (t : Tables) (hr : r.product = p) :
    (t.putReservation r).slice p =
      { t.slice p with reservation := Function.update (t.slice p).reservation r.order (some r) } := by
  have hreservation : (fun order => (t.putReservation r).reservations.get? ⟨p, order⟩) =
      Function.update (t.slice p).reservation r.order (some r) := by
    funext order
    rw [putReservation, Table.get?_insert, Function.update_apply, Reservation.key, hr]
    by_cases horder : order = r.order
    · rw [if_pos horder, if_pos (congrArg _ horder)]
    · rw [if_neg horder, if_neg fun hkey => horder (ReservationKey.mk.inj hkey).2]
      rfl
  rw [slice, hreservation]
  rfl

theorem agreeBeyond_putReservation {r : Reservation} (t : Tables) (hr : r.product = p) :
    t.AgreeBeyond p (t.putReservation r) := by
  refine ⟨fun q hq => ?_, rfl, rfl⟩
  have hreservation : (fun order => (t.putReservation r).reservations.get? ⟨q, order⟩) =
      (t.slice q).reservation := by
    funext order
    refine (Table.get?_insert ..).trans (if_neg fun hkey => hq ?_)
    exact (ReservationKey.mk.inj hkey).1.trans hr
  rw [slice, hreservation]
  rfl

theorem slice_append {entry : Entry} (t : Tables) (he : entry.product = p) :
    (t.append entry).slice p =
      { t.slice p with entries := (t.slice p).entries ++ [entry.unnumbered] } := by
  have hmine : (entry.numbered (t.lastEntryId + 1)).product = p := he
  have hentries : ((t.append entry).trailOf p).map Entry.unnumbered =
      (t.slice p).entries ++ [entry.unnumbered] := by
    rw [trailOf, append, List.filter_append, List.map_append, List.filter_cons_of_pos (by simpa),
      List.filter_nil]
    rfl
  rw [slice, hentries]
  rfl

theorem agreeBeyond_append {entry : Entry} (t : Tables) (he : entry.product = p) :
    t.AgreeBeyond p (t.append entry) := by
  refine ⟨fun q hq => ?_, rfl, rfl⟩
  have hother : (entry.numbered (t.lastEntryId + 1)).product ≠ q := fun h => hq (h.symm.trans he)
  have hentries : (t.append entry).trailOf q = t.trailOf q := by
    rw [trailOf, append, List.filter_append, List.filter_cons_of_neg (by simpa), List.filter_nil,
      List.append_nil]
    rfl
  rw [slice, hentries]
  rfl

/-- **Refreshing a row of a product** takes its slice from the slice of the committed state. -/
theorem slice_refresh {w : Write} {row : RowName} (hw : w.product? = some p) (hrow : w.row? = some row)
    (h : t.slice p = t'.slice p) (hc : c.slice p = c'.slice p) :
    (t.refresh c row).slice p = (t'.refresh c' row).slice p := by
  have hstock : (t.refresh c (.stock p)).slice p = (t'.refresh c' (.stock p)).slice p := by
    have hset (t c : Tables) :
        (t.refresh c (.stock p)).slice p = { t.slice p with row := (c.slice p).row } := by
      have hrow : (t.refresh c (.stock p)).stock.get? p = c.stock.get? p :=
        (Table.get?_set ..).trans (if_pos rfl)
      rw [slice, hrow]
      rfl
    rw [hset, hset, h, hc]
  have hreservation (order : OrderId) : (t.refresh c (.reservation ⟨p, order⟩)).slice p =
      (t'.refresh c' (.reservation ⟨p, order⟩)).slice p := by
    have hset (t c : Tables) : (t.refresh c (.reservation ⟨p, order⟩)).slice p =
        { t.slice p with reservation :=
          Function.update (t.slice p).reservation order ((c.slice p).reservation order) } := by
      have hreservation : (fun o => (t.refresh c (.reservation ⟨p, order⟩)).reservations.get? ⟨p, o⟩) =
          Function.update (t.slice p).reservation order ((c.slice p).reservation order) := by
        funext o
        rw [refresh, Table.get?_set, Function.update_apply]
        by_cases ho : o = order
        · rw [if_pos ho, if_pos (congrArg _ ho)]
          rfl
        · rw [if_neg ho, if_neg fun hkey => ho (ReservationKey.mk.inj hkey).2]
          rfl
      rw [slice, hreservation]
      rfl
    rw [hset, hset, h, hc]
  cases w with
  | replaceStock next expected =>
    cases hw
    cases hrow
    exact hstock
  | increaseStock product quantity now =>
    cases hw
    cases hrow
    exact hstock
  | insertReservation reservation =>
    cases hw
    cases hrow
    exact hreservation reservation.order
  | moveReservation product order expected next now =>
    cases hw
    cases hrow
    exact hreservation order
  | appendEntry entry => cases hrow
  | insertOrder order => cases hw
  | replaceOrder order expected => cases hw

theorem Filed.refresh {row : RowName} (ht : t.Filed) (hc : c.Filed) : (t.refresh c row).Filed := by
  refine ⟨?_, ht.reservations.refresh hc.reservations⟩
  cases row with
  | stock product =>
    intro other row hrow
    have hrow' := (Table.get?_set ..).symm.trans hrow
    split at hrow'
    · next heq => exact hc.stock _ _ (heq ▸ hrow')
    · exact ht.stock _ _ hrow'
  | reservation key => exact ht.stock
  | order id =>
    cases h : c.orders.get? id with
    | none => exact refresh_order_of_none h ▸ ht.stock
    | some order =>
      rw [refresh_order_of_some h]
      exact ht.stock

end Tables

/-! ## Writes about a product -/

namespace Write

variable {w : Write} {ws : List Write} {t t' c c' : Tables} {p : ProductId}

theorem filed_of_apply (ht : t.Filed) (h : w.apply t = .ok t') : t'.Filed := by
  refine ⟨?_, keepsKeys_of_apply ht.reservations h⟩
  cases w with
  | replaceStock next expected =>
    obtain ⟨live, -, -, rfl⟩ := apply_replaceStock_iff.mp h
    exact Table.forall_insert ht.stock rfl
  | increaseStock product quantity now =>
    obtain ⟨live, next, hlive, hnext, rfl⟩ := apply_increaseStock_iff.mp h
    obtain ⟨-, rfl⟩ := StockRecord.nextChecked_eq_ok_iff.mp (StockRecord.restock_eq_ok_iff.mp hnext).2
    have hproduct := ht.product_of_live hlive
    exact Table.forall_insert ht.stock hproduct
  | insertReservation reservation =>
    obtain ⟨-, rfl⟩ := apply_insertReservation_iff.mp h
    exact ht.stock
  | moveReservation product order expected next now =>
    obtain ⟨r, -, -, -, rfl⟩ := apply_moveReservation_iff.mp h
    exact ht.stock
  | appendEntry entry =>
    obtain rfl := apply_appendEntry_iff.mp h
    exact ht.stock
  | insertOrder order =>
    obtain rfl := apply_insertOrder_iff.mp h
    exact ht.stock
  | replaceOrder order expected =>
    obtain ⟨o, -, -, rfl⟩ := apply_replaceOrder_iff.mp h
    exact ht.stock

/-- A reservation that moves stays one of its product. -/
theorem product_of_moved {r r' : Reservation} {order : OrderId} {next : ReservationStatus}
    {now : Instant} (ht : t.Filed) (hr : t.reservation? p order = some r)
    (hmoved : r.moveTo next now = .ok r') : r'.product = p := by
  obtain ⟨-, rfl⟩ := Reservation.moveTo_eq_ok_iff.mp hmoved
  exact congrArg ReservationKey.product (ht.reservations _ _ hr)

/-- **A write about a product is decided by the slice of the product**: whether it takes effect, why it
does not, and what the slice is afterwards. -/
theorem slice_apply (hw : w.product? = some p) (ht : t.Filed) (h : t.slice p = t'.slice p) :
    (w.apply t).map (·.slice p) = (w.apply t').map (·.slice p) := by
  have hlive := Tables.liveStock?_eq_of_slice h
  cases w with
  | replaceStock next expected =>
    cases hw
    rw [apply, apply, hlive]
    cases t'.liveStock? next.product with
    | none => rfl
    | some live =>
      by_cases hversion : live.version = expected
      · simp only [hversion, if_true, Except.map, Tables.slice_putLive, h]
      · simp only [hversion, if_false, Except.map]
  | increaseStock product quantity now =>
    cases hw
    rw [apply, apply, hlive]
    cases t'.liveStock? p with
    | none => rfl
    | some live =>
      dsimp only
      cases orFail (live.restock quantity now) with
      | error rejection => rfl
      | ok next =>
        show Except.ok ((t.putLive p next).slice p) = .ok ((t'.putLive p next).slice p)
        rw [Tables.slice_putLive, Tables.slice_putLive, h]
  | insertReservation reservation =>
    cases hw
    have hfound : t.reservations.contains reservation.key = t'.reservations.contains reservation.key :=
      congrArg Option.isSome (Tables.reservation?_eq_of_slice h reservation.order)
    rw [apply, apply, hfound]
    split
    · rfl
    · show Except.ok ((t.putReservation reservation).slice reservation.product) =
        .ok ((t'.putReservation reservation).slice reservation.product)
      rw [Tables.slice_putReservation _ rfl, Tables.slice_putReservation _ rfl, h]
  | moveReservation product order expected next now =>
    cases hw
    have hfound := Tables.reservation?_eq_of_slice h order
    rw [apply, apply, ← hfound]
    cases hr : t.reservation? p order with
    | none => rfl
    | some r =>
      by_cases hstatus : r.status = expected
      · simp only [Option.filter_some, hstatus, decide_true, if_true]
        cases hmoved : r.moveTo next now with
        | error refusal => rfl
        | ok r' =>
          show Except.ok ((t.putReservation r').slice p) = .ok ((t'.putReservation r').slice p)
          have hproduct := product_of_moved ht hr hmoved
          rw [Tables.slice_putReservation _ hproduct, Tables.slice_putReservation _ hproduct, h]
      · simp only [Option.filter_some, hstatus, decide_false, Bool.false_eq_true, if_false]
  | appendEntry entry =>
    cases hw
    show Except.ok ((t.append entry).slice entry.product) = .ok ((t'.append entry).slice entry.product)
    rw [Tables.slice_append _ rfl, Tables.slice_append _ rfl, h]
  | insertOrder order => cases hw
  | replaceOrder order expected => cases hw

/-- **A write about a product changes nothing that is held about another one.** -/
theorem agreeBeyond_of_apply (hw : w.product? = some p) (ht : t.Filed) (h : w.apply t = .ok t') :
    t.AgreeBeyond p t' := by
  cases w with
  | replaceStock next expected =>
    cases hw
    obtain ⟨live, -, -, rfl⟩ := apply_replaceStock_iff.mp h
    exact t.agreeBeyond_putLive ..
  | increaseStock product quantity now =>
    cases hw
    obtain ⟨live, next, -, -, rfl⟩ := apply_increaseStock_iff.mp h
    exact t.agreeBeyond_putLive ..
  | insertReservation reservation =>
    cases hw
    obtain ⟨-, rfl⟩ := apply_insertReservation_iff.mp h
    exact t.agreeBeyond_putReservation rfl
  | moveReservation product order expected next now =>
    cases hw
    obtain ⟨r, hr, -, -, rfl⟩ := apply_moveReservation_iff.mp h
    exact t.agreeBeyond_putReservation (congrArg ReservationKey.product (ht.reservations _ _ hr))
  | appendEntry entry =>
    cases hw
    obtain rfl := apply_appendEntry_iff.mp h
    exact t.agreeBeyond_append rfl
  | insertOrder order => cases hw
  | replaceOrder order expected => cases hw

/-- What is decided the same way for each of two states. -/
theorem ok_of_map_slice {x x' : Except Rejection Tables} (h : x.map (·.slice p) = x'.map (·.slice p)) :
    (∃ rejection, x = .error rejection ∧ x' = .error rejection) ∨
      ∃ t t', x = .ok t ∧ x' = .ok t' ∧ t.slice p = t'.slice p := by
  cases x with
  | error rejection =>
    cases x' with
    | error rejection' =>
      cases h
      exact .inl ⟨rejection, rfl, rfl⟩
    | ok t' => cases h
  | ok t =>
    cases x' with
    | error rejection' => cases h
    | ok t' => exact .inr ⟨t, t', rfl, rfl, Except.ok.inj h⟩

/-- **Writes about a product are decided by the slice of the product**, and change no other. -/
theorem slice_applyAll (hws : ∀ w ∈ ws, w.product? = some p) (ht : t.Filed)
    (h : t.slice p = t'.slice p) :
    (applyAll ws t).map (·.slice p) = (applyAll ws t').map (·.slice p) := by
  induction ws generalizing t t' with
  | nil => exact congrArg Except.ok h
  | cons w ws ih =>
    have hw := hws w List.mem_cons_self
    unfold applyAll
    rw [List.foldlM_cons, List.foldlM_cons]
    rcases ok_of_map_slice (slice_apply hw ht h) with ⟨rejection, hx, hx'⟩ | ⟨t₁, t₁', hx, hx', h₁⟩
    · rw [hx, hx']
    · rw [hx, hx']
      exact ih (fun w hw => hws w (List.mem_cons_of_mem _ hw)) (filed_of_apply ht hx) h₁

theorem filed_of_applyAll (ht : t.Filed) (h : applyAll ws t = .ok t') : t'.Filed := by
  induction ws generalizing t with
  | nil => exact applyAll_nil_iff.mp h ▸ ht
  | cons w ws ih =>
    obtain ⟨t₁, hw, hws⟩ := applyAll_cons_iff.mp h
    exact ih (filed_of_apply ht hw) hws

theorem agreeBeyond_of_applyAll (hws : ∀ w ∈ ws, w.product? = some p) (ht : t.Filed)
    (h : applyAll ws t = .ok t') : t.AgreeBeyond p t' := by
  induction ws generalizing t with
  | nil => exact applyAll_nil_iff.mp h ▸ .refl p t
  | cons w ws ih =>
    obtain ⟨t₁, hw, hrest⟩ := applyAll_cons_iff.mp h
    exact (agreeBeyond_of_apply (hws w List.mem_cons_self) ht hw).trans
      (ih (fun w hw => hws w (List.mem_cons_of_mem _ hw)) (filed_of_apply ht hw) hrest)

end Write

/-! ## Units of work about a product -/

namespace UnitOfWork

variable {u u' : UnitOfWork} {t t' c c' : Tables} {p : ProductId} {w : Write}

/-- **Two units of work that show the same about a product**, and have written the same about nothing
else. -/
structure Alike (p : ProductId) (u u' : UnitOfWork) : Prop where
  slice : u.working.slice p = u'.working.slice p
  written : u.written = u'.written
  pending : u.pending = u'.pending
  about : ∀ w ∈ u.pending, w.product? = some p
  filed : u.working.Filed

theorem Alike.start (hc : c.Filed) (hslice : c.slice p = c'.slice p) :
    (start c).Alike p (start c') :=
  ⟨hslice, rfl, rfl, fun _ hw => absurd hw List.not_mem_nil, hc⟩

theorem Alike.refreshed (h : u.Alike p u') (hw : w.product? = some p) (hc : c.Filed)
    (hslice : c.slice p = c'.slice p) :
    (u.refreshed c w.row?).Alike p (u'.refreshed c' w.row?) := by
  unfold UnitOfWork.refreshed
  cases hrow : w.row? with
  | none => exact h
  | some row =>
    dsimp only
    rw [← h.written]
    split
    · exact h
    · exact ⟨Tables.slice_refresh hw hrow h.slice hslice, rfl, h.pending, h.about,
        h.filed.refresh hc⟩

/-- **A write about the product is answered the same in both**, and both show the same afterwards. -/
theorem Alike.stage (h : u.Alike p u') (hw : w.product? = some p) (hc : c.Filed)
    (hslice : c.slice p = c'.slice p) :
    (u.stage c w).1 = (u'.stage c' w).1 ∧ (u.stage c w).2.Alike p (u'.stage c' w).2 := by
  have hr := h.refreshed hw hc hslice
  simp only [UnitOfWork.stage]
  rcases Write.ok_of_map_slice (Write.slice_apply hw hr.filed hr.slice) with
    ⟨rejection, hx, hx'⟩ | ⟨t, t', hx, hx', ht⟩
  · rw [hx, hx']
    cases rejection <;> exact ⟨rfl, hr⟩
  · rw [hx, hx', hr.written, hr.pending]
    refine ⟨rfl, ht, rfl, rfl, fun w' hw' => ?_, Write.filed_of_apply hr.filed hx⟩
    rcases List.mem_append.mp hw' with hw' | hw'
    · exact hr.about w' (hr.pending ▸ hw')
    · exact List.mem_singleton.mp hw' ▸ hw

/-- **The commit of writes about the product** fails for the same reason over both states, or leaves the
same about the product. -/
theorem Alike.commit (h : u.Alike p u') (hc : c.Filed) (hslice : c.slice p = c'.slice p) :
    (∃ error, u.commit c = .error error ∧ u'.commit c' = .error error) ∨
      ∃ t t', u.commit c = .ok t ∧ u'.commit c' = .ok t' ∧ t.slice p = t'.slice p ∧ t.Filed ∧
        c.AgreeBeyond p t := by
  simp only [UnitOfWork.commit, ← h.pending]
  rcases Write.ok_of_map_slice (Write.slice_applyAll h.about hc hslice) with
    ⟨rejection, hx, hx'⟩ | ⟨t, t', hx, hx', ht⟩
  · rw [hx, hx']
    cases rejection <;> exact .inl ⟨_, rfl, rfl⟩
  · rw [hx, hx']
    exact .inr ⟨t, t', rfl, rfl, ht, Write.filed_of_applyAll hc hx,
      Write.agreeBeyond_of_applyAll h.about hc hx⟩

end UnitOfWork

end Store

end Stockroom
