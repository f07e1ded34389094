import Mathlib.Algebra.Order.BigOperators.Group.List
import Mathlib.Algebra.Order.Group.Int
import Stockroom.Proofs.Data.List
import Stockroom.Proofs.Ledger.Held
import Stockroom.Proofs.Store.Slice
import Stockroom.Store.Listing

/-!
# Proofs/Store/Backlog — expired reservations that wait to be collected

The `backlog` of a moment are all reservations that have expired by then, the longest expired first.
Collecting one gives its pieces back and takes it out of the backlog, unless its product was removed from
the stockroom: then nothing happens, and **it stays where it is, ahead of all that expired later**
(`Tables.Collects.backlog`).

That is all there is to it: a live product always has the pieces to give back, because its record holds as
many as its active reservations say (`Tables.Sound.release`).
-/

namespace Stockroom

open Store

/-! ## Rows of a table -/

namespace Table

variable {κ α : Type} [Ord κ] [Std.TransOrd κ] [Std.LawfulEqOrd κ] [DecidableEq κ]
  {keyOf : α → κ} {key : κ} {value : α}

/-- A row that does not count takes the place of the one under its key. -/
theorem filter_insertRow (count : α → Bool) (hvalue : count value = false) {rows : List (κ × α)}
    (h : rows.Pairwise fun a b => compare a.1 b.1 = .lt) (hkey : ∀ row ∈ rows, keyOf row.2 = row.1) :
    ((insertRow key value rows).map Prod.snd).filter count =
      ((rows.map Prod.snd).filter count).filter fun a => keyOf a ≠ key := by
  have hall : ∀ {rows : List (κ × α)}, (∀ row ∈ rows, keyOf row.2 = row.1) →
      (∀ row ∈ rows, compare key row.1 = .lt) →
      ((rows.map Prod.snd).filter count).filter (fun a => keyOf a ≠ key) =
        (rows.map Prod.snd).filter count := by
    intro rows hkey hlt
    refine List.filter_eq_self.mpr fun a ha => ?_
    obtain ⟨row, hrow, rfl⟩ := List.mem_map.mp (List.mem_filter.mp ha).1
    rw [hkey row hrow, decide_eq_true_iff]
    rintro rfl
    simpa using hlt row hrow
  induction rows with
  | nil => simp [insertRow, hvalue]
  | cons first rest ih =>
    obtain ⟨hfirst, hrest⟩ := List.pairwise_cons.mp h
    have hkeyRest : ∀ row ∈ rest, keyOf row.2 = row.1 := fun row hrow =>
      hkey row (List.mem_cons_of_mem _ hrow)
    simp only [insertRow]
    split
    · next hlt =>
      rw [hall hkey fun row hrow => ?_, List.map_cons, List.filter_cons_of_neg (by simp [hvalue])]
      rcases List.mem_cons.mp hrow with rfl | hrow
      · exact hlt
      · exact Std.TransCmp.lt_trans hlt (hfirst row hrow)
    · next heq =>
      obtain rfl := Std.LawfulEqCmp.eq_of_compare heq
      have hgone := hkey first List.mem_cons_self
      rw [List.map_cons, List.map_cons, List.filter_cons_of_neg (by simp [hvalue]), List.filter_cons]
      split
      · rw [List.filter_cons_of_neg (by simp [hgone]), hall hkeyRest hfirst]
      · exact (hall hkeyRest hfirst).symm
    · next hgt =>
      have hstays : keyOf first.2 ≠ key := by
        rw [hkey first List.mem_cons_self]
        rintro rfl
        simp at hgt
      rw [List.map_cons, List.map_cons, List.filter_cons, List.filter_cons, ih hrest hkeyRest]
      split
      · rw [List.filter_cons_of_pos (by simpa using hstays)]
      · rfl

theorem filter_values_insert {t : Table κ α} (count : α → Bool) (hvalue : count value = false)
    (hkey : ∀ key a, t.get? key = some a → keyOf a = key) :
    (t.insert key value).values.filter count =
      (t.values.filter count).filter fun a => keyOf a ≠ key :=
  filter_insertRow count hvalue t.ascending fun row hrow =>
    hkey row.1 row.2 (lookup_eq_some_of_mem t.ascending hrow)

omit [Std.TransOrd κ] [DecidableEq κ] in
/-- **Rows stand in the order of their keys.** -/
theorem pairwise_values {t : Table κ α} (hkey : ∀ key a, t.get? key = some a → keyOf a = key) :
    t.values.Pairwise fun a b => compare (keyOf a) (keyOf b) = .lt := by
  rw [values, List.pairwise_map]
  refine t.ascending.imp_of_mem fun {a b} ha hb hlt => ?_
  rwa [hkey _ _ (lookup_eq_some_of_mem t.ascending ha), hkey _ _ (lookup_eq_some_of_mem t.ascending hb)]

omit [Std.TransOrd κ] [DecidableEq κ] in
/-- No two rows have the same key. -/
theorem nodup_values {t : Table κ α} (hkey : ∀ key a, t.get? key = some a → keyOf a = key) :
    (t.values.map keyOf).Nodup := by
  rw [List.nodup_iff_pairwise_ne, List.pairwise_map]
  refine (pairwise_values hkey).imp fun hlt heq => ?_
  simp [heq] at hlt

end Table

/-! ## The backlog -/

/-- The reservation after its time is over. -/
def Reservation.expire (r : Reservation) (now : Instant) : Reservation :=
  { r with status := .expired, updatedAt := now }

/-- Only what is active expires. -/
theorem Reservation.active_of_isExpiredAt {r : Reservation} {now : Instant} (h : r.isExpiredAt now = true) :
    r.status = .active := by
  simp only [isExpiredAt, Bool.and_eq_true, beq_iff_eq] at h
  exact h.1

theorem Reservation.endsBefore_trans (a b c : Reservation) (hab : decide (a.expiresAt ≤ b.expiresAt) = true)
    (hbc : decide (b.expiresAt ≤ c.expiresAt) = true) : decide (a.expiresAt ≤ c.expiresAt) = true :=
  decide_eq_true (Int.le_trans (of_decide_eq_true hab) (of_decide_eq_true hbc))

theorem Reservation.endsBefore_total (a b : Reservation) :
    (decide (a.expiresAt ≤ b.expiresAt) || decide (b.expiresAt ≤ a.expiresAt)) = true := by
  simp only [Bool.or_eq_true, decide_eq_true_iff]
  exact Int.le_total a.expiresAt.nanos b.expiresAt.nanos

namespace Store.Tables

variable {t t' t'' : Tables} {now : Instant} {r : Reservation} {batch batch' : List Reservation}

/-- Whether the stockroom has a product. -/
def isLive (t : Tables) (product : ProductId) : Bool := (t.liveStock? product).isSome

/-- Whether the product of a reservation was removed. -/
def isStuck (t : Tables) (r : Reservation) : Bool := !t.isLive r.product

/-- **The expired reservations that wait**, the longest expired first. -/
def backlog (t : Tables) (now : Instant) : List Reservation :=
  (t.reservations.values.filter (·.isExpiredAt now)).mergeSort fun a b => a.expiresAt ≤ b.expiresAt

/-- A cleanup is shown the front of the backlog. -/
theorem expiredReservations_eq_take (t : Tables) (now : Instant) (limit : Nat) :
    t.expiredReservations now limit = (t.backlog now).take limit := rfl

theorem mem_backlog (hk : t.KeepsKeys) :
    r ∈ t.backlog now ↔ t.reservations.get? r.key = some r ∧ r.isExpiredAt now = true := by
  rw [backlog, List.mem_mergeSort, List.mem_filter, Table.mem_values]
  refine and_congr_left fun _ => ⟨fun ⟨key, hr⟩ => ?_, fun hr => ⟨_, hr⟩⟩
  rw [hk key r hr]
  exact hr

theorem nodup_backlog (hk : t.KeepsKeys) (now : Instant) : ((t.backlog now).map Reservation.key).Nodup := by
  refine ((List.mergeSort_perm _ _).map _).nodup_iff.mpr ?_
  exact (Table.nodup_values hk).sublist (List.filter_sublist.map _)

/-- A reservation that is written and has not expired is none of the backlog any more. -/
theorem backlog_insert (hk : t.KeepsKeys) (hr : r.isExpiredAt now = false)
    (hreservations : t'.reservations = t.reservations.insert r.key r) :
    t'.backlog now = (t.backlog now).filter fun other => other.key ≠ r.key := by
  rw [backlog, hreservations, Table.filter_values_insert (·.isExpiredAt now) hr hk,
    filter_mergeSort Reservation.endsBefore_trans Reservation.endsBefore_total]
  rfl

/-! ## Collecting -/

/-- **A record holds at least what one active reservation does.** -/
theorem Sound.le_reserved {row : StockRow} (h : t.Sound) (hrow : t.stock.get? r.product = some row)
    (hr : t.reservations.get? r.key = some r) (hactive : r.status = .active) :
    r.quantity ≤ row.record.reserved := by
  rw [h.held _ _ hrow, Tables.held]
  refine List.single_le_sum (fun quantity hquantity => ?_) _ (List.mem_map_of_mem ?_)
  · obtain ⟨other, hother, rfl⟩ := List.mem_map.mp hquantity
    obtain ⟨key, hkey⟩ := Table.mem_values.mp (List.mem_filter.mp hother).1
    exact Int.le_of_lt (h.positive key other hkey)
  · exact List.mem_filter.mpr ⟨Table.mem_values.mpr ⟨_, hr⟩, by simp [hactive]⟩

/-- **A live record can give back what an active reservation holds.** -/
theorem Sound.release {live : StockRecord} (h : t.Sound) (hlive : t.liveStock? r.product = some live)
    (hr : t.reservations.get? r.key = some r) (hactive : r.status = .active) (now : Instant) :
    live.release r.quantity now =
      .ok (live.next (live.available + r.quantity) (live.reserved - r.quantity) now) := by
  have hrow := liveStock?_eq_some_iff.mp hlive
  exact StockRecord.release_of_covered (h.bounds _ _ hrow) (h.positive _ _ hr)
    (h.le_reserved hrow hr hactive) now

/-- **The tables after an expired reservation was collected**: its pieces are free, if its product is live. -/
def collect (now : Instant) (t : Tables) (r : Reservation) : Tables :=
  match t.liveStock? r.product with
  | none => t
  | some live =>
    let next := live.next (live.available + r.quantity) (live.reserved - r.quantity) now
    ((t.putLive r.product next).putReservation (r.expire now)).append
      ((Movement.release r.product r.quantity r.order .expired now).entry live.snapshot next.snapshot)

/-- **What becomes of the tables when a batch of expired reservations is collected.** -/
structure Collects (now : Instant) (batch : List Reservation) (t t' : Tables) : Prop where
  sound : t'.Sound
  filed : t'.Filed
  live : ∀ product, t'.isLive product = t.isLive product
  expired : ∀ r ∈ batch, t.isLive r.product → t'.reservations.get? r.key = some (r.expire now)
  settled : ∀ key r, t.reservations.get? key = some r → r.status ≠ .active →
    t'.reservations.get? key = some r
  backlog : ∀ front back, t.backlog now = front ++ batch ++ back →
    t'.backlog now = front ++ batch.filter t.isStuck ++ back

namespace Collects

theorem nil (hsound : t.Sound) (hfiled : t.Filed) : Collects now [] t t :=
  ⟨hsound, hfiled, fun _ => rfl, nofun, fun _ _ hr _ => hr, fun _ _ h => h⟩

/-- A reservation of a removed product stays where it is. -/
theorem stuck (hsound : t.Sound) (hfiled : t.Filed) (h : t.isLive r.product = false) :
    Collects now [r] t t := by
  refine ⟨hsound, hfiled, fun _ => rfl, fun r' hr' hlive => ?_, fun _ _ hr _ => hr, fun _ _ hb => ?_⟩
  · rw [List.mem_singleton.mp hr', h] at hlive
    cases hlive
  · rw [hb, List.filter_cons_of_pos (by simp [isStuck, h]), List.filter_nil]

/-- **A reservation of a live product is released**, and leaves the backlog. -/
theorem released {live next : StockRecord} {entry : Entry} (hsound : t.Sound) (hfiled : t.Filed)
    (hlive : t.liveStock? r.product = some live) (hr : t.reservations.get? r.key = some r)
    (hactive : r.status = .active) (hnext : live.release r.quantity now = .ok next) :
    Collects now [r] t
      (((t.putLive r.product next).putReservation (r.expire now)).append entry) := by
  have hinsert (key : ReservationKey) :
      (t.reservations.insert r.key (r.expire now)).get? key =
        if key = r.key then some (r.expire now) else t.reservations.get? key := Table.get?_insert ..
  refine ⟨?_, ⟨?_, ?_⟩, fun product => ?_, fun r' hr' _ => ?_, fun key r' hr' hs => ?_,
    fun front back hb => ?_⟩
  · exact hsound.moved (m := .release r.product r.quantity r.order .expired now) hfiled.reservations
      hlive (.refl live) hnext ⟨r, hr, hactive, rfl, rfl⟩
  · refine Table.forall_insert hfiled.stock ?_
    exact (StockRecord.SameThreshold.release hnext).product.trans (hfiled.product_of_live hlive)
  · exact Table.forall_insert hfiled.reservations rfl
  · show ((t.stock.insert _ _).get? _ |>.bind StockRow.live?).isSome = (t.liveStock? _).isSome
    rw [Table.get?_insert]
    split
    · next heq =>
      rw [heq, hlive]
      rfl
    · rfl
  · obtain rfl := List.mem_singleton.mp hr'
    exact (hinsert _).trans (if_pos rfl)
  · refine (hinsert key).trans ((if_neg fun heq => hs ?_).trans hr')
    cases hr.symm.trans (heq ▸ hr')
    exact hactive
  · have hgone : t.isLive r.product = true := by rw [isLive, hlive]; rfl
    have hkeys := nodup_backlog hfiled.reservations now
    rw [hb, List.append_assoc, List.singleton_append, List.map_append, List.map_cons,
      List.nodup_middle, List.nodup_cons, ← List.map_append] at hkeys
    have hothers : ∀ other ∈ front ++ back, other.key ≠ r.key := fun other hother heq =>
      hkeys.1 (heq ▸ List.mem_map_of_mem hother)
    rw [backlog_insert hfiled.reservations (r := r.expire now) rfl rfl, hb, List.filter_append,
      List.filter_append, List.filter_cons_of_neg (by simp [Reservation.expire, Reservation.key]),
      List.filter_cons_of_neg (by simp [isStuck, hgone]), List.filter_nil, List.filter_nil,
      List.filter_eq_self.mpr fun other hother => ?_, List.filter_eq_self.mpr fun other hother => ?_]
    · exact decide_eq_true (hothers other (List.mem_append_right _ hother))
    · exact decide_eq_true (hothers other (List.mem_append_left _ hother))

/-- **One batch after the other.** -/
theorem append (h : Collects now batch t t') (h' : Collects now batch' t' t'') :
    Collects now (batch ++ batch') t t'' := by
  refine ⟨h'.sound, h'.filed, fun product => (h'.live product).trans (h.live product),
    fun r hr hlive => ?_, fun key r hr hs => h'.settled key r (h.settled key r hr hs) hs,
    fun front back hb => ?_⟩
  · rcases List.mem_append.mp hr with hr | hr
    · exact h'.settled _ _ (h.expired r hr hlive) nofun
    · exact h'.expired r hr (by rwa [h.live])
  · have hfirst := h.backlog front (batch' ++ back) (by rw [hb]; simp)
    have hsame : t'.isStuck = t.isStuck := funext fun r => by rw [isStuck, isStuck, h.live]
    rw [h'.backlog (front ++ batch.filter t.isStuck) back (by rw [hfirst]; simp), hsame,
      List.filter_append]
    simp

/-- **Whatever waits can be collected.** -/
theorem collect (hsound : t.Sound) (hfiled : t.Filed) (hr : r ∈ t.backlog now) :
    Collects now [r] t (t.collect now r) := by
  obtain ⟨hr, hexpired⟩ := (mem_backlog hfiled.reservations).mp hr
  have hactive := Reservation.active_of_isExpiredAt hexpired
  unfold Tables.collect
  cases hlive : t.liveStock? r.product with
  | none => exact .stuck hsound hfiled (by rw [isLive, hlive]; rfl)
  | some live => exact .released hsound hfiled hlive hr hactive (hsound.release hlive hr hactive now)

theorem foldl {front back : List Reservation} (hsound : t.Sound) (hfiled : t.Filed)
    (hbacklog : t.backlog now = front ++ batch ++ back) :
    Collects now batch t (batch.foldl (Tables.collect now) t) := by
  induction batch generalizing t front with
  | nil => exact .nil hsound hfiled
  | cons r batch ih =>
    have hmem : r ∈ t.backlog now := by simp [hbacklog]
    have hfirst := Collects.collect hsound hfiled hmem
    have hrest := hfirst.backlog front (batch ++ back) (by simp [hbacklog])
    exact hfirst.append (ih hfirst.sound hfirst.filed (hrest.trans (List.append_assoc ..).symm))

end Collects

/-! ## Waiting -/

/-- **Where a reservation waits**: so many of removed products expired before it, and so many others. -/
def Waits (t : Tables) (now : Instant) (r : Reservation) (stuck ahead : Nat) : Prop :=
  ∃ before after, t.backlog now = before ++ r :: after ∧ before.countP t.isStuck = stuck ∧
    before.countP (fun r => !t.isStuck r) = ahead

variable {limit stuck ahead : Nat}

/-- **After a batch was collected** a reservation of a live product has expired, or it waits behind those of
removed products that it waited behind before; the rest of the batch is gone. -/
theorem Waits.collects (h : t.Waits now r stuck ahead) (hlive : t.isLive r.product = true)
    (hc : Collects now ((t.backlog now).take limit) t t') :
    t'.reservations.get? r.key = some (r.expire now) ∧ stuck < limit ∨
      ∃ less, t'.Waits now r stuck less ∧ less + (limit - stuck) ≤ ahead := by
  obtain ⟨before, after, hbacklog, hstuck, hahead⟩ := h
  have hlength : before.length = stuck + ahead := by
    rw [← hstuck, ← hahead]
    simpa using List.length_eq_countP_add_countP (l := before) t.isStuck
  by_cases hshort : before.length < limit
  · refine .inl ⟨hc.expired r ?_ hlive, by omega⟩
    rw [hbacklog, List.take_append, List.take_cons (by omega)]
    simp
  have hbatch : (t.backlog now).take limit = before.take limit := by
    rw [hbacklog, List.take_append_of_le_length (by omega)]
  have hrest : t'.backlog now =
      (before.take limit).filter t.isStuck ++ before.drop limit ++ r :: after := by
    rw [hbatch] at hc
    rw [hc.backlog [] (before.drop limit ++ r :: after), List.nil_append, List.append_assoc]
    rw [hbacklog, List.nil_append, ← List.append_assoc, List.take_append_drop]
  have hsame : t'.isStuck = t.isStuck := funext fun r => by rw [isStuck, isStuck, hc.live]
  -- The batch was full, and of the reservations in it those of removed products are still there.
  have hfull := List.length_eq_countP_add_countP (l := before.take limit) t.isStuck
  have hcount (count : Reservation → Bool) :
      before.countP count = (before.take limit).countP count + (before.drop limit).countP count := by
    rw [← List.countP_append, List.take_append_drop]
  refine .inr ⟨_, ⟨_, after, hrest, ?_, rfl⟩, ?_⟩
  · rw [hsame, List.countP_append, List.countP_filter, ← hstuck, hcount]
    simp
  · have hnone : (before.take limit).countP (fun r => !t.isStuck r && t.isStuck r) = 0 :=
      List.countP_eq_zero.mpr fun r _ => by simp
    have hstucks := hcount t.isStuck
    have haheads := hcount fun r => !t.isStuck r
    rw [List.length_take] at hfull
    simp only [Bool.not_eq_true, Bool.decide_eq_false] at hfull
    rw [hsame, List.countP_append, List.countP_filter, hnone]
    omega

end Store.Tables

end Stockroom
