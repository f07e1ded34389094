import Stockroom.Proofs.Store.Backlog

/-!
# Proofs/Store/Overdue — what is collected first, and what is left of it

The `overdue` reservations of a moment stand in the order of their ends, of their products, and of their
orders.  A cleanup sorts by ends only; **that it shows the same order** (`Tables.overdue_eq_backlog`) is
because the rows stand in the order of their keys and sorting keeps the order of equals.

**What is left when reservations were released is told row by row** (`Tables.Releases`): they have expired,
the record of a product has all their pieces back and as many versions more, and each of them has its entry.
-/

namespace Stockroom

open Store

/-! ## The order of reservations -/

instance : Std.TransOrd Instant := inferInstanceAs (Std.TransCmp (compareOn Instant.nanos))

namespace Reservation

/-- **Which of two reservations comes first**: the one that ends first, then the one of the lower product,
then the one of the lower order. -/
def dueOrder : Reservation → Reservation → Ordering :=
  compareLex (compareOn expiresAt) (compareLex (compareOn product) (compareOn order))

instance : Std.TransCmp dueOrder :=
  inferInstanceAs (Std.TransCmp (compareLex (compareOn expiresAt) (compareOn key)))

theorem key_eq_of_dueOrder {a b : Reservation} (h : a.dueOrder b = .eq) : a.key = b.key := by
  have hkey : compare a.key b.key = .eq := (Ordering.then_eq_eq.mp h).2
  exact Std.LawfulEqOrd.eq_of_compare hkey

theorem dueOrder_total (a b : Reservation) : ((a.dueOrder b).isLE || (b.dueOrder a).isLE) = true := by
  have hswap : b.dueOrder a = (a.dueOrder b).swap := Std.OrientedCmp.eq_swap
  rw [hswap]
  cases a.dueOrder b <;> rfl

/-- With the same end, the order of the keys decides. -/
theorem isLE_dueOrder {a b : Reservation} (hends : a.expiresAt ≤ b.expiresAt)
    (hkeys : b.expiresAt ≤ a.expiresAt → compare a.key b.key = .lt) : (a.dueOrder b).isLE := by
  show ((compare a.expiresAt.nanos b.expiresAt.nanos).then (compare a.key b.key)).isLE
  rcases Int.lt_or_eq_of_le hends with hlt | heq
  · rw [Int.compare_eq_lt.mpr hlt]
    rfl
  · rw [hkeys (Int.le_of_eq heq.symm), heq, (Std.ReflOrd.compare_self : compare b.expiresAt.nanos _ = _)]
    rfl

end Reservation

namespace Store.Tables

variable {t t' t'' : Tables} {now : Instant}

/-! ## Whose time is over -/

/-- **The active reservations whose time is over**, in their order. -/
def overdue (t : Tables) (now : Instant) : List Reservation :=
  (t.reservations.values.filter fun r => r.status = .active ∧ r.expiresAt < now).mergeSort
    fun a b => (a.dueOrder b).isLE

/-- **They are the backlog.** -/
theorem overdue_eq_backlog (hk : t.KeepsKeys) (now : Instant) : t.overdue now = t.backlog now := by
  have hsame : (t.reservations.values.filter fun r => r.status = .active ∧ r.expiresAt < now) =
      t.reservations.values.filter (·.isExpiredAt now) :=
    List.filter_congr fun r _ => by rw [Reservation.isExpiredAt, Bool.decide_and]; rfl
  have hperm : (t.overdue now).Perm (t.backlog now) := by
    rw [overdue, backlog, hsame]
    exact (List.mergeSort_perm _ _).trans (List.mergeSort_perm _ _).symm
  have hoverdue : (t.overdue now).Pairwise fun a b => (a.dueOrder b).isLE :=
    List.pairwise_mergeSort (fun _ _ _ => Std.TransCmp.isLE_trans)
      Reservation.dueOrder_total _
  have hbacklog : (t.backlog now).Pairwise fun a b => (a.dueOrder b).isLE := by
    refine (pairwise_mergeSort_of_pairwise Reservation.endsBefore_trans Reservation.endsBefore_total
      ((Table.pairwise_values hk).filter _)).imp fun {a b} hab => ?_
    exact Reservation.isLE_dueOrder (of_decide_eq_true hab.1) fun h => hab.2 (decide_eq_true h)
  refine List.Perm.eq_of_pairwise (fun a b ha hb hab hba => ?_) hoverdue hbacklog hperm
  have hkey := Reservation.key_eq_of_dueOrder (Std.OrientedCmp.isLE_antisymm hab hba)
  obtain ⟨hrow, -⟩ := (mem_backlog hk).mp (hperm.mem_iff.mp ha)
  obtain ⟨hrow', -⟩ := (mem_backlog hk).mp hb
  exact Option.some.inj (hrow.symm.trans (hkey ▸ hrow'))

end Store.Tables

/-! ## What released reservations leave -/

/-- The record of a product after these reservations of it were released: their pieces are free, and it is as
many versions later. -/
def StockRecord.regain (record : StockRecord) (now : Instant) (returned : List Reservation) : StockRecord :=
  { record with
    available := record.available + (returned.map Reservation.quantity).sum
    reserved := record.reserved - (returned.map Reservation.quantity).sum
    version := record.version + returned.length
    updatedAt := now }

/-- **One more reservation returns its pieces.** -/
theorem StockRecord.regain_concat (record : StockRecord) (now : Instant) (returned : List Reservation)
    (r : Reservation) :
    record.regain now (returned ++ [r]) = (record.regain now returned).regain now [r] := by
  simp only [regain, List.map_append, List.map_singleton, List.sum_append, List.sum_singleton,
    List.length_append, List.length_singleton, Int.natCast_add, Int.add_assoc, Int.sub_sub]

/-- A single reservation returns what a release gives back. -/
theorem StockRecord.regain_single {record : StockRecord} (hroom : Width.int64.Fits (record.version + 1))
    (now : Instant) (r : Reservation) :
    record.next (record.available + r.quantity) (record.reserved - r.quantity) now =
      record.regain now [r] := by
  simp [next, regain, Width.wrap_eq hroom]

namespace Store

/-- A row is written only if there is something to return. -/
def StockRow.regain (row : StockRow) (now : Instant) (returned : List Reservation) : StockRow :=
  if returned = [] then row else { row with record := row.record.regain now returned }

@[simp] theorem StockRow.regain_nil (row : StockRow) (now : Instant) : row.regain now [] = row := rfl

@[simp] theorem StockRow.removedAt_regain (row : StockRow) (now : Instant) (returned : List Reservation) :
    (row.regain now returned).removedAt = row.removedAt := by
  unfold regain
  split <;> rfl

theorem StockRow.version_regain (row : StockRow) (now : Instant) (returned : List Reservation) :
    (row.regain now returned).record.version = row.record.version + returned.length := by
  unfold regain
  split
  · next h => simp [h]
  · rfl

theorem StockRow.regain_concat (row : StockRow) (now : Instant) (returned : List Reservation)
    (r : Reservation) : row.regain now (returned ++ [r]) = (row.regain now returned).regain now [r] := by
  by_cases h : returned = []
  · rw [h, List.nil_append, regain_nil]
  · simp only [regain, h, List.append_eq_nil_iff, List.cons_ne_self, and_false, if_false,
      StockRecord.regain_concat]

namespace Tables

variable {t t' t'' : Tables} {now : Instant} {r : Reservation} {released batch : List Reservation}
  {product : ProductId}

/-- The row of a product after these reservations were released. -/
def freed (t : Tables) (now : Instant) (released : List Reservation) (product : ProductId) :
    Option StockRow :=
  (t.stock.get? product).map (·.regain now (released.filter (·.product = product)))

theorem freed_concat (t : Tables) (now : Instant) (released : List Reservation) (r : Reservation) :
    t.freed now (released ++ [r]) r.product = (t.freed now released r.product).map (·.regain now [r]) := by
  simp [freed, StockRow.regain_concat, Function.comp_def]

theorem freed_concat_of_ne (hp : product ≠ r.product) :
    t.freed now (released ++ [r]) product = t.freed now released product := by
  simp [freed, List.filter_append, hp.symm]

/-- **What is left after these reservations were released, one after the other**: they have expired, each
product has their pieces back, and each of them has an entry with the counts before and after it. -/
structure Releases (now : Instant) (released : List Reservation) (t t' : Tables) : Prop where
  reservations : ∀ key, t'.reservations.get? key =
    (t.reservations.get? key).map fun r => if r ∈ released then r.expire now else r
  stock : ∀ product, t'.stock.get? product = t.freed now released product
  entries : ∃ appended : List Entry, t'.entries = t.entries ++ appended ∧
    appended.length = released.length ∧
      ∀ i r, released[i]? = some r → ∃ before after,
        t.freed now (released.take i) r.product = some before ∧
        t.freed now (released.take (i + 1)) r.product = some after ∧
        appended[i]? = some (((Movement.release r.product r.quantity r.order .expired now).entry
          before.record.snapshot after.record.snapshot).numbered (t.lastEntryId + (i + 1)))
  lastEntryId : t'.lastEntryId = t.lastEntryId + released.length
  orders : t'.orders = t.orders
  products : t'.products = t.products

theorem HasRoom.freed {versions : Nat} {row : StockRow} (h : t.HasRoom (released.length + versions))
    (hrow : t.freed now released product = some row) :
    0 ≤ row.record.version ∧ Width.int64.Fits (row.record.version + versions) := by
  obtain ⟨first, hfirst, rfl⟩ := Option.map_eq_some_iff.mp hrow
  obtain ⟨h0, hfits⟩ := h product first hfirst
  have := List.length_filter_le (fun r : Reservation => decide (r.product = product)) released
  rw [Width.fits_int64] at *
  rw [StockRow.version_regain]
  omega

namespace Releases

theorem nil (now : Instant) (t : Tables) : Releases now [] t t where
  reservations key := by simp
  stock product := by simp [freed]
  entries := ⟨[], by simp⟩
  lastEntryId := by simp
  orders := rfl
  products := rfl

theorem isLive (h : Releases now released t t') (product : ProductId) :
    t'.isLive product = t.isLive product := by
  have hlive : t'.liveStock? product =
      ((t.stock.get? product).map (·.regain now (released.filter (·.product = product)))).bind
        StockRow.live? := by rw [liveStock?, h.stock, freed]
  rw [Tables.isLive, Tables.isLive, hlive, liveStock?]
  cases t.stock.get? product with
  | none => rfl
  | some row =>
    simp only [Option.map_some, Option.bind_some, StockRow.live?, StockRow.removedAt_regain]
    split <;> rfl

/-- **One more is released.** -/
theorem concat (h : Releases now released t t') (hk : t.KeepsKeys) (hroom : t.HasRoom (released.length + 1))
    (hr : t.reservations.get? r.key = some r) (hnew : r ∉ released) (hlive : t.isLive r.product = true) :
    Releases now (released ++ [r]) t (t'.collect now r) := by
  obtain ⟨live, hlive'⟩ := Option.isSome_iff_exists.mp ((h.isLive r.product).trans hlive)
  have hbefore := (h.stock r.product).symm.trans (liveStock?_eq_some_iff.mp hlive')
  -- The next record is what the row in the first tables becomes with one more reservation returned.
  let next := live.next (live.available + r.quantity) (live.reserved - r.quantity) now
  have hafter : t.freed now (released ++ [r]) r.product = some ⟨next, none⟩ := by
    obtain ⟨-, hversion⟩ := hroom.freed hbefore
    rw [freed_concat, hbefore]
    exact congrArg (fun record => some (StockRow.mk record none))
      (StockRecord.regain_single hversion now r).symm
  have hcollect : t'.collect now r = ((t'.putLive r.product next).putReservation (r.expire now)).append
      ((Movement.release r.product r.quantity r.order .expired now).entry live.snapshot
        next.snapshot) := by rw [collect, hlive']
  rw [hcollect]
  refine ⟨fun key => ?_, fun product => ?_, ?_, ?_, h.orders, h.products⟩
  · show (t'.reservations.insert r.key (r.expire now)).get? key = _
    rw [Table.get?_insert]
    split
    · next heq => simp [heq, hr]
    · next hne =>
      rw [h.reservations key]
      refine Option.map_congr fun other hother => ?_
      have hother' : other ≠ r := fun heq => hne ((hk key other hother).symm.trans (heq ▸ rfl))
      simp [hother']
  · show (t'.stock.insert r.product ⟨next, none⟩).get? product = _
    rw [Table.get?_insert]
    split
    · next heq => rw [heq, hafter]
    · next hne => rw [h.stock, freed_concat_of_ne hne]
  · obtain ⟨appended, hentries, hlength, hat⟩ := h.entries
    refine ⟨appended ++ [((Movement.release r.product r.quantity r.order .expired now).entry live.snapshot
      next.snapshot).numbered (t'.lastEntryId + 1)], ?_, by simp [hlength], fun i other hother => ?_⟩
    · show t'.entries ++ _ = _
      rw [hentries, List.append_assoc]
      rfl
    · rcases Nat.lt_or_ge i released.length with hi | hi
      · rw [List.getElem?_append_left hi] at hother
        obtain ⟨before, after, hb, ha, hentry⟩ := hat i other hother
        refine ⟨before, after, ?_, ?_, ?_⟩
        · rwa [List.take_append_of_le_length hi.le]
        · rwa [List.take_append_of_le_length hi]
        · rwa [List.getElem?_append_left (hlength ▸ hi)]
      · obtain ⟨rfl, rfl⟩ : i = released.length ∧ other = r := by
          rw [List.getElem?_append_right hi, List.getElem?_singleton] at hother
          split at hother
          · next h0 => exact ⟨by omega, (Option.some.inj hother).symm⟩
          · cases hother
        refine ⟨⟨live, none⟩, ⟨next, none⟩, ?_, ?_, ?_⟩
        · rw [List.take_left, hbefore]
        · rw [List.take_of_length_le (by simp), hafter]
        · rw [List.getElem?_append_right (Nat.le_of_eq hlength), hlength, Nat.sub_self, h.lastEntryId,
            Int.add_assoc]
          rfl
  · show t'.lastEntryId + 1 = _
    rw [h.lastEntryId]
    simp [Int.add_assoc]

/-- A reservation of a removed product is not released. -/
theorem collect_of_not_isLive (hlive : ¬t.isLive r.product = true) : t.collect now r = t := by
  rw [Tables.isLive, Option.isSome_iff_ne_none, not_not] at hlive
  rw [collect, hlive]

/-- **More are released**, but for those of removed products. -/
theorem append_foldl (h : Releases now released t t') (hk : t.KeepsKeys)
    (hroom : t.HasRoom (released.length + batch.length)) (hnodup : (released ++ batch).Nodup)
    (hbatch : ∀ r ∈ batch, t.reservations.get? r.key = some r) :
    Releases now (released ++ batch.filter fun r => t.isLive r.product) t
      (batch.foldl (collect now) t') := by
  induction batch generalizing released t' with
  | nil => simpa using h
  | cons r batch ih =>
    obtain ⟨hr, hbatch⟩ := List.forall_mem_cons.mp hbatch
    rw [List.length_cons] at hroom
    rw [List.foldl_cons, List.filter_cons]
    split
    · next hlive =>
      have hnew : r ∉ released := fun hmem =>
        (List.nodup_append.mp hnodup).2.2 r hmem r List.mem_cons_self rfl
      have hnext := ih (h.concat hk (hroom.mono (by omega)) hr hnew hlive)
        (hroom.mono (by simp; omega)) (by simpa using hnodup) hbatch
      simpa using hnext
    · next hlive =>
      rw [collect_of_not_isLive (by rwa [h.isLive])]
      exact ih h (hroom.mono (by omega))
        (hnodup.sublist ((List.sublist_cons_self r batch).append_left released)) hbatch

theorem foldl (hk : t.KeepsKeys) (hroom : t.HasRoom batch.length) (hnodup : batch.Nodup)
    (hbatch : ∀ r ∈ batch, t.reservations.get? r.key = some r) :
    Releases now (batch.filter fun r => t.isLive r.product) t (batch.foldl (collect now) t) := by
  simpa using (nil now t).append_foldl hk (by simpa using hroom) (by simpa using hnodup) hbatch

end Releases

end Tables

end Store

end Stockroom
