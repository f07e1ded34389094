import Stockroom.Proofs.Store.Slice

/-!
# Proofs/Store/Removal — nothing is written about a product that was removed

A product that was taken out of the stockroom keeps its row, and no write replaces this row, because every
write of a record looks for a live one (`Write.stock_of_apply`).  Reservations and entries carry no such
mark.  **What protects them is the company they keep**: writes are `Anchored` if whatever they write about a
product comes with a write of the product's record, and then none of them takes effect where the product was
removed (`Write.frozen_of_anchored`).
-/

namespace Stockroom.Store

variable {t t' t'' : Tables} {p q : ProductId}

/-! ## Products that were removed -/

namespace Tables

/-- Whether a product was taken out of the stockroom. -/
def Removed (p : ProductId) (t : Tables) : Prop :=
  ∃ record time, t.stock.get? p = some ⟨record, some time⟩

theorem Removed.not_live (h : t.Removed p) : t.liveStock? p = none := by
  obtain ⟨record, time, hrow⟩ := h
  rw [liveStock?, hrow]
  rfl

theorem Removed.ne_of_live {live : StockRecord} (h : t.Removed p) (hlive : t.liveStock? q = some live) :
    q ≠ p := by
  rintro rfl
  cases h.not_live.symm.trans hlive

theorem Removed.of_row (h : t.Removed p) (hrow : t'.stock.get? p = t.stock.get? p) : t'.Removed p := by
  obtain ⟨record, time, hrecord⟩ := h
  exact ⟨record, time, hrow.trans hrecord⟩

/-- A product is live or removed as it is where its row comes from. -/
theorem Removed.refresh {c : Tables} (row : RowName) (ht : t.Removed p) (hc : c.Removed p) :
    (t.refresh c row).Removed p := by
  by_cases hrow : RowName.stock p = row
  · rcases refresh_agreeAt t c row with hagree | hagree
    · exact hc.of_row (hrow ▸ hagree : (t.refresh c row).AgreeAt c (.stock p))
    · exact ht.of_row (hrow ▸ hagree : (t.refresh c row).AgreeAt t (.stock p))
  · exact ht.of_row (refresh_agreeAt_of_ne t c hrow)

/-- A listing shows live records only. -/
theorem Filed.not_mem_liveRecords (ht : t.Filed) (h : t.Removed p) {record : StockRecord}
    (hrecord : record ∈ t.stock.values.filterMap StockRow.live?) : record.product ≠ p := by
  obtain ⟨row, hrow, hlive⟩ := List.mem_filterMap.mp hrecord
  obtain ⟨q, hq⟩ := Table.mem_values.mp hrow
  have hfound : t.liveStock? q = some record := by
    rw [liveStock?, hq]
    exact hlive
  rw [ht.product_of_live hfound]
  exact h.ne_of_live hfound

/-- **What is held about a product is what it was**: its row, its reservations and its entries. -/
structure Frozen (p : ProductId) (t t' : Tables) : Prop where
  row : t'.stock.get? p = t.stock.get? p
  reservations : ∀ order, t'.reservation? p order = t.reservation? p order
  trail : t'.trailOf p = t.trailOf p

theorem Frozen.refl (p : ProductId) (t : Tables) : t.Frozen p t := ⟨rfl, fun _ => rfl, rfl⟩

theorem Frozen.trans (h : t.Frozen p t') (h' : t'.Frozen p t'') : t.Frozen p t'' :=
  ⟨h'.row.trans h.row, fun order => (h'.reservations order).trans (h.reservations order),
    h'.trail.trans h.trail⟩

/-- The row of another product is written. -/
theorem frozen_insert (t : Tables) {row : StockRow} (h : q ≠ p) :
    t.Frozen p { t with stock := t.stock.insert q row } :=
  ⟨(Table.get?_insert ..).trans (if_neg h.symm), fun _ => rfl, rfl⟩

end Tables

/-! ## Writes -/

namespace Write

variable {w : Write} {ws : List Write}

/-- **A write of a record finds a live one.** -/
theorem live_of_apply (h : w.apply t = .ok t') (hrow : w.row? = some (.stock p)) :
    ∃ live, t.liveStock? p = some live := by
  cases w with
  | replaceStock next expected =>
    cases hrow
    obtain ⟨live, hlive, -, -⟩ := apply_replaceStock_iff.mp h
    exact ⟨live, hlive⟩
  | increaseStock product quantity now =>
    cases hrow
    obtain ⟨live, next, hlive, -, -⟩ := apply_increaseStock_iff.mp h
    exact ⟨live, hlive⟩
  | _ => cases hrow

/-- **A write leaves the row of a removed product alone.** -/
theorem stock_of_apply (h : w.apply t = .ok t') (hp : t.Removed p) :
    w.row? ≠ some (.stock p) ∧ t'.stock.get? p = t.stock.get? p := by
  have hrow : w.row? ≠ some (.stock p) := fun hrow => by
    obtain ⟨live, hlive⟩ := live_of_apply h hrow
    exact hp.ne_of_live hlive rfl
  refine ⟨hrow, ?_⟩
  cases w with
  | replaceStock next expected =>
    obtain ⟨live, -, -, rfl⟩ := apply_replaceStock_iff.mp h
    have hne : p ≠ next.product := fun heq => hrow (heq ▸ rfl)
    exact (Table.get?_insert ..).trans (if_neg hne)
  | increaseStock product quantity now =>
    obtain ⟨live, next, -, -, rfl⟩ := apply_increaseStock_iff.mp h
    have hne : p ≠ product := fun heq => hrow (heq ▸ rfl)
    exact (Table.get?_insert ..).trans (if_neg hne)
  | insertReservation reservation =>
    obtain ⟨-, rfl⟩ := apply_insertReservation_iff.mp h
    rfl
  | moveReservation product order expected next now =>
    obtain ⟨r, -, -, -, rfl⟩ := apply_moveReservation_iff.mp h
    rfl
  | appendEntry entry =>
    obtain rfl := apply_appendEntry_iff.mp h
    rfl
  | insertOrder order =>
    obtain rfl := apply_insertOrder_iff.mp h
    rfl
  | replaceOrder order expected =>
    obtain ⟨o, -, -, rfl⟩ := apply_replaceOrder_iff.mp h
    rfl

theorem removed_of_apply (h : w.apply t = .ok t') (hp : t.Removed p) : t'.Removed p :=
  hp.of_row (stock_of_apply h hp).2

/-- **No write of a removed product's record takes effect.** -/
theorem stock_not_mem_of_applyAll (h : applyAll ws t = .ok t') (hp : t.Removed p) :
    .stock p ∉ ws.filterMap Write.row? := by
  induction ws generalizing t with
  | nil => exact List.not_mem_nil
  | cons w ws ih =>
    obtain ⟨t₁, hw, hws⟩ := applyAll_cons_iff.mp h
    obtain ⟨hrow, hstock⟩ := stock_of_apply hw hp
    have hrest := ih hws (hp.of_row hstock)
    intro hmem
    obtain ⟨w', hw', heq⟩ := List.mem_filterMap.mp hmem
    rcases List.mem_cons.mp hw' with rfl | hw'
    · exact hrow heq
    · exact hrest (List.mem_filterMap.mpr ⟨w', hw', heq⟩)

/-- A write about something else changes nothing about a product. -/
theorem frozen_of_apply (ht : t.Filed) (h : w.apply t = .ok t') (hw : w.product? ≠ some p) :
    t.Frozen p t' := by
  have hagree {row : RowName} (hrow : w.row? ≠ some row) : t'.AgreeAt t row :=
    agreeAt_of_apply ht.reservations h hrow
  cases w with
  | replaceStock next expected =>
    obtain ⟨live, -, -, rfl⟩ := apply_replaceStock_iff.mp h
    exact t.frozen_insert fun heq => hw (congrArg some heq)
  | increaseStock product quantity now =>
    obtain ⟨live, next, -, -, rfl⟩ := apply_increaseStock_iff.mp h
    exact t.frozen_insert fun heq => hw (congrArg some heq)
  | insertReservation reservation =>
    have hkey : ∀ order, Write.row? (.insertReservation reservation) ≠ some (.reservation ⟨p, order⟩) :=
      fun order heq => hw (congrArg some (ReservationKey.mk.inj (RowName.reservation.inj
        (Option.some.inj heq))).1)
    obtain ⟨-, rfl⟩ := apply_insertReservation_iff.mp h
    exact ⟨rfl, fun order => hagree (hkey order), rfl⟩
  | moveReservation product order expected next now =>
    have hkey : ∀ o, Write.row? (.moveReservation product order expected next now) ≠
        some (.reservation ⟨p, o⟩) :=
      fun o heq => hw (congrArg some (ReservationKey.mk.inj (RowName.reservation.inj
        (Option.some.inj heq))).1)
    obtain ⟨r, -, -, -, rfl⟩ := apply_moveReservation_iff.mp h
    exact ⟨rfl, fun o => hagree (hkey o), rfl⟩
  | appendEntry entry =>
    obtain rfl := apply_appendEntry_iff.mp h
    have hother : (entry.numbered (t.lastEntryId + 1)).product ≠ p := fun heq => hw (congrArg some heq)
    refine ⟨rfl, fun _ => rfl, ?_⟩
    rw [Tables.trailOf, Tables.append, List.filter_append, List.filter_cons_of_neg (by simpa using hother),
      List.filter_nil, List.append_nil]
    rfl
  | insertOrder order =>
    obtain rfl := apply_insertOrder_iff.mp h
    exact ⟨rfl, fun _ => rfl, rfl⟩
  | replaceOrder order expected =>
    obtain ⟨o, -, -, rfl⟩ := apply_replaceOrder_iff.mp h
    exact ⟨rfl, fun _ => rfl, rfl⟩

theorem frozen_of_applyAll (ht : t.Filed) (h : applyAll ws t = .ok t')
    (hws : ∀ w ∈ ws, w.product? ≠ some p) : t.Frozen p t' := by
  induction ws generalizing t with
  | nil => exact applyAll_nil_iff.mp h ▸ .refl p t
  | cons w ws ih =>
    obtain ⟨t₁, hw, hrest⟩ := applyAll_cons_iff.mp h
    exact (frozen_of_apply ht hw (hws w List.mem_cons_self)).trans
      (ih (filed_of_apply ht hw) hrest fun w' hw' => hws w' (List.mem_cons_of_mem _ hw'))

/-! ## Writes that come with a write of the record -/

/-- **Writes that are anchored**: what they write about a product comes with a write of its record. -/
def Anchored (ws : List Write) : Prop :=
  ∀ w ∈ ws, ∀ p, w.product? = some p → .stock p ∈ ws.filterMap Write.row?

theorem anchored_nil : Anchored [] := fun _ hw => absurd hw List.not_mem_nil

theorem Anchored.concat (h : Anchored ws)
    (hw : ∀ p, w.product? = some p → .stock p ∈ ws.filterMap Write.row? ∨ w.row? = some (.stock p)) :
    Anchored (ws ++ [w]) := by
  intro w' hw' p hp
  rw [List.filterMap_append, List.mem_append]
  rcases List.mem_append.mp hw' with hw' | hw'
  · exact .inl (h w' hw' p hp)
  · obtain rfl := List.mem_singleton.mp hw'
    exact (hw p hp).imp_right fun hrow => List.mem_filterMap.mpr ⟨w', hw', hrow⟩

/-- **Anchored writes change nothing about a removed product**: if they take effect, none of them is about
it. -/
theorem frozen_of_anchored (hws : Anchored ws) (ht : t.Filed) (hp : t.Removed p)
    (h : applyAll ws t = .ok t') : t.Frozen p t' :=
  frozen_of_applyAll ht h fun w hw hproduct =>
    stock_not_mem_of_applyAll h hp (hws w hw p hproduct)

end Write

end Stockroom.Store
