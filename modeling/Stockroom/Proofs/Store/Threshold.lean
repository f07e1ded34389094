import Stockroom.Proofs.Store.Rows
import Stockroom.Store.Session

/-!
# Proofs/Store/Threshold — the thresholds that a unit of work holds

A unit of work holds thresholds in its copy of the records and in the records that it is going to write.
**`UnitOfWork.Holds product mayRewrite P u` says that every threshold of the product which `u` holds
satisfies `P`**, and that `u` writes a whole record of the product only if it may.  Writing keeps
this (`Holds.stage`), and a commit leaves the committed threshold alone or puts one in its place that
the unit of work has held (`Holds.commit`).
-/

namespace Stockroom

namespace Store

variable {product : ProductId} {t t' committed : Tables}

/-! ## Tables -/

namespace Tables

/-- The threshold of a product, also of one that was taken out of the stockroom. -/
def threshold? (t : Tables) (product : ProductId) : Option Int :=
  (t.stock.get? product).map (·.record.threshold)

/-- Whether every record stays under the number of its product. -/
def KeepsProducts (t : Tables) : Prop :=
  ∀ product row, t.stock.get? product = some row → row.record.product = product

theorem threshold?_of_live {live : StockRecord} (h : t.liveStock? product = some live) :
    t.threshold? product = some live.threshold := by
  rw [threshold?, liveStock?_eq_some_iff.mp h]
  rfl

theorem KeepsProducts.live {live : StockRecord} (ht : t.KeepsProducts)
    (h : t.liveStock? product = some live) : live.product = product :=
  ht _ _ (liveStock?_eq_some_iff.mp h)

theorem KeepsProducts.insert {other : ProductId} {row : StockRow} (ht : t.KeepsProducts)
    (h : row.record.product = other) :
    KeepsProducts { t with stock := t.stock.insert other row } :=
  Table.forall_insert ht h

/-- The thresholds after one row was written. -/
theorem threshold?_insert {other : ProductId} {row : StockRow} :
    threshold? { t with stock := t.stock.insert other row } product =
      if product = other then some row.record.threshold else t.threshold? product := by
  rw [threshold?, Table.get?_insert]
  split <;> rfl

/-- A row that keeps its threshold leaves all thresholds as they are. -/
theorem threshold?_insert_of_same {other : ProductId} {live : StockRecord} {row : StockRow}
    (hlive : t.liveStock? other = some live) (hrow : row.record.threshold = live.threshold) :
    threshold? { t with stock := t.stock.insert other row } product = t.threshold? product := by
  rw [threshold?_insert]
  split
  · next heq => rw [heq, threshold?_of_live hlive, hrow]
  · rfl

/-- A record of a refreshed copy is the committed one or the one that was there. -/
theorem stock_refresh (t committed : Tables) (row : RowName) (product : ProductId) :
    (t.refresh committed row).stock.get? product = committed.stock.get? product ∨
      (t.refresh committed row).stock.get? product = t.stock.get? product := by
  by_cases heq : RowName.stock product = row
  · rcases refresh_agreeAt t committed row with hagree | hagree
    · exact .inl (heq ▸ hagree : (t.refresh committed row).AgreeAt committed (.stock product))
    · exact .inr (heq ▸ hagree : (t.refresh committed row).AgreeAt t (.stock product))
  · exact .inr (refresh_agreeAt_of_ne t committed heq)

theorem KeepsProducts.refresh (ht : t.KeepsProducts) (hc : committed.KeepsProducts)
    (row : RowName) : (t.refresh committed row).KeepsProducts := by
  intro other record hrecord
  rcases stock_refresh t committed row other with heq | heq
  · exact hc _ _ (heq.symm.trans hrecord)
  · exact ht _ _ (heq.symm.trans hrecord)

theorem threshold?_refresh (t committed : Tables) (row : RowName) (product : ProductId) :
    (t.refresh committed row).threshold? product = committed.threshold? product ∨
      (t.refresh committed row).threshold? product = t.threshold? product :=
  (stock_refresh t committed row product).imp (congrArg _) (congrArg _)

end Tables

/-! ## Writes -/

/-- **A write changes a threshold only by replacing the record.** -/
theorem Write.threshold?_apply (product : ProductId) {w : Write} (ht : t.KeepsProducts) (h : w.apply t = .ok t') :
    t'.KeepsProducts ∧ (t'.threshold? product = t.threshold? product ∨
      ∃ next version, w = .replaceStock next version ∧ next.product = product ∧
        t'.threshold? product = some next.threshold) := by
  cases w with
  | replaceStock next version =>
    obtain ⟨live, hlive, -, rfl⟩ := apply_replaceStock_iff.mp h
    refine ⟨ht.insert rfl, ?_⟩
    by_cases heq : product = next.product
    · exact .inr ⟨next, version, rfl, heq.symm, Tables.threshold?_insert.trans (if_pos heq)⟩
    · exact .inl (Tables.threshold?_insert.trans (if_neg heq))
  | increaseStock other quantity now =>
    obtain ⟨live, next, hlive, hnext, rfl⟩ := apply_increaseStock_iff.mp h
    obtain ⟨hproduct, hthreshold⟩ := StockRecord.SameThreshold.restock hnext
    exact ⟨ht.insert (hproduct.trans (ht.live hlive)),
      .inl (Tables.threshold?_insert_of_same hlive hthreshold)⟩
  | insertReservation reservation =>
    obtain ⟨-, rfl⟩ := apply_insertReservation_iff.mp h
    exact ⟨ht, .inl rfl⟩
  | moveReservation other order expected next now =>
    obtain ⟨r, -, -, -, rfl⟩ := apply_moveReservation_iff.mp h
    exact ⟨ht, .inl rfl⟩
  | appendEntry entry =>
    obtain rfl := apply_appendEntry_iff.mp h
    exact ⟨ht, .inl rfl⟩
  | insertOrder order =>
    obtain rfl := apply_insertOrder_iff.mp h
    exact ⟨ht, .inl rfl⟩
  | replaceOrder order expected =>
    obtain ⟨o, -, -, rfl⟩ := apply_replaceOrder_iff.mp h
    exact ⟨ht, .inl rfl⟩

/-- **Several writes** change a threshold only by replacing the record. -/
theorem Write.threshold?_applyAll (product : ProductId) {ws : List Write}
    (ht : t.KeepsProducts) (h : applyAll ws t = .ok t') :
    t'.KeepsProducts ∧ (t'.threshold? product = t.threshold? product ∨
      ∃ next version, .replaceStock next version ∈ ws ∧ next.product = product ∧
        t'.threshold? product = some next.threshold) := by
  induction ws generalizing t with
  | nil =>
    obtain rfl := applyAll_nil_iff.mp h
    exact ⟨ht, .inl rfl⟩
  | cons w ws ih =>
    obtain ⟨t₁, hw, hws⟩ := applyAll_cons_iff.mp h
    obtain ⟨ht₁, hfirst⟩ := threshold?_apply product ht hw
    obtain ⟨ht', hrest⟩ := ih ht₁ hws
    refine ⟨ht', ?_⟩
    rcases hrest with hsame | ⟨next, version, hmem, hproduct, hthreshold⟩
    · rw [hsame]
      refine hfirst.imp_right ?_
      rintro ⟨next, version, rfl, hproduct, hthreshold⟩
      exact ⟨next, version, List.mem_cons_self, hproduct, hthreshold⟩
    · exact .inr ⟨next, version, List.mem_cons_of_mem _ hmem, hproduct, hthreshold⟩

/-! ## Units of work -/

namespace UnitOfWork

variable {mayRewrite : Prop} {P P' : Int → Prop} {u : UnitOfWork}

/-- **The thresholds of a product that a unit of work holds.** -/
structure Holds (product : ProductId) (mayRewrite : Prop) (P : Int → Prop) (u : UnitOfWork) :
    Prop where
  keeps : u.working.KeepsProducts
  copy : ∀ x, u.working.threshold? product = some x → P x
  writes : ∀ next version, .replaceStock next version ∈ u.pending → next.product = product →
    mayRewrite ∧ P next.threshold

namespace Holds

theorem start (hc : committed.KeepsProducts) (h : ∀ x, committed.threshold? product = some x → P x) :
    (start committed).Holds product mayRewrite P :=
  ⟨hc, h, fun _ _ hmem => absurd hmem List.not_mem_nil⟩

theorem mono (h : u.Holds product mayRewrite P) (hP : ∀ x, P x → P' x) :
    u.Holds product mayRewrite P' :=
  ⟨h.keeps, fun x hx => hP x (h.copy x hx), fun next version hmem hproduct =>
    (h.writes next version hmem hproduct).imp_right (hP _)⟩

theorem refreshed (h : u.Holds product mayRewrite P) (hc : committed.KeepsProducts)
    (hP : ∀ x, committed.threshold? product = some x → P x) (row? : Option RowName) :
    (u.refreshed committed row?).Holds product mayRewrite P := by
  unfold UnitOfWork.refreshed
  cases row? with
  | none => exact h
  | some row =>
    dsimp only
    split
    · exact h
    · refine ⟨h.keeps.refresh hc row, fun x hx => ?_, h.writes⟩
      rcases Tables.threshold?_refresh u.working committed row product with heq | heq
      · exact hP x (heq ▸ hx)
      · exact h.copy x (heq ▸ hx)

/-- **A write** adds nothing to what a unit of work holds but what it looks up. -/
theorem stage (h : u.Holds product mayRewrite P) (hc : committed.KeepsProducts)
    (hP : ∀ x, committed.threshold? product = some x → P x) (w : Write)
    (hw : ∀ next version, w = .replaceStock next version → next.product = product →
      mayRewrite ∧ P next.threshold) :
    (u.stage committed w).2.Holds product mayRewrite P := by
  have hrefreshed := h.refreshed hc hP w.row?
  unfold UnitOfWork.stage
  dsimp only
  split
  · next working happly =>
    obtain ⟨hkeeps, hthreshold⟩ := Write.threshold?_apply product hrefreshed.keeps happly
    refine ⟨hkeeps, fun x hx => ?_, fun next version hmem hproduct => ?_⟩
    · rcases hthreshold with hsame | ⟨next, version, hreplace, hproduct, hnext⟩
      · exact hrefreshed.copy x (hsame ▸ hx)
      · cases hnext.symm.trans hx
        exact (hw next version hreplace hproduct).2
    · rcases List.mem_append.mp hmem with hmem | hmem
      · exact hrefreshed.writes next version hmem hproduct
      · exact hw next version (List.mem_singleton.mp hmem).symm hproduct
  · exact hrefreshed
  · exact hrefreshed

/-- **A commit** leaves the threshold alone, or puts one back that the unit of work has held. -/
theorem commit (h : u.Holds product mayRewrite P) (hc : committed.KeepsProducts)
    (happly : Write.applyAll u.pending committed = .ok t) :
    t.KeepsProducts ∧ (t.threshold? product = committed.threshold? product ∨
      mayRewrite ∧ ∃ x, t.threshold? product = some x ∧ P x) := by
  obtain ⟨hkeeps, hthreshold⟩ := Write.threshold?_applyAll product hc happly
  refine ⟨hkeeps, hthreshold.imp_right ?_⟩
  rintro ⟨next, version, hmem, hproduct, hnext⟩
  obtain ⟨hmay, hP⟩ := h.writes next version hmem hproduct
  exact ⟨hmay, _, hnext, hP⟩

end Holds

end UnitOfWork

/-! ## Requests outside of units of work -/

/-- **Entering a record** either does so, or changes nothing. -/
theorem Session.createStock_cases (s : Session) (record : StockRecord) :
    s.createStock record =
        (.ok (), s.withCommitted (s.store.committed.putLive record.product record)) ∨
      ∃ answer, s.createStock record = (answer, s) := by
  unfold createStock
  dsimp only
  split
  · exact .inr ⟨_, rfl⟩
  · exact .inl rfl

/-- **Taking a product out** keeps its record, or changes nothing. -/
theorem Session.removeStock_cases (s : Session) (product : ProductId) (now : Instant) :
    (∃ live, s.store.committed.liveStock? product = some live ∧ s.removeStock product now =
      (.ok true, s.withCommitted { s.store.committed with
        stock := s.store.committed.stock.insert product ⟨live, some now⟩ })) ∨
      ∃ answer, s.removeStock product now = (answer, s) := by
  unfold removeStock
  dsimp only
  split
  · exact .inr ⟨_, rfl⟩
  · next live hlive => exact .inl ⟨live, hlive, rfl⟩

/-- **Setting a threshold** either does so on a record that is in the stockroom, or changes nothing. -/
theorem Session.setThreshold_cases (s : Session) (product : ProductId) (threshold : Int)
    (now : Instant) :
    (∃ live updated, s.store.committed.liveStock? product = some live ∧
      updated.product = live.product ∧ updated.threshold = threshold ∧
      s.setThreshold product threshold now =
        (.ok true, s.withCommitted (s.store.committed.putLive product updated))) ∨
    ∃ answer, answer ≠ .ok true ∧ s.setThreshold product threshold now = (answer, s) := by
  unfold setThreshold
  dsimp only
  split
  · exact .inr ⟨.ok false, nofun, rfl⟩
  · next live hlive =>
    split
    · next updated hupdated =>
      obtain ⟨-, hupdated⟩ := StockRecord.withThreshold_eq_ok_iff.mp hupdated
      exact .inl ⟨live, updated, hlive, hupdated ▸ rfl, hupdated ▸ rfl, rfl⟩
    · exact .inr ⟨.error _, nofun, rfl⟩

end Store

end Stockroom
