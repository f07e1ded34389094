import Mathlib.Algebra.Order.BigOperators.Group.List
import Mathlib.Algebra.Order.Ring.Int
import Stockroom.Order.Line
import Stockroom.Proofs.Data.Except
import Stockroom.Proofs.Data.List

/-!
# Proofs/Order/Merging — merged lines are the summary of the lines

`OrderLine.summary` is what merging is for: **one line for each product**, in the order in which the products
first appear, with all its pieces (`OrderLine.demand`).  A line that is added to the summary of lines gives
the summary of one line more, or their sum is too large (`insert_summary`); so merged lines are a summary
(`eq_summary_of_merge`).

No quantity is negative, so a partial sum is never larger than the whole one.  **Lines can be merged if and only
if the whole sums have 32 bits** (`exists_merge_iff`), whatever the order of the lines.
-/

namespace Stockroom

namespace OrderLine

variable {line : OrderLine} {lines others merged : List OrderLine} {id : ProductId}

/-- How many pieces of a product lines ask for. -/
def demand (id : ProductId) (lines : List OrderLine) : Int :=
  ((lines.filter (·.product = id)).map quantity).sum

/-- **One line for each product**, in the order in which the products first appear. -/
def summary (lines : List OrderLine) : List OrderLine :=
  (lines.map product).eraseDups.map fun id => ⟨id, demand id lines⟩

theorem demand_append (id : ProductId) (lines others : List OrderLine) :
    demand id (lines ++ others) = demand id lines + demand id others := by
  simp [demand]

theorem demand_concat (id : ProductId) (lines : List OrderLine) (line : OrderLine) :
    demand id (lines ++ [line]) = demand id lines + if line.product = id then line.quantity else 0 := by
  by_cases h : line.product = id <;> simp [demand, h]

theorem demand_eq_zero (h : id ∉ lines.map product) : demand id lines = 0 := by
  have hnone : lines.filter (·.product = id) = [] := by
    simpa [List.filter_eq_nil_iff] using h
  rw [demand, hnone]
  rfl

theorem demand_nonneg (h : ∀ line ∈ lines, 0 < line.quantity) (id : ProductId) : 0 ≤ demand id lines := by
  refine List.sum_nonneg fun quantity hquantity => ?_
  obtain ⟨line, hline, rfl⟩ := List.mem_map.mp hquantity
  exact (h line (List.mem_of_mem_filter hline)).le

theorem le_demand (h : ∀ line ∈ lines, 0 < line.quantity) (hline : line ∈ lines) :
    line.quantity ≤ demand line.product lines := by
  refine List.single_le_sum (fun quantity hquantity => ?_) _
    (List.mem_map_of_mem (List.mem_filter.mpr ⟨hline, by simp⟩))
  obtain ⟨line, hline, rfl⟩ := List.mem_map.mp hquantity
  exact (h line (List.mem_of_mem_filter hline)).le

theorem demand_le_append (h : ∀ line ∈ others, 0 < line.quantity) (id : ProductId) :
    demand id lines ≤ demand id (lines ++ others) := by
  have := demand_nonneg h id
  rw [demand_append]
  omega

theorem map_product_summary (lines : List OrderLine) :
    (summary lines).map product = (lines.map product).eraseDups := by
  simp [summary, Function.comp_def]

theorem summary_ne_nil (h : lines ≠ []) : summary lines ≠ [] := by
  obtain ⟨line, hline⟩ := List.exists_mem_of_ne_nil lines h
  have hmem : line.product ∈ (summary lines).map product := by
    rw [map_product_summary, List.mem_eraseDups]
    exact List.mem_map_of_mem hline
  intro hnil
  simp [hnil] at hmem

/-! ## One line more -/

theorem insert_of_notMem (h : line.product ∉ lines.map product) :
    insert line lines = .ok (lines ++ [line]) := by
  induction lines with
  | nil => rfl
  | cons first rest ih =>
    rw [List.map_cons, List.mem_cons, not_or] at h
    rw [insert, if_neg (Ne.symm h.1), ih h.2]
    rfl

theorem insert_map {ids : List ProductId} {f : ProductId → Int} (hnodup : ids.Nodup)
    (h : line.product ∈ ids) :
    insert line (ids.map fun id => ⟨id, f id⟩) =
      if Width.int32.Fits (f line.product + line.quantity) then
        .ok (ids.map fun id => ⟨id, f id + if line.product = id then line.quantity else 0⟩)
      else .error (.invalidValue (.lineOverflow line.product)) := by
  induction ids with
  | nil => simp at h
  | cons first rest ih =>
    obtain ⟨hfirst, hrest⟩ := List.nodup_cons.mp hnodup
    rw [List.map_cons, insert]
    by_cases heq : first = line.product
    · subst heq
      have hsame : (rest.map fun id => (⟨id, f id⟩ : OrderLine)) =
          rest.map fun id => ⟨id, f id + if line.product = id then line.quantity else 0⟩ := by
        refine List.map_congr_left fun id hid => ?_
        have hne : line.product ≠ id := by
          rintro rfl
          exact hfirst hid
        simp [hne]
      simp [hsame]
    · have hmem : line.product ∈ rest := (List.mem_cons.mp h).resolve_left (Ne.symm heq)
      rw [if_neg heq, ih hrest hmem]
      split
      · simp [Ne.symm heq]
      · rfl

theorem summary_concat_of_mem (h : line.product ∈ lines.map product) :
    summary (lines ++ [line]) = (lines.map product).eraseDups.map
      fun id => ⟨id, demand id lines + if line.product = id then line.quantity else 0⟩ := by
  simp only [summary, List.map_append, List.map_singleton, eraseDups_concat, if_pos h, List.append_nil,
    demand_concat]

theorem summary_concat_of_notMem (h : line.product ∉ lines.map product) :
    summary (lines ++ [line]) = summary lines ++ [line] := by
  have hold : ∀ id ∈ (lines.map product).eraseDups, demand id (lines ++ [line]) = demand id lines := by
    intro id hid
    have hne : line.product ≠ id := by
      rintro rfl
      exact h (List.mem_eraseDups.mp hid)
    rw [demand_concat, if_neg hne, Int.add_zero]
  have hnew : demand line.product (lines ++ [line]) = line.quantity := by
    rw [demand_concat, demand_eq_zero h, if_pos rfl, Int.zero_add]
  simp only [summary, List.map_append, List.map_singleton, eraseDups_concat, if_neg h, hnew]
  exact congrArg (· ++ [line]) (List.map_congr_left fun id hid => by rw [hold id hid])

/-- **Adding a line to a summary** gives the summary of one line more, unless the sum is too large. -/
theorem insert_summary (line : OrderLine) (lines : List OrderLine) :
    insert line (summary lines) =
      if line.product ∈ lines.map product →
          Width.int32.Fits (demand line.product (lines ++ [line])) then
        .ok (summary (lines ++ [line]))
      else .error (.invalidValue (.lineOverflow line.product)) := by
  by_cases h : line.product ∈ lines.map product
  · rw [summary, insert_map (nodup_eraseDups _) (List.mem_eraseDups.mpr h), summary_concat_of_mem h,
      demand_concat, if_pos rfl]
    simp only [h, true_imp_iff]
  · have hnot : line.product ∉ (summary lines).map product := by
      rwa [map_product_summary, List.mem_eraseDups]
    rw [insert_of_notMem hnot, summary_concat_of_notMem h, if_pos fun hmem => absurd hmem h]

/-! ## All lines -/

/-- What merging does with one line after the other. -/
def addTo (merged : List OrderLine) (line : OrderLine) : Except Refusal (List OrderLine) := do
  ensurePositive line.quantity
  insert line merged

theorem merge_eq_foldlM (h : lines ≠ []) : merge lines = lines.foldlM addTo (summary []) := by
  rw [merge, if_neg (by simpa using h)]
  rfl

theorem addTo_eq_ok_iff : addTo others line = .ok merged ↔
    0 < line.quantity ∧ insert line others = .ok merged := by
  simp [addTo, bind_eq_ok_iff, ensurePositive_eq_ok_iff]

theorem foldlM_addTo (h : others.foldlM addTo (summary lines) = .ok merged) :
    (∀ line ∈ others, 0 < line.quantity) ∧ merged = summary (lines ++ others) := by
  induction others generalizing lines with
  | nil => simpa using (pure_eq_ok_iff.mp h).symm
  | cons line others ih =>
    rw [List.foldlM_cons] at h
    obtain ⟨next, hnext, h⟩ := bind_eq_ok_iff.mp h
    obtain ⟨hpositive, hinsert⟩ := addTo_eq_ok_iff.mp hnext
    rw [insert_summary] at hinsert
    split at hinsert
    · obtain rfl := Except.ok.inj hinsert
      obtain ⟨hothers, rfl⟩ := ih h
      simpa using ⟨hpositive, hothers⟩
    · simp at hinsert

/-- **Merged lines are the summary of the lines.** -/
theorem eq_summary_of_merge (h : merge lines = .ok merged) :
    lines ≠ [] ∧ (∀ line ∈ lines, 0 < line.quantity) ∧ merged = summary lines := by
  have hlines : lines ≠ [] := by
    rintro rfl
    simp [merge] at h
  rw [merge_eq_foldlM hlines] at h
  exact ⟨hlines, foldlM_addTo h⟩

/-- **Merged lines have different products.** -/
theorem nodup_merge (h : merge lines = .ok merged) : (merged.map product).Nodup := by
  obtain ⟨-, -, rfl⟩ := eq_summary_of_merge h
  rw [map_product_summary]
  exact nodup_eraseDups _

/-- **Merged lines have positive quantities.** -/
theorem positive_merge (h : merge lines = .ok merged) : ∀ line ∈ merged, 0 < line.quantity := by
  obtain ⟨-, hpositive, rfl⟩ := eq_summary_of_merge h
  intro line hline
  obtain ⟨id, hid, rfl⟩ := List.mem_map.mp hline
  obtain ⟨first, hfirst, rfl⟩ := List.mem_map.mp (List.mem_eraseDups.mp hid)
  exact (hpositive first hfirst).trans_le (le_demand hpositive hfirst)

/-- **Every product of an order has a merged line.** -/
theorem subset_merge (h : merge lines = .ok merged) : lines.map product ⊆ merged.map product := by
  obtain ⟨-, -, rfl⟩ := eq_summary_of_merge h
  intro id hid
  rwa [map_product_summary, List.mem_eraseDups]

/-! ## Merging again -/

theorem foldlM_addTo_of_nodup (lines : List OrderLine) (hnodup : ((lines ++ others).map product).Nodup)
    (hpositive : ∀ line ∈ others, 0 < line.quantity) :
    others.foldlM addTo lines = .ok (lines ++ others) := by
  induction others generalizing lines with
  | nil => simp [pure, Except.pure]
  | cons line others ih =>
    obtain ⟨hline, hothers⟩ := List.forall_mem_cons.mp hpositive
    rw [List.append_cons] at hnodup ⊢
    have hnew : line.product ∉ lines.map product := by
      rw [List.map_append, List.map_append] at hnodup
      have hapart := (List.nodup_append.mp (List.nodup_append.mp hnodup).1).2.2
      exact fun hmem => hapart _ hmem _ (List.mem_singleton_self _) rfl
    rw [List.foldlM_cons, addTo_eq_ok_iff.mpr ⟨hline, insert_of_notMem hnew⟩]
    exact ih _ hnodup hothers

/-- **Lines of different products stay as they are.** -/
theorem merge_of_nodup (hlines : lines ≠ []) (hnodup : (lines.map product).Nodup)
    (hpositive : ∀ line ∈ lines, 0 < line.quantity) : merge lines = .ok lines := by
  rw [merge_eq_foldlM hlines]
  exact foldlM_addTo_of_nodup [] hnodup hpositive

/-! ## When lines can be merged -/

theorem forall_mem_concat {P : OrderLine → Prop} (hlines : ∀ line ∈ lines, P line) (hline : P line) :
    ∀ other ∈ lines ++ [line], P other := by
  simpa [or_imp, forall_and] using ⟨hlines, hline⟩

theorem demand_concat_le {most : Int} (hlines : ∀ id, demand id lines ≤ most)
    (hsum : demand line.product (lines ++ [line]) ≤ most) (id : ProductId) :
    demand id (lines ++ [line]) ≤ most := by
  by_cases hid : line.product = id
  · exact hid ▸ hsum
  · rw [demand_concat, if_neg hid, Int.add_zero]
    exact hlines id

/-- One line more is added if the sum for its product has 32 bits. -/
theorem addTo_summary_eq_ok_iff (hpositive : ∀ line ∈ lines, 0 < line.quantity)
    (hfits : Width.int32.Fits line.quantity) :
    addTo (summary lines) line = .ok merged ↔ 0 < line.quantity ∧
      demand line.product (lines ++ [line]) ≤ Width.int32.greatest ∧
        merged = summary (lines ++ [line]) := by
  rw [addTo_eq_ok_iff, insert_summary]
  refine and_congr_right fun hquantity => ?_
  have hnonneg := demand_nonneg (forall_mem_concat hpositive hquantity) line.product
  -- The first line of a product is not added to anything, but then the sum is its own quantity.
  have hsum : (line.product ∈ lines.map product →
      Width.int32.Fits (demand line.product (lines ++ [line]))) ↔
        demand line.product (lines ++ [line]) ≤ Width.int32.greatest := by
    constructor
    · intro h
      by_cases hmem : line.product ∈ lines.map product
      · exact (h hmem).2
      · rw [demand_concat, demand_eq_zero hmem, if_pos rfl, Int.zero_add]
        exact hfits.2
    · intro hle _
      exact ⟨Int.le_trans (by decide) hnonneg, hle⟩
  by_cases hle : demand line.product (lines ++ [line]) ≤ Width.int32.greatest
  · rw [if_pos (hsum.mpr hle), and_iff_right hle, Except.ok.injEq, eq_comm]
  · rw [if_neg (mt hsum.mp hle)]
    exact ⟨nofun, fun h => absurd h.1 hle⟩

/-- **A partial sum is no obstacle** unless the sum of all is too large. -/
theorem exists_foldlM_addTo_iff (hfits : ∀ line ∈ others, Width.int32.Fits line.quantity)
    (hpositive : ∀ line ∈ lines, 0 < line.quantity)
    (hdemand : ∀ id, demand id lines ≤ Width.int32.greatest) :
    (∃ merged, others.foldlM addTo (summary lines) = .ok merged) ↔
      (∀ line ∈ others, 0 < line.quantity) ∧
        ∀ id, demand id (lines ++ others) ≤ Width.int32.greatest := by
  induction others generalizing lines with
  | nil => simpa [pure, Except.pure] using hdemand
  | cons line others ih =>
    obtain ⟨hline, hothers⟩ := List.forall_mem_cons.mp hfits
    have hnext (hquantity : 0 < line.quantity)
        (hsum : demand line.product (lines ++ [line]) ≤ Width.int32.greatest) :=
      ih hothers (forall_mem_concat hpositive hquantity) (demand_concat_le hdemand hsum)
    simp only [List.foldlM_cons, bind_eq_ok_iff, addTo_summary_eq_ok_iff hpositive hline,
      List.forall_mem_cons, List.append_cons lines line others]
    constructor
    · rintro ⟨merged, _, ⟨hquantity, hsum, rfl⟩, h⟩
      obtain ⟨hrest, hall⟩ := (hnext hquantity hsum).mp ⟨merged, h⟩
      exact ⟨⟨hquantity, hrest⟩, hall⟩
    · rintro ⟨⟨hquantity, hrest⟩, hall⟩
      have hsum := (demand_le_append hrest line.product).trans (hall line.product)
      obtain ⟨merged, h⟩ := (hnext hquantity hsum).mpr ⟨hrest, hall⟩
      exact ⟨merged, _, ⟨hquantity, hsum, rfl⟩, h⟩

theorem exists_merge_iff (hfits : ∀ line ∈ lines, Width.int32.Fits line.quantity) :
    (∃ merged, merge lines = .ok merged) ↔ lines ≠ [] ∧ (∀ line ∈ lines, 0 < line.quantity) ∧
      ∀ id, demand id lines ≤ Width.int32.greatest := by
  by_cases hlines : lines = []
  · simp [hlines, merge]
  · rw [merge_eq_foldlM hlines, and_iff_right hlines]
    exact exists_foldlM_addTo_iff hfits (List.forall_mem_nil _) fun id => by simp [demand, Width.greatest]

/-! ## Lines in another order -/

theorem demand_perm (h : others.Perm lines) (id : ProductId) : demand id others = demand id lines :=
  ((h.filter _).map _).sum_eq

theorem summary_perm (h : others.Perm lines) : (summary others).Perm (summary lines) := by
  have hids : (others.map product).eraseDups.Perm (lines.map product).eraseDups :=
    (List.perm_ext_iff_of_nodup (nodup_eraseDups _) (nodup_eraseDups _)).mpr fun id => by
      rw [List.mem_eraseDups, List.mem_eraseDups]
      exact (h.map product).mem_iff
  simp only [summary, demand_perm h]
  exact hids.map _

/-- **Lines are merged exactly.**  They can be merged if and only if there are any, all quantities are positive
and the sum for each product has 32 bits.  Merged lines are one line for each product, in the order of first
appearance and with the sum of its quantities, and are not changed by merging them again.  Lines in another
order are merged just as well, to the same lines in some order. -/
theorem merge_exact (hfits : ∀ line ∈ lines, Width.int32.Fits line.quantity) :
    ((∃ merged, merge lines = .ok merged) ↔ lines ≠ [] ∧ (∀ line ∈ lines, 0 < line.quantity) ∧
        ∀ id, demand id lines ≤ Width.int32.greatest) ∧
      (∀ merged, merge lines = .ok merged →
        (merged.map product).Nodup ∧ merged.map product = (lines.map product).eraseDups ∧
          (∀ id, id ∈ merged.map product ↔ id ∈ lines.map product) ∧
          (∀ line ∈ merged, line.quantity = demand line.product lines) ∧
          merge merged = .ok merged) ∧
      ∀ others, others.Perm lines →
        ((∃ merged, merge others = .ok merged) ↔ ∃ merged, merge lines = .ok merged) ∧
          ∀ merged merged', merge lines = .ok merged → merge others = .ok merged' →
            merged'.Perm merged := by
  refine ⟨exists_merge_iff hfits, fun merged h => ?_, fun others hperm =>
    ⟨?_, fun merged merged' h h' => ?_⟩⟩
  · have hnodup := nodup_merge h
    have hpositive := positive_merge h
    obtain ⟨hlines, -, rfl⟩ := eq_summary_of_merge h
    have hproducts := map_product_summary lines
    refine ⟨hnodup, hproducts, fun id => by rw [hproducts, List.mem_eraseDups], fun line hline => ?_,
      merge_of_nodup (summary_ne_nil hlines) hnodup hpositive⟩
    obtain ⟨id, -, rfl⟩ := List.mem_map.mp hline
    rfl
  · have hothers : ∀ line ∈ others, Width.int32.Fits line.quantity := fun line hline =>
      hfits line (hperm.mem_iff.mp hline)
    have hempty : others = [] ↔ lines = [] := by
      rw [← List.length_eq_zero_iff, hperm.length_eq, List.length_eq_zero_iff]
    rw [exists_merge_iff hfits, exists_merge_iff hothers, Ne, hempty]
    simp only [demand_perm hperm, hperm.mem_iff]
  · obtain ⟨-, -, rfl⟩ := eq_summary_of_merge h
    obtain ⟨-, -, rfl⟩ := eq_summary_of_merge h'
    exact summary_perm hperm

/-- Two lines of one product that together ask for as many pieces as 32 bits can count, and the same lines in
another order. -/
theorem merge_exact_greatest :
    let lines : List OrderLine := [⟨⟨1⟩, 3⟩, ⟨⟨2⟩, 2⟩, ⟨⟨1⟩, 2147483644⟩]
    (∀ line ∈ lines, Width.int32.Fits line.quantity) ∧
      merge lines = .ok [⟨⟨1⟩, 2147483647⟩, ⟨⟨2⟩, 2⟩] ∧
      ∃ merged, merge lines.reverse = .ok merged ∧ merged.Perm [⟨⟨1⟩, 2147483647⟩, ⟨⟨2⟩, 2⟩] := by
  intro lines
  have hfits : ∀ line ∈ lines, Width.int32.Fits line.quantity := by decide
  obtain ⟨-, -, hothers⟩ := merge_exact hfits
  have hmerge : merge lines = .ok [⟨⟨1⟩, 2147483647⟩, ⟨⟨2⟩, 2⟩] := rfl
  obtain ⟨hiff, hperm⟩ := hothers lines.reverse (List.reverse_perm lines)
  obtain ⟨merged, hmerged⟩ := hiff.mpr ⟨_, hmerge⟩
  exact ⟨hfits, hmerge, merged, hmerged, hperm _ merged hmerge hmerged⟩

end OrderLine

end Stockroom
