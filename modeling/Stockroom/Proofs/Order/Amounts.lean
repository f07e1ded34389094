import Mathlib.Algebra.Order.BigOperators.Group.List
import Mathlib.Algebra.Order.Ring.Int
import Stockroom.Proofs.Order.Prepared

/-!
# Proofs/Order/Amounts — the amounts of an order are exact

`Draft.ofProducts` takes quantities of products, makes an item of each and prepares a draft of them.  All its
sums and products are those of the integers (`ofProducts_eq_ok_iff`): **no amount is negative, so a sum that is
made step by step is too large at some step if and only if it is too large as a whole**
(`foldlM_add_eq_ok_iff`).

What is to be paid is a difference whose size nobody looks at.  Both its sides are amounts, so it is exact as
well (`amountToPay_eq`).
-/

namespace Stockroom

/-- A refusal because of a value. -/
def Refusal.IsInvalidValue (refusal : Refusal) : Prop := ∃ fault, refusal = .invalidValue fault

/-! ## Sums of amounts -/

namespace Money

variable {m other result : Money} {refusal : Refusal}

theorem isAmount_iff : m.IsAmount ↔ 0 ≤ m.amount ∧ m.amount ≤ Width.int64.greatest :=
  ⟨fun h => ⟨h.nonneg, h.fits.2⟩, fun h => ⟨h.1, Int.le_trans (by decide) h.1, h.2⟩⟩

/-- **A sum of amounts is exact**, or too large. -/
theorem add_eq_ok_iff (hm : m.IsAmount) (hother : 0 ≤ other.amount) :
    m.add other = .ok result ↔ m.amount + other.amount ≤ Width.int64.greatest ∧
      result = ⟨m.amount + other.amount⟩ := by
  refine checked_eq_ok_iff.trans (and_congr_left fun _ => ⟨And.right, fun hle => ⟨?_, hle⟩⟩)
  exact Int.le_trans (by decide) (Int.add_nonneg hm.nonneg hother)

theorem isInvalidValue_of_checked {amount lhs rhs : Int} (h : checked amount lhs rhs = .error refusal) :
    refusal.IsInvalidValue := by
  unfold checked at h
  split at h
  · simp at h
  · exact ⟨_, (Except.error.inj h).symm⟩

end Money

namespace Draft

variable {user : UserId} {items : List OrderItem} {receiver : Receiver}
  {sum total discount shipping pay : Money} {remark : Option String} {now : Instant} {draft : Draft}
  {refusal : Refusal}

/-! ## The total -/

/-- What the items of an order cost. -/
def cost (items : List OrderItem) : Int := (items.map fun i => i.totalPrice.amount).sum

theorem cost_nonneg (h : ∀ i ∈ items, 0 ≤ i.totalPrice.amount) : 0 ≤ cost items := by
  refine List.sum_nonneg fun amount hamount => ?_
  obtain ⟨i, hi, rfl⟩ := List.mem_map.mp hamount
  exact h i hi

/-- **One sum after the other is the exact sum**, and fails only if that is too large. -/
theorem foldlM_add_eq_ok_iff (hsum : sum.IsAmount) (hitems : ∀ i ∈ items, 0 ≤ i.totalPrice.amount) :
    items.foldlM (fun sum item => sum.add item.totalPrice) sum = .ok total ↔
      sum.amount + cost items ≤ Width.int64.greatest ∧ total = ⟨sum.amount + cost items⟩ := by
  induction items generalizing sum with
  | nil =>
    rw [show cost [] = 0 from rfl, Int.add_zero, and_iff_right hsum.fits.2, List.foldlM_nil, pure_eq_ok_iff,
      eq_comm]
  | cons i items ih =>
    obtain ⟨hi, hrest⟩ := List.forall_mem_cons.mp hitems
    have hnonneg := cost_nonneg hrest
    have hcost : sum.amount + cost (i :: items) = sum.amount + i.totalPrice.amount + cost items := by
      simp [cost, Int.add_assoc]
    have hnext (hle : sum.amount + i.totalPrice.amount ≤ Width.int64.greatest) :
        (⟨sum.amount + i.totalPrice.amount⟩ : Money).IsAmount :=
      Money.isAmount_iff.mpr ⟨Int.add_nonneg hsum.nonneg hi, hle⟩
    rw [hcost, List.foldlM_cons, bind_eq_ok_iff]
    simp only [Money.add_eq_ok_iff hsum hi]
    constructor
    · rintro ⟨_, ⟨hle, rfl⟩, h⟩
      exact (ih (hnext hle) hrest).mp h
    · intro h
      have hle : sum.amount + i.totalPrice.amount ≤ Width.int64.greatest := by omega
      exact ⟨_, ⟨hle, rfl⟩, (ih (hnext hle) hrest).mpr h⟩

theorem itemsTotal_eq_ok_iff (hitems : ∀ i ∈ items, 0 ≤ i.totalPrice.amount) :
    itemsTotal items = .ok total ↔ cost items ≤ Width.int64.greatest ∧ total = ⟨cost items⟩ := by
  have hzero : Money.zero.IsAmount := Money.isAmount_iff.mpr (by decide)
  have hstart : Money.zero.amount + cost items = cost items := Int.zero_add _
  rw [itemsTotal, foldlM_add_eq_ok_iff hzero hitems, hstart]

theorem isInvalidValue_of_itemsTotal (h : itemsTotal items = .error refusal) :
    refusal.IsInvalidValue := by
  unfold itemsTotal at h
  generalize Money.zero = sum at h
  induction items generalizing sum with
  | nil => simp [pure, Except.pure] at h
  | cons i items ih =>
    rw [List.foldlM_cons] at h
    rcases bind_eq_error_iff.mp h with hadd | ⟨next, -, h⟩
    · exact Money.isInvalidValue_of_checked hadd
    · exact ih next h

/-! ## What is to be paid -/

/-- **What is to be paid is exact**, and never less than nothing. -/
theorem amountToPay_eq (htotal : total.IsAmount) (hdiscount : discount.IsAmount)
    (hshipping : shipping.IsAmount) :
    amountToPay total discount shipping =
      if total.amount + shipping.amount ≤ Width.int64.greatest then
        if discount.amount ≤ total.amount + shipping.amount then
          .ok ⟨total.amount + shipping.amount - discount.amount⟩
        else .error (.invalidValue (.discountTooLarge discount.amount))
      else .error (.invalidValue (.moneyOverflow total.amount shipping.amount)) := by
  have hnonneg := Int.add_nonneg htotal.nonneg hshipping.nonneg
  split
  · next hle =>
    have hgross : (⟨total.amount + shipping.amount⟩ : Money).IsAmount :=
      Money.isAmount_iff.mpr ⟨hnonneg, hle⟩
    rw [amountToPay, (Money.add_eq_ok_iff htotal hshipping.nonneg).mpr ⟨hle, rfl⟩]
    have hdifference : Money.subtract ⟨total.amount + shipping.amount⟩ discount =
        total.amount + shipping.amount - discount.amount :=
      Money.subtract_eq hgross.nonneg hgross.fits hdiscount.nonneg hdiscount.fits
    simp only [bind, Except.bind, hdifference, Money.of]
    by_cases hcovers : discount.amount ≤ total.amount + shipping.amount
    · rw [if_neg (by omega), if_pos hcovers]
      rfl
    · rw [if_pos (by omega), if_neg hcovers]
      rfl
  · next hover =>
    have hunfit : ¬Width.int64.Fits (total.amount + shipping.amount) := fun h => hover h.2
    rw [amountToPay, Money.add, Money.checked, if_neg hunfit]
    rfl

theorem amountToPay_eq_ok_iff (htotal : total.IsAmount) (hdiscount : discount.IsAmount)
    (hshipping : shipping.IsAmount) :
    amountToPay total discount shipping = .ok pay ↔
      total.amount + shipping.amount ≤ Width.int64.greatest ∧
        discount.amount ≤ total.amount + shipping.amount ∧
        pay = ⟨total.amount + shipping.amount - discount.amount⟩ := by
  rw [amountToPay_eq htotal hdiscount hshipping]
  split
  · next hgross =>
    split
    · next hcovers => simp [hgross, hcovers, eq_comm]
    · next hcovers => simp [hcovers]
  · next hgross => simp [hgross]

theorem isInvalidValue_of_amountToPay (h : amountToPay total discount shipping = .error refusal) :
    refusal.IsInvalidValue := by
  rcases bind_eq_error_iff.mp h with hadd | ⟨gross, -, h⟩
  · exact Money.isInvalidValue_of_checked hadd
  · split at h
    · simp [pure, Except.pure] at h
    · exact ⟨_, (Except.error.inj h).symm⟩

/-! ## From items to a draft -/

/-- The draft with the amounts of the integers. -/
def ofAmounts (user : UserId) (items : List OrderItem) (receiver : Receiver) (discount shipping : Money)
    (remark : Option String) (now : Instant) : Draft where
  orderNo := orderNumber now
  user := user
  items := items
  total := ⟨cost items⟩
  discount := discount
  shipping := shipping
  pay := ⟨cost items + shipping.amount - discount.amount⟩
  receiver := receiver
  remark := Text.nonBlank remark
  createdAt := now

/-- **When there is a draft**, and which. -/
theorem prepare_eq_ok_iff (hitems : ∀ i ∈ items, 0 ≤ i.totalPrice.amount) (hdiscount : discount.IsAmount)
    (hshipping : shipping.IsAmount) :
    prepare user items receiver discount shipping remark now = .ok draft ↔
      items ≠ [] ∧ cost items ≤ Width.int64.greatest ∧
        cost items + shipping.amount ≤ Width.int64.greatest ∧
        discount.amount ≤ cost items + shipping.amount ∧
        draft = ofAmounts user items receiver discount shipping remark now := by
  have hamount (hcost : cost items ≤ Width.int64.greatest) : (⟨cost items⟩ : Money).IsAmount :=
    Money.isAmount_iff.mpr ⟨cost_nonneg hitems, hcost⟩
  unfold prepare
  constructor
  · intro h
    split at h
    · exact absurd h throw_bind_ne_ok
    next hempty =>
    obtain ⟨total, htotal, h⟩ := bind_eq_ok_iff.mp h
    obtain ⟨pay, hpay, h⟩ := bind_eq_ok_iff.mp h
    obtain ⟨hcost, rfl⟩ := (itemsTotal_eq_ok_iff hitems).mp htotal
    obtain ⟨hgross, hcovers, rfl⟩ := (amountToPay_eq_ok_iff (hamount hcost) hdiscount hshipping).mp hpay
    exact ⟨by simpa using hempty, hcost, hgross, hcovers, (pure_eq_ok_iff.mp h).symm⟩
  · rintro ⟨hne, hcost, hgross, hcovers, rfl⟩
    have htotal := (itemsTotal_eq_ok_iff hitems).mpr ⟨hcost, rfl⟩
    have hpay := (amountToPay_eq_ok_iff (hamount hcost) hdiscount hshipping).mpr ⟨hgross, hcovers, rfl⟩
    rw [if_neg (by simpa using hne)]
    exact bind_eq_ok_iff.mpr ⟨_, htotal, bind_eq_ok_iff.mpr ⟨_, hpay, rfl⟩⟩

theorem isInvalidValue_of_prepare
    (h : prepare user items receiver discount shipping remark now = .error refusal) :
    refusal.IsInvalidValue := by
  unfold prepare at h
  split at h
  · exact ⟨_, (Except.error.inj h).symm⟩
  rcases bind_eq_error_iff.mp h with htotal | ⟨total, -, h⟩
  · exact isInvalidValue_of_itemsTotal htotal
  rcases bind_eq_error_iff.mp h with hpay | ⟨pay, -, h⟩
  · exact isInvalidValue_of_amountToPay hpay
  · simp [pure, Except.pure] at h

/-! ## From products to items -/

variable {wanted : List (Product × Int)} {w : Product × Int}

/-- What quantities of products cost. -/
def worth (wanted : List (Product × Int)) : Int :=
  (wanted.map fun w => w.1.price.amount * w.2).sum

/-- The item for a quantity of a product, with the amount of the integers. -/
def itemOf (w : Product × Int) : OrderItem :=
  ⟨w.1.id, w.1.name, w.1.image, w.2, w.1.price, ⟨w.1.price.amount * w.2⟩⟩

theorem cost_map_itemOf (wanted : List (Product × Int)) : cost (wanted.map itemOf) = worth wanted := by
  simp [cost, worth, itemOf, Function.comp_def]

theorem ofProduct_eq_ok_iff (hprice : w.1.price.IsAmount) (hquantity : 0 < w.2) {i : OrderItem} :
    OrderItem.ofProduct w.1 w.2 = .ok i ↔
      w.1.price.amount * w.2 ≤ Width.int64.greatest ∧ i = itemOf w := by
  rw [OrderItem.ofProduct_eq_ok_iff, and_iff_right hquantity]
  have hnonneg := Int.mul_nonneg hprice.nonneg hquantity.le
  refine and_congr_left fun _ => ⟨And.right, fun hle => ⟨Int.le_trans (by decide) hnonneg, hle⟩⟩

theorem isInvalidValue_of_ofProduct (hquantity : 0 < w.2)
    (h : OrderItem.ofProduct w.1 w.2 = .error refusal) : refusal.IsInvalidValue := by
  rcases bind_eq_error_iff.mp h with hpositive | ⟨_, -, h⟩
  · rw [ensurePositive_eq_ok_iff (u := ()).mpr hquantity] at hpositive
    simp at hpositive
  rcases bind_eq_error_iff.mp h with hmultiply | ⟨total, -, h⟩
  · exact Money.isInvalidValue_of_checked hmultiply
  · simp [pure, Except.pure] at h

theorem mapM_ofProduct_eq_ok_iff (h : ∀ w ∈ wanted, w.1.price.IsAmount ∧ 0 < w.2) :
    (wanted.mapM fun w => OrderItem.ofProduct w.1 w.2) = .ok items ↔
      (∀ w ∈ wanted, w.1.price.amount * w.2 ≤ Width.int64.greatest) ∧ items = wanted.map itemOf := by
  induction wanted generalizing items with
  | nil => simp [pure, Except.pure, eq_comm]
  | cons w wanted ih =>
    obtain ⟨hw, hwanted⟩ := List.forall_mem_cons.mp h
    simp only [List.mapM_cons, bind_eq_ok_iff, pure_eq_ok_iff, ofProduct_eq_ok_iff hw.1 hw.2, ih hwanted,
      List.forall_mem_cons, List.map_cons]
    constructor
    · rintro ⟨_, ⟨hle, rfl⟩, _, ⟨hrest, rfl⟩, rfl⟩
      exact ⟨⟨hle, hrest⟩, rfl⟩
    · rintro ⟨⟨hle, hrest⟩, rfl⟩
      exact ⟨_, ⟨hle, rfl⟩, _, ⟨hrest, rfl⟩, rfl⟩

/-! ## From products to a draft -/

/-- A draft for quantities of products. -/
def ofProducts (user : UserId) (wanted : List (Product × Int)) (receiver : Receiver)
    (discount shipping : Money) (remark : Option String) (now : Instant) : Except Refusal Draft := do
  let items ← wanted.mapM fun w => OrderItem.ofProduct w.1 w.2
  prepare user items receiver discount shipping remark now

theorem totalPrice_nonneg (hwanted : ∀ w ∈ wanted, w.1.price.IsAmount ∧ 0 < w.2) :
    ∀ i ∈ wanted.map itemOf, 0 ≤ i.totalPrice.amount := by
  intro i hi
  obtain ⟨w, hw, rfl⟩ := List.mem_map.mp hi
  exact Int.mul_nonneg (hwanted w hw).1.nonneg (hwanted w hw).2.le

theorem ofProducts_eq_ok_iff (hwanted : ∀ w ∈ wanted, w.1.price.IsAmount ∧ 0 < w.2)
    (hdiscount : discount.IsAmount) (hshipping : shipping.IsAmount) :
    ofProducts user wanted receiver discount shipping remark now = .ok draft ↔
      wanted ≠ [] ∧ (∀ w ∈ wanted, w.1.price.amount * w.2 ≤ Width.int64.greatest) ∧
        worth wanted ≤ Width.int64.greatest ∧ worth wanted + shipping.amount ≤ Width.int64.greatest ∧
        discount.amount ≤ worth wanted + shipping.amount ∧
        draft = ofAmounts user (wanted.map itemOf) receiver discount shipping remark now := by
  simp only [ofProducts, bind_eq_ok_iff, mapM_ofProduct_eq_ok_iff hwanted, and_assoc, exists_and_left,
    exists_eq_left, prepare_eq_ok_iff (totalPrice_nonneg hwanted) hdiscount hshipping, cost_map_itemOf, ne_eq,
    List.map_eq_nil_iff]
  exact and_left_comm

theorem isInvalidValue_of_ofProducts (hquantities : ∀ w ∈ wanted, 0 < w.2)
    (h : ofProducts user wanted receiver discount shipping remark now = .error refusal) :
    refusal.IsInvalidValue := by
  rcases bind_eq_error_iff.mp h with hitems | ⟨items, -, h⟩
  · obtain ⟨w, hw, hitem⟩ := exists_of_mapM_eq_error hitems
    exact isInvalidValue_of_ofProduct (hquantities w hw) hitem
  · exact isInvalidValue_of_prepare h

/-- **No amount of a draft is negative or too large.** -/
structure InRange (draft : Draft) : Prop where
  items : ∀ i ∈ draft.items, i.unitPrice.IsAmount ∧ i.totalPrice.IsAmount
  total : draft.total.IsAmount
  discount : draft.discount.IsAmount
  shipping : draft.shipping.IsAmount
  pay : draft.pay.IsAmount

theorem inRange_of_ofProducts (hwanted : ∀ w ∈ wanted, w.1.price.IsAmount ∧ 0 < w.2)
    (hdiscount : discount.IsAmount) (hshipping : shipping.IsAmount)
    (h : ofProducts user wanted receiver discount shipping remark now = .ok draft) : draft.InRange := by
  obtain ⟨-, hfits, htotal, hgross, hcovers, rfl⟩ := (ofProducts_eq_ok_iff hwanted hdiscount hshipping).mp h
  have hnonneg := totalPrice_nonneg hwanted
  have hcost := cost_map_itemOf wanted
  refine ⟨fun i hi => ?_, Money.isAmount_iff.mpr ⟨cost_nonneg hnonneg, hcost.trans_le htotal⟩, hdiscount,
    hshipping, Money.isAmount_iff.mpr ?_⟩
  · obtain ⟨w, hw, rfl⟩ := List.mem_map.mp hi
    exact ⟨(hwanted w hw).1, Money.isAmount_iff.mpr ⟨hnonneg _ hi, hfits w hw⟩⟩
  · have := hdiscount.nonneg
    simp only [ofAmounts, hcost]
    omega

/-- **The amounts of an order are exact.**  There is a draft for quantities of products if and only if there are
any, each product with its quantity, their sum, and this with the shipping fee have 64 bits, and the discount
is not larger.  Then all amounts are those of the integers, and none is negative or too large.  Otherwise a
value is refused. -/
theorem amounts_exact (hwanted : ∀ w ∈ wanted, w.1.price.IsAmount ∧ 0 < w.2)
    (hdiscount : discount.IsAmount) (hshipping : shipping.IsAmount) :
    ((∃ draft, ofProducts user wanted receiver discount shipping remark now = .ok draft) ↔
        wanted ≠ [] ∧ (∀ w ∈ wanted, w.1.price.amount * w.2 ≤ Width.int64.greatest) ∧
          worth wanted ≤ Width.int64.greatest ∧ worth wanted + shipping.amount ≤ Width.int64.greatest ∧
          discount.amount ≤ worth wanted + shipping.amount) ∧
      (∀ draft, ofProducts user wanted receiver discount shipping remark now = .ok draft →
        draft.items.map (fun i => i.totalPrice.amount) = wanted.map (fun w => w.1.price.amount * w.2) ∧
          draft.total.amount = worth wanted ∧
          draft.pay.amount = worth wanted + shipping.amount - discount.amount ∧
          draft = ofAmounts user (wanted.map itemOf) receiver discount shipping remark now ∧
          draft.InRange) ∧
      ∀ refusal, ofProducts user wanted receiver discount shipping remark now = .error refusal →
        refusal.IsInvalidValue := by
  refine ⟨?_, fun draft h => ?_, fun refusal h => isInvalidValue_of_ofProducts (fun w hw => (hwanted w hw).2) h⟩
  · simp only [ofProducts_eq_ok_iff hwanted hdiscount hshipping, exists_and_left, exists_eq, and_true]
  · have hinRange := inRange_of_ofProducts hwanted hdiscount hshipping h
    obtain ⟨-, -, -, -, -, rfl⟩ := (ofProducts_eq_ok_iff hwanted hdiscount hshipping).mp h
    refine ⟨?_, cost_map_itemOf wanted, ?_, rfl, hinRange⟩
    · simp [ofAmounts, itemOf, Function.comp_def]
    · simp only [ofAmounts, cost_map_itemOf]

/-- Two boxes of tea, with a discount and a shipping fee. -/
theorem amounts_exact_tea :
    let wanted : List (Product × Int) := [(⟨⟨1⟩, "tea", ⟨300⟩, none⟩, 2)]
    let receiver : Receiver := ⟨"A", "1", "B", none⟩
    (∀ w ∈ wanted, w.1.price.IsAmount ∧ 0 < w.2) ∧
      ∃ draft, ofProducts ⟨1⟩ wanted receiver ⟨100⟩ ⟨50⟩ none ⟨0⟩ = .ok draft ∧
        draft.total = ⟨600⟩ ∧ draft.pay = ⟨550⟩ ∧ draft.InRange := by
  intro wanted receiver
  have hwanted : ∀ w ∈ wanted, w.1.price.IsAmount ∧ 0 < w.2 := by
    simp [wanted, Money.isAmount_iff, Width.greatest]
  obtain ⟨hiff, hexact, -⟩ := @amounts_exact ⟨1⟩ receiver ⟨100⟩ ⟨50⟩ none ⟨0⟩ wanted hwanted
    (Money.isAmount_iff.mpr (by decide)) (Money.isAmount_iff.mpr (by decide))
  obtain ⟨draft, hdraft⟩ := hiff.mpr (by simp [wanted, worth, Width.greatest])
  obtain ⟨-, htotal, hpay, -, hinRange⟩ := hexact draft hdraft
  exact ⟨hwanted, draft, hdraft, congrArg Money.mk htotal, congrArg Money.mk hpay, hinRange⟩

end Draft

end Stockroom
