import Stockroom.Order.Draft
import Stockroom.Proofs.Data.Except

/-!
# Proofs/Order/Prepared — a draft that was prepared passes its checks again

`Draft.IsPrepared` is a draft that its parts were made for, each by the function that checks it.
**What was checked once passes again**: the receiver is made of its own fields (`Receiver.of_self`), and no
amount is negative or too large (`Money.IsAmount`), those that were added up included.
-/

namespace Stockroom

/-! ## Amounts -/

namespace Money

/-- An amount that `Money.of` makes of a number with 64 bits. -/
structure IsAmount (m : Money) : Prop where
  nonneg : 0 ≤ m.amount
  fits : Width.int64.Fits m.amount

variable {m other result : Money} {amount lhs rhs : Int}

theorem of_eq_ok_iff : of amount = .ok m ↔ 0 ≤ amount ∧ m = ⟨amount⟩ := by
  unfold of
  split
  · next h => simp [Int.not_le.mpr h]
  · next h => simp [Int.not_lt.mp h, eq_comm]

theorem checked_eq_ok_iff : checked amount lhs rhs = .ok m ↔ Width.int64.Fits amount ∧ m = ⟨amount⟩ := by
  unfold checked
  split
  · next h => simp [h, eq_comm]
  · next h => simp [h]

theorem IsAmount.of (hfits : Width.int64.Fits amount) (h : Money.of amount = .ok m) : m.IsAmount := by
  obtain ⟨hnonneg, rfl⟩ := of_eq_ok_iff.mp h
  exact ⟨hnonneg, hfits⟩

theorem IsAmount.checked (hnonneg : 0 ≤ amount) (h : Money.checked amount lhs rhs = .ok m) : m.IsAmount := by
  obtain ⟨hfits, rfl⟩ := checked_eq_ok_iff.mp h
  exact ⟨hnonneg, hfits⟩

theorem IsAmount.add (hm : m.IsAmount) (hother : other.IsAmount) (h : m.add other = .ok result) :
    result.IsAmount := .checked (Int.add_nonneg hm.nonneg hother.nonneg) h

theorem IsAmount.multiply {quantity : Int} (hm : m.IsAmount) (hpos : 0 < quantity)
    (h : m.multiply quantity = .ok result) : result.IsAmount :=
  .checked (Int.mul_nonneg hm.nonneg (Int.le_of_lt hpos)) h

end Money

/-! ## The receiver -/

theorem Text.nonBlank_nonBlank (s : Option String) : nonBlank (nonBlank s) = nonBlank s := by
  rw [nonBlank, nonBlank, Option.filter_filter]
  exact congrArg s.filter (funext fun text => Bool.and_self _)

namespace Receiver

variable {name phone address : String} {zipCode : Option String} {r : Receiver}

theorem of_eq_ok_iff : of name phone address zipCode = .ok r ↔
    ensureLength .name name = .ok () ∧ ensureLength .phone phone = .ok () ∧
      ensureLength .address address = .ok () ∧
      (∀ zip ∈ Text.nonBlank zipCode, ensureLength .zipCode zip = .ok ()) ∧
      r = ⟨name, phone, address, Text.nonBlank zipCode⟩ := by
  rw [eq_comm (a := r)]
  have hunit : ∀ {x : Except Refusal Unit}, (∃ u, x = .ok u) ↔ x = .ok () :=
    ⟨fun ⟨_, h⟩ => h, fun h => ⟨(), h⟩⟩
  unfold of
  cases Text.nonBlank zipCode <;> simp [bind_eq_ok_iff, hunit]

/-- **A receiver is made of its own fields.** -/
theorem of_self (h : of name phone address zipCode = .ok r) :
    of r.name r.phone r.address r.zipCode = .ok r := by
  obtain ⟨hname, hphone, haddress, hzip, rfl⟩ := of_eq_ok_iff.mp h
  rw [of_eq_ok_iff, Text.nonBlank_nonBlank]
  exact ⟨hname, hphone, haddress, hzip, rfl⟩

end Receiver

/-! ## Items -/

namespace OrderItem

/-- The numbers of an item have their widths, and its prices are amounts. -/
structure IsSound (i : OrderItem) : Prop where
  product : Width.int64.Fits i.product.value
  quantity : Width.int32.Fits i.quantity
  unitPrice : i.unitPrice.IsAmount
  totalPrice : i.totalPrice.IsAmount

/-- **There is an item** for a positive quantity whose amount has 64 bits. -/
theorem ofProduct_eq_ok_iff {product : Product} {quantity : Int} {i : OrderItem} :
    ofProduct product quantity = .ok i ↔ 0 < quantity ∧
      Width.int64.Fits (product.price.amount * quantity) ∧
      i = ⟨product.id, product.name, product.image, quantity, product.price,
        ⟨product.price.amount * quantity⟩⟩ := by
  constructor
  · intro h
    obtain ⟨_, hpos, h⟩ := bind_eq_ok_iff.mp h
    obtain ⟨total, htotal, h⟩ := bind_eq_ok_iff.mp h
    obtain ⟨hfits, rfl⟩ := Money.checked_eq_ok_iff.mp htotal
    exact ⟨ensurePositive_eq_ok_iff.mp hpos, hfits, (pure_eq_ok_iff.mp h).symm⟩
  · rintro ⟨hpos, hfits, rfl⟩
    exact bind_eq_ok_iff.mpr ⟨(), ensurePositive_eq_ok_iff.mpr hpos,
      bind_eq_ok_iff.mpr ⟨_, Money.checked_eq_ok_iff.mpr ⟨hfits, rfl⟩, rfl⟩⟩

/-- An item for a quantity of a product, whose price is an amount. -/
inductive IsPriced : OrderItem → Prop
  | ofProduct {product : Product} {quantity price : Int} {i : OrderItem}
      (hid : Width.int64.Fits product.id.value) (hprice : Width.int64.Fits price)
      (hof : Money.of price = .ok product.price) (hquantity : Width.int32.Fits quantity)
      (h : OrderItem.ofProduct product quantity = .ok i) : IsPriced i

theorem IsPriced.isSound {i : OrderItem} (h : i.IsPriced) : i.IsSound := by
  obtain ⟨hid, hprice, hof, hquantity, h⟩ := h
  obtain ⟨_, hpos, h⟩ := bind_eq_ok_iff.mp h
  obtain ⟨total, htotal, h⟩ := bind_eq_ok_iff.mp h
  obtain rfl := pure_eq_ok_iff.mp h
  have hunit := Money.IsAmount.of hprice hof
  exact ⟨hid, hquantity, hunit, hunit.multiply (ensurePositive_eq_ok_iff.mp hpos) htotal⟩

end OrderItem

/-! ## Drafts -/

namespace Draft

/-- The numbers of a draft have their widths, and what it consists of passes its checks. -/
structure IsSound (draft : Draft) : Prop where
  user : Width.int64.Fits draft.user.value
  items : ∀ i ∈ draft.items, i.IsSound
  total : draft.total.IsAmount
  discount : draft.discount.IsAmount
  shipping : draft.shipping.IsAmount
  pay : draft.pay.IsAmount
  receiver : Receiver.of draft.receiver.name draft.receiver.phone draft.receiver.address
    draft.receiver.zipCode = .ok draft.receiver

/-- **A draft that its parts were made for**: the receiver from fields, the discount and the shipping fee from
numbers, and the items from products. -/
inductive IsPrepared : Draft → Prop
  | prepare {user : UserId} {items : List OrderItem} {name phone address : String} {zipCode : Option String}
      {receiver : Receiver} {off fee : Int} {discount shipping : Money} {remark : Option String}
      {now : Instant} {draft : Draft} (huser : Width.int64.Fits user.value)
      (hreceiver : Receiver.of name phone address zipCode = .ok receiver)
      (hoff : Width.int64.Fits off) (hdiscount : Money.of off = .ok discount)
      (hfee : Width.int64.Fits fee) (hshipping : Money.of fee = .ok shipping)
      (hitems : ∀ i ∈ items, i.IsPriced)
      (h : Draft.prepare user items receiver discount shipping remark now = .ok draft) : IsPrepared draft

theorem isAmount_foldlM {items : List OrderItem} {sum total : Money} (hsum : sum.IsAmount)
    (hitems : ∀ i ∈ items, i.IsSound)
    (h : items.foldlM (fun sum item => sum.add item.totalPrice) sum = .ok total) : total.IsAmount := by
  induction items generalizing sum with
  | nil => exact pure_eq_ok_iff.mp h ▸ hsum
  | cons i items ih =>
    obtain ⟨hi, hitems⟩ := List.forall_mem_cons.mp hitems
    obtain ⟨sum', hadd, h⟩ := bind_eq_ok_iff.mp h
    exact ih (hsum.add hi.totalPrice hadd) hitems h

theorem isAmount_amountToPay {total discount shipping pay : Money}
    (h : amountToPay total discount shipping = .ok pay) : pay.IsAmount := by
  obtain ⟨gross, -, h⟩ := bind_eq_ok_iff.mp h
  split at h
  · next paid hpaid =>
    obtain rfl := pure_eq_ok_iff.mp h
    exact .of (Width.fits_wrap _ _) hpaid
  · exact absurd h throw_ne_ok

/-- **What was prepared is sound.** -/
theorem IsPrepared.isSound {draft : Draft} (h : draft.IsPrepared) : draft.IsSound := by
  obtain ⟨huser, hreceiver, hoff, hdiscount, hfee, hshipping, hitems, h⟩ := h
  have hitems := fun i hi => (hitems i hi).isSound
  unfold Draft.prepare at h
  split at h
  · exact absurd h throw_bind_ne_ok
  obtain ⟨total, htotal, h⟩ := bind_eq_ok_iff.mp h
  obtain ⟨pay, hpay, h⟩ := bind_eq_ok_iff.mp h
  obtain rfl := pure_eq_ok_iff.mp h
  exact ⟨huser, hitems, isAmount_foldlM ⟨Int.le_refl 0, by decide⟩ hitems htotal, .of hoff hdiscount,
    .of hfee hshipping, isAmount_amountToPay hpay, Receiver.of_self hreceiver⟩

end Draft

end Stockroom
