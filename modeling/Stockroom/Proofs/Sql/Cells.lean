import Stockroom.Proofs.Order.Prepared
import Stockroom.Sql.Mapping

/-!
# Proofs/Sql/Cells — what is read from the cells of a row

Every column is read from its own cell and from no other (`Reading.Local`), and **what stands in a cell is
read from it** (`Reading.int_of_lookup` and its siblings).

A thing is read from a row exactly if each of its columns is (`Reading.stock_eq_ok_iff` and its siblings).
-/

namespace Stockroom

theorem ReservationStatus.ofText_text (s : ReservationStatus) : ofText s.text = .ok s := by
  rw [ofText, ofText?_text]

theorem ChangeKind.ofText_text (k : ChangeKind) : ofText k.text = .ok k := by
  rw [ofText, ofText?_text]

theorem OrderStatus.ofText_text (s : OrderStatus) : ofText s.text = .ok s := by
  rw [ofText, ofText?_text]

namespace Sql

variable {α : Type} {row row' : Row} {name : String}

theorem Row.cell_of_lookup {value : Value} (h : row.lookup name = some value) :
    row.cell name = .ok value := by
  rw [Row.cell, h]

theorem Row.cell_congr (h : row.lookup name = row'.lookup name) : row.cell name = row'.cell name := by
  rw [Row.cell, Row.cell, h]

theorem Row.mem_columns_iff : name ∈ row.map Prod.fst ↔ (row.lookup name).isSome := by
  rw [Option.isSome_iff_ne_none, Ne, List.lookup_eq_none_iff, List.mem_map]
  grind

namespace Reading

/-! ## One cell -/

/-- **A reading that looks at one cell only.** -/
def Local (name : String) (read : Reading α) : Prop :=
  ∀ {row row' : Row}, row.lookup name = row'.lookup name → read row = read row'

theorem local_column {read : Row → String → Except Failure α}
    (h : ∀ {row row' : Row}, row.cell name = row'.cell name → read row name = read row' name) :
    Local name (column read name) := fun hlookup => by
  rw [column, column, h (Row.cell_congr hlookup)]

theorem local_int (w : Width) : Local name (column (Row.int w) name) :=
  local_column fun h => by rw [Row.int, Row.int, h]

theorem local_text : Local name (text name) := local_column fun h => by rw [Row.text, Row.text, h]

theorem local_time : Local name (time name) := local_column fun h => by rw [Row.time, Row.time, h]

theorem local_text? : Local name (text? name) :=
  local_column fun h => by simp only [Row.optional, Row.text, h]

theorem local_time? : Local name (time? name) :=
  local_column fun h => by simp only [Row.optional, Row.time, h]

theorem local_id {kind : IdKind} : Local name (id name : Reading (Id kind)) := fun h => by
  rw [id, id, int64, local_int _ h]

theorem local_money : Local name (money name) := fun h => by
  rw [money, money, int64, local_int _ h]

end Reading

/-! ## What stands in a cell -/

namespace Row

theorem int_of_lookup {w : Width} {n : Int} (h : row.lookup name = some (.int n)) (hn : w.Fits n) :
    Row.int w row name = .ok n := by
  rw [Row.int, cell_of_lookup h]
  exact if_pos hn

theorem text_of_lookup {s : String} (h : row.lookup name = some (.text s)) :
    row.text name = .ok s := by
  rw [Row.text, cell_of_lookup h]
  rfl

theorem time_of_lookup {t : Instant} (h : row.lookup name = some (.time t)) : row.time name = .ok t := by
  rw [Row.time, cell_of_lookup h]
  rfl

theorem optional_of_null {read : Row → String → Except Failure α}
    (h : row.lookup name = some .null) : Row.optional read row name = .ok none := by
  rw [Row.optional, cell_of_lookup h]
  rfl

theorem optional_of_lookup {read : Row → String → Except Failure α} {value : Value} {a : α}
    (h : row.lookup name = some value) (hvalue : value ≠ .null) (hread : read row name = .ok a) :
    Row.optional read row name = .ok (some a) := by
  rw [Row.optional, cell_of_lookup h, hread]
  cases value with
  | null => exact absurd rfl hvalue
  | _ => rfl

end Row

namespace Reading

theorem column_eq_ok {read : Row → String → Except Failure α} {a : α} (h : read row name = .ok a) :
    column read name row = .ok a := by
  rw [column, h]
  rfl

theorem int_of_lookup {w : Width} {n : Int} (h : row.lookup name = some (.int n)) (hn : w.Fits n) :
    column (Row.int w) name row = .ok n := column_eq_ok (Row.int_of_lookup h hn)

theorem text_of_lookup {s : String} (h : row.lookup name = some (.text s)) :
    text name row = .ok s := column_eq_ok (Row.text_of_lookup h)

theorem time_of_lookup {t : Instant} (h : row.lookup name = some (.time t)) : time name row = .ok t :=
  column_eq_ok (Row.time_of_lookup h)

theorem id_of_lookup {kind : IdKind} {id : Id kind} (h : row.lookup name = some (.ofId id))
    (hid : Width.int64.Fits id.value) : Reading.id name row = .ok id := by
  rw [Reading.id, int64, int_of_lookup h hid]
  rfl

theorem money_of_lookup {m : Money} (h : row.lookup name = some (.int m.amount)) (hm : m.IsAmount) :
    money name row = .ok m := by
  rw [money, int64, int_of_lookup h hm.fits]
  show obeying "金額" (Money.of m.amount) = .ok m
  rw [Money.of_eq_ok_iff.mpr ⟨hm.nonneg, rfl⟩]
  rfl

theorem text?_of_lookup {s : Option String} (h : row.lookup name = some (.ofOption .text s)) :
    text? name row = .ok s := by
  cases s with
  | none => exact column_eq_ok (Row.optional_of_null h)
  | some s => exact column_eq_ok (Row.optional_of_lookup h nofun (Row.text_of_lookup h))

theorem time?_of_lookup {t : Option Instant} (h : row.lookup name = some (.ofOption .time t)) :
    time? name row = .ok t := by
  cases t with
  | none => exact column_eq_ok (Row.optional_of_null h)
  | some t => exact column_eq_ok (Row.optional_of_lookup h nofun (Row.time_of_lookup h))

theorem id?_of_lookup {kind : IdKind} {id : Option (Id kind)}
    (h : row.lookup name = some (.ofOption .ofId id)) (hid : ∀ i ∈ id, Width.int64.Fits i.value) :
    id? name row = .ok id := by
  cases id with
  | none =>
    rw [id?, column_eq_ok (Row.optional_of_null h)]
    rfl
  | some id =>
    rw [id?, column_eq_ok (Row.optional_of_lookup h nofun (Row.int_of_lookup h (hid id rfl)))]
    rfl

/-! ## Whole rows -/

theorem stock_eq_ok_iff {r : StockRecord} :
    stock row = .ok r ↔ id "product_id" row = .ok r.product ∧
      int32 "available_stock" row = .ok r.available ∧ int32 "reserved_stock" row = .ok r.reserved ∧
      int32 "low_stock_threshold" row = .ok r.threshold ∧ int64 "version" row = .ok r.version ∧
      time "created_at" row = .ok r.createdAt ∧ time "updated_at" row = .ok r.updatedAt := by
  simp only [stock, bind_eq_ok_iff, pure_eq_ok_iff]
  constructor
  · rintro ⟨_, h₁, _, h₂, _, h₃, _, h₄, _, h₅, _, h₆, _, h₇, rfl⟩
    exact ⟨h₁, h₂, h₃, h₄, h₅, h₆, h₇⟩
  · rintro ⟨h₁, h₂, h₃, h₄, h₅, h₆, h₇⟩
    exact ⟨_, h₁, _, h₂, _, h₃, _, h₄, _, h₅, _, h₆, _, h₇, rfl⟩

theorem obeying_eq_ok_iff {subject : String} {value : Except Refusal α} {a : α} :
    obeying subject value = .ok a ↔ value = .ok a := by
  cases value with
  | ok b => exact ⟨fun h => congrArg _ (Except.ok.inj h), fun h => congrArg _ (Except.ok.inj h)⟩
  | error e => exact ⟨nofun, nofun⟩

theorem reservation_eq_ok_iff {r : Reservation} :
    reservation row = .ok r ↔
      (∃ status, text "status" row = .ok status ∧ ReservationStatus.ofText status = .ok r.status) ∧
      id "product_id" row = .ok r.product ∧ id "order_id" row = .ok r.order ∧
      int32 "quantity" row = .ok r.quantity ∧ time "expires_at" row = .ok r.expiresAt ∧
      time "created_at" row = .ok r.createdAt ∧ time "updated_at" row = .ok r.updatedAt := by
  simp only [reservation, bind_eq_ok_iff, pure_eq_ok_iff, obeying_eq_ok_iff]
  constructor
  · rintro ⟨_, h₁, _, h₁', _, h₂, _, h₃, _, h₄, _, h₅, _, h₆, _, h₇, rfl⟩
    exact ⟨⟨_, h₁, h₁'⟩, h₂, h₃, h₄, h₅, h₆, h₇⟩
  · rintro ⟨⟨_, h₁, h₁'⟩, h₂, h₃, h₄, h₅, h₆, h₇⟩
    exact ⟨_, h₁, _, h₁', _, h₂, _, h₃, _, h₄, _, h₅, _, h₆, _, h₇, rfl⟩

theorem entry_eq_ok_iff {e : Entry} :
    entry row = .ok e ↔
      (∃ kind, text "change_type" row = .ok kind ∧ ChangeKind.ofText kind = .ok e.kind) ∧
      id? "order_id" row = .ok e.order ∧ id? "operator_id" row = .ok e.operator ∧
      (∃ number, int64 "id" row = .ok number ∧ e.id = some number) ∧
      id "product_id" row = .ok e.product ∧ int32 "quantity_change" row = .ok e.change ∧
      int32 "before_available" row = .ok e.before.available ∧
      int32 "before_reserved" row = .ok e.before.reserved ∧
      int32 "after_available" row = .ok e.after.available ∧
      int32 "after_reserved" row = .ok e.after.reserved ∧
      text? "reason" row = .ok e.reason ∧ time "created_at" row = .ok e.createdAt := by
  simp only [entry, bind_eq_ok_iff, pure_eq_ok_iff, obeying_eq_ok_iff]
  constructor
  · rintro ⟨_, h₁, _, h₁', _, h₂, _, h₃, _, h₄, _, h₅, _, h₆, _, h₇, _, h₈, _, h₉, _, h₁₀, _, h₁₁, _, h₁₂,
      rfl⟩
    exact ⟨⟨_, h₁, h₁'⟩, h₂, h₃, ⟨_, h₄, rfl⟩, h₅, h₆, h₇, h₈, h₉, h₁₀, h₁₁, h₁₂⟩
  · obtain ⟨number, product, order, kind, change, before, after, reason, operator, createdAt⟩ := e
    rintro ⟨⟨_, h₁, h₁'⟩, h₂, h₃, ⟨_, h₄, rfl⟩, h₅, h₆, h₇, h₈, h₉, h₁₀, h₁₁, h₁₂⟩
    exact ⟨_, h₁, _, h₁', _, h₂, _, h₃, _, h₄, _, h₅, _, h₆, _, h₇, _, h₈, _, h₉, _, h₁₀, _, h₁₁, _, h₁₂, rfl⟩

theorem item_eq_ok_iff {i : OrderItem} :
    item row = .ok i ↔ id "product_id" row = .ok i.product ∧ text "product_name" row = .ok i.name ∧
      text? "product_image" row = .ok i.image ∧ int32 "quantity" row = .ok i.quantity ∧
      money "unit_price" row = .ok i.unitPrice ∧ money "total_price" row = .ok i.totalPrice := by
  simp only [item, bind_eq_ok_iff, pure_eq_ok_iff]
  constructor
  · rintro ⟨_, h₁, _, h₂, _, h₃, _, h₄, _, h₅, _, h₆, rfl⟩
    exact ⟨h₁, h₂, h₃, h₄, h₅, h₆⟩
  · rintro ⟨h₁, h₂, h₃, h₄, h₅, h₆⟩
    exact ⟨_, h₁, _, h₂, _, h₃, _, h₄, _, h₅, _, h₆, rfl⟩

theorem receiver_eq_ok_iff {r : Receiver} :
    receiver row = .ok r ↔ ∃ name phone address zipCode, text "receiver_name" row = .ok name ∧
      text "receiver_phone" row = .ok phone ∧ text "receiver_address" row = .ok address ∧
      text? "receiver_zip_code" row = .ok zipCode ∧ Receiver.of name phone address zipCode = .ok r := by
  simp only [receiver, bind_eq_ok_iff, obeying_eq_ok_iff]
  constructor
  · rintro ⟨_, h₁, _, h₂, _, h₃, _, h₄, h₅⟩
    exact ⟨_, _, _, _, h₁, h₂, h₃, h₄, h₅⟩
  · rintro ⟨_, _, _, _, h₁, h₂, h₃, h₄, h₅⟩
    exact ⟨_, h₁, _, h₂, _, h₃, _, h₄, h₅⟩

/-- **What an order says besides how far it has come**, column by column. -/
structure ReadsDraft (row : Row) (draft : Draft) : Prop where
  receiver : receiver row = .ok draft.receiver
  createdAt : time "created_at" row = .ok draft.createdAt
  orderNo : text "order_no" row = .ok draft.orderNo
  user : id "user_id" row = .ok draft.user
  total : money "total_amount" row = .ok draft.total
  discount : money "discount_amount" row = .ok draft.discount
  shipping : money "shipping_fee" row = .ok draft.shipping
  pay : money "pay_amount" row = .ok draft.pay
  remark : text? "remark" row = .ok draft.remark

/-- **How far an order has come**, column by column. -/
structure ReadsProgress (row : Row) (status : OrderStatus) (timeline : Timeline) : Prop where
  status : ∃ written, text "status" row = .ok written ∧ OrderStatus.ofText written = .ok status
  paidAt : time? "paid_at" row = .ok timeline.paidAt
  shippedAt : time? "shipped_at" row = .ok timeline.shippedAt
  completedAt : time? "completed_at" row = .ok timeline.completedAt
  cancelledAt : time? "cancelled_at" row = .ok timeline.cancelledAt
  updatedAt : time "updated_at" row = .ok timeline.updatedAt

theorem order_eq_ok_iff {items : List OrderItem} {o : Order} :
    order items row = .ok o ↔ o.draft.items = items ∧ id "id" row = .ok o.id ∧
      ReadsDraft row o.draft ∧ ReadsProgress row o.status o.timeline := by
  simp only [order, bind_eq_ok_iff, pure_eq_ok_iff, obeying_eq_ok_iff]
  constructor
  · rintro ⟨_, hs, _, hs', _, h₁, _, h₂, _, h₃, _, h₄, _, h₅, _, h₆, _, h₇, _, h₈, _, h₉, _, t₁, _, t₂,
      _, t₃, _, t₄, _, t₅, _, h, rfl⟩
    exact ⟨rfl, h, ⟨h₁, h₂, h₃, h₄, h₅, h₆, h₇, h₈, h₉⟩, ⟨⟨_, hs, hs'⟩, t₁, t₂, t₃, t₄, t₅⟩⟩
  · rintro ⟨rfl, h, ⟨h₁, h₂, h₃, h₄, h₅, h₆, h₇, h₈, h₉⟩, ⟨⟨_, hs, hs'⟩, t₁, t₂, t₃, t₄, t₅⟩⟩
    exact ⟨_, hs, _, hs', _, h₁, _, h₂, _, h₃, _, h₄, _, h₅, _, h₆, _, h₇, _, h₈, _, h₉, _, t₁, _, t₂, _, t₃,
      _, t₄, _, t₅, _, h, rfl⟩

end Reading

end Sql

end Stockroom
