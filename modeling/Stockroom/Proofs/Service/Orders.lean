import Stockroom.Proofs.Service.Stock

/-!
# Proofs/Service/Orders — the calls that move orders plan all their items

Paying and cancelling are one call with two parameters (`moveAll`): load the order, move it, settle
its items one after the other, and save it.  **The writes that it ends with are one plan for each item
and the order behind them** (`moveAll_plans`).  No row is written twice, because the items of an order
are different products.
-/

namespace Stockroom

open Store Call

variable {A : ServiceCall → Prop} {call : ServiceCall} {s s' : Store} {d : Desk}
  {tape tape' : Tape} {commits : List Deed} {writes planned : List Write}

/-! ## Plans for an item -/

/-- The rows that belong to an item of an order. -/
def OrderItem.rows (id : OrderId) (item : OrderItem) : List RowName :=
  [.stock item.product, .reservation ⟨item.product, id⟩]

/-- A row belongs to the items of one product only. -/
theorem OrderItem.product_eq_of_rows {id : OrderId} {item other : OrderItem} {row : RowName}
    (h : row ∈ item.rows id) (h' : row ∈ other.rows id) : item.product = other.product := by
  simp only [rows, List.mem_cons, List.not_mem_nil, or_false] at h h'
  rcases h with rfl | rfl
  · exact h'.elim RowName.stock.inj nofun
  · exact h'.elim nofun fun h' => congrArg ReservationKey.product (RowName.reservation.inj h')

/-- What is planned for an item of a new order, of a paid one, or of a cancelled one. -/
structure ItemPlan (A : ServiceCall → Prop) (id : OrderId) where
  plans : Store → OrderItem → Tape → List Write → Tape → Prop
  later : ∀ {s s' item tape writes tape'}, plans s item tape writes tape' → Later A s s' →
    plans s' item tape writes tape'
  rows : ∀ {s item tape writes tape' row}, plans s item tape writes tape' →
    row ∈ writes.filterMap Write.row? → row ∈ item.rows id

namespace ItemPlan

variable {id : OrderId} {item : OrderItem}

theorem rows_of_planned {m : Movement} {next : StockRecord} (h : m.Planned A s next writes)
    (hproduct : m.product = item.product) (horder : m.order? = some id) {row : RowName}
    (hrow : row ∈ writes.filterMap Write.row?) : row ∈ item.rows id := by
  have hrows := h.rows (fun o ho => Option.some.inj (ho.symm.trans horder)) hrow
  rw [hproduct] at hrows
  rcases hrows with rfl | rfl
  · exact List.mem_cons_self
  · exact List.mem_cons_of_mem _ List.mem_cons_self

/-- The item of a new order is reserved. -/
def reserve (A : ServiceCall → Prop) (ttl : Span) (id : OrderId) : ItemPlan A id where
  plans s item tape writes tape' := tape' = tape.read ∧ ∃ next expiresAt,
    tape.time.after? ttl = some expiresAt ∧
      (Movement.reserve item.product item.quantity id expiresAt tape.time).Planned A s next writes
  later := fun ⟨htape, next, expiresAt, he, h⟩ hl => ⟨htape, next, expiresAt, he, h.later hl⟩
  rows := fun ⟨_, _, _, _, h⟩ => rows_of_planned h rfl rfl

/-- The item of a paid order is deducted. -/
def deduct (A : ServiceCall → Prop) (id : OrderId) : ItemPlan A id where
  plans s item tape writes tape' := tape' = tape.read ∧ ∃ next,
    (Movement.deduct item.product item.quantity id tape.time).Planned A s next writes
  later := fun ⟨htape, next, h⟩ hl => ⟨htape, next, h.later hl⟩
  rows := fun ⟨_, _, h⟩ => rows_of_planned h rfl rfl

/-- The item of a cancelled order is released, unless its reservation has expired. -/
def release (A : ServiceCall → Prop) (id : OrderId) : ItemPlan A id where
  plans s item tape writes tape' :=
    (tape' = tape ∧ writes = [] ∧ Was A s fun t =>
      ∃ r, t.reservation? item.product id = some r ∧ r.status = .expired) ∨
    tape' = tape.read ∧ ∃ next,
      (Movement.release item.product item.quantity id .cancelled tape.time).Planned A s next writes
  later := fun h hl => h.imp (fun ⟨htape, hw, h⟩ => ⟨htape, hw, h.later hl⟩)
    fun ⟨htape, next, h⟩ => ⟨htape, next, h.later hl⟩
  rows := fun h hrow => by
    rcases h with ⟨-, rfl, -⟩ | ⟨-, _, h⟩
    · cases hrow
    · exact rows_of_planned h rfl rfl hrow

end ItemPlan

namespace OrderService

variable {user : UserId} {id : OrderId}

/-! ## Steps inside a unit of work -/

theorem loadOrder_sees {owner : Option UserId} (h : d.At A (some writes) tape commits s)
    (hnew : .order id ∉ writes.filterMap Write.row?) :
    (loadOrder id owner).Assured A call (fun order d s => d.At A (some writes) tape commits s ∧
      (∀ user, owner = some user → order.user = user) ∧
        Was A s fun t => t.order? id = some order) d s := by
  refine (h.findOrder id).bind fun found d' s' _ hQ => ?_
  cases found with
  | none => exact .throw
  | some order =>
    dsimp only
    split
    · next howner =>
      refine .pure fun s'' hl => ⟨(hQ s'' hl).1, fun user hu => ?_, (hQ s'' hl).2 hnew⟩
      subst hu
      exact of_decide_eq_true howner
    · exact .throw

theorem saveMove_writes {order : Order} {expected : OrderStatus}
    (h : d.At A (some writes) tape commits s) :
    (saveMove order expected).Assured A call (fun _ d s =>
      d.At A (some (writes ++ [.replaceOrder order expected])) tape commits s) d s :=
  .insist <| h.write (r := .replaceOrder order expected) (P := (· = true)) fun _ =>
    ⟨rfl, fun _ => StockService.held_of_answer⟩

/-- **All items of an order, one after the other.**  The invariant of the loop is that no row of the
remaining items was written. -/
theorem forM_plans {f : OrderItem → Call Unit} {items : List OrderItem} (P : ItemPlan A id)
    (hf : ∀ item d s writes tape, d.At A (some writes) tape commits s →
      (∀ row ∈ item.rows id, row ∉ writes.filterMap Write.row?) →
      (f item).Assured A call (fun _ d s => ∃ planned tape',
        d.At A (some (writes ++ planned)) tape' commits s ∧ P.plans s item tape planned tape') d s)
    (hitems : (items.map OrderItem.product).Nodup) (h : d.At A (some writes) tape commits s)
    (hnew : ∀ item ∈ items, ∀ row ∈ item.rows id, row ∉ writes.filterMap Write.row?) :
    (items.forM f).Assured A call (fun _ d s => ∃ planned tape',
      d.At A (some (writes ++ planned)) tape' commits s ∧
        Works (P.plans s) items tape planned tape') d s := by
  induction items generalizing d s writes tape with
  | nil => exact .pure fun s' hl => ⟨[], tape, by rw [List.append_nil]; exact h.later hl, .nil⟩
  | cons item items ih =>
    rw [List.map_cons, List.nodup_cons] at hitems
    refine (hf item d s writes tape h (hnew item List.mem_cons_self)).seq
      fun _ d s _ ⟨planned, tape', h, hplan⟩ => ?_
    refine (ih hitems.2 h fun other hother row hrow => ?_).mono
      fun _ d s' hl ⟨more, tape'', h, hworks⟩ => ?_
    · rw [List.filterMap_append, List.mem_append, not_or]
      refine ⟨hnew other (List.mem_cons_of_mem _ hother) row hrow, fun hmem => hitems.1 ?_⟩
      rw [OrderItem.product_eq_of_rows (P.rows hplan hmem) hrow]
      exact List.mem_map_of_mem hother
    · rw [List.append_assoc] at h
      exact ⟨_, tape'', h, .cons (P.later hplan hl) hworks⟩

/-- **What paying and cancelling share**: an order moves together with its items. -/
def moveAll (user : UserId) (id : OrderId) (move : OrderMove)
    (settle : OrderId → OrderItem → Call Unit) : Call Order := do
  let order ← loadOrder id user
  let moved ← obey (move.apply order (← now))
  moved.items.forM (settle moved.id)
  saveMove moved order.status
  return moved

/-- The item of a paid order leaves the stockroom. -/
def deductItem (id : OrderId) (item : OrderItem) : Call Unit := do
  let _ ← StockService.deductIn item.product item.quantity id

theorem payIn_eq_moveAll : payIn user id = moveAll user id .pay deductItem := rfl

theorem cancelIn_eq_moveAll : cancelIn user id = moveAll user id .cancel releaseItem := rfl

/-- **An order that moves together with its items**: it was seen, it belongs to the user, and its next
state is saved after a plan for each of its items. -/
structure MovePlan (P : (id : OrderId) → ItemPlan A id) (user : UserId) (id : OrderId)
    (move : OrderMove) (tape : Tape) (moved : Order) (writes : List Write) (tape' : Tape)
    (s : Store) (order : Order) (planned : List Write) : Prop where
  seen : Was A s fun t => t.order? id = some order
  owner : order.user = user
  apply : move.apply order tape.time = .ok moved
  works : Works ((P id).plans s) order.items tape.read planned tape'
  saved : writes = planned ++ [.replaceOrder moved order.status]

theorem moveAll_plans {move : OrderMove} {settle : OrderId → OrderItem → Call Unit}
    {P : (id : OrderId) → ItemPlan A id}
    (hsettle : ∀ item d s writes tape, d.At A (some writes) tape commits s →
      (∀ row ∈ item.rows id, row ∉ writes.filterMap Write.row?) →
      (settle id item).Assured A call (fun _ d s => ∃ planned tape',
        d.At A (some (writes ++ planned)) tape' commits s ∧ (P id).plans s item tape planned tape')
        d s)
    (h : d.At A (some []) tape commits s) :
    (moveAll user id move settle).Assured A call (fun moved d s => ∃ writes tape',
      d.At A (some writes) tape' commits s ∧
        ∃ order planned, MovePlan P user id move tape moved writes tape' s order planned) d s := by
  refine (loadOrder_sees h List.not_mem_nil).seq fun order d s hl₀ ⟨h, huser, hseen⟩ => ?_
  refine h.now.seq fun now d s hl₁ ⟨hnow, h⟩ => .obey_bind fun moved hmoved => ?_
  subst hnow
  have hmove := OrderMove.apply_precedes hmoved
  have ⟨s₀, hs₀, _, horder⟩ := hseen
  obtain rfl : moved.id = id := hmove.id.trans (hs₀.wellKept.orderKey _ _ horder)
  have hitems : moved.items = order.items := congrArg Draft.items hmove.draft
  refine (forM_plans (P moved.id) hsettle (hitems ▸ hs₀.wellKept.items _ _ horder) h
    fun _ _ _ _ => List.not_mem_nil).seq fun _ d s hl₂ ⟨planned, tape', h, hworks⟩ => ?_
  refine (saveMove_writes h).seq fun _ d s hl₃ h => .pure fun s' hl₄ => ?_
  have hl := hl₃.trans hl₄
  exact ⟨_, tape', h.later hl₄, order, planned, (hseen.later hl₁).later (hl₂.trans hl), huser _ rfl,
    hmoved, hitems ▸ hworks.imp fun _ _ _ _ hplan => (P moved.id).later hplan hl, rfl⟩

/-! ## Items -/

variable {item : OrderItem}

/-- The rows of an item that was not written. -/
theorem fresh_of_rows (hnew : ∀ row ∈ item.rows id, row ∉ writes.filterMap Write.row?) :
    .stock item.product ∉ writes.filterMap Write.row? ∧
      .reservation ⟨item.product, id⟩ ∉ writes.filterMap Write.row? :=
  ⟨hnew _ List.mem_cons_self, hnew _ (List.mem_cons_of_mem _ List.mem_cons_self)⟩

theorem reserveItem_plans {ttl : Span} (h : d.At A (some writes) tape commits s)
    (hnew : ∀ row ∈ item.rows id, row ∉ writes.filterMap Write.row?) :
    Call.Assured A call (fun _ d s => ∃ planned tape',
      d.At A (some (writes ++ planned)) tape' commits s ∧
        (ItemPlan.reserve A ttl id).plans s item tape planned tape')
      (do let _ ← StockService.reserveIn item.product item.quantity id ttl) d s := by
  refine (StockService.reserveIn_plans h (fresh_of_rows hnew).1).seq
    fun next d s _ ⟨planned, expiresAt, h, he, hplanned⟩ => .pure fun s' hl => ?_
  exact ⟨planned, _, h.later hl, rfl, next, expiresAt, he, hplanned.later hl⟩

theorem deductItem_plans (h : d.At A (some writes) tape commits s)
    (hnew : ∀ row ∈ item.rows id, row ∉ writes.filterMap Write.row?) :
    (deductItem id item).Assured A call (fun _ d s => ∃ planned tape',
      d.At A (some (writes ++ planned)) tape' commits s ∧
        (ItemPlan.deduct A id).plans s item tape planned tape') d s := by
  refine (StockService.deductIn_plans h (fresh_of_rows hnew).1 (fresh_of_rows hnew).2).seq
    fun next d s _ ⟨planned, h, hplanned⟩ => .pure fun s' hl => ?_
  exact ⟨planned, _, h.later hl, rfl, next, hplanned.later hl⟩

/-- **An item of a cancelled order** is released, or its reservation was seen to have expired. -/
theorem releaseItem_plans (h : d.At A (some writes) tape commits s)
    (hnew : ∀ row ∈ item.rows id, row ∉ writes.filterMap Write.row?) :
    (releaseItem id item).Assured A call (fun _ d s => ∃ planned tape',
      d.At A (some (writes ++ planned)) tape' commits s ∧
        (ItemPlan.release A id).plans s item tape planned tape') d s := by
  obtain ⟨hstock, hreservation⟩ := fresh_of_rows hnew
  refine (h.findReservation item.product id).seq fun found d s _ ⟨h, hfound⟩ => ?_
  split
  · next hexpired =>
    obtain ⟨r, rfl, hr⟩ := Option.map_eq_some_iff.mp hexpired
    refine (h.log _).mono fun _ d s hl h => ⟨[], tape, by rwa [List.append_nil], .inl ⟨rfl, rfl, ?_⟩⟩
    exact ((hfound hreservation).later hl).imp fun _ _ hfound => ⟨r, hfound, hr⟩
  · refine (StockService.releaseIn_plans h hstock hreservation).seq
      fun next d s _ ⟨planned, h, hplanned⟩ => .pure fun s' hl => ?_
    exact ⟨planned, _, h.later hl, .inr ⟨rfl, next, hplanned.later hl⟩⟩

/-! ## Orders -/

/-- **An order that moves alone.** -/
theorem moveIn_plans (move : OrderMove) {now : Instant} (h : d.At A (some []) tape commits s) :
    (moveIn id (move.apply · now)).Assured A call (fun moved d s => ∃ order,
      d.At A (some [.replaceOrder moved order.status]) tape commits s ∧
        (Was A s fun t => t.order? id = some order) ∧ move.apply order now = .ok moved) d s := by
  refine (loadOrder_sees h List.not_mem_nil).seq fun order d s _ ⟨h, _, hseen⟩ =>
    .obey_bind fun moved hmoved => (saveMove_writes h).seq fun _ d s hl h => .pure fun s' hl' => ?_
  exact ⟨order, h.later hl', hseen.later (hl.trans hl'), hmoved⟩

/-- **A new order**: it is numbered and written, and a reservation is planned for each item. -/
theorem placeIn_plans {settings : StockSettings} {draft : Draft} (hA : A call)
    (hdraw : ∀ s : Store, Change call s ⟨s.committed, s.nextOrder + 1⟩)
    (hitems : (draft.items.map OrderItem.product).Nodup) (h : d.At A (some []) tape commits s) :
    (placeIn settings draft).Assured A call (fun order d s => ∃ id planned tape',
      d.At A (some (.insertOrder order :: planned)) tape' commits s ∧ order = draft.toOrder id ∧
        Works ((ItemPlan.reserve A settings.reservationTtl id).plans s) draft.items tape planned
          tape') d s := by
  refine (h.insertOrder hA hdraw draft).seq fun order d s _ ⟨id, horder, h⟩ => ?_
  subst horder
  refine (forM_plans (ItemPlan.reserve A settings.reservationTtl id)
    (fun _ _ _ _ _ => reserveItem_plans) hitems h ?_).seq
    fun _ d s _ ⟨planned, tape', h, hworks⟩ => .pure fun s' hl => ?_
  · intro item _ row hrow hmem
    simp only [OrderItem.rows, List.mem_cons, List.not_mem_nil, or_false] at hrow
    rcases hrow with rfl | rfl <;> simp [Write.row?] at hmem
  · exact ⟨id, planned, tape', h.later hl, rfl, hworks.imp fun _ _ _ _ hplan =>
      (ItemPlan.reserve A settings.reservationTtl id).later hplan hl⟩

/-! ## Before a unit of work -/

/-- An item asks for what its line asks for. -/
theorem itemFor_line {products : List Product} {line : OrderLine} :
    (itemFor products line).Assured A call (fun item _ _ => item.line = line) d s := by
  unfold itemFor
  split
  · next product hfound =>
    refine .obey fun item hitem s' _ => ?_
    have hid : product.id = line.product := by simpa using List.find?_some hfound
    obtain ⟨-, -, hitem⟩ := bind_eq_ok_iff.mp hitem
    obtain ⟨price, -, hitem⟩ := bind_eq_ok_iff.mp hitem
    cases hitem
    exact congrArg (OrderLine.mk · line.quantity) hid
  · exact .throw

theorem checkAll_idle {lines : List OrderLine} :
    (StockService.checkAll lines).Assured A call (fun _ _ _ => True) d s := by
  have hcheck : ∀ line d s,
      (StockService.checkAvailability line).Assured A call (fun _ _ _ => True) d s := by
    intro line d s
    refine .obey_bind fun _ _ => ?_
    refine Call.Assured.seq (Q := fun _ _ _ => True) ?_ fun record d s _ _ => .pure fun _ _ => trivial
    refine Call.Assured.seq (Q := fun _ _ _ => True) (.step fun _ _ _ => .inl rfl) fun found d s _ _ => ?_
    cases found with
    | none => exact .throw
    | some record => exact .pure fun _ _ => trivial
  exact (Call.Assured.mapM (P := fun _ _ => True) hcheck).mono fun _ _ _ _ _ => trivial

/-- **What is prepared is what was asked for.** -/
theorem prepare_lines {request : OrderRequest} {lines : List OrderLine} :
    (prepare request lines).Assured A call (fun draft _ _ =>
      draft.items.map OrderItem.line = lines ∧ draft.user = request.user) d s := by
  refine Call.Assured.seq (Q := fun _ _ _ => True) (.step fun _ _ _ => .inl rfl)
    fun products d s _ _ => ?_
  refine (Call.Assured.mapM (P := fun line item => item.line = line) fun line d s => itemFor_line).seq
    fun items d s _ hitems => checkAll_idle.seq fun checks d s _ _ => ?_
  have hlines : items.map OrderItem.line = lines := by
    clear products
    induction hitems with
    | nil => rfl
    | cons h _ ih => rw [List.map_cons, h, ih]
  refine Call.Assured.seq (Q := fun _ _ _ => True) ?_ fun _ d s _ _ => ?_
  · unfold ensureCovered
    split
    · exact .throw
    · exact .pure fun _ _ => trivial
  refine Call.Assured.seq (Q := fun _ _ _ => True) (.idle fun _ _ => rfl) fun now d s _ _ => ?_
  refine .obey fun draft hdraft s' _ => ?_
  unfold Draft.prepare at hdraft
  split at hdraft
  · cases hdraft
  · obtain ⟨total, -, hdraft⟩ := bind_eq_ok_iff.mp hdraft
    obtain ⟨pay, -, hdraft⟩ := bind_eq_ok_iff.mp hdraft
    cases hdraft
    exact ⟨hlines, rfl⟩

end OrderService

end Stockroom
