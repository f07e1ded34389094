import Stockroom.Proofs.Crowd.Independence
import Stockroom.Proofs.Crowd.Placement
import Stockroom.Proofs.Service.Alone

/-!
# Proofs/Crowd/Privacy — orders of others might as well not be there

`Store.seenBy user` is the store without the orders of everybody else.  **A user cannot tell the two apart**
by looking an order up by its id or by listing orders (`hidden_orders`), and whoever tries to pay or to
cancel an order of somebody else is told what is told about an id that no order has, and changes nothing.

The reason is where ownership is looked at: in a lookup it is a condition on the row that is found, in a
listing it comes before sorting and cutting, and a move asks for it right after loading, before the status
or a reservation could make a difference.
-/

namespace Stockroom

open Store

/-! ## Tables with fewer rows -/

namespace Table

variable {κ α : Type} [Ord κ] [Std.LawfulEqOrd κ]

/-- The table with some of its rows. -/
def filter (t : Table κ α) (keep : α → Bool) : Table κ α :=
  ⟨t.rows.filter fun row => keep row.2, t.ascending.filter _⟩

omit [Std.LawfulEqOrd κ] in
theorem values_filter (t : Table κ α) (keep : α → Bool) :
    (t.filter keep).values = t.values.filter keep := by
  rw [values, values, List.filter_map]
  rfl

/-- A row that is left out is not found, and all others are. -/
theorem get?_filter (t : Table κ α) (keep : α → Bool) (key : κ) :
    (t.filter keep).get? key = (t.get? key).filter keep := by
  cases hfound : t.get? key with
  | some value =>
    cases hkeep : keep value with
    | true =>
      have hrow : (key, value) ∈ (t.filter keep).rows :=
        List.mem_filter.mpr ⟨mem_of_lookup_eq_some hfound, hkeep⟩
      rw [Option.filter_some_pos hkeep]
      exact lookup_eq_some_of_mem (t.filter keep).ascending hrow
    | false =>
      rw [Option.filter_some_neg (by simp [hkeep])]
      refine Option.eq_none_iff_forall_ne_some.mpr fun other hother => ?_
      obtain ⟨hrow, hkept⟩ := List.mem_filter.mp (mem_of_lookup_eq_some hother)
      cases hfound.symm.trans (lookup_eq_some_of_mem t.ascending hrow)
      cases hkeep.symm.trans hkept
  | none =>
    refine Option.eq_none_iff_forall_ne_some.mpr fun other hother => ?_
    obtain ⟨hrow, -⟩ := List.mem_filter.mp (mem_of_lookup_eq_some hother)
    cases hfound.symm.trans (lookup_eq_some_of_mem t.ascending hrow)

end Table

/-! ## What a user sees -/

/-- The state without the orders of everybody else. -/
def Store.Tables.seenBy (t : Tables) (user : UserId) : Tables :=
  { t with orders := t.orders.filter (·.isOwnedBy user) }

/-- **The store without the orders of everybody else.** -/
def Store.seenBy (s : Store) (user : UserId) : Store :=
  { s with committed := s.committed.seenBy user }

variable {s : Store} {t : Tables} {user : UserId} {id : OrderId} {tape : Tape}

/-- An order of somebody else is not there. -/
theorem Store.Tables.order?_seenBy :
    (t.seenBy user).order? id = (t.order? id).filter (·.isOwnedBy user) := Table.get?_filter ..

/-- The listing looks at nothing but the orders of the user. -/
theorem Store.Tables.ordersOf_seenBy : (t.seenBy user).ordersOf user = t.ordersOf user := by
  have hvalues : (t.seenBy user).orders.values = t.orders.values.filter (·.isOwnedBy user) :=
    Table.values_filter ..
  rw [ordersOf, ordersOf, hvalues, List.filter_filter]
  simp only [Bool.and_self]

namespace ServiceCall

/-- **What a lookup by id answers**: the order, if it is the user's. -/
theorem finish_orderOf :
    (finish (.orderOf user id) tape s).1 =
      .done (match (s.committed.order? id).filter (·.isOwnedBy user) with
        | some order => .ok order
        | none => .error (.notFound (.order id))) := by
  show ((OrderService.ownedBy user (s.committed.order? id) (.order id)).run.finish _ _).1 = _
  unfold OrderService.ownedBy
  cases (s.committed.order? id).filter (·.isOwnedBy user) <;> rfl

/-- **What a listing answers.** -/
theorem finish_ordersOf {page : PageRequest} :
    (finish (.ordersOf user page) tape s).1 =
      .done (.ok (Page.cut (s.committed.ordersOf user) page)) := rfl

end ServiceCall

/-! ## Moving an order of somebody else -/

namespace OrderService

/-- **An order of somebody else is loaded no more than one that does not exist.** -/
theorem loadOrder_fails (h : ∀ o, t.order? id = some o → o.isOwnedBy user = false) :
    (loadOrder id user).Fails s t tape (.notFound (.order id)) tape := by
  refine .after (.find (r := .findOrder id) (·.order? id) fun _ => rfl) ?_
  cases hfound : t.order? id with
  | some order =>
    simp only [Option.all_some, h order hfound]
    exact .throw
  | none => exact .throw

/-- **Settling an order of somebody else** fails before anything else is looked at. -/
theorem finish_inUnit_loadOrder {α : Type} {component : String} {f : Order → Call Order}
    {g : Order → Call α} (h : ∀ o, s.committed.order? id = some o → o.isOwnedBy user = false) :
    ((Call.inUnit component (loadOrder id user >>= f) >>= g).run.finish (.fresh tape) s).1 =
        .done (.error (.notFound (.order id))) ∧
      ((Call.inUnit component (loadOrder id user >>= f) >>= g).run.finish (.fresh tape) s).2.2 = s := by
  obtain ⟨d, halone, -⟩ : ∃ d, (Call.inUnit component (loadOrder id user >>= f)).run.alone
      (.fresh tape) s = some (.error (.notFound (.order id)), d, s) ∧ d.tape = tape :=
    Call.Fails.alone_inUnit (Call.Fails.bind (loadOrder_fails h))
  have hboth : (Call.inUnit component (loadOrder id user >>= f) >>= g).run.alone (.fresh tape) s =
      some (.error (.notFound (.order id)), d, s) := Call.alone_bind_error halone
  rw [Program.alone_eq_some_iff.mp hboth]
  exact ⟨rfl, rfl⟩

end OrderService

/-- **Orders of others are invisible** by id and in lists.  A user who looks an order up or lists orders is
answered as if all others had none.  And whoever pays or cancels an order of somebody else is answered as on
any store that has no order of that id, and leaves the store as it was. -/
theorem hidden_orders (s : Store) (user : UserId) (tape : Tape) :
    (∀ id, (ServiceCall.finish (.orderOf user id) tape s).1 =
        (ServiceCall.finish (.orderOf user id) tape (s.seenBy user)).1) ∧
      (∀ page, (ServiceCall.finish (.ordersOf user page) tape s).1 =
        (ServiceCall.finish (.ordersOf user page) tape (s.seenBy user)).1) ∧
      ∀ id o, s.committed.order? id = some o → o.user ≠ user →
        ∀ s₀ : Store, s₀.committed.order? id = none →
          (ServiceCall.finish (.pay user id) tape s).1 = (ServiceCall.finish (.pay user id) tape s₀).1 ∧
          (ServiceCall.finish (.pay user id) tape s).1 = .done (.error (.notFound (.order id))) ∧
          (ServiceCall.finish (.pay user id) tape s).2.2 = s ∧
          (ServiceCall.finish (.cancel user id) tape s).1 =
            (ServiceCall.finish (.cancel user id) tape s₀).1 ∧
          (ServiceCall.finish (.cancel user id) tape s).1 = .done (.error (.notFound (.order id))) ∧
          (ServiceCall.finish (.cancel user id) tape s).2.2 = s := by
  refine ⟨fun id => ?_, fun page => ?_, fun id o ho hother s₀ hnone => ?_⟩
  · rw [ServiceCall.finish_orderOf, ServiceCall.finish_orderOf, Store.seenBy, Store.Tables.order?_seenBy,
      Option.filter_filter]
    simp only [Bool.and_self]
  · rw [ServiceCall.finish_ordersOf, ServiceCall.finish_ordersOf, Store.seenBy,
      Store.Tables.ordersOf_seenBy]
  · have hforeign : ∀ o', s.committed.order? id = some o' → o'.isOwnedBy user = false := by
      intro o' ho'
      cases ho.symm.trans ho'
      exact decide_eq_false hother
    have hmissing : ∀ o', s₀.committed.order? id = some o' → o'.isOwnedBy user = false :=
      fun o' ho' => nomatch hnone.symm.trans ho'
    obtain ⟨hpay, hpaid⟩ : (ServiceCall.finish (.pay user id) tape s).1 = _ ∧ _ :=
      OrderService.finish_inUnit_loadOrder hforeign
    obtain ⟨hpay₀, -⟩ : (ServiceCall.finish (.pay user id) tape s₀).1 = _ ∧ _ :=
      OrderService.finish_inUnit_loadOrder hmissing
    obtain ⟨hcancel, hcancelled⟩ : (ServiceCall.finish (.cancel user id) tape s).1 = _ ∧ _ :=
      OrderService.finish_inUnit_loadOrder hforeign
    obtain ⟨hcancel₀, -⟩ : (ServiceCall.finish (.cancel user id) tape s₀).1 = _ ∧ _ :=
      OrderService.finish_inUnit_loadOrder hmissing
    exact ⟨hpay.trans hpay₀.symm, hpay, hpaid, hcancel.trans hcancel₀.symm, hcancel, hcancelled⟩

/-- The store after two users have ordered tea. -/
def teaStore : Store :=
  ((Crowd.opening (Table.empty.insert ⟨1⟩ Crowd.tea) Crowd.teaCalls).run Crowd.teaSchedule).store

/-- The second user can neither pay nor cancel the tea of the first one, and lists their own order only. -/
theorem hidden_orders_tea :
    (∃ o, teaStore.committed.order? ⟨1⟩ = some o ∧ o.user = ⟨8⟩ ∧ o.status = .pending) ∧
      (ServiceCall.finish (.pay ⟨9⟩ ⟨1⟩) shelvedTape teaStore).1 =
        .done (.error (.notFound (.order ⟨1⟩))) ∧
      (ServiceCall.finish (.cancel ⟨9⟩ ⟨1⟩) shelvedTape teaStore).2.2 = teaStore ∧
      (ServiceCall.finish (.ordersOf ⟨9⟩ default) shelvedTape teaStore).1 =
        (ServiceCall.finish (.ordersOf ⟨9⟩ default) shelvedTape (teaStore.seenBy ⟨9⟩)).1 := by
  obtain ⟨o, ho, huser, hstatus⟩ :
      ∃ o, teaStore.committed.order? ⟨1⟩ = some o ∧ o.user = ⟨8⟩ ∧ o.status = .pending :=
    ⟨_, rfl, rfl, rfl⟩
  have hother : o.user ≠ ⟨9⟩ := by
    rw [huser]
    decide
  obtain ⟨-, hlist, hmoves⟩ := hidden_orders teaStore ⟨9⟩ shelvedTape
  obtain ⟨-, hpay, -, -, -, hcancelled⟩ := hmoves ⟨1⟩ o ho hother .empty rfl
  exact ⟨⟨o, ho, huser, hstatus⟩, hpay, hcancelled, hlist default⟩

end Stockroom
