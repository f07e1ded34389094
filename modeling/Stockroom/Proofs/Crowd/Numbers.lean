import Mathlib.Data.List.Induction
import Stockroom.Proofs.Crowd.Placement
import Stockroom.Proofs.Order.Number

/-!
# Proofs/Crowd/Numbers — orders that share a number

The number of an order comes from the clock alone, and no write looks at the numbers that are taken.  So
orders may share a number, and of those that do only the first one is found under it
(`Tables.orderByNumber?_eq_some_iff`).

**Every order of a run has an author**: one call that has placed this order and no other, under a number
that its own clock has given it (`Crowd.exists_author`).  Hence orders share a number exactly if their
authors have read the same second and the same last digits, and where no two callers can do so every
order is found by its owner.
-/

namespace Stockroom

open Call Exchange Store

/-! ## Finding an order -/

/-- **The first row with a property** is the one with the least key. -/
theorem Table.find?_values_eq_some_iff {κ α : Type} [Ord κ] [Std.LawfulEqOrd κ] [Std.TransOrd κ]
    {t : Table κ α} {p : α → Bool} {value : α} :
    t.values.find? p = some value ↔ ∃ key, t.get? key = some value ∧ p value ∧
      ∀ key' value', t.get? key' = some value' → p value' → (compare key key').isLE := by
  rw [values, List.find?_map, Option.map_eq_some_iff]
  constructor
  · rintro ⟨⟨key, value⟩, hfind, rfl⟩
    obtain ⟨hp, before, after, hrows, hbefore⟩ := List.find?_eq_some_iff_append.mp hfind
    have hrow : (key, value) ∈ t.rows := by simp [hrows]
    refine ⟨key, lookup_eq_some_of_mem t.ascending hrow, hp, fun key' value' hvalue' hp' => ?_⟩
    have hrow' := mem_of_lookup_eq_some hvalue'
    have hascending := t.ascending
    rw [hrows] at hrow' hascending
    rcases List.mem_append.mp hrow' with hmem | hmem
    · exact absurd hp' (by simpa using hbefore _ hmem)
    rcases List.mem_cons.mp hmem with heq | hmem
    · cases heq
      simp
    · have hlt := (List.pairwise_cons.mp (List.pairwise_append.mp hascending).2.1).1 _ hmem
      rw [hlt]
      rfl
  · rintro ⟨key, hvalue, hp, hfirst⟩
    obtain ⟨before, after, hrows⟩ := List.append_of_mem (mem_of_lookup_eq_some hvalue)
    refine ⟨(key, value), List.find?_eq_some_iff_append.mpr ⟨hp, before, after, hrows, ?_⟩, rfl⟩
    rintro ⟨key', value'⟩ hmem
    have hlt : compare key' key = .lt := by
      have hascending := t.ascending
      rw [hrows] at hascending
      exact (List.pairwise_append.mp hascending).2.2 _ hmem _ List.mem_cons_self
    by_contra hp'
    have hrow : (key', value') ∈ t.rows := by simp [hrows, hmem]
    have hle := hfirst key' value' (lookup_eq_some_of_mem t.ascending hrow) (by simpa using hp')
    rw [Std.OrientedCmp.gt_iff_lt.mpr hlt] at hle
    cases hle

/-- **The order that is found under a number** has the lowest id of those that share it. -/
theorem Store.Tables.orderByNumber?_eq_some_iff {t : Tables} (hk : t.WellKept) {orderNo : String}
    {order : Order} : t.orderByNumber? orderNo = some order ↔
      t.order? order.id = some order ∧ order.draft.orderNo = orderNo ∧
        ∀ id other, t.order? id = some other → other.draft.orderNo = orderNo →
          order.id.value ≤ id.value := by
  have hle (a b : OrderId) : (compare a b).isLE ↔ a.value ≤ b.value := Int.isLE_compare
  rw [orderByNumber?, Table.find?_values_eq_some_iff]
  simp only [decide_eq_true_eq, hle]
  constructor
  · rintro ⟨key, horder, hnumber, hfirst⟩
    obtain rfl : order.id = key := hk.orderKey _ _ horder
    exact ⟨horder, hnumber, hfirst⟩
  · rintro ⟨horder, hnumber, hfirst⟩
    exact ⟨order.id, horder, hnumber, hfirst⟩

/-- **Looking a number up** answers the order that is found, if it belongs to the user. -/
theorem OrderService.alone_orderByNumber (user : UserId) (orderNo : String) (d : Desk) (s : Store) :
    ∃ d', (orderByNumber user orderNo).run.alone d s = some
      (((s.committed.orderByNumber? orderNo).filter (·.isOwnedBy user)).elim
        (.error (.notFound (.orderNumber orderNo))) .ok, d', s) := by
  refine ⟨(d.answer s (.store (.orderByNumber orderNo))).2.1, ?_⟩
  show (ownedBy user (s.committed.orderByNumber? orderNo) (.orderNumber orderNo)).run.alone _ s = _
  rw [ownedBy]
  cases (s.committed.orderByNumber? orderNo).filter (·.isOwnedBy user) <;> rfl

/-- **Whether the owner of an order finds it** under its number, from any desk. -/
def Store.Finds (s : Store) (order : Order) : Prop :=
  ∀ d, ∃ d', (OrderService.orderByNumber order.user order.draft.orderNo).run.alone d s =
    some (.ok order, d', s)

/-- **An order is found by its owner** exactly if it is the first of those that share its number. -/
theorem Store.finds_iff {s : Store} (hk : s.committed.WellKept) {order : Order}
    (horder : s.committed.order? order.id = some order) : s.Finds order ↔
      ∀ id other, s.committed.order? id = some other →
        other.draft.orderNo = order.draft.orderNo → order.id.value ≤ id.value := by
  constructor
  · intro hfinds
    obtain ⟨d', hanswer⟩ := hfinds (.fresh (.unused (fun _ => ⟨0⟩) fun _ => ⟨0⟩))
    obtain ⟨d'', halone⟩ := OrderService.alone_orderByNumber order.user order.draft.orderNo
      (.fresh (.unused (fun _ => ⟨0⟩) fun _ => ⟨0⟩)) s
    have hresult := congrArg Prod.fst (Option.some.inj (halone.symm.trans hanswer))
    cases hfound : (s.committed.orderByNumber? order.draft.orderNo).filter (·.isOwnedBy order.user) with
    | none =>
      rw [hfound] at hresult
      cases hresult
    | some found =>
      rw [hfound] at hresult
      cases hresult
      exact ((Tables.orderByNumber?_eq_some_iff hk).mp (Option.filter_eq_some_iff.mp hfound).1).2.2
  · intro hfirst d
    obtain ⟨d', halone⟩ := OrderService.alone_orderByNumber order.user order.draft.orderNo d s
    have hfound := (Tables.orderByNumber?_eq_some_iff hk).mpr ⟨horder, rfl, hfirst⟩
    have howned : (some order).filter (·.isOwnedBy order.user) = some order :=
      Option.filter_eq_some_iff.mpr ⟨rfl, by simp [Order.isOwnedBy]⟩
    rw [hfound, howned] at halone
    exact ⟨d', halone⟩

/-! ## New orders -/

section Change

variable {call : ServiceCall} {s s' : Store} {id : OrderId}

/-- An order that moves, after its items have moved, was there before. -/
theorem Store.Tables.order?_ne_none_of_putOrder {t t' : Tables} (move : OrderMove) {order moved : Order}
    {now : Instant} (hk : t.WellKept) (horder : t.order? id = some order)
    (hmoved : move.apply order now = .ok moved) (horders : t'.orders = t.orders) {other : OrderId}
    (hother : (t'.putOrder moved).order? other ≠ none) : t.order? other ≠ none := by
  have hid : moved.id = id := (OrderMove.apply_precedes hmoved).id.trans (hk.orderKey _ _ horder)
  rw [order?_putOrder, hid, order?, horders] at hother
  split at hother
  · next heq =>
    rw [heq, horder]
    exact Option.some_ne_none _
  · exact hother

/-- **A new order is placed by a call that creates orders.** -/
theorem Change.create_of_new (h : Change call s s') (hk : s.committed.WellKept)
    (hnew : s.committed.order? id = none) (hid : s'.committed.order? id ≠ none) :
    ∃ stock settings request, call = .create stock settings request := by
  cases h with
  | post _ hm =>
    rw [Tables.order?, hm.orders] at hid
    exact absurd hnew hid
  | register => exact absurd hnew hid
  | tune => exact absurd hnew hid
  | remove => exact absurd hnew hid
  | draw => exact ⟨_, _, _, rfl⟩
  | place => exact ⟨_, _, _, rfl⟩
  | pay horder _ hpaid hitems =>
    exact absurd hnew (Tables.order?_ne_none_of_putOrder .pay hk horder hpaid
      (hitems.edits_deducts : Edits True _ _ ∧ _).2 hid)
  | ship horder hshipped =>
    exact absurd hnew (Tables.order?_ne_none_of_putOrder .ship hk horder hshipped rfl hid)
  | complete horder hcompleted =>
    exact absurd hnew (Tables.order?_ne_none_of_putOrder .complete hk horder hcompleted rfl hid)
  | cancel horder _ hcancelled hitems =>
    exact absurd hnew (Tables.order?_ne_none_of_putOrder .cancel hk horder hcancelled
      (hitems.edits_releases : Edits True _ _ ∧ _).2 hid)

end Change

/-! ## Authors -/

namespace Crowd

variable {w : Crowd} {schedule first first' rest : List Nat} {i : Nat} {order order' : Order}

/-- **A caller that has placed an order** in a run: its step after these has added the order, and none of its
others has changed anything. -/
structure HasPlaced (w : Crowd) (schedule : List Nat) (i : Nat) (first : List Nat) (order : Order) :
    Prop where
  split : ∃ rest, schedule = first ++ i :: rest
  new : (w.run first).store.committed.order? order.id = none
  orders : ((w.run first).step i).store.committed.orders =
    (w.run first).store.committed.orders.insert order.id order
  elsewhere : ∀ first' rest', schedule = first' ++ i :: rest' → first' ≠ first →
    ((w.run first').step i).store.committed = (w.run first').store.committed

/-- The order that a step has placed is the only new one. -/
theorem HasPlaced.eq_of_new {id : OrderId} (h : w.HasPlaced schedule i first order)
    (hnew : (w.run first).store.committed.order? id = none)
    (horder' : ((w.run first).step i).store.committed.order? id = some order') :
    order.id = id ∧ order = order' := by
  rw [Tables.order?, h.orders, Table.get?_insert] at horder'
  split at horder'
  · next heq => exact ⟨heq.symm, Option.some.inj horder'⟩
  · cases hnew.symm.trans horder'

/-- **Nobody places two orders.** -/
theorem HasPlaced.unique (h : w.HasPlaced schedule i first order)
    (h' : w.HasPlaced schedule i first' order') : order = order' := by
  have hplaced : ((w.run first').step i).store.committed.order? order'.id = some order' := by
    rw [Tables.order?, h'.orders, Table.get?_insert, if_pos rfl]
  by_cases hfirst : first' = first
  · subst hfirst
    exact (h.eq_of_new h'.new hplaced).2
  · obtain ⟨rest', hsplit⟩ := h'.split
    rw [h.elsewhere first' rest' hsplit hfirst] at hplaced
    cases h'.new.symm.trans hplaced

variable {catalogue : Table ProductId Product} {calls : List (ServiceCall × Tape)} {id : OrderId}

/-- **Every order came in at some step**, with the draft that it still has. -/
theorem exists_arrival (hfits : ∀ call ∈ calls, call.1.Fits) (hsteps : schedule.length < 2 ^ 63)
    (horder : ((opening catalogue calls).run schedule).store.committed.order? id = some order) :
    ∃ first i rest placed, schedule = first ++ i :: rest ∧
      ((opening catalogue calls).run first).store.committed.order? id = none ∧
      (((opening catalogue calls).run first).step i).store.committed.order? id = some placed ∧
      order.draft = placed.draft := by
  induction schedule using List.reverseRecOn generalizing order with
  | nil => cases horder
  | append_singleton schedule j ih =>
    rw [List.length_append, List.length_singleton] at hsteps
    rw [run_concat] at horder
    cases hbefore : ((opening catalogue calls).run schedule).store.committed.order? id with
    | none => exact ⟨schedule, j, [], order, rfl, hbefore, horder, rfl⟩
    | some before =>
      have hassured : ((opening catalogue calls).run schedule).Assured _ calls :=
        assured_run catalogue hfits (by omega)
      have hlater : Later (· ∈ calls.map Prod.fst) ((opening catalogue calls).run schedule).store
          (((opening catalogue calls).run schedule).step j).store := by
        rcases hassured.change_step ((counted_opening catalogue calls).run schedule) (by omega) j with
          hsame | ⟨call, tape, -, hA, hchange⟩
        · rw [hsame]
          exact .refl _
        · exact .single hA hchange
      obtain ⟨after, hafter, hprecedes⟩ := (hlater.precedes hassured.reachable).orders _ _ hbefore
      cases horder.symm.trans hafter
      obtain ⟨first, i, rest, placed, rfl, hnew, hplaced, hdraft⟩ := ih (by omega) hbefore
      exact ⟨first, i, rest ++ [j], placed, by simp, hnew, hplaced, hprecedes.draft.trans hdraft⟩

/-- **What takes effect in a call that creates an order** places that order, under a number that the clock of
the call has given it. -/
theorem hasPlaced_of_effect {stock : StockSettings} {settings : OrderSettings}
    {request : OrderService.OrderRequest} {tape : Tape} {x : Exchange}
    (hcall : calls[i]? = some (.create stock settings request, tape))
    (hsaying : ((opening catalogue calls).run first).saying i = [x]) (hx : x.takesEffect)
    (rest : List Nat) :
    ∃ order k, (opening catalogue calls).HasPlaced (first ++ i :: rest) i first order ∧
      order.user = request.user ∧ order.draft.createdAt = tape.clock k ∧
      order.draft.orderNo = orderNumber (tape.clock k) := by
  have hfresh : (opening catalogue calls).callers[i]? = _ := fresh_of_opening hcall
  -- However far the call has come, its conversation can be brought to an end, and ends with an order.
  obtain ⟨left, -, -, hsays, -⟩ := says_talk hfresh (first ++ i :: rest)
  obtain ⟨more, outcome, hends⟩ := hsays.exists_ends
  rw [talk_split, hsaying, List.append_assoc, List.append_assoc, List.singleton_append] at hends
  have hmutation : (ServiceCall.create stock settings request).IsMutation := trivial
  obtain ⟨order, rfl⟩ := (ServiceCall.isEffective hmutation _ _ hends).exists_value (x := x) (by simp) hx
  cases hmerge : OrderLine.merge request.lines with
  | error refusal =>
    obtain ⟨_, -, houtcome⟩ := OrderService.ends_of_merge_error hmerge hends
    cases houtcome
  | ok lines =>
  obtain ⟨before, body, draft, now, bookings, -, hrecords, hfirst, hquiet, hnow, hanswers, horder, -,
    hplaces⟩ := placed_of_ends hmerge hcall hsaying hx hends
  obtain ⟨-, desk, -, -, hfollows⟩ := says_talk hfresh first
  have hread : now ∈ Talk.readings ((opening catalogue calls).talk i first) := by
    rw [hfirst, Talk.readings_append]
    exact List.mem_append_left _ hnow
  obtain ⟨k, rfl⟩ := hfollows.mem_readings hread
  have hdraft : order.draft = draft := congrArg Order.draft horder
  refine ⟨order, k, ⟨⟨rest, rfl⟩, hplaces.new, hplaces.orders, fun first' rest' hsplit =>
    committed_elsewhere hquiet ?_ hsplit⟩, ?_, ?_, ?_⟩
  · exact Talk.quiet_of_records fun y hy => hrecords y (List.mem_append_left _ hy)
  · rw [Order.user, hdraft]
    exact hanswers.user
  · rw [hdraft]
    exact hanswers.createdAt
  · rw [hdraft]
    exact hanswers.orderNo

/-- **Every order has an author**: a call of its user has placed it, under a number that its clock has given
it. -/
theorem exists_author (hfits : ∀ call ∈ calls, call.1.Fits) (hsteps : schedule.length < 2 ^ 63)
    (horder : ((opening catalogue calls).run schedule).store.committed.order? id = some order) :
    ∃ i stock settings request tape k first placed,
      calls[i]? = some (.create stock settings request, tape) ∧
      (opening catalogue calls).HasPlaced schedule i first placed ∧ placed.id = id ∧
      order.user = request.user ∧ order.draft.createdAt = tape.clock k ∧
      order.draft.orderNo = orderNumber (tape.clock k) := by
  obtain ⟨first, i, rest, placed, rfl, hnew, hplaced, hdraft⟩ := exists_arrival hfits hsteps horder
  rw [List.length_append] at hsteps
  have hassured : ((opening catalogue calls).run first).Assured _ calls :=
    assured_run catalogue hfits (by omega)
  have hchanged : (((opening catalogue calls).run first).step i).store.committed ≠
      ((opening catalogue calls).run first).store.committed := fun hsame => by
    rw [hsame, hnew] at hplaced
    cases hplaced
  -- Only a call that creates orders can have added one, and its step has taken effect.
  obtain ⟨call, tape, hcall, -, hchange⟩ := (hassured.change_step
    ((counted_opening catalogue calls).run first) (by omega) i).resolve_left
      fun hsame => hchanged (congrArg Store.committed hsame)
  obtain ⟨stock, settings, request, rfl⟩ := hchange.create_of_new hassured.reachable.wellKept hnew
    (by rw [hplaced]; exact Option.some_ne_none _)
  obtain ⟨_, _, hmidway, -⟩ := says_talk (fresh_of_opening hcall) first
  obtain ⟨x, hsaying, hx, -⟩ := (effect_step hmidway).resolve_right fun h => hchanged h.2
  obtain ⟨created, k, hhas, huser, hcreated, hnumber⟩ := hasPlaced_of_effect hcall hsaying hx rest
  obtain ⟨hid, rfl⟩ := hhas.eq_of_new hnew hplaced
  rw [Order.user, ← hdraft] at huser
  rw [← hdraft] at hcreated hnumber
  exact ⟨i, stock, settings, request, tape, k, first, created, hcall, hhas, hid, huser, hcreated, hnumber⟩

end Crowd

/-! ## Runs -/

/-- Whether a call creates an order. -/
def ServiceCall.IsCreation : ServiceCall → Prop
  | create .. => True
  | _ => False

/-- **How the orders of a store are numbered**, if these calls have led to it. -/
structure Store.OrdersNumbered (calls : List (ServiceCall × Tape)) (s : Store) : Prop where
  /-- The number of an order was given by the clock of a call of its user. -/
  author : ∀ id order, s.committed.order? id = some order → ∃ call ∈ calls, ∃ stock settings request k,
    call.1 = .create stock settings request ∧ order.user = request.user ∧
      order.draft.createdAt = call.2.clock k ∧ order.draft.orderNo = orderNumber (call.2.clock k)
  /-- Orders share a number exactly if the times of their creation do. -/
  shared : ∀ id order id' order', s.committed.order? id = some order →
    s.committed.order? id' = some order' →
      (order.draft.orderNo = order'.draft.orderNo ↔
        order.draft.createdAt.SharesNumber order'.draft.createdAt)
  /-- An order is found by its owner exactly if no older one shares its number. -/
  found : ∀ id order, s.committed.order? id = some order → (s.Finds order ↔
    ∀ id' order', s.committed.order? id' = some order' →
      order'.draft.createdAt.SharesNumber order.draft.createdAt → id.value ≤ id'.value)

namespace Crowd

/-- **Whether the clocks of calls that create orders are apart**: no two of them read times that share a
number. -/
def ClocksApart (calls : List (ServiceCall × Tape)) : Prop :=
  calls.Pairwise fun call call' => call.1.IsCreation → call'.1.IsCreation →
    ∀ k l, ¬(call.2.clock k).SharesNumber (call'.2.clock l)

variable {catalogue : Table ProductId Product} {calls : List (ServiceCall × Tape)} {i j : Nat}
  {schedule : List Nat} {order order' : Order}

/-- Where clocks are apart, only one caller can have read a number. -/
theorem ClocksApart.eq (h : ClocksApart calls) {call call' : ServiceCall × Tape}
    (hi : calls[i]? = some call) (hj : calls[j]? = some call') (hcall : call.1.IsCreation)
    (hcall' : call'.1.IsCreation) {k l : Nat}
    (hshared : (call.2.clock k).SharesNumber (call'.2.clock l)) : i = j := by
  obtain ⟨hilt, rfl⟩ := List.getElem?_eq_some_iff.mp hi
  obtain ⟨hjlt, rfl⟩ := List.getElem?_eq_some_iff.mp hj
  rcases Nat.lt_trichotomy i j with hij | rfl | hji
  · exact absurd hshared (List.pairwise_iff_getElem.mp h i j hilt hjlt hij hcall hcall' k l)
  · rfl
  · exact absurd ⟨hshared.1.symm, hshared.2.symm⟩
      (List.pairwise_iff_getElem.mp h j i hjlt hilt hji hcall' hcall l k)

/-- **The orders of a run are numbered** by the clocks of the calls that have placed them. -/
theorem numbered_of_run (hfits : ∀ call ∈ calls, call.1.Fits) (hsteps : schedule.length < 2 ^ 63) :
    ((opening catalogue calls).run schedule).store.OrdersNumbered calls := by
  have hnumber {id : OrderId} {order : Order}
      (horder : ((opening catalogue calls).run schedule).store.committed.order? id = some order) :
      order.draft.orderNo = orderNumber order.draft.createdAt := by
    obtain ⟨_, _, _, _, _, _, _, _, -, -, -, -, hcreated, hnumber⟩ := exists_author hfits hsteps horder
    rw [hnumber, hcreated]
  have hshared {id id' : OrderId} {order order' : Order}
      (horder : ((opening catalogue calls).run schedule).store.committed.order? id = some order)
      (horder' : ((opening catalogue calls).run schedule).store.committed.order? id' = some order') :
      order.draft.orderNo = order'.draft.orderNo ↔
        order.draft.createdAt.SharesNumber order'.draft.createdAt := by
    rw [hnumber horder, hnumber horder', orderNumber_eq_iff]
  refine ⟨fun id order horder => ?_, fun id order id' order' => hshared, fun id order horder => ?_⟩
  · obtain ⟨i, stock, settings, request, tape, k, -, -, hcall, -, -, huser, hcreated, hnumber⟩ :=
      exists_author hfits hsteps horder
    exact ⟨_, List.mem_of_getElem? hcall, stock, settings, request, k, rfl, huser, hcreated, hnumber⟩
  · have hkept := (assured_run catalogue hfits hsteps).reachable.wellKept
    obtain rfl : order.id = id := hkept.orderKey _ _ horder
    rw [finds_iff hkept horder]
    exact forall_congr' fun id' => forall_congr' fun order' => forall_congr' fun horder' => by
      rw [hshared horder' horder]

/-- **Where the clocks are apart, no two orders share a number**: they would have the same author. -/
theorem eq_of_clocksApart (hapart : ClocksApart calls) (hfits : ∀ call ∈ calls, call.1.Fits)
    (hsteps : schedule.length < 2 ^ 63) {id id' : OrderId}
    (horder : ((opening catalogue calls).run schedule).store.committed.order? id = some order)
    (horder' : ((opening catalogue calls).run schedule).store.committed.order? id' = some order')
    (hsame : order.draft.orderNo = order'.draft.orderNo) : id = id' := by
  obtain ⟨i, _, _, _, tape, k, _, placed, hcall, hplaced, rfl, -, hcreated, -⟩ :=
    exists_author hfits hsteps horder
  obtain ⟨i', _, _, _, tape', k', _, placed', hcall', hplaced', rfl, -, hcreated', -⟩ :=
    exists_author hfits hsteps horder'
  rw [(numbered_of_run hfits hsteps).shared _ _ _ _ horder horder', hcreated, hcreated'] at hsame
  obtain rfl : i = i' := hapart.eq hcall hcall' trivial trivial hsame
  rw [hplaced.unique hplaced']

/-- **In every run the number of an order comes from the clock of its author alone.**  Orders share a number
exactly if they were created at times that share it, and of those only the oldest is found.  Where the
clocks of the calls are apart, all numbers are different and every order is found by its owner. -/
theorem numbers_run (catalogue : Table ProductId Product) (hfits : ∀ call ∈ calls, call.1.Fits)
    (hsteps : schedule.length < 2 ^ 63) :
    ((opening catalogue calls).run schedule).store.OrdersNumbered calls ∧
      (ClocksApart calls →
        (∀ id order id' order',
          ((opening catalogue calls).run schedule).store.committed.order? id = some order →
          ((opening catalogue calls).run schedule).store.committed.order? id' = some order' →
          order.draft.orderNo = order'.draft.orderNo → id = id') ∧
        ∀ id order, ((opening catalogue calls).run schedule).store.committed.order? id = some order →
          ((opening catalogue calls).run schedule).store.Finds order) := by
  have hnumbered : ((opening catalogue calls).run schedule).store.OrdersNumbered calls :=
    numbered_of_run hfits hsteps
  refine ⟨hnumbered, fun hapart => ⟨fun id order id' order' =>
    eq_of_clocksApart hapart hfits hsteps, fun id order horder => ?_⟩⟩
  refine (hnumbered.found id order horder).mpr fun id' order' horder' hshares => ?_
  have hsame := (hnumbered.shared id' order' id order horder' horder).mpr hshares
  exact Int.le_of_eq (congrArg Id.value (eq_of_clocksApart hapart hfits hsteps horder horder' hsame.symm))

/-- Tea is ordered by two users, by the second one at this time. -/
def numberedCalls (time : Instant) : List (ServiceCall × Tape) :=
  [ (.register ⟨1⟩ 5 1, .unused (fun _ => ⟨0⟩) fun _ => ⟨0⟩),
    (.create .standard .standard (teaFor ⟨8⟩), .unused (fun _ => ⟨0⟩) fun _ => ⟨0⟩),
    (.create .standard .standard (teaFor ⟨9⟩), .unused (fun _ => time) fun _ => ⟨0⟩) ]

theorem numberedCalls_fit (time : Instant) : ∀ call ∈ numberedCalls time, call.1.Fits := by
  have hstock : Width.int32.Fits 5 ∧ Width.int32.Fits 1 := by decide
  have hquantity : Width.int32.Fits 2 := by decide
  simp [numberedCalls, teaFor, ServiceCall.Fits, hstock, hquantity]

/-- The tea is ordered by one user after the other. -/
def numberedSchedule : List Nat := List.replicate 4 0 ++ List.replicate 14 1 ++ List.replicate 14 2

/-- The crowd after both have ordered. -/
def numberedRun (time : Instant) : Crowd :=
  (opening (Table.empty.insert ⟨1⟩ tea) (numberedCalls time)).run numberedSchedule

/-- Two orders that were created one second apart are both found. -/
theorem numbers_run_apart : ∃ order order',
    (numberedRun ⟨1000000000⟩).store.committed.order? ⟨1⟩ = some order ∧
      (numberedRun ⟨1000000000⟩).store.committed.order? ⟨2⟩ = some order' ∧
      order.draft.orderNo ≠ order'.draft.orderNo ∧
      (numberedRun ⟨1000000000⟩).store.Finds order ∧
      (numberedRun ⟨1000000000⟩).store.Finds order' := by
  have hrun := @numbers_run (numberedCalls ⟨1000000000⟩) numberedSchedule (Table.empty.insert ⟨1⟩ tea)
    (numberedCalls_fit _) (by decide)
  have hsecond : ¬(⟨0⟩ : Instant).SharesNumber ⟨1000000000⟩ := by decide
  have hapart : ClocksApart (numberedCalls ⟨1000000000⟩) := by
    simp [ClocksApart, numberedCalls, ServiceCall.IsCreation, Tape.unused, hsecond]
  obtain ⟨hdistinct, hfinds⟩ := hrun.2 hapart
  exact ⟨_, _, rfl, rfl, fun hsame => absurd (hdistinct ⟨1⟩ _ ⟨2⟩ _ rfl rfl hsame) (by decide),
    hfinds ⟨1⟩ _ rfl, hfinds ⟨2⟩ _ rfl⟩

/-- **Two users who order at one reading of the clock share a number**, and the second one does not find
the order. -/
theorem shared_number : ∃ order order',
    (numberedRun ⟨0⟩).store.committed.order? ⟨1⟩ = some order ∧
      (numberedRun ⟨0⟩).store.committed.order? ⟨2⟩ = some order' ∧
      order.user = ⟨8⟩ ∧ order'.user = ⟨9⟩ ∧ order.draft.orderNo = order'.draft.orderNo ∧
      ¬(numberedRun ⟨0⟩).store.Finds order' := by
  refine ⟨_, _, rfl, rfl, rfl, rfl, rfl, fun hfinds => ?_⟩
  have hkept : (numberedRun ⟨0⟩).store.committed.WellKept :=
    (assured_run _ (numberedCalls_fit _) (by decide)).reachable.wellKept
  exact absurd ((finds_iff hkept rfl).mp hfinds ⟨1⟩ _ rfl rfl) (by decide)

end Crowd

end Stockroom
