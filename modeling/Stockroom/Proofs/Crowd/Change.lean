import Mathlib.Logic.Relation
import Stockroom.Proofs.Crowd.Machine
import Stockroom.Proofs.Ledger.Held
import Stockroom.Proofs.Order.Merging

/-!
# Proofs/Crowd/Change — what a call can do to the store in one step

**`Change call` lists every way in which a step of a call changes the store**, whatever the others do
in the meantime: a movement of stock, a new record, an order with all its reservations, and so on.
That the programs of the calls do nothing else is proved later; here the list is taken for granted,
and `Later` is any number of changes by the calls that may be around (`A`).

Every change is a sequence of edits (`Change.edits`), so later stores have later tables
(`Later.precedes`), and reachable ones are well kept and sound (`Reachable.wellKept`, `Reachable.sound`).
-/

namespace Stockroom

open Store Relation

/-! ## Items -/

/-- What an item asks for. -/
def OrderItem.line (item : OrderItem) : OrderLine := ⟨item.product, item.quantity⟩

/-! ## One after the other -/

/-- A relation between tables for each of several things, one after the other. -/
inductive Each {α : Type} (R : α → Tables → Tables → Prop) : List α → Tables → Tables → Prop
  | nil {t : Tables} : Each R [] t t
  | cons {a : α} {rest : List α} {t t' t'' : Tables} (h : R a t t') (hrest : Each R rest t' t'') :
      Each R (a :: rest) t t''

/-- What one of them keeps, all of them keep. -/
theorem Each.keeps {α : Type} {R : α → Tables → Tables → Prop} {P : Tables → Prop}
    (hR : ∀ a t t', R a t t' → P t → P t') {as : List α} {t t' : Tables} (h : Each R as t t')
    (ht : P t) : P t' := by
  induction h with
  | nil => exact ht
  | cons h _ ih => exact ih (hR _ _ _ h ht)

/-! ## Changes -/

/-- **The movements of a call** that moves stock without an order. -/
inductive ServiceCall.MayPost : ServiceCall → Movement → Prop
  | reserve {settings : StockSettings} {product : ProductId} {quantity : Int} {order : OrderId}
      {ttl : Option Span} {expiresAt now : Instant}
      (h : now.after? (ttl.getD settings.reservationTtl) = some expiresAt) :
      MayPost (.reserve settings product quantity order ttl)
        (.reserve product quantity order expiresAt now)
  | release {product : ProductId} {quantity : Int} {order : OrderId} {target : ReleaseTarget}
      {now : Instant} :
      MayPost (.release product quantity order target) (.release product quantity order target now)
  | deduct {product : ProductId} {quantity : Int} {order : OrderId} {now : Instant} :
      MayPost (.deduct product quantity order) (.deduct product quantity order now)
  | restock {product : ProductId} {quantity : Int} {reason : Option String}
      {operator : Option OperatorId} {now : Instant} :
      MayPost (.restock product quantity reason operator)
        (.restock product quantity reason operator now)
  | adjust {product : ProductId} {delta : Int} {reason : Option String}
      {operator : Option OperatorId} {now : Instant} :
      MayPost (.adjust product delta reason operator) (.adjust product delta reason operator now)
  | expire {settings : StockSettings} {product : ProductId} {quantity : Int} {order : OrderId}
      {now : Instant} :
      MayPost (.cleanup settings) (.release product quantity order .expired now)

/-- The item of a new order is reserved. -/
def Reserves (ttl : Span) (order : OrderId) (item : OrderItem) (t t' : Tables) : Prop :=
  ∃ expiresAt now, now.after? ttl = some expiresAt ∧
    (Movement.reserve item.product item.quantity order expiresAt now).Posts t t'

/-- The item of a paid order leaves the stockroom. -/
def Deducts (order : OrderId) (item : OrderItem) (t t' : Tables) : Prop :=
  ∃ now, (Movement.deduct item.product item.quantity order now).Posts t t'

/-- The item of a cancelled order becomes free, unless its reservation has expired. -/
def Releases (order : OrderId) (item : OrderItem) (t t' : Tables) : Prop :=
  (∃ r, t.reservation? item.product order = some r ∧ r.status = .expired ∧ t' = t) ∨
    ∃ now, (Movement.release item.product item.quantity order .cancelled now).Posts t t'

/-- **What a step of a call can do to the store.** -/
inductive Change : ServiceCall → Store → Store → Prop
  | post {call : ServiceCall} {m : Movement} {t t' : Tables} {n : Int} (h : call.MayPost m)
      (hm : m.Posts t t') : Change call ⟨t, n⟩ ⟨t', n⟩
  | register {record : StockRecord} {stock threshold : Int} {now : Instant} {t : Tables} {n : Int}
      (hfresh : t.stock.get? record.product = none)
      (hrecord : StockRecord.register record.product stock threshold now = .ok record)
      (hfits : Width.int32.Fits stock) :
      Change (.register record.product stock threshold) ⟨t, n⟩ ⟨t.putLive record.product record, n⟩
  | tune {product : ProductId} {record tuned : StockRecord} {threshold : Int} {now : Instant}
      {t : Tables} {n : Int} (hlive : t.liveStock? product = some record)
      (htuned : record.withThreshold threshold now = .ok tuned) :
      Change (.setThreshold product threshold) ⟨t, n⟩ ⟨t.putLive product tuned, n⟩
  | remove {product : ProductId} {record : StockRecord} {now : Instant} {t : Tables} {n : Int}
      (hlive : t.liveStock? product = some record) :
      Change (.remove product) ⟨t, n⟩
        ⟨{ t with stock := t.stock.insert product ⟨record, some now⟩ }, n⟩
  | draw {stock : StockSettings} {settings : OrderSettings} {request : OrderService.OrderRequest}
      {t : Tables} {n : Int} : Change (.create stock settings request) ⟨t, n⟩ ⟨t, n + 1⟩
  | place {stock : StockSettings} {settings : OrderSettings} {request : OrderService.OrderRequest}
      {draft : Draft} {id : OrderId} {t t' : Tables} {n : Int}
      (hlines : OrderLine.merge request.lines = .ok (draft.items.map OrderItem.line))
      (huser : draft.user = request.user) (hid : id.value < n) (hfresh : t.order? id = none)
      (hitems : Each (Reserves stock.reservationTtl id) draft.items
        (t.putOrder (draft.toOrder id)) t') :
      Change (.create stock settings request) ⟨t, n⟩ ⟨t', n⟩
  | pay {user : UserId} {id : OrderId} {order paid : Order} {now : Instant} {t t' : Tables}
      {n : Int} (horder : t.order? id = some order) (huser : order.user = user)
      (hpaid : order.pay now = .ok paid) (hitems : Each (Deducts id) order.items t t') :
      Change (.pay user id) ⟨t, n⟩ ⟨t'.putOrder paid, n⟩
  | ship {id : OrderId} {order shipped : Order} {now : Instant} {t : Tables} {n : Int}
      (horder : t.order? id = some order) (hshipped : order.ship now = .ok shipped) :
      Change (.ship id) ⟨t, n⟩ ⟨t.putOrder shipped, n⟩
  | complete {id : OrderId} {order completed : Order} {now : Instant} {t : Tables} {n : Int}
      (horder : t.order? id = some order) (hcompleted : order.complete now = .ok completed) :
      Change (.complete id) ⟨t, n⟩ ⟨t.putOrder completed, n⟩
  | cancel {user : UserId} {id : OrderId} {order cancelled : Order} {now : Instant}
      {t t' : Tables} {n : Int} (horder : t.order? id = some order) (huser : order.user = user)
      (hcancelled : order.cancel now = .ok cancelled)
      (hitems : Each (Releases id) order.items t t') :
      Change (.cancel user id) ⟨t, n⟩ ⟨t'.putOrder cancelled, n⟩

/-! ## Changes as edits -/

/-- Any number of edits. -/
abbrev Edits (tunable : Prop) : Tables → Tables → Prop := ReflTransGen (Edit tunable)

theorem Movement.Posts.orders {m : Movement} {t t' : Tables} (h : m.Posts t t') :
    t'.orders = t.orders := by
  cases h
  rfl

variable {tunable : Prop} {ttl : Span} {id : OrderId} {items : List OrderItem} {t t' : Tables}

/-- Movements one after the other are edits, and no order changes. -/
theorem Each.edits {R : OrderItem → Tables → Tables → Prop}
    (hR : ∀ item t t', R item t t' → t' = t ∨ ∃ m : Movement, m.Posts t t')
    (h : Each R items t t') : Edits tunable t t' ∧ t'.orders = t.orders := by
  induction h with
  | nil => exact ⟨.refl, rfl⟩
  | cons h _ ih =>
    rcases hR _ _ _ h with rfl | ⟨m, hm⟩
    · exact ih
    · exact ⟨.head (.movement hm) ih.1, ih.2.trans hm.orders⟩

theorem Each.edits_reserves (h : Each (Reserves ttl id) items t t') :
    Edits tunable t t' ∧ t'.orders = t.orders :=
  h.edits fun _ _ _ ⟨_, _, _, hm⟩ => .inr ⟨_, hm⟩

theorem Each.edits_deducts (h : Each (Deducts id) items t t') :
    Edits tunable t t' ∧ t'.orders = t.orders :=
  h.edits fun _ _ _ ⟨_, hm⟩ => .inr ⟨_, hm⟩

theorem Each.edits_releases (h : Each (Releases id) items t t') :
    Edits tunable t t' ∧ t'.orders = t.orders :=
  h.edits fun _ _ _ h => h.imp (fun ⟨_, _, _, heq⟩ => heq) fun ⟨_, hm⟩ => ⟨_, hm⟩

/-- Whether one of the calls sets thresholds. -/
def Tunable (A : ServiceCall → Prop) : Prop := ∃ product threshold, A (.setThreshold product threshold)

variable {A : ServiceCall → Prop} {call : ServiceCall} {s s' s'' : Store}

/-- An order that moves after its items have moved. -/
theorem edits_advance (move : OrderMove) {order moved : Order} {now : Instant}
    (hk : t.WellKept) (horder : t.order? id = some order) (hmoved : move.apply order now = .ok moved)
    (h : Edits tunable t t' ∧ t'.orders = t.orders) : Edits tunable t (t'.putOrder moved) := by
  refine h.1.tail (.advance ?_ hmoved)
  rw [Tables.order?, h.2, hk.orderKey _ _ horder]
  exact horder

/-- **Every change is a sequence of edits.** -/
theorem Change.edits (hk : s.committed.WellKept) (hA : A call) (h : Change call s s') :
    Edits (Tunable A) s.committed s'.committed := by
  cases h with
  | post h hm => exact .single (.movement hm)
  | register hfresh hrecord hfits => exact .single (.register hfresh hrecord hfits)
  | tune hlive htuned => exact .single (.tune ⟨_, _, hA⟩ hlive htuned)
  | remove hlive => exact .single (.remove hlive)
  | draw => exact .refl
  | @place _ _ _ draft _ _ _ _ hlines huser hid hfresh hitems =>
    refine .head (.place hfresh ?_) hitems.edits_reserves.1
    have := OrderLine.nodup_merge hlines
    rwa [List.map_map] at this
  | pay horder huser hpaid hitems =>
    exact edits_advance .pay hk horder hpaid hitems.edits_deducts
  | ship horder hshipped => exact edits_advance .ship hk horder hshipped ⟨.refl, rfl⟩
  | complete horder hcompleted =>
    exact edits_advance .complete hk horder hcompleted ⟨.refl, rfl⟩
  | cancel horder huser hcancelled hitems =>
    exact edits_advance .cancel hk horder hcancelled hitems.edits_releases

/-! ## Later stores -/

/-- **Stores after any number of changes** by calls that may be around. -/
def Later (A : ServiceCall → Prop) : Store → Store → Prop :=
  ReflTransGen fun s s' => ∃ call, A call ∧ Change call s s'

/-- Stores that the calls can lead to from an empty one. -/
def Reachable (A : ServiceCall → Prop) (s : Store) : Prop :=
  ∃ catalogue, Later A (Crowd.emptyStore catalogue) s

theorem Later.refl (s : Store) : Later A s s := ReflTransGen.refl

theorem Later.trans (h : Later A s s') (h' : Later A s' s'') : Later A s s'' :=
  ReflTransGen.trans h h'

theorem Later.single (hA : A call) (h : Change call s s') : Later A s s' :=
  ReflTransGen.single ⟨call, hA, h⟩

theorem Reachable.later (h : Reachable A s) (h' : Later A s s') : Reachable A s' :=
  h.imp fun _ hc => hc.trans h'

theorem Store.Tables.WellKept.edits (hk : t.WellKept) (h : Edits tunable t t') : t'.WellKept := by
  induction h with
  | refl => exact hk
  | tail _ h ih => exact ih.edit h

/-- **What every edit keeps**, any number of edits keep. -/
theorem Edits.keeps {P : Tables → Prop}
    (hP : ∀ {t t' : Tables}, t.WellKept → P t → Edit tunable t t' → P t') (hk : t.WellKept)
    (ht : P t) (h : Edits tunable t t') : P t' := by
  induction h with
  | refl => exact ht
  | tail h he ih => exact hP (hk.edits h) ih he

theorem wellKept_emptyStore (catalogue : Table ProductId Product) :
    (Crowd.emptyStore catalogue).committed.WellKept where
  stockKey _ _ h := nomatch h
  reservationKey _ _ h := nomatch h
  orderKey _ _ h := nomatch h
  version _ _ h := nomatch h
  items _ _ h := nomatch h

/-- **Later stores are reached by edits**, and stay well kept. -/
theorem Later.edits (hk : s.committed.WellKept) (h : Later A s s') :
    Edits (Tunable A) s.committed s'.committed := by
  induction h with
  | refl => exact .refl
  | tail _ h ih =>
    obtain ⟨call, hA, h⟩ := h
    exact ih.trans (h.edits (hk.edits ih) hA)

/-- **Reachable stores are reached by edits** of tables that hold nothing but a catalogue. -/
theorem Reachable.edits (h : Reachable A s) :
    ∃ catalogue, Edits (Tunable A) (Crowd.emptyStore catalogue).committed s.committed :=
  h.imp fun catalogue hc => hc.edits (wellKept_emptyStore catalogue)

theorem Reachable.wellKept (h : Reachable A s) : s.committed.WellKept := by
  obtain ⟨catalogue, he⟩ := h.edits
  exact (wellKept_emptyStore catalogue).edits he

/-- **What holds of a catalogue alone** and every edit keeps, holds of every reachable store. -/
theorem Reachable.keeps {P : Tables → Prop}
    (hempty : ∀ catalogue, P (Crowd.emptyStore catalogue).committed)
    (hP : ∀ {t t' : Tables}, t.WellKept → P t → Edit (Tunable A) t t' → P t')
    (h : Reachable A s) : P s.committed := by
  obtain ⟨catalogue, he⟩ := h.edits
  exact Edits.keeps hP (wellKept_emptyStore catalogue) (hempty catalogue) he

/-- **Records and reservations of reachable stores agree.** -/
theorem Reachable.sound (h : Reachable A s) : s.committed.Sound :=
  h.keeps (fun _ => ⟨fun _ _ h => (nomatch h), fun _ _ h => (nomatch h), fun _ _ h => (nomatch h),
    fun _ _ h => (nomatch h)⟩) fun hk ht he => ht.edit hk he

theorem Store.Tables.Precedes.ofEdits (h : Edits tunable t t') : t.Precedes tunable t' := by
  induction h with
  | refl => exact .refl _
  | tail _ h ih => exact ih.trans (.ofEdit h)

/-- **Later stores have later tables.** -/
theorem Later.precedes (hs : Reachable A s) (h : Later A s s') :
    s.committed.Precedes (Tunable A) s'.committed := .ofEdits (h.edits hs.wellKept)

/-! ## The past -/

/-- Whether something held of the tables at some time up to now. -/
def Was (A : ServiceCall → Prop) (s : Store) (P : Tables → Prop) : Prop :=
  ∃ s₀, Reachable A s₀ ∧ Later A s₀ s ∧ P s₀.committed

theorem Was.now {P : Tables → Prop} (hs : Reachable A s) (h : P s.committed) : Was A s P :=
  ⟨s, hs, .refl s, h⟩

theorem Was.later {P : Tables → Prop} (h : Was A s P) (h' : Later A s s') : Was A s' P := by
  obtain ⟨s₀, hs₀, hl, hP⟩ := h
  exact ⟨s₀, hs₀, hl.trans h', hP⟩

theorem Was.imp {P Q : Tables → Prop} (h : Was A s P) (hPQ : ∀ t, t.WellKept → P t → Q t) :
    Was A s Q := by
  obtain ⟨s₀, hs₀, hl, hP⟩ := h
  exact ⟨s₀, hs₀, hl, hPQ _ hs₀.wellKept hP⟩

end Stockroom
