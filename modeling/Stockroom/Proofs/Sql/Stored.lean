import Stockroom.Proofs.Data.List
import Stockroom.Proofs.Ledger.Movement
import Stockroom.Proofs.Sql.Cells
import Stockroom.Proofs.Sql.Perform

/-!
# Proofs/Sql/Stored — the rows of stock, of reservations and of the ledger

`Statement.Leaves` is what is expected of a database and its client: **the row that a statement leaves behind
holds what was bound, under the columns that the statement names**, and is otherwise as it was.  A row that is
inserted is otherwise what the table gives it by itself.  Whoever looks at the row later reads its times in the
format of the client.

`Access.Stores` is a program that writes one such row.  **What was written is read back**, as long as the format
returns the times that were bound.
-/

namespace Stockroom

open Rehearsal Sql

variable {α β κ : Type} {format : TimeFormat κ} {operation : String} {st : Statement}
  {before after bound : Row}

namespace Sql

/-! ## Values that are bound -/

/-- The time that a value is. -/
def Value.time? : Value → Option Instant
  | time t => some t
  | null | int _ | text _ => none

/-- The times that are bound to a statement. -/
def Statement.times (st : Statement) : List Instant := st.arguments.filterMap Value.time?

theorem TimeFormat.admits_iff {value : Value} :
    format.admits value = true ↔ ∀ t ∈ value.time?, format.accepts t = true := by
  cases value <;> simp [admits, Value.time?]

theorem TimeFormat.returned_eq_self {value : Value} (h : ∀ t ∈ value.time?, format.Returns t) :
    format.returned value = value := by
  cases value with
  | time t => exact congrArg Value.time (h t rfl)
  | _ => rfl

theorem Statement.isAdmitted_iff :
    st.isAdmitted format = true ↔ ∀ t ∈ st.times, format.accepts t = true := by
  simp only [isAdmitted, List.all_eq_true, TimeFormat.admits_iff, times, List.mem_filterMap]
  exact ⟨fun h t ⟨value, hvalue, ht⟩ => h value hvalue t ht, fun h value hvalue t ht => h t ⟨value, hvalue, ht⟩⟩

theorem Statement.isAdmitted_eq_false (h : ∃ t ∈ st.times, format.accepts t = false) :
    st.isAdmitted format = false := by
  obtain ⟨t, ht, hrefused⟩ := h
  refine Bool.eq_false_iff.mpr fun hst => ?_
  exact Bool.false_ne_true (hrefused.symm.trans (Statement.isAdmitted_iff.mp hst t ht))

/-- The cell that an assignment fills with a value that is bound. -/
def Assignment.bound? : Assignment → Option (String × Value)
  | replace column value => some (column, value)
  | increase .. | succeed _ => none

/-- The cells that a statement names with the values that are bound for them; none if the database has to
work some of them out. -/
def Statement.bound? : Statement → Option Row
  | insert _ row => some row
  | update _ assignments _ => assignments.mapM Assignment.bound?
  | select .. | count .. | define _ => none

theorem Statement.mem_arguments (hbound : st.bound? = some bound) {cell : String × Value}
    (hcell : cell ∈ bound) : cell.2 ∈ st.arguments := by
  cases st with
  | insert table row =>
    cases hbound
    exact List.mem_map_of_mem hcell
  | update table assignments conditions =>
    obtain ⟨assignment, hmem, hassignment⟩ := exists_of_mem_of_mapM_eq_some hbound hcell
    refine List.mem_append_left _ (List.mem_flatMap.mpr ⟨assignment, hmem, ?_⟩)
    cases assignment with
    | replace column value =>
      cases hassignment
      exact List.mem_singleton_self _
    | _ => cases hassignment
  | _ => cases hbound

/-! ## Rows that statements leave behind -/

/-- The cells of a row as they are read once they were written. -/
def Row.returned (row : Row) (format : TimeFormat κ) : Row :=
  row.map fun cell => (cell.1, format.returned cell.2)

/-- **The row that a statement leaves behind**, as it is read later. -/
def Statement.Leaves (st : Statement) (format : TimeFormat κ) (before after : Row) : Prop :=
  ∃ bound, st.bound? = some bound ∧
    ∀ column, after.lookup column = ((bound.returned format).lookup column).or (before.lookup column)

/-- The row that a statement leaves behind where every value is read as it was bound. -/
def Statement.Fills (st : Statement) (before after : Row) : Prop :=
  ∃ bound, st.bound? = some bound ∧
    ∀ column, after.lookup column = (bound.lookup column).or (before.lookup column)

/-- **A format that returns the times returns the row.** -/
theorem Statement.Leaves.fills (h : st.Leaves format before after) (hreturns : ∀ t ∈ st.times, format.Returns t) :
    st.Fills before after := by
  obtain ⟨bound, hbound, hafter⟩ := h
  have hreturned : bound.returned format = bound := by
    refine (List.map_congr_left fun cell hcell => ?_).trans (List.map_id bound)
    refine Prod.ext rfl (TimeFormat.returned_eq_self fun t ht => hreturns t ?_)
    exact List.mem_filterMap.mpr ⟨cell.2, Statement.mem_arguments hbound hcell, ht⟩
  exact ⟨bound, hbound, fun column => by rw [hafter, hreturned]⟩

/-- A statement whose values are all bound leaves some row. -/
theorem Statement.exists_leaves (format : TimeFormat κ) (h : st.bound?.isSome) (before : Row) :
    ∃ after, st.Leaves format before after := by
  obtain ⟨bound, hbound⟩ := Option.isSome_iff_exists.mp h
  exact ⟨bound.returned format ++ before, bound, hbound, fun _ => List.lookup_append⟩

/-- A cell that a statement names. -/
theorem Statement.Fills.mem_columns {column : String} (h : st.Fills before after)
    (hbound : st.bound? = some bound) (hcolumn : column ∈ bound.map Prod.fst) :
    column ∈ after.map Prod.fst := by
  obtain ⟨_, hbound', hafter⟩ := h
  obtain rfl := Option.some.inj (hbound.symm.trans hbound')
  rw [Row.mem_columns_iff] at hcolumn ⊢
  rw [hafter, Option.isSome_or, hcolumn, Bool.true_or]

/-- A cell that a statement does not name. -/
theorem Statement.Fills.lookup_of_notMem {column : String} (h : st.Fills before after)
    (hbound : st.bound? = some bound) (hcolumn : column ∉ bound.map Prod.fst) :
    after.lookup column = before.lookup column := by
  obtain ⟨_, hbound', hafter⟩ := h
  obtain rfl := Option.some.inj (hbound.symm.trans hbound')
  have hnone : bound.lookup column = none := List.lookup_eq_none_iff.mpr fun cell hcell =>
    bne_iff_ne.mpr fun heq => hcolumn (heq ▸ List.mem_map_of_mem hcell)
  rw [hafter, hnone, Option.none_or]

/-- **A program that writes one row**, where `R` tells what can be read from the row before and after.  It
executes a statement if all its times can be bound; otherwise it is aborted before anything is sent. -/
structure Access.Stores (p : Access α) (format : TimeFormat κ) (st : Statement) (result : Sql.Change → α)
    (times : List Instant) (R : Row → Row → Prop) : Prop where
  performs : (∀ t ∈ times, format.accepts t = true) → ∀ (s : Server) change rest, s.isClosed = false →
    s.replies = .change change :: rest →
      p.Performs format s (result change) (s.sent (.statement st) rest)
  aborts : (∃ t ∈ times, format.accepts t = false) → ∀ s : Server, p.Aborts format s s
  /-- No cell is left for the database to work out. -/
  isBound : st.bound?.isSome
  reads : (∀ t ∈ times, format.Returns t) → ∀ before after, st.Leaves format before after → R before after

variable {times : List Instant}

namespace Access.Stores

variable {R : Row → Row → Prop} {p : Access α} {result : Sql.Change → α}

/-- A statement in a transaction. -/
theorem execute (hbound : st.bound?.isSome) (htimes : st.times = times)
    (hR : ∀ before after, st.Fills before after → R before after) :
    (Access.execute operation st).Stores format st (fun change => change) times R := by
  subst htimes
  refine ⟨fun haccepts _ _ _ _ hreplies => .execute (Statement.isAdmitted_iff.mpr haccepts) hreplies,
    fun hrefused _ => .execute (Statement.isAdmitted_eq_false hrefused), hbound, fun hreturns before after h =>
    hR before after (h.fills hreturns)⟩

/-- A statement with a connection of its own. -/
theorem alone (hbound : st.bound?.isSome) (htimes : st.times = times)
    (hR : ∀ before after, st.Fills before after → R before after) :
    (Access.alone Access.execute operation st).Stores format st (fun change => change) times R := by
  subst htimes
  refine ⟨fun haccepts s change rest hopen hreplies => ?_,
    fun hrefused _ => (Aborts.prepare (Statement.isAdmitted_eq_false hrefused)).bind, hbound,
    fun hreturns before after h => hR before after (h.fills hreturns)⟩
  have hst := Statement.isAdmitted_iff.mpr haccepts
  exact .bind (.prepare hst) (.bind (.connect hopen) (.execute hst hreplies))

theorem map (h : p.Stores format st result times R) (f : α → β) :
    (do return f (← p) : Access β).Stores format st (fun change => f (result change)) times R where
  performs htimes s change rest hopen hreplies := (h.performs htimes s change rest hopen hreplies).bind .pure
  aborts hbad s := (h.aborts hbad s).bind
  isBound := h.isBound
  reads := h.reads

end Access.Stores

/-- **A program that executes one statement**, as long as the database carries it out. -/
def Access.Executes (p : Access α) (format : TimeFormat κ) (st : Statement) : Prop :=
  ∀ (s : Server) change rest, s.isClosed = false → s.replies = .change change :: rest →
    ∃ a, p.Performs format s a (s.sent (.statement st) rest)

theorem Access.Stores.executes {R : Row → Row → Prop} {p : Access α} {result : Sql.Change → α}
    (h : p.Stores format st result times R) (htimes : ∀ t ∈ times, format.accepts t = true) :
    p.Executes format st :=
  fun s change rest hopen hreplies => ⟨_, h.performs htimes s change rest hopen hreplies⟩

/-- Whatever the row was before, there is one that the statement leaves, and it is read back. -/
theorem Access.Stores.exists_after {R : Row → Row → Prop} {p : Access α} {result : Sql.Change → α}
    (h : p.Stores format st result times R) (hreturns : ∀ t ∈ times, format.Returns t) (before : Row) :
    ∃ after, st.Leaves format before after ∧ R before after := by
  obtain ⟨after, hafter⟩ := Statement.exists_leaves format h.isBound before
  exact ⟨after, hafter, h.reads hreturns before after hafter⟩

/-- There is only one statement that a program executes. -/
theorem Access.Stores.eq_of_executes {R : Row → Row → Prop} {p : Access α} {result : Sql.Change → α}
    {st' : Statement} (h : p.Stores format st result times R) (h' : p.Executes format st') : st' = st := by
  obtain ⟨a, hperforms⟩ := h' ⟨[.change ⟨0, 0⟩], [], false, ⟨0⟩, 0⟩ ⟨0, 0⟩ [] rfl rfl
  by_cases htimes : ∀ t ∈ times, format.accepts t = true
  · have hsent := hperforms.symm.trans (h.performs htimes _ _ _ rfl rfl)
    have hexecuted := congrArg (fun result => result.2.executed) hsent
    simpa [Server.sent] using hexecuted
  · have hsent := hperforms.symm.trans (h.aborts (by simpa using htimes) _)
    cases congrArg Prod.fst hsent

end Sql

/-! ## Stock -/

namespace Sql

open Gateway Access

/-- **A record that is created is read back.** -/
theorem createStock_stores {record : StockRecord} (h : record.Fits) :
    ∃ st, (createStock record).Stores format st (fun _ => ()) [record.createdAt, record.updatedAt]
      fun _ after => Reading.stock after = .ok record := by
  refine ⟨_, (Stores.alone rfl rfl ?_).map fun _ => ()⟩
  rintro _ after ⟨_, ⟨⟩, hafter⟩
  exact Reading.stock_eq_ok_iff.mpr
    ⟨Reading.id_of_lookup (hafter "product_id") h.product,
      Reading.int_of_lookup (hafter "available_stock") h.available,
      Reading.int_of_lookup (hafter "reserved_stock") h.reserved,
      Reading.int_of_lookup (hafter "low_stock_threshold") h.threshold,
      Reading.int_of_lookup (hafter "version") h.version,
      Reading.time_of_lookup (hafter "created_at"), Reading.time_of_lookup (hafter "updated_at")⟩

/-- **A record that has moved is read back.**  The update names what a movement changes; what it does not name
is still in the row. -/
theorem replaceStock_stores {m : Movement} {record next : StockRecord} {expectedVersion : Int}
    (h : record.Fits) (hm : m.next record = .ok next) :
    ∃ st, (replaceStock next expectedVersion).Stores format st (fun change => decide (change.affected = 1))
      [next.updatedAt] fun before after =>
        Reading.stock before = .ok record → Reading.stock after = .ok next := by
  refine ⟨_, (Stores.execute rfl rfl ?_).map fun change => decide (change.affected = 1)⟩
  rintro before after ⟨_, ⟨⟩, hafter⟩ hbefore
  have hnext := h.moved hm
  obtain ⟨hproduct, -, -, hthreshold, -, hcreated, -⟩ := Reading.stock_eq_ok_iff.mp hbefore
  refine Reading.stock_eq_ok_iff.mpr ⟨?_, Reading.int_of_lookup (hafter "available_stock") hnext.available,
    Reading.int_of_lookup (hafter "reserved_stock") hnext.reserved, ?_,
    Reading.int_of_lookup (hafter "version") hnext.version, ?_, Reading.time_of_lookup (hafter "updated_at")⟩
  all_goals obtain rfl := Movement.next_eq hm
  · exact (Reading.local_id (hafter "product_id")).trans hproduct
  · exact (Reading.local_int .int32 (hafter "low_stock_threshold")).trans hthreshold
  · exact (Reading.local_time (hafter "created_at")).trans hcreated

end Sql

/-! ## Reservations -/

namespace Reservation

/-- The numbers of a reservation have their widths. -/
structure Fits (r : Reservation) : Prop where
  product : Width.int64.Fits r.product.value
  order : Width.int64.Fits r.order.value
  quantity : Width.int32.Fits r.quantity

end Reservation

/-- **A reservation that is inserted is read back.** -/
theorem Sql.insertReservation_stores {reservation : Reservation} (h : reservation.Fits) :
    ∃ st, (Gateway.insertReservation reservation).Stores format st (fun _ => ())
      [reservation.expiresAt, reservation.createdAt, reservation.updatedAt]
      fun _ after => Reading.reservation after = .ok reservation := by
  refine ⟨_, (Access.Stores.execute rfl rfl ?_).map fun _ => ()⟩
  rintro _ after ⟨_, ⟨⟩, hafter⟩
  exact Reading.reservation_eq_ok_iff.mpr
    ⟨⟨_, Reading.text_of_lookup (hafter "status"), reservation.status.ofText_text⟩,
      Reading.id_of_lookup (hafter "product_id") h.product,
      Reading.id_of_lookup (hafter "order_id") h.order,
      Reading.int_of_lookup (hafter "quantity") h.quantity, Reading.time_of_lookup (hafter "expires_at"),
      Reading.time_of_lookup (hafter "created_at"), Reading.time_of_lookup (hafter "updated_at")⟩

/-! ## The ledger -/

namespace Entry

/-- The numbers of an entry have their widths. -/
structure Fits (e : Entry) : Prop where
  product : Width.int64.Fits e.product.value
  order : ∀ i ∈ e.order, Width.int64.Fits i.value
  change : Width.int32.Fits e.change
  beforeAvailable : Width.int32.Fits e.before.available
  beforeReserved : Width.int32.Fits e.before.reserved
  afterAvailable : Width.int32.Fits e.after.available
  afterReserved : Width.int32.Fits e.after.reserved
  operator : ∀ i ∈ e.operator, Width.int64.Fits i.value

end Entry

/-- **An entry that is appended is read back** with the number that the table gave it. -/
theorem Sql.appendEntry_stores {e : Entry} (h : e.Fits) :
    ∃ st, (Gateway.appendEntry e).Stores format st (fun _ => ()) [e.createdAt] fun before after =>
      ∀ id, Width.int64.Fits id → before.lookup "id" = some (.int id) →
        Reading.entry after = .ok (e.numbered id) := by
  refine ⟨_, (Access.Stores.execute rfl ?_ ?_).map fun _ => ()⟩
  · cases e.order <;> cases e.reason <;> cases e.operator <;> rfl
  rintro before after ⟨_, ⟨⟩, hafter⟩ id hid hbefore
  exact Reading.entry_eq_ok_iff.mpr
    ⟨⟨_, Reading.text_of_lookup (hafter "change_type"), e.kind.ofText_text⟩,
      Reading.id?_of_lookup (hafter "order_id") h.order,
      Reading.id?_of_lookup (hafter "operator_id") h.operator,
      ⟨id, Reading.int_of_lookup ((hafter "id").trans hbefore) hid, rfl⟩,
      Reading.id_of_lookup (hafter "product_id") h.product,
      Reading.int_of_lookup (hafter "quantity_change") h.change,
      Reading.int_of_lookup (hafter "before_available") h.beforeAvailable,
      Reading.int_of_lookup (hafter "before_reserved") h.beforeReserved,
      Reading.int_of_lookup (hafter "after_available") h.afterAvailable,
      Reading.int_of_lookup (hafter "after_reserved") h.afterReserved,
      Reading.text?_of_lookup (hafter "reason"), Reading.time_of_lookup (hafter "created_at")⟩

end Stockroom
