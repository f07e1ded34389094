import Stockroom.Proofs.Crowd.Alone
import Stockroom.Proofs.Dialogue.Retries
import Stockroom.Proofs.Order.Prepared

/-!
# Proofs/Service/Appraisal — what an attempt to create an order finds out

Before it opens a unit of work an attempt only looks: at the catalogue, at the stock of each line, and at the
clock.  **What it makes of that is a function of the tables** (`Store.Tables.appraise`): a draft, or the first
thing that is in the way (`OrderService.prepare_looks`).

There is a draft exactly if each line has a price and is covered by the stock of its product, and the amounts
are accepted (`appraise_eq_ok_iff`).
-/

namespace Stockroom

open Store Call

variable {α β : Type} {s : Store} {tape tape' tape'' : Tape}

/-! ## Calls that only look -/

/-- **How a call that only looks ends** with nobody else around: the store is as it was. -/
def Call.Looks (s : Store) (p : Call α) (tape : Tape) (result : Except ServiceError α) (tape' : Tape) :
    Prop :=
  ∀ d : Desk, d.tape = tape → ∃ d', p.run.alone d s = some (result, d', s) ∧ d'.tape = tape'

namespace Call.Looks

variable {p : Call α} {f : α → Call β} {a : α} {error : ServiceError} {result : Except ServiceError β}

theorem settled (decided : Except ServiceError α) :
    (OrderService.settled decided).Looks s tape decided tape := by
  cases decided <;> exact fun d hd => ⟨d, rfl, hd⟩

theorem bind (h : p.Looks s tape (.ok a) tape') (hf : (f a).Looks s tape' result tape'') :
    (p >>= f).Looks s tape result tape'' := by
  intro d hd
  obtain ⟨d₁, h₁, hd₁⟩ := h d hd
  obtain ⟨d₂, h₂, hd₂⟩ := hf d₁ hd₁
  exact ⟨d₂, (alone_bind h₁).trans h₂, hd₂⟩

/-- What comes after an error is not looked at. -/
theorem stop (h : p.Looks s tape (.error error) tape') : (p >>= f).Looks s tape (.error error) tape' := by
  intro d hd
  obtain ⟨d', halone, hd'⟩ := h d hd
  exact ⟨d', alone_bind_error halone, hd'⟩

theorem now : Call.now.Looks s tape (.ok tape.time) tape.read := fun d hd =>
  ⟨{ d with tape := d.tape.read }, by rw [← hd]; rfl, congrArg Tape.read hd⟩

/-- A request that only reads. -/
theorem demand {request : StoreRequest} {found : request.Result}
    (h : ∀ unit, Session.answer ⟨s, unit⟩ request = (.ok found, ⟨s, unit⟩)) :
    (Call.demand request).Looks s tape (.ok found) tape :=
  fun d hd => ⟨_, Yields.alone_demand (h d.unit), hd⟩

end Call.Looks

/-! ## What there is to be seen -/

namespace Store.Tables

open OrderService

variable {t : Tables} {line : OrderLine} {lines : List OrderLine} {items : List OrderItem}
  {records : List StockRecord} {request : OrderRequest} {now : Instant} {error : ServiceError}

/-- The catalogue lists each product under its own number. -/
def IsListed (t : Tables) : Prop := ∀ id product, t.products.get? id = some product → product.id = id

/-- **The item of a line**: its product is in the catalogue, and 64 bits hold the amount. -/
def Prices (t : Tables) (line : OrderLine) (item : OrderItem) : Prop :=
  ∃ product, t.products.get? line.product = some product ∧
    Width.int64.Fits (product.price.amount * line.quantity) ∧
    item = ⟨line.product, product.name, product.image, line.quantity, product.price,
      ⟨product.price.amount * line.quantity⟩⟩

/-- **A line that the stock covers.** -/
def Covers (t : Tables) (line : OrderLine) : Prop :=
  ∃ record, t.liveStock? line.product = some record ∧ line.quantity ≤ record.available

/-- The record of a line, or that there is none. -/
def recordFor (t : Tables) (line : OrderLine) : Except ServiceError StockRecord :=
  match t.liveStock? line.product with
  | some record => .ok record
  | none => .error (.notFound (.stock line.product))

/-- **What an attempt makes of a request** for these lines: a draft, or the first thing that is in the way. -/
def appraise (t : Tables) (request : OrderRequest) (lines : List OrderLine) (now : Instant) :
    Except ServiceError Draft := do
  let items ← lines.mapM (quote (t.productsOf (lines.map OrderLine.product)))
  let records ← lines.mapM t.recordFor
  (shortage? lines records).elim (.ok ()) .error
  (Draft.prepare request.user items request.receiver request.discount request.shipping request.remark
    now).mapError .refused

theorem appraise_of_unquoted
    (h : lines.mapM (quote (t.productsOf (lines.map OrderLine.product))) = .error error) :
    t.appraise request lines now = .error error := by
  rw [appraise, h]
  rfl

theorem appraise_of_unrecorded
    (hitems : lines.mapM (quote (t.productsOf (lines.map OrderLine.product))) = .ok items)
    (h : lines.mapM t.recordFor = .error error) : t.appraise request lines now = .error error := by
  rw [appraise, hitems, h]
  rfl

theorem appraise_of_records
    (hitems : lines.mapM (quote (t.productsOf (lines.map OrderLine.product))) = .ok items)
    (h : lines.mapM t.recordFor = .ok records) :
    t.appraise request lines now = ((shortage? lines records).elim (.ok ()) .error >>= fun _ =>
      (Draft.prepare request.user items request.receiver request.discount request.shipping request.remark
        now).mapError .refused) := by
  rw [appraise, hitems, h]
  rfl

end Store.Tables

namespace OrderService

variable {line : OrderLine} {lines : List OrderLine} {request : OrderRequest}

theorem checkAvailability_looks (s : Store) (tape : Tape) (h : 0 < line.quantity) :
    (StockService.checkAvailability line).Looks s tape
      ((s.committed.recordFor line).map (availability line)) tape := by
  have hfound : (demand (.stockOf line.product)).Looks s tape (.ok (s.committed.liveStock? line.product))
      tape := .demand fun _ => rfl
  rw [checkAvailability_eq h, Tables.recordFor]
  refine hfound.bind ?_
  cases s.committed.liveStock? line.product with
  | none => exact .settled (.error _)
  | some record => exact .settled (.ok _)

theorem checkAll_looks (s : Store) (tape : Tape) (h : ∀ line ∈ lines, 0 < line.quantity) :
    (StockService.checkAll lines).Looks s tape
      ((lines.mapM s.committed.recordFor).map (lines.zipWith availability)) tape := by
  unfold StockService.checkAll
  induction lines with
  | nil => exact .settled (.ok [])
  | cons line lines ih =>
    obtain ⟨hline, hlines⟩ := List.forall_mem_cons.mp h
    have hfirst := checkAvailability_looks s tape hline
    rw [List.mapM_cons, List.mapM_cons]
    cases hrecord : s.committed.recordFor line with
    | error error => exact .stop (by rwa [hrecord] at hfirst)
    | ok record =>
    rw [hrecord] at hfirst
    refine hfirst.bind ?_
    have hrest := ih hlines
    cases hrecords : lines.mapM s.committed.recordFor with
    | error error => exact .stop (by rwa [hrecords] at hrest)
    | ok records =>
      rw [hrecords] at hrest
      exact hrest.bind (.settled (.ok _))

/-- **What an attempt finds out before it opens a unit of work.**  The clock is read for a draft. -/
theorem prepare_looks (s : Store) (tape : Tape) (request : OrderRequest) (lines : List OrderLine) :
    ∃ tape', (prepare request lines).Looks s tape (s.committed.appraise request lines tape.time) tape' ∧
      ∀ draft, s.committed.appraise request lines tape.time = .ok draft → tape' = tape.read := by
  have hlisted : (demand (.productsOf (lines.map OrderLine.product))).Looks s tape
      (.ok (s.committed.productsOf (lines.map OrderLine.product))) tape := .demand fun _ => rfl
  unfold prepare
  cases hitems : lines.mapM (quote (s.committed.productsOf (lines.map OrderLine.product))) with
  | error error =>
    rw [Tables.appraise_of_unquoted hitems]
    refine ⟨tape, hlisted.bind ?_, fun _ h => by cases h⟩
    rw [mapM_itemFor_eq_settled, hitems]
    exact (Looks.settled (.error error)).stop
  | ok items =>
  have hquoted : (lines.mapM (itemFor (s.committed.productsOf (lines.map OrderLine.product)))).Looks s tape
      (.ok items) tape := by
    rw [mapM_itemFor_eq_settled, hitems]
    exact .settled (.ok items)
  have hchecks := checkAll_looks s tape (forall_of_mapM_quote hitems).2
  cases hrecords : lines.mapM s.committed.recordFor with
  | error error =>
    rw [hrecords] at hchecks
    rw [Tables.appraise_of_unrecorded hitems hrecords]
    exact ⟨tape, hlisted.bind (hquoted.bind hchecks.stop), fun _ h => by cases h⟩
  | ok records =>
  rw [hrecords] at hchecks
  rw [Tables.appraise_of_records hitems hrecords]
  have hcovered : (settled ((shortage? lines records).elim (.ok ()) .error)).Looks s tape
      ((shortage? lines records).elim (.ok ()) .error) tape := .settled _
  rw [← ensureCovered_eq_settled] at hcovered
  cases hshort : shortage? lines records with
  | some error =>
    rw [hshort] at hcovered
    exact ⟨tape, hlisted.bind (hquoted.bind (hchecks.bind hcovered.stop)), fun _ h => by cases h⟩
  | none =>
  rw [hshort] at hcovered
  refine ⟨tape.read, hlisted.bind (hquoted.bind (hchecks.bind (hcovered.bind (Looks.now.bind ?_)))),
    fun _ _ => rfl⟩
  cases Draft.prepare request.user items request.receiver request.discount request.shipping request.remark
    tape.time with
  | error refusal => exact .settled (.error _)
  | ok draft => exact .settled (.ok draft)

end OrderService

/-! ## When there is a draft -/

namespace Store.Tables

open OrderService

variable {t : Tables} {line : OrderLine} {lines : List OrderLine} {items : List OrderItem}
  {records : List StockRecord} {request : OrderRequest} {now : Instant} {draft : Draft}
  {error : ServiceError}

theorem mem_productsOf (hlisted : t.IsListed) {ids : List ProductId} {product : Product} :
    product ∈ t.productsOf ids ↔ product.id ∈ ids ∧ t.products.get? product.id = some product := by
  rw [productsOf, List.mem_filterMap]
  constructor
  · rintro ⟨id, hid, hproduct⟩
    obtain rfl := hlisted id product hproduct
    exact ⟨List.mem_eraseDups.mp hid, hproduct⟩
  · rintro ⟨hid, hproduct⟩
    exact ⟨product.id, List.mem_eraseDups.mpr hid, hproduct⟩

/-- A product that was asked for is found among the listed ones. -/
theorem find?_productsOf (hlisted : t.IsListed) {ids : List ProductId} {id : ProductId} (hid : id ∈ ids) :
    (t.productsOf ids).find? (fun product => product.id = id) = t.products.get? id := by
  cases hfound : (t.productsOf ids).find? fun product => product.id = id with
  | some product =>
    obtain rfl : product.id = id := by simpa using List.find?_some hfound
    exact ((mem_productsOf hlisted).mp (List.mem_of_find?_eq_some hfound)).2.symm
  | none =>
    cases hproduct : t.products.get? id with
    | none => rfl
    | some product =>
      obtain rfl := hlisted id product hproduct
      have hmem := (mem_productsOf hlisted).mpr ⟨hid, hproduct⟩
      exact absurd (decide_eq_true rfl) (List.find?_eq_none.mp hfound product hmem)

/-- **A line has a price** if there is an item for it. -/
theorem quote_eq_ok_iff (hlisted : t.IsListed) {ids : List ProductId} (hid : line.product ∈ ids)
    (hpositive : 0 < line.quantity) {item : OrderItem} :
    quote (t.productsOf ids) line = .ok item ↔ t.Prices line item := by
  rw [quote, find?_productsOf hlisted hid, Prices]
  cases hproduct : t.products.get? line.product with
  | none => simp
  | some product =>
    refine mapError_eq_ok_iff.trans ?_
    simp only [OrderItem.ofProduct_eq_ok_iff, hpositive, true_and, Option.some.injEq, exists_eq_left',
      hlisted _ _ hproduct]

theorem mapM_quote_eq_ok_iff (hlisted : t.IsListed) (hpositive : ∀ line ∈ lines, 0 < line.quantity) :
    lines.mapM (quote (t.productsOf (lines.map OrderLine.product))) = .ok items ↔
      List.Forall₂ t.Prices lines items := by
  have hasked : ∀ line ∈ lines, line.product ∈ lines.map OrderLine.product ∧ 0 < line.quantity :=
    fun line hline => ⟨List.mem_map_of_mem hline, hpositive line hline⟩
  rw [mapM_eq_ok_iff, ← and_iff_right (b := List.Forall₂ _ _ _) hasked, ← List.forall₂_and_left,
    ← and_iff_right (b := List.Forall₂ t.Prices _ _) hasked, ← List.forall₂_and_left]
  refine Iff.of_eq (congrArg (List.Forall₂ · lines items) (funext₂ fun line item => propext ?_))
  exact and_congr_right fun h => quote_eq_ok_iff hlisted h.1 h.2

/-- What the first short line is turned down with. -/
def shortageOf (t : Tables) (line : OrderLine) : Option ServiceError :=
  (t.liveStock? line.product).bind fun record =>
    if line.quantity ≤ record.available then none
    else some (.refused (.insufficientStock line.product record.available line.quantity))

theorem recordFor_eq_ok_iff {record : StockRecord} :
    t.recordFor line = .ok record ↔ t.liveStock? line.product = some record := by
  unfold recordFor
  cases t.liveStock? line.product <;> simp

theorem exists_mapM_recordFor_iff :
    (∃ records, lines.mapM t.recordFor = .ok records) ↔
      ∀ line ∈ lines, (t.liveStock? line.product).isSome := by
  simp only [exists_mapM_eq_ok_iff, recordFor_eq_ok_iff, Option.isSome_iff_exists]

theorem shortage?_eq (h : lines.mapM t.recordFor = .ok records) :
    shortage? lines records = lines.findSome? t.shortageOf := by
  simp only [mapM_eq_ok_iff, recordFor_eq_ok_iff] at h
  induction h with
  | nil => rfl
  | @cons line record lines records hrecord _ ih =>
    have hshort : t.shortageOf line = if line.quantity ≤ record.available then none
        else some (.refused (.insufficientStock line.product record.available line.quantity)) := by
      rw [shortageOf, hrecord]
      rfl
    have hcovers : record.covers line.quantity = decide (line.quantity ≤ record.available) := rfl
    rw [shortage?] at ih
    rw [shortage?, List.zip_cons_cons, List.find?_cons, List.findSome?_cons, hshort, hcovers]
    by_cases hle : line.quantity ≤ record.available
    · simpa [hle] using ih
    · simp [hle]

/-- A line is short if it has a record that does not cover it. -/
theorem shortageOf_eq_none_iff (h : (t.liveStock? line.product).isSome) :
    t.shortageOf line = none ↔ t.Covers line := by
  obtain ⟨record, hrecord⟩ := Option.isSome_iff_exists.mp h
  simp [shortageOf, Covers, hrecord]

theorem Covers.isSome (h : t.Covers line) : (t.liveStock? line.product).isSome := by
  obtain ⟨record, hrecord, -⟩ := h
  rw [hrecord]
  rfl

/-- **There is a draft** exactly if each line has a price and is covered, and the amounts are accepted. -/
theorem appraise_eq_ok_iff (hlisted : t.IsListed) (hpositive : ∀ line ∈ lines, 0 < line.quantity) :
    t.appraise request lines now = .ok draft ↔ ∃ items, List.Forall₂ t.Prices lines items ∧
      (∀ line ∈ lines, t.Covers line) ∧
      Draft.prepare request.user items request.receiver request.discount request.shipping request.remark
        now = .ok draft := by
  constructor
  · intro h
    obtain ⟨items, hitems, h⟩ := bind_eq_ok_iff.mp h
    obtain ⟨records, hrecords, h⟩ := bind_eq_ok_iff.mp h
    obtain ⟨u, hshort, h⟩ := bind_eq_ok_iff.mp h
    have hlive := exists_mapM_recordFor_iff.mp ⟨records, hrecords⟩
    rw [shortage?_eq hrecords] at hshort
    refine ⟨items, (mapM_quote_eq_ok_iff hlisted hpositive).mp hitems, fun line hline => ?_, ?_⟩
    · refine (shortageOf_eq_none_iff (hlive line hline)).mp ?_
      cases hfound : lines.findSome? t.shortageOf with
      | none => exact List.findSome?_eq_none_iff.mp hfound line hline
      | some error =>
        rw [hfound] at hshort
        cases hshort
    · exact mapError_eq_ok_iff.mp h
  · rintro ⟨items, hitems, hcovered, hdraft⟩
    have hquoted := (mapM_quote_eq_ok_iff hlisted hpositive).mpr hitems
    obtain ⟨records, hrecords⟩ := exists_mapM_recordFor_iff.mpr fun line hline =>
      (hcovered line hline).isSome
    have hshort : lines.findSome? t.shortageOf = none := List.findSome?_eq_none_iff.mpr fun line hline =>
      (shortageOf_eq_none_iff (hcovered line hline).isSome).mpr (hcovered line hline)
    rw [appraise_of_records hquoted hrecords, shortage?_eq hrecords, hshort, hdraft]
    rfl

/-- What is in the way is refused or missing. -/
theorem isVerdict_of_appraise (h : t.appraise request lines now = .error error) : error.isVerdict := by
  cases hitems : lines.mapM (quote (t.productsOf (lines.map OrderLine.product))) with
  | error error' =>
    cases (appraise_of_unquoted hitems).symm.trans h
    obtain ⟨line, -, hline⟩ := exists_of_mapM_eq_error hitems
    exact Transaction.isVerdict_quote hline
  | ok items =>
  cases hrecords : lines.mapM t.recordFor with
  | error error' =>
    cases (appraise_of_unrecorded hitems hrecords).symm.trans h
    obtain ⟨line, -, hline⟩ := exists_of_mapM_eq_error hrecords
    unfold recordFor at hline
    split at hline
    · cases hline
    · cases hline
      rfl
  | ok records =>
  rw [appraise_of_records hitems hrecords, shortage?_eq hrecords] at h
  cases hshort : lines.findSome? t.shortageOf with
  | some error' =>
    rw [hshort] at h
    cases h
    obtain ⟨line, -, hline⟩ := List.exists_of_findSome?_eq_some hshort
    obtain ⟨record, -, hline⟩ := Option.bind_eq_some_iff.mp hline
    split at hline
    · cases hline
    · cases hline
      rfl
  | none =>
    rw [hshort] at h
    cases hdraft : Draft.prepare request.user items request.receiver request.discount request.shipping
      request.remark now with
    | ok draft =>
      rw [hdraft] at h
      cases h
    | error refusal =>
      rw [hdraft] at h
      cases h
      rfl

/-- **The first short line**, where every line has a record. -/
structure FallsShort (t : Tables) (lines : List OrderLine) (line : OrderLine) (record : StockRecord) :
    Prop where
  first : ∃ before after, lines = before ++ line :: after ∧ ∀ other ∈ before, t.Covers other
  live : ∀ other ∈ lines, (t.liveStock? other.product).isSome
  found : t.liveStock? line.product = some record
  short : record.available < line.quantity

/-- **It is in the way** if all lines have a price. -/
theorem appraise_of_short {record : StockRecord} (hlisted : t.IsListed)
    (hpositive : ∀ line ∈ lines, 0 < line.quantity) (hitems : List.Forall₂ t.Prices lines items)
    (h : t.FallsShort lines line record) : t.appraise request lines now =
      .error (.refused (.insufficientStock line.product record.available line.quantity)) := by
  obtain ⟨records, hrecords⟩ := exists_mapM_recordFor_iff.mpr h.live
  obtain ⟨before, after, hsplit, hbefore⟩ := h.first
  have hnone : before.findSome? t.shortageOf = none := List.findSome?_eq_none_iff.mpr fun other hother =>
    (shortageOf_eq_none_iff (hbefore other hother).isSome).mpr (hbefore other hother)
  have hfirst : t.shortageOf line =
      some (.refused (.insufficientStock line.product record.available line.quantity)) := by
    rw [shortageOf, h.found, Option.bind_some, if_neg (Int.not_le.mpr h.short)]
  rw [appraise_of_records ((mapM_quote_eq_ok_iff hlisted hpositive).mpr hitems) hrecords,
    shortage?_eq hrecords, hsplit, List.findSome?_append, hnone, Option.none_or, List.findSome?_cons, hfirst]
  rfl

/-- **The first line without a record.** -/
structure Lacks (t : Tables) (lines : List OrderLine) (line : OrderLine) : Prop where
  first : ∃ before after, lines = before ++ line :: after ∧
    ∀ other ∈ before, (t.liveStock? other.product).isSome
  missing : t.liveStock? line.product = none

/-- **It is in the way** if all lines have a price, whatever else is short. -/
theorem appraise_of_missing (hlisted : t.IsListed) (hpositive : ∀ line ∈ lines, 0 < line.quantity)
    (hitems : List.Forall₂ t.Prices lines items) (h : t.Lacks lines line) :
    t.appraise request lines now = .error (.notFound (.stock line.product)) := by
  obtain ⟨before, after, hsplit, hbefore⟩ := h.first
  have hfirst : t.recordFor line = .error (.notFound (.stock line.product)) := by
    rw [recordFor, h.missing]
  refine appraise_of_unrecorded ((mapM_quote_eq_ok_iff hlisted hpositive).mpr hitems) ?_
  rw [hsplit]
  refine mapM_eq_error_of_append (fun other hother => ?_) hfirst
  obtain ⟨record, hrecord⟩ := Option.isSome_iff_exists.mp (hbefore other hother)
  exact ⟨record, recordFor_eq_ok_iff.mpr hrecord⟩

end Store.Tables

end Stockroom
