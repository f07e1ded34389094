import Stockroom.Proofs.Service.Race

/-!
# Proofs/Service/Restock — what a restock tells, and when it has looked

A restock looks at the record of its product once, when it writes; what it enters into the ledger and
what it returns is computed from this record.  When it is committed the pieces are added to the record
that is there by then.  **`Restocked` keeps the two records apart**, and `meets_restock` says that a
restock does nothing else to the store.

Whether the pieces fit is asked three times, of three records: when it begins, when it writes, and when it is
committed.  **Nothing else is in the way of a restock whose product is on offer** (`Hindered`).
-/

namespace Stockroom

open Store

/-- **How a restock changes the store**: its entry and the value that it returns show the record that was
`seen` when it was written, and the pieces are added to the one that is `live` when it is
committed. -/
inductive Restocked (product : ProductId) (quantity : Int) (value : StockRecord) (staged : Deed)
    (t t' : Tables) : Prop
  | intro {now : Instant} {seen live next : StockRecord} {e : Entry}
      (hstaged : staged.request = .within (.increaseStock product quantity now))
      (hseen : staged.before.committed.liveStock? product = some seen)
      (hvalue : seen.restock quantity now = .ok value)
      (hlive : t.liveStock? product = some live) (hnext : live.restock quantity now = .ok next)
      (hrow : t'.liveStock? product = some next) (hentries : t'.entries = t.entries ++ [e])
      (hbefore : e.before = StockService.beforeRestock value quantity)

/-! ## Why it may fail -/

/-- **Within its bounds a record turns a positive quantity down only if the pieces do not fit.** -/
theorem StockRecord.restock_eq_error {r : StockRecord} {quantity : Int} {now : Instant} {refusal : Refusal}
    (h : r.InBounds) (hquantity : 0 < quantity) (herror : r.restock quantity now = .error refusal) :
    Width.int32.greatest < r.available + r.reserved + quantity ∧
      refusal = .invalidValue (.stockOverflow r.product) := by
  have hunfit : ¬Snapshot.Fits ⟨r.available + quantity, r.reserved⟩ := fun hfits =>
    nomatch herror.symm.trans (restock_eq_ok_iff.mpr ⟨hquantity, nextChecked_eq_ok_iff.mpr ⟨hfits, rfl⟩⟩)
  refine ⟨?_, Except.error.inj (herror.symm.trans (restock_of_overflow hquantity hunfit))⟩
  obtain ⟨ha, hres, -⟩ := h
  by_contra hle
  exact hunfit (fits_of_nonneg (by omega) hres (by omega))

/-- Whether a restock asks with this request if its pieces fit. -/
def StoreRequest.Weighs (product : ProductId) (quantity : Int) : StoreRequest → Prop
  | .begin | .commit => True
  | .within (.increaseStock other pieces _) => other = product ∧ pieces = quantity
  | _ => False

/-- **The pieces do not fit** into the record of the product. -/
def Store.Tables.Overflows (t : Tables) (product : ProductId) (quantity : Int) : Prop :=
  ∃ record, t.liveStock? product = some record ∧
    Width.int32.greatest < record.available + record.reserved + quantity

/-- An error that tells of pieces that do not fit. -/
def ServiceError.TellsOverflow (product : ProductId) (error : ServiceError) : Prop :=
  error = .refused (.invalidValue (.stockOverflow product)) ∨
    error = .storeFailed (.operationFailed (Refusal.invalidValue (.stockOverflow product)).message)

/-- **A restock that was hindered**: the pieces did not fit when it asked, and that is what it tells. -/
structure Hindered (product : ProductId) (quantity : Int) (error : ServiceError) (d : Desk) : Prop where
  tells : error.TellsOverflow product
  overflows : ∃ deed ∈ d.trail, deed.request.Weighs product quantity ∧
    deed.before.committed.Overflows product quantity

/-- **What excuses a restock that fails**: it was hindered, or the product was not on offer all the time. -/
def Excuses (product : ProductId) (quantity : Int) (error : ServiceError) (d : Desk) : Prop :=
  0 < quantity → (∀ deed ∈ d.trail, ∃ record, deed.before.committed.Offers product record) →
    Hindered product quantity error d

section Excuses

variable {product : ProductId} {quantity : Int} {error : ServiceError} {d d' : Desk} {deed : Deed}

theorem Excuses.mono (h : Excuses product quantity error d) (htrail : d.trail ⊆ d'.trail) :
    Excuses product quantity error d' := by
  intro hquantity hoffers
  obtain ⟨htells, deed, hdeed, hoverflows⟩ := h hquantity fun deed hdeed => hoffers deed (htrail hdeed)
  exact ⟨htells, deed, htrail hdeed, hoverflows⟩

/-- A product that is not there was not on offer. -/
theorem excuses_of_none (hdeed : deed ∈ d.trail) (hnone : deed.before.committed.liveStock? product = none) :
    Excuses product quantity error d := by
  intro _ hoffers
  obtain ⟨record, hoffered⟩ := hoffers deed hdeed
  cases hnone.symm.trans hoffered.live

/-- A record on offer refuses pieces that do not fit. -/
theorem excuses_of_refused {live : StockRecord} {now : Instant} {refusal : Refusal} (hdeed : deed ∈ d.trail)
    (hweighs : deed.request.Weighs product quantity)
    (hlive : deed.before.committed.liveStock? product = some live)
    (hrefused : live.restock quantity now = .error refusal)
    (herror : error = .refused refusal ∨ error = .storeFailed (.operationFailed refusal.message)) :
    Excuses product quantity error d := by
  intro hquantity hoffers
  obtain ⟨record, hoffered⟩ := hoffers deed hdeed
  obtain rfl := Option.some.inj (hlive.symm.trans hoffered.live)
  obtain ⟨hoverflow, rfl⟩ := StockRecord.restock_eq_error hoffered.bounds hquantity hrefused
  rw [hoffered.product] at herror
  exact ⟨herror, deed, hdeed, hweighs, live, hlive, hoverflow⟩

end Excuses

/-! ## The call -/

namespace StockService

variable {product : ProductId} {quantity : Int} {reason : Option String}
  {operator : Option OperatorId} {d : Desk} {s : Store}

/-- What a restock owes at every request. -/
def restockOwes (product : ProductId) (quantity : Int) (d : Desk) (request : HostRequest)
    (s : Store) : Prop :=
  (d.answer s request).2.2 = s ∨ request = .store .commit ∧ ∃ value, ∃ staged ∈ d.trail,
    Restocked product quantity value staged s.committed (d.answer s request).2.2.committed

/-- What a restock that has returned a value has done. -/
def RestockDone (product : ProductId) (quantity : Int) (value : StockRecord) (d : Desk) : Prop :=
  ∃ staged ∈ d.trail, ∃ deed ∈ d.trail, deed.request = .commit ∧
    Restocked product quantity value staged deed.before.committed deed.after.committed

/-- A restock that has written its pieces. -/
structure Stocked (product : ProductId) (quantity : Int) (now : Instant) (value : StockRecord)
    (more : List Write) (d : Desk) : Prop where
  unit : ∃ working written, d.unit = some ⟨working, written,
    .increaseStock product quantity now :: more⟩ ∧ working.liveStock? product = some value
  seen : ∃ staged ∈ d.trail, staged.request = .within (.increaseStock product quantity now) ∧
    ∃ seen, staged.before.committed.liveStock? product = some seen ∧
      seen.restock quantity now = .ok value

theorem lenient_restock : (Terms.always (restockOwes product quantity)).Lenient :=
  fun _ _ _ => .inl

/-- **The write** is added to the record that is committed at that time. -/
theorem meets_increaseStock {t : Tables} {now : Instant} {otherwise : ServiceError}
    (hunit : d.unit = some (.start t)) :
    (Call.insist (Call.within (.increaseStock product quantity now)) otherwise).Meets
      (.always (restockOwes product quantity))
      (fun _ d _ => ∃ value, Stocked product quantity now value [] d)
      (fun error d _ => Excuses product quantity error d) d s := by
  refine Call.Meets.insist (Call.Meets.quietly lenient_restock fun s' _ => ?_)
  rw [hunit]
  rcases hstage : (UnitOfWork.start t).stage s'.committed
    (.increaseStock product quantity now) with ⟨answer, u⟩
  refine ⟨_, _, Session.stage_some hstage, fun _ _ => ?_⟩
  have hdeed := Desk.mem_after d (.within (.increaseStock product quantity now)) s' ⟨s', some u⟩
  have hfailed := UnitOfWork.of_stage_increaseStock List.not_mem_nil (congrArg Prod.fst hstage)
  match answer with
  | .error error =>
    rcases hfailed nofun with ⟨-, hfalse⟩ | ⟨live, refusal, hlive, hrefused, herror⟩
    · cases hfalse
    · cases herror
      exact excuses_of_refused hdeed ⟨rfl, rfl⟩ hlive hrefused (.inr rfl)
  | .ok false =>
    rcases hfailed nofun with ⟨hnone, -⟩ | ⟨live, refusal, -, -, herror⟩
    · exact excuses_of_none hdeed hnone
    · cases herror
  | .ok true =>
    obtain ⟨live, next, working, hlive, hnext, hworking, hstaged⟩ :=
      UnitOfWork.stage_increaseStock List.not_mem_nil (congrArg Prod.fst hstage)
    refine ⟨next, ⟨working, [.stock product], ?_, hworking⟩, _, Desk.mem_after .., rfl, live, hlive,
      hnext⟩
    exact congrArg (fun answer => some answer.2) (hstage.symm.trans hstaged)

/-- Inside its unit of work a restock looks, writes, and appends the entry of what it saw. -/
theorem meets_restockIn {s₀ : Store} (hunit : d.unit = some (.start s₀.committed))
    (hbegun : ⟨.begin, s₀, s₀⟩ ∈ d.trail) :
    (restockIn product quantity reason operator).Meets (.always (restockOwes product quantity))
      (fun value d _ => ∃ now entry, Stocked product quantity now value [.appendEntry entry] d ∧
        entry.before = beforeRestock value quantity)
      (fun error d _ => Excuses product quantity error d) d s := by
  refine (Call.Meets.now lenient_restock).seq ?_
  rintro now d₁ s₁ ⟨-, hunit₁, htrail₁, -⟩
  rw [← htrail₁] at hbegun
  refine (Call.Meets.loadStock lenient_restock (hunit₁.trans hunit) fun hnone _ _ htrail _ =>
    excuses_of_none (htrail hbegun) hnone).seq ?_
  rintro current d₂ s₂ ⟨hcurrent, hunit₂, htrail₂, -⟩
  have hbegun₂ : ⟨.begin, s₀, s₀⟩ ∈ d₂.trail := htrail₂ hbegun
  refine Call.Meets.obey_bind (fun _ _ => ?_) fun refusal hrefused _ _ =>
    excuses_of_refused hbegun₂ trivial hcurrent hrefused (.inl rfl)
  refine (meets_increaseStock hunit₂).seq ?_
  rintro - d₃ s₃ ⟨value, ⟨working, written, hunit₃, hworking⟩, staged, hmem, hseen⟩
  refine (Call.Meets.loadStock lenient_restock hunit₃ fun hnone _ _ _ _ => ?_).seq ?_
  · cases hworking.symm.trans hnone
  rintro after d₄ s₄ ⟨hafter, hunit₄, htrail₄, -⟩
  obtain rfl := Option.some.inj (hworking.symm.trans hafter)
  refine (Call.Meets.appendEntry lenient_restock hunit₄ _).seq ?_
  rintro - d₅ s₅ ⟨hunit₅, htrail₅, -⟩
  refine Call.Meets.pure fun _ _ => ⟨now, _, ⟨⟨_, _, hunit₅, hworking⟩, staged, ?_, hseen⟩, rfl⟩
  exact htrail₅ (htrail₄ hmem)

theorem meets_commit_restock {now : Instant} {value : StockRecord} {entry : Entry}
    (h : Stocked product quantity now value [.appendEntry entry] d)
    (hentry : entry.before = beforeRestock value quantity) :
    (Call.demand .commit).Meets (.always (restockOwes product quantity))
      (fun _ d _ => RestockDone product quantity value d)
      (fun error d _ => Excuses product quantity error d) d s := by
  obtain ⟨⟨working, written, hunit, -⟩, staged, hmem, hrequest, seen, hseen, hvalue⟩ := h
  refine Call.Meets.demand fun s' _ => ?_
  cases happly : Write.applyAll [.increaseStock product quantity now, .appendEntry entry]
    s'.committed with
  | ok t =>
    have hanswer := Session.commit_of_ok hunit happly
    have hrestocked : Restocked product quantity value staged s'.committed t := by
      obtain ⟨t₁, hfirst, hrest⟩ := Write.applyAll_cons_iff.mp happly
      obtain ⟨live, next, hlive, hnext, rfl⟩ := Write.apply_increaseStock_iff.mp hfirst
      obtain ⟨t₂, hsecond, hrest⟩ := Write.applyAll_cons_iff.mp hrest
      obtain rfl := Write.apply_appendEntry_iff.mp hsecond
      obtain rfl := Write.applyAll_nil_iff.mp hrest
      exact ⟨hrequest, hseen, hvalue, hlive, hnext, (Tables.liveStock?_putLive ..).trans (if_pos rfl), rfl, hentry⟩
    refine ⟨.inr ⟨rfl, value, staged, hmem, ?_⟩, _, _, hanswer, fun _ _ => ?_⟩
    · rw [Desk.answer_store hanswer]
      exact hrestocked
    · exact ⟨staged, List.mem_append_left _ hmem, _, Desk.mem_after .., rfl, hrestocked⟩
  | error rejection =>
    have hdeed (session : Session) := Desk.mem_after d .commit s' session
    have hfirst : (Write.increaseStock product quantity now).apply s'.committed = .error rejection := by
      cases hfirst : (Write.increaseStock product quantity now).apply s'.committed with
      | ok t =>
        cases happly.symm.trans (Write.applyAll_cons_iff.mpr ⟨t, hfirst,
          Write.applyAll_cons_iff.mpr ⟨_, rfl, Write.applyAll_nil_iff.mpr rfl⟩⟩)
      | error rejection' =>
        rw [Write.applyAll, List.foldlM_cons, hfirst] at happly
        cases happly
        rfl
    rcases Write.of_apply_increaseStock hfirst with ⟨hnone, mismatch, rfl⟩ | ⟨live, refusal, hlive, hrefused, rfl⟩
    · have hanswer := Session.commit_of_mismatch hunit happly
      exact ⟨.inl (by rw [Desk.answer_store hanswer]), _, _, hanswer, fun _ _ =>
        excuses_of_none (hdeed _) hnone⟩
    · have hanswer := Session.commit_of_failed hunit happly
      exact ⟨.inl (by rw [Desk.answer_store hanswer]), _, _, hanswer, fun _ _ =>
        excuses_of_refused (hdeed _) trivial hlive hrefused (.inr rfl)⟩

/-- **A restock changes the store at most by its commit**; it has committed if it returns a value, and is
excused if it does not. -/
theorem meets_restock (d : Desk) (s : Store) :
    (restock product quantity reason operator).Meets (.always (restockOwes product quantity))
      (fun value d _ => RestockDone product quantity value d)
      (fun error d _ => Excuses product quantity error d) d s := by
  have hexcused (refusal : Refusal) (hrefused : ensurePositive quantity = .error refusal) (d : Desk) :
      Excuses product quantity (.refused refusal) d := fun hquantity => by
    cases hrefused.symm.trans (ensurePositive_eq_ok_iff (u := ()) |>.mpr hquantity)
  refine Call.Meets.obey_bind (fun _ _ => ?_) fun refusal hrefused _ _ => hexcused refusal hrefused d
  refine Call.Meets.seq (Q := fun value d _ => RestockDone product quantity value d)
    (Call.Meets.inUnit lenient_restock (fun _ _ _ _ _ _ hunit hbegun => meets_restockIn hunit hbegun) ?_
      fun _ _ _ _ _ hexcuses htrail _ => hexcuses.mono htrail) fun value d s h => ?_
  · rintro value d s ⟨now, entry, hstocked, hentry⟩
    exact meets_commit_restock hstocked hentry
  · refine (Call.Meets.log lenient_restock _).seq ?_
    rintro - _ _ ⟨rfl, -⟩
    exact Call.Meets.pure fun _ _ => h

end StockService

end Stockroom
