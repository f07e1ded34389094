import Stockroom.Proofs.Crowd.Terms
import Stockroom.Proofs.Store.Slice

/-!
# Proofs/Crowd/Confined — callers who ask about one product

A program is `Confined` to a product if all its requests are about that product, as long as the records
that it is shown are.  **What becomes of it is decided by the slice of its product**: with nobody else
around it ends the same over any two stores that hold the same about the product
(`Program.Confined.finish_alike`), and leaves alone whatever they hold besides
(`Program.Confined.finish_agreeBeyond`).

`Program.finish` is a program that makes all its requests with nobody else around; unlike
`Program.alone` it also tells what an aborted program has left behind.
-/

namespace Stockroom

open Store

variable {α β : Type} {p : ProductId}

/-! ## Requests about a product -/

/-- The product that a request inside a unit of work is about. -/
def UnitRequest.product? : UnitRequest → Option ProductId
  | findStock product => some product
  | replaceStock next _ => some next.product
  | increaseStock product .. => some product
  | insertReservation reservation => some reservation.product
  | findReservation product _ => some product
  | moveReservation product .. => some product
  | appendEntry entry => some entry.product
  | insertOrder _ | findOrder _ | replaceOrder .. => none

namespace HostRequest

/-- Requests that meet nothing but what is held about a product. -/
def About (p : ProductId) : HostRequest → Prop
  | store .begin | store .commit | store .rollback => True
  | store (.within request) => request.product? = some p
  | store _ => False
  | now | freshId | log _ | sleep _ => True

/-- A record that is found is one of the product. -/
def Proper (p : ProductId) : (request : HostRequest) → request.Answer → Prop
  | store (.within (.findStock _)), .ok (some record) => record.product = p
  | _, _ => True

end HostRequest

/-- **Two desks from which the same is seen about a product**, over stores that hold the same about it. -/
structure Desk.Alike (p : ProductId) (s s' : Store) (d d' : Desk) : Prop where
  tape : d.tape = d'.tape
  unit : Option.Rel (UnitOfWork.Alike p) d.unit d'.unit
  slice : s.committed.slice p = s'.committed.slice p
  filed : s.committed.Filed

/-- **A request is answered the same at both desks**, and properly, and they stay alike. -/
def Desk.AnswerAlike (p : ProductId) (s s' : Store) (d d' : Desk) (request : HostRequest) : Prop :=
  (d.answer s request).1 = (d'.answer s' request).1 ∧
    request.Proper p (d.answer s request).1 ∧
      (d.answer s request).2.1.Alike p (d.answer s request).2.2 (d'.answer s' request).2.2
        (d'.answer s' request).2.1

namespace Desk.Alike

variable {s s' : Store} {d d' : Desk}

theorem fresh (tape : Tape) (hs : s.committed.Filed)
    (h : s.committed.slice p = s'.committed.slice p) :
    Desk.Alike p s s' (.fresh tape) (.fresh tape) := ⟨rfl, .none, h, hs⟩

/-- What others do besides does not show. -/
theorem elsewhere (h : d.Alike p s s d) (hs : s'.committed.Filed)
    (hslice : s'.committed.slice p = s.committed.slice p) : d.Alike p s' s d :=
  ⟨rfl, h.unit, hslice, hs⟩

/-- A request that reads in the unit of work. -/
theorem find {γ : Type} (h : d.Alike p s s' d') {read : Tables → γ}
    (hread : ∀ {t t' : Tables}, t.slice p = t'.slice p → read t = read t') :
    ∃ answer, Session.find ⟨s, d.unit⟩ read = (answer, ⟨s, d.unit⟩) ∧
      Session.find ⟨s', d'.unit⟩ read = (answer, ⟨s', d'.unit⟩) ∧
        ∀ found, answer = .ok found → ∃ t : Tables, t.Filed ∧ read t = found := by
  obtain ⟨unit, tape, trail⟩ := d
  obtain ⟨unit', tape', trail'⟩ := d'
  cases h.unit with
  | none => exact ⟨_, rfl, rfl, nofun⟩
  | @some u u' hu =>
    refine ⟨.ok (read u.working), rfl, ?_, fun found hfound => ⟨u.working, hu.filed, ?_⟩⟩
    · exact congrArg (fun found => (Except.ok found, _)) (hread hu.slice).symm
    · exact Except.ok.inj hfound

/-- A request that writes in the unit of work. -/
theorem stage (h : d.Alike p s s' d') {w : Write} (hw : w.product? = some p) :
    ∃ answer unit unit', Session.stage ⟨s, d.unit⟩ w = (answer, ⟨s, unit⟩) ∧
      Session.stage ⟨s', d'.unit⟩ w = (answer, ⟨s', unit'⟩) ∧
        Option.Rel (UnitOfWork.Alike p) unit unit' := by
  obtain ⟨unit, tape, trail⟩ := d
  obtain ⟨unit', tape', trail'⟩ := d'
  cases h.unit with
  | none => exact ⟨_, none, none, rfl, rfl, .none⟩
  | some hu =>
    obtain ⟨hanswer, hstaged⟩ := hu.stage hw h.filed h.slice
    exact ⟨_, some _, some _, rfl, congrArg (·, _) hanswer.symm, .some hstaged⟩

/-- A write that has no condition of its own. -/
theorem stageUnit (h : d.Alike p s s' d') {w : Write} (hw : w.product? = some p) :
    ∃ answer unit unit', Session.stageUnit ⟨s, d.unit⟩ w = (answer, ⟨s, unit⟩) ∧
      Session.stageUnit ⟨s', d'.unit⟩ w = (answer, ⟨s', unit'⟩) ∧
        Option.Rel (UnitOfWork.Alike p) unit unit' := by
  obtain ⟨answer, unit, unit', hs, hs', hunit⟩ := h.stage hw
  refine ⟨answer.map fun _ => (), unit, unit', ?_, ?_, hunit⟩
  · rw [Session.stageUnit, hs]
  · rw [Session.stageUnit, hs']

/-- A request that is answered the same at both desks, and commits nothing. -/
theorem of_session (h : d.Alike p s s' d') {r : StoreRequest} {answer : Except StoreError r.Result}
    {unit unit' : Option UnitOfWork} (hproper : HostRequest.Proper p (.store r) answer)
    (hs : Session.answer ⟨s, d.unit⟩ r = (answer, ⟨s, unit⟩))
    (hs' : Session.answer ⟨s', d'.unit⟩ r = (answer, ⟨s', unit'⟩))
    (hunit : Option.Rel (UnitOfWork.Alike p) unit unit') : Desk.AnswerAlike p s s' d d' (.store r) := by
  rw [Desk.AnswerAlike, Desk.answer_store hs, Desk.answer_store hs']
  exact ⟨rfl, hproper, h.tape, hunit, h.slice, h.filed⟩

/-- The end of a unit of work. -/
theorem commit (h : d.Alike p s s' d') : Desk.AnswerAlike p s s' d d' (.store .commit) := by
  obtain ⟨unit, tape, trail⟩ := d
  obtain ⟨unit', tape', trail'⟩ := d'
  cases h.unit with
  | none => exact h.of_session (r := .commit) trivial rfl rfl .none
  | some hu =>
    simp only [Desk.AnswerAlike, Desk.answer, Session.answer, Session.commit]
    rcases hu.commit h.filed h.slice with ⟨error, hx, hx'⟩ | ⟨t, t', hx, hx', ht, hfiled, -⟩
    · rw [hx, hx']
      exact ⟨rfl, trivial, h.tape, .none, h.slice, h.filed⟩
    · rw [hx, hx']
      exact ⟨rfl, trivial, h.tape, .none, ht, hfiled⟩

/-- A request inside a unit of work. -/
theorem within {request : UnitRequest} (hr : request.product? = some p) (h : d.Alike p s s' d') :
    Desk.AnswerAlike p s s' d d' (.store (.within request)) := by
  cases request with
  | findStock product =>
    cases hr
    obtain ⟨answer, hs, hs', hfound⟩ := h.find Tables.liveStock?_eq_of_slice
    refine h.of_session (r := .within (.findStock p)) ?_ hs hs' h.unit
    cases answer with
    | error _ => exact trivial
    | ok found =>
      cases found with
      | none => exact trivial
      | some record =>
        obtain ⟨t, ht, hlive⟩ := hfound _ rfl
        exact ht.product_of_live hlive
  | findReservation product order =>
    cases hr
    obtain ⟨answer, hs, hs', -⟩ := h.find (Tables.reservation?_eq_of_slice · order)
    exact h.of_session (r := .within (.findReservation p order)) trivial hs hs' h.unit
  | replaceStock next version =>
    obtain ⟨answer, unit, unit', hs, hs', hunit⟩ := h.stage (w := .replaceStock next version) hr
    exact h.of_session (r := .within (.replaceStock next version)) trivial hs hs' hunit
  | increaseStock product quantity now =>
    obtain ⟨answer, unit, unit', hs, hs', hunit⟩ := h.stage (w := .increaseStock product quantity now) hr
    exact h.of_session (r := .within (.increaseStock product quantity now)) trivial hs hs' hunit
  | insertReservation reservation =>
    obtain ⟨answer, unit, unit', hs, hs', hunit⟩ := h.stageUnit (w := .insertReservation reservation) hr
    exact h.of_session (r := .within (.insertReservation reservation)) trivial hs hs' hunit
  | moveReservation product order expected next now =>
    obtain ⟨answer, unit, unit', hs, hs', hunit⟩ :=
      h.stage (w := .moveReservation product order expected next now) hr
    exact h.of_session (r := .within (.moveReservation product order expected next now)) trivial hs hs' hunit
  | appendEntry entry =>
    obtain ⟨answer, unit, unit', hs, hs', hunit⟩ := h.stageUnit (w := .appendEntry entry) hr
    exact h.of_session (r := .within (.appendEntry entry)) trivial hs hs' hunit
  | insertOrder draft => cases hr
  | findOrder order => cases hr
  | replaceOrder order expected => cases hr

/-- **Whatever is asked about the product is answered the same at both desks.** -/
theorem answer {request : HostRequest} (hr : request.About p) (h : d.Alike p s s' d') :
    Desk.AnswerAlike p s s' d d' request := by
  cases request with
  | now =>
    exact ⟨congrArg Tape.time h.tape, trivial, congrArg Tape.read h.tape, h.unit, h.slice, h.filed⟩
  | freshId =>
    exact ⟨congrArg Tape.id h.tape, trivial, congrArg Tape.draw h.tape, h.unit, h.slice, h.filed⟩
  | log record => exact ⟨rfl, trivial, h⟩
  | sleep millis => exact ⟨rfl, trivial, h⟩
  | store r =>
    cases r with
    | begin => exact h.of_session (r := .begin) trivial rfl rfl (.some (.start h.filed h.slice))
    | rollback => exact h.of_session (r := .rollback) trivial rfl rfl .none
    | commit => exact h.commit
    | within request => exact h.within hr
    | _ => exact hr.elim

/-- **A request about the product leaves alone whatever the store holds besides.** -/
theorem agreeBeyond {request : HostRequest} (hr : request.About p) (h : d.Alike p s s d) :
    s.committed.AgreeBeyond p (d.answer s request).2.2.committed := by
  have hsame (hcommitted : (d.answer s request).2.2.committed = s.committed) :
      s.committed.AgreeBeyond p (d.answer s request).2.2.committed := by
    rw [hcommitted]
    exact .refl p _
  cases request with
  | store r =>
    cases r with
    | commit =>
      obtain ⟨unit, tape, trail⟩ := d
      cases unit with
      | none => exact hsame rfl
      | some u =>
        obtain ⟨hu⟩ := h.unit
        simp only [Desk.answer, Session.answer, Session.commit]
        rcases hu.commit h.filed h.slice with ⟨error, hx, -⟩ | ⟨t, t', hx, -, -, -, hagree⟩
        · rw [hx]
          exact .refl p _
        · rw [hx]
          exact hagree
    | within request => exact hsame (Session.answerWithin_unit ⟨s, d.unit⟩ request).1
    | begin => exact hsame rfl
    | rollback => exact hsame rfl
    | _ => exact hr.elim
  | _ => exact hsame rfl

end Desk.Alike

/-! ## Programs with nobody else around -/

namespace Program

/-- **A program makes all its requests with nobody else around**: what is left of it then, the desk and the
store. -/
def finish : Program Host α → Desk → Store → Program Host α × Desk × Store
  | done a, d, s => (done a, d, s)
  | abort, d, s => (abort, d, s)
  | ask request next, d, s =>
    (next (d.answer s request).1).finish (d.answer s request).2.1 (d.answer s request).2.2

/-- How many requests a program makes with nobody else around. -/
def requests : Program Host α → Desk → Store → Nat
  | done _, _, _ | abort, _, _ => 0
  | ask request next, d, s =>
    (next (d.answer s request).1).requests (d.answer s request).2.1 (d.answer s request).2.2 + 1

/-- A program that is done alone has finished so. -/
theorem alone_eq_some_iff {q : Program Host α} {d d' : Desk} {s s' : Store} {a : α} :
    q.alone d s = some (a, d', s') ↔ q.finish d s = (done a, d', s') := by
  induction q generalizing d s with
  | done b => simp [alone, finish]
  | abort => simp [alone, finish]
  | ask request next ih => exact ih _

/-- A program that makes no more requests has finished. -/
theorem finish_of_requests {q : Program Host α} {d : Desk} {s : Store} (h : q.requests d s = 0) :
    q.finish d s = (q, d, s) := by
  cases q with
  | done a => rfl
  | abort => rfl
  | ask request next => cases h

/-- **The program asks about the product only**, as long as it is shown records of the product, and `Q`
holds when it is done. -/
def Confined (p : ProductId) (Q : α → Prop) : Program Host α → Prop
  | done a => Q a
  | abort => True
  | ask request next => request.About p ∧ ∀ answer, request.Proper p answer →
      (next answer).Confined p Q

namespace Confined

variable {Q : α → Prop} {q : Program Host α} {d d' : Desk} {s s' : Store}

theorem bind {R : β → Prop} {f : α → Program Host β} (h : q.Confined p Q)
    (hf : ∀ a, Q a → (f a).Confined p R) : (q >>= f).Confined p R := by
  induction q with
  | done a => exact hf a h
  | abort => exact trivial
  | ask request next ih => exact ⟨h.1, fun answer hproper => ih answer (h.2 answer hproper)⟩

/-- **What becomes of a program that asks about one product is decided by the slice of the product.** -/
theorem finish_alike (h : q.Confined p Q) (hd : d.Alike p s s' d') :
    q.requests d s = q.requests d' s' ∧ (q.finish d s).1 = (q.finish d' s').1 ∧
      (q.finish d s).2.1.Alike p (q.finish d s).2.2 (q.finish d' s').2.2 (q.finish d' s').2.1 := by
  induction q generalizing d s d' s' with
  | done a => exact ⟨rfl, rfl, hd⟩
  | abort => exact ⟨rfl, rfl, hd⟩
  | ask request next ih =>
    obtain ⟨hanswer, hproper, hnext⟩ := hd.answer h.1
    obtain ⟨hrequests, hleft, hends⟩ := ih _ (h.2 _ hproper) hnext
    simp only [requests, finish, ← hanswer]
    exact ⟨congrArg (· + 1) hrequests, hleft, hends⟩

/-- **It leaves alone whatever the store holds besides.** -/
theorem finish_agreeBeyond (h : q.Confined p Q) (hd : d.Alike p s s d) :
    s.committed.AgreeBeyond p (q.finish d s).2.2.committed := by
  induction q generalizing d s with
  | done a => exact .refl p _
  | abort => exact .refl p _
  | ask request next ih =>
    obtain ⟨-, hproper, hnext⟩ := hd.answer h.1
    exact (hd.agreeBeyond h.1).trans (ih _ (h.2 _ hproper) hnext)

end Confined

end Program

/-! ## Calls -/

namespace Call

/-- **A call that asks about one product**; `Q` holds of the value that it ends with. -/
def Confined (p : ProductId) (Q : α → Prop) (call : Call α) : Prop :=
  call.run.Confined p fun result => ∀ a, result = .ok a → Q a

namespace Confined

variable {Q : α → Prop} {R : β → Prop}

theorem pure {a : α} (h : Q a) : (Pure.pure a : Call α).Confined p Q := fun b hb => by
  cases hb
  exact h

theorem throw {error : ServiceError} : (throw error : Call α).Confined p Q := nofun

/-- **One call after the other.** -/
theorem bind {call : Call α} {f : α → Call β} (h : call.Confined p Q)
    (hf : ∀ a, Q a → (f a).Confined p R) : (call >>= f).Confined p R := by
  refine Program.Confined.bind h fun result hQ => ?_
  cases result with
  | ok a => exact hf a (hQ a rfl)
  | error error => exact nofun

/-- A call whose failure is looked at. -/
theorem caught {call : Call α} (h : call.Confined p Q) :
    Call.Confined p (fun result => ∀ a, result = .ok a → Q a) (ExceptT.lift call.run) :=
  Program.Confined.bind h fun result hQ result' hresult => by
    cases hresult
    exact hQ

/-- One request. -/
theorem request {r : HostRequest} (hr : r.About p) :
    Call.Confined p (r.Proper p) (ExceptT.lift (Program.request (I := Host) r)) :=
  ⟨hr, fun answer hproper a ha => by
    cases ha
    exact hproper⟩

/-- A request to the store whose failure ends the call. -/
theorem demand {r : StoreRequest} (hr : HostRequest.About p (.store r)) :
    (Call.demand r).Confined p fun result => HostRequest.Proper p (.store r) (.ok result) :=
  bind (request hr) fun answer hproper => by
    cases answer with
    | ok result => exact pure hproper
    | error error => exact throw

theorem now : Call.now.Confined p fun _ => True := request (r := .now) trivial

theorem log (record : LogRecord) : (Call.log record).Confined p fun _ => True :=
  request (r := .log record) trivial

/-- A rule that is obeyed, or else there is nothing left to do. -/
theorem obey (x : Except Refusal α) : (Call.obey x).Confined p fun a => x = .ok a := by
  cases x with
  | ok a => exact pure rfl
  | error refusal => exact throw

theorem orAbort (x : Option α) : (Call.orAbort x).Confined p fun a => x = some a := by
  cases x with
  | some a => exact pure rfl
  | none => exact trivial

theorem insist {call : Call Bool} {otherwise : ServiceError} {Q : Bool → Prop}
    (h : call.Confined p Q) : (Call.insist call otherwise).Confined p fun _ => True :=
  bind h fun held _ => by
    cases held with
    | true => exact pure trivial
    | false => exact throw

theorem inUnit {component : String} {body : Call α} (h : body.Confined p Q) :
    (Call.inUnit component body).Confined p Q := by
  refine bind (demand (r := .begin) trivial) fun _ _ => bind h.caught fun result hresult => ?_
  cases result with
  | ok a => exact bind (demand (r := .commit) trivial) fun _ _ => pure (hresult a rfl)
  | error cause =>
    refine bind (Q := fun _ => True)
      (bind (request (r := .store .rollback) trivial) fun answer _ => ?_) fun _ _ => throw
    cases answer with
    | ok _ => exact pure trivial
    | error failure => exact log _

end Confined

end Call

end Stockroom
