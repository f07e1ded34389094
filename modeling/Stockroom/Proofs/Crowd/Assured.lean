import Mathlib.Algebra.Ring.Nat
import Stockroom.Proofs.Crowd.Change

/-!
# Proofs/Crowd/Assured — what a program relies on, and what it promises

Between two requests of a program the others may change the store; all that it can rely on is that
the store is a later one, and that the counters of the store leave room (`Store.Admits`).
**`Program.Assured call Q p d s` is its promise in return**: whatever happens in the meantime, every
request of `p` leaves the store alone or is a `Change` of its call, and once `p` is done `Q` holds.

The promise is closed under later stores (`Assured.later`) and composes along `>>=` (`Assured.seq`),
so it is proved for each helper of the service once.
-/

namespace Stockroom

open Store

/-- **What the counters of a store leave to a unit of work**: its entries still fit into 63 bits, and
the numbers of its new orders were drawn and are not in use. -/
structure Store.Admits (s : Store) (writes : List Write) : Prop where
  room : s.committed.entries.length + writes.length < 2 ^ 63
  fresh : ∀ order, .insertOrder order ∈ writes →
    s.committed.order? order.id = none ∧ order.id.value < s.nextOrder

/-- The writes of the unit of work that is open at a desk. -/
def Desk.pending (d : Desk) : List Write := d.unit.elim [] UnitOfWork.pending

/-- The commits of a caller. -/
def Desk.commits (d : Desk) : List Deed := d.trail.filter fun deed => deed.request = .commit

/-- The desk after a request to the store was answered. -/
def Desk.after (d : Desk) (r : StoreRequest) (s : Store) (session : Session) : Desk :=
  ⟨session.unit, d.tape, d.trail ++ [⟨r, s, session.store⟩]⟩

variable {A : ServiceCall → Prop} {call : ServiceCall} {α β : Type}

/-! ## Programs -/

namespace Program

/-- **Every request of the program leaves the store alone or is a change of its call**, and `Q` holds
when it is done, however the others get ahead of it. -/
def Assured (A : ServiceCall → Prop) (call : ServiceCall) (Q : α → Desk → Store → Prop) :
    Program Host α → Desk → Store → Prop
  | done a, d, s => ∀ s', Later A s s' → Q a d s'
  | abort, _, _ => True
  | ask request next, d, s => ∀ s', Later A s s' → Reachable A s' → s'.Admits d.pending →
    ((d.answer s' request).2.2 = s' ∨ A call ∧ Change call s' (d.answer s' request).2.2) ∧
      (next (d.answer s' request).1).Assured A call Q (d.answer s' request).2.1
        (d.answer s' request).2.2

namespace Assured

variable {Q : α → Desk → Store → Prop} {R : β → Desk → Store → Prop} {d : Desk} {s s' : Store}

/-- **A promise stays good** while others change the store. -/
theorem later {p : Program Host α} (h : p.Assured A call Q d s) (hl : Later A s s') :
    p.Assured A call Q d s' := by
  cases p with
  | done a => exact fun s'' hl' => h s'' (hl.trans hl')
  | abort => exact trivial
  | ask request next => exact fun s'' hl' => h s'' (hl.trans hl')

/-- **One program after the other.**  What the first promises holds for as long as the second waits. -/
theorem bind {p : Program Host α} {f : α → Program Host β} (h : p.Assured A call Q d s)
    (hf : ∀ a d' s', Later A s s' → (∀ s'', Later A s' s'' → Q a d' s'') →
      (f a).Assured A call R d' s') : (p >>= f).Assured A call R d s := by
  induction p generalizing d s with
  | done a => exact hf a d s (.refl s) h
  | abort => exact trivial
  | ask request next ih =>
    intro s' hl hr hadmits
    obtain ⟨hstep, hnext⟩ := h s' hl hr hadmits
    refine ⟨hstep, ih _ hnext fun a d' s'' hl' hQ => hf a d' s'' (hl.trans ?_) hQ⟩
    rcases hstep with heq | ⟨hA, hchange⟩
    · exact heq ▸ hl'
    · exact (Later.single hA hchange).trans hl'

end Assured

end Program

/-! ## Calls -/

namespace Call

/-- **A call that keeps its promise**; `Q` is promised only if it ends with a value. -/
def Assured (A : ServiceCall → Prop) (call : ServiceCall) (Q : α → Desk → Store → Prop)
    (p : Call α) (d : Desk) (s : Store) : Prop :=
  p.run.Assured A call (fun result d s => ∀ a, result = .ok a → Q a d s) d s

namespace Assured

variable {Q : α → Desk → Store → Prop} {R : β → Desk → Store → Prop} {d : Desk} {s s' : Store}

theorem pure {a : α} (h : ∀ s', Later A s s' → Q a d s') :
    (Pure.pure a : Call α).Assured A call Q d s := fun s' hl b hb => by
  cases hb
  exact h s' hl

theorem throw {error : ServiceError} : (throw error : Call α).Assured A call Q d s :=
  fun _ _ _ h => nomatch h

/-- One call after the other; what the first promises holds for as long as the second waits. -/
theorem bind {p : Call α} {f : α → Call β} (h : p.Assured A call Q d s)
    (hf : ∀ a d' s', Later A s s' → (∀ s'', Later A s' s'' → Q a d' s'') →
      (f a).Assured A call R d' s') : (p >>= f).Assured A call R d s := by
  refine Program.Assured.bind h fun result d' s' hl hQ => ?_
  cases result with
  | ok a => exact hf a d' s' hl fun s'' hl' => hQ s'' hl' a rfl
  | error error => exact fun _ _ _ h => nomatch h

/-- **One call after the other.** -/
theorem seq {p : Call α} {f : α → Call β} (h : p.Assured A call Q d s)
    (hf : ∀ a d' s', Later A s s' → Q a d' s' → (f a).Assured A call R d' s') :
    (p >>= f).Assured A call R d s :=
  h.bind fun a d' s' hl hQ => hf a d' s' hl (hQ s' (.refl s'))

theorem mono {Q' : α → Desk → Store → Prop} {p : Call α} (h : p.Assured A call Q d s)
    (hQ : ∀ a d' s', Later A s s' → Q a d' s' → Q' a d' s') : p.Assured A call Q' d s := by
  have := h.bind (f := Pure.pure) fun a d' s' hl hQ' =>
    pure (Q := Q') fun s'' hl' => hQ a d' s'' (hl.trans hl') (hQ' s'' hl')
  rwa [bind_pure] at this

/-- A call whose failure is looked at. -/
theorem caught {p : Call α} (h : p.Assured A call Q d s) :
    Call.Assured A call (fun result d s => ∀ a, result = .ok a → Q a d s) (ExceptT.lift p.run)
      d s :=
  Program.Assured.bind h fun _ _ _ _ hQ s'' hl' _ hb => by
    cases hb
    exact hQ s'' hl'

/-- One request. -/
theorem request {r : HostRequest} {Q : r.Answer → Desk → Store → Prop}
    (h : ∀ s', Later A s s' → Reachable A s' → s'.Admits d.pending →
      ((d.answer s' r).2.2 = s' ∨ A call ∧ Change call s' (d.answer s' r).2.2) ∧
        ∀ s'', Later A (d.answer s' r).2.2 s'' → Q (d.answer s' r).1 (d.answer s' r).2.1 s'') :
    Call.Assured A call Q (ExceptT.lift (Program.request (I := Host) r)) d s :=
  fun s' hl hr hadmits => ⟨(h s' hl hr hadmits).1, fun s'' hl' _ hb => by
    cases hb
    exact (h s' hl hr hadmits).2 s'' hl'⟩

/-- A request to the store whose failure is looked at. -/
theorem attempt {r : StoreRequest} {Q : Except StoreError r.Result → Desk → Store → Prop}
    (h : ∀ s', Later A s s' → Reachable A s' → s'.Admits d.pending →
      ∃ answer session, Session.answer ⟨s', d.unit⟩ r = (answer, session) ∧
        (session.store = s' ∨ A call ∧ Change call s' session.store) ∧
        ∀ s'', Later A session.store s'' → Q answer (d.after r s' session) s'') :
    (Call.attempt r).Assured A call Q d s := by
  refine request (r := .store r) fun s' hl hr hadmits => ?_
  obtain ⟨answer, session, heq, hstep, hQ⟩ := h s' hl hr hadmits
  have hdesk : d.answer s' (.store r) = (answer, d.after r s' session, session.store) := by
    rw [Desk.answer, heq]
    rfl
  rw [hdesk]
  exact ⟨hstep, hQ⟩

/-- A request to the store whose failure ends the call. -/
theorem demand {r : StoreRequest} {Q : r.Result → Desk → Store → Prop}
    (h : ∀ s', Later A s s' → Reachable A s' → s'.Admits d.pending →
      ∃ answer session, Session.answer ⟨s', d.unit⟩ r = (answer, session) ∧
        (session.store = s' ∨ A call ∧ Change call s' session.store) ∧
        ∀ result, answer = .ok result →
          ∀ s'', Later A session.store s'' → Q result (d.after r s' session) s'') :
    (Call.demand r).Assured A call Q d s := by
  refine bind (attempt (Q := fun answer d s => ∀ result, answer = .ok result → Q result d s) ?_)
    fun answer d' s' _ hQ => ?_
  · intro s' hl hr hadmits
    obtain ⟨answer, session, heq, hstep, hQ⟩ := h s' hl hr hadmits
    exact ⟨answer, session, heq, hstep, fun s'' hl' result hresult => hQ result hresult s'' hl'⟩
  cases answer with
  | ok result => exact pure fun s'' hl => hQ s'' hl result rfl
  | error error => exact throw

theorem obey {x : Except Refusal α} (h : ∀ a, x = .ok a → ∀ s', Later A s s' → Q a d s') :
    (Call.obey x).Assured A call Q d s := by
  cases x with
  | ok a => exact pure (h a rfl)
  | error refusal => exact throw

/-- After a rule that is obeyed, or else there is nothing to promise. -/
theorem obey_bind {x : Except Refusal α} {f : α → Call β}
    (h : ∀ a, x = .ok a → (f a).Assured A call R d s) :
    (Call.obey x >>= f).Assured A call R d s := by
  cases x with
  | ok a => exact h a rfl
  | error refusal => exact throw

theorem orAbort_bind {x : Option α} {f : α → Call β}
    (h : ∀ a, x = some a → (f a).Assured A call R d s) :
    (Call.orAbort x >>= f).Assured A call R d s := by
  cases x with
  | some a => exact h a rfl
  | none => exact trivial

theorem insist {p : Call Bool} {otherwise : ServiceError} {Q : Unit → Desk → Store → Prop}
    (h : p.Assured A call (fun held d s => held = true → Q () d s) d s) :
    (Call.insist p otherwise).Assured A call Q d s := by
  refine h.bind fun held d' s' _ hQ => ?_
  cases held with
  | true => exact pure fun s'' hl => hQ s'' hl rfl
  | false => exact throw

/-- A call for each of several things, if each answer is related to the thing that it is for. -/
theorem mapM {f : β → Call α} {P : β → α → Prop} {bs : List β}
    (hf : ∀ b d s, (f b).Assured A call (fun a _ _ => P b a) d s) :
    (bs.mapM f).Assured A call (fun as _ _ => List.Forall₂ P bs as) d s := by
  induction bs generalizing d s with
  | nil => exact pure fun _ _ => .nil
  | cons b bs ih =>
    rw [List.mapM_cons]
    exact (hf b d s).seq fun _ _ _ _ ha => ih.seq fun _ _ _ _ has => pure fun _ _ => .cons ha has

/-! ### Requests of which nothing is remembered -/

theorem forget {p : Call α} (h : p.Assured A call Q d s) :
    p.Assured A call (fun _ _ _ => True) d s :=
  h.mono fun _ _ _ _ _ => trivial

theorem andThen {p : Call α} {f : α → Call β} (h : p.Assured A call (fun _ _ _ => True) d s)
    (hf : ∀ a d s, (f a).Assured A call R d s) : (p >>= f).Assured A call R d s :=
  h.seq fun a d' s' _ _ => hf a d' s'

theorem done {a : α} : (Pure.pure a : Call α).Assured A call (fun _ _ _ => True) d s :=
  pure fun _ _ => trivial

/-- A request that is not for the store. -/
theorem idle {r : HostRequest} (h : ∀ d s, (Desk.answer d s r).2.2 = s) :
    Call.Assured A call (fun _ _ _ => True) (ExceptT.lift (Program.request (I := Host) r)) d s :=
  request fun _ _ _ _ => ⟨.inl (h _ _), fun _ _ => trivial⟩

/-- A request to the store that changes it as the call may. -/
theorem step {r : StoreRequest}
    (h : ∀ s unit, Reachable A s → (Session.answer ⟨s, unit⟩ r).2.store = s ∨
      A call ∧ Change call s (Session.answer ⟨s, unit⟩ r).2.store) :
    (Call.demand r).Assured A call (fun _ _ _ => True) d s :=
  demand fun s' _ hs _ => ⟨_, _, rfl, h s' d.unit hs, fun _ _ _ _ => trivial⟩

end Assured

end Call

end Stockroom
