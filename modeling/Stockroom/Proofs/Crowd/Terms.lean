import Stockroom.Proofs.Crowd.Assured
import Stockroom.Proofs.Store.Stage
import Stockroom.Service.Stock

/-!
# Proofs/Crowd/Terms — programs that work on other terms

`Program.Assured` is about stores that grew out of nothing.  Here both sides of the bargain are
parameters: `Terms` says what a program may rely on while it waits, and what it owes at every
request.  **`Program.Meets T Q p d s` is that `p` keeps to its terms and ends with `Q`**; a call has a
second postcondition for its errors.

`Program.EndsWithin` bounds how often a program asks, whatever it is answered.
-/

namespace Stockroom

open Store

/-- **What a program relies on, and what it owes.** -/
structure Terms where
  /-- How the store may change while the program waits. -/
  rely : Store → Store → Prop
  refl : ∀ s, rely s s
  trans : ∀ {s s' s''}, rely s s' → rely s' s'' → rely s s''
  /-- What has to hold of every request when it is answered. -/
  owes : Desk → HostRequest → Store → Prop
  /-- Whether the program may be aborted. -/
  mayAbort : Prop

/-- Terms that allow every request which leaves the store alone. -/
def Terms.Lenient (T : Terms) : Prop :=
  ∀ (d : Desk) (request : HostRequest) (s : Store), (d.answer s request).2.2 = s →
    T.owes d request s

/-- Terms that rely on nothing: whatever others do, this is what every request satisfies. -/
def Terms.always (owes : Desk → HostRequest → Store → Prop) : Terms where
  rely _ _ := True
  refl _ := trivial
  trans _ _ := trivial
  owes := owes
  mayAbort := True

variable {T : Terms} {α β : Type}

namespace Program

/-- **The program keeps to its terms**, and `Q` holds when it is done. -/
def Meets (T : Terms) (Q : α → Desk → Store → Prop) : Program Host α → Desk → Store → Prop
  | done a, d, s => ∀ s', T.rely s s' → Q a d s'
  | abort, _, _ => T.mayAbort
  | ask request next, d, s => ∀ s', T.rely s s' → T.owes d request s' ∧
      (next (d.answer s' request).1).Meets T Q (d.answer s' request).2.1
        (d.answer s' request).2.2

namespace Meets

variable {Q : α → Desk → Store → Prop} {R : β → Desk → Store → Prop} {d : Desk} {s s' : Store}

theorem later {p : Program Host α} (h : p.Meets T Q d s) (hs : T.rely s s') :
    p.Meets T Q d s' := by
  cases p with
  | done a => exact fun s'' hs' => h s'' (T.trans hs hs')
  | abort => exact h
  | ask request next => exact fun s'' hs' => h s'' (T.trans hs hs')

/-- **One program after the other.** -/
theorem bind {p : Program Host α} {f : α → Program Host β} (h : p.Meets T Q d s)
    (hf : ∀ a d' s', (∀ s'', T.rely s' s'' → Q a d' s'') → (f a).Meets T R d' s') :
    (p >>= f).Meets T R d s := by
  induction p generalizing d s with
  | done a => exact hf a d s h
  | abort => exact h
  | ask request next ih => exact fun s' hs => ⟨(h s' hs).1, ih _ (h s' hs).2⟩

theorem mono {Q' : α → Desk → Store → Prop} {p : Program Host α} (h : p.Meets T Q d s)
    (hQ : ∀ a d s, Q a d s → Q' a d s) : p.Meets T Q' d s := by
  induction p generalizing d s with
  | done a => exact fun s' hs => hQ a d s' (h s' hs)
  | abort => exact h
  | ask request next ih => exact fun s' hs => ⟨(h s' hs).1, ih _ (h s' hs).2⟩

/-- Every program keeps to terms that ask nothing. -/
theorem trivially {owes : Desk → HostRequest → Store → Prop} (howes : ∀ d r s, owes d r s)
    (hQ : ∀ a d s, Q a d s) (p : Program Host α) : p.Meets (.always owes) Q d s := by
  induction p generalizing d s with
  | done a => exact fun s' _ => hQ a d s'
  | abort => exact trivial
  | ask request next ih => exact fun s' _ => ⟨howes d request s', ih _⟩

end Meets

/-! ## The number of requests -/

section EndsWithin

variable {I : Interface}

/-- **The program asks at most so many times**, whatever it is answered. -/
def EndsWithin : Nat → Program I α → Prop
  | _, done _ | _, abort => True
  | 0, ask _ _ => False
  | n + 1, ask _ next => ∀ answer, (next answer).EndsWithin n

theorem endsWithin_done (n : Nat) (a : α) : (done a : Program I α).EndsWithin n := by
  cases n <;> exact trivial

theorem endsWithin_abort (n : Nat) : (abort : Program I α).EndsWithin n := by
  cases n <;> exact trivial

theorem EndsWithin.mono {p : Program I α} {m n : Nat} (h : p.EndsWithin m) (hmn : m ≤ n) :
    p.EndsWithin n := by
  induction p generalizing m n with
  | done a => exact endsWithin_done n a
  | abort => exact endsWithin_abort n
  | ask request next ih =>
    obtain _ | m := m
    · exact h.elim
    obtain _ | n := n
    · omega
    exact fun answer => ih answer (h answer) (by omega)

/-- The requests of two programs, one after the other, add up. -/
theorem EndsWithin.bind {p : Program I α} {f : α → Program I β} {m n : Nat}
    (h : p.EndsWithin m) (hf : ∀ a, (f a).EndsWithin n) : (p >>= f).EndsWithin (m + n) := by
  induction p generalizing m with
  | done a => exact (hf a).mono (by omega)
  | abort => exact endsWithin_abort _
  | ask request next ih =>
    obtain _ | m := m
    · exact h.elim
    rw [Nat.succ_add]
    exact fun answer => ih answer (h answer)

end EndsWithin

end Program

/-! ## Calls -/

theorem Desk.answer_store {d : Desk} {s : Store} {r : StoreRequest}
    {answer : Except StoreError r.Result} {session : Session}
    (h : Session.answer ⟨s, d.unit⟩ r = (answer, session)) :
    d.answer s (.store r) = (answer, d.after r s session, session.store) := by
  rw [Desk.answer, h]
  rfl

/-- What a request has done is told by the trail. -/
theorem Desk.mem_after (d : Desk) (r : StoreRequest) (s : Store) (session : Session) :
    ⟨r, s, session.store⟩ ∈ (d.after r s session).trail :=
  List.mem_append_right _ (List.mem_singleton_self _)

theorem Desk.forall_after {d : Desk} {r : StoreRequest} {s : Store} {session : Session}
    {P : Deed → Prop} (h : ∀ deed ∈ d.trail, P deed) (hnow : P ⟨r, s, session.store⟩) :
    ∀ deed ∈ (d.after r s session).trail, P deed := fun deed hdeed => by
  rcases List.mem_append.mp hdeed with hdeed | hdeed
  · exact h deed hdeed
  · exact List.mem_singleton.mp hdeed ▸ hnow

namespace Call

/-- What holds when a call ends: `Q` for a value, `E` for an error. -/
def Post (Q : α → Desk → Store → Prop) (E : ServiceError → Desk → Store → Prop) :
    Except ServiceError α → Desk → Store → Prop
  | .ok a => Q a
  | .error error => E error

/-- **A call that keeps to its terms**, and ends with a value for which `Q` holds or an error for which
`E` does. -/
def Meets (T : Terms) (Q : α → Desk → Store → Prop) (E : ServiceError → Desk → Store → Prop)
    (p : Call α) (d : Desk) (s : Store) : Prop :=
  p.run.Meets T (Post Q E) d s

namespace Meets

variable {Q : α → Desk → Store → Prop} {R : β → Desk → Store → Prop}
  {E : ServiceError → Desk → Store → Prop} {d : Desk} {s : Store}

theorem pure {a : α} (h : ∀ s', T.rely s s' → Q a d s') :
    (Pure.pure a : Call α).Meets T Q E d s := h

theorem throw {error : ServiceError} (h : ∀ s', T.rely s s' → E error d s') :
    (throw error : Call α).Meets T Q E d s := h

/-- **One call after the other.** -/
theorem bind {p : Call α} {f : α → Call β} (h : p.Meets T Q E d s)
    (hf : ∀ a d' s', (∀ s'', T.rely s' s'' → Q a d' s'') → (f a).Meets T R E d' s') :
    (p >>= f).Meets T R E d s := by
  refine Program.Meets.bind h fun result d' s' hQ => ?_
  cases result with
  | ok a => exact hf a d' s' hQ
  | error error => exact hQ

/-- One call after the other, where what the first ends with is known of the present store. -/
theorem seq {p : Call α} {f : α → Call β} (h : p.Meets T Q E d s)
    (hf : ∀ a d' s', Q a d' s' → (f a).Meets T R E d' s') : (p >>= f).Meets T R E d s :=
  h.bind fun a d' s' hQ => hf a d' s' (hQ s' (T.refl s'))

/-- A call whose failure is looked at. -/
theorem caught {p : Call α} {E' : ServiceError → Desk → Store → Prop} (h : p.Meets T Q E d s) :
    Call.Meets T (Post Q E) E' (ExceptT.lift p.run) d s :=
  Program.Meets.bind h fun _ _ _ hQ => hQ

/-- One request. -/
theorem request {r : HostRequest} {Q : r.Answer → Desk → Store → Prop}
    (h : ∀ s', T.rely s s' → T.owes d r s' ∧ ∀ s'', T.rely (d.answer s' r).2.2 s'' →
      Q (d.answer s' r).1 (d.answer s' r).2.1 s'') :
    Call.Meets T Q E (ExceptT.lift (Program.request (I := Host) r)) d s := h

/-- A request to the store whose failure is looked at. -/
theorem attempt {r : StoreRequest} {Q : Except StoreError r.Result → Desk → Store → Prop}
    (h : ∀ s', T.rely s s' → T.owes d (.store r) s' ∧ ∃ answer session,
      Session.answer ⟨s', d.unit⟩ r = (answer, session) ∧
        ∀ s'', T.rely session.store s'' → Q answer (d.after r s' session) s'') :
    (Call.attempt r).Meets T Q E d s := by
  refine request (r := .store r) fun s' hs => ⟨(h s' hs).1, ?_⟩
  obtain ⟨answer, session, heq, hQ⟩ := (h s' hs).2
  rw [Desk.answer_store heq]
  exact hQ

/-- **A request to the store whose failure ends the call.** -/
theorem demand {r : StoreRequest} {Q : r.Result → Desk → Store → Prop}
    (h : ∀ s', T.rely s s' → T.owes d (.store r) s' ∧ ∃ answer session,
      Session.answer ⟨s', d.unit⟩ r = (answer, session) ∧ ∀ s'', T.rely session.store s'' →
        Post Q E (answer.mapError ServiceError.ofStore) (d.after r s' session) s'') :
    (Call.demand r).Meets T Q E d s := by
  refine bind (attempt (Q := fun answer => Post Q E (answer.mapError ServiceError.ofStore)) h)
    fun answer d' s' hQ => ?_
  cases answer with
  | ok result => exact pure hQ
  | error error => exact throw hQ

/-- A rule that is obeyed, or else is the error. -/
theorem obey_bind {x : Except Refusal α} {f : α → Call β}
    (hok : ∀ a, x = .ok a → (f a).Meets T R E d s)
    (herror : ∀ refusal, x = .error refusal → ∀ s', T.rely s s' → E (.refused refusal) d s') :
    (Call.obey x >>= f).Meets T R E d s := by
  cases x with
  | ok a => exact hok a rfl
  | error refusal => exact herror refusal rfl

theorem insist {p : Call Bool} {otherwise : ServiceError} {Q : Unit → Desk → Store → Prop}
    (h : p.Meets T (fun held d s => if held then Q () d s else E otherwise d s) E d s) :
    (Call.insist p otherwise).Meets T Q E d s := by
  refine h.bind fun held d' s' hQ => ?_
  cases held with
  | true => exact pure hQ
  | false => exact throw hQ

/-! ### Requests that leave the store alone -/

section Lenient

variable {u : UnitOfWork}

theorem quietly (hT : T.Lenient) {r : StoreRequest} {Q : r.Result → Desk → Store → Prop}
    (h : ∀ s', T.rely s s' → ∃ answer unit, Session.answer ⟨s', d.unit⟩ r = (answer, ⟨s', unit⟩) ∧
      ∀ s'', T.rely s' s'' →
        Post Q E (answer.mapError ServiceError.ofStore) (d.after r s' ⟨s', unit⟩) s'') :
    (Call.demand r).Meets T Q E d s := by
  refine demand fun s' hs => ?_
  obtain ⟨answer, unit, heq, hQ⟩ := h s' hs
  refine ⟨hT d _ s' ?_, answer, _, heq, hQ⟩
  rw [Desk.answer_store heq]

theorem begin (hT : T.Lenient) :
    (Call.demand .begin).Meets T (fun _ d' s' => d'.tape = d.tape ∧ ∃ s₁, T.rely s s₁ ∧
      T.rely s₁ s' ∧ d'.unit = some (.start s₁.committed) ∧ ⟨.begin, s₁, s₁⟩ ∈ d'.trail) E d s :=
  demand fun s' hs => ⟨hT d _ s' rfl, _, _, rfl, fun _ hs' =>
    ⟨rfl, s', hs, hs', rfl, Desk.mem_after ..⟩⟩

theorem now (hT : T.Lenient) :
    Call.now.Meets T (fun now d' s' => now = d.tape.time ∧ d'.unit = d.unit ∧
      d'.trail = d.trail ∧ T.rely s s') E d s :=
  request fun s' hs => ⟨hT d _ s' rfl, fun _ hs' => ⟨rfl, rfl, rfl, T.trans hs hs'⟩⟩

theorem log (hT : T.Lenient) (record : LogRecord) :
    (Call.log record).Meets T (fun _ d' s' => d' = d ∧ T.rely s s') E d s :=
  request fun s' hs => ⟨hT d _ s' rfl, fun _ hs' => ⟨rfl, T.trans hs hs'⟩⟩

theorem loadStock (hT : T.Lenient) (hunit : d.unit = some u) {product : ProductId}
    (hnone : u.working.liveStock? product = none → ∀ d' s', d.trail ⊆ d'.trail → T.rely s s' →
      E (.notFound (.stock product)) d' s') :
    (StockService.loadStock product).Meets T (fun current d' s' =>
      u.working.liveStock? product = some current ∧ d'.unit = some u ∧ d.trail ⊆ d'.trail ∧
        T.rely s s') E d s := by
  refine bind (Q := fun found d' s' => u.working.liveStock? product = found ∧ d'.unit = some u ∧
    d.trail ⊆ d'.trail ∧ T.rely s s') (quietly hT fun s' hs => ?_) fun found d' s' h => ?_
  · refine ⟨.ok (u.working.liveStock? product), some u, ?_, fun s'' hs' =>
      ⟨rfl, rfl, List.subset_append_left .., T.trans hs hs'⟩⟩
    rw [hunit]
    rfl
  · cases found with
    | some current => exact pure h
    | none => exact throw fun s'' hs => hnone (h s'' hs).1 d' s'' (h s'' hs).2.2.1 (h s'' hs).2.2.2

theorem appendEntry (hT : T.Lenient) (hunit : d.unit = some u) (entry : Entry) :
    (Call.within (.appendEntry entry)).Meets T (fun _ d' s' => d'.unit =
      some ⟨u.working.append entry, u.written, u.pending ++ [.appendEntry entry]⟩ ∧
        d.trail ⊆ d'.trail ∧ T.rely s s') E d s := by
  refine quietly hT fun s' hs => ?_
  rw [hunit]
  exact ⟨_, _, Session.stageUnit_some (UnitOfWork.stage_appendEntry u entry), fun s'' hs' =>
    ⟨rfl, List.subset_append_left .., T.trans hs hs'⟩⟩

/-- Rolling back cannot fail. -/
theorem rollBack (hT : T.Lenient) {component : String} {cause : ServiceError} :
    (Call.rollBack component cause).Meets T (fun _ d' s' => d.trail ⊆ d'.trail ∧ T.rely s s') E d s := by
  refine bind (Q := fun answer d' s' => answer = .ok () ∧ d.trail ⊆ d'.trail ∧ T.rely s s')
    (attempt fun s' hs => ⟨hT d _ s' rfl, _, _, rfl, fun _ hs' =>
      ⟨rfl, List.subset_append_left .., T.trans hs hs'⟩⟩) fun answer d' s' h => ?_
  obtain ⟨rfl, -⟩ := h s' (T.refl s')
  exact pure fun s'' hs => (h s'' hs).2

/-- **A call in a unit of work of its own**: its body begins on a fresh copy of the store, and then
either it commits or the error of the body is passed on. -/
theorem inUnit (hT : T.Lenient) {component : String} {body : Call α}
    {Q R : α → Desk → Store → Prop} (hbody : ∀ d' s' s₁, T.rely s s₁ → T.rely s₁ s' →
      d'.tape = d.tape → d'.unit = some (.start s₁.committed) → ⟨.begin, s₁, s₁⟩ ∈ d'.trail →
      body.Meets T Q E d' s')
    (hcommit : ∀ a d' s', Q a d' s' → (Call.demand .commit).Meets T (fun _ => R a) E d' s')
    (herror : ∀ cause d' d'' s' s'', E cause d' s' → d'.trail ⊆ d''.trail → T.rely s' s'' →
      E cause d'' s'') :
    (Call.inUnit component body).Meets T R E d s := by
  refine (begin hT).seq fun _ d' s' ⟨htape, s₁, hs₁, hs', hunit, hbegun⟩ => ?_
  refine (hbody d' s' s₁ hs₁ hs' htape hunit hbegun).caught.seq fun result d' s' hresult => ?_
  cases result with
  | ok a => exact (hcommit a d' s' hresult).bind fun _ _ _ hR => pure hR
  | error cause =>
    exact (rollBack hT).bind fun _ d'' s'' hs =>
      throw fun s''' hs' => herror cause d' d'' s' s''' hresult (hs s''' hs').1 (hs s''' hs').2

end Lenient

end Meets

/-! ### The number of requests -/

/-- A call that makes at most so many requests. -/
def EndsWithin (n : Nat) (p : Call α) : Prop := Program.EndsWithin n p.run

namespace EndsWithin

variable {m n : Nat}

theorem pure (a : α) : (Pure.pure a : Call α).EndsWithin n := Program.endsWithin_done n _

theorem throw (error : ServiceError) : (throw error : Call α).EndsWithin n :=
  Program.endsWithin_done n _

theorem bind {p : Call α} {f : α → Call β} (h : p.EndsWithin m) (hf : ∀ a, (f a).EndsWithin n) :
    (p >>= f).EndsWithin (m + n) :=
  Program.EndsWithin.bind h fun result => by
    cases result with
    | ok a => exact hf a
    | error error => exact Program.endsWithin_done n _

theorem caught {p : Call α} (h : p.EndsWithin n) :
    Call.EndsWithin n (ExceptT.lift p.run) :=
  Program.EndsWithin.bind (n := 0) h fun _ => Program.endsWithin_done 0 _

theorem request (r : HostRequest) :
    Call.EndsWithin 1 (ExceptT.lift (Program.request (I := Host) r)) :=
  fun _ => Program.endsWithin_done 0 _

theorem demand (r : StoreRequest) : (Call.demand r).EndsWithin 1 :=
  bind (m := 1) (n := 0) (request (.store r)) fun answer => by
    cases answer with
    | ok result => exact pure result
    | error error => exact throw _

theorem obey (x : Except Refusal α) : (Call.obey x).EndsWithin 0 := by
  cases x with
  | ok a => exact pure a
  | error refusal => exact throw _

theorem orAbort (x : Option α) : (Call.orAbort x).EndsWithin 0 := by
  cases x with
  | some a => exact pure a
  | none => exact Program.endsWithin_abort 0

theorem insist {p : Call Bool} (h : p.EndsWithin n) (otherwise : ServiceError) :
    (Call.insist p otherwise).EndsWithin n :=
  bind (n := 0) h fun held => by
    cases held with
    | true => exact pure ()
    | false => exact throw otherwise

/-- Opening, ending and rolling back a unit of work are three requests more, with the report of a
rollback that fails. -/
theorem inUnit {component : String} {body : Call α} (h : body.EndsWithin n) :
    (Call.inUnit component body).EndsWithin (1 + (n + 2)) := by
  refine (demand .begin).bind fun _ => h.caught.bind fun result => ?_
  cases result with
  | ok a => exact bind (m := 1) (n := 1) (demand .commit) fun _ => pure a
  | error cause =>
    refine bind (m := 2) (n := 0) (bind (m := 1) (n := 1) (request (.store .rollback)) ?_)
      fun _ => throw cause
    intro answer
    cases answer with
    | ok _ => exact pure ()
    | error failure => exact request _

end EndsWithin

end Call

end Stockroom
