import Stockroom.Proofs.Crowd.Alone

/-!
# Proofs/Crowd/Responds — programs that end with an answer

A program is aborted where a moment is asked for that the calendar does not reach, and so it depends on what
the clock says whether it ends with an answer.  **`Program.Answers clock k` is that a program never aborts**,
whatever the store answers, while the clock is read from its reading `k` on.  A program that answers does so
alone on every store (`Program.Answers.alone`).

`Responds` is the same of a call, or of anything else that may end with an error; its rules follow the
building blocks of the calls.
-/

namespace Stockroom

open Store

variable {ε α β : Type} {clock : Nat → Instant} {k : Nat}

/-! ## Programs -/

namespace Program

/-- **A program that is never aborted** while the clock is read from its reading `k` on. -/
def Answers (clock : Nat → Instant) : Nat → Program Host α → Prop
  | _, done _ => True
  | _, abort => False
  | k, ask .now next => (next (clock k)).Answers clock (k + 1)
  | k, ask (.store _) next | k, ask .freshId next => ∀ answer, (next answer).Answers clock k
  | k, ask (.log _) next | k, ask (.sleep _) next => (next ()).Answers clock k

namespace Answers

theorem bind {p : Program Host α} {f : α → Program Host β} (h : p.Answers clock k)
    (hf : ∀ a k, (f a).Answers clock k) : (p >>= f).Answers clock k := by
  induction p generalizing k with
  | done a => exact hf a k
  | abort => exact h.elim
  | ask request next ih =>
    cases request with
    | now => exact ih _ h
    | store r => exact fun answer => ih answer (h answer)
    | freshId => exact fun answer => ih answer (h answer)
    | log record => exact ih () h
    | sleep millis => exact ih () h

/-- **Alone on a store, such a program ends with an answer.** -/
theorem alone {p : Program Host α} {d : Desk} {s : Store}
    (h : p.Answers d.tape.clock d.tape.readings) : ∃ a d' s', p.alone d s = some (a, d', s') := by
  induction p generalizing d s with
  | done a => exact ⟨a, d, s, rfl⟩
  | abort => exact h.elim
  | ask request next ih =>
    cases request with
    | now => exact ih _ h
    | store r => exact ih _ (h _)
    | freshId => exact ih _ (h _)
    | log record => exact ih _ h
    | sleep millis => exact ih _ h

end Answers

end Program

/-! ## Calls -/

/-- **A call that ends with a value or an error.** -/
structure Responds (clock : Nat → Instant) (k : Nat) (p : ExceptT ε (Program Host) α) : Prop where
  answers : p.run.Answers clock k

namespace Responds

theorem pure (a : α) : Responds clock k (Pure.pure a : ExceptT ε (Program Host) α) := ⟨trivial⟩

theorem throw (error : ε) : Responds clock k (MonadExcept.throw error : ExceptT ε (Program Host) α) :=
  ⟨trivial⟩

theorem bind {p : ExceptT ε (Program Host) α} {f : α → ExceptT ε (Program Host) β}
    (h : Responds clock k p) (hf : ∀ a k, Responds clock k (f a)) : Responds clock k (p >>= f) :=
  ⟨Program.Answers.bind h.answers fun result k => by
    cases result with
    | ok a => exact (hf a k).answers
    | error error => exact trivial⟩

theorem caught {p : Call α} (h : Responds clock k p) :
    Responds clock k (ExceptT.lift p.run : Call _) :=
  ⟨Program.Answers.bind h.answers fun _ _ => trivial⟩

/-! ### The clock -/

/-- The clock is read once. -/
theorem now_bind {f : Instant → Call α} (hf : Responds clock (k + 1) (f (clock k))) :
    Responds clock k (Call.now >>= f) := ⟨hf.answers⟩

theorem now : Responds clock k Call.now := ⟨trivial⟩

/-- A request to the store does not read it. -/
theorem demand_bind {r : StoreRequest} {f : r.Result → Call α} (hf : ∀ result, Responds clock k (f result)) :
    Responds clock k (Call.demand r >>= f) := ⟨fun answer => by
  cases answer with
  | ok result => exact (hf result).answers
  | error error => exact trivial⟩

theorem demand (r : StoreRequest) : Responds clock k (Call.demand r) := ⟨fun answer => by
  cases answer <;> exact trivial⟩

theorem attempt (r : StoreRequest) : Responds clock k (Call.attempt r) := ⟨fun _ => trivial⟩

theorem freshId : Responds clock k Call.freshId := ⟨fun _ => trivial⟩

theorem log (record : LogRecord) : Responds clock k (Call.log record) := ⟨trivial⟩

theorem sleep (millis : Nat) : Responds clock k (Call.sleep millis) := ⟨trivial⟩

/-! ### Rules and loops -/

theorem obey (x : Except Refusal α) : Responds clock k (Call.obey x) := by
  cases x with
  | ok a => exact pure a
  | error refusal => exact throw _

theorem orAbort {x : Option α} (h : x.isSome) : Responds clock k (Call.orAbort x) := by
  obtain ⟨a, rfl⟩ := Option.isSome_iff_exists.mp h
  exact pure a

theorem insist {p : Call Bool} {otherwise : ServiceError} (h : Responds clock k p) :
    Responds clock k (Call.insist p otherwise) :=
  bind h fun held _ => by
    cases held with
    | true => exact pure ()
    | false => exact throw otherwise

theorem mapM {f : β → Call α} (hf : ∀ b k, Responds clock k (f b)) (bs : List β) :
    Responds clock k (bs.mapM f) := by
  induction bs generalizing k with
  | nil => exact pure []
  | cons b bs ih =>
    rw [List.mapM_cons]
    exact bind (hf b k) fun _ _ => bind ih fun _ _ => pure _

theorem forM {f : β → Call PUnit} (hf : ∀ b k, Responds clock k (f b)) (bs : List β) :
    Responds clock k (bs.forM f) := by
  induction bs generalizing k with
  | nil => exact pure _
  | cons b bs ih => exact bind (hf b k) fun _ _ => ih

theorem rollBack {component : String} {cause : ServiceError} :
    Responds clock k (Call.rollBack component cause) :=
  bind (attempt .rollback) fun answer _ => by
    cases answer with
    | ok _ => exact pure ()
    | error failure => exact log _

/-- **A unit of work ends with an answer if its body does.** -/
theorem inUnit {component : String} {body : Call α} (h : Responds clock k body) :
    Responds clock k (Call.inUnit component body) :=
  demand_bind fun _ => bind h.caught fun result _ => by
    cases result with
    | ok a => exact bind (demand .commit) fun _ _ => pure a
    | error cause => exact bind rollBack fun _ _ => throw cause

end Responds

end Stockroom
