import Stockroom.Rehearsal.Server

/-!
# Proofs/Sql/Perform — what a program does with the replies of a database

A server follows a script, so all scripts together are all that a database can reply.
`Access.Performs` is that a program ends with a value against a server, and what the server was sent on the
way; `Access.Aborts` is that it never ends.  Both follow the building blocks of the programs, over a client
with any format for times.

**A statement is sent as a whole or not at all**: its values are bound before anything else is asked.
-/

namespace Stockroom

open Rehearsal Sql

variable {α β κ : Type} {format : TimeFormat κ} {s s' s'' : Server} {operation : String}
  {statement : Statement}

theorem Rehearsal.Server.run_bind (format : TimeFormat κ) (p : Program Link α) (f : α → Program Link β)
    (s : Server) : Server.run format (p >>= f) s =
      match Server.run format p s with
      | (some a, s') => Server.run format (f a) s'
      | (none, s') => (none, s') := by
  induction p generalizing s with
  | done a => rfl
  | abort => rfl
  | ask request next ih => exact ih _ _

namespace Sql.Access

/-- **The program ends with a value**, and leaves the server so. -/
def Performs (p : Access α) (format : TimeFormat κ) (s : Server) (a : α) (s' : Server) : Prop :=
  Server.run format p.run s = (some (.ok a), s')

/-- The program is aborted, and leaves the server so. -/
def Aborts (p : Access α) (format : TimeFormat κ) (s s' : Server) : Prop :=
  Server.run format p.run s = (none, s')

namespace Performs

theorem pure {a : α} : (Pure.pure a : Access α).Performs format s a s := rfl

/-- What comes after a part that is known to end. -/
theorem bind_iff_of {p : Access α} {f : α → Access β} {a : α} {b : β} (h : p.Performs format s a s') :
    (p >>= f).Performs format s b s'' ↔ (f a).Performs format s' b s'' := by
  rw [Performs, show Server.run format (p >>= f).run s = _ from Server.run_bind format p.run _ s,
    show Server.run format p.run s = _ from h]
  rfl

/-- **One program after the other.** -/
theorem bind {p : Access α} {f : α → Access β} {a : α} {b : β} (h : p.Performs format s a s')
    (hf : (f a).Performs format s' b s'') : (p >>= f).Performs format s b s'' := (bind_iff_of h).mpr hf

/-- The client tells whether it can bind the values of a statement. -/
theorem bound (statement : Statement) :
    Performs (ExceptT.lift (Program.request (I := Link) (.bind statement))) format s
      (statement.isAdmitted format) s := rfl

theorem prepare (h : statement.isAdmitted format = true) :
    (Access.prepare statement).Performs format s () s := by
  refine (bound statement).bind ?_
  rw [h]
  exact pure

/-- A request that is answered. -/
theorem step {reply : Program Link (Except Failure α)} {a : α}
    (h : Server.run format reply s = (some (.ok a), s')) :
    (Access.step operation reply).Performs format s a s' := by
  have hreply : Performs (ExceptT.lift reply) format s (.ok a) s' := by
    refine (Server.run_bind format reply _ s).trans ?_
    rw [h]
    rfl
  exact hreply.bind pure

theorem connect (h : s.isClosed = false) : (Access.connect operation).Performs format s () s := by
  refine step ?_
  show (some (if s.isClosed = true then Except.error Failure.poolClosed else .ok ()), s) = _
  rw [h]
  rfl

/-- A statement that changes rows. -/
theorem execute {change : Sql.Change} {rest : List Reply} (h : statement.isAdmitted format = true)
    (hreplies : s.replies = .change change :: rest) :
    (Access.execute operation statement).Performs format s change (s.sent (.statement statement) rest) := by
  refine .bind (prepare h) (step ?_)
  show (some (s.execute statement).1, (s.execute statement).2) = _
  rw [Server.execute, hreplies]
  rfl

/-- A statement that finds rows. -/
theorem rows {found : List Row} {rest : List Reply} (h : statement.isAdmitted format = true)
    (hreplies : s.replies = .rows found :: rest) :
    (Access.rows operation statement).Performs format s (Server.aligned found)
      (s.sent (.statement statement) rest) := by
  refine .bind (prepare h) (step ?_)
  show (some (s.query statement).1, (s.query statement).2) = _
  rw [Server.query, hreplies]
  rfl

/-! ### What has happened when a program has ended -/

theorem pure_iff {a b : α} : (Pure.pure a : Access α).Performs format s b s' ↔ b = a ∧ s' = s := by
  rw [Performs, show Server.run format (Pure.pure a : Access α).run s = (some (.ok a), s) from rfl]
  simp [eq_comm]

theorem understand_iff {value : Except StoreError α} {a : α} :
    (Access.understand value).Performs format s a s' ↔ value = .ok a ∧ s' = s := by
  rw [Performs, show Server.run format (Access.understand value).run s = (some value, s) from rfl]
  simp [eq_comm]

/-- A program that has ended has ended with each of its parts. -/
theorem bind_iff {p : Access α} {f : α → Access β} {b : β} :
    (p >>= f).Performs format s b s'' ↔ ∃ a s', p.Performs format s a s' ∧ (f a).Performs format s' b s'' := by
  refine ⟨fun h => ?_, fun ⟨a, s', hp, hf⟩ => hp.bind hf⟩
  have h := (Server.run_bind format p.run _ s).symm.trans h
  rcases hp : Server.run format p.run s with ⟨_ | (_ | a), s'⟩
  · rw [hp] at h
    cases h
  · rw [hp] at h
    cases h
  · rw [hp] at h
    exact ⟨a, s', hp, h⟩

end Performs

namespace Aborts

/-- What comes after a program that is aborted is not run. -/
theorem bind {p : Access α} {f : α → Access β} (h : p.Aborts format s s') : (p >>= f).Aborts format s s' := by
  refine (Server.run_bind format p.run _ s).trans ?_
  rw [show Server.run format p.run s = _ from h]

/-- What is aborted after a part that ends. -/
theorem after {p : Access α} {f : α → Access β} {a : α} (h : p.Performs format s a s')
    (hf : (f a).Aborts format s' s'') : (p >>= f).Aborts format s s'' := by
  refine (Server.run_bind format p.run _ s).trans ?_
  rw [show Server.run format p.run s = _ from h]
  exact hf

/-- **A statement that cannot be bound is not sent.** -/
theorem prepare (h : statement.isAdmitted format = false) :
    (Access.prepare statement).Aborts format s s := by
  refine after (.bound statement) ?_
  rw [h]
  rfl

theorem execute (h : statement.isAdmitted format = false) :
    (Access.execute operation statement).Aborts format s s := (prepare h).bind

end Aborts

end Sql.Access

end Stockroom
