/-!
# Program — calls that ask their surroundings

A `Program` is a call written down as data: it is done, it is aborted, or it makes one request and
goes on with the answer.  An `Interface` says which requests there are and what answers they get.
The same program can be run against any surroundings: step by step between the steps of others,
against answers made up in advance, or by way of another interface (`Program.through`).
-/

namespace Stockroom

/-- Requests, and the type of the answer to each. -/
structure Interface where
  Request : Type
  Answer : Request → Type

/-- A call that makes requests of an interface and ends with a value of `α`, unless it is aborted. -/
inductive Program (I : Interface) (α : Type) : Type where
  | done (value : α)
  | abort
  | ask (request : I.Request) (next : I.Answer request → Program I α)

namespace Program

variable {I J : Interface} {α β γ : Type}

/-- Goes on with `next` once the program is done. -/
def bind : Program I α → (α → Program I β) → Program I β
  | done value, next => next value
  | abort, _ => abort
  | ask request rest, next => ask request fun answer => (rest answer).bind next

instance : Monad (Program I) where
  pure := done
  bind := bind

@[simp] theorem pure_eq (value : α) : (pure value : Program I α) = done value := rfl

@[simp] theorem done_bind (value : α) (next : α → Program I β) :
    done value >>= next = next value := rfl

@[simp] theorem abort_bind (next : α → Program I β) : abort >>= next = (abort : Program I β) := rfl

@[simp] theorem ask_bind (request : I.Request) (rest : I.Answer request → Program I α)
    (next : α → Program I β) :
    ask request rest >>= next = ask request fun answer => rest answer >>= next := rfl

theorem bind_done (p : Program I α) : p >>= done = p := by
  induction p with
  | done => rfl
  | abort => rfl
  | ask request rest ih => exact congrArg (ask request) (funext ih)

theorem bind_assoc (p : Program I α) (f : α → Program I β) (g : β → Program I γ) :
    p >>= f >>= g = p >>= fun a => f a >>= g := by
  induction p with
  | done => rfl
  | abort => rfl
  | ask request rest ih => exact congrArg (ask request) (funext ih)

instance : LawfulMonad (Program I) := .mk' _ bind_done (fun _ _ => rfl) bind_assoc

/-- The program that makes one request and is done with its answer. -/
def request (r : I.Request) : Program I (I.Answer r) := ask r done

/-- A value that may be missing; where it is missing the program is aborted. -/
def ofOption : Option α → Program I α
  | some value => done value
  | none => abort

/-- **The program over another interface**: every request is replaced by a program that answers it. -/
def through (handler : (r : I.Request) → Program J (I.Answer r)) :
    Program I α → Program J α
  | done value => done value
  | abort => abort
  | ask r next => handler r >>= fun answer => (next answer).through handler

end Program

end Stockroom
