import Stockroom.Service.Call

/-!
# Proofs/Dialogue/Exchange — what a program says and what it hears

An `Exchange` is one request with its answer, and a `Talk` is a list of them.  **`p.Says talk q` is that
`p` can hold this conversation, after which `q` is left of it**, whoever answers.  `Surroundings`
answer every request, possibly in view of everything said before, and `Program.converse` is the one
conversation that a program has with them (`Program.ends_converse`).
-/

namespace Stockroom

/-- A request, and what it was answered. -/
structure Exchange where
  request : HostRequest
  answer : request.Answer

/-- A conversation, from the first exchange to the last. -/
abbrev Talk := List Exchange

/-- Whoever answers requests, in view of the conversation so far. -/
abbrev Surroundings := Talk → (request : HostRequest) → request.Answer

namespace Program

variable {α β : Type}

/-- **After this conversation, this is left of the program.** -/
inductive Says : Program Host α → Talk → Program Host α → Prop where
  | nil (p : Program Host α) : p.Says [] p
  | ask {request : HostRequest} {next : request.Answer → Program Host α}
      {answer : request.Answer} {talk : Talk} {q : Program Host α} (h : (next answer).Says talk q) :
      (Program.ask request next).Says (⟨request, answer⟩ :: talk) q

namespace Says

variable {p q r : Program Host α} {f : α → Program Host β} {talk more : Talk}

theorem append (h : p.Says talk q) (h' : q.Says more r) : p.Says (talk ++ more) r := by
  induction h with
  | nil => exact h'
  | ask _ ih => exact (ih h').ask

/-- Nothing is said once the program is done. -/
theorem of_done {a : α} (h : (done a : Program Host α).Says talk q) : talk = [] ∧ q = done a := by
  cases h
  exact ⟨rfl, rfl⟩

theorem of_abort (h : (abort : Program Host α).Says talk q) : talk = [] ∧ q = abort := by
  cases h
  exact ⟨rfl, rfl⟩

theorem of_ask {request : HostRequest} {next : request.Answer → Program Host α}
    (h : (Program.ask request next : Program Host α).Says talk q) :
    (talk = [] ∧ q = .ask request next) ∨
      ∃ answer rest, talk = ⟨request, answer⟩ :: rest ∧ (next answer).Says rest q := by
  cases h with
  | nil => exact .inl ⟨rfl, rfl⟩
  | ask h => exact .inr ⟨_, _, rfl, h⟩

/-- **A conversation of two programs**, one after the other, is still with the first, or the first is
done and the rest of it is with the second. -/
theorem of_bind {q : Program Host β} (h : (p >>= f).Says talk q) :
    (∃ p', p.Says talk p' ∧ q = p' >>= f) ∨
      ∃ a before after, talk = before ++ after ∧ p.Says before (done a) ∧ (f a).Says after q := by
  induction p generalizing talk with
  | done a => exact .inr ⟨a, [], talk, rfl, .nil _, h⟩
  | abort =>
    obtain ⟨rfl, rfl⟩ := of_abort h
    exact .inl ⟨abort, .nil _, rfl⟩
  | ask request next ih =>
    cases h with
    | nil => exact .inl ⟨_, .nil _, rfl⟩
    | ask h =>
      rcases ih _ h with ⟨p', hp', rfl⟩ | ⟨a, before, after, rfl, hp, hf⟩
      · exact .inl ⟨p', hp'.ask, rfl⟩
      · exact .inr ⟨a, _ :: before, after, rfl, hp.ask, hf⟩

end Says

/-! ## Whole conversations -/

/-- How a program ends: with a value, or without an answer. -/
abbrev Ends (p : Program Host α) (talk : Talk) (outcome : Option α) : Prop :=
  p.Says talk (ofOption outcome)

namespace Ends

variable {p : Program Host α} {f : α → Program Host β} {talk : Talk} {a : α}

theorem of_done {outcome : Option α} (h : (done a : Program Host α).Ends talk outcome) :
    talk = [] ∧ outcome = some a := by
  obtain ⟨rfl, hq⟩ := Says.of_done h
  cases outcome with
  | none => cases hq
  | some b =>
    cases hq
    exact ⟨rfl, rfl⟩

theorem of_ask {request : HostRequest} {next : request.Answer → Program Host α}
    {outcome : Option α} (h : (Program.ask request next).Ends talk outcome) :
    ∃ answer rest, talk = ⟨request, answer⟩ :: rest ∧ (next answer).Ends rest outcome := by
  rcases Says.of_ask h with ⟨-, hq⟩ | hrest
  · cases outcome <;> cases hq
  · exact hrest

/-- **A whole conversation of two programs**: the first one was aborted, or it is done and the second one
holds the rest of the conversation. -/
theorem of_bind {outcome : Option β} (h : (p >>= f).Ends talk outcome) :
    (p.Ends talk none ∧ outcome = none) ∨
      ∃ a before after, talk = before ++ after ∧ p.Ends before (some a) ∧ (f a).Ends after outcome := by
  rcases Says.of_bind h with ⟨p', hp', hq⟩ | hsplit
  · cases p' with
    | done a =>
      refine .inr ⟨a, talk, [], (List.append_nil _).symm, hp', ?_⟩
      rw [Ends, hq]
      exact .nil _
    | abort =>
      refine .inl ⟨hp', ?_⟩
      cases outcome with
      | none => rfl
      | some b => cases hq
    | ask request next => cases outcome <;> cases hq
  · exact .inr hsplit

end Ends

/-- **The conversation of a program with its surroundings**, and how it ends. -/
def converse (surroundings : Surroundings) : Talk → Program Host α → Talk × Option α
  | _, done a => ([], some a)
  | _, abort => ([], none)
  | past, ask request next =>
    let exchange : Exchange := ⟨request, surroundings past request⟩
    let (talk, outcome) := converse surroundings (past ++ [exchange]) (next exchange.answer)
    (exchange :: talk, outcome)

theorem ends_converse (surroundings : Surroundings) (past : Talk) (p : Program Host α) :
    p.Ends (p.converse surroundings past).1 (p.converse surroundings past).2 := by
  induction p generalizing past with
  | done a => exact .nil _
  | abort => exact .nil _
  | ask request next ih => exact (ih _ _).ask

/-- Surroundings in which the store cannot be reached, and time stands still. -/
def unreachable : Surroundings := fun _ request =>
  match request with
  | .store _ => .error (.operationFailed "unreachable")
  | .now => ⟨0⟩
  | .freshId => ⟨0⟩
  | .log _ | .sleep _ => ()

/-- **Every conversation can be brought to an end.** -/
theorem Says.exists_ends {p q : Program Host α} {talk : Talk} (h : p.Says talk q) :
    ∃ more outcome, p.Ends (talk ++ more) outcome :=
  ⟨_, _, h.append (ends_converse unreachable [] q)⟩

end Program

/-! ## Conversations of calls -/

namespace Call

variable {α β : Type} {talk : Talk}

/-- How a call ends: with a value, with an error, or without an answer. -/
abbrev Ends (p : Call α) (talk : Talk) (outcome : Option (Except ServiceError α)) : Prop :=
  Program.Ends p.run talk outcome

namespace Ends

variable {p : Call α} {f : α → Call β}

theorem of_pure {a : α} {outcome : Option (Except ServiceError α)}
    (h : (pure a : Call α).Ends talk outcome) : talk = [] ∧ outcome = some (.ok a) :=
  Program.Ends.of_done h

theorem of_throw {error : ServiceError} {outcome : Option (Except ServiceError α)}
    (h : (throw error : Call α).Ends talk outcome) : talk = [] ∧ outcome = some (.error error) :=
  Program.Ends.of_done h

/-- **A whole conversation of two calls**: the first one did not return a value, or it did and the second
one holds the rest of the conversation. -/
theorem of_bind {outcome : Option (Except ServiceError β)} (h : (p >>= f).Ends talk outcome) :
    (p.Ends talk none ∧ outcome = none) ∨
    (∃ error, p.Ends talk (some (.error error)) ∧ outcome = some (.error error)) ∨
      ∃ a before after, talk = before ++ after ∧ p.Ends before (some (.ok a)) ∧
        (f a).Ends after outcome := by
  rcases Program.Ends.of_bind h with h | ⟨result, before, after, rfl, hp, hf⟩
  · exact .inl h
  cases result with
  | ok a => exact .inr (.inr ⟨a, before, after, rfl, hp, hf⟩)
  | error error =>
    obtain ⟨rfl, rfl⟩ := Program.Ends.of_done hf
    exact .inr (.inl ⟨error, by rwa [List.append_nil], rfl⟩)

/-- A request whose answer is looked at. -/
theorem of_request {r : HostRequest} {outcome : Option (Except ServiceError r.Answer)}
    (h : Call.Ends (ExceptT.lift (Program.request (I := Host) r)) talk outcome) :
    ∃ answer, talk = [⟨r, answer⟩] ∧ outcome = some (.ok answer) := by
  obtain ⟨answer, rest, rfl, hrest⟩ := Program.Ends.of_ask h
  obtain ⟨rfl, rfl⟩ := Program.Ends.of_done hrest
  exact ⟨answer, rfl, rfl⟩

theorem of_demand {r : StoreRequest} {outcome : Option (Except ServiceError r.Result)}
    (h : (demand r).Ends talk outcome) :
    ∃ answer : Except StoreError r.Result, talk = [⟨.store r, answer⟩] ∧
      outcome = some (answer.mapError ServiceError.ofStore) := by
  obtain ⟨answer, rest, rfl, hrest⟩ := Program.Ends.of_ask h
  cases answer with
  | ok result =>
    obtain ⟨rfl, rfl⟩ := Program.Ends.of_done hrest
    exact ⟨.ok result, rfl, rfl⟩
  | error failure =>
    obtain ⟨rfl, rfl⟩ := Program.Ends.of_done hrest
    exact ⟨.error failure, rfl, rfl⟩

/-- A call whose failure is looked at. -/
theorem of_caught {outcome : Option (Except ServiceError (Except ServiceError α))}
    (h : Call.Ends (ExceptT.lift p.run) talk outcome) :
    (p.Ends talk none ∧ outcome = none) ∨
      ∃ result, p.Ends talk (some result) ∧ outcome = some (.ok result) := by
  rcases Program.Ends.of_bind h with h | ⟨result, before, after, rfl, hp, hdone⟩
  · exact .inl h
  · obtain ⟨rfl, rfl⟩ := Program.Ends.of_done hdone
    exact .inr ⟨result, by rwa [List.append_nil], rfl⟩

end Ends

end Call

/-! ## Units of work -/

namespace Exchange

/-- The opening of a unit of work. -/
def begun (answer : Except StoreError Unit) : Exchange := ⟨.store .begin, answer⟩

def committed (answer : Except StoreError Unit) : Exchange := ⟨.store .commit, answer⟩

def rolledBack (answer : Except StoreError Unit) : Exchange := ⟨.store .rollback, answer⟩

/-- A log record, which is not answered. -/
def IsRecord (x : Exchange) : Prop := ∃ record, x.request = .log record

end Exchange

namespace Call

open Exchange

variable {α : Type} {component : String} {body : Call α}

/-- **The conversations of a unit of work**, by what its body ends with. -/
inductive UnitEnds (body : Call α) : Talk → Option (Except ServiceError α) → Prop where
  | unbegun {failure : StoreError} :
      body.UnitEnds [begun (.error failure)] (some (.error (.ofStore failure)))
  | aborted {said : Talk} (h : body.Ends said none) : body.UnitEnds (begun (.ok ()) :: said) none
  | committed {said : Talk} {a : α} (h : body.Ends said (some (.ok a))) :
      body.UnitEnds (begun (.ok ()) :: said ++ [.committed (.ok ())]) (some (.ok a))
  | uncommitted {said : Talk} {a : α} {failure : StoreError} (h : body.Ends said (some (.ok a))) :
      body.UnitEnds (begun (.ok ()) :: said ++ [.committed (.error failure)])
        (some (.error (.ofStore failure)))
  | rolledBack {said : Talk} {error : ServiceError} {answer : Except StoreError Unit} {after : Talk}
      (h : body.Ends said (some (.error error))) (records : ∀ x ∈ after, x.IsRecord) :
      body.UnitEnds (begun (.ok ()) :: said ++ .rolledBack answer :: after) (some (.error error))

theorem Ends.of_rollBack {cause : ServiceError} {talk : Talk}
    {outcome : Option (Except ServiceError Unit)} (h : (rollBack component cause).Ends talk outcome) :
    ∃ answer after, talk = .rolledBack answer :: after ∧ (∀ x ∈ after, x.IsRecord) ∧
      outcome = some (.ok ()) := by
  obtain ⟨answer, rest, rfl, hrest⟩ := Program.Ends.of_ask h
  refine ⟨answer, rest, rfl, ?_⟩
  cases answer with
  | ok _ =>
    obtain ⟨rfl, rfl⟩ := Program.Ends.of_done hrest
    exact ⟨List.forall_mem_nil _, rfl⟩
  | error failure =>
    obtain ⟨_, rfl, rfl⟩ := Ends.of_request hrest
    exact ⟨List.forall_mem_singleton.mpr ⟨_, rfl⟩, rfl⟩

/-- What follows the body of a unit of work. -/
def conclude (component : String) : Except ServiceError α → Call α
  | .ok value => do
    demand .commit
    return value
  | .error cause => do
    rollBack component cause
    throw cause

theorem inUnit_eq : inUnit component body = (do
    demand .begin
    conclude component (← ExceptT.lift body.run)) :=
  congrArg (demand .begin >>= ·) <| funext fun _ => congrArg (ExceptT.lift body.run >>= ·) <|
    funext fun result => by cases result <;> rfl

theorem Ends.of_conclude_ok {a : α} {talk : Talk} {outcome : Option (Except ServiceError α)}
    (h : (conclude component (.ok a)).Ends talk outcome) :
    (talk = [.committed (.ok ())] ∧ outcome = some (.ok a)) ∨
      ∃ failure, talk = [.committed (.error failure)] ∧
        outcome = some (.error (.ofStore failure)) := by
  rcases Ends.of_bind h with ⟨hnone, -⟩ | ⟨error, herror, rfl⟩ | ⟨_, said, rest, rfl, hsaid, hrest⟩
  · obtain ⟨_, -, houtcome⟩ := Ends.of_demand hnone
    cases houtcome
  · obtain ⟨answer, rfl, houtcome⟩ := Ends.of_demand herror
    cases answer with
    | ok _ => cases houtcome
    | error failure =>
      cases houtcome
      exact .inr ⟨failure, rfl, rfl⟩
  · obtain ⟨answer, rfl, houtcome⟩ := Ends.of_demand hsaid
    obtain ⟨rfl, rfl⟩ := Ends.of_pure hrest
    cases answer with
    | ok _ => exact .inl ⟨rfl, rfl⟩
    | error failure => cases houtcome

theorem Ends.of_conclude_error {cause : ServiceError} {talk : Talk}
    {outcome : Option (Except ServiceError α)}
    (h : (conclude component (.error cause : Except ServiceError α)).Ends talk outcome) :
    ∃ answer after, talk = .rolledBack answer :: after ∧ (∀ x ∈ after, x.IsRecord) ∧
      outcome = some (.error cause) := by
  rcases Ends.of_bind h with ⟨hnone, -⟩ | ⟨error, herror, -⟩ | ⟨_, said, rest, rfl, hsaid, hrest⟩
  · obtain ⟨_, _, -, -, houtcome⟩ := Ends.of_rollBack hnone
    cases houtcome
  · obtain ⟨_, _, -, -, houtcome⟩ := Ends.of_rollBack herror
    cases houtcome
  · obtain ⟨answer, after, rfl, hrecords, -⟩ := Ends.of_rollBack hsaid
    obtain ⟨rfl, rfl⟩ := Ends.of_throw hrest
    exact ⟨answer, after, List.append_nil _, hrecords, rfl⟩

/-- **Every conversation of a unit of work** begins it, holds a conversation of its body, and ends it by
one request that the end of the body decides. -/
theorem Ends.of_inUnit {talk : Talk} {outcome : Option (Except ServiceError α)}
    (h : (inUnit component body).Ends talk outcome) : body.UnitEnds talk outcome := by
  rw [inUnit_eq] at h
  rcases Ends.of_bind h with ⟨hnone, -⟩ | ⟨error, herror, rfl⟩ | ⟨_, said, rest, rfl, hbegin, hrest⟩
  · obtain ⟨_, -, houtcome⟩ := Ends.of_demand hnone
    cases houtcome
  · obtain ⟨answer, rfl, houtcome⟩ := Ends.of_demand herror
    cases answer with
    | ok _ => cases houtcome
    | error failure =>
      cases houtcome
      exact .unbegun
  obtain ⟨answer, rfl, houtcome⟩ := Ends.of_demand hbegin
  cases answer with
  | error failure => cases houtcome
  | ok _ =>
  rcases Program.Ends.of_bind hrest with ⟨hnone, rfl⟩ | ⟨result, said, last, rfl, hsaid, hlast⟩
  · rcases Ends.of_caught hnone with ⟨hnone, -⟩ | ⟨_, -, houtcome⟩
    · exact .aborted hnone
    · cases houtcome
  rcases Ends.of_caught hsaid with ⟨-, houtcome⟩ | ⟨ending, hbody, houtcome⟩
  · cases houtcome
  cases houtcome
  cases ending with
  | ok a =>
    rcases Ends.of_conclude_ok hlast with ⟨rfl, rfl⟩ | ⟨failure, rfl, rfl⟩
    · exact .committed hbody
    · exact .uncommitted hbody
  | error cause =>
    obtain ⟨answer, after, rfl, hrecords, rfl⟩ := Ends.of_conclude_error hlast
    exact .rolledBack hbody hrecords

end Call

end Stockroom
