import Stockroom.Proofs.Dialogue.Exchange

/-!
# Proofs/Dialogue/Audit — calls that stop at the first objection

An `Audit` says what is wrong with an answer, in view of the conversation so far.  **A call is `Audited`
if it goes on exactly as long as there is no objection**: it ends with an error only right after an
answer that is objected to, and then with that objection.  The rules follow the building blocks of
calls, and `Audited.concludes` turns them into a statement about whole conversations.

`Audit.Disciplined` is what comes of it for a call that opens one unit of work
(`disciplined_of_audited`).
-/

namespace Stockroom

open Call

/-- **What is wrong with an answer**, and when a call may stop without one. -/
structure Audit where
  objection : Talk → Exchange → Option ServiceError
  mayAbort : Talk → Prop

namespace Audit

/-- No answer of a conversation that goes on after `past` is objected to. -/
def Clear (J : Audit) (past talk : Talk) : Prop :=
  ∀ front x rest, talk = front ++ x :: rest → J.objection (past ++ front) x = none

variable {J : Audit} {past talk more : Talk} {x : Exchange}

theorem clear_nil : J.Clear past [] := by
  intro front x rest h
  exact absurd h (List.append_ne_nil_of_right_ne_nil _ (List.cons_ne_nil _ _)).symm

theorem clear_cons (hx : J.objection past x = none) (h : J.Clear (past ++ [x]) talk) :
    J.Clear past (x :: talk) := by
  intro front y rest heq
  cases front with
  | nil =>
    cases heq
    simpa using hx
  | cons z front =>
    cases heq
    simpa using h front y rest rfl

theorem Clear.append (h : J.Clear past talk) (h' : J.Clear (past ++ talk) more) :
    J.Clear past (talk ++ more) := by
  intro front x rest heq
  rcases List.append_eq_append_iff.mp heq with ⟨front', rfl, hmore⟩ | ⟨rest', rfl, hrest⟩
  · simpa using h' front' x rest hmore
  · cases rest' with
    | nil => simpa using h' [] x rest hrest.symm
    | cons y rest' =>
      cases hrest
      exact h front x rest' rfl

end Audit

variable {α β γ : Type} {J : Audit} {allowed : HostRequest → Prop}

/-- **The program goes on exactly as long as there is no objection**, it makes allowed requests only, and
`Q` holds when it is done. -/
def Program.Audited (J : Audit) (allowed : HostRequest → Prop) (Q : Talk → α → Prop) :
    Program Host (Except ServiceError α) → Talk → Prop
  | done (.ok a), past => Q past a
  | done (.error _), _ => False
  | abort, past => J.mayAbort past
  | ask request next, past => allowed request ∧ ∀ answer,
      (J.objection past ⟨request, answer⟩ = none →
        (next answer).Audited J allowed Q (past ++ [⟨request, answer⟩])) ∧
      ∀ error, J.objection past ⟨request, answer⟩ = some error → next answer = done (.error error)

/-- `Program.Audited` for calls. -/
def Call.Audited (J : Audit) (allowed : HostRequest → Prop) (Q : Talk → α → Prop) (p : Call α)
    (past : Talk) : Prop :=
  Program.Audited J allowed Q p.run past

namespace Call.Audited

variable {past : Talk} {Q : Talk → α → Prop} {R : Talk → β → Prop}

theorem pure {a : α} (h : Q past a) : (Pure.pure a : Call α).Audited J allowed Q past := h

/-- A request whose answer is looked at: the call that follows goes on, or it ends with the
objection. -/
theorem ask {r : HostRequest} {f : r.Answer → Call β} (hr : allowed r)
    (h : ∀ answer, (J.objection past ⟨r, answer⟩ = none →
        (f answer).Audited J allowed R (past ++ [⟨r, answer⟩])) ∧
      ∀ error, J.objection past ⟨r, answer⟩ = some error → f answer = throw error) :
    Call.Audited J allowed R (ExceptT.lift (Program.request (I := Host) r) >>= f) past :=
  ⟨hr, fun answer => ⟨(h answer).1, fun error herror =>
    congrArg ExceptT.run ((h answer).2 error herror)⟩⟩

/-- **One call after the other.** -/
theorem bind {p : Call α} {f : α → Call β} (h : p.Audited J allowed Q past)
    (hf : ∀ a past, Q past a → (f a).Audited J allowed R past) :
    (p >>= f).Audited J allowed R past := by
  suffices hp : ∀ (p : Program Host (Except ServiceError α)) (past : Talk),
      p.Audited J allowed Q past → Program.Audited J allowed R (p >>= ExceptT.bindCont f) past from
    hp p.run past h
  clear h
  intro p past h
  induction p generalizing past with
  | done result =>
    cases result with
    | ok a => exact hf a past h
    | error error => exact h.elim
  | abort => exact h
  | ask request next ih =>
    refine ⟨h.1, fun answer => ⟨fun hnone => ih answer _ ((h.2 answer).1 hnone), ?_⟩⟩
    intro error herror
    have hnext : next answer = .done (.error error) := (h.2 answer).2 error herror
    show next answer >>= ExceptT.bindCont f = _
    rw [hnext]
    rfl

theorem mono {p : Call α} {Q' : Talk → α → Prop} (h : p.Audited J allowed Q past)
    (hQ : ∀ a past, Q past a → Q' past a) : p.Audited J allowed Q' past := by
  rw [← bind_pure p]
  exact h.bind fun a past hQa => pure (hQ a past hQa)

/-- A value that may be missing. -/
theorem orAbort_bind {y : Option α} {f : α → Call β} (hnone : y = none → J.mayAbort past)
    (hsome : ∀ a, y = some a → (f a).Audited J allowed R past) :
    (Call.orAbort y >>= f).Audited J allowed R past := by
  cases y with
  | none => exact hnone rfl
  | some a => exact hsome a rfl

/-- An answer that is not objected to, whatever it is. -/
theorem heard {r : HostRequest} {f : r.Answer → Call β} (hr : allowed r)
    (h : ∀ answer, J.objection past ⟨r, answer⟩ = none ∧
      (f answer).Audited J allowed R (past ++ [⟨r, answer⟩])) :
    Call.Audited J allowed R (ExceptT.lift (Program.request (I := Host) r) >>= f) past := by
  refine ask hr fun answer => ⟨fun _ => (h answer).2, fun error herror => ?_⟩
  cases (h answer).1.symm.trans herror

/-- **A request to the store whose failure ends the call.** -/
theorem demand {r : StoreRequest} {f : r.Result → Call β} (hr : allowed (.store r))
    (herror : ∀ error, J.objection past ⟨.store r, .error error⟩ = some (.ofStore error))
    (h : ∀ result, (J.objection past ⟨.store r, .ok result⟩ = none →
        (f result).Audited J allowed R (past ++ [⟨.store r, .ok result⟩])) ∧
      ∀ error, J.objection past ⟨.store r, .ok result⟩ = some error → f result = throw error) :
    (Call.demand r >>= f).Audited J allowed R past := by
  rw [Call.demand, Call.attempt, bind_assoc]
  refine ask hr fun answer => ?_
  cases answer with
  | error failure =>
    refine ⟨fun hnone => ?_, fun error heq => ?_⟩
    · cases (herror failure).symm.trans hnone
    · cases (herror failure).symm.trans heq
      rfl
  | ok result => exact h result

/-- A list of calls, one after the other. -/
theorem forM {f : β → Call PUnit} {items : List β} {I : Nat → Talk → Prop} (hI : I 0 past)
    (hf : ∀ k item past, items[k]? = some item → I k past →
      (f item).Audited J allowed (fun past _ => I (k + 1) past) past) :
    (items.forM f).Audited J allowed (fun past _ => I items.length past) past := by
  induction items generalizing past I with
  | nil => exact pure hI
  | cons item items ih =>
    refine (hf 0 item past rfl hI).bind fun _ past hI => ?_
    exact ih (I := fun k => I (k + 1)) hI fun k item past hitem => hf (k + 1) item past hitem

end Call.Audited

/-! ## Whole conversations -/

namespace Audit

/-- **How an audited call ends**: with a value, with the first objection, or without an answer. -/
inductive Concludes (J : Audit) (past : Talk) (Q : Talk → α → Prop) :
    Talk → Option (Except ServiceError α) → Prop where
  | value {talk : Talk} {a : α} (clear : J.Clear past talk) (h : Q (past ++ talk) a) :
      J.Concludes past Q talk (some (.ok a))
  | objection {talk : Talk} {x : Exchange} {error : ServiceError} (clear : J.Clear past talk)
      (h : J.objection (past ++ talk) x = some error) :
      J.Concludes past Q (talk ++ [x]) (some (.error error))
  | abort {talk : Talk} (clear : J.Clear past talk) (h : J.mayAbort (past ++ talk)) :
      J.Concludes past Q talk none

variable {past talk : Talk} {Q : Talk → α → Prop} {x : Exchange}
  {outcome : Option (Except ServiceError α)}

theorem Concludes.cons (hx : J.objection past x = none)
    (h : J.Concludes (past ++ [x]) Q talk outcome) : J.Concludes past Q (x :: talk) outcome := by
  cases h with
  | value clear h => exact .value (clear_cons hx clear) (by simpa using h)
  | objection clear h =>
    rw [← List.cons_append]
    exact .objection (clear_cons hx clear) (by simpa using h)
  | abort clear h => exact .abort (clear_cons hx clear) (by simpa using h)

end Audit

/-- **An audited call stops at the first objection**, in every conversation. -/
theorem Call.Audited.concludes {p : Call α} {past talk : Talk} {Q : Talk → α → Prop}
    {outcome : Option (Except ServiceError α)} (h : p.Audited J allowed Q past)
    (hends : p.Ends talk outcome) :
    (∀ x ∈ talk, allowed x.request) ∧ J.Concludes past Q talk outcome := by
  suffices hp : ∀ (p : Program Host (Except ServiceError α)) (past talk : Talk),
      p.Audited J allowed Q past → p.Ends talk outcome →
        (∀ x ∈ talk, allowed x.request) ∧ J.Concludes past Q talk outcome from
    hp p.run past talk h hends
  clear h hends
  intro p past talk h hends
  induction p generalizing past talk with
  | done result =>
    obtain ⟨rfl, rfl⟩ := Program.Ends.of_done hends
    cases result with
    | ok a =>
      exact ⟨List.forall_mem_nil _, .value Audit.clear_nil (by rwa [List.append_nil])⟩
    | error error => exact h.elim
  | abort =>
    obtain ⟨rfl, houtcome⟩ := Program.Says.of_abort hends
    cases outcome with
    | none =>
      exact ⟨List.forall_mem_nil _, .abort Audit.clear_nil (by rwa [List.append_nil])⟩
    | some result => cases houtcome
  | ask request next ih =>
    obtain ⟨hr, h⟩ := h
    obtain ⟨answer, rest, rfl, hrest⟩ := Program.Ends.of_ask hends
    cases hx : J.objection past ⟨request, answer⟩ with
    | none =>
      obtain ⟨hallowed, hconcludes⟩ := ih answer _ rest ((h answer).1 hx) hrest
      exact ⟨List.forall_mem_cons.mpr ⟨hr, hallowed⟩, hconcludes.cons hx⟩
    | some error =>
      have hnext : next answer = .done (.error error) := (h answer).2 error hx
      rw [hnext] at hrest
      obtain ⟨rfl, rfl⟩ := Program.Ends.of_done hrest
      refine ⟨List.forall_mem_singleton.mpr hr, ?_⟩
      have hobjection : J.objection (past ++ []) ⟨request, answer⟩ = some error := by
        rwa [List.append_nil]
      exact .objection Audit.clear_nil hobjection

/-! ## One unit of work -/

/-- What a call asks before it opens a unit of work. -/
def HostRequest.IsOutside : HostRequest → Prop
  | .store (.productsOf _) | .store (.stockOf _) | .now => True
  | _ => False

/-- What a call asks inside a unit of work. -/
def HostRequest.IsInside : HostRequest → Prop
  | .store (.within _) | .now | .log _ => True
  | _ => False

namespace Audit

open Exchange

/-- **A conversation that has opened a unit of work** and met no objection. -/
structure Opened (J : Audit) (before body : Talk) : Prop where
  outside : ∀ x ∈ before, x.request.IsOutside
  inside : ∀ x ∈ body, x.request.IsInside
  clear : J.Clear [] (before ++ begun (.ok ()) :: body)

/-- **What a call with one unit of work may say**, and how it ends then.  `R` holds of the value and of what
was said before the commit. -/
inductive Disciplined (J : Audit) (R : Talk → α → Prop) :
    Talk → Option (Except ServiceError α) → Prop where
  /-- The call itself is refused, and nothing is asked. -/
  | refused {refusal : Refusal} : J.Disciplined R [] (some (.error (.refused refusal)))
  /-- The first objection comes before there is a unit of work. -/
  | unopened {before : Talk} {x : Exchange} {error : ServiceError}
      (outside : ∀ y ∈ before ++ [x], y.request.IsOutside) (clear : J.Clear [] before)
      (h : J.objection before x = some error) :
      J.Disciplined R (before ++ [x]) (some (.error error))
  /-- The unit of work cannot be opened. -/
  | unbegun {before : Talk} {failure : StoreError}
      (outside : ∀ y ∈ before, y.request.IsOutside) (clear : J.Clear [] before) :
      J.Disciplined R (before ++ [begun (.error failure)]) (some (.error (.ofStore failure)))
  /-- There is no objection, and the unit of work is committed. -/
  | committed {before body after : Talk} {a : α} (opened : J.Opened before body)
      (h : R (before ++ begun (.ok ()) :: body) a) (records : ∀ x ∈ after, x.IsRecord) :
      J.Disciplined R (before ++ begun (.ok ()) :: body ++ .committed (.ok ()) :: after)
        (some (.ok a))
  /-- There is no objection, but the unit of work cannot be committed. -/
  | uncommitted {before body : Talk} {failure : StoreError} (opened : J.Opened before body) :
      J.Disciplined R (before ++ begun (.ok ()) :: body ++ [.committed (.error failure)])
        (some (.error (.ofStore failure)))
  /-- The unit of work is rolled back at the first objection; how that goes changes nothing. -/
  | rolledBack {before body after : Talk} {x : Exchange} {error : ServiceError}
      {answer : Except StoreError Unit} (opened : J.Opened before body)
      (inside : x.request.IsInside)
      (h : J.objection (before ++ begun (.ok ()) :: body) x = some error)
      (records : ∀ y ∈ after, y.IsRecord) :
      J.Disciplined R (before ++ begun (.ok ()) :: body ++ x :: .rolledBack answer :: after)
        (some (.error error))
  /-- The call is given up where it stands. -/
  | aborted {before body : Talk} (opened : J.Opened before body)
      (h : J.mayAbort (before ++ begun (.ok ()) :: body)) :
      J.Disciplined R (before ++ begun (.ok ()) :: body) none

theorem Disciplined.mono {R R' : Talk → α → Prop} {talk : Talk}
    {outcome : Option (Except ServiceError α)} (h : J.Disciplined R talk outcome)
    (hR : ∀ talk a, R talk a → R' talk a) : J.Disciplined R' talk outcome := by
  cases h with
  | refused => exact .refused
  | unopened outside clear h => exact .unopened outside clear h
  | unbegun outside clear => exact .unbegun outside clear
  | committed opened h records => exact .committed opened (hR _ _ h) records
  | uncommitted opened => exact .uncommitted opened
  | rolledBack opened inside h records => exact .rolledBack opened inside h records
  | aborted opened h => exact .aborted opened h

/-- What a call still does after its unit of work: it reports, and returns what it has. -/
def IsAfterword (f : α → Call α) : Prop :=
  ∀ a talk outcome, (f a).Ends talk outcome → (∀ x ∈ talk, x.IsRecord) ∧ outcome = some (.ok a)

theorem isAfterword_pure : IsAfterword (pure : α → Call α) := by
  intro a talk outcome h
  obtain ⟨rfl, rfl⟩ := Ends.of_pure h
  exact ⟨List.forall_mem_nil _, rfl⟩

theorem isAfterword_log (record : α → LogRecord) :
    IsAfterword fun a => do
      log (record a)
      return a := by
  intro a talk outcome h
  obtain ⟨_, rest, rfl, hrest⟩ := Program.Ends.of_ask h
  obtain ⟨rfl, rfl⟩ := Program.Ends.of_done hrest
  exact ⟨List.forall_mem_singleton.mpr ⟨_, rfl⟩, rfl⟩

variable {Q : Talk → β → Prop} {R : Talk → α → Prop} {before talk : Talk}
  {outcome : Option (Except ServiceError α)}

/-- **A unit of work with an audited body**, and what is reported afterwards. -/
theorem disciplined_inUnit {component : String} {body : Call α} {afterword : α → Call α}
    (hbefore : ∀ x ∈ before, x.request.IsOutside) (hclear : J.Clear [] before)
    (hbegin : J.objection before (begun (.ok ())) = none)
    (hbody : body.Audited J HostRequest.IsInside R (before ++ [begun (.ok ())]))
    (hafter : IsAfterword afterword)
    (hends : (inUnit component body >>= afterword).Ends talk outcome) :
    J.Disciplined R (before ++ talk) outcome := by
  have hopened {said : Talk} (hinside : ∀ x ∈ said, x.request.IsInside)
      (hclear' : J.Clear (before ++ [begun (.ok ())]) said) : J.Opened before said :=
    ⟨hbefore, hinside, hclear.append (clear_cons hbegin hclear')⟩
  rcases Ends.of_bind hends with ⟨hnone, rfl⟩ | ⟨error, herror, rfl⟩ | ⟨a, said, rest, rfl, hsaid, hrest⟩
  · cases Ends.of_inUnit hnone with
    | aborted h =>
      obtain ⟨hinside, hconcludes⟩ := hbody.concludes h
      cases hconcludes with
      | abort hclear' hmay => exact .aborted (hopened hinside hclear') (by simpa using hmay)
  · cases Ends.of_inUnit herror with
    | unbegun => exact .unbegun hbefore hclear
    | uncommitted h =>
      obtain ⟨hinside, hconcludes⟩ := hbody.concludes h
      cases hconcludes with
      | value hclear' _ =>
        rw [← List.append_assoc]
        exact .uncommitted (hopened hinside hclear')
    | @rolledBack _ _ answer after h hrecords =>
      obtain ⟨hinside, hconcludes⟩ := hbody.concludes h
      cases hconcludes with
      | @objection front x _ hclear' hx =>
        obtain ⟨hinside, hlast⟩ := List.forall_mem_append.mp hinside
        have hshape : before ++ (begun (.ok ()) :: (front ++ [x]) ++ .rolledBack answer :: after) =
            before ++ begun (.ok ()) :: front ++ x :: .rolledBack answer :: after := by simp
        rw [hshape]
        exact .rolledBack (hopened hinside hclear') (hlast x (List.mem_singleton_self x))
          (by simpa using hx) hrecords
  · obtain ⟨hrecords, rfl⟩ := hafter a _ _ hrest
    cases Ends.of_inUnit hsaid with
    | @committed said _ h =>
      obtain ⟨hinside, hconcludes⟩ := hbody.concludes h
      cases hconcludes with
      | value hclear' hR =>
        have hshape : before ++ (begun (.ok ()) :: said ++ [.committed (.ok ())] ++ rest) =
            before ++ begun (.ok ()) :: said ++ .committed (.ok ()) :: rest := by simp
        rw [hshape]
        exact .committed (hopened hinside hclear') (by simpa using hR) hrecords

/-- **A call with one unit of work**: what it asks before is audited too. -/
theorem disciplined_of_audited {component : String} {prep : Call β} {body : β → Call α}
    {afterword : α → Call α} (hprep : prep.Audited J HostRequest.IsOutside Q [])
    (habort : ∀ past : Talk, (∀ x ∈ past, x.request.IsOutside) → ¬J.mayAbort past)
    (hbegin : ∀ past, J.objection past (begun (.ok ())) = none)
    (hbody : ∀ b past, (∀ x ∈ past, x.request.IsOutside) → Q past b →
      (body b).Audited J HostRequest.IsInside R (past ++ [begun (.ok ())]))
    (hafter : IsAfterword afterword)
    (hends : (prep >>= fun b => inUnit component (body b) >>= afterword).Ends talk outcome) :
    J.Disciplined R talk outcome := by
  rcases Ends.of_bind hends with ⟨hnone, rfl⟩ | ⟨error, herror, rfl⟩ | ⟨b, said, rest, rfl, hsaid, hrest⟩
  · obtain ⟨houtside, hconcludes⟩ := hprep.concludes hnone
    cases hconcludes with
    | abort _ hmay => exact absurd hmay (habort talk houtside)
  · obtain ⟨houtside, hconcludes⟩ := hprep.concludes herror
    cases hconcludes with
    | objection hclear hx => exact .unopened houtside hclear hx
  · obtain ⟨houtside, hconcludes⟩ := hprep.concludes hsaid
    cases hconcludes with
    | value hclear hQ =>
      exact disciplined_inUnit houtside hclear (hbegin said) (hbody b said houtside hQ) hafter hrest

end Audit

end Stockroom
