import Stockroom.Proofs.Crowd.Assured
import Stockroom.Proofs.Store.Rows

/-!
# Proofs/Crowd/Alone — a unit of work with nobody else around

While nobody else changes the store, the copy of a unit of work is what is committed with its writes
applied (`Desk.Mirrors`), so refreshing a row changes nothing and the commit cannot fail.
**`Call.Yields` is what a call then does**: a value, and the tables after its writes, computed from the
tables before them.  Its rules follow the building blocks of the calls.
-/

namespace Stockroom

open Store

variable {α β : Type} {s : Store} {d : Desk} {t t' t'' : Tables} {tape tape' tape'' : Tape}

theorem Program.alone_bind (p : Program Host α) (f : α → Program Host β) (d : Desk) (s : Store) :
    (p >>= f).alone d s = (p.alone d s).bind fun r => (f r.1).alone r.2.1 r.2.2 := by
  induction p generalizing d s with
  | done a => rfl
  | abort => rfl
  | ask request next ih => exact ih _ _ _

/-- After a call that ends with a value. -/
theorem Call.alone_bind {p : Call α} {f : α → Call β} {a : α} {d' : Desk} {s' : Store}
    (h : p.run.alone d s = some (.ok a, d', s')) :
    (p >>= f).run.alone d s = (f a).run.alone d' s' := by
  refine (Program.alone_bind p.run _ d s).trans ?_
  rw [h]
  rfl

/-- What comes after a call that fails is not run. -/
theorem Call.alone_bind_error {p : Call α} {f : α → Call β} {error : ServiceError} {d' : Desk} {s' : Store}
    (h : p.run.alone d s = some (.error error, d', s')) :
    (p >>= f).run.alone d s = some (.error error, d', s') := by
  refine (Program.alone_bind p.run _ d s).trans ?_
  rw [h]
  rfl

/-- A call whose failure is looked at. -/
theorem Call.alone_caught {p : Call α} {result : Except ServiceError α} {d' : Desk} {s' : Store}
    (h : p.run.alone d s = some (result, d', s')) :
    (ExceptT.lift p.run : Call _).run.alone d s = some (.ok result, d', s') := by
  refine (Program.alone_bind p.run _ d s).trans ?_
  rw [h]
  rfl

/-- **A desk whose unit of work shows these tables**: what is committed, with its writes applied. -/
structure Desk.Mirrors (t : Tables) (tape : Tape) (s : Store) (d : Desk) : Prop where
  unit : ∃ u, d.unit = some u ∧ u.working = t ∧ u.written = u.pending.filterMap Write.row? ∧
    Write.applyAll u.pending s.committed = .ok t
  tape : d.tape = tape

/-- **What a call does alone in a unit of work**: its value, and the tables and the tape after it. -/
def Call.Yields (s : Store) (p : Call α) (t : Tables) (tape : Tape) (a : α) (t' : Tables)
    (tape' : Tape) : Prop :=
  ∀ d : Desk, d.Mirrors t tape s →
    ∃ d' : Desk, p.run.alone d s = some (.ok a, d', s) ∧ d'.Mirrors t' tape' s

/-- **How a call fails alone in a unit of work**: with this error, and the store is as it was. -/
def Call.Fails (s : Store) (p : Call α) (t : Tables) (tape : Tape) (error : ServiceError)
    (tape' : Tape) : Prop :=
  ∀ d : Desk, d.Mirrors t tape s →
    ∃ d' : Desk, p.run.alone d s = some (.error error, d', s) ∧ d'.tape = tape'

namespace Store.UnitOfWork

variable {u : UnitOfWork}

/-- There is nothing to refresh. -/
theorem refreshed_eq_self (hk : s.committed.KeepsKeys)
    (hwritten : u.written = u.pending.filterMap Write.row?)
    (h : Write.applyAll u.pending s.committed = .ok u.working) (row? : Option RowName) :
    u.refreshed s.committed row? = u := by
  unfold refreshed
  cases row? with
  | none => rfl
  | some row =>
    dsimp only
    split
    · rfl
    · next hrow =>
      rw [hwritten] at hrow
      rw [Tables.refresh_eq_self (Write.agreeAt_of_applyAll hk h hrow)]

end Store.UnitOfWork

namespace Call.Yields

/-! ## Without the store -/

theorem pure {a : α} : (Pure.pure a : Call α).Yields s t tape a t tape := fun d hd => ⟨d, rfl, hd⟩

/-- **One call after the other.** -/
theorem bind {p : Call α} {f : α → Call β} {a : α} {b : β} (h : p.Yields s t tape a t' tape')
    (hf : (f a).Yields s t' tape' b t'' tape'') : (p >>= f).Yields s t tape b t'' tape'' := by
  intro d hd
  obtain ⟨d₁, h₁, hd₁⟩ := h d hd
  obtain ⟨d₂, h₂, hd₂⟩ := hf d₁ hd₁
  exact ⟨d₂, (alone_bind h₁).trans h₂, hd₂⟩

theorem obey_bind {x : Except Refusal α} {f : α → Call β} {a : α} {b : β} (h : x = .ok a)
    (hf : (f a).Yields s t tape b t' tape') : (obey x >>= f).Yields s t tape b t' tape' := by
  subst h
  exact hf

theorem orAbort_bind {x : Option α} {f : α → Call β} {a : α} {b : β} (h : x = some a)
    (hf : (f a).Yields s t tape b t' tape') : (orAbort x >>= f).Yields s t tape b t' tape' := by
  subst h
  exact hf

theorem now : Call.now.Yields s t tape tape.time t tape.read := fun d hd =>
  ⟨{ d with tape := d.tape.read }, by rw [← hd.tape]; rfl, hd.unit, congrArg Tape.read hd.tape⟩

theorem log {record : LogRecord} : (Call.log record).Yields s t tape () t tape :=
  fun d hd => ⟨d, rfl, hd⟩

theorem insist {p : Call Bool} {otherwise : ServiceError} (h : p.Yields s t tape true t' tape') :
    (Call.insist p otherwise).Yields s t tape () t' tape' := h.bind pure

/-! ## With the store -/

/-- A request that does not fail. -/
theorem alone_demand {r : StoreRequest} {result : r.Result} {session : Session}
    (h : Session.answer ⟨s, d.unit⟩ r = (.ok result, session)) :
    (demand r).run.alone d s = some (.ok result, d.after r s session, session.store) := by
  have hdesk : d.answer s (.store r) = (.ok result, d.after r s session, session.store) := by
    rw [Desk.answer, h]
    rfl
  show Program.alone (_ : Program Host _) (d.answer s (.store r)).2.1
    (d.answer s (.store r)).2.2 = _
  rw [hdesk]
  rfl

/-- A request that reads in the unit of work. -/
theorem find {r : UnitRequest} (read : Tables → r.Result)
    (hread : ∀ session : Session, session.answerWithin r = session.find read) :
    (within r).Yields s t tape (read t) t tape := by
  intro d hd
  obtain ⟨u, hu, rfl, hrest⟩ := hd.unit
  have hanswer : Session.answer ⟨s, d.unit⟩ (.within r) = (.ok (read u.working), ⟨s, some u⟩) := by
    rw [Session.answer, hread, hu]
    rfl
  exact ⟨_, alone_demand hanswer, ⟨u, rfl, rfl, hrest⟩, hd.tape⟩

theorem findStock (product : ProductId) :
    (within (.findStock product)).Yields s t tape (t.liveStock? product) t tape :=
  find (r := .findStock product) (·.liveStock? product) fun _ => rfl

theorem findReservation (product : ProductId) (order : OrderId) :
    (within (.findReservation product order)).Yields s t tape (t.reservation? product order) t tape :=
  find (r := .findReservation product order) (·.reservation? product order) fun _ => rfl

theorem findOrder (id : OrderId) : (within (.findOrder id)).Yields s t tape (t.order? id) t tape :=
  find (r := .findOrder id) (·.order? id) fun _ => rfl

/-- **A write that is made** in a unit of work that mirrors what is committed. -/
theorem stage_mirrors {w : Write} (hk : s.committed.KeepsKeys) (hd : d.Mirrors t tape s)
    (happly : w.apply t = .ok t') :
    ∃ next, Session.stage ⟨s, d.unit⟩ w = (.ok true, ⟨s, some next⟩) ∧
      ∀ d' : Desk, d'.unit = some next → d'.tape = tape → d'.Mirrors t' tape s := by
  obtain ⟨u, hu, rfl, hwritten, hpending⟩ := hd.unit
  let next : UnitOfWork := ⟨t', u.written ++ w.row?.toList, u.pending ++ [w]⟩
  refine ⟨next, ?_, fun d' hunit htape => ⟨⟨next, hunit, rfl, ?_, ?_⟩, htape⟩⟩
  · rw [Session.stage, hu]
    simp only [UnitOfWork.stage, u.refreshed_eq_self hk hwritten hpending, happly]
    rfl
  · show u.written ++ _ = (u.pending ++ [w]).filterMap _
    rw [List.filterMap_append, hwritten]
    cases hrow : w.row? <;> simp [hrow]
  · exact Write.applyAll_append_iff.mpr
      ⟨_, hpending, Write.applyAll_cons_iff.mpr ⟨_, happly, Write.applyAll_nil_iff.mpr rfl⟩⟩

/-- **A request that writes in the unit of work**, where the condition of the write holds. -/
theorem write {r : UnitRequest} {w : Write} {result : r.Result} (hk : s.committed.KeepsKeys)
    (happly : w.apply t = .ok t')
    (hanswer : ∀ session : Session, (session.stage w).1 = .ok true →
      session.answerWithin r = (.ok result, (session.stage w).2)) :
    (within r).Yields s t tape result t' tape := by
  intro d hd
  obtain ⟨next, hstage, hmirrors⟩ := stage_mirrors hk hd happly
  have hsession : Session.answer ⟨s, d.unit⟩ (.within r) = (.ok result, ⟨s, some next⟩) :=
    (hanswer _ (by rw [hstage])).trans (by rw [hstage])
  exact ⟨_, alone_demand hsession, hmirrors _ rfl hd.tape⟩

/-- **A unit of work that commits**: its body may have drawn numbers, but has not committed anything. -/
theorem alone_inUnit_of {component : String} {body : Call α} {a : α} (s₁ : Store)
    (h : ∀ d' : Desk, d'.Mirrors s.committed d.tape s →
      ∃ d'', body.run.alone d' s = some (.ok a, d'', s₁) ∧ d''.Mirrors t tape s₁) :
    ∃ d', (inUnit component body).run.alone d s = some (.ok a, d', ⟨t, s₁.nextOrder⟩) ∧
      d'.tape = tape := by
  have hbegin : (demand .begin).run.alone d s =
      some (.ok (), d.after .begin s ⟨s, some (.start s.committed)⟩, s) := alone_demand rfl
  obtain ⟨d', hbody, ⟨u, hu, rfl, -, hpending⟩, htape⟩ :=
    h (d.after .begin s ⟨s, some (.start s.committed)⟩)
      ⟨⟨.start s.committed, rfl, rfl, rfl, Write.applyAll_nil_iff.mpr rfl⟩, rfl⟩
  have hcommit : Session.answer ⟨s₁, d'.unit⟩ .commit =
      (.ok (), ⟨⟨u.working, s₁.nextOrder⟩, none⟩) := by
    rw [hu]
    simp only [Session.answer, Session.commit, UnitOfWork.commit, hpending]
    rfl
  refine ⟨d'.after .commit s₁ ⟨⟨u.working, s₁.nextOrder⟩, none⟩, ?_, htape⟩
  refine (alone_bind hbegin).trans ?_
  refine (alone_bind (alone_caught hbody)).trans ?_
  exact alone_bind (alone_demand hcommit)

/-- **A call in a unit of work of its own** commits what it yields. -/
theorem alone_inUnit {component : String} {body : Call α} {a : α}
    (h : body.Yields s s.committed d.tape a t tape) :
    ∃ d', (inUnit component body).run.alone d s = some (.ok a, d', ⟨t, s.nextOrder⟩) ∧
      d'.tape = tape := alone_inUnit_of s h

end Call.Yields

namespace Call.Fails

variable {error : ServiceError}

theorem throw : (throw error : Call α).Fails s t tape error tape := fun d hd => ⟨d, rfl, hd.tape⟩

/-- A call that fails after another one has yielded a value. -/
theorem after {p : Call α} {f : α → Call β} {a : α} (h : p.Yields s t tape a t' tape')
    (hf : (f a).Fails s t' tape' error tape'') : (p >>= f).Fails s t tape error tape'' := by
  intro d hd
  obtain ⟨d₁, h₁, hd₁⟩ := h d hd
  obtain ⟨d₂, h₂, hd₂⟩ := hf d₁ hd₁
  exact ⟨d₂, (alone_bind h₁).trans h₂, hd₂⟩

/-- What comes after a call that fails is not run. -/
theorem bind {p : Call α} {f : α → Call β} (h : p.Fails s t tape error tape') :
    (p >>= f).Fails s t tape error tape' := by
  intro d hd
  obtain ⟨d', halone, htape⟩ := h d hd
  exact ⟨d', alone_bind_error halone, htape⟩

/-- **A request whose write fails** ends the call, whatever its unit of work has written. -/
theorem write {r : UnitRequest} {w : Write} {failure : StoreError} (hk : s.committed.KeepsKeys)
    (happly : w.apply t = .error (.failed failure))
    (hanswer : ∀ session : Session, (session.stage w).1 = .error failure →
      session.answerWithin r = (.error failure, (session.stage w).2)) :
    (within r : Call r.Result).Fails s t tape (ServiceError.ofStore failure) tape := by
  intro d hd
  obtain ⟨u, hu, rfl, hwritten, hpending⟩ := hd.unit
  have hstage : Session.stage ⟨s, d.unit⟩ w = (.error failure, ⟨s, some u⟩) := by
    rw [Session.stage, hu]
    simp only [UnitOfWork.stage, u.refreshed_eq_self hk hwritten hpending, happly]
  have hsession : Session.answer ⟨s, d.unit⟩ (.within r) = (.error failure, ⟨s, some u⟩) :=
    (hanswer _ (by rw [hstage])).trans (by rw [hstage])
  have hdesk : d.answer s (.store (.within r)) =
      (.error failure, d.after (.within r) s ⟨s, some u⟩, s) := by
    rw [Desk.answer, hsession]
    rfl
  refine ⟨d.after (.within r) s ⟨s, some u⟩, ?_, hd.tape⟩
  show Program.alone (_ : Program Host _) (d.answer s (.store (.within r))).2.1
    (d.answer s (.store (.within r))).2.2 = _
  rw [hdesk]
  rfl

/-- **A unit of work that fails** leaves what is committed as it was; its body may have drawn numbers. -/
theorem alone_inUnit_of {component : String} {body : Call α} {s₁ : Store}
    (h : ∀ d' : Desk, d'.Mirrors s.committed d.tape s →
      ∃ d'', body.run.alone d' s = some (.error error, d'', s₁) ∧ d''.tape = tape) :
    ∃ d', (inUnit component body).run.alone d s = some (.error error, d', s₁) ∧ d'.tape = tape := by
  have hbegin : (demand .begin).run.alone d s =
      some (.ok (), d.after .begin s ⟨s, some (.start s.committed)⟩, s) := Yields.alone_demand rfl
  obtain ⟨d', hbody, htape⟩ := h (d.after .begin s ⟨s, some (.start s.committed)⟩)
    ⟨⟨.start s.committed, rfl, rfl, rfl, Write.applyAll_nil_iff.mpr rfl⟩, rfl⟩
  refine ⟨d'.after .rollback s₁ ⟨s₁, none⟩, ?_, htape⟩
  exact (alone_bind hbegin).trans (alone_bind (alone_caught hbody))

/-- **A call in a unit of work of its own** that fails leaves the store as it was. -/
theorem alone_inUnit {component : String} {body : Call α}
    (h : body.Fails s s.committed d.tape error tape) :
    ∃ d', (inUnit component body).run.alone d s = some (.error error, d', s) ∧ d'.tape = tape :=
  alone_inUnit_of h

end Call.Fails

end Stockroom
