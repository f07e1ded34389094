import Stockroom.Proofs.Crowd.Duty
import Stockroom.Proofs.Service.Confined

/-!
# Proofs/Crowd/Independence — movements of different products do not meet

Callers who move the stock of different products share one store, one ledger and its numbers, and refresh and
replay their writes on whatever the others have committed.  **None of them notices**: each is answered as
with nobody else around, and the store ends up as if they had called one after the other
(`Crowd.independent_run`).

The invariant is the `Caller.outlook`: what would become of a caller, and of the slice of its product, if
nobody else took another step.  A step of its own is part of that (`Caller.Confined.step`), and a step of
somebody who asks about another product leaves the slice alone that decides it
(`Caller.Confined.elsewhere`).
-/

namespace Stockroom

open Store

variable {p q : ProductId}

/-! ## One caller -/

namespace Caller

variable {c : Caller} {s s' : Store}

/-- A caller who asks about one product only. -/
structure Confined (p : ProductId) (c : Caller) (s : Store) : Prop where
  rest : ∃ Q, c.rest.Confined p Q
  desk : c.desk.Alike p s s c.desk

/-- **What would become of a caller and of its product** with nobody else around. -/
def outlook (p : ProductId) (c : Caller) (s : Store) :
    (call : ServiceCall) × Program Host (Except ServiceError call.Result) × Slice :=
  ⟨c.call, (c.rest.finish c.desk s).1, (c.rest.finish c.desk s).2.2.committed.slice p⟩

/-- How many requests a caller would still make with nobody else around. -/
def requests (c : Caller) (s : Store) : Nat := c.rest.requests c.desk s

/-- A caller that makes no more requests has what was in store for it. -/
theorem outlook_of_requests (h : c.requests s = 0) :
    c.outlook p s = ⟨c.call, c.rest, s.committed.slice p⟩ := by
  rw [outlook, Program.finish_of_requests h]

/-- **A step of a caller** brings it nearer to what will become of it, and changes nothing besides. -/
theorem Confined.step (h : c.Confined p s) : (c.step s).1.Confined p (c.step s).2 ∧
    (c.step s).1.outlook p (c.step s).2 = c.outlook p s ∧
    (c.step s).1.requests (c.step s).2 = c.requests s - 1 ∧
    s.committed.AgreeBeyond p (c.step s).2.committed := by
  obtain ⟨call, rest, desk⟩ := c
  obtain ⟨⟨Q, hrest⟩, hdesk⟩ := h
  cases rest with
  | done result => exact ⟨⟨⟨Q, hrest⟩, hdesk⟩, rfl, rfl, .refl p _⟩
  | abort => exact ⟨⟨⟨Q, hrest⟩, hdesk⟩, rfl, rfl, .refl p _⟩
  | ask request next =>
    obtain ⟨-, hproper, hnext⟩ := hdesk.answer hrest.1
    have hnext : (desk.answer s request).2.1.Alike p (desk.answer s request).2.2
        (desk.answer s request).2.2 (desk.answer s request).2.1 := hnext
    exact ⟨⟨⟨Q, hrest.2 _ hproper⟩, hnext⟩, rfl, rfl, hdesk.agreeBeyond hrest.1⟩

/-- **What others do about other products** does not change what will become of a caller. -/
theorem Confined.elsewhere (h : c.Confined p s) (hs : s'.committed.Filed)
    (hslice : s'.committed.slice p = s.committed.slice p) :
    c.Confined p s' ∧ c.outlook p s' = c.outlook p s ∧ c.requests s' = c.requests s := by
  obtain ⟨⟨Q, hrest⟩, hdesk⟩ := h
  obtain ⟨hrequests, hleft, hends⟩ := hrest.finish_alike (hdesk.elsewhere hs hslice)
  refine ⟨⟨⟨Q, hrest⟩, ⟨rfl, hdesk.unit, rfl, hs⟩⟩, ?_, hrequests⟩
  rw [outlook, outlook, hleft, hends.slice]

end Caller

namespace ServiceCall

variable {call : ServiceCall} {tape : Tape} {s s' : Store}

/-- **A call with nobody else around**: how it ends, the desk and the store. -/
def finish (call : ServiceCall) (tape : Tape) (s : Store) :
    Program Host (Except ServiceError call.Result) × Desk × Store :=
  call.program.run.finish (.fresh tape) s

/-- A call that moves the stock of a product, before its first request. -/
theorem confined_fresh (h : call.moves? = some p) (hs : s.committed.Filed) (tape : Tape) :
    (Caller.fresh call tape).Confined p s := ⟨⟨_, confined h⟩, .fresh tape hs rfl⟩

/-- **What has become of a caller** that makes no more requests. -/
theorem finished_of_outlook {c : Caller} (hrequests : c.requests s' = 0)
    (h : c.outlook p s' = (Caller.fresh call tape).outlook p s) :
    (∃ desk, c = ⟨call, (call.finish tape s).1, desk⟩) ∧
      s'.committed.slice p = (call.finish tape s).2.2.committed.slice p := by
  rw [Caller.outlook_of_requests hrequests] at h
  obtain ⟨call', rest, desk⟩ := c
  obtain ⟨rfl, h⟩ := Sigma.mk.inj h
  obtain ⟨hrest, hslice⟩ := Prod.mk.inj (eq_of_heq h)
  exact ⟨⟨desk, congrArg (Caller.mk _ · desk) hrest⟩, hslice⟩

end ServiceCall

/-! ## Many callers -/

namespace Crowd

variable {products : List ProductId} {w : Crowd} {i j : Nat} {c : Caller}

/-- **Callers each of whom asks about one product**, no two about the same. -/
structure Apart (products : List ProductId) (w : Crowd) : Prop where
  nodup : products.Nodup
  filed : w.store.committed.Filed
  callers : ∀ (i : Nat) c, w.callers[i]? = some c → ∃ p, products[i]? = some p ∧ c.Confined p w.store

/-- **What a number of turns of each caller has not changed**: what will become of the callers, and what is
held about products that nobody asks about. -/
structure Advances (products : List ProductId) (turns : Nat → Nat) (w w' : Crowd) : Prop where
  callers : ∀ i c p, w.callers[i]? = some c → products[i]? = some p → ∃ c', w'.callers[i]? = some c' ∧
    c'.outlook p w'.store = c.outlook p w.store ∧ c'.requests w'.store = c.requests w.store - turns i
  slices : ∀ p ∉ products, w'.store.committed.slice p = w.store.committed.slice p
  orders : w'.store.committed.orders = w.store.committed.orders
  products : w'.store.committed.products = w.store.committed.products

/-- **A step of one of them.** -/
theorem Apart.step (h : w.Apart products) (j : Nat) : (w.step j).Apart products ∧
    w.Advances products (fun i => if j = i then 1 else 0) (w.step j) := by
  cases hj : w.callers[j]? with
  | none =>
    have hsame : w.step j = w := by rw [Crowd.step, hj]
    rw [hsame]
    refine ⟨h, fun i c p hc _ => ⟨c, hc, rfl, ?_⟩, fun _ _ => rfl, rfl, rfl⟩
    rw [if_neg fun hji => by rw [hji, hc] at hj; cases hj]
    rfl
  | some cj =>
    obtain ⟨pj, hpj, hcj⟩ := h.callers j cj hj
    obtain ⟨hconfined, houtlook, hrequests, hagree⟩ := hcj.step
    have hstore : (w.step j).store = (cj.step w.store).2 := by rw [step_of_getElem? hj]
    rw [← hstore] at hconfined houtlook hrequests hagree
    -- Everybody else asks about another product.
    have hother {i : Nat} {c : Caller} {p : ProductId} (hc : w.callers[i]? = some c)
        (hp : products[i]? = some p) (hji : j ≠ i) :
        c.Confined p (w.step j).store ∧ c.outlook p (w.step j).store = c.outlook p w.store ∧
          c.requests (w.step j).store = c.requests w.store := by
      obtain ⟨p', hp', hc'⟩ := h.callers i c hc
      cases hp.symm.trans hp'
      have hne : p ≠ pj := fun hpp => hji <|
        (List.getElem?_inj (List.getElem?_eq_some_iff.mp hpj).1 h.nodup).mp (by rw [hpj, hp, hpp])
      exact hc'.elsewhere hconfined.desk.filed (hagree.slice p hne)
    refine ⟨⟨h.nodup, hconfined.desk.filed, fun i c hc => ?_⟩, fun i c p hc hp => ?_,
      fun p hp => ?_, hagree.orders, hagree.products⟩
    · rw [callers_step hj] at hc
      split at hc
      · next hji =>
        cases hc
        exact ⟨pj, hji ▸ hpj, hconfined⟩
      · next hji =>
        obtain ⟨p, hp, -⟩ := h.callers i c hc
        exact ⟨p, hp, (hother hc hp hji).1⟩
    · by_cases hji : j = i
      · subst hji
        cases hj.symm.trans hc
        cases hpj.symm.trans hp
        rw [callers_step hj, if_pos rfl, if_pos rfl]
        exact ⟨_, rfl, houtlook, hrequests⟩
      · rw [callers_step hj, if_neg hji, if_neg hji]
        exact ⟨c, hc, (hother hc hp hji).2⟩
    · exact hagree.slice p fun hpp => hp (hpp ▸ List.mem_of_getElem? hpj)

/-- **A run of them.** -/
theorem Apart.run (h : w.Apart products) (schedule : List Nat) :
    w.Advances products (schedule.count ·) (w.run schedule) := by
  induction schedule generalizing w with
  | nil => exact ⟨fun i c p hc _ => ⟨c, hc, rfl, rfl⟩, fun _ _ => rfl, rfl, rfl⟩
  | cons j schedule ih =>
    obtain ⟨hapart, hstep⟩ := h.step j
    have hrest := ih hapart
    refine ⟨fun i c p hc hp => ?_, fun p hp => (hrest.slices p hp).trans (hstep.slices p hp),
      hrest.orders.trans hstep.orders, hrest.products.trans hstep.products⟩
    obtain ⟨c', hc', houtlook, hrequests⟩ := hstep.callers i c p hc hp
    obtain ⟨c'', hc'', houtlook', hrequests'⟩ := hrest.callers i c' p hc' hp
    refine ⟨c'', hc'', houtlook'.trans houtlook, ?_⟩
    rw [run_cons, hrequests', hrequests, List.count_cons, Nat.sub_sub, Nat.add_comm]
    simp only [beq_iff_eq]

/-! ## Two callers -/

variable {a b : ServiceCall} {ta tb : Tape} {s : Store}

/-- **After one call and then another one about a different product** the store holds what each of them
alone would have left about its product. -/
theorem matches_sequence {t : Tables} (hpq : p ≠ q) (ha : a.moves? = some p) (hb : b.moves? = some q)
    (hs : s.committed.Filed) (hp : t.slice p = (a.finish ta s).2.2.committed.slice p)
    (hq : t.slice q = (b.finish tb s).2.2.committed.slice q)
    (hslices : ∀ r, r ≠ p → r ≠ q → t.slice r = s.committed.slice r)
    (horders : t.orders = s.committed.orders) (hproducts : t.products = s.committed.products) :
    t.Matches (b.finish tb (a.finish ta s).2.2).2.2.committed := by
  have hfresh : Desk.Alike p s s (.fresh ta) (.fresh ta) := .fresh ta hs rfl
  obtain ⟨-, -, hfirst⟩ := (ServiceCall.confined ha).finish_alike hfresh
  have hbeyond : s.committed.AgreeBeyond p (a.finish ta s).2.2.committed :=
    (ServiceCall.confined ha).finish_agreeBeyond hfresh
  obtain ⟨-, -, hsecond⟩ := (ServiceCall.confined hb).finish_alike
    (.fresh tb hfirst.filed (hbeyond.slice q hpq.symm))
  have hbeyond' : (a.finish ta s).2.2.committed.AgreeBeyond q
      (b.finish tb (a.finish ta s).2.2).2.2.committed :=
    (ServiceCall.confined hb).finish_agreeBeyond (.fresh tb hfirst.filed rfl)
  refine .of_slices (fun r => ?_) ?_ ?_
  · by_cases hrp : r = p
    · subst hrp
      rw [hp, hbeyond'.slice r hpq]
    by_cases hrq : r = q
    · subst hrq
      exact hq.trans hsecond.slice.symm
    · rw [hslices r hrp hrq, hbeyond'.slice r hrq, hbeyond.slice r hrp]
  · rw [horders, hbeyond'.orders, hbeyond.orders]
  · rw [hproducts, hbeyond'.products, hbeyond.products]

/-- **Movements of different products are independent**: over every store that can be reached, and however
two of them take turns until both have made their requests, each ends as it does alone, and the store is
the one after both of them, one after the other, in either order. -/
theorem independent_run {calls : List (ServiceCall × Tape)} (catalogue : Table ProductId Product)
    (hfits : ∀ call ∈ calls, call.1.Fits) {past : List Nat} (hpast : past.length < 2 ^ 63)
    (hs : s = ((opening catalogue calls).run past).store) (hpq : p ≠ q) (ha : a.moves? = some p)
    (hb : b.moves? = some q) {schedule : List Nat}
    (hfirst : (Caller.fresh a ta).requests s ≤ schedule.count 0)
    (hsecond : (Caller.fresh b tb).requests s ≤ schedule.count 1) :
    (∃ desk, ((⟨s, [.fresh a ta, .fresh b tb]⟩ : Crowd).run schedule).callers[0]? =
        some ⟨a, (a.finish ta s).1, desk⟩) ∧
      (∃ desk, ((⟨s, [.fresh a ta, .fresh b tb]⟩ : Crowd).run schedule).callers[1]? =
        some ⟨b, (b.finish tb s).1, desk⟩) ∧
      ((⟨s, [.fresh a ta, .fresh b tb]⟩ : Crowd).run schedule).store.committed.Matches
        (b.finish tb (a.finish ta s).2.2).2.2.committed ∧
      ((⟨s, [.fresh a ta, .fresh b tb]⟩ : Crowd).run schedule).store.committed.Matches
        (a.finish ta (b.finish tb s).2.2).2.2.committed := by
  have hfiled : s.committed.Filed := hs ▸ (assured_run catalogue hfits hpast).reachable.wellKept.filed
  have hapart : Apart [p, q] ⟨s, [.fresh a ta, .fresh b tb]⟩ := by
    refine ⟨by simpa using hpq, hfiled, fun i c hc => ?_⟩
    match i, hc with
    | 0, rfl => exact ⟨p, rfl, ServiceCall.confined_fresh ha hfiled ta⟩
    | 1, rfl => exact ⟨q, rfl, ServiceCall.confined_fresh hb hfiled tb⟩
  have hrun := hapart.run schedule
  obtain ⟨c, hc, houtlook, hrequests⟩ := hrun.callers 0 _ p rfl rfl
  obtain ⟨⟨desk, rfl⟩, hp⟩ := ServiceCall.finished_of_outlook
    (hrequests.trans (Nat.sub_eq_zero_of_le hfirst)) houtlook
  obtain ⟨c', hc', houtlook', hrequests'⟩ := hrun.callers 1 _ q rfl rfl
  obtain ⟨⟨desk', rfl⟩, hq⟩ := ServiceCall.finished_of_outlook
    (hrequests'.trans (Nat.sub_eq_zero_of_le hsecond)) houtlook'
  have hslices : ∀ r, r ≠ p → r ≠ q → _ := fun r hrp hrq => hrun.slices r (by simp [hrp, hrq])
  exact ⟨⟨desk, hc⟩, ⟨desk', hc'⟩,
    matches_sequence hpq ha hb hfiled hp hq hslices hrun.orders hrun.products,
    matches_sequence hpq.symm hb ha hfiled hq hp (fun r hrq hrp => hslices r hrp hrq) hrun.orders
      hrun.products⟩

/-- Two products in the stockroom. -/
def shelvedCalls : List (ServiceCall × Tape) :=
  [.register ⟨1⟩ 5 1, .register ⟨2⟩ 5 1].map (·, .unused (fun _ => ⟨0⟩) fun _ => ⟨0⟩)

/-- The store once both are there. -/
def shelvedStore : Store := ((opening .empty shelvedCalls).run [0, 0, 0, 0, 1, 1, 1, 1]).store

def shelvedTape : Tape := .unused (fun _ => ⟨0⟩) fun _ => ⟨0⟩

/-- One of them is reserved while the other one is restocked, and they take turns. -/
def shelvedRun : Crowd :=
  (⟨shelvedStore, [.fresh (.reserve .standard ⟨1⟩ 3 ⟨7⟩ none) shelvedTape,
    .fresh (.restock ⟨2⟩ 4 none none) shelvedTape]⟩ : Crowd).run (List.replicate 10 [0, 1]).flatten

/-- Both calls return what they return alone. -/
theorem independent_run_shelved :
    (∃ record desk, shelvedRun.callers[0]? =
        some ⟨.reserve .standard ⟨1⟩ 3 ⟨7⟩ none, .done (.ok record), desk⟩ ∧ record.reserved = 3) ∧
      (∃ record desk, shelvedRun.callers[1]? =
        some ⟨.restock ⟨2⟩ 4 none none, .done (.ok record), desk⟩ ∧ record.available = 9) ∧
      shelvedRun.store.committed.Matches (ServiceCall.finish (.restock ⟨2⟩ 4 none none) shelvedTape
        (ServiceCall.finish (.reserve .standard ⟨1⟩ 3 ⟨7⟩ none) shelvedTape
          shelvedStore).2.2).2.2.committed := by
  obtain ⟨⟨desk, hfirst⟩, ⟨desk', hsecond⟩, hmatches, -⟩ := @independent_run ⟨1⟩ ⟨2⟩
    (.reserve .standard ⟨1⟩ 3 ⟨7⟩ none) (.restock ⟨2⟩ 4 none none) shelvedTape shelvedTape shelvedStore
    shelvedCalls .empty (by simp [shelvedCalls, ServiceCall.Fits]; decide) [0, 0, 0, 0, 1, 1, 1, 1]
    (by decide) rfl (by decide) rfl rfl (List.replicate 10 [0, 1]).flatten (by decide) (by decide)
  exact ⟨⟨_, desk, hfirst, rfl⟩, ⟨_, desk', hsecond, rfl⟩, hmatches⟩

end Crowd

end Stockroom
