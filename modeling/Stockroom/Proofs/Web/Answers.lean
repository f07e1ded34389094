import Stockroom.Proofs.Service.Overlong
import Stockroom.Proofs.Service.Responds
import Stockroom.Web.Api

/-!
# Proofs/Web/Answers — every request is answered, save one kind

What a request brings is read without asking anybody (`Handling.Settles`), so only the call of an endpoint can
leave it without an answer:

* `Api.handle_answers` — **every request is answered** as long as reservations can last for the configured
  time, unless it asks to hold pieces for a span of its own whose end the calendar does not reach;
* `Api.handle_quiet` — **such a request changes nothing**, and if it is answered then the client is to blame;
* `Api.handle_alone_eq_none_iff` — it is left without an answer if no span is that long, and otherwise exactly
  where the pieces could have been held.
-/

namespace Stockroom.Web

open Store

variable {α β : Type} {clock : Nat → Instant} {k : Nat} {d d' : Desk} {s s' : Store}

/-! ## Responses -/

namespace Response

/-- **The client is to blame.** -/
def BlamesClient (response : Response) : Prop := 400 ≤ response.status ∧ response.status < 500

theorem blamesClient_ofRefusal (refusal : Refusal) : (ofRefusal refusal).BlamesClient := by
  cases refusal <;> simp [ofRefusal, problem, BlamesClient]

/-- Every error but those of the store. -/
theorem blamesClient_ofError {error : ServiceError} (h : ∀ failure, error ≠ .storeFailed failure) :
    (ofError error).BlamesClient := by
  cases error with
  | refused refusal => exact blamesClient_ofRefusal refusal
  | storeFailed failure => exact absurd rfl (h failure)
  | _ => simp [ofError, problem, BlamesClient]

end Response

/-! ## What a request brings -/

/-- **A part of a handler that asks nobody.** -/
def Handling.Settles (p : Handling α) : Prop := ∃ result, p.run = .done result

/-- After a part that has found something. -/
theorem Handling.run_bind {p : Handling α} {f : α → Handling β} {a : α} (h : p.run = .done (.ok a)) :
    (p >>= f).run = (f a).run := congrArg (· >>= ExceptT.bindCont f) h

namespace Handling.Settles

theorem pure (a : α) : Settles (Pure.pure a) := ⟨_, rfl⟩

theorem throw (response : Response) : Settles (MonadExcept.throw response : Handling α) := ⟨_, rfl⟩

theorem bind {p : Handling α} {f : α → Handling β} (h : p.Settles) (hf : ∀ a, (f a).Settles) :
    Settles (p >>= f) := by
  obtain ⟨_ | a, hp⟩ := h
  · exact ⟨_, congrArg (· >>= ExceptT.bindCont f) hp⟩
  · exact (hf a).imp fun _ ha => (run_bind hp).trans ha

/-- What comes after it is told what it has found. -/
theorem responds_bind {p : Handling α} {f : α → Handling β} (h : p.Settles)
    (hf : ∀ a, p.run = .done (.ok a) → Responds clock k (f a)) : Responds clock k (p >>= f) := by
  obtain ⟨response | a, hp⟩ := h
  · have hrun : (p >>= f).run = .done (.error response) := congrArg (· >>= ExceptT.bindCont f) hp
    exact ⟨hrun ▸ trivial⟩
  · exact ⟨run_bind hp ▸ (hf a hp).answers⟩

end Handling.Settles

/-! ## Requests to hold pieces -/

/-- **A span of its own whose end the calendar does not reach**, or that is longer than every span. -/
def Holding.Overlong (b : Holding) (now : Instant) : Prop :=
  ∃ seconds, b.ttlSeconds = some seconds ∧ 0 < seconds ∧ (Span.ofSeconds? seconds).bind now.after? = none

/-- **A request to hold pieces of a product**, with all that it has to bring. -/
structure Request.AsksToHold (r : Request) (product : ProductId) (b : Holding) : Prop where
  leads : ∃ route opened, Route.find? r.path = some (route, opened) ∧
    route.endpoint? r.method = some .reserve ∧
    (Api.productOf (opened.headD "")).run = .done (.ok product)
  brings : (Api.body r Holding.read).run = .done (.ok b)

/-- Pieces are held for a POST only. -/
theorem Request.AsksToHold.method_eq {r : Request} {product : ProductId} {b : Holding}
    (h : r.AsksToHold product b) : r.method = .post := by
  obtain ⟨route, opened, hfind, hend, -⟩ := h.leads
  have hroute : route ∈ routes := by
    obtain ⟨parts, -, hsome⟩ := Option.bind_eq_some_iff.mp hfind
    obtain ⟨route', hmem, hfit⟩ := List.exists_of_findSome?_eq_some hsome
    obtain ⟨_, -, heq⟩ := Option.map_eq_some_iff.mp hfit
    cases heq
    exact hmem
  have hposts : ∀ method, ∀ route ∈ routes, route.endpoint? method = some .reserve → method = .post := by
    intro method
    cases method <;> decide
  exact hposts _ route hroute hend

namespace Api

open Handling (Settles)

section

variable {r : Request} {part : String}

theorem settles_orRespond (value : Option α) (response : Response) : Settles (orRespond value response) := by
  cases value with
  | some a => exact .pure a
  | none => exact .throw response

theorem settles_textOf (name : String) : Settles (textOf name part) := settles_orRespond ..

theorem settles_numberOf (name : String) : Settles (numberOf name part) :=
  .bind (settles_textOf name) fun _ => settles_orRespond ..

theorem settles_productOf : Settles (productOf part) := .bind (settles_numberOf _) fun _ => .pure _

theorem settles_orderOf : Settles (orderOf part) := .bind (settles_numberOf _) fun _ => .pure _

theorem settles_user : Settles (user r) :=
  .bind (settles_orRespond ..) fun _ => .bind (settles_orRespond ..) fun _ => .pure _

theorem settles_operator : Settles (operator r) := by
  unfold operator
  split
  · exact .pure _
  · exact .bind (settles_orRespond ..) fun _ => .pure _

theorem settles_query (read : String → Except Query.Fault α) : Settles (query r read) :=
  settles_orRespond ..

theorem settles_obey (value : Except Refusal α) : Settles (obey value) := ⟨_, rfl⟩

theorem settles_body (read : Json.Reader α) : Settles (body r read) := by
  unfold body
  dsimp only
  split
  · split <;> exact ⟨_, rfl⟩
  · exact ⟨_, rfl⟩

end

/-! ## What is asked of the service -/

theorem responds_serve {call : Call α} {answer : α → Response} (h : Responds clock k call) :
    Responds clock k (do return answer (← serve call)) :=
  .bind ⟨Program.Answers.bind h.answers fun _ _ => trivial⟩ fun _ _ => .pure _

/-- An answer that shows the result of a call. -/
theorem responds_call (call : ServiceCall) {answer : call.Result → Response} (h : call.Lasts clock k) :
    Responds clock k (do return answer (← serve call.program)) := responds_serve (ServiceCall.responds h)

/-! ### Pieces to hold -/

/-- What becomes of a body that asks to hold pieces of a product. -/
def hold (stock : StockSettings) (product : ProductId) (b : Holding) : Handling Response := do
  let ttl ← ttl b.ttlSeconds
  stockAfter (StockService.reserve stock product b.quantity b.order ttl)

variable {stock : StockSettings} {orders : OrderSettings} {product : ProductId} {b : Holding} {seconds : Int}

theorem hold_of_default (hb : b.ttlSeconds = none) : hold stock product b =
    stockAfter (StockService.reserve stock product b.quantity b.order none) := by
  rw [hold, hb]
  rfl

theorem hold_of_nonpos (hb : b.ttlSeconds = some seconds) (hle : seconds ≤ 0) :
    (hold stock product b).run = .done (.error .invalidTtl) := by
  rw [hold, hb, ttl, if_pos hle]
  rfl

theorem hold_of_span {span : Span} (hb : b.ttlSeconds = some seconds) (hpos : 0 < seconds)
    (hspan : Span.ofSeconds? seconds = some span) : hold stock product b =
      stockAfter (StockService.reserve stock product b.quantity b.order (some span)) := by
  rw [hold, hb, ttl, if_neg (by omega), hspan]
  rfl

/-- If no span is that long, nobody is asked anything. -/
theorem hold_of_none (hb : b.ttlSeconds = some seconds) (hpos : 0 < seconds)
    (hspan : Span.ofSeconds? seconds = none) : (hold stock product b).run = .abort := by
  rw [hold, hb, ttl, if_neg (by omega), hspan]
  rfl

theorem responds_hold (hlasts : ((clock k).after? stock.reservationTtl).isSome)
    (h : ¬b.Overlong (clock k)) : Responds clock k (hold stock product b) := by
  cases hb : b.ttlSeconds with
  | none =>
    rw [hold_of_default hb]
    exact responds_serve (StockService.responds_reserve hlasts)
  | some seconds =>
    by_cases hpos : 0 < seconds
    case neg =>
      refine ⟨?_⟩
      rw [hold_of_nonpos hb (Int.not_lt.mp hpos)]
      exact trivial
    cases hspan : Span.ofSeconds? seconds with
    | none => exact absurd ⟨seconds, hb, hpos, by rw [hspan]; rfl⟩ h
    | some span =>
      rw [hold_of_span hb hpos hspan]
      refine responds_serve (StockService.responds_reserve (Option.isSome_iff_ne_none.mpr fun hnone => h ?_))
      exact ⟨seconds, hb, hpos, by rw [hspan]; exact hnone⟩

/-- A call that ends with errors of some kind only. -/
theorem meets_serve {T : Terms} {E : ServiceError → Desk → Store → Prop} {P : Response → Prop} {call : Call α}
    (h : call.Meets T (fun _ _ _ => False) E d s) (hE : ∀ error d s, E error d s → P (.ofError error)) :
    (serve call).run.Meets T (fun result _ _ => ∃ response, result = .error response ∧ P response) d s :=
  Program.Meets.bind h fun result d' s' hQ s'' hs => by
    cases result with
    | ok a => exact (hQ s'' hs).elim
    | error error => exact ⟨_, rfl, hE error d' s'' (hQ s'' hs)⟩

/-- **A body that asks for too long a span** changes nothing. -/
theorem hold_quiet (h : b.Overlong d.tape.time) : (hold stock product b).run.Meets .quiet
    (fun result _ _ => ∃ response, result = .error response ∧ response.BlamesClient) d s := by
  obtain ⟨seconds, hb, hpos, hnone⟩ := h
  cases hspan : Span.ofSeconds? seconds with
  | none =>
    rw [hold_of_none hb hpos hspan]
    exact trivial
  | some span =>
    rw [hspan] at hnone
    rw [hold_of_span hb hpos hspan]
    have hquiet : (StockService.reserve stock product b.quantity b.order (some span)).Meets .quiet _ _ d s :=
      StockService.reserve_quiet hnone
    refine (meets_serve hquiet fun _ _ _ => Response.blamesClient_ofError).bind fun result d' s' hresult => ?_
    obtain ⟨response, rfl, hblame⟩ := hresult s' trivial
    exact fun _ _ => ⟨response, rfl, hblame⟩

/-- **When it is left without an answer**: if no span is that long, or if the pieces could have been held. -/
theorem hold_alone_eq_none_iff (hs : s.committed.Filed) (h : b.Overlong d.tape.time) :
    (hold stock product b).run.alone d s = none ↔ b.ttlSeconds.bind Span.ofSeconds? = none ∨
      ∃ record next, s.committed.liveStock? product = some record ∧
        record.reserve b.quantity d.tape.time = .ok next := by
  obtain ⟨seconds, hb, hpos, hnone⟩ := h
  rw [hb, Option.bind_some]
  cases hspan : Span.ofSeconds? seconds with
  | none =>
    rw [hold_of_none hb hpos hspan]
    exact iff_of_true rfl (.inl rfl)
  | some span =>
    rw [hspan] at hnone
    have hreserve : (StockService.reserve stock product b.quantity b.order (some span)).run.alone d s =
        none ↔ _ := StockService.reserve_alone_eq_none_iff hs hnone
    rw [hold_of_span hb hpos hspan, or_iff_right nofun, ← hreserve]
    refine (Program.alone_bind_eq_none_iff fun result => ?_).trans
      (Program.alone_bind_eq_none_iff fun result => ⟨_, rfl⟩)
    cases result <;> exact ⟨_, rfl⟩

/-! ## Handlers -/

variable {r : Request}

/-- **Every endpoint answers**, if the pieces that are to be held can be. -/
theorem responds_respond {part : String} {endpoint : Endpoint}
    (hlasts : ∀ i, ((clock i).after? stock.reservationTtl).isSome)
    (hhold : ∀ product b, endpoint = .reserve → (productOf part).run = .done (.ok product) →
      (body r Holding.read).run = .done (.ok b) → ¬b.Overlong (clock k)) :
    Responds clock k (respond stock orders r part endpoint) := by
  cases endpoint with
  | health => exact .pure _
  | createStock => exact (settles_body _).responds_bind fun _ _ => responds_call (.register ..) trivial
  | listStock => exact (settles_query _).responds_bind fun _ _ => responds_call (.listStock _) trivial
  | listLowStock => exact (settles_query _).responds_bind fun _ _ => responds_call (.listLowStock _) trivial
  | checkMany => exact (settles_body _).responds_bind fun _ _ => responds_call (.checkAll _) trivial
  | cleanup => exact responds_call (.cleanup _) trivial
  | stock => exact settles_productOf.responds_bind fun _ _ => responds_call (.stockOf _) trivial
  | removeStock => exact settles_productOf.responds_bind fun _ _ => responds_call (.remove _) trivial
  | setThreshold =>
    exact settles_productOf.responds_bind fun _ _ => (settles_body _).responds_bind fun _ _ =>
      responds_call (.setThreshold ..) trivial
  | entries =>
    exact settles_productOf.responds_bind fun _ _ => (settles_query _).responds_bind fun _ _ =>
      responds_call (.entriesOf ..) trivial
  | availability =>
    exact settles_productOf.responds_bind fun _ _ => (settles_query _).responds_bind fun _ _ =>
      responds_serve StockService.responds_checkAvailability
  | reserve =>
    refine settles_productOf.responds_bind fun product hproduct => ?_
    refine (settles_body _).responds_bind fun b hb => ?_
    exact responds_hold (hlasts k) (hhold product b rfl hproduct hb)
  | release =>
    exact settles_productOf.responds_bind fun _ _ => (settles_body _).responds_bind fun _ _ =>
      responds_call (.release ..) trivial
  | deduct =>
    exact settles_productOf.responds_bind fun _ _ => (settles_body _).responds_bind fun _ _ =>
      responds_call (.deduct ..) trivial
  | restock =>
    exact settles_productOf.responds_bind fun _ _ => settles_operator.responds_bind fun _ _ =>
      (settles_body _).responds_bind fun _ _ => responds_call (.restock ..) trivial
  | adjust =>
    exact settles_productOf.responds_bind fun _ _ => settles_operator.responds_bind fun _ _ =>
      (settles_body _).responds_bind fun _ _ => responds_call (.adjust ..) trivial
  | createOrder =>
    exact settles_user.responds_bind fun _ _ => (settles_body _).responds_bind fun _ _ =>
      (settles_obey _).responds_bind fun _ _ => responds_call (.create ..) hlasts
  | listOrders =>
    exact settles_user.responds_bind fun _ _ => (settles_query _).responds_bind fun _ _ =>
      responds_call (.ordersOf ..) trivial
  | orderByNumber =>
    exact settles_user.responds_bind fun _ _ => (settles_textOf _).responds_bind fun _ _ =>
      responds_call (.orderByNumber ..) trivial
  | order =>
    exact settles_user.responds_bind fun _ _ => settles_orderOf.responds_bind fun _ _ =>
      responds_call (.orderOf ..) trivial
  | pay =>
    exact settles_user.responds_bind fun _ _ => settles_orderOf.responds_bind fun _ _ =>
      responds_call (.pay ..) trivial
  | ship => exact settles_orderOf.responds_bind fun _ _ => responds_call (.ship _) trivial
  | complete => exact settles_orderOf.responds_bind fun _ _ => responds_call (.complete _) trivial
  | cancel =>
    exact settles_user.responds_bind fun _ _ => settles_orderOf.responds_bind fun _ _ =>
      responds_call (.cancel ..) trivial
  | reservations => exact settles_orderOf.responds_bind fun _ _ => responds_call (.reservationsOf _) trivial

/-- The response of a handler, which may have ended early. -/
def ended : Except Response Response → Response
  | .ok response | .error response => response

theorem handle_eq_of_asksToHold (h : r.AsksToHold product b) :
    handle stock orders r = ended <$> (hold stock product b).run := by
  have hpost := h.method_eq
  obtain ⟨⟨route, opened, hfind, hend, hproduct⟩, hb⟩ := h
  rw [hpost] at hend
  have hrespond : (respond stock orders r (opened.headD "") .reserve).run = (hold stock product b).run :=
    (Handling.run_bind hproduct).trans (Handling.run_bind hb)
  simp only [handle, hfind, hend, hrespond, hpost]
  refine congrArg _ (funext fun result => ?_)
  cases result <;> rfl

/-- **Every request is answered**, whatever the store answers, unless it asks for too long a span. -/
theorem handle_answers (orders : OrderSettings) (hlasts : ∀ i, ((clock i).after? stock.reservationTtl).isSome)
    (hspan : ∀ product b, r.AsksToHold product b → ¬b.Overlong (clock k)) :
    (handle stock orders r).Answers clock k := by
  unfold handle
  split
  · exact trivial
  next route opened hfind =>
  split
  · exact trivial
  next endpoint hend =>
  refine (responds_respond hlasts ?_).answers.bind fun result k => ?_
  · rintro product b rfl hproduct hb
    exact hspan product b ⟨⟨route, opened, hfind, hend, hproduct⟩, hb⟩
  · cases result <;> exact trivial

/-- **A request for too long a span changes nothing**, whatever the others do. -/
theorem handle_quiet (h : r.AsksToHold product b) (hlong : b.Overlong d.tape.time) :
    (handle stock orders r).Meets .quiet (fun response _ _ => response.BlamesClient) d s := by
  rw [handle_eq_of_asksToHold h]
  refine (hold_quiet hlong).bind fun result d' s' hresult => ?_
  obtain ⟨response, rfl, hblame⟩ := hresult s' trivial
  exact fun _ _ => hblame

theorem handle_alone_of_nonpos (h : r.AsksToHold product b) (hb : b.ttlSeconds = some seconds)
    (hle : seconds ≤ 0) : (handle stock orders r).alone d s = some (.invalidTtl, d, s) := by
  rw [handle_eq_of_asksToHold h, hold_of_nonpos hb hle]
  rfl

theorem handle_alone_eq_none_iff (hs : s.committed.Filed) (h : r.AsksToHold product b)
    (hlong : b.Overlong d.tape.time) :
    (handle stock orders r).alone d s = none ↔ b.ttlSeconds.bind Span.ofSeconds? = none ∨
      ∃ record next, s.committed.liveStock? product = some record ∧
        record.reserve b.quantity d.tape.time = .ok next := by
  rw [handle_eq_of_asksToHold h, ← hold_alone_eq_none_iff hs hlong]
  exact Program.alone_bind_eq_none_iff fun result => ⟨_, rfl⟩

/-! ### A span that is longer than every span -/

theorem run_productOf {part text : String} {n : Int} (htext : Percent.decode? part = some text)
    (hn : Numeral.read? .int64 text = some n) : (productOf part).run = .done (.ok ⟨n⟩) := by
  rw [productOf, numberOf, textOf, htext]
  show (orRespond (Numeral.read? .int64 text) (.unreadableNumber text) >>= _ : Handling _).run = _
  rw [hn]
  rfl

theorem run_body {read : Json.Reader α} {a : α} (hjson : announcesJson r = true)
    (hread : Json.decodeFront read r.body = .ok a) : (body r read).run = .done (.ok a) := by
  unfold body
  simp only [hjson, hread, if_true]
  rfl

/-- One piece is to be held for as many seconds as 64 bits can count. -/
def endless : Request :=
  ⟨.post, "/inventories/1/reserve", [("content-type", "application/json")], "[7,1,9223372036854775807]"⟩

theorem endless_asksToHold : endless.AsksToHold ⟨1⟩ ⟨⟨7⟩, 1, some 9223372036854775807⟩ where
  leads := by
    let route : Route := ⟨[.fixed "inventories", .open, .fixed "reserve"], [(.post, .reserve)]⟩
    have hpath : endless.path = "/inventories/1/reserve" := rfl
    have hparts : pathParts "/inventories/1/reserve" = some ["inventories", "1", "reserve"] := by
      decide +kernel
    have hfind : Route.find? endless.path = some (route, ["1"]) := by
      rw [Route.find?, hpath, hparts]
      rfl
    have htext : Percent.decode? "1" = some "1" := by decide +kernel
    have hn : Numeral.read? .int64 "1" = some 1 := by decide +kernel
    exact ⟨route, ["1"], hfind, rfl, run_productOf htext hn⟩
  brings := run_body (by decide +kernel) (by decide +kernel)

theorem endless_overlong (now : Instant) : Holding.Overlong ⟨⟨7⟩, 1, some 9223372036854775807⟩ now :=
  ⟨9223372036854775807, rfl, by decide, rfl⟩

/-- The time stands still. -/
def stillTape : Tape := .unused (fun _ => ⟨0⟩) fun _ => ⟨0⟩

/-! ## All requests -/

/-- **Every request is answered unless it asks for too long a span**, as long as reservations can last for the
configured time.  A span that is not positive is turned down; one that is too long changes nothing, and if it
is answered then the client is to blame. -/
theorem answered_unless_overlong (stock : StockSettings) (orders : OrderSettings) (r : Request)
    (hs : s.Attained) (hlasts : ∀ i, ((d.tape.clock i).after? stock.reservationTtl).isSome) :
    ((∀ product b, r.AsksToHold product b → ¬b.Overlong d.tape.time) →
      (handle stock orders r).Answers d.tape.clock d.tape.readings ∧
        ∃ response d' s', (handle stock orders r).alone d s = some (response, d', s')) ∧
    ∀ product b, r.AsksToHold product b →
      (∀ seconds, b.ttlSeconds = some seconds → seconds ≤ 0 →
        (handle stock orders r).alone d s = some (.invalidTtl, d, s)) ∧
      (b.Overlong d.tape.time →
        (handle stock orders r).Meets .quiet (fun response _ _ => response.BlamesClient) d s ∧
        (∀ response d' s', (handle stock orders r).alone d s = some (response, d', s') →
          response.BlamesClient ∧ s' = s) ∧
        ((handle stock orders r).alone d s = none ↔ b.ttlSeconds.bind Span.ofSeconds? = none ∨
          ∃ record next, s.committed.liveStock? product = some record ∧
            record.reserve b.quantity d.tape.time = .ok next)) := by
  refine ⟨fun hspan => ?_, fun product b h => ⟨fun seconds hb hle => ?_, fun hlong => ⟨?_, ?_, ?_⟩⟩⟩
  · have hanswers := handle_answers orders hlasts hspan
    exact ⟨hanswers, hanswers.alone⟩
  · exact handle_alone_of_nonpos h hb hle
  · exact handle_quiet h hlong
  · exact fun response d' s' halone => (handle_quiet h hlong).alone_quiet halone
  · exact handle_alone_eq_none_iff hs.filed h hlong

/-- **A piece of the crate that is to be held without end**: the request is left without an answer. -/
theorem answered_unless_overlong_crate : crateStore.Attained ∧
    (∀ i, ((stillTape.clock i).after? StockSettings.standard.reservationTtl).isSome) ∧
    endless.AsksToHold ⟨1⟩ ⟨⟨7⟩, 1, some 9223372036854775807⟩ ∧
    (handle .standard .standard endless).alone (.fresh stillTape) crateStore = none := by
  have hattained : crateStore.Attained := .answered .empty _ _
  have hlasts : ∀ i, ((stillTape.clock i).after? StockSettings.standard.reservationTtl).isSome := fun _ => rfl
  refine ⟨hattained, hlasts, endless_asksToHold, ?_⟩
  have hasks := (answered_unless_overlong .standard .standard endless (d := .fresh stillTape) hattained
    hlasts).2 _ _ endless_asksToHold
  exact (hasks.2 (endless_overlong _)).2.2.mpr (.inl rfl)

/-- **Not every request is answered.** -/
theorem endless_unanswered : ¬∀ (stock : StockSettings) (orders : OrderSettings) (r : Request) (d : Desk)
    (s : Store), s.Attained → (∀ i, ((d.tape.clock i).after? stock.reservationTtl).isSome) →
      ∃ response d' s', (handle stock orders r).alone d s = some (response, d', s') := by
  intro h
  obtain ⟨response, d', s', halone⟩ := h .standard .standard endless (.fresh stillTape) crateStore
    (.answered .empty _ _) fun _ => rfl
  have habort : (hold .standard ⟨1⟩ ⟨⟨7⟩, 1, some 9223372036854775807⟩).run = .abort :=
    hold_of_none rfl (by decide) rfl
  rw [handle_eq_of_asksToHold endless_asksToHold, habort] at halone
  cases halone

end Api

end Stockroom.Web
