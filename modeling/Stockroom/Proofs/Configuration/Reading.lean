import Stockroom.Configuration
import Stockroom.Proofs.Data.Except
import Stockroom.Proofs.Numeric.Numeral

/-!
# Proofs/Configuration/Reading — what is read from named texts

Eight settings are numbers (`NumberSetting.all`), each with a width, a standard value, and perhaps the demand
to be at least 1.  `Environment.Sets` tells the number that such a setting has: the one its text denotes, or
the standard one if it is not named.  `Environment.Configures` tells the whole configuration in the same way,
and `Environment.Faulty` what is wrong with a text.

**Reading succeeds exactly with the configuration that the texts tell, and an error names a text that is at
fault** (`Configuration.read_iff`).  There is no answer in one case only: the minutes of a reservation denote
more than a span can be long.  All other numbers are followed to their setting without such a bound.
-/

namespace Stockroom

/-! ## The numbers among the settings -/

/-- A setting that is a number: its name, its width, whether it has to be at least 1, and its standard
value. -/
structure NumberSetting where
  key : String
  width : Width
  isPositive : Bool
  standard : Int
deriving DecidableEq

namespace NumberSetting

def ttl : NumberSetting := ⟨"INVENTORY_RESERVATION_TTL_MINUTES", .int64, true, 30⟩
def interval : NumberSetting := ⟨"INVENTORY_CLEANUP_INTERVAL_SECS", .nat64, true, 300⟩
def timeout : NumberSetting := ⟨"INVENTORY_CLEANUP_TIMEOUT_SECS", .nat64, true, 30⟩
def batch : NumberSetting := ⟨"INVENTORY_CLEANUP_BATCH_SIZE", .nat32, true, 100⟩
def attempts : NumberSetting := ⟨"ORDER_MAX_CREATE_ATTEMPTS", .nat32, true, 3⟩
def backoff : NumberSetting := ⟨"ORDER_RETRY_BACKOFF_MS", .nat64, false, 10⟩
def tcpPort : NumberSetting := ⟨"DATABASE_PORT", .nat16, false, 3306⟩
def maxConnections : NumberSetting := ⟨"DATABASE_MAX_CONNECTIONS", .nat32, false, 10⟩

/-- All of them, in the order in which they are read. -/
def all : List NumberSetting :=
  [ttl, interval, timeout, batch, attempts, backoff, tcpPort, maxConnections]

/-- No standard value is at fault. -/
theorem standard_pos : ∀ s ∈ all, 1 ≤ s.standard := by decide

end NumberSetting

namespace Environment

variable (env : Environment) {s : NumberSetting} {n : Int}

/-- The number that a text denotes, or the standard one for no text. -/
def Tells (s : NumberSetting) (n : Int) : Prop :=
  match env.get? s.key with
  | none => n = s.standard
  | some text => Numeral.Denotes s.width text.toList n

/-- **The number that a setting has.** -/
def Sets (s : NumberSetting) (n : Int) : Prop := env.Tells s n ∧ (s.isPositive = true → 1 ≤ n)

/-- **The kind of store that is named**, ignoring the case of ASCII letters. -/
def Backs (backend : StoreBackend) : Prop :=
  match env.get? "STORE_BACKEND", backend with
  | none, .mySql => True
  | none, .memory => False
  | some text, .mySql => text.map Char.toLower = "mysql"
  | some text, .memory => text.map Char.toLower = "memory"

/-! ### Groups of settings

Every setting has the value of its own text, or its standard value if it is not named. -/

structure ConfiguresStock (settings : StockSettings) : Prop where
  ttl : ∃ minutes, env.Sets .ttl minutes ∧ settings.reservationTtl.nanos = minutes * 60 * 1000000000
  ttl_le : settings.reservationTtl.nanos ≤ Span.limit
  interval : ∃ seconds : Nat, env.Sets .interval seconds ∧ settings.cleanupInterval = seconds * 1000
  timeout : ∃ seconds : Nat, env.Sets .timeout seconds ∧ settings.cleanupTimeout = seconds * 1000
  batch : env.Sets .batch settings.cleanupBatch

structure ConfiguresOrder (settings : OrderSettings) : Prop where
  attempts : env.Sets .attempts settings.maxAttempts
  backoff : env.Sets .backoff settings.backoff

structure ConfiguresDatabase (settings : DatabaseSettings) : Prop where
  host : settings.host = (env.get? "DATABASE_HOST").getD "localhost"
  tcpPort : env.Sets .tcpPort settings.tcpPort
  database : settings.database = (env.get? "DATABASE_NAME").getD "stock_reservation"
  username : settings.username = (env.get? "DATABASE_USER").getD "stock_user"
  password : settings.password = (env.get? "DATABASE_PASSWORD").getD "stock_password"
  maxConnections : env.Sets .maxConnections settings.maxConnections

/-- **The configuration that the texts tell.** -/
structure Configures (c : Configuration) : Prop where
  backend : env.Backs c.backend
  stock : env.ConfiguresStock c.stock
  order : env.ConfiguresOrder c.order
  database : env.ConfiguresDatabase c.database
  bindAddress : c.bindAddress = (env.get? "SERVER_BIND_ADDRESS").getD "0.0.0.0:3000"

/-- **What is wrong with a text.** -/
inductive Faulty : ConfigurationError → Prop where
  | unknownBackend {text : String} (htext : env.get? "STORE_BACKEND" = some text)
      (hunknown : ∀ backend, ¬env.Backs backend) : Faulty (.unknownBackend (text.map Char.toLower))
  | unreadable {s : NumberSetting} {text : String} (hs : s ∈ NumberSetting.all)
      (htext : env.get? s.key = some text) (hnone : ∀ n, ¬Numeral.Denotes s.width text.toList n)
      (error : NumeralError) : Faulty (.unreadable s.key error)
  | notPositive {s : NumberSetting} {text : String} {n : Int} (hs : s ∈ NumberSetting.all)
      (hpositive : s.isPositive = true) (htext : env.get? s.key = some text)
      (hn : Numeral.Denotes s.width text.toList n) (hle : n ≤ 0) : Faulty (.notPositive s.key n)

/-! ## One setting -/

/-- What is read for a setting. -/
def value (s : NumberSetting) : Except ConfigurationError Int :=
  if s.isPositive then env.positive s.width s.key s.standard
  else env.number s.width s.key s.standard

theorem number_eq_ok_iff : env.number s.width s.key s.standard = .ok n ↔ env.Tells s n := by
  unfold number Tells
  cases env.get? s.key with
  | none => exact ⟨fun h => (Except.ok.inj h).symm, fun h => congrArg _ h.symm⟩
  | some text => exact mapError_eq_ok_iff.trans Numeral.read_eq_ok_iff

theorem positive_eq_ok_iff :
    env.positive s.width s.key s.standard = .ok n ↔ env.Tells s n ∧ 1 ≤ n := by
  rw [positive, bind_eq_ok_iff]
  constructor
  · rintro ⟨m, hm, h⟩
    by_cases hle : m ≤ 0
    · simp [hle] at h
    · simp only [hle, if_false, pure_eq_ok_iff] at h
      subst h
      exact ⟨(env.number_eq_ok_iff).mp hm, by omega⟩
  · rintro ⟨hn, hpos⟩
    refine ⟨n, (env.number_eq_ok_iff).mpr hn, ?_⟩
    have hle : ¬n ≤ 0 := by omega
    simp [hle]

/-- **A setting is read as the number that it has.** -/
theorem value_eq_ok_iff : env.value s = .ok n ↔ env.Sets s n := by
  unfold value Sets
  split
  · next hpositive => simp [positive_eq_ok_iff, hpositive]
  · next hpositive => simp [number_eq_ok_iff, hpositive]

/-- **Or its text is at fault.** -/
theorem faulty_of_value {e : ConfigurationError} (hs : s ∈ NumberSetting.all)
    (h : env.value s = .error e) : env.Faulty e := by
  have hnumber {e : ConfigurationError} (h : env.number s.width s.key s.standard = .error e) :
      env.Faulty e := by
    unfold number at h
    cases htext : env.get? s.key with
    | none => rw [htext] at h; cases h
    | some text =>
      rw [htext] at h
      dsimp only at h
      cases hread : Numeral.read s.width text with
      | ok n => rw [hread] at h; cases h
      | error error =>
        rw [hread] at h
        cases h
        refine .unreadable hs htext (fun n hn => ?_) error
        cases hread.symm.trans (Numeral.read_eq_ok_iff.mpr hn)
  unfold value at h
  split at h
  · next hpositive =>
    rw [positive, bind_eq_error_iff] at h
    obtain h | ⟨n, hn, h⟩ := h
    · exact hnumber h
    · by_cases hle : n ≤ 0
      · simp only [hle, if_true] at h
        cases h
        have htells := env.number_eq_ok_iff.mp hn
        unfold Tells at htells
        cases htext : env.get? s.key with
        | none =>
          have := NumberSetting.standard_pos s hs
          rw [htext] at htells
          dsimp only at htells
          omega
        | some text =>
          rw [htext] at htells
          exact .notPositive hs hpositive htext htells hle
      · simp only [hle, if_false] at h
        cases h
  · exact hnumber h

/-- **A backend is read as the one that is named.** -/
theorem backend_eq_ok_iff {b : StoreBackend} : env.backend = .ok b ↔ env.Backs b := by
  unfold backend Backs StoreBackend.ofText
  cases env.get? "STORE_BACKEND" with
  | none => cases b <;> simp
  | some text =>
    dsimp only
    split
    · next h => cases b <;> simp [h]
    · next h => cases b <;> simp [h]
    · next hmysql hmemory =>
      cases b with
      | mySql => exact ⟨nofun, fun h => (hmysql h).elim⟩
      | memory => exact ⟨nofun, fun h => (hmemory h).elim⟩

theorem faulty_of_backend {e : ConfigurationError} (h : env.backend = .error e) : env.Faulty e := by
  have hunknown (b : StoreBackend) : ¬env.Backs b := fun hb => by
    cases h.symm.trans (env.backend_eq_ok_iff.mpr hb)
  unfold backend at h
  cases htext : env.get? "STORE_BACKEND" with
  | none => rw [htext] at h; cases h
  | some text =>
    rw [htext] at h
    dsimp only [StoreBackend.ofText] at h
    split at h
    · cases h
    · cases h
    · cases h
      exact .unknownBackend htext hunknown

/-- A number without a sign. -/
theorem Sets.natCast_toNat (h : env.Sets s n) (hwidth : s.width.least = 0) (hstandard : 0 ≤ s.standard) :
    (n.toNat : Int) = n := by
  refine Int.toNat_of_nonneg ?_
  have htells := h.1
  unfold Tells at htells
  split at htells
  · exact htells ▸ hstandard
  · exact hwidth ▸ htells.fits.1

/-! ## Groups of settings -/

theorem stock_eq : env.stock = (do
    let ttl ← liftM (env.value .ttl)
    let reservationTtl ← ExceptT.lift (Span.ofMinutes? ttl)
    let interval ← liftM (env.value .interval)
    let timeout ← liftM (env.value .timeout)
    let batch ← liftM (env.value .batch)
    return ⟨reservationTtl, interval.toNat * 1000, timeout.toNat * 1000, batch.toNat⟩) := rfl

theorem order_eq : env.order = (do
    let attempts ← env.value .attempts
    let backoff ← env.value .backoff
    return ⟨attempts.toNat, backoff.toNat⟩) := rfl

theorem database_eq : env.database = (do
    let tcpPort ← env.value .tcpPort
    let maxConnections ← env.value .maxConnections
    return ⟨env.text "DATABASE_HOST" "localhost", tcpPort.toNat,
      env.text "DATABASE_NAME" "stock_reservation", env.text "DATABASE_USER" "stock_user",
      env.text "DATABASE_PASSWORD" "stock_password", maxConnections.toNat⟩) := rfl

/-- A span of minutes, at least one. -/
theorem ofMinutes?_eq (h : 1 ≤ n) : Span.ofMinutes? n =
    if n * 60 * 1000000000 ≤ Span.limit then some ⟨n * 60 * 1000000000⟩ else none := by
  have hlimit : -Span.limit ≤ n * 60 * 1000000000 :=
    Int.le_trans (by decide : -Span.limit ≤ 0) (by omega)
  simp only [Span.ofMinutes?, Span.ofSeconds?, Span.ofParts?, Span.ofNanos?, Int.add_zero, hlimit, true_and]

/-- **There is no answer if the reservations would have to last too long**, and only then. -/
theorem stock_eq_none_iff : env.stock.run = none ↔
    ∃ minutes, env.Sets .ttl minutes ∧ Span.limit < minutes * 60 * 1000000000 := by
  rw [stock_eq]
  simp only [run_bind_eq_none_iff, run_liftM, run_lift, value_eq_ok_iff, Option.some.injEq, reduceCtorEq,
    false_or, Option.map_eq_none_iff, ExceptT.run_pure, Option.pure_def, and_false, exists_false, or_false]
  refine exists_congr fun minutes => and_congr_right fun hsets => ?_
  rw [ofMinutes?_eq (hsets.2 rfl)]
  split
  · next hle => exact ⟨nofun, fun hlt => absurd hle (Int.not_le.mpr hlt)⟩
  · next hlt => exact ⟨fun _ => Int.not_le.mp hlt, fun _ => rfl⟩

theorem stock_eq_ok_iff {settings : StockSettings} :
    env.stock.run = some (.ok settings) ↔ env.ConfiguresStock settings := by
  rw [stock_eq]
  simp only [run_bind_eq_ok_iff, run_liftM, run_lift, value_eq_ok_iff, Option.some.injEq,
    Option.map_eq_some_iff, ExceptT.run_pure, Option.pure_def, Except.ok.injEq, exists_eq_right]
  constructor
  · rintro ⟨minutes, hminutes, span, hspan, interval, hinterval, timeout, htimeout, batch, hbatch, rfl⟩
    rw [ofMinutes?_eq (hminutes.2 rfl)] at hspan
    split at hspan
    · next hle =>
      cases hspan
      have hinterval' := hinterval.natCast_toNat env rfl (by decide)
      have htimeout' := htimeout.natCast_toNat env rfl (by decide)
      have hbatch' := hbatch.natCast_toNat env rfl (by decide)
      exact ⟨⟨minutes, hminutes, rfl⟩, hle, ⟨_, hinterval' ▸ hinterval, rfl⟩,
        ⟨_, htimeout' ▸ htimeout, rfl⟩, hbatch' ▸ hbatch⟩
    · cases hspan
  · rintro ⟨⟨minutes, hminutes, hspan⟩, hle, ⟨interval, hinterval, hinterval'⟩,
      ⟨timeout, htimeout, htimeout'⟩, hbatch⟩
    refine ⟨minutes, hminutes, settings.reservationTtl, ?_, interval, hinterval, timeout, htimeout, _, hbatch,
      ?_⟩
    · rw [ofMinutes?_eq (hminutes.2 rfl), ← hspan, if_pos hle]
    · rw [Int.toNat_natCast, Int.toNat_natCast, Int.toNat_natCast, ← hinterval', ← htimeout']

theorem order_eq_ok_iff {settings : OrderSettings} :
    env.order = .ok settings ↔ env.ConfiguresOrder settings := by
  rw [order_eq]
  simp only [bind_eq_ok_iff, value_eq_ok_iff, pure_eq_ok_iff]
  constructor
  · rintro ⟨attempts, hattempts, backoff, hbackoff, rfl⟩
    have hattempts' := hattempts.natCast_toNat env rfl (by decide)
    have hbackoff' := hbackoff.natCast_toNat env rfl (by decide)
    exact ⟨hattempts' ▸ hattempts, hbackoff' ▸ hbackoff⟩
  · rintro ⟨hattempts, hbackoff⟩
    exact ⟨_, hattempts, _, hbackoff, rfl⟩

theorem database_eq_ok_iff {settings : DatabaseSettings} :
    env.database = .ok settings ↔ env.ConfiguresDatabase settings := by
  rw [database_eq]
  simp only [bind_eq_ok_iff, value_eq_ok_iff, pure_eq_ok_iff]
  constructor
  · rintro ⟨tcpPort, htcpPort, maxConnections, hmaxConnections, rfl⟩
    have htcpPort' := htcpPort.natCast_toNat env rfl (by decide)
    have hmaxConnections' := hmaxConnections.natCast_toNat env rfl (by decide)
    exact ⟨rfl, htcpPort' ▸ htcpPort, rfl, rfl, rfl, hmaxConnections' ▸ hmaxConnections⟩
  · obtain ⟨host, tcpPort, database, username, password, maxConnections⟩ := settings
    rintro ⟨rfl, htcpPort, rfl, rfl, rfl, hmaxConnections⟩
    exact ⟨_, htcpPort, _, hmaxConnections, rfl⟩

/-- **An error of a group names a text that is at fault.** -/
theorem faulty_of_stock {e : ConfigurationError} (h : env.stock.run = some (.error e)) : env.Faulty e := by
  rw [stock_eq] at h
  simp only [run_bind_eq_error_iff, run_liftM, run_lift, Option.some.injEq, Option.map_eq_some_iff,
    ExceptT.run_pure, Option.pure_def, reduceCtorEq, and_false, exists_false, or_false, false_or] at h
  obtain h | ⟨_, _, _, _, h | ⟨_, _, h | ⟨_, _, h⟩⟩⟩ := h
  all_goals exact env.faulty_of_value (by decide) h

/-- Of two settings that are read one after the other. -/
theorem faulty_of_two {α : Type} {s s' : NumberSetting} {f : Int → Int → α} {e : ConfigurationError}
    (hs : s ∈ NumberSetting.all) (hs' : s' ∈ NumberSetting.all)
    (h : (do let n ← env.value s; let m ← env.value s'; return f n m) = .error e) : env.Faulty e := by
  obtain h | ⟨_, -, h⟩ := bind_eq_error_iff.mp h
  · exact env.faulty_of_value hs h
  obtain h | ⟨_, -, h⟩ := bind_eq_error_iff.mp h
  · exact env.faulty_of_value hs' h
  · cases h

theorem faulty_of_order {e : ConfigurationError} (h : env.order = .error e) : env.Faulty e :=
  env.faulty_of_two (by decide) (by decide) (env.order_eq ▸ h)

theorem faulty_of_database {e : ConfigurationError} (h : env.database = .error e) : env.Faulty e :=
  env.faulty_of_two (by decide) (by decide) (env.database_eq ▸ h)

end Environment

/-! ## The configuration -/

/-- **What reading ends with.**  It has no answer if the minutes of a reservation denote more than a span can
be long, and nothing before them is at fault; it succeeds exactly with the configuration that the texts tell;
and an error names a text that is at fault. -/
theorem Configuration.read_iff (env : Environment) :
    ((Configuration.read env).run = none ↔ (∃ backend, env.Backs backend) ∧
      ∃ minutes, env.Sets .ttl minutes ∧ Span.limit < minutes * 60 * 1000000000) ∧
    (∀ c, (Configuration.read env).run = some (.ok c) ↔ env.Configures c) ∧
    ∀ e, (Configuration.read env).run = some (.error e) → env.Faulty e := by
  unfold Configuration.read
  refine ⟨?_, fun c => ?_, fun e h => ?_⟩
  · simp only [run_bind_eq_none_iff, run_liftM, Environment.backend_eq_ok_iff, Environment.stock_eq_none_iff,
      Option.some.injEq, reduceCtorEq, false_or, ExceptT.run_pure, Option.pure_def, and_false, exists_false,
      or_false, exists_and_right]
  · simp only [run_bind_eq_ok_iff, run_liftM, Environment.backend_eq_ok_iff, Environment.stock_eq_ok_iff,
      Environment.order_eq_ok_iff, Environment.database_eq_ok_iff, Option.some.injEq, ExceptT.run_pure,
      Option.pure_def, Except.ok.injEq]
    constructor
    · rintro ⟨backend, hbackend, stock, hstock, order, horder, database, hdatabase, rfl⟩
      exact ⟨hbackend, hstock, horder, hdatabase, rfl⟩
    · obtain ⟨database, bindAddress, backend, stock, order⟩ := c
      rintro ⟨hbackend, hstock, horder, hdatabase, rfl⟩
      exact ⟨backend, hbackend, stock, hstock, order, horder, database, hdatabase, rfl⟩
  · simp only [run_bind_eq_error_iff, run_liftM, Option.some.injEq, ExceptT.run_pure, Option.pure_def,
      reduceCtorEq, and_false, exists_false, or_false] at h
    obtain h | ⟨_, -, h | ⟨_, -, h | ⟨_, -, h⟩⟩⟩ := h
    · exact env.faulty_of_backend h
    · exact env.faulty_of_stock h
    · exact env.faulty_of_order h
    · exact env.faulty_of_database h

/-- A number that is too large for a port of the network. -/
def Environment.farPort : Environment := ⟨[("DATABASE_PORT", "70000")]⟩

/-- The error names the port, and the port is at fault. -/
theorem Configuration.read_farPort :
    (Configuration.read .farPort).run = some (.error (.unreadable "DATABASE_PORT" .tooLarge)) ∧
      Environment.farPort.Faulty (.unreadable "DATABASE_PORT" .tooLarge) := by
  have hread : (Configuration.read .farPort).run =
      some (.error (.unreadable "DATABASE_PORT" .tooLarge)) := by decide
  exact ⟨hread, (Configuration.read_iff .farPort).2.2 _ hread⟩

/-- Reservations that never end: the greatest number of minutes that can be written down. -/
def Environment.endless : Environment := ⟨[("INVENTORY_RESERVATION_TTL_MINUTES", "9223372036854775807")]⟩

/-- **A text that is neither taken nor refused**: the minutes are a number of their width, and at least 1, but
there is no answer. -/
theorem Configuration.read_endless :
    Environment.endless.Sets .ttl 9223372036854775807 ∧ (Configuration.read .endless).run = none ∧
      ¬∀ env : Environment, ∃ result, (Configuration.read env).run = some result := by
  have hread : (Configuration.read .endless).run = none := by decide
  refine ⟨(Environment.value_eq_ok_iff _).mp (by decide), hread, fun h => ?_⟩
  obtain ⟨result, hresult⟩ := h .endless
  cases hread.symm.trans hresult

end Stockroom
