import Stockroom.Numeric.Numeral
import Stockroom.Service.Settings

/-!
# Configuration — settings from named texts

`Configuration.read` builds all settings of the service from an `Environment`, a collection of named
texts.  What is not named there gets its standard value.  The texts are checked in a fixed order, and
the first unusable one is reported.
-/

namespace Stockroom

/-- Which kind of store the service uses. -/
inductive StoreBackend where
  | mySql
  | memory
deriving DecidableEq, Repr

/-- Where the database is, and how to sign in. -/
structure DatabaseSettings where
  host : String
  tcpPort : Nat
  database : String
  username : String
  password : String
  maxConnections : Nat
deriving DecidableEq, Repr

/-- The address of the database with the sign-in. -/
def DatabaseSettings.connectionString (d : DatabaseSettings) : String :=
  s!"mysql://{d.username}:{d.password}@{d.host}:{d.tcpPort}/{d.database}"

/-- All settings of the service. -/
structure Configuration where
  database : DatabaseSettings
  bindAddress : String
  backend : StoreBackend
  stock : StockSettings
  order : OrderSettings
deriving DecidableEq, Repr

/-- Why a text is no usable setting. -/
inductive ConfigurationError where
  | unknownBackend (name : String)
  | unreadable (key : String) (error : NumeralError)
  | notPositive (key : String) (value : Int)
deriving DecidableEq, Repr

def ConfigurationError.message (e : ConfigurationError) : String :=
  "Invalid configuration value: " ++ match e with
    | unknownBackend name => s!"STORE_BACKEND must be mysql or memory: {name}"
    | unreadable key error => s!"Invalid {key}: {error.message}"
    | notPositive key value => s!"{key} must be positive: {value}"

/-- Reads the name of a backend; ASCII letters count in either case. -/
def StoreBackend.ofText (text : String) : Except ConfigurationError StoreBackend :=
  match text.map Char.toLower with
  | "mysql" => .ok mySql
  | "memory" => .ok memory
  | name => .error (.unknownBackend name)

/-- Named texts. -/
structure Environment where
  entries : List (String × String)
deriving DecidableEq, Repr

namespace Environment

def get? (env : Environment) (key : String) : Option String := env.entries.lookup key

/-- A text by name. -/
def text (env : Environment) (key standard : String) : String := (env.get? key).getD standard

/-- A number by name. -/
def number (env : Environment) (w : Width) (key : String) (standard : Int) :
    Except ConfigurationError Int :=
  match env.get? key with
  | none => .ok standard
  | some text => (Numeral.read w text).mapError (.unreadable key)

/-- A number by name that has to be at least 1. -/
def positive (env : Environment) (w : Width) (key : String) (standard : Int) :
    Except ConfigurationError Int := do
  let value ← env.number w key standard
  if value ≤ 0 then throw (.notPositive key value)
  return value

/-! ## Groups of settings -/

def backend (env : Environment) : Except ConfigurationError StoreBackend :=
  match env.get? "STORE_BACKEND" with
  | none => .ok .mySql
  | some text => StoreBackend.ofText text

/-- The settings of the stock service.  There is no answer at all if the reservations would have to
last longer than a span can be. -/
def stock (env : Environment) : ExceptT ConfigurationError Option StockSettings := do
  let ttl ← env.positive .int64 "INVENTORY_RESERVATION_TTL_MINUTES" 30
  let reservationTtl ← ExceptT.lift (Span.ofMinutes? ttl)
  let interval ← env.positive .nat64 "INVENTORY_CLEANUP_INTERVAL_SECS" 300
  let timeout ← env.positive .nat64 "INVENTORY_CLEANUP_TIMEOUT_SECS" 30
  let batch ← env.positive .nat32 "INVENTORY_CLEANUP_BATCH_SIZE" 100
  return ⟨reservationTtl, interval.toNat * 1000, timeout.toNat * 1000, batch.toNat⟩

def order (env : Environment) : Except ConfigurationError OrderSettings := do
  let attempts ← env.positive .nat32 "ORDER_MAX_CREATE_ATTEMPTS" 3
  let backoff ← env.number .nat64 "ORDER_RETRY_BACKOFF_MS" 10
  return ⟨attempts.toNat, backoff.toNat⟩

def database (env : Environment) : Except ConfigurationError DatabaseSettings := do
  let tcpPort ← env.number .nat16 "DATABASE_PORT" 3306
  let maxConnections ← env.number .nat32 "DATABASE_MAX_CONNECTIONS" 10
  return {
    host := env.text "DATABASE_HOST" "localhost"
    tcpPort := tcpPort.toNat
    database := env.text "DATABASE_NAME" "stock_reservation"
    username := env.text "DATABASE_USER" "stock_user"
    password := env.text "DATABASE_PASSWORD" "stock_password"
    maxConnections := maxConnections.toNat }

end Environment

/-- **All settings from named texts.** -/
def Configuration.read (env : Environment) : ExceptT ConfigurationError Option Configuration := do
  let backend ← env.backend
  let stock ← env.stock
  let order ← env.order
  let database ← env.database
  return ⟨database, env.text "SERVER_BIND_ADDRESS" "0.0.0.0:3000", backend, stock, order⟩

end Stockroom
