import Stockroom.Calendar.Instant

/-!
# Service/Settings — what an operator can tune
-/

namespace Stockroom

/-- How long reservations last and how the expired ones are collected.  Waiting times are in
milliseconds. -/
structure StockSettings where
  reservationTtl : Span
  cleanupInterval : Nat
  cleanupTimeout : Nat
  /-- How many reservations one cleanup takes at most. -/
  cleanupBatch : Nat
deriving DecidableEq, Repr

/-- Reservations last half an hour, and a cleanup starts every five minutes. -/
def StockSettings.standard : StockSettings where
  reservationTtl := ⟨1800 * 1000000000⟩
  cleanupInterval := 300000
  cleanupTimeout := 30000
  cleanupBatch := 100

/-- How often the creation of an order is tried, and how long to wait between attempts. -/
structure OrderSettings where
  maxAttempts : Nat
  /-- The waiting time after the first attempt in milliseconds; it grows with each attempt. -/
  backoff : Nat
deriving DecidableEq, Repr

def OrderSettings.standard : OrderSettings where
  maxAttempts := 3
  backoff := 10

end Stockroom
