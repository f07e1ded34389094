import Stockroom.Service.Stock

/-!
# Service/Reaper — the periodic cleanup of expired reservations

The reaper runs `StockService.cleanup` at regular intervals and gives each run a time limit.  Here is
what it reports, and when its next run is due: a run that starts late by more than the tolerance
shifts the following ones.
-/

namespace Stockroom.Reaper

/-- The name under which the reaper writes log records. -/
def component : String := "ExpiryReaper"

/-- A run later than this many milliseconds after its time starts a new rhythm. -/
def tolerance : Nat := 5

/-- **When the next run is due**, after the one that was due at `due` starts at `now`. -/
def nextDue (interval due now : Nat) : Nat :=
  if now > due + tolerance then now + interval else due + interval

def startedRecord (interval : Nat) : LogRecord :=
  ⟨.info, component, "期限切れ予約の定期回収を開始しました", none,
    some [("interval_secs", toString (interval / 1000))]⟩

def stoppedRecord : LogRecord :=
  ⟨.info, component, "期限切れ予約の定期回収を停止しました", none, none⟩

def failedRecord (run : CorrelationId) (error : ServiceError) : LogRecord :=
  ⟨.error, component, "期限切れ予約の取得に失敗しました", run, some [("error", error.message)]⟩

def timedOutRecord (run : CorrelationId) (timeout : Nat) : LogRecord :=
  ⟨.warn, component, "期限切れ予約の回収がタイムアウトしました", run,
    some [("timeout_ms", toString timeout)]⟩

end Stockroom.Reaper
