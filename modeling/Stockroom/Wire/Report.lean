import Stockroom.Json.Value
import Stockroom.Settings
import Stockroom.Sweep

/-!
# The wire form of reports and settings
-/

namespace Stockroom

def SweepReport.toJson (report : SweepReport) : Json :=
  .ofMembers [
    ("examined", .nat report.examined),
    ("expired", .nat report.expired),
    ("already_resolved", .nat report.alreadyResolved),
    ("failed", .nat report.failed)]

namespace Settings

def ForService.toJson (settings : ForService) : Json :=
  .ofMembers [
    ("reservation_ttl_secs", .int (settings.service.holdFor.nanoseconds / 1000000000)),
    ("cache_ttl_secs", .ofOption .nat settings.cacheSeconds)]

def Fault.toJson (fault : Fault) : Json :=
  .ofMembers [("error", .string "Config"), ("message", .string fault.message)]

/-- Every setting by its name. -/
def members (settings : Settings) : List (String × Json) := [
  ("database_url", .string settings.databaseUrl),
  ("kafka_brokers", .string settings.kafkaBrokers),
  ("command_topic", .string settings.commandTopic),
  ("reply_topic", .string settings.replyTopic),
  ("reservation_ttl_secs", .int settings.reservationTtlSecs),
  ("sweep_interval_secs", .nat settings.sweepIntervalSecs),
  ("sweep_batch_size", .nat settings.sweepBatchSize),
  ("lock_timeout_ms", .nat settings.lockTimeoutMs),
  ("pool_max_size", .nat settings.poolMaxSize),
  ("stock_cache_ttl_secs", .nat settings.stockCacheTtlSecs),
  ("log_json", .bool settings.logJson)]

end Settings

end Stockroom
