import FabricHost.Clock
import FabricHost.Record.Limits
import FabricHost.Text.Decimal

/-!
# Configuration

What can be set for a host. Some of it may come from environment variables; a value there that is no number is passed
over.
-/

namespace FabricHost

structure Config where
  maxSessions : Nat := 16
  /-- The keep-alive timeout that targets are told. -/
  keepAliveTimeoutMs : UInt64 := Limits.defaultKeepAliveTimeoutMs
  ioTimeoutMs : Tick := 30000
  adminTimeoutMs : Tick := 5000
  /-- The depth that is asked for each I/O queue pair. -/
  ioQueueDepth : UInt16 := 32
  /-- How long to wait before a handshake is tried again. -/
  connectRetryDelayMs : Nat := 500
  /-- How often the command line polls. -/
  pollIntervalMs : Nat := 100
  storeDir : String := "/var/lib/nvmf-initiator"
  /-- How many polls the recursion of a wait has room for. A wait itself is bounded by its deadline alone. The standard
  budget is never used up within the standard timeouts if the clock shows no tick more than 10^14 times. -/
  pollBudget : Nat := UInt64.size / 4
deriving DecidableEq, Repr

namespace Config

/-- The environment variables that are looked at. -/
def environmentNames : List String :=
  ["NVMF_STORE_DIR", "NVMF_MAX_SESSIONS", "NVMF_IO_TIMEOUT_MS", "NVMF_KEEP_ALIVE_TIMEOUT_MS"]

/-- The number in an environment variable, if it is one of 64 bits. -/
def number? (environment : String → Option String) (name : String) : Option Nat :=
  (environment name).bind fun value => Decimal.unsigned? UInt64.size value.toList

/-- The default settings with those that the environment gives in their place. -/
def ofEnvironment (environment : String → Option String) : Config :=
  let defaults : Config := {}
  { defaults with
    storeDir := (environment "NVMF_STORE_DIR").getD defaults.storeDir
    maxSessions := (number? environment "NVMF_MAX_SESSIONS").getD defaults.maxSessions
    ioTimeoutMs := ((number? environment "NVMF_IO_TIMEOUT_MS").map UInt64.ofNat).getD defaults.ioTimeoutMs
    keepAliveTimeoutMs :=
      ((number? environment "NVMF_KEEP_ALIVE_TIMEOUT_MS").map UInt64.ofNat).getD defaults.keepAliveTimeoutMs }

/-- The span between keep-alives: half of the timeout, and at least one tick. -/
def keepAliveInterval (config : Config) : Tick := max (config.keepAliveTimeoutMs / 2) 1

end Config

end FabricHost
