import DemandNet.Config.Options
import DemandNet.Config.Value

/-!
# Schema

Options read from a configuration text, and written as one.

A record may be written as a table, in which any option may be missing and unknown ones
are ignored, or as a list of its options in order, of which the last ones may be
missing. A directory has no defaults: both of its texts have to be there. Numbers are
whole and fit the number of bits of their option; nothing is converted.

## Main definitions

* `Fields`: The options of a record by name or by place.
* `readServer?`, `readObservability?`, `readMount?`: The records.
* `AppConfig.ofValue?`: A whole configuration.
* `AppConfig.toValue`: The value that spells a configuration.
-/

namespace DemandNet

namespace Config

namespace Value

/-- A truth value. -/
def asBool? : Value → Option Bool
  | bool b => some b
  | _ => none

/-- A text. -/
def asText? : Value → Option String
  | text s => some s
  | _ => none

/-- A whole number that fits a word of `bits` bits without a sign. -/
def asWord? (bits : Nat) : Value → Option Nat
  | int i => if 0 ≤ i ∧ i < Nat.pow 2 bits then some i.toNat else none
  | _ => none

/-- An option that may be absent: null says that it is. -/
def asOptional? (read : Value → Option α) : Value → Option (Option α)
  | null => some none
  | v => (read v).map some

/-- One of several variants by its name, and what belongs to it. A text is a name
    alone. -/
def asVariant? : Value → Option (String × Option Value)
  | text name => some (name, none)
  | table [(name, v)] => some (name, some v)
  | _ => none

/-- What belongs to a variant is nothing. Each format has its own way to write that. -/
def isNothing (format : Format) : Option Value → Bool
  | none => true
  | some null => format = .json
  | some (table []) | some (list []) => format = .toml
  | _ => false

end Value

/-- The options of a record: by name or by place. -/
inductive Fields where
  | named (fields : List (String × Value))
  | listed (items : List Value)

namespace Fields

/-- The options of a record that has `count` of them. A list with more is an error in one
    format and ignored in the other; and a date has fields there, though none that a
    record has. -/
def ofValue? (format : Format) (count : Nat) : Value → Option Fields
  | .table fields => some (named fields)
  | .list items => if format = .json ∧ count < items.length then none else some (listed items)
  | .date => some (named [])
  | _ => none

/-- The value of an option, if it is there. -/
def get? (fs : Fields) (place : Nat) (name : String) : Option Value :=
  match fs with
  | named fields => fields.lookup name
  | listed items => items[place]?

/-- An option that may be missing. -/
def read? (fs : Fields) (place : Nat) (name : String) (read : Value → Option α)
    (default : α) : Option α :=
  match fs.get? place name with
  | some v => read v
  | none => some default

end Fields

/-- A protocol family. -/
def readFamily? (format : Format) (v : Value) : Option Address.Family := do
  let (name, payload) ← v.asVariant?
  guard (Value.isNothing format payload)
  match name with
  | "default" => return .any
  | "ipv4" => return .ipv4
  | "ipv6" => return .ipv6
  | _ => failure

/-- The interface for multicast groups. -/
def readInterface? (v : Value) : Option MulticastInterface := do
  let (name, payload) ← v.asVariant?
  match name, payload with
  | "address", some v => return .address (← v.asText?.bind Address.Ipv4.parse?)
  | "index", some v => return .index (← v.asWord? 32)
  | _, _ => failure

/-- The options of a server. -/
def readServer? (format : Format) (v : Value) : Option ServerOptions := do
  let fs ← Fields.ofValue? format 16 v
  let base : ServerOptions := {}
  return {
    bindAddress := ← fs.read? 0 "bind_address" Value.asText? base.bindAddress
    keepAlive := ← fs.read? 1 "keep_alive" Value.asBool? base.keepAlive
    lingerSecs :=
      ← fs.read? 2 "linger_secs" (Value.asOptional? (Value.asWord? 64)) base.lingerSecs
    tcpNoDelay := ← fs.read? 3 "tcp_no_delay" Value.asBool? base.tcpNoDelay
    receiveBufferSize :=
      ← fs.read? 4 "receive_buffer_size" (Value.asOptional? (Value.asWord? 32)) none
    sendBufferSize := ← fs.read? 5 "send_buffer_size" (Value.asOptional? (Value.asWord? 32)) none
    reuseAddress := ← fs.read? 6 "reuse_address" Value.asBool? base.reuseAddress
    maxConnections := ← fs.read? 7 "max_connections" (Value.asWord? 64) base.maxConnections
    connectTimeoutMs := ← fs.read? 8 "connect_timeout_ms" (Value.asWord? 64) base.connectTimeoutMs
    idleTimeoutSecs :=
      ← fs.read? 9 "idle_timeout_secs" (Value.asOptional? (Value.asWord? 64)) none
    prefetch :=
      ← fs.read? 10 "prefetch" (fun v => (v.asWord? 64).map Flow.Window.mk) base.prefetch
    ioThreads := ← fs.read? 11 "io_threads" (fun v => (v.asWord? 64).map some) none
    protocolFamily := ← fs.read? 12 "protocol_family" (readFamily? format) base.protocolFamily
    multicastInterface :=
      ← fs.read? 13 "multicast_interface" (Value.asOptional? readInterface?) none
    shutdownTimeoutSecs :=
      ← fs.read? 14 "shutdown_timeout_secs" (Value.asWord? 64) base.shutdownTimeoutSecs
    wireLogging := ← fs.read? 15 "wire_logging" Value.asBool? base.wireLogging }

/-- What a process reports about itself. -/
def readObservability? (format : Format) (v : Value) : Option Observability := do
  let fs ← Fields.ofValue? format 3 v
  let base : Observability := {}
  return {
    logLevel := ← fs.read? 0 "log_level" Value.asText? base.logLevel
    metricsEnabled := ← fs.read? 1 "metrics_enabled" Value.asBool? base.metricsEnabled
    metricsAddress := ← fs.read? 2 "metrics_address" Value.asText? base.metricsAddress }

/-- A directory under a path. -/
def readMount? (format : Format) (v : Value) : Option Mount := do
  let fs ← Fields.ofValue? format 2 v
  return ⟨← (← fs.get? 0 "prefix").asText?, ← (← fs.get? 1 "root").asText?⟩

/-- Directories under paths. -/
def readMounts? (format : Format) : Value → Option (List Mount)
  | .list items => items.mapM (readMount? format)
  | _ => none

namespace AppConfig

/-- The configuration that a value spells. -/
def ofValue? (format : Format) (v : Value) : Option AppConfig := do
  let fs ← Fields.ofValue? format 3 v
  return {
    server := ← fs.read? 0 "server" (readServer? format) {}
    observability := ← fs.read? 1 "observability" (readObservability? format) {}
    mounts := ← fs.read? 2 "mounts" (readMounts? format) [] }

end AppConfig

namespace Value

/-- The value of an option that may be absent. -/
def ofOption (write : α → Value) : Option α → Value
  | none => null
  | some a => write a

/-- A number as a value. -/
def ofNat (n : Nat) : Value := int n

end Value

/-- The name of a family in configurations. -/
def familyName : Address.Family → String
  | .any => "default"
  | .ipv4 => "ipv4"
  | .ipv6 => "ipv6"

namespace MulticastInterface

/-- The value that spells an interface. -/
def toValue : MulticastInterface → Value
  | address ip => .table [("address", .text ip.text)]
  | index n => .table [("index", .ofNat n)]

end MulticastInterface

namespace ServerOptions

/-- The value that spells the options of a server. -/
def toValue (o : ServerOptions) : Value :=
  .table [
    ("bind_address", .text o.bindAddress),
    ("keep_alive", .bool o.keepAlive),
    ("linger_secs", .ofOption .ofNat o.lingerSecs),
    ("tcp_no_delay", .bool o.tcpNoDelay),
    ("receive_buffer_size", .ofOption .ofNat o.receiveBufferSize),
    ("send_buffer_size", .ofOption .ofNat o.sendBufferSize),
    ("reuse_address", .bool o.reuseAddress),
    ("max_connections", .ofNat o.maxConnections),
    ("connect_timeout_ms", .ofNat o.connectTimeoutMs),
    ("idle_timeout_secs", .ofOption .ofNat o.idleTimeoutSecs),
    ("prefetch", .ofNat o.prefetch.size),
    ("io_threads", .ofOption .ofNat o.ioThreads),
    ("protocol_family", .text (familyName o.protocolFamily)),
    ("multicast_interface", .ofOption MulticastInterface.toValue o.multicastInterface),
    ("shutdown_timeout_secs", .ofNat o.shutdownTimeoutSecs),
    ("wire_logging", .bool o.wireLogging)]

end ServerOptions

namespace Observability

/-- The value that spells what a process reports about itself. -/
def toValue (o : Observability) : Value :=
  .table [
    ("log_level", .text o.logLevel),
    ("metrics_enabled", .bool o.metricsEnabled),
    ("metrics_address", .text o.metricsAddress)]

end Observability

namespace Mount

/-- The value that spells a directory under a path. -/
def toValue (m : Mount) : Value :=
  .table [("prefix", .text m.prefixPath), ("root", .text m.root)]

end Mount

namespace AppConfig

/-- The value that spells a configuration. -/
def toValue (c : AppConfig) : Value :=
  .table [
    ("server", c.server.toValue),
    ("observability", c.observability.toValue),
    ("mounts", .list (c.mounts.map Mount.toValue))]

end AppConfig

end Config

end DemandNet
