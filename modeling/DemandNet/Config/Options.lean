import DemandNet.Address.Bind
import DemandNet.Flow.Window

/-!
# Options

The options of servers and clients, as a configuration sets them.

Every option has a default, so an empty configuration is one. Times are kept in the unit
in which they are written and converted where they are used; a time without a limit is
absent.

## Main definitions

* `MulticastInterface`: The interface through which groups are joined.
* `ServerOptions`: The options of one server.
* `Observability`: What a process reports about itself.
* `Mount`: A directory under a path.
* `AppConfig`: A whole configuration.
-/

namespace DemandNet

namespace Config

/-- The network interface through which a multicast group is joined: by one of its
    addresses for version 4, by its number for version 6. -/
inductive MulticastInterface where
  | address (ip : Address.Ipv4)
  | index (n : Nat)
  deriving Repr, DecidableEq, Inhabited

/-- The options of one server. -/
structure ServerOptions where
  /-- The address at which the server listens. -/
  bindAddress : String := "127.0.0.1:12012"
  /-- Connections are kept open between requests. -/
  keepAlive : Bool := true
  /-- How long a closed socket goes on sending, in seconds. -/
  lingerSecs : Option Nat := some 5
  /-- Small writes are not held back. -/
  tcpNoDelay : Bool := true
  receiveBufferSize : Option Nat := none
  sendBufferSize : Option Nat := none
  /-- An address that was in use a moment ago may be bound again. -/
  reuseAddress : Bool := true
  /-- The number of connections served at a time. -/
  maxConnections : Nat := 10000
  /-- How long a client waits for a connection, in milliseconds. -/
  connectTimeoutMs : Nat := 30000
  /-- How long a wanted read may take, in seconds. -/
  idleTimeoutSecs : Option Nat := none
  /-- The demand window of consumers. -/
  prefetch : Flow.Window := .unlimited
  /-- The number of event loops; as many as the machine has processors if absent. -/
  ioThreads : Option Nat := none
  /-- The address family of datagram servers. -/
  protocolFamily : Address.Family := .any
  multicastInterface : Option MulticastInterface := none
  /-- How long connections may go on after a shutdown, in seconds. -/
  shutdownTimeoutSecs : Nat := 30
  /-- Every chunk on the wire is logged. -/
  wireLogging : Bool := false
  deriving Repr, DecidableEq, Inhabited

namespace ServerOptions

/-- The address at which the server listens, if it is spelled correctly. -/
def socketAddress? (o : ServerOptions) : Option Address.Socket :=
  Address.Socket.parse? o.bindAddress

/-- How long a closed socket goes on sending, in milliseconds. -/
def lingerMs (o : ServerOptions) : Option Nat := o.lingerSecs.map (· * 1000)

/-- How long a wanted read may take, in milliseconds. -/
def idleTimeoutMs (o : ServerOptions) : Option Nat := o.idleTimeoutSecs.map (· * 1000)

/-- How long connections may go on after a shutdown, in milliseconds. -/
def shutdownTimeoutMs (o : ServerOptions) : Nat := o.shutdownTimeoutSecs * 1000

end ServerOptions

/-- What a process reports about itself. -/
structure Observability where
  logLevel : String := "info"
  metricsEnabled : Bool := false
  metricsAddress : String := "127.0.0.1:9090"
  deriving Repr, DecidableEq, Inhabited

/-- A directory that is served under a path. -/
structure Mount where
  prefixPath : String
  root : String
  deriving Repr, DecidableEq, Inhabited

/-- A whole configuration. -/
structure AppConfig where
  server : ServerOptions := {}
  observability : Observability := {}
  mounts : List Mount := []
  deriving Repr, DecidableEq, Inhabited

end Config

end DemandNet
