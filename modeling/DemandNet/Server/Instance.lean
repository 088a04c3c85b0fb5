import DemandNet.Lifecycle.Service
import DemandNet.Server.Listener
import DemandNet.Udp.Bind

/-!
# Servers on a Host

A server with its options and the host that it runs on.

What the serve task of a server reports depends on what it finds on its host: a stream
server listens, a datagram server binds a socket, each at the configured address. A task
that breaks off while it sets up the slots never reports.

## Main definitions

* `Serving`: What a serve task does.
* `Instance`: A server on its host.
* `Instance.start`, `Instance.shutdown`: Calls during which no other call is made.
-/

namespace DemandNet

namespace Server

open Lifecycle

/-- What a serve task does. -/
inductive Serving where
  /-- It accepts connections. -/
  | stream
  /-- It takes datagrams. -/
  | datagram
  /-- It binds nothing and reports what it is told; nothing if it never reports. -/
  | scripted (report : Option Report)

/-- What a serve task reports on a host, and what it leaves the host with. -/
def Serving.reportOn (s : Serving) (h : Host) (o : Config.ServerOptions) :
    Option Report × Host :=
  match s with
  | .stream =>
      match Listener.bind h o with
      | .bound l h => (some (.bound l.address), h)
      | .failed e => (some (.failed e), h)
      | .overflow => (some .vanished, h)
  | .datagram =>
      match Udp.bindDatagram h o with
      | .ok (a, h) => (some (.bound a), h)
      | .error e => (some (.failed e), h)
  | .scripted report => (report, h)

/-- A server on its host. -/
structure Instance where
  serving : Serving
  options : Config.ServerOptions
  host : Host
  service : Service

namespace Instance

/-- A server that nobody started; its group of loops may be lent to it. -/
def fresh (serving : Serving) (options : Config.ServerOptions) (host : Host)
    (borrows : Bool) : Instance :=
  { serving, options, host, service := .fresh borrows options.shutdownTimeoutMs }

/-- Start the server, perhaps limited to a number of milliseconds. The host is only asked
    if a serve task is spawned. There is no outcome if the start would wait for ever. -/
def start (s : Instance) (limit : Option Nat) :
    Option (Except NetError Address.Socket) × Instance :=
  let (report, host) := s.serving.reportOn s.host s.options
  let host := if s.service.phase = .unstarted then host else s.host
  let (r, service) := s.service.start limit report
  (r, { s with host, service })

/-- Shut the server down; what it had bound is free again. -/
def shutdown (s : Instance) : Instance :=
  let host := (s.service.address.map s.host.unbind).getD s.host
  { s with host, service := s.service.shutdown }

/-- The group of loops that was lent to the server has been shut down; nothing if none
    was lent. -/
def lentGroupStopped? (s : Instance) : Option Bool :=
  if s.service.borrows then some (s.service.tasks.any fun t => 0 < t.stops) else none

end Instance

end Server

end DemandNet
