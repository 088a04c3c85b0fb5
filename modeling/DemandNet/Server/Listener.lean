import DemandNet.Config.Options
import DemandNet.Server.Host
import DemandNet.Server.Slots

/-!
# Listeners

A bound address at which connections are accepted, a limited number at a time.

Port zero stands for any free port. Whoever connects waits in a queue of the system until
an accept takes it.

## Main definitions

* `Listener`: A bound address with its slots.
* `Listener.bind`: A listener for a server with given options.
* `Listener.accept`: The next connection, if one can be had at once.
-/

namespace DemandNet

namespace Server

open Address

/-- A bound address with its slots. -/
structure Listener where
  address : Socket
  /-- The number of connections that was configured. -/
  maxConnections : Nat
  slots : Slots
  /-- Who has connected and was not accepted yet. -/
  backlog : List Ip

/-- What comes of an attempt to listen. -/
inductive BindOutcome where
  | bound (l : Listener) (h : Host)
  | failed (e : NetError)
  /-- There are more slots than can be counted; the attempt breaks off. -/
  | overflow

namespace Listener

/-- Listen at the configured address. -/
def bind (h : Host) (o : Config.ServerOptions) : BindOutcome :=
  match Socket.parse? o.bindAddress with
  | none => .failed (bindError o.bindAddress socketSyntaxError)
  | some a =>
      match h.bindFor o.bindAddress a with
      | .error e => .failed e
      | .ok (address, h) =>
          match Slots.ofSize? o.maxConnections with
          | none => .overflow
          | some slots =>
              .bound { address, maxConnections := o.maxConnections, slots, backlog := [] } h

/-- Somebody connects. -/
def connect (l : Listener) (peer : Ip) : Listener :=
  { l with backlog := l.backlog ++ [peer] }

/-- The next connection with its number; none if that would have to wait, in which case
    the accept is given up. -/
def accept (l : Listener) : Option (Nat × Ip) × Listener :=
  let (i, slots) := l.slots.begin
  match slots.holder i, l.backlog with
  | .accepting, peer :: rest =>
      (some (i, peer), { l with slots := slots.complete i, backlog := rest })
  | _, _ => (none, { l with slots := slots.giveUp i })

/-- A connection ends. -/
def release (l : Listener) (i : Nat) : Listener :=
  { l with slots := l.slots.release i }

end Listener

end Server

end DemandNet
