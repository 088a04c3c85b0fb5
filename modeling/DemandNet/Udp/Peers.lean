import DemandNet.Address.Socket
import DemandNet.Connection.Pipeline
import DemandNet.Flow.Bridge

/-!
# Peers

How a datagram server tells its peers apart.

Each address from which a datagram comes gets a connection with a queue. The serve loop
puts datagrams into the queues and never waits: what does not fit is dropped. A pump
moves them on, one at a time, as the handler of the connection wants them. When a handler
comes to its end, or closes its connection, the pump stops and drops what is left; the
next datagram from the address then gets a new connection. A handler that has ended also
sends a notice, and the serve loop forgets the connection when it reads it, unless the
address has a newer one by then.

Each thing that can happen is an operation of its own, so that they can happen in any
order. Two things that the program does one after the other are two operations if others
may act in between. The serve loop starts the tasks of a new connection before it offers
it the first datagram; a handler closes its stream before it sends its notice; and a pump
lets go of that stream before it lets go of its queue.

## Main definitions

* `Peer`: A connection with its queue, its pump and its handler.
* `Peer.offer`: A datagram is offered to the queue of a connection.
* `Peer.pumpStep`: One step of a pump.
* `Peers`: All connections, and what the serve loop knows and does.
* `Peers.arrive`, `Peers.enter`, `Peers.readNotice`, `Peers.stop`: The serve loop.
* `Peers.finish`, `Peers.notify`, `Peers.close`: The end of a connection.
* `Peers.attach`, `Peers.request`, `Peers.poll`, `Peers.detach`: The handlers.
-/

namespace DemandNet

namespace Udp

open DemandNet.Address DemandNet.Flow

/-- The number of datagrams that a queue holds. -/
def queueLimit : Nat := 64

/-- What the pump of a connection is doing. -/
inductive Pump where
  /-- It waits for a datagram. -/
  | idle
  /-- It waits until the handler wants the datagram that it holds. -/
  | holding (chunk : Bytes)
  /-- It has ended the stream of the handler, and still has its queue. -/
  | leaving
  /-- It has stopped; the queue can take nothing more. -/
  | stopped
  deriving Repr, DecidableEq, Inhabited

/-- A connection with its queue, its pump and its handler. -/
structure Peer where
  address : Socket
  pipeline : Connection.Pipeline
  queue : List Bytes
  pump : Pump
  /-- The serve loop can still put datagrams into the queue. -/
  fed : Bool
  /-- The handler has come to its end. -/
  finished : Bool
  /-- The serve loop was sent a notice of that. -/
  notified : Bool
  bridge : Bridge Bytes
  consumer : Option Consumer

/-- What becomes of a datagram that is offered to a queue. -/
inductive Offer where
  | taken
  | full
  | closed
  deriving Repr, DecidableEq, Inhabited

/-- What a pump does with a chunk. -/
inductive Pumped where
  | delivered (chunk : Bytes)
  /-- The handler wants nothing more. -/
  | discarded (chunk : Bytes)
  deriving Repr, DecidableEq

namespace Peer

/-- The connection of an address that had none. -/
def fresh (address : Socket) (pipeline : Connection.Pipeline) : Peer :=
  { address, pipeline, queue := [], pump := .idle, fed := true, finished := false,
    notified := false, bridge := .empty, consumer := none }

/-- The handler has neither ended nor closed the connection. -/
def isLive (p : Peer) : Bool := !p.finished && !p.bridge.abandoned

/-- A datagram is offered to the queue; it is not waited for. -/
def offer (p : Peer) (payload : Bytes) : Offer × Peer :=
  if p.pump = .stopped then (.closed, p)
  else if p.queue.length < queueLimit then (.taken, { p with queue := p.queue ++ [payload] })
  else (.full, p)

/-- The pump ends the handler's stream, after what was delivered. -/
def leave (p : Peer) : Peer :=
  { p with pump := .leaving, bridge := p.bridge.finish }

/-- One step of the pump; nothing happens while it has to wait. Between a datagram in the
    queue and the end of the connection it may see either first: `alert` says that it
    looks for the end. -/
def pumpStep (p : Peer) (alert : Bool) : List Pumped × Peer :=
  match p.pump with
  | .idle =>
      if alert && p.bridge.isClosed then ([], p.leave)
      else
        match p.queue with
        | payload :: rest =>
            ([], { p with queue := rest, pump := .holding (p.pipeline.inbound payload) })
        | [] => if p.bridge.isClosed || !p.fed then ([], p.leave) else ([], p)
  | .holding chunk =>
      match p.bridge.deliver chunk with
      | (none, bridge) => ([], { p with bridge })
      | (some (.ok ()), bridge) => ([.delivered chunk], { p with bridge, pump := .idle })
      | (some (.error _), bridge) => ([.discarded chunk], { p with bridge }.leave)
  | .leaving =>
      (p.queue.map fun payload => .discarded (p.pipeline.inbound payload),
        { p with pump := .stopped, queue := [] })
  | .stopped => ([], p)

/-- The connection is closed. -/
def close (p : Peer) : Peer := { p with bridge := p.bridge.abandon }

/-- The handler comes to its end. -/
def finish (p : Peer) : Peer := { p.close with finished := true }

/-- The serve loop forgets the connection. -/
def forget (p : Peer) : Peer := { p with fed := false }

/-- The handler attaches to its datagrams. -/
def attach (p : Peer) (mode : Mode) : Peer :=
  match p.bridge.attach mode with
  | .ok (c, bridge) => { p with bridge, consumer := some c }
  | .error _ => p

/-- The handler asks for more. -/
def request (p : Peer) (n : Nat) : Peer :=
  match p.consumer with
  | some c => { p with bridge := p.bridge.request c n }
  | none => p

/-- The handler looks for the next datagram. -/
def poll (p : Peer) : Option (Poll Bytes) × Peer :=
  match p.consumer with
  | none => (none, p)
  | some c =>
      let (r, c, bridge) := p.bridge.poll c
      (some r, { p with bridge, consumer := some c })

/-- The handler leaves its datagrams. -/
def detach (p : Peer) : Peer :=
  match p.consumer with
  | some c => { p with bridge := p.bridge.detach c, consumer := none }
  | none => p

end Peer

/-- What the serve loop is doing. -/
inductive Serving where
  /-- It waits for a datagram, a notice or the end. -/
  | waiting
  /-- It has opened a connection and is about to offer it its first datagram. -/
  | opening (address : Socket) (peer : Nat) (payload : Bytes)
  | stopped
  deriving Repr, DecidableEq, Inhabited

/-- All connections so far, known by their places, with the table of the serve loop, what
    it is doing and the notices that it has not read. -/
structure Peers where
  /-- The pipeline of a new connection. -/
  setUp : Nat → Socket → Connection.Pipeline
  peers : List Peer
  table : List (Socket × Nat)
  notices : List (Socket × Nat)
  serving : Serving

/-- What becomes of a datagram. -/
inductive Fate where
  /-- It was put into the queue of a connection. -/
  | queued (peer : Nat)
  /-- The queue of the connection was full. -/
  | refused (peer : Nat)
  /-- The connection had ended before its first datagram. -/
  | lost (peer : Nat)
  deriving Repr, DecidableEq, Inhabited

/-- What becomes of a datagram that was offered to a connection. -/
def Offer.fate : Offer → Nat → Fate
  | taken, i => .queued i
  | full, i => .refused i
  | closed, i => .lost i

namespace Peers

/-- No connections. -/
def empty (setUp : Nat → Socket → Connection.Pipeline) : Peers :=
  { setUp, peers := [], table := [], notices := [], serving := .waiting }

/-- Change a connection. -/
def onPeer (s : Peers) (i : Nat) (f : Peer → Peer) : Peers :=
  { s with peers := s.peers.modify i f }

/-- The table has no entry for an address; its connection is not fed any more. -/
def forget (s : Peers) (a : Socket) : Peers :=
  let s' := { s with table := s.table.filter fun e => e.1 != a }
  match s.table.lookup a with
  | some i => s'.onPeer i Peer.forget
  | none => s'

/-- The tasks of a new connection are started. -/
def openPeer (s : Peers) (a : Socket) (payload : Bytes) : Peers :=
  let i := s.peers.length
  { s with peers := s.peers ++ [.fresh a (s.setUp i a)], serving := .opening a i payload }

/-- A datagram arrives. Its fate is not known yet if a connection was opened for it; while
    the serve loop is busy the datagram waits in the socket. -/
def arrive (s : Peers) (a : Socket) (payload : Bytes) : Option Fate × Peers :=
  match s.serving with
  | .waiting =>
      match s.table.lookup a with
      | none => (none, s.openPeer a payload)
      | some i =>
          match s.peers[i]? with
          | none => (none, s.openPeer a payload)
          | some p =>
              match (p.offer payload).1 with
              | .closed => (none, (s.forget a).openPeer a payload)
              | o => (some (o.fate i), s.onPeer i fun p => (p.offer payload).2)
  | _ => (none, s)

/-- The new connection is offered its first datagram and entered into the table. -/
def enter (s : Peers) : Option Fate × Peers :=
  match s.serving with
  | .opening a i payload =>
      let fate := s.peers[i]?.map fun p => (p.offer payload).1.fate i
      let s := (s.onPeer i fun p => (p.offer payload).2).forget a
      (fate, { s with table := (a, i) :: s.table, serving := .waiting })
  | _ => (none, s)

/-- The serve loop reads the first notice. -/
def readNotice (s : Peers) : Peers :=
  match s.serving, s.notices with
  | .waiting, (a, i) :: rest =>
      let s := { s with notices := rest }
      if s.table.lookup a = some i then s.forget a else s
  | _, _ => s

/-- The serve loop ends; no queue is fed any more. -/
def stop (s : Peers) : Peers :=
  match s.serving with
  | .waiting => { s with peers := s.peers.map Peer.forget, table := [], serving := .stopped }
  | _ => s

/-- The pump of a connection goes one step. -/
def pump (s : Peers) (i : Nat) (alert : Bool) : List Pumped × Peers :=
  match s.peers[i]? with
  | none => ([], s)
  | some p => ((p.pumpStep alert).1, s.onPeer i fun p => (p.pumpStep alert).2)

/-- The handler of a connection comes to its end. -/
def finish (s : Peers) (i : Nat) : Peers := s.onPeer i Peer.finish

/-- The handler of a connection, which has ended, sends its notice. -/
def notify (s : Peers) (i : Nat) : Peers :=
  match s.peers[i]? with
  | none => s
  | some p =>
      if p.finished && !p.notified then
        { s.onPeer i fun p => { p with notified := true } with
          notices := s.notices ++ [(p.address, i)] }
      else s

/-- The handler of a connection closes it. -/
def close (s : Peers) (i : Nat) : Peers := s.onPeer i Peer.close

/-- The handler of a connection attaches to its datagrams. -/
def attach (s : Peers) (i : Nat) (mode : Mode) : Peers := s.onPeer i fun p => p.attach mode

/-- The handler of a connection asks for more. -/
def request (s : Peers) (i n : Nat) : Peers := s.onPeer i fun p => p.request n

/-- The handler of a connection looks for the next datagram. -/
def poll (s : Peers) (i : Nat) : Option (Poll Bytes) × Peers :=
  match s.peers[i]? with
  | none => (none, s)
  | some p => (p.poll.1, s.onPeer i fun p => p.poll.2)

/-- The handler of a connection leaves its datagrams. -/
def detach (s : Peers) (i : Nat) : Peers := s.onPeer i Peer.detach

end Peers

end Udp

end DemandNet
