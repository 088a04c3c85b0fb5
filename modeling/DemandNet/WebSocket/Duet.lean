import DemandNet.WebSocket.Session

/-!
# Duets

A session, the socket, and a peer that follows the protocol and reads all it gets.

Operations change the session or let the peer write; `Duet.settle` lets the session go on
until it has to wait, and then the peer reads. So an answer that the peer owes is on the
socket only after the session came to rest.

## Main definitions

* `Peer`: The other side of a session.
* `PeerEvent`: What a peer finds.
* `Duet`: The session with its peer.
* `Duet.settle`: The session goes on, and then the peer reads.
-/

namespace DemandNet

namespace WebSocket

/-- The other side of a session. -/
structure Peer where
  codec : Codec
  /-- It has seen the end of the data. -/
  done : Bool
  deriving Repr, DecidableEq, Inhabited

/-- What a peer finds. -/
inductive PeerEvent where
  | frame (f : Frame)
  /-- The data has ended after a closing handshake. -/
  | goodbye
  /-- The data has ended without one. -/
  | lost
  deriving Repr, DecidableEq

namespace Peer

/-- A peer in its role. -/
def start (role : Role) : Peer := { codec := .start role, done := false }

/-- Read one frame; `none` if there is none for the time being. -/
def next (p : Peer) (sock : Socket) : Option PeerEvent × Peer × Socket :=
  if p.done then (none, p, sock)
  else
    match p.codec.read sock with
    | (.pending, codec, sock) => (none, { p with codec }, sock)
    | (.frame f, codec, sock) => (some (.frame f), { p with codec }, sock)
    | (.finished, codec, sock) => (some .goodbye, { codec, done := true }, sock)
    | (.failed _, codec, sock) => (some .lost, { codec, done := true }, sock)

/-- Read at most `fuel` frames. -/
def readUpTo (p : Peer) (sock : Socket) : Nat → List PeerEvent × Peer × Socket
  | 0 => ([], p, sock)
  | fuel + 1 =>
      match p.next sock with
      | (none, p, sock) => ([], p, sock)
      | (some e, p, sock) =>
          let (es, p, sock) := p.readUpTo sock fuel
          (e :: es, p, sock)

/-- Read all that is there. -/
def readAll (p : Peer) (sock : Socket) : List PeerEvent × Peer × Socket :=
  p.readUpTo sock (sock.inbox.frames.length + 2)

/-- Write frames up to the first that cannot be written; the answer says whether all
    were. -/
def writeAll (p : Peer) (sock : Socket) : List Frame → Bool × Peer × Socket
  | [] => (true, p, sock)
  | f :: rest =>
      match p.codec.send sock f with
      | (.ok (), codec, sock) => { p with codec }.writeAll sock rest
      | (.error _, codec, sock) => (false, { p with codec }, sock)

end Peer

/-- A session with its peer. -/
structure Duet where
  session : Session
  /-- The socket as the session sees it. -/
  socket : Socket
  /-- The peer, until it vanishes. -/
  peer : Option Peer
  /-- The one consumer, while it is attached. -/
  consumer : Option Flow.Consumer
  window : Flow.Window
  /-- The session was told to stop. -/
  stopping : Bool
  now : Nat

namespace Duet

/-- A new session with its peer. -/
def start (pipeline : Connection.Pipeline) (window : Flow.Window) (keepAlive : Bool) : Duet :=
  { session := .start .server pipeline keepAlive, socket := .fresh,
    peer := some (.start .client), consumer := none, window, stopping := false, now := 0 }

/-- The session goes on until it has to wait. -/
def advance (d : Duet) : Duet :=
  let (session, socket) := d.session.settle d.socket d.now d.stopping
  { d with session, socket }

/-- The peer reads all that is there. -/
def collect (d : Duet) : List PeerEvent × Duet :=
  match d.peer with
  | none => ([], d)
  | some p =>
      let (es, p, other) := p.readAll d.socket.flip
      (es, { d with peer := some p, socket := other.flip })

/-- The session goes on, and then the peer reads. -/
def settle (d : Duet) : List PeerEvent × Duet := d.advance.collect

/-- The peer writes; `none` if it has vanished. -/
def write (d : Duet) (fs : List Frame) : Option (Bool × Duet) :=
  d.peer.map fun p =>
    let (r, p, other) := p.writeAll d.socket.flip fs
    (r, { d with peer := some p, socket := other.flip })

/-- The peer vanishes. -/
def dropPeer (d : Duet) : Duet :=
  if d.peer.isSome then { d with peer := none, socket := d.socket.flip.drop.flip } else d

/-- Nobody holds the session any more. -/
def dropSession (d : Duet) : Duet := { d with session := d.session.release }

/-- The clock moves. -/
def pass (d : Duet) (time : Nat) : Duet := { d with now := d.now + time }

/-- Ask the session for something and let it go on. -/
def perform (d : Duet) (op : SessionOp) : Except NetError Unit × Duet :=
  let (t, session) := d.session.submit op
  let d := { d with session }.advance
  ((d.session.answer? t).getD (.error .remoteClosed), d)

/-- Send messages one after the other, up to the first failure. -/
def sendAll (d : Duet) : List Message → Except NetError Unit × Duet
  | [] => (.ok (), d)
  | m :: rest =>
      match d.perform (.send m) with
      | (.ok (), d) => d.sendAll rest
      | r => r

/-- Attach a consumer. -/
def attach (d : Duet) (mode : Flow.Mode) : Except NetError Duet :=
  match d.session.bridge.attach mode with
  | .error e => .error e
  | .ok (c, bridge) =>
      .ok { d with session := { d.session with bridge }, consumer := some c }

/-- The consumer asks for more. -/
def request (d : Duet) (n : Nat) : Option Duet :=
  d.consumer.map fun c =>
    { d with session := { d.session with bridge := d.session.bridge.request c n } }

/-- The consumer looks for the next payload. -/
def poll (d : Duet) : Option (Flow.Poll Bytes × Duet) :=
  d.consumer.map fun c =>
    let (p, c, bridge) := d.session.bridge.poll c
    (p, { d with session := { d.session with bridge }, consumer := some c })

/-- The consumer leaves. -/
def cancel (d : Duet) : Duet :=
  match d.consumer with
  | none => d
  | some c =>
      { d with
        session := { d.session with bridge := d.session.bridge.detach c }, consumer := none }

end Duet

end WebSocket

end DemandNet
