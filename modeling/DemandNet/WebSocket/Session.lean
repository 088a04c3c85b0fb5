import DemandNet.Connection.Pipeline
import DemandNet.Flow.Bridge
import DemandNet.WebSocket.Codec

/-!
# Sessions

The task that owns a socket after the upgrade.

It waits for four things at once: requests of whoever holds the session, frames of the
other side, demand for a payload that it holds, and the signal to stop. While it holds a
payload that nobody wants yet it does not read, so nothing that follows can overtake the
payload; pings are answered and a close is acted on once they are read. Requests are
served at all times.

A request to close, the loss of all handles, a close of the other side, a failure and the
signal to stop end the session. What was queued then is answered: messages as closed by
the remote side, closes as done. If this side began to close, and connections are kept
alive, the session then waits for the answer of the other side, but not for long.

Each of the four has its step, `Session.serveRequest`, `Session.serveDemand`,
`Session.serveFrame` and `Session.serveStop`, which says whether it can be taken; any of
those that can may be next.

## Main definitions

* `Message`: What can be sent.
* `Session`: The state of a session.
* `Session.submit`: Queue a request.
* `Session.advance`: One step of the session.
* `Session.settle`: Steps until the session has to wait.
-/

namespace DemandNet

namespace WebSocket

/-- What can be sent in a session. -/
inductive Message where
  | binary (payload : Bytes)
  | text (payload : Bytes)
  deriving Repr, DecidableEq

/-- What can be asked of a session. -/
inductive SessionOp where
  | send (m : Message)
  | close
  deriving Repr, DecidableEq

/-- A queued request. -/
structure SessionRequest where
  ticket : Nat
  op : SessionOp
  deriving Repr, DecidableEq

/-- What a session is doing. -/
inductive SessionPhase where
  | running
  /-- It has closed and waits for the answer until the given time. -/
  | lingering (deadline : Nat)
  | ended
  deriving Repr, DecidableEq, Inhabited

/-- How long a session waits for the answer to its close, in milliseconds. -/
def closeGrace : Nat := 5000

/-- The state of a session. -/
structure Session where
  pipeline : Connection.Pipeline
  /-- The answer to a close is waited for. -/
  keepAlive : Bool
  phase : SessionPhase
  codec : Codec
  bridge : Flow.Bridge Bytes
  /-- The session still feeds the bridge. -/
  producing : Bool
  /-- A payload that nobody wanted when it was read. -/
  parked : Option Bytes
  queue : List SessionRequest
  /-- The number of tickets given out. -/
  issued : Nat
  answers : List (Nat × Except NetError Unit)
  /-- Nobody holds the session any more. -/
  released : Bool

namespace Session

/-- A new session. -/
def start (role : Role) (pipeline : Connection.Pipeline) (keepAlive : Bool) : Session :=
  { pipeline, keepAlive, phase := .running, codec := .start role, bridge := .empty,
    producing := true, parked := none, queue := [], issued := 0, answers := [],
    released := false }

/-- The session takes no more requests. -/
def isClosed (s : Session) : Bool := s.phase != .running

/-- Give the answer of a ticket. -/
def answer (s : Session) (ticket : Nat) (r : Except NetError Unit) : Session :=
  { s with answers := s.answers ++ [(ticket, r)] }

/-- The answer of a ticket, once it was given. -/
def answer? (s : Session) (ticket : Nat) : Option (Except NetError Unit) :=
  s.answers.lookup ticket

/-- The answer to a request that comes after the end. -/
def lateAnswer : SessionOp → Except NetError Unit
  | .send _ => .error (.notRunning "websocket session closed")
  | .close => .ok ()

/-- The answer to a request that was queued at the end. -/
def droppedAnswer : SessionOp → Except NetError Unit
  | .send _ => .error .remoteClosed
  | .close => .ok ()

/-- Queue a request; the answer is its ticket. -/
def submit (s : Session) (op : SessionOp) : Nat × Session :=
  let t := s.issued
  let s := { s with issued := t + 1 }
  if s.isClosed then (t, s.answer t (lateAnswer op))
  else (t, { s with queue := s.queue ++ [⟨t, op⟩] })

/-- Every handle on the session is gone. -/
def release (s : Session) : Session := { s with released := true }

/-- The frame that carries a message. -/
def encode (s : Session) : Message → Frame
  | .binary payload => .binary (s.pipeline.outbound payload)
  | .text payload => .text payload

/-- The payload of a frame that carries data. -/
def payload? : Frame → Option Bytes
  | .text payload | .binary payload => some payload
  | _ => none

/-- The session stops feeding its bridge. -/
def stopProducing (s : Session) : Session :=
  if s.producing then { s with producing := false, bridge := s.bridge.finish } else s

/-- The session stops feeding its bridge because of a failure. -/
def failProducing (s : Session) : Session :=
  if s.producing then
    { s with producing := false, bridge := s.bridge.finishWith .webSocketCodec }
  else s

/-- The session has ended; it lets go of the socket. -/
def finish (s : Session) (sock : Socket) : Session × Socket :=
  ({ s with phase := .ended }, sock.drop)

/-- The session takes no more requests. It waits for the other side if `waits` says so.
    A payload that it still holds then reaches nobody. -/
def leave (s : Session) (sock : Socket) (now : Nat) (waits : Bool) : Session × Socket :=
  let s := s.stopProducing
  let dropped := s.queue.map fun r => (r.ticket, droppedAnswer r.op)
  let s := { s with queue := [], answers := s.answers ++ dropped }
  if waits && s.keepAlive then ({ s with phase := .lingering (now + closeGrace) }, sock)
  else s.finish sock

/-- The outcome of a write. -/
def sendOutcome : Except CodecError Unit → Except NetError Unit
  | .ok () => .ok ()
  | .error _ => .error .webSocketCodec

/-- The outcome of a close; that the session is over already is no failure. -/
def closeOutcome : Except CodecError Unit → Except NetError Unit
  | .ok () => .ok ()
  | .error e => if e.isOrderly then .ok () else .error .webSocketCodec

/-- Serve the first request, or the loss of all handles. -/
def serveRequest (s : Session) (sock : Socket) (now : Nat) : Option (Session × Socket) :=
  match s.queue with
  | ⟨t, .send m⟩ :: rest =>
      let (r, codec, sock) := s.codec.send sock (s.encode m)
      let s := { s with codec, queue := rest }.answer t (sendOutcome r)
      some (if r.isOk then (s, sock) else s.leave sock now false)
  | ⟨t, .close⟩ :: rest =>
      let (r, codec, sock) := s.codec.close sock none
      let s := { s with codec, queue := rest }.answer t (closeOutcome r)
      some (s.leave sock now true)
  | [] =>
      if s.released then
        let (_, codec, sock) := s.codec.close sock none
        some ({ s with codec }.leave sock now true)
      else none

/-- Hand a payload to the bridge, or hold it if it is not wanted. Without a bridge to
    feed it is dropped. -/
def offer (s : Session) (payload : Bytes) : Session :=
  if s.producing then
    match s.bridge.tryEmit payload with
    | (true, bridge) => { s with bridge, parked := none }
    | (false, bridge) => { s with bridge, parked := some payload }
  else { s with parked := none }

/-- Hand over the payload that is held, once it is wanted. -/
def serveDemand (s : Session) : Option Session :=
  match s.parked with
  | none => none
  | some payload =>
      if s.producing then
        match s.bridge.readiness? with
        | none => none
        | some .closed => some { s.stopProducing with parked := none }
        | some .wanted => some (s.offer payload)
      else none

/-- Read a frame, unless a payload is held. -/
def serveFrame (s : Session) (sock : Socket) (now : Nat) : Option (Session × Socket) :=
  if s.parked.isSome then none
  else
    match s.codec.read sock with
    | (.pending, codec, sock) =>
        if codec = s.codec then none else some ({ s with codec }, sock)
    | (.frame (.close _), codec, sock) =>
        let (_, codec, sock) := codec.flush sock
        some ({ s with codec }.leave sock now false)
    | (.frame (.ping _), codec, sock) =>
        let (_, codec, sock) := codec.flush sock
        some ({ s with codec }, sock)
    | (.frame f, codec, sock) =>
        let s := { s with codec }
        match payload? f with
        | some payload => some (s.offer (s.pipeline.inbound payload), sock)
        | none => some (s, sock)
    | (.finished, codec, sock) => some ({ s with codec }.leave sock now false)
    | (.failed _, codec, sock) =>
        some ({ s with codec }.failProducing.leave sock now false)

/-- Obey the signal to stop. -/
def serveStop (s : Session) (sock : Socket) (now : Nat) (stopping : Bool) :
    Option (Session × Socket) :=
  if stopping then some (s.leave sock now false) else none

/-- Wait for the answer of the other side. -/
def linger (s : Session) (sock : Socket) (now deadline : Nat) : Option (Session × Socket) :=
  match s.codec.read sock with
  | (.frame (.close _), codec, sock) => some ({ s with codec }.finish sock)
  | (.frame _, codec, sock) => some ({ s with codec }, sock)
  | (.finished, codec, sock) | (.failed _, codec, sock) => some ({ s with codec }.finish sock)
  | (.pending, codec, sock) =>
      if deadline ≤ now then some ({ s with codec }.finish sock)
      else if codec = s.codec then none
      else some ({ s with codec }, sock)

/-- One step of the session; `none` while it has to wait, or once it has ended. -/
def advance (s : Session) (sock : Socket) (now : Nat) (stopping : Bool) :
    Option (Session × Socket) :=
  match s.phase with
  | .running =>
      (s.serveStop sock now stopping).orElse fun _ =>
      (s.serveRequest sock now).orElse fun _ =>
      (s.serveDemand.map fun s => (s, sock)).orElse fun _ =>
      s.serveFrame sock now
  | .lingering deadline => s.linger sock now deadline
  | .ended => none

/-- At most `fuel` steps of the session. -/
def settleUpTo (s : Session) (sock : Socket) (now : Nat) (stopping : Bool) :
    Nat → Session × Socket
  | 0 => (s, sock)
  | fuel + 1 =>
      match s.advance sock now stopping with
      | none => (s, sock)
      | some (s, sock) => s.settleUpTo sock now stopping fuel

/-- Steps until the session has to wait: for each request one, for each frame at most
    three, and those that bring the session to its end. -/
def settle (s : Session) (sock : Socket) (now : Nat) (stopping : Bool) : Session × Socket :=
  s.settleUpTo sock now stopping (3 * (s.queue.length + sock.inbox.frames.length) + 8)

end Session

end WebSocket

end DemandNet
