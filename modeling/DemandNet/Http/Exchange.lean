import DemandNet.Connection.Writer
import DemandNet.Http.Intake
import DemandNet.Http.KeepAlive
import DemandNet.Http.Multipart.Receive
import DemandNet.Http.RequestId
import DemandNet.Routing.Table
import DemandNet.WebSocket.Handshake

/-!
# Exchanges

One request with its response, as handlers see them.

Until the head of the response is flushed, its status and headers may be changed, and the
last change counts. The first operation that needs the head on its way flushes it, and
from then on nothing about it can be changed. What is sent after that goes through the
writer of the exchange to the codec. A head that goes without a body makes every later
write meet a broken pipe, and so does a client that has left. The codec lets go of a response
when its client leaves, at any time; what was not taken by then is lost.

An exchange can be turned into a WebSocket session, once, and only before the head was
flushed. A handshake that is refused is answered at once. One that is accepted is answered
too, and only then the codec hands the connection over; if it does not, there is no session.

## Main definitions

* `RequestHead`, `ResponseHead`: The heads of the two messages.
* `Codec`: What an exchange meets on the side of the codec.
* `Exchange`: An exchange.
* `Exchange.start`, `Exchange.startFor`: An exchange at its beginning.
* `Exchange.setStatus`, `Exchange.setHeader`, `Exchange.addHeader`: Changes of the head.
* `Exchange.flush`: The head is sent.
* `Exchange.send`, `Exchange.sendAll`: The body.
* `Exchange.upgrade`: The handshake.
* `Exchange.finish`, `Exchange.abort`: The end.
* `Exchange.response`: What the codec gets.
-/

namespace DemandNet

namespace Http

open Connection

/-- The head of a request. -/
structure RequestHead where
  method : String
  path : String
  query : Option String
  version : Version
  headers : Headers
  deriving Repr, DecidableEq

/-- What a handler knows of a request before it reads the body. -/
structure Incoming where
  id : String
  head : RequestHead
  params : Routing.Params

/-- The head of a response. -/
structure ResponseHead where
  status : Nat
  headers : Headers
  deriving Repr, DecidableEq, Inhabited

/-- What all exchanges of one connection share. -/
structure Settings where
  keepAlive : Bool
  window : Flow.Window
  pipeline : Pipeline

/-- How long a codec is there for a response. -/
inductive Patience where
  /-- It takes the response to its end. -/
  | throughout
  /-- It lets go of the body once it took so many chunks. -/
  | chunks (n : Nat)
  /-- It is gone before the head. -/
  | gone
  deriving Repr, DecidableEq

/-- The number of chunks that are taken, unless all are. -/
def Patience.taken? : Patience → Option Nat
  | throughout => none
  | chunks n => some n
  | gone => some 0

/-- What an exchange meets on the side of the codec. -/
structure Codec where
  patience : Patience
  /-- Why the connection will not be handed over to a session, if it will not. -/
  withholds : Option NetError

/-- A codec whose client stays. It hands connections over from version 1.1 on. -/
def Codec.steady (v : Version) : Codec :=
  { patience := .throughout
    withholds := match v with
      | .http09 | .http10 => some .httpCodec
      | _ => none }

/-- A request with its response. -/
structure Exchange where
  incoming : Incoming
  /-- The connection stays open afterwards. -/
  keepAlive : Bool
  window : Flow.Window
  body : Intake
  /-- The reader of the request body that the handler has. -/
  reader : Option Flow.Consumer
  /-- The head as it stands before it is flushed. -/
  pending : ResponseHead
  /-- The head that was flushed. -/
  sent : Option ResponseHead
  /-- The head was flushed without a body. -/
  bodiless : Bool
  writer : Writer
  sink : Sink
  status : Status
  /-- The connection can still be taken over by a session. -/
  upgradable : Bool
  /-- Why the codec will not hand the connection over to a session, if it will not. -/
  withholds : Option NetError
  /-- The session that took it over. -/
  session : Option WebSocket.Accepted
  /-- Why the response was cut off. -/
  failure : Option NetError

/-- What the codec gets of a response. -/
structure Response where
  head : ResponseHead
  body : List Bytes
  ending : BodyEnd
  deriving Repr, DecidableEq

namespace Exchange

/-- An exchange at its beginning. The response carries the identifier of the request. -/
def startFor (codec : Codec) (settings : Settings) (incoming : Incoming)
    (frames : List BodyFrame) (ending : Option BodyEnd) : Exchange :=
  { incoming
    keepAlive := settings.keepAlive && wantsKeepAlive incoming.head.version incoming.head.headers
    window := settings.window
    body := .start settings.pipeline frames ending
    reader := none
    pending := { status := 200, headers := [(RequestId.headerName, Bytes.ofText incoming.id)] }
    sent := none, bodiless := false
    writer := .start, sink := .taking codec.patience.taken?, status := .opened
    upgradable := true, withholds := codec.withholds, session := none, failure := none }

/-- An exchange whose client stays, at its beginning. -/
def start (settings : Settings) (incoming : Incoming) (frames : List BodyFrame)
    (ending : Option BodyEnd) : Exchange :=
  startFor (.steady incoming.head.version) settings incoming frames ending

/-- The head was flushed. -/
def headSent (x : Exchange) : Bool := x.sent.isSome

/-- Change the head, as long as that is possible. -/
def change (x : Exchange) (f : ResponseHead → ResponseHead) : Except NetError Unit × Exchange :=
  if x.headSent then (.error .headersSent, x) else (.ok (), { x with pending := f x.pending })

/-- Set the status. -/
def setStatus (x : Exchange) (status : Nat) : Except NetError Unit × Exchange :=
  x.change fun h => { h with status }

/-- Set the only value of a header. -/
def setHeader (x : Exchange) (name : String) (value : Bytes) :
    Except NetError Unit × Exchange :=
  x.change fun h => { h with headers := h.headers.insert name value }

/-- Give a header one more value. -/
def addHeader (x : Exchange) (name : String) (value : Bytes) :
    Except NetError Unit × Exchange :=
  x.change fun h => { h with headers := h.headers.append name value }

/-- Headers with those of another list: a name that is in both has its values there. -/
def replaceHeaders (h others : Headers) : Headers :=
  h.filter (fun f => !Headers.contains others f.1) ++ others

/-- A head as it is sent. Unless the connection stays open, or is handed to a session, the
    head says so. -/
def ResponseHead.onTheWire (h : ResponseHead) (keepAlive : Bool) : ResponseHead :=
  if keepAlive || h.status = 101 then h
  else { h with headers := h.headers.insert "connection" (Bytes.ofText "close") }

/-- The writes of an exchange have no way to go any more. -/
def breakPipe (x : Exchange) : Exchange :=
  let plan (k : SinkCallKind) (_ : Nat) : Option IoKind :=
    if k = .write then some .brokenPipe else none
  { x with sink := { x.sink with plan } }

/-- Flush the head, perhaps without a body; the answer says whether it was still there. -/
def flush (x : Exchange) (bodiless : Bool) : Bool × Exchange :=
  if x.headSent then (false, x)
  else
    let head := ResponseHead.onTheWire x.pending x.keepAlive
    let x := { x with sent := some head, pending := { x.pending with headers := [] }, bodiless }
    (true, if bodiless then x.breakPipe else x)

/-- Flush the head with a body to follow. -/
def sendHeaders (x : Exchange) : Bool × Exchange := x.flush false

/-- What the writer needs to know. -/
def writerView (x : Exchange) : WriterView :=
  { pipeline := x.body.pipeline, consumed := x.body.bridge.attached, status := x.status }

/-- The writer goes on until it has to wait. -/
def settle (x : Exchange) : Exchange :=
  let (writer, status, sink) := x.writer.settle x.writerView x.sink
  { x with writer, status, sink }

/-- Ask the writer for something and wait for the answer, if there is one. -/
def write (x : Exchange) (op : WriteOp) : Option (Except NetError Unit) × Exchange :=
  let (ticket, writer) := x.writer.submit op
  let x := { x with writer }.settle
  (x.writer.answer? ticket, x)

/-- Send one chunk of the body, after the head. -/
def send (x : Exchange) (chunk : Bytes) : Option (Except NetError Unit) × Exchange :=
  (x.sendHeaders).2.write (.write chunk)

/-- Send chunks up to the first that fails. -/
def sendChunks (x : Exchange) : List Bytes → Option (Except NetError Unit) × Exchange
  | [] => (some (.ok ()), x)
  | chunk :: rest =>
      match x.write (.write chunk) with
      | (some (.ok ()), x) => x.sendChunks rest
      | r => r

/-- Send chunks of the body, after the head. -/
def sendAll (x : Exchange) (chunks : List Bytes) : Option (Except NetError Unit) × Exchange :=
  (x.sendHeaders).2.sendChunks chunks

/-- Answer with a status and headers and without a body, unless it is too late. -/
def reject (x : Exchange) (status : Nat) (headers : Headers) : Exchange :=
  if x.headSent then x
  else
    let pending := { status, headers := replaceHeaders x.pending.headers headers }
    ({ x with pending }.flush true).2

/-- Answer that the protocol is switched. -/
def commitSwitch (x : Exchange) (headers : Headers) : Except NetError Unit × Exchange :=
  if x.headSent then (.error (.upgrade "cannot upgrade after headers sent"), x)
  else
    let pending := { status := 101, headers := replaceHeaders x.pending.headers headers }
    (.ok (), ({ x with pending }.flush true).2)

/-- The headers that accept a handshake. -/
def switchHeaders (a : WebSocket.Accepted) : Headers :=
  let base : Headers := [("upgrade", Bytes.ofText "websocket"),
    ("connection", Bytes.ofText "Upgrade"),
    ("sec-websocket-accept", Bytes.ofText a.acceptKey)]
  match a.protocol with
  | none => base
  | some p =>
      let value := Bytes.ofText p
      if value.all isReadable then base ++ [("sec-websocket-protocol", value)] else base

/-- Wait for the codec to hand the connection over to a session. -/
def handOver (x : Exchange) (a : WebSocket.Accepted) :
    Except NetError WebSocket.Accepted × Exchange :=
  match x.withholds with
  | some e => (.error e, x)
  | none => (.ok a, { x with session := some a })

/-- Turn the exchange into a session. A handshake that is refused is answered, and one that is
    accepted before the connection is handed over. -/
def upgrade (x : Exchange) (protocols : Option String) :
    Except NetError WebSocket.Accepted × Exchange :=
  if x.headSent then (.error (.upgrade "cannot upgrade after headers sent"), x)
  else
    match WebSocket.negotiate x.incoming.head.headers protocols with
    | .error .version =>
        let headers := [("sec-websocket-version", Bytes.ofText WebSocket.supportedVersion)]
        (.error (.upgrade "unsupported version or subprotocol"), x.reject 426 headers)
    | .error (.badRequest reason) => (.error (.upgrade reason), x.reject 400 [])
    | .ok a =>
        if !x.upgradable then (.error (.upgrade "connection already upgraded"), x)
        else
          match { x with upgradable := false }.commitSwitch (switchHeaders a) with
          | (.error e, x) => (.error e, x)
          | (.ok (), x) => x.handOver a

/-- Attach a reader to the request body. -/
def receive (x : Exchange) (mode : Flow.Mode) : Except NetError Unit × Exchange :=
  match x.body.attach mode with
  | .error e => (.error e, x)
  | .ok (c, body) => (.ok (), { x with body, reader := some c })

/-- Attach a reader that takes the request body apart. -/
def receiveMultipart (x : Exchange) : Except NetError Multipart.Decoder × Exchange :=
  let (r, bridge) := Multipart.receive x.incoming.head.headers (.window x.window) x.body.bridge
  let x := { x with body := { x.body with bridge } }
  match r with
  | .error e => (.error e, x)
  | .ok (d, c) => (.ok d, { x with reader := some c })

/-- The reader looks for the next chunk of the request body. -/
def pull (x : Exchange) : Option (Flow.Poll Bytes) × Exchange :=
  match x.reader with
  | none => (none, x)
  | some c =>
      let (p, c, body) := x.body.pull c
      (some p, { x with body, reader := some c })

/-- The reader asks for more. -/
def request (x : Exchange) (n : Nat) : Exchange :=
  match x.reader with
  | none => x
  | some c => { x with body := { x.body with bridge := x.body.bridge.request c n }.pump }

/-- The reader leaves. -/
def cancel (x : Exchange) : Exchange :=
  match x.reader with
  | none => x
  | some c =>
      { x with body := { x.body with bridge := x.body.bridge.detach c }, reader := none }

/-- The client leaves, and the codec with it. -/
def loseClient (x : Exchange) : Exchange :=
  { x.breakPipe with withholds := x.withholds.or (some .httpCodec) }

/-- End the response; its head is flushed if no handler did that. -/
def finish (x : Exchange) : Exchange :=
  let x := (x.sendHeaders).2
  ({ x with body := x.body.abandon }.write .close).2

/-- Cut the response off. -/
def abort (x : Exchange) (e : NetError) : Exchange :=
  { x with body := x.body.abandon, failure := some e }

/-- What the codec gets in the end. A response whose head was never flushed is replaced
    by one that reports a failure. -/
def response (x : Exchange) : Response :=
  match x.sent with
  | none => { head := { status := 500, headers := [] }, body := [], ending := .complete }
  | some head =>
      if x.bodiless then { head, body := [], ending := .complete }
      else
        { head, body := x.sink.written
          ending := (x.failure.map BodyEnd.broken).getD .complete }

end Exchange

end Http

end DemandNet
