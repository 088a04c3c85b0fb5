import DemandNet.Client.Response
import DemandNet.Http.Status
import DemandNet.Server.Host
import DemandNet.Url.Parse
import DemandNet.WebSocket.Session

/-!
# Calls

What a client sends, and to whom.

Every call goes to a URL and opens a connection of its own. A URL that cannot be read or
has the wrong scheme fails the call before anything is opened. How a connection is opened
and used is left to a carrier; that of a host without a network fails always.

## Main definitions

* `locate`: The URL of a call.
* `Message`: A request as it is sent.
* `Carrier`: The way to the servers.
* `request`: A request and its answer.
* `openSession`: A WebSocket session.
* `Carrier.cutOff`: The way of a host whose interfaces are down.
-/

namespace DemandNet

namespace Client

open Http

/-- The failure of a call whose arguments cannot be used. -/
def invalidInput (text : String) : NetError := .io ⟨.invalidInput, text⟩

/-- The URL of a call, which needs the given scheme. -/
def locate (scheme url : String) : Except NetError Url.Location :=
  match Url.Location.parse url with
  | .error d => .error (invalidInput d.message)
  | .ok l =>
      if l.scheme = scheme then .ok l
      else .error (invalidInput ("unsupported scheme " ++ l.scheme))

/-- A request as it is sent. -/
structure Message where
  method : String
  target : String
  headers : Headers
  body : Bytes
  deriving Repr, DecidableEq

/-- A request for a URL. It names the host, whatever its headers said. -/
def Message.ofCall (l : Url.Location) (method : String) (headers : Headers) (body : Bytes) :
    Message :=
  { method, target := l.target, body
    headers := headers.insert "host" (Bytes.ofText l.authority) }

/-- What the answer to a handshake says: the subprotocol that was chosen. -/
structure SessionAnswer where
  protocol : Option String
  deriving Repr, DecidableEq

/-- The way to the servers: how connections are opened, and what comes of a request and
    of a handshake once one is open. -/
structure Carrier where
  connect : Url.Location → Except NetError Unit
  exchange : Url.Location → Message → Except NetError Answer
  handshake : Url.Location → Headers → Except NetError SessionAnswer

/-- A request and its answer. -/
def request (carrier : Carrier) (window : Flow.Window) (method url : String)
    (headers : Headers) (body : Bytes) : Except NetError Response := do
  let l ← locate "http" url
  carrier.connect l
  let answer ← carrier.exchange l (.ofCall l method headers body)
  answer.accept window

/-- A session with a server, and the subprotocol that the server chose. -/
structure OpenedSession where
  session : WebSocket.Session
  protocol : Option String

/-- The headers by which a client offers subprotocols. -/
def offer (protocols : Option String) : Except NetError Headers :=
  match protocols with
  | none => .ok []
  | some p =>
      let value := Bytes.ofText p
      if value.all isReadable then .ok [("sec-websocket-protocol", value)]
      else .error (.upgrade ("invalid subprotocol list " ++ p))

/-- Open a WebSocket session. What is offered is looked at only once the connection is
    there. -/
def openSession (carrier : Carrier) (url : String) (protocols : Option String) :
    Except NetError OpenedSession := do
  let l ← locate "ws" url
  carrier.connect l
  let headers ← offer protocols
  let answer ← carrier.handshake l headers
  return { session := .start .client [] true, protocol := answer.protocol }

/-- The way of a host whose interfaces are down: nobody can be reached. -/
def Carrier.cutOff : Carrier :=
  { connect := fun l =>
      let name := (l.host.map Url.Host.text).getD ""
      .error (.ofIo (Server.Host.connectFailure name))
    exchange := fun _ _ => .error .httpCodec
    handshake := fun _ _ => .error .webSocketCodec }

end Client

end DemandNet
