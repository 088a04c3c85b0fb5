import DemandNet.Http.Headers
import DemandNet.Http.Intake
import DemandNet.Http.Multipart.Receive
import DemandNet.Http.Status

/-!
# Responses as Clients See Them

What a client makes of the answer to a request.

The status decides first. An answer that sends the caller elsewhere and one that reports
a failure are failures of the call, each of its own sort, so that they can be told from
failures of the connection. Only the body of any other answer can be read, by one reader
at a time.

## Main definitions

* `Answer`: What the codec reports.
* `Response`: An answer whose body can be read.
* `Answer.accept`: The decision about an answer.
* `Response.aggregate`: The whole body.
-/

namespace DemandNet

namespace Client

open Http

/-- What the codec reports of an answer. -/
structure Answer where
  status : Nat
  headers : Headers
  frames : List BodyFrame
  /-- How the body ends; nothing if it never does. -/
  ending : Option BodyEnd

/-- An answer whose body can be read. -/
structure Response where
  status : Nat
  headers : Headers
  body : Intake
  window : Flow.Window

/-- The failure that an answer stands for by its status, if it stands for one. -/
def failure? (status : Nat) (headers : Headers) : Option NetError :=
  if isRedirection status then some (.redirectResponse status (headers.text? "location"))
  else if 400 ≤ status && status < 600 then some (.clientErrorResponse status)
  else none

/-- The decision about an answer. -/
def Answer.accept (a : Answer) (window : Flow.Window) : Except NetError Response :=
  match failure? a.status a.headers with
  | some e => .error e
  | none =>
      .ok { status := a.status, headers := a.headers, window
            body := .start [] a.frames a.ending }

namespace Response

/-- Attach a reader with the window of the client. -/
def receive (r : Response) : Except NetError (Flow.Consumer × Response) :=
  (r.body.attach (.window r.window)).map fun (c, body) => (c, { r with body })

/-- The whole body; no outcome if it never ends. -/
def aggregate (r : Response) : Option (Except NetError Bytes) × Response :=
  let (result, body) := r.body.collect r.window
  (result, { r with body })

/-- Attach a reader that takes the body apart. -/
def receiveMultipart (r : Response) :
    Except NetError (Multipart.Decoder × Flow.Consumer) × Response :=
  let (result, bridge) := Multipart.receive r.headers (.window r.window) r.body.bridge
  (result, { r with body := { r.body with bridge } })

end Response

end Client

end DemandNet
