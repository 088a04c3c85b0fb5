import DemandNet.Http.Handler

/-!
# Sites

What a server makes of a request.

All routes that match a request are asked in turn, or the fallback if none does. A
handler that does not find what was asked for, and has not flushed the head, leaves the
request to the next one; any other failure ends the chain. If nobody flushed the head the
end of the chain does: with the status 404 if some handler did not find what was asked
for, or if there was none; with 500 after a failure; otherwise as it was set. A failure
after the head was flushed, or one that says that the client is gone, cuts the response
off.

A handler that collapses takes the chain with it, and nothing is done at its end. If the
head was not flushed then, the codec is answered with 500 in its place.

## Main definitions

* `ChainEnd`: How a chain of handlers ends.
* `runHandlers`: The handlers of a chain at work.
* `runChain`: A chain with its end.
* `dispatch`: What the codec gets from handlers.
* `Site`: Routes with their handlers.
* `Site.respond`: What the codec gets for a request.
-/

namespace DemandNet

namespace Http

/-- How a chain of handlers ends. -/
inductive ChainEnd where
  /-- No failure ended it; some handler may not have found what was asked for. -/
  | completed (missed : Bool)
  | failed (e : NetError)
  /-- A handler collapsed, and the chain with it. -/
  | unwound
  deriving Repr, DecidableEq

/-- A chain that has ended: how, how many of its handlers were asked, and the exchange. -/
structure ChainRun where
  ending : ChainEnd
  asked : Nat
  exchange : Exchange

/-- A handler leaves the request to the next one. -/
def passesOn (result : Except NetError Unit) (x : Exchange) : Bool :=
  match result with
  | .error (.notFound _) => !x.headSent
  | _ => false

/-- The handlers of a chain at work. `missed` says that one before them did not find what
    was asked for, `asked` counts those before them. -/
def runHandlers (missed : Bool) (asked : Nat) (x : Exchange) : List Handler → ChainRun
  | [] => { ending := .completed missed, asked, exchange := x }
  | h :: rest =>
      let (outcome, x) := h.run x
      match outcome.caught? with
      | none => { ending := .unwound, asked := asked + 1, exchange := x }
      | some r =>
          if passesOn r x then runHandlers true (asked + 1) x rest
          else
            match r with
            | .ok () => runHandlers missed (asked + 1) x rest
            | .error e => { ending := .failed e, asked := asked + 1, exchange := x }

/-- The end of a chain. -/
def concludeChain (r : ChainRun) : Exchange :=
  let x := r.exchange
  match r.ending with
  | .completed missed =>
      if missed && !x.headSent then (x.setStatus 404).2.finish else x.finish
  | .failed e =>
      if e.isRemoteClosed || x.headSent then x.abort e else (x.setStatus 500).2.finish
  | .unwound => x

/-- A chain with its end. Without handlers nothing is found. -/
def runChain (handlers : List Handler) (x : Exchange) : Exchange :=
  concludeChain (runHandlers handlers.isEmpty 0 x handlers)

/-- What a codec gets of a response, if it waits for it. -/
def Codec.gets (c : Codec) (r : Response) : Option Response :=
  if c.patience = .gone then none else some r

/-- What the codec gets from the handlers that are asked for a request. -/
def dispatch (codec : Codec) (settings : Settings) (incoming : Incoming)
    (frames : List BodyFrame) (ending : Option BodyEnd) (handlers : List Handler) :
    Option Response :=
  codec.gets (runChain handlers (.startFor codec settings incoming frames ending)).response

/-- A handler for each request. -/
abbrev Responder := Incoming → Handler

/-- Routes with their handlers, and the fallback for all other requests. -/
structure Site where
  routes : Routing.RouteTable Responder
  fallback : Option Responder

/-- A request as it comes from the codec. -/
structure Request where
  head : RequestHead
  frames : List BodyFrame
  ending : Option BodyEnd

/-- The identifier of a request; `generated` if it brings none. -/
def Request.id (r : Request) (generated : String) : String :=
  ((r.head.headers.text? RequestId.headerName).bind RequestId.parse?).getD generated

namespace Site

/-- A request as its handlers see it, with what the routes captured. -/
def incoming (s : Site) (generated : String) (r : Request) : Incoming :=
  { id := r.id generated, head := r.head
    params := (s.routes.select r.head.method r.head.path).params }

/-- The handlers that are asked for a request. -/
def handlers (s : Site) (generated : String) (r : Request) : List Handler :=
  let selected := (s.routes.select r.head.method r.head.path).handlers
  let asked := if selected.isEmpty then s.fallback.toList else selected
  asked.map fun responder => responder (s.incoming generated r)

/-- What the codec gets for a request. -/
def respond (s : Site) (codec : Codec) (settings : Settings) (generated : String)
    (r : Request) : Option Response :=
  dispatch codec settings (s.incoming generated r) r.frames r.ending (s.handlers generated r)

end Site

end Http

end DemandNet
