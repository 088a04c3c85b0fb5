import DemandNet.Http.Headers

/-!
# Keeping Connections

Whether a connection stays open after a request.

From version 1.1 on it does unless the request says otherwise; before that it does only
if the request asks for it. A wish to close always counts.

## Main definitions

* `Version`: The protocol versions.
* `wantsKeepAlive`: The connection is to stay open.
-/

namespace DemandNet

namespace Http

/-- The protocol versions. -/
inductive Version where
  | http09
  | http10
  | http11
  | http2
  deriving Repr, DecidableEq, Inhabited

/-- The version as requests spell it. -/
def Version.text : Version → String
  | http09 => "HTTP/0.9"
  | http10 => "HTTP/1.0"
  | http11 => "HTTP/1.1"
  | http2 => "HTTP/2.0"

/-- A connection stays open after a request with these headers. -/
def wantsKeepAlive (v : Version) (h : Headers) : Bool :=
  let tokens := (headerTokens h "connection").map Text.lower
  if tokens.contains "close".toList then false
  else
    match v with
    | .http09 | .http10 => tokens.contains "keep-alive".toList
    | _ => true

end Http

end DemandNet
