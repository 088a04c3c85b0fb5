import DemandNet.Http.Headers
import DemandNet.WebSocket.Sha1

/-!
# The Handshake

How a server decides about a request for a WebSocket session.

The request has to ask for the upgrade, speak version 13 and bring a key; the first of
these that is missing decides how it is refused. Then a subprotocol is chosen: the first
one that the client offers and the server supports. If either side does not care, there
is none; if both do and have nothing in common, the request is refused.

The answer proves that the key was read: it is the key, followed by a fixed text, hashed
and written in base 64.

## Main definitions

* `base64`: Bytes in base 64.
* `acceptKey`: The answer to a key.
* `isUpgradeRequest`: The request asks for the upgrade.
* `selectProtocol`: The choice of the subprotocol.
* `negotiate`: The decision.
-/

namespace DemandNet

namespace WebSocket

open Http

/-- The character of a digit in base 64. -/
def base64Char (n : Nat) : Char :=
  if n < 26 then Char.ofNat (65 + n)
  else if n < 52 then Char.ofNat (71 + n)
  else if n < 62 then Char.ofNat (n - 4)
  else if n = 62 then '+'
  else '/'

/-- Bytes in base 64, with equals signs in place of missing digits. -/
def base64 : Bytes → List Char
  | a :: b :: c :: rest =>
      let n := a.toNat * 65536 + b.toNat * 256 + c.toNat
      base64Char (n / 262144) :: base64Char (n / 4096 % 64) :: base64Char (n / 64 % 64)
        :: base64Char (n % 64) :: base64 rest
  | [a, b] =>
      let n := a.toNat * 1024 + b.toNat * 4
      [base64Char (n / 4096), base64Char (n / 64 % 64), base64Char (n % 64), '=']
  | [a] =>
      let n := a.toNat * 16
      [base64Char (n / 64), base64Char (n % 64), '=', '=']
  | [] => []

/-- The text that every server appends to a key. -/
def keySuffix : String := "258EAFA5-E914-47DA-95CA-C5AB0DC85B11"

/-- The answer to a key. -/
def acceptKey (key : Bytes) : String :=
  String.ofList (base64 (sha1 (key ++ Bytes.ofText keySuffix)))

/-- The version that is spoken. -/
def supportedVersion : String := "13"

/-- A handshake that was accepted. -/
structure Accepted where
  acceptKey : String
  protocol : Option String
  deriving Repr, DecidableEq

/-- Why a handshake was refused. -/
inductive Rejection where
  /-- The version is not spoken, or no subprotocol is common to both sides. -/
  | version
  /-- The request is no handshake. -/
  | badRequest (reason : String)
  deriving Repr, DecidableEq

/-- The request asks for the upgrade. -/
def isUpgradeRequest (h : Headers) : Bool :=
  (headerTokens h "upgrade").any (Text.eqIgnoringCase · "websocket".toList)
    && (headerTokens h "connection").any (Text.eqIgnoringCase · "upgrade".toList)

/-- The subprotocols of a list between commas. -/
def protocolList (s : String) : List (List Char) :=
  ((Text.splitOn (· == ',') s.toList).map Text.trim).filter (!·.isEmpty)

/-- The choice of the subprotocol. A star on the server's list supports everything. -/
def selectProtocol (h : Headers) (supported : Option String) :
    Except Rejection (Option String) :=
  let supported := (supported.map protocolList).getD []
  let offered := (headerTokens h "sec-websocket-protocol").filter (!·.isEmpty)
  if supported.isEmpty || offered.isEmpty then .ok none
  else
    match offered.find? fun p => supported.contains ['*'] || supported.contains p with
    | some p => .ok (some (String.ofList p))
    | none => .error .version

/-- The decision about a handshake. -/
def negotiate (h : Headers) (protocols : Option String) : Except Rejection Accepted := do
  if !isUpgradeRequest h then throw (.badRequest "missing websocket upgrade headers")
  let version := (h.text? "sec-websocket-version").map fun v => Text.trim v.toList
  if version ≠ some supportedVersion.toList then throw .version
  match h.get? "sec-websocket-key" with
  | some (b :: key) =>
      let protocol ← selectProtocol h protocols
      return { acceptKey := acceptKey (b :: key), protocol }
  | _ => throw (.badRequest "missing Sec-WebSocket-Key")

end WebSocket

end DemandNet
