import DemandNet.Http.Status
import DemandNet.Text.Duration
import DemandNet.Text.Quoted

/-!
# Errors

Every way in which an operation of this library fails.

A failure is recorded by its cause; the wording is kept in one place,
`NetError.message`. Failures of the operating system carry a kind, because one
class of kinds, the broken pipes, only says that the other side went away: such a
failure becomes `NetError.remoteClosed` as soon as it enters the library
(`NetError.ofIo`).

## Main definitions

* `IoKind`, `IoError`: A failure of the operating system.
* `NetError`: A failure of the library.
* `NetError.message`: The wording of a failure.
* `NetError.ofIo`: A system failure as a failure of the library.
* `NetError.isRemoteClosed`: The failures that mean the other side is gone.
-/

namespace DemandNet

/-- The kinds of system failure that are told apart. -/
inductive IoKind where
  | brokenPipe
  | connectionReset
  | connectionAborted
  | connectionRefused
  | notConnected
  | timedOut
  | unexpectedEof
  | writeZero
  | invalidInput
  | invalidData
  | interrupted
  | permissionDenied
  | notFound
  | addrInUse
  | addrNotAvailable
  | networkUnreachable
  /-- A failure of a kind that is not told apart. -/
  | uncategorized
  | other
  deriving Repr, DecidableEq, Inhabited

namespace IoKind

/-- The other side of the connection went away. -/
def isBrokenPipe : IoKind → Bool
  | brokenPipe | connectionReset | connectionAborted => true
  | _ => false

/-- The wording of a failure about which nothing but its kind is known. -/
def description : IoKind → String
  | brokenPipe => "broken pipe"
  | connectionReset => "connection reset"
  | connectionAborted => "connection aborted"
  | connectionRefused => "connection refused"
  | notConnected => "not connected"
  | timedOut => "timed out"
  | unexpectedEof => "unexpected end of file"
  | writeZero => "write zero"
  | invalidInput => "invalid input parameter"
  | invalidData => "invalid data"
  | interrupted => "operation interrupted"
  | permissionDenied => "permission denied"
  | notFound => "entity not found"
  | addrInUse => "address in use"
  | addrNotAvailable => "address not available"
  | networkUnreachable => "network unreachable"
  | uncategorized => "uncategorized error"
  | other => "other error"

end IoKind

/-- A failure of the operating system: its kind and its wording. -/
structure IoError where
  kind : IoKind
  text : String
  deriving Repr, DecidableEq, Inhabited

namespace IoError

/-- A failure about which nothing but its kind is known. -/
def ofKind (k : IoKind) : IoError :=
  ⟨k, k.description⟩

/-- The other side of the connection went away. -/
def isBrokenPipe (e : IoError) : Bool :=
  e.kind.isBrokenPipe

/-- An argument that the system refuses. -/
def invalidArgument : IoError := ⟨.invalidInput, "Invalid argument (os error 22)"⟩

/-- The address is taken. -/
def addressInUse : IoError := ⟨.addrInUse, "Address already in use (os error 98)"⟩

/-- The address is none of this host, or not one that was joined. -/
def addressNotAvailable : IoError :=
  ⟨.addrNotAvailable, "Cannot assign requested address (os error 99)"⟩

/-- There is no such network interface. -/
def noDevice : IoError := ⟨.uncategorized, "No such device (os error 19)"⟩

/-- The socket is of the wrong version for the request. -/
def protocolNotAvailable : IoError :=
  ⟨.uncategorized, "Protocol not available (os error 92)"⟩

/-- No name server answers. -/
def lookupFailed : IoError :=
  ⟨.uncategorized,
    "failed to lookup address information: Temporary failure in name resolution"⟩

/-- No way leads to the address. -/
def unreachable : IoError :=
  ⟨.networkUnreachable, "Network is unreachable (os error 101)"⟩

/-- Nobody listens at the address. -/
def refused : IoError :=
  ⟨.connectionRefused, "Connection refused (os error 111)"⟩

end IoError

/-- A failure of the library. -/
inductive NetError where
  /-- The local address could not be bound. -/
  | bind (address : String) (cause : IoError)
  /-- The operation needs something that is not, or no longer, there. -/
  | notRunning (missing : String)
  /-- A server was started twice. -/
  | alreadyStarted
  /-- A consumer attached while another one was attached. -/
  | alreadySubscribed
  /-- The handshake failed, or came too late. -/
  | upgrade (reason : String)
  /-- The head of the response is on its way and cannot change any more. -/
  | headersSent
  /-- A body does not have the form its headers promise. -/
  | decode (reason : String)
  /-- The other side closed the connection. -/
  | remoteClosed
  /-- An item was emitted although none was asked for. -/
  | noDemand
  /-- The resource does not exist or cannot be read. -/
  | notFound (resource : String)
  /-- The response sends the caller elsewhere. -/
  | redirectResponse (status : Nat) (location : Option String)
  /-- The response reports a failure. -/
  | clientErrorResponse (status : Nat)
  /-- The server did not report its address in time. -/
  | startTimeout (nanos : Nat)
  /-- A handler failed. -/
  | handler (reason : String)
  /-- The operating system failed. -/
  | io (cause : IoError)
  /-- The HTTP codec failed. -/
  | httpCodec
  /-- The WebSocket codec failed. -/
  | webSocketCodec
  deriving Repr, DecidableEq, Inhabited

namespace NetError

/-- The wording of a failure. The two codecs word their own failures, and nothing
    of that is known here. -/
def message : NetError → String
  | bind address cause => "failed to bind " ++ address ++ ": " ++ cause.text
  | notRunning missing => "not running: " ++ missing
  | alreadyStarted => "server already started"
  | alreadySubscribed => "a consumer is already attached to this connection"
  | upgrade reason => "websocket upgrade failed: " ++ reason
  | headersSent => "response headers already sent"
  | decode reason => "decode error: " ++ reason
  | remoteClosed => "connection closed by remote peer"
  | noDemand => "emission without outstanding demand"
  | notFound resource => "not found: " ++ resource
  | redirectResponse status location =>
      "redirect response " ++ Http.statusText status ++ " to " ++ Text.optionalQuoted location
  | clientErrorResponse status => "error response " ++ Http.statusText status
  | startTimeout nanos => "server did not start within " ++ Text.durationText nanos
  | handler reason => "handler failed: " ++ reason
  | io cause => cause.text
  | httpCodec => "http codec failure"
  | webSocketCodec => "websocket codec failure"

/-- A system failure as a failure of the library: a broken pipe says no more than
    that the other side went away. -/
def ofIo (e : IoError) : NetError :=
  if e.isBrokenPipe then remoteClosed else io e

/-- The failures that mean the other side is gone. -/
def isRemoteClosed : NetError → Bool
  | remoteClosed => true
  | io e => e.isBrokenPipe
  | _ => false

/-- The failure behind this one, where there is one. -/
def cause? : NetError → Option IoError
  | bind _ cause => some cause
  | _ => none

end NetError

end DemandNet
