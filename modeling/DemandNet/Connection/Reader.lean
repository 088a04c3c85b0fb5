import DemandNet.Connection.Pipeline
import DemandNet.Connection.Status
import DemandNet.Flow.Bridge

/-!
# Readers

The task that reads a socket and feeds a bridge.

The reader reads only when an item is wanted, and it reads one chunk at a time: the
chunk passes the pipeline and is handed over before the next read begins. If the
consumer leaves while a read is under way, the chunk waits in the reader's hands for
the next consumer. While a read is under way the idle limit runs; it does not run
while the reader waits for demand.

The end of the data ends the stream, an error ends it with that error and begins to
close the connection, and a bridge that has closed makes the reader stop where it is.

## Main definitions

* `Incoming`: What the socket has to offer.
* `ReaderPhase`, `Reader`: What the reader is doing, and the socket it reads.
* `ReadResult`, `Reader.conclude`: What a read comes to, and what follows from it.
* `Reader.advance`: One step of the reader.
* `Reader.settle`: Steps until the reader has to wait.
-/

namespace DemandNet

namespace Connection

/-- What a socket has to offer, in order. -/
inductive Incoming where
  | data (bytes : Bytes)
  | eof
  | failure (kind : IoKind)
  deriving Repr, DecidableEq

/-- The most bytes that one read takes. -/
def readChunk : Nat := 8192

/-- What a reader is doing. -/
inductive ReaderPhase where
  /-- It waits until an item is wanted. -/
  | waiting
  /-- It reads, since the given time. -/
  | reading (since : Nat)
  /-- It holds a chunk that has passed the pipeline. -/
  | holding (chunk : Bytes)
  | stopped
  deriving Repr, DecidableEq, Inhabited

/-- What a read comes to. -/
inductive ReadResult where
  /-- A chunk, and what is left on the socket. -/
  | chunk (bytes : Bytes) (rest : List Incoming)
  /-- No bytes, which is not the end, and what is left on the socket. -/
  | nothing (rest : List Incoming)
  | eof
  | failed (e : IoError)

/-- A reader and the socket it reads. -/
structure Reader where
  phase : ReaderPhase
  /-- What arrived on the socket and was not read. -/
  socket : List Incoming
  /-- The number of bytes read so far. -/
  bytesRead : Nat
  deriving Repr, DecidableEq, Inhabited

/-- What a reader needs to know besides the bridge. -/
structure ReaderView where
  pipeline : Pipeline
  /-- The time a read may take, if that is limited. -/
  idleLimit : Option Nat
  now : Nat
  status : Status

namespace Reader

/-- A reader that was just started on a silent socket. -/
def start : Reader :=
  { phase := .waiting, socket := [], bytesRead := 0 }

/-- The reader still holds its socket. -/
def isAlive (r : Reader) : Bool := r.phase != .stopped

/-- Something arrives on the socket. -/
def arrive (r : Reader) (i : Incoming) : Reader :=
  { r with socket := r.socket ++ [i] }

/-- The failure of a read that took too long. -/
def idleTimeout : IoError := ⟨.timedOut, "read idle timeout"⟩

/-- The reader ends its stream with a failure, and the connection begins to close. -/
def fail (r : Reader) (v : ReaderView) (b : Flow.Bridge Bytes) (e : IoError) :
    Reader × Status × Flow.Bridge Bytes :=
  ({ r with phase := .stopped }, v.status.markClosing, b.finishWith (.ofIo e))

/-- The reader stops, which ends the stream. -/
def stop (r : Reader) (v : ReaderView) (b : Flow.Bridge Bytes) :
    Reader × Status × Flow.Bridge Bytes :=
  ({ r with phase := .stopped }, v.status, b.finish)

/-- The limit of a read that began at the given time has passed. -/
def isLate (v : ReaderView) (since : Nat) : Bool :=
  match v.idleLimit with
  | none => false
  | some limit => since + limit ≤ v.now

/-- What the socket has for a read that began at the given time; `none` while the read
    has to wait. What has arrived comes before the idle limit. -/
def readResult? (r : Reader) (v : ReaderView) (since : Nat) : Option ReadResult :=
  match r.socket with
  | .data bytes :: rest =>
      if bytes.isEmpty then some (.nothing rest)
      else
        let left := bytes.drop readChunk
        some (.chunk (bytes.take readChunk) (if left.isEmpty then rest else .data left :: rest))
  | .eof :: _ => some .eof
  | .failure k :: _ => some (.failed (.ofKind k))
  | [] => if isLate v since then some (.failed idleTimeout) else none

/-- The end of a read. -/
def conclude (r : Reader) (v : ReaderView) (b : Flow.Bridge Bytes) :
    ReadResult → Reader × Status × Flow.Bridge Bytes
  | .chunk bytes rest =>
      ({ phase := .holding (v.pipeline.inbound bytes)
         socket := rest
         bytesRead := r.bytesRead + bytes.length }, v.status, b)
  | .nothing rest => ({ r with socket := rest }, v.status, b)
  | .eof => r.stop v b
  | .failed e => r.fail v b e

/-- One step of the reader; `none` while it has to wait, or once it has stopped. -/
def advance (r : Reader) (v : ReaderView) (b : Flow.Bridge Bytes) :
    Option (Reader × Status × Flow.Bridge Bytes) :=
  match r.phase with
  | .waiting =>
      match b.readiness? with
      | none => none
      | some .closed => some (r.stop v b)
      | some .wanted => some ({ r with phase := .reading v.now }, v.status, b)
  | .reading since =>
      if b.isClosed then some (r.stop v b)
      else (r.readResult? v since).map (r.conclude v b)
  | .holding chunk =>
      match b.deliver chunk with
      | (none, _) => none
      | (some (.ok ()), b) => some ({ r with phase := .waiting }, v.status, b)
      | (some (.error _), b) => some (r.stop v b)
  | .stopped => none

/-- The number of reads that what has arrived may take. -/
def backlog (r : Reader) : Nat :=
  (r.socket.map fun
    | .data bytes => bytes.length / readChunk + 1
    | _ => 1).foldr (· + ·) 0

/-- At most `fuel` steps of the reader. -/
def settleUpTo (r : Reader) (v : ReaderView) (b : Flow.Bridge Bytes) :
    Nat → Reader × Status × Flow.Bridge Bytes
  | 0 => (r, v.status, b)
  | fuel + 1 =>
      match r.advance v b with
      | none => (r, v.status, b)
      | some (r, status, b) => r.settleUpTo { v with status } b fuel

/-- Steps until the reader has to wait: three for each read at most, and those that
    bring it to its end. -/
def settle (r : Reader) (v : ReaderView) (b : Flow.Bridge Bytes) :
    Reader × Status × Flow.Bridge Bytes :=
  r.settleUpTo v b (3 * r.backlog + 4)

end Reader

end Connection

end DemandNet
