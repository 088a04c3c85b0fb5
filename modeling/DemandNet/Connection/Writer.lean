import DemandNet.Connection.Pipeline
import DemandNet.Connection.Sink
import DemandNet.Connection.Status

/-!
# Writers

The task that performs the writes of a connection, one at a time and in the order in
which they were asked for.

Every request gets a ticket and is answered once. A chunk passes the pipeline and is
written; if nothing else is queued then, the sink is flushed too before the write is
answered, so a lone write is on its way when its caller hears of it and a burst is
flushed once. A request to close flushes, shuts the sink down and ends the writer.

A failure ends the writer as well, and so does a connection that is found to be no
longer open after a write. A broken pipe on a connection whose input nobody reads is
how connections usually end; it ends the writer, but the write that met it succeeds.
Requests that are still queued when the writer ends are answered then: writes as
closed by the remote side, closes as done.

The life of the writer is cut into steps, `Writer.advance`, at the places where it may
have to wait; between two steps anything may be queued.

## Main definitions

* `Request`: A write or a close, with its ticket.
* `Activity`: What the writer is doing.
* `Writer`: The writer with its queue and its answers.
* `Writer.submit`: Queue a request.
* `Writer.advance`: One step of the writer.
* `Writer.settle`: Steps until the writer has to wait.
-/

namespace DemandNet

namespace Connection

/-- What can be asked of a writer. -/
inductive WriteOp where
  | write (chunk : Bytes)
  | close
  deriving Repr, DecidableEq

/-- A queued request. -/
structure Request where
  ticket : Nat
  op : WriteOp
  deriving Repr, DecidableEq

/-- What a writer is doing. -/
inductive Activity where
  /-- It looks for the next request. -/
  | idle
  /-- It writes a chunk that has passed the pipeline. -/
  | writing (ticket : Nat) (chunk : Bytes)
  /-- It flushes because nothing was queued behind a write. -/
  | flushing (ticket : Nat)
  /-- It flushes before closing. -/
  | closing (ticket : Nat)
  /-- It shuts the sink down. -/
  | shutting (ticket : Nat)
  /-- It flushes what an early end left behind. -/
  | cleaning
  | ended
  deriving Repr, DecidableEq

/-- A writer, with its queue and the answers given so far. -/
structure Writer where
  queue : List Request
  activity : Activity
  /-- Something was written since the last flush. -/
  dirty : Bool
  /-- The number of tickets given out. -/
  issued : Nat
  answers : List (Nat × Except NetError Unit)
  /-- Nobody can queue anything any more. -/
  released : Bool

/-- What a writer shares with the rest of its connection. -/
structure WriterView where
  pipeline : Pipeline
  /-- A consumer is attached to the input of the connection. -/
  consumed : Bool
  status : Status

namespace Writer

/-- A writer that was just started. -/
def start : Writer :=
  { queue := [], activity := .idle, dirty := false, issued := 0, answers := [],
    released := false }

instance : Inhabited Writer := ⟨start⟩

/-- The writer has ended. -/
def hasEnded (w : Writer) : Bool := w.activity == .ended

/-- Give the answer of a ticket. -/
def answer (w : Writer) (ticket : Nat) (r : Except NetError Unit) : Writer :=
  { w with answers := w.answers ++ [(ticket, r)] }

/-- The answer of a ticket, once it was given. -/
def answer? (w : Writer) (ticket : Nat) : Option (Except NetError Unit) :=
  w.answers.lookup ticket

/-- The answer to a request that comes after the end of the writer. -/
def lateAnswer : WriteOp → Except NetError Unit
  | .write _ => .error (.notRunning "connection writer closed")
  | .close => .ok ()

/-- The answer to a request that was queued when the writer ended. -/
def droppedAnswer : WriteOp → Except NetError Unit
  | .write _ => .error .remoteClosed
  | .close => .ok ()

/-- Queue a request; the answer is its ticket. -/
def submit (w : Writer) (op : WriteOp) : Nat × Writer :=
  let t := w.issued
  let w := { w with issued := t + 1 }
  if w.hasEnded then (t, w.answer t (lateAnswer op))
  else (t, { w with queue := w.queue ++ [⟨t, op⟩] })

/-- Every handle on the writer is gone. -/
def release (w : Writer) : Writer :=
  { w with released := true }

/-- The outcome of a call on the sink, and the status it leaves. -/
def settleCall (v : WriterView) : Option IoKind → Except NetError Unit × Status
  | none => (.ok (), v.status)
  | some k =>
      if k.isBrokenPipe && !v.consumed then (.ok (), v.status.markClosing)
      else (.error (.ofIo (.ofKind k)), v.status.markClosing)

/-- The writer ends, and with it the requests in its queue. -/
def finish (w : Writer) : Writer :=
  { w with
    activity := .ended
    queue := []
    answers := w.answers ++ w.queue.map fun r => (r.ticket, droppedAnswer r.op) }

/-- The writer gives up before it was asked to close. -/
def giveUp (w : Writer) : Writer :=
  if w.dirty then { w with activity := .cleaning } else w.finish

/-- A write has come to its end: answer it, and go on if all is well. -/
def concludeWrite (w : Writer) (v : WriterView) (ticket : Nat) (failure : Option IoKind) :
    Writer × Status :=
  let (outcome, status) := settleCall v failure
  let w := w.answer ticket outcome
  if outcome.isOk && status == .opened then ({ w with activity := .idle }, status)
  else (w.giveUp, status)

/-- A close has come to its end. -/
def concludeClose (w : Writer) (v : WriterView) (ticket : Nat) (failure : Option IoKind) :
    Writer × Status :=
  let status := v.status.markClosing
  let (outcome, status) := settleCall { v with status } failure
  ((w.answer ticket outcome).finish, status)

/-- One step of the writer; `none` while it has to wait, or once it has ended. -/
def advance (w : Writer) (v : WriterView) (sink : Sink) : Option (Writer × Status × Sink) :=
  match w.activity with
  | .idle =>
      match w.queue with
      | ⟨t, .write chunk⟩ :: rest =>
          let chunk := v.pipeline.outbound chunk
          some ({ w with queue := rest, activity := .writing t chunk }, v.status, sink)
      | ⟨t, .close⟩ :: rest =>
          some ({ w with queue := rest, activity := .closing t }, v.status, sink)
      | [] => if w.released then some (w.giveUp, v.status, sink) else none
  | .writing t chunk =>
      if sink.blocked then none
      else
        let (failure, sink) := sink.call (.write chunk)
        let w := { w with dirty := true }
        if failure.isNone && w.queue.isEmpty then
          some ({ w with activity := .flushing t }, v.status, sink)
        else
          let (w, status) := w.concludeWrite v t failure
          some (w, status, sink)
  | .flushing t =>
      let (failure, sink) := sink.call .flush
      let (w, status) := { w with dirty := false }.concludeWrite v t failure
      some (w, status, sink)
  | .closing t =>
      let (failure, sink) := sink.call .flush
      if failure.isNone then some ({ w with activity := .shutting t }, v.status, sink)
      else
        let (w, status) := w.concludeClose v t failure
        some (w, status, sink)
  | .shutting t =>
      let (failure, sink) := sink.call .shutdown
      let (w, status) := w.concludeClose v t failure
      some (w, status, sink)
  | .cleaning =>
      let (_, sink) := sink.call .flush
      some (w.finish, v.status, sink)
  | .ended => none

/-- At most `fuel` steps of the writer. -/
def settleUpTo (w : Writer) (v : WriterView) (sink : Sink) : Nat → Writer × Status × Sink
  | 0 => (w, v.status, sink)
  | fuel + 1 =>
      match w.advance v sink with
      | none => (w, v.status, sink)
      | some (w, status, sink) => w.settleUpTo { v with status } sink fuel

/-- Steps until the writer has to wait: three for each queued request at most, and
    those that bring it to its end. -/
def settle (w : Writer) (v : WriterView) (sink : Sink) : Writer × Status × Sink :=
  w.settleUpTo v sink (3 * w.queue.length + 6)

end Writer

end Connection

end DemandNet
