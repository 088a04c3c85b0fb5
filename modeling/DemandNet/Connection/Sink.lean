import DemandNet.Bytes
import DemandNet.Error

/-!
# Sinks

Where a connection writes to.

A sink takes chunks, flushes and a shutdown, and any of these calls may fail. A
plan says which do: the failure of the n-th call of each sort. The sink keeps a record
of all calls, in order.

## Main definitions

* `SinkCall`: A call of a sink.
* `Sink`: A sink with its plan of failures and its record.
* `Sink.reliable`, `Sink.taking`: Sinks that take everything, or only the first chunks.
* `Sink.call`: One call.
-/

namespace DemandNet

namespace Connection

/-- A call of a sink. -/
inductive SinkCall where
  | write (chunk : Bytes)
  | flush
  | shutdown
  deriving Repr, DecidableEq

/-- The sorts of calls. -/
inductive SinkCallKind where
  | write
  | flush
  | shutdown
  deriving Repr, DecidableEq, Inhabited

/-- The sort of a call. -/
def SinkCall.kind : SinkCall → SinkCallKind
  | write _ => .write
  | flush => .flush
  | shutdown => .shutdown

/-- A call that was made, with its failure if it failed. -/
structure SinkRecord where
  call : SinkCall
  failure : Option IoKind
  deriving Repr, DecidableEq

/-- A sink: its plan of failures and the calls made so far. -/
structure Sink where
  /-- The failure of the n-th call of a sort, counted from one. -/
  plan : SinkCallKind → Nat → Option IoKind
  /-- Writes have to wait. -/
  blocked : Bool
  record : List SinkRecord

namespace Sink

/-- A sink on which nothing fails. -/
def reliable : Sink :=
  { plan := fun _ _ => none, blocked := false, record := [] }

instance : Inhabited Sink := ⟨reliable⟩

/-- A sink that takes so many chunks until its pipe breaks, or all of them. -/
def taking : Option Nat → Sink
  | none => reliable
  | some n =>
      { reliable with plan := fun k i => if k = .write ∧ n < i then some .brokenPipe else none }

/-- The number of calls of a sort that were made. -/
def count (s : Sink) (k : SinkCallKind) : Nat :=
  s.record.countP fun r => r.call.kind == k

/-- One call; the answer is its failure. -/
def call (s : Sink) (c : SinkCall) : Option IoKind × Sink :=
  let failure := s.plan c.kind (s.count c.kind + 1)
  (failure, { s with record := s.record ++ [⟨c, failure⟩] })

/-- The chunks that were written, in order. -/
def written (s : Sink) : List Bytes :=
  s.record.filterMap fun r =>
    match r.call, r.failure with
    | .write chunk, none => some chunk
    | _, _ => none

end Sink

end Connection

end DemandNet
