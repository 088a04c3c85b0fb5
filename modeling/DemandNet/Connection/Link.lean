import DemandNet.Connection.Reader
import DemandNet.Connection.Writer

/-!
# Links

A connection as a whole: its reader, its writer, the bridge between the reader and
whoever consumes the input, and the clock.

Nothing here happens at the same time. An operation of a handler changes the link, and
`Link.settle` lets the two tasks go on until both have to wait; the clock moves only
when it is told to.

## Main definitions

* `Link`: The state of a connection.
* `Link.settle`: Both tasks go on until they have to wait.
* `Link.attach`, `Link.poll`, `Link.drain`, `Link.cancel`: The input.
* `Link.send`, `Link.sendAll`, `Link.close`, `Link.queue`: The output.
-/

namespace DemandNet

namespace Connection

/-- The state of a connection. -/
structure Link where
  pipeline : Pipeline
  window : Flow.Window
  idleLimit : Option Nat
  now : Nat
  status : Status
  bridge : Flow.Bridge Bytes
  consumer : Option Flow.Consumer
  reader : Reader
  writer : Writer
  sink : Sink

namespace Link

/-- A new connection. -/
def start (pipeline : Pipeline) (window : Flow.Window) (idleLimit : Option Nat) (sink : Sink) :
    Link :=
  { pipeline, window, idleLimit, now := 0, status := .opened, bridge := .empty,
    consumer := none, reader := .start, writer := .start, sink }

/-- What the reader needs to know. -/
def readerView (l : Link) : ReaderView :=
  { pipeline := l.pipeline, idleLimit := l.idleLimit, now := l.now, status := l.status }

/-- What the writer needs to know. -/
def writerView (l : Link) : WriterView :=
  { pipeline := l.pipeline, consumed := l.bridge.attached, status := l.status }

/-- The reader and the writer go on until both have to wait. Only the reader can wake
    the other one, so it goes first. -/
def settle (l : Link) : Link :=
  let (reader, status, bridge) := l.reader.settle l.readerView l.bridge
  let l := { l with reader, status, bridge }
  let (writer, status, sink) := l.writer.settle l.writerView l.sink
  { l with writer, status, sink }

/-- Something arrives on the socket. -/
def arrive (l : Link) (i : Incoming) : Link :=
  { l with reader := l.reader.arrive i }

/-- The clock moves. -/
def pass (l : Link) (time : Nat) : Link :=
  { l with now := l.now + time }

/-- Attach a consumer to the input. -/
def attach (l : Link) (mode : Flow.Mode) : Except NetError Link :=
  match l.bridge.attach mode with
  | .error e => .error e
  | .ok (c, bridge) => .ok { l with bridge, consumer := some c }

/-- The consumer asks for more. -/
def request (l : Link) (n : Nat) : Option Link :=
  l.consumer.map fun c => { l with bridge := l.bridge.request c n }

/-- The consumer looks for the next chunk. -/
def poll (l : Link) : Option (Flow.Poll Bytes × Link) :=
  l.consumer.map fun c =>
    let (p, c, bridge) := l.bridge.poll c
    (p, { l with bridge, consumer := some c })

/-- The consumer leaves. -/
def cancel (l : Link) : Link :=
  match l.consumer with
  | none => l
  | some c => { l with bridge := l.bridge.detach c, consumer := none }

/-- At most `fuel` polls, up to the first that finds nothing; the answer says whether
    the stream has ended. -/
def takeReady (l : Link) : Nat → List (Flow.Poll Bytes) × Bool × Link
  | 0 => ([], false, l)
  | fuel + 1 =>
      match l.poll with
      | none => ([], true, l)
      | some (.pending, l) => ([], false, l)
      | some (.ended, l) => ([.ended], true, l)
      | some (p, l) =>
          let (ps, ended, l) := l.takeReady fuel
          (p :: ps, ended, l)

/-- At most `fuel` rounds in which the consumer takes what is there and the link goes
    on, up to the first round that finds nothing or the end. -/
def drainRounds (l : Link) : Nat → List (Flow.Poll Bytes) × Link
  | 0 => ([], l)
  | fuel + 1 =>
      let (ps, ended, l) := l.takeReady (l.bridge.queue.length + 2)
      let l := l.settle
      if ended || ps.isEmpty then (ps, l)
      else
        let (more, l) := l.drainRounds fuel
        (ps ++ more, l)

/-- The consumer takes everything it can get. Every round but the last takes at least
    one chunk, so there are no more rounds than chunks. -/
def drain (l : Link) : Option (List (Flow.Poll Bytes) × Link) :=
  l.consumer.map fun _ => l.drainRounds (l.bridge.queue.length + l.reader.backlog + 3)

/-- Ask the writer for something; the answer is the ticket. -/
def submit (l : Link) (op : WriteOp) : Nat × Link :=
  let (t, writer) := l.writer.submit op
  (t, { l with writer })

/-- Ask the writer for something and let the link go on. There is no outcome while the
    writer has to wait. -/
def perform (l : Link) (op : WriteOp) : Option (Except NetError Unit) × Link :=
  let (t, l) := l.submit op
  let l := l.settle
  (l.writer.answer? t, l)

/-- Write one chunk. -/
def send (l : Link) (chunk : Bytes) : Option (Except NetError Unit) × Link :=
  l.perform (.write chunk)

/-- Write chunks one after the other, up to the first failure. -/
def sendAll (l : Link) : List Bytes → Option (Except NetError Unit) × Link
  | [] => (some (.ok ()), l)
  | chunk :: rest =>
      match l.send chunk with
      | (some (.ok ()), l) => l.sendAll rest
      | r => r

/-- Close the output. -/
def closeOutput (l : Link) : Option (Except NetError Unit) × Link :=
  l.perform .close

/-- Close the connection: nobody will consume its input any more. -/
def close (l : Link) : Option (Except NetError Unit) × Link :=
  { l with bridge := l.bridge.abandon }.closeOutput

/-- Ask the writer for several things at once. There are no outcomes while one of them
    is missing. -/
def queue (l : Link) (ops : List WriteOp) : Option (List (Except NetError Unit)) × Link :=
  let (tickets, l) := ops.foldl (fun (ts, l) op =>
    let (t, l) := Link.submit l op
    (ts ++ [t], l)) (([] : List Nat), l)
  let l := l.settle
  (tickets.mapM l.writer.answer?, l)

end Link

end Connection

end DemandNet
