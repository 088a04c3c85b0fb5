import DemandNet.Address.Socket
import DemandNet.Lifecycle.Phase
import DemandNet.Lifecycle.Signal

/-!
# Services

A server from its first start to its end, with all calls of start and shutdown that are
under way and all serve tasks that those calls made.

A start gets a group of event loops, which is the server's own unless one was lent to it,
spawns a serve task on it and waits for the task's report, perhaps only for a time. If
the report is good, the server holds the coordinator of the task until a shutdown takes
it. Otherwise the start tells the task to stop, shuts an own group down and leads back to
where it began.

A shutdown tells the task to take no new connections, waits until the task has let its
address go, waits for the connections for a limited time, forces those that are left,
and shuts an own group down. A group that was lent is never shut down.

Calls run at the same time. A call is cut into stages at the places where it looks at the
shared state or has to wait, and `Service.advance` takes one call from its stage to the
next; between two stages anything else may happen. A task registers the connections that
it accepts one by one, after they were handed to their loops.

## Main definitions

* `Report`: What a serve task has to say about the start.
* `ServeTask`: A serve task with its connections and its group.
* `Holding`: What a server holds of the task that serves for it.
* `StartStage`, `ShutdownStage`, `Call`: The calls.
* `Service`: The state of a server.
* `Service.advance`: One stage of a call.
* `Service.report`, `Service.accept`, `Service.register`, `Service.finish`: The tasks.
* `Service.start`, `Service.shutdown`: Calls during which no other call is made.
-/

namespace DemandNet

namespace Lifecycle

open Address

/-- What a serve task has to say about the start. -/
inductive Report where
  | bound (address : Socket)
  | failed (e : NetError)
  /-- It ended without a word. -/
  | vanished
  deriving Repr, DecidableEq

/-- The life of a connection. -/
inductive ConnectionStage where
  /-- It was accepted and handed to its loop. -/
  | spawned
  /-- It counts as active. -/
  | registered
  | finished
  deriving Repr, DecidableEq, Inhabited

/-- A serve task with its connections and its group of loops. -/
structure ServeTask where
  /-- The group is the server's own. -/
  owned : Bool
  /-- How often the group was shut down for this task. -/
  stops : Nat
  /-- How far this task was told to stop. -/
  level : Level
  /-- What it reported, if it has. -/
  reported : Option Report
  /-- It has let its address go. -/
  released : Bool
  connections : List ConnectionStage
  deriving Repr, DecidableEq

namespace ServeTask

/-- A task that was just spawned. -/
def fresh (owned : Bool) : ServeTask :=
  { owned, stops := 0, level := .running, reported := none, released := false,
    connections := [] }

/-- The task accepts connections. -/
def serves (t : ServeTask) : Bool :=
  !t.released && match t.reported with
    | some (.bound _) => true
    | _ => false

/-- The number of its connections that count as active. -/
def active (t : ServeTask) : Nat := t.connections.count .registered

/-- Tell the task to take no new connections. -/
def drain (t : ServeTask) : ServeTask :=
  if t.level = .running then { t with level := .draining } else t

/-- Tell the task to give up. -/
def force (t : ServeTask) : ServeTask := { t with level := .forced }

/-- Shut the group down, if it is the server's own. -/
def stopGroup (t : ServeTask) : ServeTask :=
  if t.owned then { t with stops := t.stops + 1 } else t

end ServeTask

/-- What a server holds of the task that serves for it: each of three things is there, and
    then it is that of a task, or it is not. -/
structure Holding where
  /-- It tells the task to stop. -/
  coordinator : Option Nat
  /-- It learns from it when the task has let its address go. -/
  release : Option Nat
  /-- The group of loops. -/
  loops : Option Nat
  deriving Repr, DecidableEq

namespace Holding

/-- Nothing is held. -/
def nothing : Holding := { coordinator := none, release := none, loops := none }

/-- All of a task is held. -/
def all (task : Nat) : Holding :=
  { coordinator := some task, release := some task, loops := some task }

end Holding

/-- How far a call of start has come. -/
inductive StartStage where
  /-- It is about to look at the phase. -/
  | entering
  /-- It is about to get a group of loops. -/
  | acquiring
  /-- It waits for the report of a task, perhaps only up to some time. -/
  | waiting (task : Nat) (deadline : Option Nat)
  /-- Its time has passed; it is about to tell its task, which may still report. -/
  | expiring (task : Nat) (e : NetError)
  /-- The report was good; it is about to say so. -/
  | publishing (task : Nat) (address : Socket)
  /-- It shuts the group down. -/
  | stopping (task : Nat) (e : NetError)
  /-- It is about to take the phase back. -/
  | restoring (e : NetError)
  | done (r : Except NetError Socket)

/-- How far a call of shutdown has come. -/
inductive ShutdownStage where
  /-- It is about to look at the phase. -/
  | entering
  /-- It waits until the task has let its address go. -/
  | releasing (taken : Holding)
  /-- It waits for the connections. -/
  | draining (taken : Holding) (deadline : Nat)
  /-- It waits for the connections that were forced. -/
  | forcing (taken : Holding) (deadline : Nat)
  /-- It shuts the group down. -/
  | stopping (taken : Holding)
  /-- It is about to end the server. -/
  | closing
  | done

/-- A call. A start may have a time after which it gives up, in milliseconds. -/
inductive Call where
  | start (limit : Option Nat) (stage : StartStage)
  | shutdown (stage : ShutdownStage)

/-- The state of a server. -/
structure Service where
  phase : Phase
  /-- The address that was bound last. -/
  address : Option Socket
  held : Holding
  tasks : List ServeTask
  calls : List Call
  /-- A group was lent to the server. -/
  borrows : Bool
  /-- Groups of the server's own can be made, or the failure to make one. -/
  groupFailure : Option IoError
  /-- How long a shutdown waits for connections, in milliseconds. -/
  drainLimit : Nat
  now : Nat

/-- How long a shutdown waits for connections that were forced, in milliseconds. -/
def forceGrace : Nat := 1000

namespace Service

/-- A server that nobody started. -/
def fresh (borrows : Bool) (drainLimit : Nat) : Service :=
  { phase := .unstarted, address := none, held := .nothing, tasks := [], calls := [],
    borrows, groupFailure := none, drainLimit, now := 0 }

/-- The number of connections that count as active. -/
def active (s : Service) : Nat := (s.tasks.map ServeTask.active).foldr (· + ·) 0

/-- Change a task. -/
def onTask (s : Service) (i : Nat) (f : ServeTask → ServeTask) : Service :=
  { s with tasks := s.tasks.modify i f }

/-- Change a task, if there is one. -/
def onHeld (s : Service) (i : Option Nat) (f : ServeTask → ServeTask) : Service :=
  match i with
  | some i => s.onTask i f
  | none => s

/-- A call goes on to its next stage. -/
def put (s : Service) (i : Nat) (c : Call) : Service := { s with calls := s.calls.set i c }

/-- A start looks at the phase. -/
def enterStart (s : Service) : StartStage × Service :=
  match s.phase.beginStart with
  | .ok phase => (.acquiring, { s with phase })
  | .error e => (.done (.error e), s)

/-- A start spawns its task and begins to wait for it. -/
def spawn (s : Service) (limit : Option Nat) : StartStage × Service :=
  (.waiting s.tasks.length (limit.map (s.now + ·)),
    { s with tasks := s.tasks ++ [.fresh !s.borrows] })

/-- A start gets a group of loops. -/
def acquire (s : Service) (limit : Option Nat) : StartStage × Service :=
  match s.groupFailure with
  | some e => if s.borrows then s.spawn limit else (.restoring (.ofIo e), s)
  | none => s.spawn limit

/-- A start gives up: it tells its task to stop. -/
def giveUp (s : Service) (task : Nat) (e : NetError) : StartStage × Service :=
  (.stopping task e, s.onTask task ServeTask.force)

/-- A start looks for the report of its task; `none` while it has to wait. -/
def lookForReport (s : Service) (limit : Option Nat) (task : Nat) (deadline : Option Nat) :
    Option (StartStage × Service) :=
  match (s.tasks[task]?).bind ServeTask.reported with
  | some (.bound address) => some (.publishing task address, s)
  | some (.failed e) => some (s.giveUp task e)
  | some .vanished =>
      some (s.giveUp task (.notRunning "serve task exited before binding"))
  | none =>
      match deadline with
      | some time =>
          if time ≤ s.now then
            some (.expiring task (.startTimeout (limit.getD 0 * 1000000)), s)
          else none
      | none => none

/-- One stage of a start. -/
def advanceStart (s : Service) (limit : Option Nat) :
    StartStage → Option (StartStage × Service)
  | .entering => some s.enterStart
  | .acquiring => some (s.acquire limit)
  | .waiting task deadline => s.lookForReport limit task deadline
  | .expiring task e => some (s.giveUp task e)
  | .publishing task address =>
      some (.done (.ok address),
        { s with phase := .started, address := some address, held := .all task })
  | .stopping task e => some (.restoring e, s.onTask task ServeTask.stopGroup)
  | .restoring e => some (.done (.error e), { s with phase := .unstarted })
  | .done _ => none

/-- A shutdown looks at the phase. -/
def enterShutdown (s : Service) : ShutdownStage × Service :=
  match s.phase.shutdownStep with
  | .noop => (.done, s)
  | .proceed =>
      (.releasing s.held,
        { s with phase := .shuttingDown, held := .nothing }.onHeld s.held.coordinator
          ServeTask.drain)

/-- One stage of a shutdown. -/
def advanceShutdown (s : Service) : ShutdownStage → Option (ShutdownStage × Service)
  | .entering => some s.enterShutdown
  | .releasing taken =>
      if ((taken.release.bind (s.tasks[·]?)).map ServeTask.released).getD true then
        some (.draining taken (s.now + s.drainLimit), s)
      else none
  | .draining taken deadline =>
      if s.active = 0 then some (.stopping taken, s.onHeld taken.coordinator ServeTask.force)
      else if deadline ≤ s.now then
        some (.forcing taken (s.now + forceGrace), s.onHeld taken.coordinator ServeTask.force)
      else none
  | .forcing taken deadline =>
      if s.active = 0 || deadline ≤ s.now then
        some (.stopping taken, s.onHeld taken.coordinator ServeTask.force)
      else none
  | .stopping taken => some (.closing, s.onHeld taken.loops ServeTask.stopGroup)
  | .closing => some (.done, { s with phase := .shutdown })
  | .done => none

/-- One stage of a call; `none` while it has to wait, or once it is done. -/
def advance (s : Service) (i : Nat) : Option Service :=
  match s.calls[i]? with
  | none => none
  | some (.start limit stage) =>
      (s.advanceStart limit stage).map fun (stage, s) => s.put i (.start limit stage)
  | some (.shutdown stage) =>
      (s.advanceShutdown stage).map fun (stage, s) => s.put i (.shutdown stage)

/-- A call is made; the answer is its number. -/
def call (s : Service) (c : Call) : Nat × Service :=
  (s.calls.length, { s with calls := s.calls ++ [c] })

/-- A task reports, unless it was told to stop or has reported before. -/
def report (s : Service) (task : Nat) (r : Report) : Service :=
  s.onTask task fun t =>
    if t.reported.isNone && t.level = .running then { t with reported := some r } else t

/-- A task accepts a connection and hands it to its loop. It may do so until it looks at
    the signal, even if that was raised already. -/
def accept (s : Service) (task : Nat) : Service :=
  s.onTask task fun t =>
    if t.serves then { t with connections := t.connections ++ [.spawned] } else t

/-- A connection that was handed to its loop begins to count as active. -/
def register (s : Service) (task connection : Nat) : Service :=
  s.onTask task fun t =>
    if t.connections[connection]? = some .spawned then
      { t with connections := t.connections.set connection .registered }
    else t

/-- The handler of a connection comes to its end. -/
def finish (s : Service) (task connection : Nat) : Service :=
  s.onTask task fun t =>
    if t.connections[connection]? = some .registered then
      { t with connections := t.connections.set connection .finished }
    else t

/-- A task looks at the signal, and lets its address go if that was raised. -/
def observe (s : Service) (task : Nat) : Service :=
  s.onTask task fun t => if t.level = .running then t else { t with released := true }

/-- The connections of a task that was forced come to their ends. -/
def abandon (s : Service) (task : Nat) : Service :=
  s.onTask task fun t =>
    if t.level = .forced then
      { t with connections := t.connections.map fun _ => .finished }
    else t

/-- The clock moves. -/
def pass (s : Service) (time : Nat) : Service := { s with now := s.now + time }

/-- How long a call that has to wait would wait if nothing happened. -/
def patience (s : Service) (i : Nat) : Nat :=
  match s.calls[i]? with
  | some (.start _ (.waiting _ (some deadline))) => deadline - s.now
  | some (.shutdown (.draining _ deadline)) | some (.shutdown (.forcing _ deadline)) =>
      deadline - s.now
  | _ => 0

/-- At most `fuel` stages of a call. Where it waits for its task, the task reports as
    `script` says and obeys the signal; where it waits for the clock, the clock moves. -/
def run (s : Service) (i : Nat) (script : Option Report) : Nat → Service
  | 0 => s
  | fuel + 1 =>
      let s :=
        match s.calls[i]? with
        | some (.start _ (.waiting task _)) =>
            match script with
            | some r => s.report task r
            | none => s
        | some (.shutdown (.releasing taken)) => (taken.release.map s.observe).getD s
        | some (.shutdown (.forcing taken _)) => (taken.coordinator.map s.abandon).getD s
        | _ => s
      match s.advance i with
      | some s => s.run i script fuel
      | none =>
          let wait := s.patience i
          if wait = 0 then s else (s.pass wait).run i script fuel

/-- A start during which no other call is made, perhaps limited to a number of
    milliseconds. A task without a script never reports. There is no outcome if the start
    would wait for ever. -/
def start (s : Service) (limit : Option Nat) (script : Option Report) :
    Option (Except NetError Socket) × Service :=
  let (i, s) := s.call (.start limit .entering)
  let s := s.run i script 16
  match s.calls[i]? with
  | some (.start _ (.done r)) => (some r, s)
  | _ => (none, s)

/-- A shutdown during which no other call is made and no connection ends by itself. -/
def shutdown (s : Service) : Service :=
  let (i, s) := s.call (.shutdown .entering)
  s.run i none 16

end Service

end Lifecycle

end DemandNet
