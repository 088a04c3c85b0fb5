/-!
# The Shutdown Signal

How a server tells its tasks to stop.

One coordinator raises the signal in two steps: to drain is to take no new work, to
force is to give up what is still running. Any number of listeners watch it. A
listener waits for the signal or for the coordinator to go away, whichever comes
first, because a task without a coordinator would otherwise wait for ever.

Listeners are numbered in the order in which they were made; a number stays in use
after its listener is gone.

## Main definitions

* `Level`: How far the signal has been raised.
* `Signal`: The coordinator and its listeners.
* `Signal.drainingDone`, `Signal.forcedDone`: When the waits of a listener are over.
-/

namespace DemandNet

namespace Lifecycle

/-- How far the signal has been raised. -/
inductive Level where
  | running
  /-- Take no new work and let the rest finish. -/
  | draining
  /-- Give up what is left. -/
  | forced
  deriving Repr, DecidableEq, Inhabited

/-- The coordinator of a shutdown and its listeners. -/
structure Signal where
  level : Level
  /-- The coordinator has not been dropped. -/
  coordinated : Bool
  /-- By the order of their making: the listener still exists. -/
  listeners : List Bool
  deriving Repr, DecidableEq, Inhabited

namespace Signal

/-- A signal that was not raised, without listeners. -/
def fresh : Signal :=
  { level := .running, coordinated := true, listeners := [] }

/-- The listener of this number exists. -/
def listens (s : Signal) (i : Nat) : Bool :=
  s.listeners[i]?.getD false

/-- A new listener, with its number; `none` without a coordinator. -/
def subscribe? (s : Signal) : Option (Nat × Signal) :=
  if s.coordinated then
    some (s.listeners.length, { s with listeners := s.listeners ++ [true] })
  else none

/-- A second listener made from another one, with its number. Of one that does not
    exist comes one that does not exist either. -/
def clone (s : Signal) (i : Nat) : Nat × Signal :=
  (s.listeners.length, { s with listeners := s.listeners ++ [s.listens i] })

/-- A listener goes away. -/
def unsubscribe (s : Signal) (i : Nat) : Signal :=
  { s with listeners := s.listeners.set i false }

/-- Take no new work; a forced signal is not taken back. -/
def drain (s : Signal) : Signal :=
  if s.level = .running then { s with level := .draining } else s

/-- Give up what is left. -/
def force (s : Signal) : Signal :=
  { s with level := .forced }

/-- The coordinator goes away. -/
def drop (s : Signal) : Signal :=
  { s with coordinated := false }

/-- The number of listeners there are. -/
def listenerCount (s : Signal) : Nat :=
  s.listeners.countP id

/-- The wait for draining is over. -/
def drainingDone (s : Signal) : Bool :=
  s.level != .running || !s.coordinated

/-- The wait for force is over. -/
def forcedDone (s : Signal) : Bool :=
  s.level == .forced || !s.coordinated

/-- The signal was raised. -/
def isDraining (s : Signal) : Bool :=
  s.level != .running

/-- What a listener sees; `none` if it does not exist. -/
def seenBy (s : Signal) (i : Nat) (f : Signal → Bool) : Option Bool :=
  if s.listens i then some (f s) else none

end Signal

end Lifecycle

end DemandNet
