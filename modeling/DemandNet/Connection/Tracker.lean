import DemandNet.Connection.Info

/-!
# Connection Tracking

The connections of a server that are still there, and waiting for the last of them.

A tracker keeps the facts about the open connections by their numbers, and beside that a
count, which can be watched. Both are changed when a connection is recorded and when its
guard goes, and nothing but that keeps them together. A tracker is used through handles,
which all lead to the same one.

A wait for the last connection looks at the count when it begins. After that it looks again
only when it was told to, because the count was changed or because its time has passed; when
that is depends on who else has something to do. It is over when it finds the count at zero,
and it gives up when it finds its time passed.

## Main definitions

* `Tracker`: The open connections, and their count.
* `Tracker.record`, `Tracker.release`: A connection comes and goes.
* `Wait`: A wait for the last connection.
* `Roster`: A tracker with its handles, its guards, those who wait and the clock.
-/

namespace DemandNet

namespace Connection

/-- The open connections, one of each number, and how many they are said to be. -/
structure Tracker where
  opened : List Info
  count : Nat
  deriving Repr, DecidableEq, Inhabited

namespace Tracker

/-- No connections. -/
def empty : Tracker := { opened := [], count := 0 }

/-- A connection is recorded, in the place of one with the same number. -/
def record (t : Tracker) (info : Info) : Tracker :=
  { opened := t.opened.filter (fun other => other.id != info.id) ++ [info], count := t.count + 1 }

/-- The connection of a number is gone. The count stops at zero. -/
def release (t : Tracker) (id : Nat) : Tracker :=
  { opened := t.opened.filter (fun other => other.id != id), count := t.count - 1 }

end Tracker

/-- A wait for the last connection: its deadline, and its outcome once there is one. -/
structure Wait where
  deadline : Nat
  /-- It was told to look and has not done so. -/
  due : Bool
  outcome : Option Bool
  deriving Repr, DecidableEq, Inhabited

namespace Wait

/-- A wait looks at the count: it succeeds if that is zero, and fails if its deadline has
    passed. -/
def look (w : Wait) (count now : Nat) : Wait :=
  match w.outcome with
  | some _ => w
  | none =>
      if count = 0 then { w with due := false, outcome := some true }
      else if w.deadline ≤ now then { w with due := false, outcome := some false }
      else { w with due := false }

/-- A wait of the given length that begins now, with a look. -/
def start (count now length : Nat) : Wait :=
  Wait.look { deadline := now + length, due := true, outcome := none } count now

/-- A wait is told that the count was changed. -/
def notify (w : Wait) : Wait := { w with due := true }

/-- A wait is told that its time has passed, if it has. -/
def ring (w : Wait) (now : Nat) : Wait :=
  if w.deadline ≤ now then { w with due := true } else w

end Wait

/-- A tracker with all who have to do with it. Handles, guards and waits are numbered in the
    order in which they were made. -/
structure Roster where
  tracker : Tracker
  /-- The handle has not been dropped. -/
  handles : List Bool
  /-- What a guard was made for; `none` once it was dropped. -/
  guards : List (Option Info)
  waits : List Wait
  now : Nat
  deriving Repr, DecidableEq, Inhabited

namespace Roster

/-- A new tracker with its first handle. -/
def fresh : Roster := { tracker := .empty, handles := [true], guards := [], waits := [], now := 0 }

/-- The handle of this number exists. -/
def holds (r : Roster) (handle : Nat) : Bool := r.handles[handle]?.getD false

/-- What the guard of this number was made for, if it has not been dropped. -/
def guard? (r : Roster) (guard : Nat) : Option Info := (r.guards[guard]?).join

/-- Another handle from one that exists; from one that does not comes none. -/
def clone (r : Roster) (handle : Nat) : Roster :=
  { r with handles := r.handles ++ [r.holds handle] }

/-- A handle is dropped. -/
def discard (r : Roster) (handle : Nat) : Roster :=
  { r with handles := r.handles.set handle false }

/-- Record a connection through a handle. Its guard is new, and those who wait are told. -/
def track (r : Roster) (handle : Nat) (info : Info) : Roster :=
  if r.holds handle then
    { r with
      tracker := r.tracker.record info
      guards := r.guards ++ [some info]
      waits := r.waits.map Wait.notify }
  else r

/-- A guard is dropped: its connection is gone, and those who wait are told. -/
def drop (r : Roster) (guard : Nat) : Roster :=
  match r.guard? guard with
  | none => r
  | some info =>
      { r with
        tracker := r.tracker.release info.id
        guards := r.guards.set guard none
        waits := r.waits.map Wait.notify }

/-- The number of connections, through a handle. -/
def activeCount? (r : Roster) (handle : Nat) : Option Nat :=
  if r.holds handle then some r.tracker.count else none

/-- The connections, through a handle. -/
def connections? (r : Roster) (handle : Nat) : Option (List Info) :=
  if r.holds handle then some r.tracker.opened else none

/-- A wait of the given length begins, through a handle. -/
def wait (r : Roster) (handle length : Nat) : Roster :=
  if r.holds handle then { r with waits := r.waits ++ [.start r.tracker.count r.now length] }
  else r

/-- A wait has its turn. -/
def look (r : Roster) (wait : Nat) : Roster :=
  { r with waits := r.waits.modify wait (·.look r.tracker.count r.now) }

/-- The clock moves, and the waits whose time has passed are told. -/
def pass (r : Roster) (time : Nat) : Roster :=
  { r with now := r.now + time, waits := r.waits.map (·.ring (r.now + time)) }

/-- All waits have their turns. -/
def settle (r : Roster) : Roster :=
  { r with waits := r.waits.map (·.look r.tracker.count r.now) }

/-- The outcome of a wait; nothing while it goes on. -/
def outcome? (r : Roster) (wait : Nat) : Option Bool := (r.waits[wait]?).bind Wait.outcome

/-- A wait during which nothing else happens: the clock moves to its deadline only if
    connections are left. -/
def waitAlone (r : Roster) (handle length : Nat) : Option Bool × Roster :=
  let wait := r.waits.length
  let r := r.wait handle length
  match r.outcome? wait with
  | some b => (some b, r)
  | none =>
      let r := (r.pass length).settle
      (r.outcome? wait, r)

end Roster

end Connection

end DemandNet
