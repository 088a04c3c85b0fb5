import DemandNet.Connection.Link
import DemandNet.Proofs.Schedule

/-!
# Schedules of a Connection

Everything that can happen to a connection, in any order.

A link goes on by itself only in `Link.settle`, where its reader and its writer take
turns in a fixed way. Real tasks are not that tidy: the socket, the handler and every
holder of a handle act whenever they like, and each of the two tasks may be stopped
between any two of its steps. What is proved of every schedule holds however the tasks
were run.

A reader that waits for its socket waits for the end of its bridge as well. When both
have come, either may be noticed first; `Reader.advance` looks at the bridge first, and
`Reader.readOn` is the other choice.

What the program does with a link are schedules too, and this is shown for the operations
of a link.

## Main definitions

* `Reader.readOn`: A reader ends its read although the bridge has closed.
* `Turn`: One step of one party.
* `Link.turn`, `Link.after`: The link after a turn, and after a schedule.
* `Link.watch`: What a schedule shows, in order.

## Theorems

* `Link.status_turn`: A connection that is no longer open does not open again.
* `Link.runs_settle`, `Link.runs_perform`, `Link.runs_sendAll`, `Link.runs_close`,
  `Link.runs_drainRounds`: The operations of a link are schedules.
-/

namespace DemandNet

namespace Connection

open Schedule (Runs)

/-- A read comes to its end before the end of the bridge is noticed. -/
def Reader.readOn (r : Reader) (v : ReaderView) (b : Flow.Bridge Bytes) :
    Option (Reader × Status × Flow.Bridge Bytes) :=
  match r.phase with
  | .reading since => (r.readResult? v since).map (r.conclude v b)
  | _ => none

/-- One step of one party of a connection. -/
inductive Turn where
  /-- Something arrives on the socket. -/
  | arrive (i : Incoming)
  | pass (time : Nat)
  | attach (mode : Flow.Mode)
  | request (n : Nat)
  | poll
  /-- The consumer leaves. -/
  | cancel
  | abandon
  | submit (op : WriteOp)
  /-- The last handle on the writer goes away. -/
  | release
  | markClosing
  | markClosed
  /-- The sink takes no more writes for a time, or takes them again. -/
  | block (blocked : Bool)
  | read
  | readOn
  | write
  deriving DecidableEq

namespace Link

/-- The link after a step of its reader. -/
def withReader (l : Link) : Option (Reader × Status × Flow.Bridge Bytes) → Link
  | none => l
  | some (reader, status, bridge) => { l with reader, status, bridge }

/-- The link after a step of its writer. -/
def withWriter (l : Link) : Option (Writer × Status × Sink) → Link
  | none => l
  | some (writer, status, sink) => { l with writer, status, sink }

/-- The link after a turn; a turn that is not possible changes nothing. -/
def turn (l : Link) : Turn → Link
  | .arrive i => l.arrive i
  | .pass time => l.pass time
  | .attach mode => (l.attach mode).toOption.getD l
  | .request n => (l.request n).getD l
  | .poll => (l.poll.map Prod.snd).getD l
  | .cancel => l.cancel
  | .abandon => { l with bridge := l.bridge.abandon }
  | .submit op => (l.submit op).2
  | .release => { l with writer := l.writer.release }
  | .markClosing => { l with status := l.status.markClosing }
  | .markClosed => { l with status := l.status.markClosed }
  | .block blocked => { l with sink := { l.sink with blocked } }
  | .read => l.withReader (l.reader.advance l.readerView l.bridge)
  | .readOn => l.withReader (l.reader.readOn l.readerView l.bridge)
  | .write => l.withWriter (l.writer.advance l.writerView l.sink)

/-- The link after a schedule. -/
def after (l : Link) (ts : List Turn) : Link := Schedule.after turn l ts

/-- What a schedule shows, given what each turn does. -/
def watch {ε : Type} (shows : Link → Turn → List ε) (l : Link) (ts : List Turn) : List ε :=
  Schedule.watch turn shows l ts

/-! ### The status of a link -/

end Link

theorem Status.markClosing_ne_opened (s : Status) : s.markClosing ≠ .opened := by
  cases s <;> rintro ⟨⟩

theorem Reader.conclude_status (r : Reader) (v : ReaderView) (b : Flow.Bridge Bytes)
    (result : ReadResult) (hs : v.status ≠ .opened) :
    (r.conclude v b result).2.1 ≠ .opened := by
  cases result with
  | chunk _ _ | nothing _ | eof => exact hs
  | failed e => exact v.status.markClosing_ne_opened

theorem Reader.advance_status (r : Reader) (v : ReaderView) (b : Flow.Bridge Bytes)
    (next : Reader × Status × Flow.Bridge Bytes) (h : r.advance v b = some next)
    (hs : v.status ≠ .opened) : next.2.1 ≠ .opened := by
  unfold Reader.advance at h
  split at h
  · split at h <;> cases h <;> exact hs
  · split at h
    · cases h
      exact hs
    · rcases Option.map_eq_some_iff.1 h with ⟨result, _, rfl⟩
      exact r.conclude_status v b result hs
  · split at h <;> cases h <;> exact hs
  · cases h

theorem Reader.readOn_status (r : Reader) (v : ReaderView) (b : Flow.Bridge Bytes)
    (next : Reader × Status × Flow.Bridge Bytes) (h : r.readOn v b = some next)
    (hs : v.status ≠ .opened) : next.2.1 ≠ .opened := by
  unfold Reader.readOn at h
  split at h
  · rcases Option.map_eq_some_iff.1 h with ⟨result, _, rfl⟩
    exact r.conclude_status v b result hs
  · cases h

theorem Writer.settleCall_status (v : WriterView) (failure : Option IoKind)
    (hs : v.status ≠ .opened) : (Writer.settleCall v failure).2 ≠ .opened := by
  unfold Writer.settleCall
  split
  · exact hs
  · split <;> exact v.status.markClosing_ne_opened

theorem Writer.concludeWrite_status (w : Writer) (v : WriterView) (ticket : Nat)
    (failure : Option IoKind) :
    (w.concludeWrite v ticket failure).2 = (Writer.settleCall v failure).2 := by
  unfold Writer.concludeWrite
  dsimp only
  split <;> rfl

theorem Writer.concludeClose_status (w : Writer) (v : WriterView) (ticket : Nat)
    (failure : Option IoKind) : (w.concludeClose v ticket failure).2 ≠ .opened :=
  Writer.settleCall_status _ failure v.status.markClosing_ne_opened

theorem Writer.advance_status (w : Writer) (v : WriterView) (sink : Sink)
    (next : Writer × Status × Sink) (h : w.advance v sink = some next)
    (hs : v.status ≠ .opened) : next.2.1 ≠ .opened := by
  have hwrite : ∀ (w : Writer) t failure, (w.concludeWrite v t failure).2 ≠ .opened :=
    fun w t failure => by
      rw [w.concludeWrite_status]
      exact Writer.settleCall_status v failure hs
  unfold Writer.advance at h
  split at h
  · split at h
    · cases h
      exact hs
    · cases h
      exact hs
    · split at h <;> cases h
      exact hs
  · split at h
    · cases h
    · dsimp only at h
      split at h <;> cases h
      · exact hs
      · exact hwrite _ _ _
  · cases h
    exact hwrite _ _ _
  · rename_i t _
    dsimp only at h
    split at h <;> cases h
    · exact hs
    · exact w.concludeClose_status v t _
  · rename_i t _
    cases h
    exact w.concludeClose_status v t _
  · cases h
    exact hs
  · cases h

namespace Link

-- A connection that is no longer open does not open again.
theorem status_turn (l : Link) (t : Turn) (hs : l.status ≠ .opened) :
    (l.turn t).status ≠ .opened := by
  cases t with
  | arrive _ | pass _ | abandon | submit _ | release | block _ => exact hs
  | attach mode =>
      unfold turn attach
      dsimp only
      cases l.bridge.attach mode <;> exact hs
  | request n =>
      unfold turn request
      dsimp only
      cases l.consumer <;> exact hs
  | poll =>
      unfold turn poll
      dsimp only
      cases l.consumer <;> exact hs
  | cancel =>
      unfold turn cancel
      dsimp only
      cases l.consumer <;> exact hs
  | markClosing => exact l.status.markClosing_ne_opened
  | markClosed => rintro ⟨⟩
  | read =>
      unfold turn
      dsimp only
      cases hstep : l.reader.advance l.readerView l.bridge with
      | none => exact hs
      | some next => exact l.reader.advance_status _ _ next hstep hs
  | readOn =>
      unfold turn
      dsimp only
      cases hstep : l.reader.readOn l.readerView l.bridge with
      | none => exact hs
      | some next => exact l.reader.readOn_status _ _ next hstep hs
  | write =>
      unfold turn
      dsimp only
      cases hstep : l.writer.advance l.writerView l.sink with
      | none => exact hs
      | some next => exact l.writer.advance_status _ _ next hstep hs

-- What a connection was started with stays.
theorem settings_turn (l : Link) (t : Turn) :
    (l.turn t).pipeline = l.pipeline ∧ (l.turn t).idleLimit = l.idleLimit := by
  cases t with
  | arrive _ | pass _ | abandon | submit _ | release | block _ | markClosing | markClosed =>
      exact ⟨rfl, rfl⟩
  | attach mode =>
      unfold turn attach
      dsimp only
      cases l.bridge.attach mode <;> exact ⟨rfl, rfl⟩
  | request n =>
      unfold turn request
      dsimp only
      cases l.consumer <;> exact ⟨rfl, rfl⟩
  | poll =>
      unfold turn poll
      dsimp only
      cases l.consumer <;> exact ⟨rfl, rfl⟩
  | cancel =>
      unfold turn cancel
      dsimp only
      cases l.consumer <;> exact ⟨rfl, rfl⟩
  | read =>
      unfold turn
      dsimp only
      cases l.reader.advance l.readerView l.bridge <;> exact ⟨rfl, rfl⟩
  | readOn =>
      unfold turn
      dsimp only
      cases l.reader.readOn l.readerView l.bridge <;> exact ⟨rfl, rfl⟩
  | write =>
      unfold turn
      dsimp only
      cases l.writer.advance l.writerView l.sink <;> exact ⟨rfl, rfl⟩

theorem pipeline_turn (l : Link) (t : Turn) : (l.turn t).pipeline = l.pipeline :=
  (l.settings_turn t).1

theorem pipeline_after (l : Link) (ts : List Turn) : (l.after ts).pipeline = l.pipeline :=
  Schedule.kept_after pipeline_turn ts l

theorem idleLimit_after (l : Link) (ts : List Turn) : (l.after ts).idleLimit = l.idleLimit :=
  Schedule.kept_after (fun l t => (settings_turn l t).2) ts l

/-! ### The operations of a link -/

theorem runs_reader (fuel : Nat) :
    ∀ l : Link, Runs turn l (l.withReader (l.reader.settleUpTo l.readerView l.bridge fuel)) := by
  induction fuel with
  | zero => exact fun l => .refl l
  | succ fuel ih =>
      intro l
      unfold Reader.settleUpTo
      have hread : Runs turn l (l.turn .read) := .once l Turn.read
      unfold turn at hread
      dsimp only at hread
      cases hstep : l.reader.advance l.readerView l.bridge with
      | none => exact .refl l
      | some r =>
          rw [hstep] at hread
          exact hread.trans (ih _)

theorem runs_writer (fuel : Nat) :
    ∀ l : Link, Runs turn l (l.withWriter (l.writer.settleUpTo l.writerView l.sink fuel)) := by
  induction fuel with
  | zero => exact fun l => .refl l
  | succ fuel ih =>
      intro l
      unfold Writer.settleUpTo
      have hwrite : Runs turn l (l.turn .write) := .once l Turn.write
      unfold turn at hwrite
      dsimp only at hwrite
      cases hstep : l.writer.advance l.writerView l.sink with
      | none => exact .refl l
      | some r =>
          rw [hstep] at hwrite
          exact hwrite.trans (ih _)

theorem runs_settle (l : Link) : Runs turn l l.settle :=
  (runs_reader (3 * l.reader.backlog + 4) l).trans
    (runs_writer (3 * l.writer.queue.length + 6) _)

theorem runs_perform (l : Link) (op : WriteOp) : Runs turn l (l.perform op).2 :=
  (Runs.once l (.submit op)).trans (runs_settle _)

theorem runs_sendAll (chunks : List Bytes) : ∀ l : Link, Runs turn l (l.sendAll chunks).2 := by
  induction chunks with
  | nil => exact fun l => .refl l
  | cons chunk rest ih =>
      intro l
      have hsend := l.runs_perform (.write chunk)
      unfold sendAll send
      split
      · rename_i l' hl
        rw [hl] at hsend
        exact hsend.trans (ih l')
      · exact hsend

theorem runs_close (l : Link) : Runs turn l l.close.2 :=
  (Runs.once l .abandon).trans (runs_perform _ _)

theorem runs_poll (l l' : Link) (p : Flow.Poll Bytes) (h : l.poll = some (p, l')) :
    Runs turn l l' := by
  have hpoll : Runs turn l (l.turn .poll) := .once l Turn.poll
  unfold turn at hpoll
  dsimp only at hpoll
  rwa [h] at hpoll

theorem runs_takeReady (fuel : Nat) : ∀ l : Link, Runs turn l (l.takeReady fuel).2.2 := by
  induction fuel with
  | zero => exact fun l => .refl l
  | succ fuel ih =>
      intro l
      unfold takeReady
      cases hpoll : l.poll with
      | none => exact .refl l
      | some r =>
          rcases r with ⟨p, l'⟩
          have hrun := l.runs_poll l' p hpoll
          cases p with
          | pending | ended => exact hrun
          | item _ | failed _ => exact hrun.trans (ih l')

theorem runs_drainRounds (fuel : Nat) : ∀ l : Link, Runs turn l (l.drainRounds fuel).2 := by
  induction fuel with
  | zero => exact fun l => .refl l
  | succ fuel ih =>
      intro l
      have hround := (runs_takeReady (l.bridge.queue.length + 2) l).trans (runs_settle _)
      unfold drainRounds
      dsimp only
      split
      · exact hround
      · exact hround.trans (ih _)

end Link

end Connection

end DemandNet
