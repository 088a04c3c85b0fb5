import DemandNet.Proofs.Schedule
import DemandNet.WebSocket.Duet

/-!
# Schedules of a Session

Everything that can happen to a session, in any order.

A session waits for several things at once, and when more than one of them has come it is
not said which is served first. `Session.advance` has a preference; here every service is
a turn of its own, and so is everything that the other side, the consumer and the holders
of the session do. The other side is not held to the protocol: its frames arrive as they
like.

A session that waits for demand is told of it and hands over its payload a moment later.
The consumer may be gone by then, so `Service.offer` is the second half of that service,
which may come without the first.

## Main definitions

* `Service`: What a session can do while it runs.
* `Turn`: One step of one party.
* `Duet.turn`, `Duet.after`: The session after a turn, and after a schedule.
* `Duet.watch`: What a schedule shows, in order.
* `Duet.facing`: A session whose other side is not bound to anything.

## Theorems

* `advance_after`, `runs_advance`: A session that goes on until it has to wait follows a
  schedule.
-/

namespace DemandNet

namespace WebSocket

open Schedule (Runs)

/-- What a session can do while it runs. -/
inductive Service where
  | request
  | demand
  /-- Demand was noticed, and may be gone. -/
  | offer
  | frame
  | stop
  deriving DecidableEq

/-- One of the services; `none` if it is not possible. -/
def Session.serve (s : Session) (sock : Socket) (now : Nat) (stopping : Bool) :
    Service → Option (Session × Socket)
  | .request => s.serveRequest sock now
  | .demand => s.serveDemand.map fun s => (s, sock)
  | .offer => s.parked.map fun payload => (s.offer payload, sock)
  | .frame => s.serveFrame sock now
  | .stop => s.serveStop sock now stopping

/-- One step of one party of a session. -/
inductive Turn where
  /-- A frame arrives from the other side. -/
  | arrive (f : Frame)
  /-- The other side sends no more. -/
  | hangUp
  /-- The other side receives no more. -/
  | breakOff
  /-- The other side takes a frame that was sent. -/
  | collect
  | pass (time : Nat)
  | attach (mode : Flow.Mode)
  | request (n : Nat)
  | poll
  /-- The consumer leaves. -/
  | cancel
  | submit (op : SessionOp)
  /-- The last handle on the session goes away. -/
  | release
  /-- The session is told to stop. -/
  | stop
  | serve (what : Service)
  /-- The session waits for the answer to its close. -/
  | linger
  deriving DecidableEq

namespace Duet

/-- The session has done something, unless it could not. -/
def acted (d : Duet) : Option (Session × Socket) → Duet
  | none => d
  | some (session, socket) => { d with session, socket }

/-- What comes from the other side is changed. -/
def onInbox (d : Duet) (f : Wire → Wire) : Duet :=
  { d with socket := { d.socket with inbox := f d.socket.inbox } }

/-- What goes to the other side is changed. -/
def onOutbox (d : Duet) (f : Wire → Wire) : Duet :=
  { d with socket := { d.socket with outbox := f d.socket.outbox } }

/-- The session after a turn; a turn that is not possible changes nothing. -/
def turn (d : Duet) : Turn → Duet
  | .arrive f => d.onInbox fun w => { w with frames := w.frames ++ [f] }
  | .hangUp => d.onInbox fun w => { w with ended := true }
  | .breakOff => d.onOutbox fun w => { w with broken := true }
  | .collect => d.onOutbox fun w => { w with frames := w.frames.tail }
  | .pass time => d.pass time
  | .attach mode => (d.attach mode).toOption.getD d
  | .request n => (d.request n).getD d
  | .poll => (d.poll.map Prod.snd).getD d
  | .cancel => d.cancel
  | .submit op => { d with session := (d.session.submit op).2 }
  | .release => d.dropSession
  | .stop => { d with stopping := true }
  | .serve what =>
      if d.session.phase = .running then
        d.acted (d.session.serve d.socket d.now d.stopping what)
      else d
  | .linger =>
      match d.session.phase with
      | .lingering deadline => d.acted (d.session.linger d.socket d.now deadline)
      | _ => d

theorem serve_of_running (d : Duet) (what : Service) (hrun : d.session.phase = .running) :
    d.turn (.serve what) = d.acted (d.session.serve d.socket d.now d.stopping what) := by
  unfold turn
  dsimp only
  rw [if_pos hrun]

theorem serve_of_over (d : Duet) (what : Service) (hover : d.session.phase ≠ .running) :
    d.turn (.serve what) = d := by
  unfold turn
  dsimp only
  rw [if_neg hover]

theorem linger_of_lingering (d : Duet) (deadline : Nat)
    (hphase : d.session.phase = .lingering deadline) :
    d.turn .linger = d.acted (d.session.linger d.socket d.now deadline) := by
  unfold turn
  dsimp only
  rw [hphase]

/-- The session after a schedule. -/
def after (d : Duet) (ts : List Turn) : Duet := Schedule.after turn d ts

/-- What a schedule shows, given what each turn does. -/
def watch {ε : Type} (shows : Duet → Turn → List ε) (d : Duet) (ts : List Turn) : List ε :=
  Schedule.watch turn shows d ts

/-- A new session whose other side is not bound to anything. -/
def facing (role : Role) (pipeline : Connection.Pipeline) (window : Flow.Window)
    (keepAlive : Bool) : Duet :=
  { Duet.start pipeline window keepAlive with
    session := .start role pipeline keepAlive, peer := none }

/-! ### A session that goes on by itself -/

-- The preference of a session chooses among its services. It makes no requests of its own.
theorem turn_of_advance (d : Duet) (next : Session × Socket)
    (h : d.session.advance d.socket d.now d.stopping = some next) :
    ∃ t, (∀ op, t ≠ .submit op) ∧ d.turn t = d.acted (some next) := by
  have hserve : d.session.phase = .running → ∀ what,
      d.session.serve d.socket d.now d.stopping what = some next →
      ∃ t, (∀ op, t ≠ .submit op) ∧ d.turn t = d.acted (some next) :=
    fun hrunning what hwhat => by
      refine ⟨.serve what, fun op => (by rintro ⟨⟩), ?_⟩
      rw [d.serve_of_running what hrunning, hwhat]
  unfold Session.advance at h
  cases hphase : d.session.phase with
  | ended =>
      rw [hphase] at h
      cases h
  | lingering deadline =>
      rw [hphase] at h
      refine ⟨.linger, fun op => (by rintro ⟨⟩), ?_⟩
      rw [d.linger_of_lingering deadline hphase]
      exact congrArg d.acted h
  | running =>
      rw [hphase] at h
      dsimp only at h
      cases hstop : d.session.serveStop d.socket d.now d.stopping with
      | some r =>
          rw [hstop] at h
          exact hserve hphase .stop (hstop.trans h)
      | none =>
          cases hrequest : d.session.serveRequest d.socket d.now with
          | some r =>
              rw [hstop, hrequest] at h
              exact hserve hphase .request (hrequest.trans h)
          | none =>
              cases hdemand : d.session.serveDemand with
              | some r =>
                  rw [hstop, hrequest, hdemand] at h
                  refine hserve hphase .demand ?_
                  unfold Session.serve
                  rw [hdemand]
                  exact h
              | none =>
                  rw [hstop, hrequest, hdemand] at h
                  exact hserve hphase .frame h

theorem settle_after (fuel : Nat) : ∀ d : Duet, ∃ ts : List Turn, (∀ op, .submit op ∉ ts) ∧
    d.acted (some (d.session.settleUpTo d.socket d.now d.stopping fuel)) = d.after ts := by
  induction fuel with
  | zero => exact fun d => ⟨[], fun op => List.not_mem_nil, rfl⟩
  | succ fuel ih =>
      intro d
      unfold Session.settleUpTo
      cases hstep : d.session.advance d.socket d.now d.stopping with
      | none => exact ⟨[], fun op => List.not_mem_nil, rfl⟩
      | some next =>
          rcases d.turn_of_advance next hstep with ⟨t, hown, ht⟩
          rcases ih (d.acted (some next)) with ⟨ts, hrest, hts⟩
          refine ⟨t :: ts, fun op => List.not_mem_cons_of_ne_of_not_mem (hown op).symm (hrest op),
            ?_⟩
          change _ = (d.turn t).after ts
          rw [ht]
          exact hts

theorem advance_after (d : Duet) :
    ∃ ts : List Turn, (∀ op, .submit op ∉ ts) ∧ d.advance = d.after ts :=
  settle_after (3 * (d.session.queue.length + d.socket.inbox.frames.length) + 8) d

-- Going on until it has to wait is one schedule of a session.
theorem runs_advance (d : Duet) : Runs turn d d.advance := by
  rcases d.advance_after with ⟨ts, -, hts⟩
  exact ⟨ts, hts⟩

end Duet

end WebSocket

end DemandNet
