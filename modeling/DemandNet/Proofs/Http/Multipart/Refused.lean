import DemandNet.Http.Handler
import DemandNet.Proofs.Flow.Unused
import DemandNet.Proofs.Http.Acts
import DemandNet.Proofs.Http.Readers

/-!
# Decoders That Are Refused

What is left of a body whose decoder did not come about.

A decoder that asks for the body of a request is refused while somebody reads it, and if the
headers name no boundary. In the first case nobody was attached for it. In the second a reader
was, and it leaves again without having looked, so the exchange is what it was, whoever has
read before and whatever is queued. A reader that did look and is then handed to a decoder
takes its demand with it when it has to leave, but nothing that it has not taken.

All this is said of every state that readers which come and go can lead a body to, and
`runs_handler` says that whatever a handler does leads to one of them.

## Main definitions

* `Exchange.relay`: The body of a request as one that readers come to and leave.
* `Resumes`: The next reader gets what is left.
* `Lossless`: Nothing is lost, whoever came and went.

## Theorems

* `receiveMultipart_occupied`, `receiveMultipart_refused`: A decoder that is refused leaves the
  exchange as it was.
* `runs_handler`: What handlers do is some schedule of readers and the pump.
* `Carried.lossless`: Nothing is lost.
* `attach_without_use_neutral`: Attaching without use changes nothing and loses nothing.
-/

namespace DemandNet

namespace Http

open DemandNet.Connection (Pipeline)
open DemandNet.Flow (Bridge Consumer Mode Window)

namespace Exchange

/-- The body of the request with its reader, of which something was taken. -/
def relay (x : Exchange) (taken : Bytes) : Relay :=
  { intake := x.body, reader := x.reader, taken }

variable {x : Exchange} {taken : Bytes}

theorem relay_change (f : ResponseHead → ResponseHead) :
    (x.change f).2.relay taken = x.relay taken := by
  unfold change
  split <;> rfl

theorem relay_flush (bodiless : Bool) : (x.flush bodiless).2.relay taken = x.relay taken := by
  unfold flush
  split
  · rfl
  · cases bodiless <;> rfl

theorem relay_sendAll (chunks : List Bytes) :
    (x.sendAll chunks).2.relay taken = x.relay taken :=
  kept_sendChunks (P := fun y => y.relay taken = x.relay taken) (fun _ _ hy => hy) chunks _
    (relay_flush false)

theorem relay_reject (status : Nat) (headers : Headers) :
    (x.reject status headers).relay taken = x.relay taken := by
  unfold reject
  split
  · rfl
  · exact relay_flush true

theorem relay_commitSwitch (headers : Headers) :
    (x.commitSwitch headers).2.relay taken = x.relay taken := by
  unfold commitSwitch
  split
  · rfl
  · exact relay_flush true

theorem relay_upgrade (protocols : Option String) :
    (x.upgrade protocols).2.relay taken = x.relay taken := by
  unfold upgrade
  split
  · rfl
  · cases WebSocket.negotiate x.incoming.head.headers protocols with
    | error refusal => cases refusal <;> exact relay_reject _ _
    | ok a =>
        have hswitch : ({ x with upgradable := false }.commitSwitch (switchHeaders a)).2.relay taken
            = x.relay taken := relay_commitSwitch (switchHeaders a)
        dsimp only
        split
        · rfl
        · generalize Exchange.commitSwitch _ (switchHeaders a) = result at hswitch ⊢
          rcases result with ⟨_ | _, y⟩
          · exact hswitch
          · rcases handOver_left y a with ⟨session, hleft⟩
            dsimp only
            rw [hleft]
            exact hswitch

theorem runs_receive (mode : Mode) : (x.relay taken).Runs ((x.receive mode).2.relay taken) := by
  have hattach : (x.receive mode).2.relay taken = (x.relay taken).attach mode := by
    unfold receive Relay.attach relay
    dsimp only
    cases x.body.attach mode <;> rfl
  rw [hattach]
  exact Relay.runs_turn _ (.attach mode)

-- While somebody is attached a decoder is refused, and nobody is disturbed,
theorem receiveMultipart_occupied (hattached : x.body.bridge.attached = true) :
    x.receiveMultipart = (.error .alreadySubscribed, x) := by
  unfold receiveMultipart Multipart.receive
  rw [Bridge.attach_eq, if_pos hattached]

-- and if the headers name no boundary, the reader that was attached for it leaves again.
theorem receiveMultipart_refused {err : NetError} (hvacant : x.body.bridge.attached = false)
    (hunwanted : x.body.bridge.demand = 0) (hheld : x.body.bridge.readEnd ≠ .held)
    (hboundary : Multipart.extractBoundary x.incoming.head.headers = .error err) :
    x.receiveMultipart = (.error err, x) := by
  have hleft := Bridge.detach_seated hvacant hunwanted hheld (.window x.window)
  unfold receiveMultipart Multipart.receive
  rw [Bridge.attach_eq, hvacant, if_neg Bool.false_ne_true]
  unfold Multipart.decode
  dsimp only
  rw [hboundary, hleft]
  rfl

theorem receiveMultipart_accepted {boundary : String} (hvacant : x.body.bridge.attached = false)
    (hboundary : Multipart.extractBoundary x.incoming.head.headers = .ok boundary) :
    x.receiveMultipart.2.relay taken = (x.relay taken).attach (.window x.window) := by
  have hattached := Relay.attach_of_vacant (s := x.relay taken) hvacant (.window x.window)
  rw [hattached]
  unfold receiveMultipart Multipart.receive
  rw [Bridge.attach_eq, hvacant, if_neg Bool.false_ne_true]
  unfold Multipart.decode
  dsimp only
  rw [hboundary]
  rfl

theorem runs_receiveMultipart {e : BodyEnd} {p : Pipeline} {total : Bytes}
    {a : Flow.Account Bytes} (h : Carried e p total (x.relay taken) a) :
    (x.relay taken).Runs (x.receiveMultipart.2.relay taken) := by
  cases hattached : x.body.bridge.attached with
  | true =>
      rw [receiveMultipart_occupied hattached]
      exact .refl _
  | false =>
      cases hboundary : Multipart.extractBoundary x.incoming.head.headers with
      | ok boundary =>
          rw [receiveMultipart_accepted hattached hboundary]
          exact Relay.runs_turn _ (.attach (.window x.window))
      | error err =>
          rcases h.vacancy hattached with ⟨-, hunwanted, hheld⟩
          rw [receiveMultipart_refused hattached hunwanted hheld hboundary]
          exact .refl _

theorem runs_of_same {y : Exchange} (h : y.relay taken = x.relay taken) :
    ∃ taken', (x.relay taken).Runs (y.relay taken') := by
  refine ⟨taken, ?_⟩
  rw [h]
  exact .refl _

theorem runs_pull : ∃ taken', (x.relay taken).Runs (x.pull.2.relay taken') := by
  unfold pull
  cases hreader : x.reader with
  | none => exact runs_of_same rfl
  | some c => exact Relay.runs_pull (s := x.relay taken) hreader

theorem runs_request (n : Nat) : (x.relay taken).Runs ((x.request n).relay taken) := by
  have hasked := (x.relay taken).runs_turn (.request n)
  unfold request
  cases hreader : x.reader with
  | none => exact .refl _
  | some c =>
      unfold Relay.turn Relay.request at hasked
      dsimp only at hasked
      rw [Relay.act_of_some (s := x.relay taken) hreader] at hasked
      exact hasked.trans (Relay.runs_pump _ _ rfl)

theorem relay_cancel : x.cancel.relay taken = (x.relay taken).leave := by
  unfold cancel Relay.leave
  cases hreader : x.reader with
  | none => exact (Relay.act_of_none (s := x.relay taken) hreader _).symm
  | some c =>
      rw [Relay.act_of_some (s := x.relay taken) hreader]
      rfl

-- Whatever a handler does, the body goes on as under some schedule.
theorem runs_perform {e : BodyEnd} {p : Pipeline} {total : Bytes} {a : Flow.Account Bytes}
    (h : Carried e p total (x.relay taken) a) (op : HandlerOp) :
    ∃ taken', (x.relay taken).Runs ((x.perform op).2.relay taken') := by
  cases op with
  | setStatus status => exact runs_of_same (x.relay_change fun h => { h with status })
  | setHeader name value =>
      exact runs_of_same (x.relay_change fun h => { h with headers := h.headers.insert name value })
  | addHeader name value =>
      exact runs_of_same (x.relay_change fun h => { h with headers := h.headers.append name value })
  | sendHeaders => exact runs_of_same (x.relay_flush false)
  | send chunk =>
      have hsend : (x.sendAll [chunk]).2.relay taken = _ := x.relay_sendAll [chunk]
      rw [← send_eq_sendAll] at hsend
      exact runs_of_same hsend
  | sendAll chunks => exact runs_of_same (x.relay_sendAll chunks)
  | upgrade protocols =>
      rw [perform_upgrade]
      exact runs_of_same (x.relay_upgrade protocols)
  | headSent | pendingHead => exact runs_of_same rfl
  | receive mode => exact ⟨taken, runs_receive mode⟩
  | receiveMultipart =>
      rw [perform_receiveMultipart]
      exact ⟨taken, runs_receiveMultipart h⟩
  | pull => exact runs_pull
  | request n => exact ⟨taken, runs_request n⟩
  | cancel =>
      refine ⟨taken, ?_⟩
      have hleft : (x.perform .cancel).2.relay taken = _ := relay_cancel
      rw [hleft]
      exact Relay.runs_turn _ .leave

end Exchange

/-! ### What is left -/

/-- The next reader gets what is left, whatever the order in which it and the pump go on, and
    nothing else. -/
structure Resumes (e : BodyEnd) (rest : Bytes) (i : Intake) (w : Window) : Prop where
  attaches : i.attach (.window w) = .ok (reader w, i.attached)
  collected : (i.collect w).1 = some (gathered e rest)
  only : ∀ ts r, ((Gathering.start (reader w) i.attached).after ts).outcome = some r →
    r = gathered e rest
  all : ∀ rounds : List (List Gathering.Turn),
    (∀ round ∈ rounds, Gathering.Turn.pump ∈ round ∧ Gathering.Turn.look ∈ round) →
    2 * i.frames.length + i.bridge.queue.length + 4 ≤ rounds.length →
    ((Gathering.start (reader w) i.attached).after rounds.flatten).outcome =
      some (gathered e rest)

/-- Nothing of a body is lost, whoever came and went. -/
structure Lossless (p : Pipeline) (frames : List BodyFrame) (e : BodyEnd) (s : Relay) :
    Prop where
  /-- What was taken and what is left are the body. -/
  whole : s.taken ++ s.intake.remainder = bytesThrough p frames
  /-- A decoder that knows no boundary leaves an exchange as it was. -/
  refused : ∀ x : Exchange, x.body = s.intake → s.intake.bridge.attached = false → ∀ err,
    Multipart.extractBoundary x.incoming.head.headers = .error err →
    x.receiveMultipart = (.error err, x)
  /-- Unless somebody has met the end, the next reader gets what is left. -/
  resumes : s.reader = none → s.intake.bridge.readEnd ≠ .dropped → ∀ w : Window, 1 ≤ w.size →
    Resumes e s.intake.remainder s.intake w
  /-- A reader that is handed to such a decoder leaves, and the next one gets what is left. -/
  decoded : ∀ headers err c, s.reader = some c →
    Multipart.extractBoundary headers = .error err →
    Multipart.decode headers c s.intake.bridge = (.error err, s.leave.intake.bridge) ∧
      (c.done = false → s.intake.bridge.readEnd ≠ .dropped → ∀ w : Window, 1 ≤ w.size →
        Resumes e s.intake.remainder s.leave.intake w)
  /-- If somebody has met the end, nothing is left, and the next reader finds that at once. -/
  spent : s.intake.bridge.readEnd = .dropped → s.intake.remainder = [] ∧
    (s.intake.bridge.attached = false → ∀ mode, ∃ c i,
      s.intake.attach mode = .ok (c, i) ∧ (i.bridge.poll c).1 = .ended)

section Losses

variable {e : BodyEnd} {p : Pipeline} {frames : List BodyFrame} {rest : Bytes} {i : Intake}
  {s : Relay} {a : Flow.Account Bytes}

theorem Unread.resumes (hr : Unread e p rest i) {w : Window} (hw : 1 ≤ w.size) :
    Resumes e rest i w where
  attaches := hr.attach w
  collected := collect_gathers hw hr
  only := Gathering.outcome_of_schedule hw hr
  all := Gathering.outcome_of_rounds hw hr

theorem Carried.lossless (h : Carried e p (bytesThrough p frames) s a) :
    Lossless p frames e s where
  whole := h.taken_remainder
  refused := by
    intro x hbody hvacant err hboundary
    rcases h.vacancy hvacant with ⟨-, hunwanted, hheld⟩
    rw [← hbody] at hvacant hunwanted hheld
    exact Exchange.receiveMultipart_refused hvacant hunwanted hheld hboundary
  resumes := fun hnone hopen _ hw => (h.unread hnone hopen).resumes hw
  decoded := by
    intro headers err c hc hboundary
    refine ⟨?_, fun hgoing hopen w hw => (h.unread_leave hc hgoing hopen).resumes hw⟩
    unfold Multipart.decode
    rw [hboundary, Relay.leave_of_some hc]
  spent := by
    intro hdropped
    refine ⟨h.spent hdropped, fun hvacant mode =>
      ⟨s.intake.bridge.newcomer mode, { s.intake with bridge := s.intake.bridge.seated }, ?_, ?_⟩⟩
    · unfold Intake.attach
      rw [Bridge.attach_eq, hvacant, if_neg Bool.false_ne_true]
      rfl
    · refine poll_of_latecomer ?_
      unfold Bridge.newcomer
      rw [hdropped]
      rfl

theorem lossless_after (p : Pipeline) (frames : List BodyFrame) (e : BodyEnd)
    (ts : List Relay.Turn) : Lossless p frames e ((Relay.start p frames e).after ts) := by
  rcases carried_after ts (carried_start p frames e) with ⟨a, h⟩
  exact h.lossless

end Losses

-- By induction on the handler: whatever it does next, its body goes on as under some schedule.
theorem runs_handler {e : BodyEnd} {p : Pipeline} {total : Bytes} (handler : Handler) :
    ∀ (x : Exchange) (taken : Bytes) (a : Flow.Account Bytes),
      Carried e p total (x.relay taken) a →
      ∃ taken', (x.relay taken).Runs ((handler.run x).2.relay taken') := by
  induction handler with
  | finish | breakDown | collapse => exact fun x taken _ _ => ⟨taken, .refl _⟩
  | act op next ih =>
      intro x taken a h
      rcases Exchange.runs_perform h op with ⟨taken', hrun⟩
      rcases hrun with ⟨ts, hafter⟩
      rcases carried_after ts h with ⟨a', h'⟩
      unfold Relay.after at h'
      rw [← hafter] at h'
      rcases ih (x.perform op).1 (x.perform op).2 taken' a' h' with ⟨taken'', hrest⟩
      exact ⟨taken'', Relay.Runs.trans ⟨ts, hafter⟩ hrest⟩

-- A consumer that attaches and leaves without more changes nothing for anybody, and a decoder
-- that is refused loses nothing of a body.
theorem attach_without_use_neutral :
    (∀ (α : Type) (x : Flow.Exchange α), x.Reachable → x.bridge.attached = false →
      ∀ (mode : Mode) (between later : List (Flow.Step α)),
        (∀ s ∈ between, s.actor? ≠ some x.consumers.length) → x.Neutral mode between later) ∧
    (∀ x : Exchange, x.body.bridge.attached = true →
      x.receiveMultipart = (.error .alreadySubscribed, x)) ∧
    (∀ p frames e ts, Lossless p frames e ((Relay.start p frames e).after ts)) ∧
    (∀ settings incoming frames e (handler : Handler), ∃ taken ts,
      (handler.run (.start settings incoming frames (some e))).2.relay taken =
        (Relay.start settings.pipeline frames e).after ts) := by
  refine ⟨fun α x hx hvacant mode between later hothers => ?_, fun x hattached => ?_,
    lossless_after, fun settings incoming frames e handler => ?_⟩
  · exact Flow.Exchange.neutral_of_sound hx.sound hvacant mode between later hothers
  · exact Exchange.receiveMultipart_occupied hattached
  · exact runs_handler handler (.start settings incoming frames (some e)) [] .empty
      (carried_start settings.pipeline frames e)

/-- A consumer has received one item of two and left. -/
def secondQueued : Flow.Exchange Nat :=
  Flow.Exchange.empty.after
    [.attach .manual, .request 0 2, .emit 1, .emit 2, .poll 0, .detach 0]

/-- A request with a body of two frames, of whose parts its headers say nothing. -/
def plainPost : Exchange :=
  .start { keepAlive := true, window := .bounded 4, pipeline := [] }
    { id := "7", params := []
      head := { method := "POST", path := "/", query := none, version := .http11, headers := [] } }
    [.data [1], .data [2]] (some .complete)

/-- Its handler asks for both frames, takes one and leaves. -/
def halfRead : Exchange :=
  ((Handler.ofOps (.ok ()) [.receive .manual, .request 2, .pull, .cancel]).run plainPost).2

theorem second_frame_survives_decoder :
    (secondQueued.bridge.attached = false ∧
      secondQueued.Neutral .manual [.tryEmit 3] [.attach .manual, .poll 1]) ∧
    ((plainPost.receive .manual).2.body.bridge.attached = true ∧
      (plainPost.receive .manual).2.receiveMultipart =
        (.error .alreadySubscribed, (plainPost.receive .manual).2)) ∧
    halfRead.receiveMultipart = (.error (.decode "not a valid multipart body"), halfRead) ∧
    (halfRead.body.collect (.bounded 4)).1 = some (.ok [2]) := by
  rcases attach_without_use_neutral with ⟨hneutral, hoccupied, hlossless, -⟩
  have hhalf := hlossless [] [.data [1], .data [2]] .complete
    [.attach .manual, .request 2, .pump, .pump, .look, .leave]
  refine ⟨⟨rfl, hneutral Nat _ ⟨_, rfl⟩ rfl .manual [.tryEmit 3] _ ?_⟩, ⟨rfl, hoccupied _ rfl⟩,
    hhalf.refused halfRead rfl rfl _ rfl, ?_⟩
  · decide
  · exact (hhalf.resumes rfl nofun (.bounded 4) (by decide)).collected

end Http

end DemandNet
