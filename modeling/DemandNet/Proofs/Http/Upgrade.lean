import DemandNet.Proofs.Http.Acts
import DemandNet.Proofs.WebSocket.Negotiation

/-!
# An Exchange is Upgraded Once

What upgrades do to an exchange, whatever else is done to it before and afterwards.

Everybody who has a hand on an exchange may ask for the upgrade, any number of times. Only
the first operation that needs the head on its way can be an upgrade that does something:
it answers with a head of its own, and there is no body behind it. All later ones find
that the head was sent and change nothing. So there is one session at most, and it belongs
to the one head that was sent.

A handshake that is accepted is answered before the codec hands the connection over. The codec
need not do it: its client may be gone by then, or speak a version without upgrades. Then the
handler gets the reason in place of a session, behind the same head.

All operations but the upgrade are made of a few strokes: the draft is edited, the request
is read, the head is flushed, something is written behind it. What is to hold of every
exchange is shown of each stroke: a draft can still be upgraded, and behind a head without
a body no chunk gets through to the codec.

An upgrade is one operation here: nobody comes between the decision and the head.

## Main definitions

* `Sink.Mute`: A sink that has taken no chunk and takes none.
* `ChannelOp`, `Exchange.channelTurn`: Everything that can be done to an exchange.
* `Stroke`, `Exchange.stroke`: What operations are made of.
* `Exchange.Sound`: What holds of every exchange.
* `Carries`, `Answers`: How a decision about a handshake is answered.

## Theorems

* `advance_calls`: A step of the writer makes one call of the sink at most.
* `perform_strokes`, `headTurn_strokes`: All operations but the upgrade are made of strokes.
* `sound_after`: Every exchange is sound.
* `upgrade_late`, `upgrade_early`: An upgrade after the head was sent, and before.
* `upgraded_at_most_once`: What upgrades come to among all other operations.
-/

namespace DemandNet

namespace Connection

/-! ### Sinks that take nothing -/

/-- A sink that has taken no chunk and takes none. -/
structure Sink.Mute (s : Sink) : Prop where
  written : s.written = []
  fails : ∀ n, s.plan .write n ≠ none

theorem Sink.Mute.call {s : Sink} (h : s.Mute) (c : SinkCall) : (s.call c).2.Mute := by
  refine ⟨?_, h.fails⟩
  have hrecord : (s.call c).2.written =
      s.written ++ Sink.written ⟨s.plan, s.blocked, [⟨c, (s.call c).1⟩]⟩ := List.filterMap_append
  rw [hrecord, h.written, List.nil_append]
  cases c with
  | write chunk =>
      have hfails : (s.call (.write chunk)).1 ≠ none := h.fails _
      rcases Option.ne_none_iff_exists'.1 hfails with ⟨k, hk⟩
      rw [hk]
      rfl
  | flush => rfl
  | shutdown => rfl

theorem Writer.advance_calls {w w' : Writer} {v : WriterView} {sink sink' : Sink}
    {status : Status} (h : w.advance v sink = some (w', status, sink')) :
    sink' = sink ∨ ∃ c, sink' = (sink.call c).2 := by
  unfold Writer.advance at h
  cases hactivity : w.activity with
  | idle =>
      rw [hactivity] at h
      left
      rcases hqueue : w.queue with _ | ⟨⟨t, chunk | _⟩, rest⟩ <;> rw [hqueue] at h
      · dsimp only at h
        split_ifs at h
        cases h
        rfl
      · cases h
        rfl
      · cases h
        rfl
  | writing t chunk =>
      rw [hactivity] at h
      dsimp only at h
      split_ifs at h
      · cases h
        exact .inr ⟨.write chunk, rfl⟩
      · cases h
        exact .inr ⟨.write chunk, rfl⟩
  | flushing t =>
      rw [hactivity] at h
      cases h
      exact .inr ⟨.flush, rfl⟩
  | closing t =>
      rw [hactivity] at h
      dsimp only at h
      split_ifs at h
      · cases h
        exact .inr ⟨.flush, rfl⟩
      · cases h
        exact .inr ⟨.flush, rfl⟩
  | shutting t =>
      rw [hactivity] at h
      cases h
      exact .inr ⟨.shutdown, rfl⟩
  | cleaning =>
      rw [hactivity] at h
      cases h
      exact .inr ⟨.flush, rfl⟩
  | ended =>
      rw [hactivity] at h
      cases h

theorem Writer.mute_settleUpTo (fuel : Nat) : ∀ (w : Writer) (v : WriterView) (sink : Sink),
    sink.Mute → (w.settleUpTo v sink fuel).2.2.Mute := by
  induction fuel with
  | zero => exact fun w v sink h => h
  | succ fuel ih =>
      intro w v sink h
      unfold Writer.settleUpTo
      rcases hstep : w.advance v sink with _ | ⟨w', status, sink'⟩
      · exact h
      · refine ih w' { v with status } sink' ?_
        rcases Writer.advance_calls hstep with rfl | ⟨c, rfl⟩
        · exact h
        · exact h.call c

end Connection

namespace Http

open Connection
open WebSocket (negotiate Accepted Rejection)

/-! ### Operations -/

/-- Everything that can be done to an exchange. -/
inductive ChannelOp where
  | handle (op : HandlerOp)
  | head (op : HeadOp)
  | abort (e : NetError)
  | loseClient

/-- What operations are made of. -/
inductive Stroke where
  | edit (pending : ResponseHead)
  | read (body : Intake) (reader : Option Flow.Consumer)
  | fail (failure : Option NetError)
  | flush (bodiless : Bool)
  /-- Only what has a head in front of it is written. -/
  | write (op : WriteOp)
  | loseClient

namespace Exchange

/-- The exchange after an operation. -/
def channelTurn (x : Exchange) : ChannelOp → Exchange
  | .handle op => (x.perform op).2
  | .head op => x.headTurn op
  | .abort e => x.abort e
  | .loseClient => x.loseClient

/-- The exchange after operations. -/
def afterOps (x : Exchange) (ops : List ChannelOp) : Exchange := Schedule.after channelTurn x ops

/-- The head that an operation sends. -/
def headsOf (x : Exchange) (op : ChannelOp) : List ResponseHead := x.newHead (x.channelTurn op)

/-- The session that an operation begins. -/
def sessionsOf (x : Exchange) : ChannelOp → List Accepted
  | .handle op =>
      match (x.perform op).1 with
      | .accepted a => [a]
      | _ => []
  | _ => []

/-- The exchange after a stroke. -/
def stroke (x : Exchange) : Stroke → Exchange
  | .edit pending => { x with pending }
  | .read body reader => { x with body, reader }
  | .fail failure => { x with failure }
  | .flush bodiless => (x.flush bodiless).2
  | .write op => if x.headSent then (x.write op).2 else x
  | .loseClient => x.loseClient

/-- Some strokes make the one exchange of the other. -/
def Strokes (x y : Exchange) : Prop := Schedule.Runs stroke x y

theorem strokes_once (x : Exchange) (s : Stroke) : x.Strokes (x.stroke s) := Schedule.Runs.once x s

theorem Strokes.trans {x y z : Exchange} (h : x.Strokes y) (h' : y.Strokes z) : x.Strokes z :=
  Schedule.Runs.trans h h'

theorem strokes_change (x : Exchange) (f : ResponseHead → ResponseHead) :
    x.Strokes (x.change f).2 := by
  cases hx : x.sent with
  | none =>
      rw [change_early hx]
      exact x.strokes_once (.edit (f x.pending))
  | some head =>
      rw [change_late hx]
      exact Schedule.Runs.refl x

theorem strokes_amend (x : Exchange) (status : Nat) (headers : Headers) :
    x.Strokes (x.amend status headers) := by
  cases hx : x.sent with
  | none =>
      rw [amend_early hx]
      exact x.strokes_once (.edit _)
  | some head =>
      rw [amend_late hx]
      exact Schedule.Runs.refl x

theorem strokes_of_reads {x y : Exchange} (h : x.Reads y) : x.Strokes y := by
  rcases h with ⟨body, reader, rfl, _⟩
  exact x.strokes_once (.read body reader)

theorem strokes_write {x : Exchange} (h : x.headSent = true) (op : WriteOp) :
    x.Strokes (x.write op).2 := by
  have hstroke := x.strokes_once (.write op)
  rwa [stroke, if_pos h] at hstroke

theorem headSent_sendHeaders (x : Exchange) : x.sendHeaders.2.headSent = true := by
  cases hx : x.sent with
  | none => exact headSent_eq_true (flush_early x hx false).2.sent
  | some head =>
      rw [sendHeaders, flush_late hx]
      exact headSent_eq_true hx

theorem strokes_sendAll (x : Exchange) (chunks : List Bytes) :
    x.Strokes (x.sendAll chunks).2 :=
  (kept_sendChunks (P := fun y => x.Strokes y ∧ y.headSent = true)
    (fun _ chunk hy => ⟨hy.1.trans (strokes_write hy.2 (.write chunk)), hy.2⟩) chunks _
    ⟨x.strokes_once (.flush false), x.headSent_sendHeaders⟩).1

theorem strokes_finish (x : Exchange) : x.Strokes x.finish := by
  have hread := x.sendHeaders.2.strokes_once
    (.read x.sendHeaders.2.body.abandon x.sendHeaders.2.reader)
  have hclose := strokes_write (x := { x.sendHeaders.2 with body := x.sendHeaders.2.body.abandon })
    x.headSent_sendHeaders .close
  exact ((x.strokes_once (.flush false)).trans hread).trans hclose

theorem ofResult_ne_accepted (r : Except NetError Unit) (a : Accepted) :
    HandlerAnswer.ofResult r ≠ .accepted a := by
  cases r <;> rintro ⟨⟩

theorem ofWrite_ne_accepted (r : Option (Except NetError Unit)) (a : Accepted) :
    HandlerAnswer.ofWrite r ≠ .accepted a := by
  cases r with
  | none => rintro ⟨⟩
  | some r => exact ofResult_ne_accepted r a

-- What a handler can do besides upgrading is made of strokes, and nothing is accepted by it.
theorem perform_strokes (x : Exchange) (op : HandlerOp)
    (hop : ∀ protocols, op ≠ .upgrade protocols) :
    x.Strokes (x.perform op).2 ∧ ∀ a, (x.perform op).1 ≠ .accepted a := by
  cases op with
  | setStatus status =>
      exact ⟨x.strokes_change fun h => { h with status }, ofResult_ne_accepted _⟩
  | setHeader name value =>
      exact ⟨x.strokes_change fun h => { h with headers := h.headers.insert name value },
        ofResult_ne_accepted _⟩
  | addHeader name value =>
      exact ⟨x.strokes_change fun h => { h with headers := h.headers.append name value },
        ofResult_ne_accepted _⟩
  | sendHeaders => exact ⟨x.strokes_once (.flush false), by rintro a ⟨⟩⟩
  | send chunk =>
      refine ⟨?_, ofWrite_ne_accepted _⟩
      have hsend := x.strokes_sendAll [chunk]
      rwa [← send_eq_sendAll] at hsend
  | sendAll chunks => exact ⟨x.strokes_sendAll chunks, ofWrite_ne_accepted _⟩
  | upgrade protocols => exact absurd rfl (hop protocols)
  | headSent => exact ⟨Schedule.Runs.refl x, by rintro a ⟨⟩⟩
  | pendingHead => exact ⟨Schedule.Runs.refl x, by rintro a ⟨⟩⟩
  | receive mode => exact ⟨strokes_of_reads (reads_receive mode), ofResult_ne_accepted _⟩
  | receiveMultipart =>
      refine ⟨?_, ?_⟩
      · rw [perform_receiveMultipart]
        exact strokes_of_reads reads_receiveMultipart
      · unfold perform
        rcases x.receiveMultipart with ⟨e | d, y⟩ <;> rintro a ⟨⟩
  | pull =>
      refine ⟨strokes_of_reads reads_pull, ?_⟩
      change ∀ a, (x.pull.1.map HandlerAnswer.polled).getD .noReader ≠ .accepted a
      cases x.pull.1 <;> rintro a ⟨⟩
  | request n => exact ⟨strokes_of_reads (reads_request n), by rintro a ⟨⟩⟩
  | cancel => exact ⟨strokes_of_reads reads_cancel, by rintro a ⟨⟩⟩

theorem headTurn_strokes (x : Exchange) (op : HeadOp) : x.Strokes (x.headTurn op) := by
  have hbodiless : ∀ status headers, x.Strokes ((x.amend status headers).flush true).2 :=
    fun status headers => (x.strokes_amend status headers).trans (strokes_once _ (.flush true))
  cases op with
  | setStatus status => exact (x.perform_strokes (.setStatus status) (by rintro p ⟨⟩)).1
  | setHeader name value => exact (x.perform_strokes (.setHeader name value) (by rintro p ⟨⟩)).1
  | addHeader name value => exact (x.perform_strokes (.addHeader name value) (by rintro p ⟨⟩)).1
  | sendHeaders => exact (x.perform_strokes .sendHeaders (by rintro p ⟨⟩)).1
  | send chunk => exact (x.perform_strokes (.send chunk) (by rintro p ⟨⟩)).1
  | reject status headers =>
      have hturn : x.headTurn (.reject status headers) = x.reject status headers := rfl
      rw [hturn, reject_halves]
      exact hbodiless status headers
  | commitSwitch headers =>
      have hturn : x.headTurn (.commitSwitch headers) = (x.commitSwitch headers).2 := rfl
      rw [hturn, commitSwitch_halves]
      exact hbodiless 101 headers
  | finish => exact x.strokes_finish
  | beginReject status headers => exact x.strokes_amend status headers
  | beginSwitch headers =>
      rw [headTurn, performHead]
      by_cases hsent : x.headSent = true
      · rw [if_pos hsent]
        exact Schedule.Runs.refl x
      · rw [if_neg hsent]
        exact x.strokes_amend 101 headers
  | sendBodiless => exact x.strokes_once (.flush true)

/-! ### What holds of every exchange -/

/-- What holds of every exchange of a request: as long as the head is a draft it can be
    upgraded, and nothing was written, and behind a head without a body nothing is. -/
structure Sound (incoming : Incoming) (x : Exchange) : Prop where
  incoming : x.incoming = incoming
  upgradable : x.sent = none → x.upgradable = true
  session : x.sent = none → x.session = none
  bodiless : x.sent = none → x.bodiless = false
  written : x.sent = none → x.sink.written = []
  mute : x.bodiless = true → x.sink.Mute

-- Behind a head that was sent only the body is left to be looked at.
theorem sound_of_sent {incoming : Incoming} {x : Exchange} {head : ResponseHead}
    (hincoming : x.incoming = incoming) (hsent : x.sent = some head)
    (hmute : x.bodiless = true → x.sink.Mute) : x.Sound incoming := by
  have hdraft : ∀ {P : Prop}, x.sent = none → P := by
    intro P hnone
    rw [hsent] at hnone
    cases hnone
  exact ⟨hincoming, hdraft, hdraft, hdraft, hdraft, hmute⟩

/-- What an operation other than an upgrade keeps: the session, and the head once it was
    sent, with or without a body. -/
structure Keeps (x y : Exchange) : Prop where
  session : y.session = x.session
  sent : ∀ head, x.sent = some head → y.sent = some head ∧ y.bodiless = x.bodiless

theorem mute_write {x : Exchange} (op : WriteOp) (h : x.sink.Mute) :
    (x.write op).2.sink.Mute := by
  change ((x.writer.submit op).2.settle x.writerView x.sink).2.2.Mute
  exact Writer.mute_settleUpTo _ _ _ _ h

theorem breaks (x : Exchange) (n : Nat) : x.breakPipe.sink.plan .write n ≠ none := by
  rintro ⟨⟩

theorem loses (x : Exchange) (n : Nat) : x.loseClient.sink.plan .write n ≠ none := x.breaks n

theorem sound_stroke {incoming : Incoming} {x : Exchange} (h : x.Sound incoming) (s : Stroke) :
    (x.stroke s).Sound incoming := by
  cases s with
  | edit pending => exact ⟨h.incoming, h.upgradable, h.session, h.bodiless, h.written, h.mute⟩
  | read body reader => exact ⟨h.incoming, h.upgradable, h.session, h.bodiless, h.written, h.mute⟩
  | fail failure => exact ⟨h.incoming, h.upgradable, h.session, h.bodiless, h.written, h.mute⟩
  | loseClient =>
      exact ⟨h.incoming, h.upgradable, h.session, h.bodiless, h.written,
        fun hbodiless => ⟨(h.mute hbodiless).written, x.loses⟩⟩
  | flush bodiless =>
      cases hx : x.sent with
      | some head =>
          rw [stroke, flush_late hx]
          exact h
      | none =>
          have hflushed := (flush_early x hx bodiless).2
          have hincoming : (x.flush bodiless).2.incoming = x.incoming := by
            rw [flush, if_neg (not_headSent hx)]
            cases bodiless <;> rfl
          refine sound_of_sent (hincoming.trans h.incoming) hflushed.sent fun hbodiless => ?_
          rw [stroke, hflushed.bodiless] at hbodiless
          rw [stroke, flush, if_neg (not_headSent hx), hbodiless]
          exact ⟨h.written hx, x.breaks⟩
  | write op =>
      rw [stroke]
      cases hx : x.sent with
      | some head =>
          rw [if_pos (headSent_eq_true hx)]
          exact sound_of_sent h.incoming hx fun hbodiless => mute_write op (h.mute hbodiless)
      | none =>
          rw [if_neg (not_headSent hx)]
          exact h

theorem keeps_stroke (x : Exchange) (s : Stroke) : x.Keeps (x.stroke s) := by
  cases s with
  | flush bodiless =>
      cases hx : x.sent with
      | some head =>
          rw [stroke, flush_late hx]
          exact ⟨rfl, fun _ hhead => ⟨hhead, rfl⟩⟩
      | none =>
          refine ⟨?_, fun head hhead => ?_⟩
          · rw [stroke, flush, if_neg (not_headSent hx)]
            cases bodiless <;> rfl
          · rw [hx] at hhead
            cases hhead
  | write op =>
      rw [stroke]
      by_cases hx : x.headSent = true
      · rw [if_pos hx]
        exact ⟨rfl, fun _ hhead => ⟨hhead, rfl⟩⟩
      · rw [if_neg hx]
        exact ⟨rfl, fun _ hhead => ⟨hhead, rfl⟩⟩
  | edit pending => exact ⟨rfl, fun _ hhead => ⟨hhead, rfl⟩⟩
  | read body reader => exact ⟨rfl, fun _ hhead => ⟨hhead, rfl⟩⟩
  | fail failure => exact ⟨rfl, fun _ hhead => ⟨hhead, rfl⟩⟩
  | loseClient => exact ⟨rfl, fun _ hhead => ⟨hhead, rfl⟩⟩

theorem sound_strokes {incoming : Incoming} {x y : Exchange} (h : x.Sound incoming)
    (hstrokes : x.Strokes y) : y.Sound incoming ∧ x.Keeps y := by
  rcases hstrokes with ⟨strokes, rfl⟩
  induction strokes generalizing x with
  | nil => exact ⟨h, rfl, fun head hhead => ⟨hhead, rfl⟩⟩
  | cons s rest ih =>
      have hrest := ih (sound_stroke h s)
      have hkeeps := x.keeps_stroke s
      refine ⟨hrest.1, hrest.2.session.trans hkeeps.session, fun head hhead => ?_⟩
      have hsent := hkeeps.sent head hhead
      have hlater := hrest.2.sent head hsent.1
      exact ⟨hlater.1, hlater.2.trans hsent.2⟩

/-! ### An upgrade -/

/-- The fields of an answer that accepts a handshake. -/
def switchFields (a : Accepted) : Headers :=
  [("upgrade", Bytes.ofText "websocket"), ("connection", Bytes.ofText "Upgrade"),
    ("sec-websocket-accept", Bytes.ofText a.acceptKey)] ++
  (a.protocol.map fun p => ("sec-websocket-protocol", Bytes.ofText p)).toList

-- What is agreed is readable, so it is always said.
theorem switchHeaders_of_negotiated {h : Headers} {protocols : Option String} {a : Accepted}
    (hok : negotiate h protocols = .ok a) : switchHeaders a = switchFields a := by
  unfold switchHeaders switchFields
  cases hp : a.protocol with
  | none => rfl
  | some p =>
      have hread := WebSocket.readable_of_negotiate hok hp
      dsimp only
      rw [if_pos ((all_isReadable_ofText p).2 hread)]
      rfl

/-- The head has these fields, each with its values here, and all others as they stood in
    the draft. Unless the connection stays open, or is handed over, the head says so. -/
def Carries (x : Exchange) (fields : Headers) (head : ResponseHead) : Prop :=
  ∀ name, head.headers.values name =
    if name = "connection" ∧ x.keepAlive = false ∧ head.status ≠ 101 then [Bytes.ofText "close"]
    else if fields.values name = [] then x.pending.headers.values name
    else fields.values name

/-- How a decision about a handshake is answered while the head is a draft: what the handler
    learns, the head that is sent, and the session that begins. -/
inductive Answers (x : Exchange) : Except Rejection Accepted → Except NetError Accepted →
    ResponseHead → Option Accepted → Prop where
  | version {head : ResponseHead} (hstatus : head.status = 426)
      (hfields : x.Carries [("sec-websocket-version", Bytes.ofText "13")] head) :
      Answers x (.error .version) (.error (.upgrade "unsupported version or subprotocol")) head none
  | badRequest {reason : String} {head : ResponseHead} (hstatus : head.status = 400)
      (hfields : x.Carries [] head) :
      Answers x (.error (.badRequest reason)) (.error (.upgrade reason)) head none
  | accepted {a : Accepted} {head : ResponseHead} (hstatus : head.status = 101)
      (hfields : x.Carries (switchFields a) head) (hgiven : x.withholds = none) :
      Answers x (.ok a) (.ok a) head (some a)
  /-- The connection is not handed over. -/
  | withheld {a : Accepted} {e : NetError} {head : ResponseHead} (hstatus : head.status = 101)
      (hfields : x.Carries (switchFields a) head) (hwithheld : x.withholds = some e) :
      Answers x (.ok a) (.error e) head none

/-- One exchange became another by an answer without a body. -/
structure Answered (x : Exchange) (head : ResponseHead) (y : Exchange) : Prop where
  incoming : y.incoming = x.incoming
  sent : y.sent = some head
  bodiless : y.bodiless = true
  record : y.sink.record = x.sink.record
  fails : ∀ n, y.sink.plan .write n ≠ none
  withholds : y.withholds = x.withholds

theorem Answered.sound {incoming : Incoming} {x y : Exchange} {head : ResponseHead}
    (h : Answered x head y) (hx : x.Sound incoming) (hdraft : x.sent = none) :
    y.Sound incoming := by
  refine sound_of_sent (h.incoming.trans hx.incoming) h.sent fun _ => ⟨?_, h.fails⟩
  have hwritten : y.sink.written = x.sink.written := by
    unfold Sink.written
    rw [h.record]
  exact hwritten.trans (hx.written hdraft)

/-- The head of an answer without a body. -/
def answerHead (x : Exchange) (status : Nat) (fields : Headers) : ResponseHead :=
  ResponseHead.onTheWire ⟨status, replaceHeaders x.pending.headers fields⟩ x.keepAlive

theorem answerHead_status (x : Exchange) (status : Nat) (fields : Headers) :
    (x.answerHead status fields).status = status :=
  onTheWire_status _ _

theorem answerHead_carries (x : Exchange) (status : Nat) (fields : Headers) :
    x.Carries fields (x.answerHead status fields) := by
  intro name
  rw [answerHead_status, answerHead, onTheWire_values, values_replaceHeaders]

theorem answered_amend {x : Exchange} (hx : x.sent = none) (status : Nat) (fields : Headers) :
    Answered x (x.answerHead status fields) ((x.amend status fields).flush true).2 ∧
      ((x.amend status fields).flush true).2.session = x.session := by
  rw [amend_early hx, flush,
    if_neg (not_headSent (x := { x with pending := ⟨status, _⟩ }) hx)]
  exact ⟨⟨rfl, rfl, rfl, rfl, x.breaks, rfl⟩, rfl⟩

theorem upgrade_late {x : Exchange} (hx : x.sent ≠ none) (protocols : Option String) :
    x.upgrade protocols = (.error (.upgrade "cannot upgrade after headers sent"), x) := by
  rcases Option.ne_none_iff_exists'.1 hx with ⟨head, hhead⟩
  rw [upgrade, if_pos (headSent_eq_true hhead)]

-- Behind the answer to a handshake that is accepted there is a session, if the connection is
-- handed over.
theorem answered_handOver {x y : Exchange} {head : ResponseHead} {a : Accepted}
    (h : Answered x head y) (hnone : y.session = none) (hstatus : head.status = 101)
    (hfields : x.Carries (switchFields a) head) :
    Answered x head (y.handOver a).2 ∧
      x.Answers (.ok a) (y.handOver a).1 head (y.handOver a).2.session := by
  rw [handOver, h.withholds]
  cases hwithholds : x.withholds with
  | some e =>
      refine ⟨h, ?_⟩
      rw [hnone]
      exact .withheld hstatus hfields hwithholds
  | none =>
      exact ⟨⟨h.incoming, h.sent, h.bodiless, h.record, h.fails, hwithholds.symm⟩,
        .accepted hstatus hfields hwithholds⟩

-- While the head is a draft an upgrade sends it, whatever the decision is.
theorem upgrade_early {incoming : Incoming} {x : Exchange} (h : x.Sound incoming)
    (hx : x.sent = none) (protocols : Option String) :
    ∃ head, Answered x head (x.upgrade protocols).2 ∧
      x.Answers (negotiate incoming.head.headers protocols) (x.upgrade protocols).1 head
        (x.upgrade protocols).2.session := by
  rw [← h.incoming, upgrade, if_neg (not_headSent hx)]
  cases hdecision : negotiate x.incoming.head.headers protocols with
  | error rejection =>
      cases rejection with
      | version =>
          dsimp only
          rw [reject_halves]
          have hanswered := answered_amend hx 426
            [("sec-websocket-version", Bytes.ofText WebSocket.supportedVersion)]
          rw [hanswered.2, h.session hx]
          exact ⟨_, hanswered.1, .version (answerHead_status _ _ _) (answerHead_carries _ _ _)⟩
      | badRequest reason =>
          dsimp only
          rw [reject_halves]
          have hanswered := answered_amend hx 400 []
          rw [hanswered.2, h.session hx]
          exact ⟨_, hanswered.1, .badRequest (answerHead_status _ _ _) (answerHead_carries _ _ _)⟩
  | ok a =>
      dsimp only
      have htaken : { x with upgradable := false }.sent = none := hx
      have hanswered := answered_amend htaken 101 (switchFields a)
      rw [h.upgradable hx, commitSwitch_halves, headSent_eq_false htaken,
        switchHeaders_of_negotiated hdecision]
      have hfound : Answered x (x.answerHead 101 (switchFields a))
          (({ x with upgradable := false }.amend 101 (switchFields a)).flush true).2 :=
        ⟨hanswered.1.incoming, hanswered.1.sent, hanswered.1.bodiless, hanswered.1.record,
          hanswered.1.fails, hanswered.1.withholds⟩
      exact ⟨_, answered_handOver hfound (hanswered.2.trans (h.session hx))
        (answerHead_status _ _ _) (answerHead_carries _ _ _)⟩

/-! ### All operations -/

theorem sessionsOf_upgrade (x : Exchange) (protocols : Option String) :
    x.sessionsOf (.handle (.upgrade protocols)) =
      match (x.upgrade protocols).1 with
      | .ok a => [a]
      | .error _ => [] := by
  rcases h : x.upgrade protocols with ⟨e | a, y⟩ <;> simp only [sessionsOf, perform, h]

-- An operation is an upgrade, or it is made of strokes and begins no session.
theorem channelTurn_cases (x : Exchange) (op : ChannelOp) :
    (∃ protocols, op = .handle (.upgrade protocols)) ∨
      x.Strokes (x.channelTurn op) ∧ x.sessionsOf op = [] := by
  cases op with
  | handle op =>
      by_cases hop : ∃ protocols, op = .upgrade protocols
      · rcases hop with ⟨protocols, rfl⟩
        exact .inl ⟨protocols, rfl⟩
      · have hperform := x.perform_strokes op fun protocols heq => hop ⟨protocols, heq⟩
        refine .inr ⟨hperform.1, ?_⟩
        have hanswer := hperform.2
        unfold sessionsOf
        dsimp only
        generalize (x.perform op).1 = answer at hanswer ⊢
        cases answer with
        | accepted a => exact absurd rfl (hanswer a)
        | _ => rfl
  | head op => exact .inr ⟨x.headTurn_strokes op, rfl⟩
  | abort e =>
      exact .inr ⟨(x.strokes_once (.read x.body.abandon x.reader)).trans
        (strokes_once _ (.fail (some e))), rfl⟩
  | loseClient => exact .inr ⟨x.strokes_once .loseClient, rfl⟩

/-- What an operation does to the head that was sent and to the session. -/
structure Turns (x : Exchange) (op : ChannelOp) (y : Exchange) : Prop where
  sent : ∀ head, x.sent = some head → y.sent = some head ∧ y.bodiless = x.bodiless
  session : y.session.toList = x.session.toList ++ x.sessionsOf op

theorem channelTurn_turns {incoming : Incoming} {x : Exchange} (h : x.Sound incoming)
    (op : ChannelOp) : (x.channelTurn op).Sound incoming ∧ x.Turns op (x.channelTurn op) := by
  rcases x.channelTurn_cases op with ⟨protocols, rfl⟩ | ⟨hstrokes, hnone⟩
  · have hturn : x.channelTurn (.handle (.upgrade protocols)) = (x.upgrade protocols).2 :=
      x.perform_upgrade protocols
    rw [hturn]
    by_cases hx : x.sent = none
    · rcases upgrade_early h hx protocols with ⟨head, hanswered, hanswers⟩
      refine ⟨hanswered.sound h hx, fun head' hhead => ?_, ?_⟩
      · rw [hx] at hhead
        cases hhead
      · -- There was no session before, and one begins if the handshake is accepted.
        rw [sessionsOf_upgrade, h.session hx]
        generalize negotiate incoming.head.headers protocols = decision at hanswers
        generalize (x.upgrade protocols).1 = answer at hanswers
        generalize (x.upgrade protocols).2.session = session at hanswers
        cases hanswers <;> rfl
    · have hlate := upgrade_late hx protocols
      rw [hlate]
      refine ⟨h, fun _ hhead => ⟨hhead, rfl⟩, ?_⟩
      rw [sessionsOf_upgrade, hlate]
      exact (List.append_nil _).symm
  · have hkept := sound_strokes h hstrokes
    refine ⟨hkept.1, hkept.2.sent, ?_⟩
    rw [hnone, List.append_nil, hkept.2.session]

theorem sound_startFor (codec : Codec) (settings : Settings) (incoming : Incoming)
    (frames : List BodyFrame) (ending : Option BodyEnd) :
    (startFor codec settings incoming frames ending).Sound incoming :=
  ⟨rfl, fun _ => rfl, fun _ => rfl, fun _ => rfl,
    fun _ => written_startFor codec settings incoming frames ending, by rintro ⟨⟩⟩

theorem sound_after {incoming : Incoming} (ops : List ChannelOp) : ∀ x : Exchange,
    x.Sound incoming → (x.afterOps ops).Sound incoming ∧
      ∀ head, x.sent = some head →
        (x.afterOps ops).sent = some head ∧ (x.afterOps ops).bodiless = x.bodiless := by
  induction ops with
  | nil => exact fun x h => ⟨h, fun head hhead => ⟨hhead, rfl⟩⟩
  | cons op rest ih =>
      intro x h
      have hturn := channelTurn_turns h op
      have hrest := ih (x.channelTurn op) hturn.1
      refine ⟨hrest.1, fun head hhead => ?_⟩
      have hsent := hturn.2.sent head hhead
      have hlater := hrest.2 head hsent.1
      exact ⟨hlater.1, hlater.2.trans hsent.2⟩

/-- The heads that were sent are those that are left in the exchange. -/
structure HeadsLeft (incoming : Incoming) (x : Exchange) (heads : List ResponseHead) : Prop where
  sound : x.Sound incoming
  left : heads = x.sent.toList

/-- The sessions that began are those that are left in the exchange. -/
structure SessionsLeft (incoming : Incoming) (x : Exchange) (sessions : List Accepted) : Prop where
  sound : x.Sound incoming
  left : sessions = x.session.toList

theorem headsLeft_turn {incoming : Incoming} (x : Exchange) (heads : List ResponseHead)
    (op : ChannelOp) (h : HeadsLeft incoming x heads) :
    HeadsLeft incoming (x.channelTurn op) (heads ++ x.headsOf op) := by
  have hturn := channelTurn_turns h.sound op
  refine ⟨hturn.1, ?_⟩
  rw [h.left]
  refine newHead_toList ?_
  cases hsent : x.sent with
  | none => exact .inl rfl
  | some head => exact .inr (hturn.2.sent head hsent).1

theorem sessionsLeft_turn {incoming : Incoming} (x : Exchange) (sessions : List Accepted)
    (op : ChannelOp) (h : SessionsLeft incoming x sessions) :
    SessionsLeft incoming (x.channelTurn op) (sessions ++ x.sessionsOf op) := by
  have hturn := channelTurn_turns h.sound op
  exact ⟨hturn.1, by rw [h.left, hturn.2.session]⟩

-- Of all the heads and sessions one is left to be seen in the end: no other was there.
theorem watch_after {incoming : Incoming} {x : Exchange} (h : x.Sound incoming)
    (hx : x.sent = none) (ops : List ChannelOp) :
    Schedule.watch channelTurn headsOf x ops = (x.afterOps ops).sent.toList ∧
      Schedule.watch channelTurn sessionsOf x ops = (x.afterOps ops).session.toList := by
  have hheads : HeadsLeft incoming (x.afterOps ops)
      ([] ++ Schedule.watch channelTurn headsOf x ops) :=
    Schedule.invariant_after headsLeft_turn x [] ⟨h, by rw [hx]; rfl⟩ ops
  have hsessions : SessionsLeft incoming (x.afterOps ops)
      ([] ++ Schedule.watch channelTurn sessionsOf x ops) :=
    Schedule.invariant_after sessionsLeft_turn x [] ⟨h, by rw [h.session hx]; rfl⟩ ops
  exact ⟨hheads.left, hsessions.left⟩

/-- Whatever is done to an exchange, one head is sent at most and one session begins at
    most. An upgrade behind the head fails and changes nothing. One before it sends the head
    that answers the handshake, a refusal or the switch of the protocol, and whatever is done
    later that stays the whole response: no chunk follows it. -/
theorem upgraded_at_most_once (codec : Codec) (settings : Settings) (incoming : Incoming)
    (frames : List BodyFrame) (ending : Option BodyEnd) (ops : List ChannelOp) :
    let x := Exchange.startFor codec settings incoming frames ending
    let y := x.afterOps ops
    Schedule.watch channelTurn headsOf x ops = y.sent.toList ∧
      Schedule.watch channelTurn sessionsOf x ops = y.session.toList ∧
      ∀ protocols,
        (y.sent ≠ none →
          y.upgrade protocols = (.error (.upgrade "cannot upgrade after headers sent"), y)) ∧
        (y.sent = none →
          ∃ head, y.newHead (y.upgrade protocols).2 = [head] ∧
            y.Answers (negotiate incoming.head.headers protocols) (y.upgrade protocols).1 head
              (y.upgrade protocols).2.session ∧
            ∀ later, ((y.upgrade protocols).2.afterOps later).response = ⟨head, [], .complete⟩ ∧
              ((y.upgrade protocols).2.afterOps later).sink.written = []) := by
  intro x y
  have hstart : x.Sound incoming := sound_startFor codec settings incoming frames ending
  have hy : y.Sound incoming := (sound_after ops x hstart).1
  have hwatch := watch_after hstart rfl ops
  refine ⟨hwatch.1, hwatch.2, fun protocols => ⟨fun hsent => upgrade_late hsent protocols, ?_⟩⟩
  intro hsent
  rcases upgrade_early hy hsent protocols with ⟨head, hanswered, hanswers⟩
  refine ⟨head, newHead_of_sent hsent hanswered.sent, hanswers, fun later => ?_⟩
  have hlater := sound_after later _ (hanswered.sound hy hsent)
  have hkept := hlater.2 head hanswered.sent
  have hbodiless := hkept.2.trans hanswered.bodiless
  refine ⟨?_, (hlater.1.mute hbodiless).written⟩
  rw [response, hkept.1]
  dsimp only
  rw [if_pos hbodiless]

/-- A request for a session in a version of the protocol without upgrades. -/
def oldRequest : Exchange :=
  .startFor (.steady .http10) ⟨true, .bounded 1, []⟩
    ⟨"7", ⟨"GET", "/ws", none, .http10, [("connection", Bytes.ofText "upgrade"),
      ("upgrade", Bytes.ofText "websocket"), ("sec-websocket-version", Bytes.ofText "13"),
      ("sec-websocket-key", Bytes.ofText "dGhlIHNhbXBsZSBub25jZQ==")]⟩, []⟩ [] none

-- The handshake is accepted and answered, and there is no session all the same.
theorem oldRequest_answered_without_session :
    oldRequest.sent = none ∧
      (oldRequest.upgrade none).1 = .error .httpCodec ∧
      (oldRequest.upgrade none).2.session = none ∧
      ∃ head, oldRequest.newHead (oldRequest.upgrade none).2 = [head] ∧ head.status = 101 ∧
        ((oldRequest.upgrade none).2.afterOps [.handle (.send [65])]).response =
          ⟨head, [], .complete⟩ := by
  rcases (upgraded_at_most_once (.steady .http10) ⟨true, .bounded 1, []⟩ oldRequest.incoming [] none
    []).2.2 none with ⟨-, hearly⟩
  rcases hearly rfl with ⟨head, hnew, hanswers, hlater⟩
  have hanswer : (oldRequest.upgrade none).1 = .error .httpCodec := by decide
  refine ⟨rfl, hanswer, rfl, head, hnew, ?_, (hlater [.handle (.send [65])]).1⟩
  change oldRequest.Answers _ (oldRequest.upgrade none).1 head _ at hanswers
  rw [hanswer] at hanswers
  generalize WebSocket.negotiate _ _ = decision at hanswers
  generalize Exchange.session _ = session at hanswers
  cases hanswers with
  | withheld hstatus _ _ => exact hstatus

end Exchange

end Http

end DemandNet
