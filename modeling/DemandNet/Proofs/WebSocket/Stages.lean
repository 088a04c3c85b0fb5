import DemandNet.Proofs.Connection.Pipeline
import DemandNet.Proofs.WebSocket.Outgoing

/-!
# Stages between Two Endpoints

What becomes of a message on its way from one session to another with the same pipeline.

The stages are passed in opposite directions at the two ends, so stages that undo each
other restore the payload. That is the way of a binary message. The payload of a text
message passes the stages at the receiving end only: it is put on the wire as it is, and
whatever the stages do to what comes in is done to a payload that never went out through
them. Neither end is wrong about the order or drops anything in between.

The wire is reliable and may be slow: what has arrived at one end is a prefix of what was
written at the other.

## Main definitions

* `payloadsIn`: The payloads of frames.
* `arrivalsOf`: The frames that arrive in a schedule.
* `Message.wired`, `Message.received`: The payload of a message on the wire, and as it is
  received.
* `Receiving`: What relates the frames that arrived to those that were read.

## Theorems

* `receiving_after`: What arrived was read or is still on the wire, unless the session ended.
* `messages_cross_in_order`: Messages arrive in order, staged at both ends if they are
  binary and at one end if they are text.
* `text_not_restored`: Stages that undo each other do not restore a text.
-/

namespace DemandNet

namespace WebSocket

open DemandNet.Connection (Pipeline Stage)
open DemandNet.Flow (Window)

/-! ### Messages through stages -/

/-- The payload of a message on the wire. -/
def Message.wired (p : Pipeline) : Message → Bytes
  | .binary payload => p.outbound payload
  | .text payload => payload

/-- The payload of a message as it is received. -/
def Message.received (p : Pipeline) (m : Message) : Bytes := p.inbound (m.wired p)

theorem received_binary (p : Pipeline)
    (h : ∀ s ∈ p, ∀ payload, s.inbound (s.outbound payload) = payload) (payloads : List Bytes) :
    (payloads.map Message.binary).map (Message.received p) = payloads := by
  rw [List.map_map]
  refine (List.map_congr_left fun payload _ => ?_).trans (List.map_id payloads)
  exact Pipeline.inbound_outbound p h payload

/-! ### What arrives -/

/-- The payloads of frames. -/
def payloadsIn (fs : List Frame) : List Bytes := fs.filterMap Session.payload?

/-- The frame that arrives in a turn. -/
def Turn.arrived? : Turn → Option Frame
  | .arrive f => some f
  | _ => none

/-- The frames that arrive in a schedule. -/
def arrivalsOf (ts : List Turn) : List Frame := ts.filterMap Turn.arrived?

theorem payloadsIn_append (fs gs : List Frame) :
    payloadsIn (fs ++ gs) = payloadsIn fs ++ payloadsIn gs := List.filterMap_append

theorem payloadsIn_dataIn (fs : List Frame) : payloadsIn (dataIn fs) = payloadsIn fs := by
  induction fs with
  | nil => rfl
  | cons f rest ih =>
      cases f with
      | text payload | binary payload => exact congrArg (payload :: ·) ih
      | ping _ | pong _ | close _ => exact ih

theorem payloadsIn_frames (p : Pipeline) (ms : List Message) :
    payloadsIn (ms.map (Message.frame p)) = ms.map (Message.wired p) := by
  induction ms with
  | nil => rfl
  | cons m rest ih =>
      cases m <;> exact congrArg _ ih

/-! ### What is read of it -/

section Codecs

variable {c : Codec}

theorem write_inbox {s s' : Socket} {f : Frame} (h : s.write? f = some s') :
    s'.inbox = s.inbox := by
  unfold Socket.write? at h
  split at h <;> cases h
  rfl

theorem flush_inbox (c : Codec) (s : Socket) : (c.flush s).2.2.inbox = s.inbox := by
  unfold Codec.flush
  dsimp only
  split
  · split <;> rfl
  · split
    · rfl
    · rename_i hwrite
      split <;> exact write_inbox hwrite

theorem close_inbox (c : Codec) (s : Socket) (reason : Option CloseReason) :
    (c.close s reason).2.2.inbox = s.inbox := by
  unfold Codec.close
  dsimp only
  split
  · split
    · rfl
    · rename_i hwrite
      exact (flush_inbox _ _).trans (write_inbox hwrite)
  · exact flush_inbox c s

theorem send_inbox (c : Codec) (s : Socket) (f : Frame) : (c.send s f).2.2.inbox = s.inbox := by
  unfold Codec.send
  split
  · rfl
  split
  · rfl
  split
  · exact close_inbox c s _
  · split
    · rfl
    · rename_i hwrite
      exact (flush_inbox _ _).trans (write_inbox hwrite)

theorem leave_inbox (s : Session) (sock : Socket) (now : Nat) (waits : Bool) :
    (s.leave sock now waits).2.inbox.frames = sock.inbox.frames := by
  rcases leave_eq s sock now waits with ⟨phase, sock', -, hinbox, -, hleave⟩
  rw [hleave]
  exact hinbox

-- What a frame carries is read, unless the frame has a defect.
theorem receive_payloads (hc : c.IsQuiet) (f : Frame) :
    ∃ lost, payloadsIn [f] = payloadsOf (c.receive f).1.delivery ++ lost ∧
      ((∀ e, (c.receive f).1 ≠ .failed e) → lost = []) := by
  unfold Codec.receive
  rw [if_neg (by rw [hc.canRead]; exact Bool.false_ne_true)]
  cases f.defect? with
  | some e => exact ⟨payloadsIn [f], rfl, fun h => absurd rfl (h e)⟩
  | none =>
      refine ⟨[], ?_, fun _ => rfl⟩
      rw [List.append_nil]
      cases f with
      | text _ | binary _ | ping _ | pong _ => rfl
      | close reason =>
          dsimp only
          split <;> rfl

theorem take_payloads (hc : c.IsQuiet) (s : Socket) :
    ∃ lost, payloadsIn s.inbox.frames =
        payloadsOf (c.take s).1.delivery ++ lost ++ payloadsIn (c.take s).2.2.inbox.frames ∧
      ((∀ e, (c.take s).1 ≠ .failed e) → lost = []) := by
  unfold Codec.take
  cases hframes : s.inbox.frames with
  | cons f rest =>
      rcases receive_payloads hc f with ⟨lost, hpayloads, hlost⟩
      exact ⟨lost, (payloadsIn_append [f] rest).trans (congrArg (· ++ _) hpayloads), hlost⟩
  | nil =>
      refine ⟨[], ?_, fun _ => rfl⟩
      rw [List.append_nil]
      dsimp only
      split
      · exact (congrArg payloadsIn hframes).symm
      · rw [hframes]
        split <;> rfl

-- Whatever a side reads, it takes from the front.
theorem read_suffix (c : Codec) (s : Socket) :
    (c.read s).2.2.inbox.frames <:+ s.inbox.frames := by
  have htake : ∀ (c : Codec) (s : Socket), (c.take s).2.2.inbox.frames <:+ s.inbox.frames := by
    intro c s
    unfold Codec.take
    split
    · rename_i f rest hframes
      rw [hframes]
      exact List.suffix_cons f rest
    · split <;> exact List.suffix_refl _
  unfold Codec.read
  split
  · exact List.suffix_refl _
  split
  · exact htake c s
  have hflush := flush_inbox c s
  generalize c.flush s = flushed at hflush
  rcases flushed with ⟨r, c', s'⟩
  rw [← hflush]
  cases r with
  | ok u => exact htake c' s'
  | error e => exact List.suffix_refl _

end Codecs

section Services

variable {d : Duet}

theorem payloadsOf_accepted (payloads : List Bytes) :
    payloadsOf (payloads.map Delivery.accepted) = [] := by
  induction payloads with
  | nil => rfl
  | cons payload rest ih => exact ih

-- Only a service reads.
theorem payloadsOf_aside (d : Duet) (t : Turn) (ht : ∀ what, t ≠ .serve what) :
    payloadsOf (d.delivery t) = [] := by
  cases t with
  | serve what => exact absurd rfl (ht what)
  | poll =>
      unfold Duet.delivery
      dsimp only
      cases d.poll <;> rfl
  | arrive _ | hangUp | breakOff | collect | pass _ | attach _ | request _ | cancel | submit _
  | release | stop | linger => rfl

theorem payloadsOf_serve (what : Service) :
    payloadsOf (d.delivery (.serve what)) =
      payloadsOf (if what = .frame then d.reading else []) := by
  unfold Duet.delivery
  rw [payloadsOf_append, payloadsOf_accepted, List.append_nil]

-- Serving a request, demand or the signal to stop takes nothing off the wire.
theorem serve_inbox (s : Session) (sock : Socket) (now : Nat) (stopping : Bool) (what : Service)
    (hwhat : what ≠ .frame) (next : Session × Socket)
    (h : s.serve sock now stopping what = some next) :
    next.2.inbox.frames = sock.inbox.frames := by
  cases what with
  | frame => exact absurd rfl hwhat
  | demand =>
      rcases Option.map_eq_some_iff.1 h with ⟨s', -, rfl⟩
      rfl
  | offer =>
      rcases Option.map_eq_some_iff.1 h with ⟨payload, -, rfl⟩
      rfl
  | stop =>
      unfold Session.serve Session.serveStop at h
      dsimp only at h
      split at h <;> cases h
      exact leave_inbox _ _ _ _
  | request =>
      unfold Session.serve Session.serveRequest at h
      dsimp only at h
      split at h
      · have hsend := send_inbox s.codec sock (s.encode ‹Message›)
        cases h
        split
        · rw [hsend]
        · rw [leave_inbox, hsend]
      · cases h
        rw [leave_inbox, close_inbox]
      · split at h <;> cases h
        rw [leave_inbox, close_inbox]

-- What is left on the wire when the session serves the other side; a failure ends the session.
theorem serveFrame_reads {s : Session} {sock : Socket} {now : Nat} {next : Session × Socket}
    (h : s.serveFrame sock now = some next) :
    next.2.inbox.frames = (s.codec.read sock).2.2.inbox.frames ∧
      ∀ e, (s.codec.read sock).1 = .failed e → next.1.phase ≠ .running := by
  unfold Session.serveFrame at h
  split at h
  · cases h
  generalize s.codec.read sock = found at h ⊢
  rcases found with ⟨r, codec, sock'⟩
  have hflush := congrArg Wire.frames (flush_inbox codec sock')
  cases r with
  | pending =>
      dsimp only at h
      split at h <;> cases h
      exact ⟨rfl, by rintro e ⟨⟩⟩
  | finished =>
      cases h
      exact ⟨leave_inbox _ _ _ _, by rintro e ⟨⟩⟩
  | failed e =>
      cases h
      refine ⟨leave_inbox _ _ _ _, fun _ _ => ?_⟩
      rcases leave_eq { s with codec }.failProducing sock' now false with
        ⟨phase, _, hphase, -, -, hleave⟩
      rw [hleave]
      exact hphase
  | frame f =>
      refine ⟨?_, by rintro e ⟨⟩⟩
      cases f with
      | close reason =>
          cases h
          exact (leave_inbox _ _ _ _).trans hflush
      | ping payload =>
          cases h
          exact hflush
      | pong _ | text _ | binary _ =>
          cases h
          rfl

-- What a service of the other side takes off the wire is what it reads, and it reads on only if
-- nothing is wrong with that.
theorem serve_frame_payloads (hr : d.session.Runs) :
    let next := d.acted (d.session.serveFrame d.socket d.now)
    ∃ lost, payloadsIn d.socket.inbox.frames =
        payloadsOf d.reading ++ lost ++ payloadsIn next.socket.inbox.frames ∧
      (next.session.phase = .running → lost = []) := by
  rcases take_payloads hr.quiet d.socket with ⟨lost, htake, hlost⟩
  rw [← hr.quiet.read_eq] at htake hlost
  cases hserve : d.session.serveFrame d.socket d.now with
  | none =>
      have hreading : d.reading = [] := by
        unfold Duet.reading
        rw [if_neg (by rw [hserve]; rintro ⟨_, ⟨⟩⟩)]
      rw [hreading]
      exact ⟨[], rfl, fun _ => rfl⟩
  | some next =>
      have hreading : d.reading = (d.session.codec.read d.socket).1.delivery := by
        unfold Duet.reading
        rw [if_pos ⟨hr.phase, by rw [hserve]; rfl⟩]
      rcases serveFrame_reads hserve with ⟨hinbox, hfailed⟩
      refine ⟨lost, ?_, fun hrun => hlost fun e he => hfailed e he hrun⟩
      rw [hreading, htake]
      change _ = _ ++ payloadsIn next.2.inbox.frames
      rw [hinbox]

end Services

/-- What relates the frames that arrived to those that were read: the others are still on
    the wire, or were lost, because one of them had a defect or the session no longer ran when
    they were taken off. -/
def Receiving (d : Duet) (h : List Delivery) (arrived : List Frame) : Prop :=
  ∃ lost, payloadsIn arrived = payloadsOf h ++ lost ++ payloadsIn d.socket.inbox.frames ∧
    (d.session.phase = .running → lost = [])

section Receivers

variable {p : Pipeline} {d : Duet} {h : List Delivery} {arrived : List Frame} {t : Turn}

-- A turn in which nothing arrives and nothing is read.
theorem Receiving.still (hi : Receiving d h arrived)
    (hinbox : (d.turn t).socket.inbox.frames = d.socket.inbox.frames)
    (hphase : (d.turn t).session.phase = .running → d.session.phase = .running)
    (hnone : payloadsOf (d.delivery t) = []) :
    Receiving (d.turn t) (h ++ d.delivery t) arrived := by
  rcases hi with ⟨lost, hpayloads, hlost⟩
  refine ⟨lost, ?_, fun hrun => hlost (hphase hrun)⟩
  rw [payloadsOf_append, hnone, List.append_nil, hinbox]
  exact hpayloads

theorem receiving_consumer (hi : Receiving d h arrived) (ht : t.isOfConsumer = true) :
    Receiving (d.turn t) (h ++ d.delivery t) arrived := by
  rcases consumer_turn d t ht with ⟨bridge, consumer, hturn⟩
  refine hi.still ?_ ?_ (payloadsOf_aside d t ?_)
  · rw [hturn]
  · rw [hturn]
    exact id
  · rintro what rfl
    cases ht

theorem receiving_serve (hd : Delivering p d h) (hi : Receiving d h arrived) (what : Service) :
    Receiving (d.turn (.serve what)) (h ++ d.delivery (.serve what)) arrived := by
  by_cases hrun : d.session.phase = .running
  · have hturn := d.serve_of_running what hrun
    by_cases hwhat : what = .frame
    · subst hwhat
      rcases hi with ⟨lost, hpayloads, hlost⟩
      rcases serve_frame_payloads (hd.runs hrun).1 with ⟨lostNow, htaken, hlostNow⟩
      rw [hturn]
      refine ⟨lostNow, ?_, hlostNow⟩
      rw [hlost hrun, List.append_nil, htaken] at hpayloads
      rw [payloadsOf_append, payloadsOf_serve, if_pos rfl]
      simp only [List.append_assoc] at hpayloads ⊢
      exact hpayloads
    · refine hi.still ?_ (fun _ => hrun) ?_
      · rw [hturn]
        cases hserve : d.session.serve d.socket d.now d.stopping what with
        | none => rfl
        | some next => exact serve_inbox _ _ _ _ what hwhat next hserve
      · rw [payloadsOf_serve, if_neg hwhat]
        rfl
  · rcases serve_over what hrun with ⟨hturn, hnone⟩
    rw [hturn, hnone, List.append_nil]
    exact hi

-- A session that waits for the answer to its close loses what is sent to it until then.
theorem receiving_linger (hi : Receiving d h arrived) :
    Receiving (d.turn .linger) (h ++ d.delivery .linger) arrived := by
  unfold Duet.turn Duet.delivery
  dsimp only
  rw [List.append_nil]
  cases hphase : d.session.phase with
  | running | ended => exact hi
  | lingering deadline =>
      dsimp only
      cases hlinger : d.session.linger d.socket d.now deadline with
      | none => exact hi
      | some next =>
          have hover : d.session.phase ≠ .running := by
            rw [hphase]
            rintro ⟨⟩
          rcases linger_alike _ _ _ _ next hover hlinger with ⟨hsame, -⟩
          have hsuffix : next.2.inbox.frames <:+ d.socket.inbox.frames := by
            have hread := read_suffix d.session.codec d.socket
            rcases linger_cases _ _ _ _ next hlinger with rfl | rfl <;> exact hread
          rcases hsuffix with ⟨taken, htaken⟩
          rcases hi with ⟨lost, hpayloads, -⟩
          refine ⟨lost ++ payloadsIn taken, ?_, fun hrun => absurd (hsame.phase.1 hrun) hover⟩
          rw [hpayloads, ← htaken, payloadsIn_append, ← List.append_assoc, ← List.append_assoc]
          rfl

theorem receiving_turn (hd : Delivering p d h) (hi : Receiving d h arrived) (t : Turn) :
    Receiving (d.turn t) (h ++ d.delivery t) (arrived ++ t.arrived?.toList) := by
  cases t with
  | arrive f =>
      rcases hi with ⟨lost, hpayloads, hlost⟩
      refine ⟨lost, ?_, hlost⟩
      change payloadsIn (arrived ++ [f]) =
        payloadsOf (h ++ []) ++ lost ++ payloadsIn (d.socket.inbox.frames ++ [f])
      rw [payloadsIn_append, payloadsIn_append, hpayloads, List.append_nil, List.append_assoc]
  | serve what => exact (List.append_nil arrived).symm ▸ receiving_serve hd hi what
  | linger => exact (List.append_nil arrived).symm ▸ receiving_linger hi
  | hangUp | breakOff | collect | pass _ | stop | release =>
      exact (List.append_nil arrived).symm ▸ hi.still rfl id rfl
  | submit op =>
      rcases submit_alike d.session op with ⟨hsame, -⟩
      exact (List.append_nil arrived).symm ▸ hi.still rfl hsame.phase.1 rfl
  | attach _ | request _ | poll | cancel =>
      exact (List.append_nil arrived).symm ▸ receiving_consumer hi rfl

end Receivers

theorem receiving_after (role : Role) (p : Pipeline) (window : Window) (keepAlive : Bool)
    (ts : List Turn) :
    Receiving ((Duet.facing role p window keepAlive).after ts)
      ((Duet.facing role p window keepAlive).watch Duet.delivery ts) (arrivalsOf ts) := by
  induction ts using List.reverseRecOn with
  | nil => exact ⟨[], rfl, fun _ => rfl⟩
  | append_singleton ts t ih =>
      have harrived : arrivalsOf (ts ++ [t]) = arrivalsOf ts ++ t.arrived?.toList := by
        unfold arrivalsOf
        rw [List.filterMap_append]
        cases t <;> rfl
      rw [Duet.after_concat, Duet.watch_concat, harrived]
      exact receiving_turn (delivering_after role p window keepAlive ts) ih t

/-! ### From one end to the other -/

-- The messages that were acknowledged at one end, and no others, are received at the other,
-- in order and as far as their frames have arrived and were read while that end ran. All of
-- them pass the stages on the way in, but only binary ones pass them on the way out. So
-- stages that undo each other restore binary messages.
theorem messages_cross_in_order (p : Pipeline) (role role' : Role) (window window' : Window)
    (keepAlive keepAlive' : Bool) (ts us : List Turn)
    (hwire : arrivalsOf us <+: (Duet.facing role p window keepAlive).watch Duet.written ts) :
    let d := (Duet.facing role p window keepAlive).after ts
    let written := (Duet.facing role p window keepAlive).watch Duet.written ts
    let sent := acknowledged ((opsOf ts).zip (d.session.answers.map Prod.snd))
    let e := (Duet.facing role' p window' keepAlive').after us
    let h := (Duet.facing role' p window' keepAlive').watch Duet.delivery us
    let received := (account h).yielded ++ e.session.bridge.items ++ e.session.parked.toList
    d.session.answers.map Prod.fst = List.range d.session.answers.length ∧
      dataIn written = sent.map (Message.frame p) ∧
      sent <+: messagesOf (opsOf ts) ∧
      (d.session.phase = .running → d.session.queue = [] → sent = messagesOf (opsOf ts)) ∧
      received <+: sent.map (Message.received p) ∧
      (arrivalsOf us = written → e.session.phase = .running → dataIn e.socket.inbox.frames = [] →
        received = sent.map (Message.received p)) ∧
      ((∀ s ∈ p, ∀ payload, s.inbound (s.outbound payload) = payload) →
        ∀ payloads, sent = payloads.map Message.binary → received <+: payloads) := by
  intro d written sent e h received
  rcases sent_after role p window keepAlive ts with ⟨htickets, hdata, hpart, hwhole⟩
  have hi := delivering_after role' p window' keepAlive' us
  rcases receiving_after role' p window' keepAlive' us with ⟨lost, harrived, hlost⟩
  have hwired : payloadsIn written = sent.map (Message.wired p) := by
    rw [← payloadsIn_dataIn, hdata, payloadsIn_frames]
  have hreceived : (payloadsOf h).map p.inbound = received := by
    have hconserved := hi.conserved
    rw [hi.pipeline, hi.hosted.order] at hconserved
    exact hconserved
  have hcross : received <+: sent.map (Message.received p) := by
    have hread : payloadsOf h <+: payloadsIn written := by
      refine List.IsPrefix.trans ?_ (hwire.filterMap Session.payload?)
      refine ⟨lost ++ payloadsIn e.socket.inbox.frames, ?_⟩
      rw [← List.append_assoc]
      exact harrived.symm
    rw [hwired] at hread
    have hstaged := hread.map p.inbound
    rw [hreceived, List.map_map] at hstaged
    exact hstaged
  refine ⟨htickets, hdata, hpart, hwhole, hcross, fun hall hrun hnone => ?_,
    fun hinverse payloads hbinary => ?_⟩
  · have hread : payloadsOf h = sent.map (Message.wired p) := by
      rw [hall, hlost hrun, List.append_nil, ← payloadsIn_dataIn e.socket.inbox.frames, hnone,
        hwired] at harrived
      exact (List.append_nil _).symm.trans harrived.symm
    rw [← hreceived, hread, List.map_map]
    rfl
  · rw [hbinary, received_binary p hinverse] at hcross
    exact hcross

/-- A pipeline of one stage, which turns payloads around. -/
def turnaround : Pipeline := [Stage.silent "reverse" List.reverse List.reverse]

theorem turnaround_inverse :
    ∀ s ∈ turnaround, ∀ payload, s.inbound (s.outbound payload) = payload := by
  intro s hs payload
  cases List.mem_singleton.1 hs
  exact List.reverse_reverse payload

/-- Messages are sent, one at a time. -/
def sending (ms : List Message) : List Turn :=
  ms.flatMap fun m => [.submit (.send m), .serve .request]

/-- Frames arrive and are read, one at a time, by a consumer that asks for each. -/
def reading (fs : List Frame) : List Turn :=
  .attach .manual :: fs.flatMap fun f => [.request 1, .arrive f, .serve .frame, .poll]

theorem binary_and_text_cross :
    let start := Duet.facing .server turnaround (.bounded 1) true
    let other := Duet.facing .client turnaround (.bounded 1) true
    let ts := sending [.binary [1, 2, 3], .text [97, 98, 99]]
    let us := reading [.binary [3, 2, 1], .text [97, 98, 99]]
    arrivalsOf us <+: start.watch Duet.written ts ∧
      (account (other.watch Duet.delivery us)).yielded ++ (other.after us).session.bridge.items ++
        (other.after us).session.parked.toList = [[1, 2, 3], [99, 98, 97]] :=
  ⟨List.prefix_refl _,
    (messages_cross_in_order turnaround .server .client (.bounded 1) (.bounded 1) true true
      (sending [.binary [1, 2, 3], .text [97, 98, 99]])
      (reading [.binary [3, 2, 1], .text [97, 98, 99]])
      (List.prefix_refl _)).2.2.2.2.2.1 rfl rfl rfl⟩

-- The text is acknowledged, but it is on the wire as it was given and is received reversed.
theorem text_not_restored :
    let start := Duet.facing .server turnaround (.bounded 1) true
    let other := Duet.facing .client turnaround (.bounded 1) true
    let text : Bytes := [97, 98, 99]
    let ts := sending [.text text]
    let us := reading (start.watch Duet.written ts)
    (∀ s ∈ turnaround, ∀ payload, s.inbound (s.outbound payload) = payload) ∧
      acknowledged ((opsOf ts).zip ((start.after ts).session.answers.map Prod.snd)) =
        [.text text] ∧
      start.watch Duet.written ts ≠ [.text (turnaround.outbound text)] ∧
      (account (other.watch Duet.delivery us)).yielded ≠ [text] := by
  intro start other text ts us
  have hwritten : start.watch Duet.written ts = [.text text] := rfl
  have hyielded : (account (other.watch Duet.delivery us)).yielded = [[99, 98, 97]] := by decide
  refine ⟨turnaround_inverse, rfl, ?_, ?_⟩
  · rw [hwritten]
    decide
  · rw [hyielded]
    decide

end WebSocket

end DemandNet
