import DemandNet.Proofs.WebSocket.Delivery
import Mathlib.Data.List.Induction

/-!
# Outgoing Messages

What a session puts on the wire, and which of its requests that settles.

Requests are numbered as they come and served in that order. A message that is served puts
one frame on the wire, or finds the other side gone and ends the session; whatever ends
the session answers all that is still queued. So the answers are given in the order of the
requests, and the frames that carry data are those of the messages that were answered with
success. Everything else that is written is a signal: pongs and closes, which the codec
owes the other side.

`Dispatches` says this of two states of a session, whether there is one turn between them
or a whole schedule; `Dispatches.trans` puts the turns together.

## Main definitions

* `Duet.written`: What a turn puts on the wire.
* `dataIn`: The frames that carry data.
* `Turn.asked?`, `opsOf`: The requests that are made.
* `messagesOf`, `acknowledged`: The messages among requests, and those that were sent.
* `Message.frame`: The frame that a message becomes.
* `Codec.OwesNoData`, `Socket.Signals`: What a codec does by itself.
* `Settled`: A request with its answer.
* `Dispatches`: What happened to requests and messages between two states.

## Theorems

* `serve_goes`, `linger_goes`: A step of the session settles requests in order.
* `dispatches_after`: A schedule does.
* `sent_after`: What is on the wire after a schedule, by the answers that were given.
* `sendAll_after`: Messages sent one after the other are requests of a schedule.
-/

namespace DemandNet

namespace WebSocket

/-- The frames that carry data. -/
def dataIn (fs : List Frame) : List Frame := fs.filter fun f => (Session.payload? f).isSome

/-- What a turn puts on the wire. -/
def Duet.written (d : Duet) (t : Turn) : List Frame :=
  (d.turn t).socket.outbox.frames.drop d.socket.outbox.frames.length

/-- The request that a turn makes. -/
def Turn.asked? : Turn → Option SessionOp
  | .submit op => some op
  | _ => none

/-- The requests that a schedule makes. -/
def opsOf (ts : List Turn) : List SessionOp := ts.filterMap Turn.asked?

/-- The messages that are to be sent. -/
def messagesOf (ops : List SessionOp) : List Message :=
  ops.filterMap fun
    | .send m => some m
    | .close => none

/-- The messages that were sent, given what became of the requests. -/
def acknowledged (outcomes : List (SessionOp × Except NetError Unit)) : List Message :=
  outcomes.filterMap fun
    | (.send m, .ok ()) => some m
    | _ => none

/-- The frame that a message becomes on its way through a pipeline. -/
def Message.frame (p : Connection.Pipeline) : Message → Frame
  | .binary payload => .binary (p.outbound payload)
  | .text payload => .text payload

theorem dataIn_append (fs gs : List Frame) : dataIn (fs ++ gs) = dataIn fs ++ dataIn gs :=
  List.filter_append fs gs

theorem opsOf_append (ts us : List Turn) : opsOf (ts ++ us) = opsOf ts ++ opsOf us :=
  List.filterMap_append

theorem messagesOf_append (ops ops' : List SessionOp) :
    messagesOf (ops ++ ops') = messagesOf ops ++ messagesOf ops' := List.filterMap_append

theorem acknowledged_append (rs rs' : List (SessionOp × Except NetError Unit)) :
    acknowledged (rs ++ rs') = acknowledged rs ++ acknowledged rs' := List.filterMap_append

theorem encode_eq_frame (s : Session) (m : Message) : s.encode m = m.frame s.pipeline := by
  cases m <;> rfl

theorem payload_of_frame (p : Connection.Pipeline) (m : Message) :
    (Session.payload? (m.frame p)).isSome = true := by
  cases m <;> rfl

theorem dataIn_frame (p : Connection.Pipeline) (m : Message) :
    dataIn [m.frame p] = [m.frame p] := by
  cases m <;> rfl

theorem dataIn_of_control {f : Frame} (hf : Session.payload? f = none) : dataIn [f] = [] := by
  cases f with
  | text _ | binary _ => cases hf
  | ping _ | pong _ | close _ => rfl

/-! ### What a codec does by itself -/

/-- What is owed carries no data. -/
def Codec.OwesNoData (c : Codec) : Prop := ∀ f, c.owed = some f → Session.payload? f = none

/-- Nothing was written in between but frames that carry no data. -/
def Socket.Signals (s s' : Socket) : Prop :=
  ∃ fs, s'.outbox.frames = s.outbox.frames ++ fs ∧ dataIn fs = []

theorem Socket.Signals.of_eq {s s' : Socket} (h : s'.outbox.frames = s.outbox.frames) :
    s.Signals s' := ⟨[], h.trans (List.append_nil _).symm, rfl⟩

theorem Socket.Signals.refl (s : Socket) : s.Signals s := .of_eq rfl

theorem Socket.Signals.trans {s s' s'' : Socket} (h : s.Signals s') (h' : s'.Signals s'') :
    s.Signals s'' := by
  rcases h with ⟨fs, hframes, hdata⟩
  rcases h' with ⟨gs, hframes', hdata'⟩
  refine ⟨fs ++ gs, ?_, ?_⟩
  · rw [hframes', hframes, List.append_assoc]
  · rw [dataIn_append, hdata, hdata']
    rfl

theorem write_outbox {s s' : Socket} {f : Frame} (h : s.write? f = some s') :
    s'.outbox.frames = s.outbox.frames ++ [f] := by
  unfold Socket.write? at h
  split at h <;> cases h
  rfl

theorem write_signals {s s' : Socket} {f : Frame} (hf : Session.payload? f = none)
    (h : s.write? f = some s') : s.Signals s' := ⟨[f], write_outbox h, dataIn_of_control hf⟩

section Codecs

variable {c : Codec}

theorem Codec.IsQuiet.owesNoData (hc : c.IsQuiet) : c.OwesNoData := by
  intro f hf
  rw [hc.2] at hf
  cases hf

theorem flush_signals (hc : c.OwesNoData) (s : Socket) :
    (c.flush s).2.1.OwesNoData ∧ s.Signals (c.flush s).2.2 := by
  have hpaid : ∀ handshake, Codec.OwesNoData { c with owed := none, handshake } :=
    fun _ f hf => by cases hf
  unfold Codec.flush
  cases howed : c.owed with
  | none =>
      dsimp only
      split
      · exact ⟨hpaid _, .refl s⟩
      · exact ⟨hc, .refl s⟩
  | some f =>
      dsimp only
      cases hwrite : s.write? f with
      | none => exact ⟨hpaid _, .refl s⟩
      | some s' =>
          have hsignals := write_signals (hc f howed) hwrite
          dsimp only
          split <;> exact ⟨hpaid _, hsignals⟩

theorem close_signals (hc : c.OwesNoData) (s : Socket) (reason : Option CloseReason) :
    (c.close s reason).2.1.OwesNoData ∧ s.Signals (c.close s reason).2.2 := by
  unfold Codec.close
  split
  · dsimp only
    cases hwrite : s.write? (.close reason) with
    | none => exact ⟨hc, .refl s⟩
    | some s' =>
        have hflush := flush_signals (c := { c with handshake := .closedByUs }) hc s'
        exact ⟨hflush.1, (write_signals rfl hwrite).trans hflush.2⟩
  · exact flush_signals hc s

theorem receive_owesNoData (hc : c.OwesNoData) (f : Frame) : (c.receive f).2.OwesNoData := by
  unfold Codec.receive
  split
  · exact hc
  cases f.defect? with
  | some e => exact hc
  | none =>
      cases f with
      | text _ | binary _ | pong _ => exact hc
      | ping payload =>
          dsimp only
          split
          · rintro _ ⟨⟩
            rfl
          · exact hc
      | close reason =>
          dsimp only
          split
          · rintro _ ⟨⟩
            rfl
          · exact hc

theorem take_signals (hc : c.OwesNoData) (s : Socket) :
    (c.take s).2.1.OwesNoData ∧ s.Signals (c.take s).2.2 := by
  unfold Codec.take
  split
  · exact ⟨receive_owesNoData hc _, .of_eq rfl⟩
  · split <;> exact ⟨hc, .refl s⟩

-- What a side owes is sent before it reads, and reading makes it owe a pong or a close.
theorem read_signals (hc : c.OwesNoData) (s : Socket) :
    (c.read s).2.1.OwesNoData ∧ s.Signals (c.read s).2.2 := by
  unfold Codec.read
  split
  · exact ⟨hc, .refl s⟩
  split
  · exact take_signals hc s
  rcases flush_signals hc s with ⟨howes, hsignals⟩
  generalize c.flush s = flushed at howes hsignals
  rcases flushed with ⟨r, c', s'⟩
  cases r with
  | error e => exact ⟨howes, hsignals⟩
  | ok u =>
      have htake := take_signals howes s'
      exact ⟨htake.1, hsignals.trans htake.2⟩

end Codecs

/-! ### What happens to requests -/

/-- A request with its answer. -/
structure Settled where
  ticket : Nat
  op : SessionOp
  result : Except NetError Unit

namespace Settled

/-- What was asked. -/
def request (r : Settled) : SessionRequest := ⟨r.ticket, r.op⟩

/-- What was answered. -/
def answer (r : Settled) : Nat × Except NetError Unit := (r.ticket, r.result)

/-- What became of it. -/
def outcome (r : Settled) : SessionOp × Except NetError Unit := (r.op, r.result)

/-- A request that was queued at the end, and its answer. -/
def dropped (r : SessionRequest) : Settled := ⟨r.ticket, r.op, Session.droppedAnswer r.op⟩

end Settled

/-- Requests with the tickets that they are given. -/
def numbered (issued : Nat) (ops : List SessionOp) : List SessionRequest :=
  ops.mapIdx fun i op => ⟨issued + i, op⟩

theorem numbered_append (issued : Nat) (ops ops' : List SessionOp) :
    numbered issued (ops ++ ops') =
      numbered issued ops ++ numbered (issued + ops.length) ops' := by
  unfold numbered
  rw [List.mapIdx_append]
  congr 2
  funext i op
  rw [Nat.add_assoc, Nat.add_comm ops.length]

theorem ops_numbered (issued : Nat) (ops : List SessionOp) :
    (numbered issued ops).map SessionRequest.op = ops := by
  refine List.ext_getElem ?_ fun i hi hi' => ?_
  · rw [List.length_map, numbered, List.length_mapIdx]
  · rw [List.getElem_map]
    unfold numbered
    rw [List.getElem_mapIdx]

theorem tickets_numbered (ops : List SessionOp) :
    (numbered 0 ops).map SessionRequest.ticket = List.range ops.length := by
  refine List.ext_getElem ?_ fun i hi hi' => ?_
  · rw [List.length_map, numbered, List.length_mapIdx, List.length_range]
  · rw [List.getElem_map, List.getElem_range]
    unfold numbered
    rw [List.getElem_mapIdx, Nat.zero_add]

theorem acknowledged_dropped (q : List SessionRequest) :
    acknowledged ((q.map Settled.dropped).map Settled.outcome) = [] := by
  induction q with
  | nil => rfl
  | cons r rest ih =>
      rcases r with ⟨t, op⟩
      cases op <;> exact ih

theorem request_dropped (q : List SessionRequest) :
    (q.map Settled.dropped).map Settled.request = q := by
  rw [List.map_map]
  exact List.map_id q

/-- What happened between two states of a session to the requests that were made and to
    the messages among them, given what was written. -/
structure Dispatches (s s' : Session) (asked : List SessionOp) (rs : List Settled)
    (fs : List Frame) : Prop where
  pipeline : s'.pipeline = s.pipeline
  issued : s'.issued = s.issued + asked.length
  /-- Requests are settled in the order in which they were made. -/
  queue : s.queue ++ numbered s.issued asked = rs.map Settled.request ++ s'.queue
  answers : s'.answers = s.answers ++ rs.map Settled.answer
  data : dataIn fs = (acknowledged (rs.map Settled.outcome)).map (Message.frame s.pipeline)
  part : acknowledged (rs.map Settled.outcome) <+: messagesOf (rs.map Settled.op)
  /-- As long as the session runs, no message is lost. -/
  whole : s'.phase = .running →
    acknowledged (rs.map Settled.outcome) = messagesOf (rs.map Settled.op)
  /-- After its end it sends nothing. -/
  silent : s.phase ≠ .running → s'.phase ≠ .running ∧ acknowledged (rs.map Settled.outcome) = []

theorem Dispatches.refl (s : Session) : Dispatches s s [] [] [] where
  pipeline := rfl
  issued := rfl
  queue := List.append_nil _
  answers := (List.append_nil _).symm
  data := rfl
  part := List.prefix_refl _
  whole := fun _ => rfl
  silent := fun hover => ⟨hover, rfl⟩

theorem Dispatches.trans {s s' s'' : Session} {asked asked' : List SessionOp}
    {rs rs' : List Settled} {fs fs' : List Frame} (h : Dispatches s s' asked rs fs)
    (h' : Dispatches s' s'' asked' rs' fs') :
    Dispatches s s'' (asked ++ asked') (rs ++ rs') (fs ++ fs') := by
  refine ⟨h'.pipeline.trans h.pipeline, ?_, ?_, ?_, ?_, ?_, fun hrun => ?_, fun hover => ?_⟩
  · rw [h'.issued, h.issued, List.length_append, Nat.add_assoc]
  · rw [numbered_append, ← List.append_assoc, h.queue, ← h.issued, List.append_assoc, h'.queue,
      List.map_append, List.append_assoc]
  · rw [h'.answers, h.answers, List.map_append, List.append_assoc]
  · rw [dataIn_append, h.data, h'.data, h.pipeline, List.map_append, acknowledged_append,
      List.map_append]
  · rw [List.map_append, List.map_append, acknowledged_append, messagesOf_append]
    by_cases hrun : s'.phase = .running
    · rw [h.whole hrun]
      exact (List.prefix_append_right_inj _).2 h'.part
    · rw [(h'.silent hrun).2, List.append_nil]
      exact h.part.trans (List.prefix_append _ _)
  · have hrun' : s'.phase = .running := by
      by_contra hover
      exact (h'.silent hover).1 hrun
    rw [List.map_append, List.map_append, acknowledged_append, messagesOf_append, h.whole hrun',
      h'.whole hrun]
  · rcases h.silent hover with ⟨hover', hnone⟩
    rcases h'.silent hover' with ⟨hover'', hnone'⟩
    refine ⟨hover'', ?_⟩
    rw [List.map_append, acknowledged_append, hnone, hnone']
    rfl

/-- The codec owes no data, and nothing is queued after the end. -/
structure Session.Tidy (s : Session) : Prop where
  codec : s.codec.OwesNoData
  queue : s.phase ≠ .running → s.queue = []

/-- Sessions that stand alike towards those who hold them. -/
structure Session.SameWork (s s' : Session) : Prop where
  pipeline : s'.pipeline = s.pipeline
  queue : s'.queue = s.queue
  issued : s'.issued = s.issued
  answers : s'.answers = s.answers
  phase : s'.phase = .running ↔ s.phase = .running

theorem Session.SameWork.refl (s : Session) : s.SameWork s := ⟨rfl, rfl, rfl, rfl, Iff.rfl⟩

theorem Session.SameWork.dispatches {s s' : Session} {fs : List Frame} (h : s.SameWork s')
    (hfs : dataIn fs = []) : Dispatches s s' [] [] fs where
  pipeline := h.pipeline
  issued := h.issued
  queue := by
    rw [h.queue]
    exact List.append_nil _
  answers := by
    rw [h.answers]
    exact (List.append_nil _).symm
  data := hfs
  part := List.prefix_refl _
  whole := fun _ => rfl
  silent := fun hover => ⟨fun hrun => hover (h.phase.1 hrun), rfl⟩

/-- A step of the session that settles requests in order. -/
def Session.Goes (s : Session) (sock : Socket) (next : Session × Socket) : Prop :=
  next.1.Tidy ∧ ∃ rs fs, next.2.outbox.frames = sock.outbox.frames ++ fs ∧
    Dispatches s next.1 [] rs fs

section Steps

variable {s s' : Session} {sock sock' : Socket}

-- A step that has nothing to do with requests.
theorem Session.Tidy.goes (ht : s.Tidy) (hsame : s.SameWork s') (hc : s'.codec.OwesNoData)
    (hsock : sock.Signals sock') : s.Goes sock (s', sock') := by
  rcases hsock with ⟨fs, hframes, hdata⟩
  refine ⟨⟨hc, fun hover => ?_⟩, [], fs, hframes, hsame.dispatches hdata⟩
  rw [hsame.queue]
  exact ht.queue fun hrun => hover (hsame.phase.2 hrun)

theorem offer_same (s : Session) (payload : Bytes) :
    s.SameWork (s.offer payload) ∧ (s.offer payload).codec = s.codec := by
  unfold Session.offer
  split
  · split <;> exact ⟨⟨rfl, rfl, rfl, rfl, Iff.rfl⟩, rfl⟩
  · exact ⟨⟨rfl, rfl, rfl, rfl, Iff.rfl⟩, rfl⟩

theorem stopProducing_same (s : Session) :
    s.SameWork s.stopProducing ∧ s.stopProducing.codec = s.codec := by
  unfold Session.stopProducing
  split <;> exact ⟨⟨rfl, rfl, rfl, rfl, Iff.rfl⟩, rfl⟩

theorem failProducing_same (s : Session) :
    s.SameWork s.failProducing ∧ s.failProducing.codec = s.codec := by
  unfold Session.failProducing
  split <;> exact ⟨⟨rfl, rfl, rfl, rfl, Iff.rfl⟩, rfl⟩

-- A step that ends the session, perhaps after it has settled some requests without having
-- sent anything for them.
theorem goes_leave {settling : Session} (now : Nat) (waits : Bool) (rs : List Settled)
    (hpipeline : settling.pipeline = s.pipeline) (hissued : settling.issued = s.issued)
    (hqueue : s.queue = rs.map Settled.request ++ settling.queue)
    (hanswers : settling.answers = s.answers ++ rs.map Settled.answer)
    (hnone : acknowledged (rs.map Settled.outcome) = [])
    (hc : settling.codec.OwesNoData) (hsock : sock.Signals sock') :
    s.Goes sock (settling.leave sock' now waits) := by
  rcases leave_eq settling sock' now waits with ⟨phase, left, hover, -, hleft, hleave⟩
  rcases stopProducing_same settling with ⟨hsame, hcodec⟩
  rw [hsame.answers, hsame.queue] at hleave
  rcases hsock with ⟨fs, hframes, hdata⟩
  have hall : acknowledged
      ((rs ++ settling.queue.map Settled.dropped).map Settled.outcome) = [] := by
    rw [List.map_append, acknowledged_append, hnone, acknowledged_dropped]
    rfl
  rw [hleave]
  refine ⟨⟨?_, fun _ => rfl⟩, rs ++ settling.queue.map Settled.dropped, fs, hleft.trans hframes,
    hsame.pipeline.trans hpipeline, hsame.issued.trans hissued, ?_, ?_, ?_, ?_,
    fun hrun => absurd hrun hover, fun _ => ⟨hover, hall⟩⟩
  · dsimp only
    rw [hcodec]
    exact hc
  · rw [hqueue, List.map_append, request_dropped]
    rfl
  · dsimp only
    rw [hanswers, List.map_append, List.map_map, List.append_assoc]
    rfl
  · rw [hdata, hall]
    rfl
  · rw [hall]
    exact List.nil_prefix

theorem serve_request_goes (ht : s.Tidy) (hq : s.codec.IsQuiet) (hrun : s.phase = .running)
    (now : Nat) {next : Session × Socket} (h : s.serveRequest sock now = some next) :
    s.Goes sock next := by
  unfold Session.serveRequest at h
  cases hqueue : s.queue with
  | nil =>
      rw [hqueue] at h
      dsimp only at h
      split at h <;> cases h
      have hclose := close_signals ht.codec sock none
      exact goes_leave now true [] rfl rfl hqueue (List.append_nil _).symm rfl hclose.1 hclose.2
  | cons r rest =>
      rw [hqueue] at h
      rcases r with ⟨t, op⟩
      cases op with
      | close =>
          cases h
          have hclose := close_signals ht.codec sock none
          exact goes_leave now true [⟨t, .close, _⟩] rfl rfl hqueue rfl rfl hclose.1 hclose.2
      | send m =>
          dsimp only at h
          rw [encode_eq_frame, send_data hq sock _ (payload_of_frame s.pipeline m)] at h
          cases hwrite : sock.write? (m.frame s.pipeline) with
          | none =>
              rw [hwrite] at h
              cases h
              exact goes_leave now false [⟨t, .send m, .error .webSocketCodec⟩] rfl rfl hqueue rfl
                rfl hq.owesNoData (.refl sock)
          | some sock' =>
              rw [hwrite] at h
              cases h
              refine ⟨⟨hq.owesNoData, fun hover => absurd hrun hover⟩,
                [⟨t, .send m, .ok ()⟩], [m.frame s.pipeline], write_outbox hwrite, rfl, rfl,
                ?_, rfl, dataIn_frame s.pipeline m, List.prefix_refl _, fun _ => rfl,
                fun hover => absurd hrun hover⟩
              exact (List.append_nil _).trans hqueue

theorem serve_demand_goes (ht : s.Tidy) {s' : Session} (h : s.serveDemand = some s') :
    s.Goes sock (s', sock) := by
  unfold Session.serveDemand at h
  split at h
  · cases h
  split at h
  · split at h <;> cases h
    · rcases stopProducing_same s with ⟨hsame, hcodec⟩
      refine ht.goes ⟨hsame.pipeline, hsame.queue, hsame.issued, hsame.answers, hsame.phase⟩ ?_
        (.refl sock)
      dsimp only
      rw [hcodec]
      exact ht.codec
    · rcases offer_same s _ with ⟨hsame, hcodec⟩
      refine ht.goes hsame ?_ (.refl sock)
      rw [hcodec]
      exact ht.codec
  · cases h

theorem serve_frame_goes (ht : s.Tidy) (now : Nat) {next : Session × Socket}
    (h : s.serveFrame sock now = some next) : s.Goes sock next := by
  have hleave : ∀ (codec : Codec) (sock' : Socket), codec.OwesNoData → sock.Signals sock' →
      s.Goes sock (Session.leave { s with codec } sock' now false) := fun codec sock' hc hsock =>
    goes_leave now false [] rfl rfl rfl (List.append_nil _).symm rfl hc hsock
  have hstay : ∀ (codec : Codec) (sock' : Socket), codec.OwesNoData → sock.Signals sock' →
      s.Goes sock ({ s with codec }, sock') := fun codec sock' hc hsock =>
    ht.goes ⟨rfl, rfl, rfl, rfl, Iff.rfl⟩ hc hsock
  unfold Session.serveFrame at h
  split at h
  · cases h
  rcases read_signals ht.codec sock with ⟨hc, hsock⟩
  generalize s.codec.read sock = found at h hc hsock
  rcases found with ⟨r, codec, sock'⟩
  have hflush := flush_signals hc sock'
  cases r with
  | pending =>
      dsimp only at h
      split at h <;> cases h
      exact hstay codec sock' hc hsock
  | finished =>
      cases h
      exact hleave codec sock' hc hsock
  | failed e =>
      cases h
      rcases failProducing_same { s with codec } with ⟨hsame, hcodec⟩
      refine goes_leave now false [] hsame.pipeline hsame.issued hsame.queue.symm
        (hsame.answers.trans (List.append_nil _).symm) rfl ?_ hsock
      rw [hcodec]
      exact hc
  | frame f =>
      cases f with
      | close reason =>
          cases h
          exact hleave _ _ hflush.1 (hsock.trans hflush.2)
      | ping payload =>
          cases h
          exact hstay _ _ hflush.1 (hsock.trans hflush.2)
      | pong payload =>
          cases h
          exact hstay codec sock' hc hsock
      | text payload | binary payload =>
          cases h
          rcases offer_same { s with codec } (s.pipeline.inbound payload) with ⟨hsame, hcodec⟩
          refine ht.goes ⟨hsame.pipeline, hsame.queue, hsame.issued, hsame.answers, hsame.phase⟩ ?_
            hsock
          rw [hcodec]
          exact hc

theorem serve_goes (ht : s.Tidy) (hq : s.codec.IsQuiet) (hrun : s.phase = .running) (now : Nat)
    (stopping : Bool) (what : Service) {next : Session × Socket}
    (h : s.serve sock now stopping what = some next) : s.Goes sock next := by
  cases what with
  | request => exact serve_request_goes ht hq hrun now h
  | frame => exact serve_frame_goes ht now h
  | demand =>
      rcases Option.map_eq_some_iff.1 h with ⟨s', hserve, rfl⟩
      exact serve_demand_goes ht hserve
  | offer =>
      rcases Option.map_eq_some_iff.1 h with ⟨payload, -, rfl⟩
      rcases offer_same s payload with ⟨hsame, hcodec⟩
      refine ht.goes hsame ?_ (.refl sock)
      rw [hcodec]
      exact ht.codec
  | stop =>
      unfold Session.serve Session.serveStop at h
      dsimp only at h
      split at h <;> cases h
      exact goes_leave now false [] rfl rfl rfl (List.append_nil _).symm rfl ht.codec (.refl sock)

-- While it waits for the answer to its close, a session sends no more than it owes.
theorem linger_goes (ht : s.Tidy) (hover : s.phase ≠ .running) (now deadline : Nat)
    {next : Session × Socket} (h : s.linger sock now deadline = some next) : s.Goes sock next := by
  rcases read_signals ht.codec sock with ⟨hc, hsock⟩
  rcases linger_cases s sock now deadline next h with rfl | rfl
  · exact ht.goes ⟨rfl, rfl, rfl, rfl, Iff.rfl⟩ hc hsock
  · exact ht.goes ⟨rfl, rfl, rfl, rfl, ⟨by rintro ⟨⟩, fun hrun => absurd hrun hover⟩⟩ hc
      (hsock.trans (.of_eq rfl))

end Steps

/-! ### What happens in a schedule -/

/-- A turn that settles requests in order, given those that it makes. -/
def Duet.Dispatching (d : Duet) (t : Turn) (asked : List SessionOp) : Prop :=
  (d.turn t).session.Tidy ∧
    ∃ rs, Dispatches d.session (d.turn t).session asked rs (d.written t)

theorem written_eq {d : Duet} {t : Turn} {fs : List Frame}
    (h : (d.turn t).socket.outbox.frames = d.socket.outbox.frames ++ fs) : d.written t = fs := by
  unfold Duet.written
  rw [h, List.drop_left]

theorem written_eq_nil {d : Duet} {t : Turn}
    (h : (d.turn t).socket.outbox.frames = d.socket.outbox.frames) : d.written t = [] :=
  written_eq (h.trans (List.append_nil _).symm)

-- A turn of somebody else, which makes no request.
theorem dispatches_aside {d : Duet} {t : Turn} (ht : d.session.Tidy)
    (hsame : d.session.SameWork (d.turn t).session)
    (hc : (d.turn t).session.codec = d.session.codec) (hw : d.written t = []) :
    d.Dispatching t [] := by
  refine ⟨⟨?_, fun hover => ?_⟩, [], hsame.dispatches ?_⟩
  · rw [hc]
    exact ht.codec
  · rw [hsame.queue]
    exact ht.queue fun hrun => hover (hsame.phase.2 hrun)
  · rw [hw]
    rfl

/-- The turns of the consumer. -/
def Turn.isOfConsumer : Turn → Bool
  | .attach _ | .request _ | .poll | .cancel => true
  | _ => false

-- The consumer has to do with the bridge and nothing else.
theorem consumer_turn (d : Duet) (t : Turn) (ht : t.isOfConsumer = true) :
    ∃ bridge consumer, d.turn t = { d with session := { d.session with bridge }, consumer } := by
  cases t with
  | attach mode =>
      unfold Duet.turn Duet.attach
      dsimp only
      cases d.session.bridge.attach mode <;> exact ⟨_, _, rfl⟩
  | request n =>
      unfold Duet.turn Duet.request
      dsimp only
      cases d.consumer <;> exact ⟨_, _, rfl⟩
  | poll =>
      unfold Duet.turn Duet.poll
      dsimp only
      cases d.consumer <;> exact ⟨_, _, rfl⟩
  | cancel =>
      unfold Duet.turn Duet.cancel
      dsimp only
      cases d.consumer <;> exact ⟨_, _, rfl⟩
  | arrive _ | hangUp | breakOff | collect | pass _ | submit _ | release | stop | serve _
  | linger => cases ht

theorem dispatches_consumer {d : Duet} {t : Turn} (ht : d.session.Tidy)
    (hturn : ∃ bridge consumer,
      d.turn t = { d with session := { d.session with bridge }, consumer }) :
    d.Dispatching t [] := by
  rcases hturn with ⟨bridge, consumer, hturn⟩
  refine dispatches_aside ht ?_ (by rw [hturn]) (written_eq_nil (by rw [hturn]))
  rw [hturn]
  exact ⟨rfl, rfl, rfl, rfl, Iff.rfl⟩

theorem dispatches_idle {d : Duet} {t : Turn} (ht : d.session.Tidy) (hturn : d.turn t = d) :
    d.Dispatching t [] :=
  dispatches_consumer ht ⟨d.session.bridge, d.consumer, hturn⟩

-- A turn of the session itself, which may have nothing to do.
theorem dispatches_acted {d : Duet} {t : Turn} {r : Option (Session × Socket)}
    (ht : d.session.Tidy) (hturn : d.turn t = d.acted r)
    (hgoes : ∀ next, r = some next → d.session.Goes d.socket next) : d.Dispatching t [] := by
  cases r with
  | none => exact dispatches_idle ht hturn
  | some next =>
      rcases hgoes next rfl with ⟨htidy, rs, fs, hframes, hdispatches⟩
      have hwritten : d.written t = fs := by
        refine written_eq ?_
        rw [hturn]
        exact hframes
      unfold Duet.Dispatching
      rw [hwritten, hturn]
      exact ⟨htidy, rs, hdispatches⟩

theorem submit_of_running (s : Session) (op : SessionOp) (hrun : s.phase = .running) :
    (s.submit op).2 =
      { s with issued := s.issued + 1, queue := s.queue ++ [⟨s.issued, op⟩] } := by
  have hopen : ({ s with issued := s.issued + 1 } : Session).isClosed = false := by
    unfold Session.isClosed
    rw [hrun]
    rfl
  unfold Session.submit
  dsimp only
  rw [if_neg (by rw [hopen]; exact Bool.false_ne_true)]

theorem submit_of_over (s : Session) (op : SessionOp) (hover : s.phase ≠ .running) :
    (s.submit op).2 = { s with
      issued := s.issued + 1
      answers := s.answers ++ [(s.issued, Session.lateAnswer op)] } := by
  have hclosed : ({ s with issued := s.issued + 1 } : Session).isClosed = true :=
    bne_iff_ne.2 hover
  unfold Session.submit
  dsimp only
  rw [if_pos hclosed]
  rfl

-- A request is queued while the session runs and answered at once afterwards.
theorem submit_dispatches (s : Session) (op : SessionOp) (ht : s.Tidy) :
    (s.submit op).2.Tidy ∧ ∃ rs, Dispatches s (s.submit op).2 [op] rs [] := by
  by_cases hrun : s.phase = .running
  · rw [submit_of_running s op hrun]
    exact ⟨⟨ht.codec, fun hover => absurd hrun hover⟩, [], rfl, rfl, rfl,
      (List.append_nil _).symm, rfl, List.prefix_refl _, fun _ => rfl,
      fun hover => absurd hrun hover⟩
  · have hnone : acknowledged [(op, Session.lateAnswer op)] = [] := by
      cases op <;> rfl
    rw [submit_of_over s op hrun]
    refine ⟨⟨ht.codec, ht.queue⟩, [⟨s.issued, op, Session.lateAnswer op⟩], rfl, rfl, ?_, rfl,
      (congrArg (List.map (Message.frame s.pipeline)) hnone).symm, ?_,
      fun hrun' => absurd hrun' hrun, fun _ => ⟨hrun, hnone⟩⟩
    · dsimp only
      rw [ht.queue hrun]
      rfl
    · exact hnone ▸ List.nil_prefix

theorem dispatches_turn (d : Duet) (t : Turn) (ht : d.session.Tidy)
    (hq : d.session.phase = .running → d.session.codec.IsQuiet) :
    d.Dispatching t t.asked?.toList := by
  cases t with
  | arrive _ | hangUp | breakOff | pass _ | stop | release =>
      exact dispatches_aside ht ⟨rfl, rfl, rfl, rfl, Iff.rfl⟩ rfl (written_eq_nil rfl)
  | collect =>
      exact dispatches_aside ht (.refl _) rfl
        (List.drop_eq_nil_of_le (List.tail_sublist _).length_le)
  | attach _ | request _ | poll | cancel =>
      exact dispatches_consumer ht (consumer_turn d _ rfl)
  | submit op =>
      have hwritten : d.written (.submit op) = [] := written_eq_nil rfl
      unfold Duet.Dispatching
      rw [hwritten]
      exact submit_dispatches d.session op ht
  | serve what =>
      by_cases hrun : d.session.phase = .running
      · exact dispatches_acted ht (d.serve_of_running what hrun) fun next hserve =>
          serve_goes ht (hq hrun) hrun d.now d.stopping what hserve
      · exact dispatches_idle ht (d.serve_of_over what hrun)
  | linger =>
      cases hphase : d.session.phase with
      | running | ended =>
          refine dispatches_idle ht ?_
          unfold Duet.turn
          rw [hphase]
      | lingering deadline =>
          have hover : d.session.phase ≠ .running := by
            rw [hphase]
            rintro ⟨⟩
          exact dispatches_acted ht (d.linger_of_lingering deadline hphase) fun next hlinger =>
            linger_goes ht hover d.now deadline hlinger

theorem Duet.after_concat (d : Duet) (ts : List Turn) (t : Turn) :
    d.after (ts ++ [t]) = (d.after ts).turn t := Schedule.after_append d ts [t]

theorem Duet.watch_concat {ε : Type} (shows : Duet → Turn → List ε) (d : Duet) (ts : List Turn)
    (t : Turn) :
    d.watch shows (ts ++ [t]) = d.watch shows ts ++ shows (d.after ts) t := by
  unfold Duet.watch
  rw [Schedule.watch_append, Schedule.watch_singleton]
  rfl

theorem delivering_after (role : Role) (p : Connection.Pipeline) (window : Flow.Window)
    (keepAlive : Bool) (ts : List Turn) :
    Delivering p ((Duet.facing role p window keepAlive).after ts)
      ((Duet.facing role p window keepAlive).watch Duet.delivery ts) :=
  Schedule.invariant_after delivering_turn _ [] (delivering_start role p window keepAlive) ts

-- What every turn does, put together.
theorem dispatches_after (role : Role) (p : Connection.Pipeline) (window : Flow.Window)
    (keepAlive : Bool) (ts : List Turn) :
    let start := Duet.facing role p window keepAlive
    (start.after ts).session.Tidy ∧ ∃ rs, Dispatches start.session (start.after ts).session
      (opsOf ts) rs (start.watch Duet.written ts) := by
  intro start
  induction ts using List.reverseRecOn with
  | nil =>
      have hquiet : start.session.codec.IsQuiet := ⟨rfl, rfl⟩
      exact ⟨⟨hquiet.owesNoData, fun hover => absurd rfl hover⟩, [], .refl start.session⟩
  | append_singleton ts t ih =>
      rcases ih with ⟨htidy, rs, hdispatches⟩
      have hquiet : (start.after ts).session.phase = .running →
          (start.after ts).session.codec.IsQuiet := fun hrun =>
        ((delivering_after role p window keepAlive ts).runs hrun).1.quiet
      rcases dispatches_turn (start.after ts) t htidy hquiet with ⟨htidy', rs', hturn⟩
      have hops : opsOf (ts ++ [t]) = opsOf ts ++ t.asked?.toList := by
        rw [opsOf_append]
        cases t <;> rfl
      rw [start.after_concat, start.watch_concat, hops]
      exact ⟨htidy', rs ++ rs', hdispatches.trans hturn⟩

-- A new session has answered nothing, so the requests that are settled are the first ones,
-- and the answers tell which of them were sent.
theorem sent_after (role : Role) (p : Connection.Pipeline) (window : Flow.Window)
    (keepAlive : Bool) (ts : List Turn) :
    let start := Duet.facing role p window keepAlive
    let d := start.after ts
    let sent := acknowledged ((opsOf ts).zip (d.session.answers.map Prod.snd))
    d.session.answers.map Prod.fst = List.range d.session.answers.length ∧
      dataIn (start.watch Duet.written ts) = sent.map (Message.frame p) ∧
      sent <+: messagesOf (opsOf ts) ∧
      (d.session.phase = .running → d.session.queue = [] → sent = messagesOf (opsOf ts)) := by
  intro start d sent
  rcases dispatches_after role p window keepAlive ts with ⟨-, rs, h⟩
  have hanswers : d.session.answers = rs.map Settled.answer := h.answers
  have hqueue : numbered 0 (opsOf ts) = rs.map Settled.request ++ d.session.queue := h.queue
  have hops : opsOf ts = rs.map Settled.op ++ d.session.queue.map SessionRequest.op := by
    rw [← ops_numbered 0 (opsOf ts), hqueue, List.map_append, List.map_map]
    rfl
  have htickets : rs.map Settled.ticket <+: List.range (opsOf ts).length := by
    rw [← tickets_numbered, hqueue, List.map_append, List.map_map]
    exact List.prefix_append _ _
  have hsent : sent = acknowledged (rs.map Settled.outcome) := by
    have hzip : (opsOf ts).zip (d.session.answers.map Prod.snd) = rs.map Settled.outcome := by
      rw [hops, hanswers, List.map_map, ← List.append_nil (rs.map (Prod.snd ∘ Settled.answer)),
        List.zip_append (by rw [List.length_map, List.length_map]), List.zip_nil_right,
        List.append_nil, List.zip_map']
      rfl
    exact congrArg acknowledged hzip
  rw [hsent]
  refine ⟨?_, h.data, ?_, fun hrun hnone => ?_⟩
  · rw [hanswers, List.map_map, List.length_map]
    have htake := List.prefix_iff_eq_take.1 htickets
    have hlength := htickets.length_le
    rw [List.length_map, List.length_range] at hlength
    rw [List.length_map, List.take_range, Nat.min_eq_left hlength] at htake
    exact htake
  · rw [hops, messagesOf_append]
    exact h.part.trans (List.prefix_append _ _)
  · rw [h.whole hrun, hops, hnone]
    exact congrArg messagesOf (List.append_nil _).symm

/-! ### Messages sent one after the other -/

theorem opsOf_eq_nil {ts : List Turn} (h : ∀ op, .submit op ∉ ts) : opsOf ts = [] := by
  refine List.filterMap_eq_nil_iff.2 fun t ht => ?_
  cases t with
  | submit op => exact absurd ht (h op)
  | arrive _ | hangUp | breakOff | collect | pass _ | attach _ | request _ | poll | cancel
  | release | stop | serve _ | linger => rfl

theorem perform_after (d : Duet) (op : SessionOp) :
    ∃ ts, opsOf ts = [op] ∧ (d.perform op).2 = d.after ts := by
  rcases (d.turn (.submit op)).advance_after with ⟨ts, hown, hts⟩
  refine ⟨.submit op :: ts, ?_, hts⟩
  change op :: opsOf ts = [op]
  rw [opsOf_eq_nil hown]

-- Messages that are sent one after the other are requests like any others, as far as the
-- first that fails.
theorem sendAll_after (ms : List Message) : ∀ d : Duet, ∃ ts sent, sent <+: ms ∧
    opsOf ts = sent.map .send ∧ (d.sendAll ms).2 = d.after ts ∧
    ((d.sendAll ms).1 = .ok () → sent = ms) := by
  induction ms with
  | nil => exact fun d => ⟨[], [], List.prefix_refl _, rfl, rfl, fun _ => rfl⟩
  | cons m rest ih =>
      intro d
      rcases perform_after d (.send m) with ⟨ts, hops, hts⟩
      unfold Duet.sendAll
      generalize d.perform (.send m) = r at hts
      rcases r with ⟨r, d'⟩
      cases r with
      | error e =>
          exact ⟨ts, [m], List.prefix_append [m] rest, hops, hts, fun hok => by cases hok⟩
      | ok u =>
          rcases ih d' with ⟨us, sent, hpart, hops', hus, hall⟩
          refine ⟨ts ++ us, m :: sent, List.cons_prefix_cons.2 ⟨rfl, hpart⟩, ?_, ?_, fun hok => ?_⟩
          · rw [opsOf_append, hops, hops']
            rfl
          · change (d'.sendAll rest).2 = _
            rw [hus, show d' = d.after ts from hts]
            exact (Schedule.after_append d ts us).symm
          · rw [hall hok]

end WebSocket

end DemandNet
