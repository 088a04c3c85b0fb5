import DemandNet.Proofs.Flow.Hosted
import DemandNet.Proofs.WebSocket.Schedule

/-!
# Delivery in a Session

Where the payloads are that a session has read.

They are received by a consumer, queued in the bridge, or held by the session, in this
order, and the session holds at most one. It reads the next frame only when it holds
none, so nothing overtakes a payload: not the next one, and not the close or the failure
that ends the session. Frames that carry no data pass the bridge by. They are read
whether or not anything is wanted, and a ping is answered before the next frame is read.

While a session runs its codec has nothing to send and the closing handshake has not
begun, so a read is no more than a look at the socket, and `QuietRead` lists what it can
bring. `ServeMove` lists in the same way what a service of the session can do.

## Main definitions

* `Delivery`: What can be seen of the receiving side.
* `Duet.delivery`: What a turn shows of it.
* `payloadsOf`, `endingsOf`, `account`: Parts of a history.
* `QuietRead`: What a session can read while it runs.
* `ServeMove`: What a service of the session can do.
* `Delivering`: What relates a session to the history of its receiving side.

## Theorems

* `serve_move`: A service does one of those things.
* `delivering_turn`: Every turn keeps the relation.
* `payloads_in_order_and_one_end`: The payloads that were read, and how their stream ends.
-/

namespace DemandNet

namespace WebSocket

open DemandNet.Flow (Account Bridge Consumer Hosted Poll takeOne?)

/-- What can be seen of the receiving side of a session. -/
inductive Delivery where
  /-- The session read a frame. -/
  | read (f : Frame)
  /-- The session read that the other side is done. -/
  | finished
  /-- The session could not read on. -/
  | failed (e : CodecError)
  /-- The bridge took a payload. -/
  | accepted (payload : Bytes)
  /-- The consumer looked. -/
  | polled (p : Poll Bytes)

/-- What a reading shows. -/
def Reading.delivery : Reading → List Delivery
  | .pending => []
  | .frame f => [.read f]
  | .finished => [.finished]
  | .failed e => [.failed e]

/-- What the session reads when it serves the other side, if it does. -/
def Duet.reading (d : Duet) : List Delivery :=
  if d.session.phase = .running ∧ (d.session.serveFrame d.socket d.now).isSome then
    (d.session.codec.read d.socket).1.delivery
  else []

/-- What a turn shows of the receiving side. -/
def Duet.delivery (d : Duet) : Turn → List Delivery
  | .poll => (d.poll.map fun r => Delivery.polled r.1).toList
  | .serve what =>
      let queued := (d.turn (.serve what)).session.bridge.items.drop
        d.session.bridge.items.length
      (if what = .frame then d.reading else []) ++ queued.map .accepted
  | _ => []

/-! ### Parts of a history -/

/-- The payloads that were read, as they came from the other side. -/
def payloadsOf (h : List Delivery) : List Bytes :=
  h.filterMap fun
    | .read f => Session.payload? f
    | _ => none

/-- The payloads that the bridge took. -/
def acceptedOf (h : List Delivery) : List Bytes :=
  h.filterMap fun
    | .accepted payload => some payload
    | _ => none

/-- The other side has ended the session, perhaps with an error. -/
def Delivery.ending? : Delivery → Option (Option NetError)
  | .read (.close _) => some none
  | .finished => some none
  | .failed _ => some (some .webSocketCodec)
  | _ => none

/-- How the other side has ended the session. -/
def endingsOf (h : List Delivery) : List (Option NetError) := h.filterMap Delivery.ending?

/-- The account after something happened. -/
def Delivery.enter (s : Account Bytes) : Delivery → Account Bytes
  | .accepted payload => s.accept payload
  | .polled p => s.see p
  | .failed _ => s.conclude (some .webSocketCodec)
  | _ => s

/-- What was handed over and what the consumers saw. -/
def account (h : List Delivery) : Account Bytes := h.foldl Delivery.enter .empty

theorem payloadsOf_append (h es : List Delivery) :
    payloadsOf (h ++ es) = payloadsOf h ++ payloadsOf es := List.filterMap_append

theorem endingsOf_append (h es : List Delivery) :
    endingsOf (h ++ es) = endingsOf h ++ endingsOf es := List.filterMap_append

theorem account_append (h es : List Delivery) :
    account (h ++ es) = es.foldl Delivery.enter (account h) := List.foldl_append

/-! ### A codec that has nothing to send -/

/-- The closing handshake has not begun, and nothing is owed. -/
def Codec.IsQuiet (c : Codec) : Prop := c.handshake = .active ∧ c.owed = none

/-- What a side can read that has nothing to send, and what it knows then. -/
inductive QuietRead (c : Codec) : Reading → Codec → Prop
  | pending : QuietRead c .pending c
  | data (f : Frame) (payload : Bytes) (hf : Session.payload? f = some payload) :
      QuietRead c (.frame f) c
  | pong (payload : Bytes) : QuietRead c (.frame (.pong payload)) c
  | ping (payload : Bytes) :
      QuietRead c (.frame (.ping payload)) { c with owed := some (.pong payload) }
  | close (reason : Option CloseReason) (c' : Codec) :
      QuietRead c (.frame (.close reason)) c'
  | failed (e : CodecError) (c' : Codec) : QuietRead c (.failed e) c'

section Quiet

variable {c : Codec}

theorem Codec.IsQuiet.canRead (hc : c.IsQuiet) : c.handshake.canRead = true := by
  rw [hc.1]
  rfl

theorem Codec.IsQuiet.isDone (hc : c.IsQuiet) : c.isDone = false := by
  unfold Codec.isDone
  rw [hc.canRead, Bool.not_true, Bool.and_false]

theorem Codec.IsQuiet.read_eq (hc : c.IsQuiet) (s : Socket) : c.read s = c.take s := by
  unfold Codec.read
  rw [if_neg (by rw [hc.1]; rintro ⟨⟩), if_pos]
  rw [hc.2, hc.isDone]
  rfl

theorem receive_quiet (hc : c.IsQuiet) (f : Frame) :
    QuietRead c (c.receive f).1 (c.receive f).2 := by
  unfold Codec.receive
  rw [if_neg (by rw [hc.canRead]; exact Bool.false_ne_true)]
  cases f.defect? with
  | some e => exact .failed _ _
  | none =>
      cases f with
      | text payload | binary payload => exact .data _ payload rfl
      | pong payload => exact .pong payload
      | ping payload =>
          dsimp only
          rw [if_pos hc.1]
          exact .ping payload
      | close reason =>
          dsimp only
          rw [if_pos hc.1]
          exact .close _ _

-- Taking a frame leaves what goes to the other side alone.
theorem take_quiet (hc : c.IsQuiet) (s : Socket) :
    QuietRead c (c.take s).1 (c.take s).2.1 ∧ (c.take s).2.2.outbox = s.outbox := by
  unfold Codec.take
  cases s.inbox.frames with
  | cons f rest => exact ⟨receive_quiet hc f, rfl⟩
  | nil =>
      dsimp only
      by_cases hended : s.inbox.ended = true
      · rw [if_neg (by rw [hended]; exact Bool.false_ne_true),
          if_neg (by rw [hc.1]; exact Bool.false_ne_true)]
        exact ⟨.failed _ _, rfl⟩
      · rw [if_pos (by rw [Bool.eq_false_iff.2 hended]; rfl)]
        exact ⟨.pending, rfl⟩

-- A codec that owes one frame sends it, unless nothing can be sent, and is quiet again.
theorem flush_owing (hc : c.IsQuiet) (f : Frame) (s : Socket) :
    (Codec.flush { c with owed := some f } s).2.1 = c ∧
      (s.outbox.broken = false → (Codec.flush { c with owed := some f } s).2.2.outbox.frames =
        s.outbox.frames ++ [f]) := by
  have hpaid : { c with owed := none } = c := by
    rw [← hc.2]
  have hdone : Codec.isDone { c with owed := some f } = false := hc.isDone
  unfold Codec.flush Socket.write?
  dsimp only
  rw [hdone, hpaid]
  by_cases hbroken : s.outbox.broken = true
  · rw [if_pos hbroken]
    exact ⟨rfl, fun hwhole => absurd hbroken (Bool.eq_false_iff.1 hwhole)⟩
  · rw [if_neg hbroken]
    exact ⟨rfl, fun _ => rfl⟩

theorem flush_quiet (hc : c.IsQuiet) (s : Socket) : c.flush s = (.ok (), c, s) := by
  unfold Codec.flush
  rw [hc.2]
  dsimp only
  rw [if_neg (by rw [hc.isDone]; exact Bool.false_ne_true)]

-- A frame that carries data is written as it is, unless the other side is gone.
theorem send_data (hc : c.IsQuiet) (s : Socket) (f : Frame)
    (hf : (Session.payload? f).isSome = true) :
    c.send s f = match s.write? f with
      | none => (.error .disconnected, c, s)
      | some s' => (.ok (), c, s') := by
  unfold Codec.send
  rw [if_neg (by rw [hc.1]; rintro ⟨⟩), if_neg (by rw [hc.1]; exact fun h => h rfl)]
  cases f with
  | text payload | binary payload =>
      dsimp only
      cases s.write? _ with
      | none => rfl
      | some s' => exact flush_quiet hc s'
  | ping _ | pong _ | close _ => cases hf

-- What is sent while the handshake has not begun leaves nothing behind.
theorem send_quiet (hc : c.IsQuiet) (s : Socket) (f : Frame) (hf : (Session.payload? f).isSome) :
    (c.send s f).2.1 = c := by
  rw [send_data hc s f hf]
  cases s.write? f <;> rfl

end Quiet

/-! ### What a service does -/

/-- A session whose bridge has taken a payload. -/
def Session.fed (s : Session) (payload : Bytes) (left : Nat) : Session :=
  { s with bridge := s.bridge.accepting payload left, parked := none }

/-- A session that takes no more requests and feeds its bridge no more. -/
def Session.left (s : Session) (codec : Codec) (phase : SessionPhase)
    (answers : List (Nat × Except NetError Unit)) (e : Option NetError) : Session :=
  { s with codec, phase, answers, queue := [], producing := false, bridge := s.bridge.concluded e }

/-- What a service of the session can do, and what it shows. -/
inductive ServeMove (d : Duet) : List Delivery → Duet → Prop
  | waits : ServeMove d [] d
  /-- A request was served, and the session goes on. -/
  | serves (codec : Codec) (queue : List SessionRequest)
      (answers : List (Nat × Except NetError Unit)) (socket : Socket) (hc : codec.IsQuiet) :
      ServeMove d [] { d with session := { d.session with codec, queue, answers }, socket }
  /-- A frame was read that carries no data, and was answered if it is a ping. -/
  | passes (f : Frame) (socket : Socket) (hn : d.session.parked = none)
      (hf : Session.payload? f = none) (he : (Delivery.read f).ending? = none)
      (hpong : ∀ payload, f = .ping payload → d.socket.outbox.broken = false →
        socket.outbox.frames = d.socket.outbox.frames ++ [.pong payload]) :
      ServeMove d [.read f] { d with socket }
  | accepts (f : Frame) (payload : Bytes) (left : Nat) (socket : Socket)
      (hn : d.session.parked = none) (hf : Session.payload? f = some payload)
      (ht : takeOne? d.session.bridge.demand = some left) :
      ServeMove d [.read f, .accepted (d.session.pipeline.inbound payload)]
        { d with session := d.session.fed (d.session.pipeline.inbound payload) left, socket }
  /-- A payload was read that nobody wants yet. -/
  | parks (f : Frame) (payload : Bytes) (socket : Socket) (hn : d.session.parked = none)
      (hf : Session.payload? f = some payload) (hd : d.session.bridge.demand = 0) :
      ServeMove d [.read f]
        { d with
          session := { d.session with parked := some (d.session.pipeline.inbound payload) }
          socket }
  | hands (payload : Bytes) (left : Nat) (hp : d.session.parked = some payload)
      (ht : takeOne? d.session.bridge.demand = some left) :
      ServeMove d [.accepted payload] { d with session := d.session.fed payload left }
  /-- The session ends, and the other side is not the reason. -/
  | leaves (codec : Codec) (phase : SessionPhase)
      (answers : List (Nat × Except NetError Unit)) (socket : Socket) (hphase : phase ≠ .running) :
      ServeMove d [] { d with session := d.session.left codec phase answers none, socket }
  /-- The other side has ended the session. -/
  | parts (i : Delivery) (e : Option NetError) (codec : Codec) (phase : SessionPhase)
      (answers : List (Nat × Except NetError Unit)) (socket : Socket) (hphase : phase ≠ .running)
      (hn : d.session.parked = none) (he : i.ending? = some e) :
      ServeMove d [i] { d with session := d.session.left codec phase answers e, socket }

theorem offer_eq (s : Session) (payload : Bytes) (hp : s.producing = true)
    (hopen : s.bridge.readEnd ≠ .dropped) :
    s.offer payload = match takeOne? s.bridge.demand with
      | none => { s with parked := some payload }
      | some left => s.fed payload left := by
  unfold Session.offer
  rw [if_pos hp, Bridge.tryEmit_of_open _ payload hopen]
  cases takeOne? s.bridge.demand <;> rfl

-- A session that leaves answers all that is queued. It reads nothing and writes nothing.
theorem leave_eq (s : Session) (sock : Socket) (now : Nat) (waits : Bool) :
    ∃ phase sock', phase ≠ .running ∧ sock'.inbox.frames = sock.inbox.frames ∧
      sock'.outbox.frames = sock.outbox.frames ∧ s.leave sock now waits =
      ({ s.stopProducing with
        phase, queue := []
        answers := s.stopProducing.answers ++
          s.stopProducing.queue.map fun r => (r.ticket, Session.droppedAnswer r.op) }, sock') := by
  unfold Session.leave
  dsimp only
  split
  · exact ⟨_, sock, by rintro ⟨⟩, rfl, rfl, rfl⟩
  · exact ⟨_, sock.drop, by rintro ⟨⟩, rfl, rfl, rfl⟩

theorem leave_left (s : Session) (sock : Socket) (now : Nat) (waits : Bool)
    (hp : s.producing = true) :
    ∃ phase answers sock', phase ≠ .running ∧
      s.leave sock now waits = (s.left s.codec phase answers none, sock') := by
  have hstop : s.stopProducing =
      { s with producing := false, bridge := s.bridge.concluded none } := by
    unfold Session.stopProducing
    rw [if_pos hp, Bridge.finish_eq]
  rcases leave_eq s sock now waits with ⟨phase, sock', hphase, -, -, hleave⟩
  rw [hstop] at hleave
  exact ⟨phase, _, sock', hphase, hleave⟩

theorem fail_left (s : Session) (sock : Socket) (now : Nat) (waits : Bool)
    (hp : s.producing = true) (hopen : s.bridge.readEnd ≠ .dropped) :
    ∃ phase answers sock', phase ≠ .running ∧
      s.failProducing.leave sock now waits =
        (s.left s.codec phase answers (some .webSocketCodec), sock') := by
  have hfail : s.failProducing =
      { s with producing := false, bridge := s.bridge.concluded (some .webSocketCodec) } := by
    unfold Session.failProducing
    rw [if_pos hp, Bridge.finishWith_of_open _ _ hopen]
  rcases leave_eq s.failProducing sock now waits with ⟨phase, sock', hphase, -, -, hleave⟩
  rw [hfail] at hleave ⊢
  exact ⟨phase, _, sock', hphase, hleave⟩

/-- A session that runs, as its services find it. -/
structure Session.Runs (s : Session) : Prop where
  phase : s.phase = .running
  producing : s.producing = true
  quiet : s.codec.IsQuiet
  hasReader : s.bridge.readEnd ≠ .dropped
  isOpen : s.bridge.isClosed = false

section Services

variable {d d' : Duet} {es : List Delivery}

-- A move, with what is seen of it left to be compared.
theorem ServeMove.of_serve (hmove : ServeMove d es d') (what : Service)
    (hrun : d.session.phase = .running)
    (hserve : d.acted (d.session.serve d.socket d.now d.stopping what) = d') (as : List Bytes)
    (hitems : d'.session.bridge.items = d.session.bridge.items ++ as)
    (hes : es = (if what = .frame then d.reading else []) ++ as.map .accepted) :
    ServeMove d (d.delivery (.serve what)) (d.turn (.serve what)) := by
  have hturn : d.turn (.serve what) = d' := (d.serve_of_running what hrun).trans hserve
  unfold Duet.delivery
  dsimp only
  rw [hturn, hitems, List.drop_left, ← hes]
  exact hmove

theorem reading_of_serve {next : Session × Socket} (hr : d.session.Runs)
    (hserve : d.session.serve d.socket d.now d.stopping .frame = some next) :
    d.reading = (d.session.codec.read d.socket).1.delivery := by
  have hframe : d.session.serveFrame d.socket d.now = some next := hserve
  unfold Duet.reading
  rw [if_pos ⟨hr.phase, by rw [hframe]; rfl⟩]

theorem still_move (what : Service) (hr : d.session.Runs)
    (hserve : d.session.serve d.socket d.now d.stopping what = none) :
    ServeMove d (d.delivery (.serve what)) (d.turn (.serve what)) := by
  have hnothing : (if what = .frame then d.reading else []) = [] := by
    by_cases hwhat : what = .frame
    · rw [hwhat] at hserve
      have hframe : d.session.serveFrame d.socket d.now = none := hserve
      unfold Duet.reading
      rw [if_pos hwhat, if_neg (by rw [hframe]; rintro ⟨_, ⟨⟩⟩)]
    · rw [if_neg hwhat]
  refine ServeMove.waits.of_serve what hr.phase ?_ [] (List.append_nil _).symm ?_
  · rw [hserve]
    rfl
  · rw [hnothing]
    rfl

-- The session ends on its own account.
theorem leave_move (what : Service) (hwhat : what ≠ .frame) (hr : d.session.Runs)
    (codec : Codec) (queue : List SessionRequest) (answers : List (Nat × Except NetError Unit))
    (sock : Socket) (waits : Bool)
    (hserve : d.session.serve d.socket d.now d.stopping what =
      some (Session.leave { d.session with codec, queue, answers } sock d.now waits)) :
    ServeMove d (d.delivery (.serve what)) (d.turn (.serve what)) := by
  rcases leave_left { d.session with codec, queue, answers } sock d.now waits hr.producing with
    ⟨phase, answers', sock', hphase, hleave⟩
  refine (ServeMove.leaves codec phase answers' sock' hphase).of_serve what hr.phase ?_ [] ?_ ?_
  · rw [hserve, hleave]
    rfl
  · rw [List.append_nil]
    exact Bridge.items_concluded d.session.bridge none
  · rw [if_neg hwhat]
    rfl

theorem serve_request_move (hr : d.session.Runs) :
    ServeMove d (d.delivery (.serve .request)) (d.turn (.serve .request)) := by
  have hserve : d.session.serve d.socket d.now d.stopping .request =
      d.session.serveRequest d.socket d.now := rfl
  unfold Session.serveRequest at hserve
  cases hqueue : d.session.queue with
  | nil =>
      rw [hqueue] at hserve
      dsimp only at hserve
      by_cases hreleased : d.session.released = true
      · rw [if_pos hreleased] at hserve
        exact leave_move .request (by rintro ⟨⟩) hr _ [] _ _ true hserve
      · rw [if_neg hreleased] at hserve
        exact still_move .request hr hserve
  | cons r rest =>
      rw [hqueue] at hserve
      rcases r with ⟨t, op⟩
      cases op with
      | close => exact leave_move .request (by rintro ⟨⟩) hr _ rest _ _ true hserve
      | send m =>
          dsimp only at hserve
          have hdata : (Session.payload? (d.session.encode m)).isSome := by
            cases m <;> rfl
          have hcodec := send_quiet hr.quiet d.socket (d.session.encode m) hdata
          split at hserve
          · refine (ServeMove.serves _ rest _ _ ?_).of_serve .request hr.phase
              (congrArg d.acted hserve) [] (List.append_nil _).symm rfl
            rw [hcodec]
            exact hr.quiet
          · exact leave_move .request (by rintro ⟨⟩) hr _ rest _ _ false hserve

theorem serve_stop_move (hr : d.session.Runs) :
    ServeMove d (d.delivery (.serve .stop)) (d.turn (.serve .stop)) := by
  have hserve : d.session.serve d.socket d.now d.stopping .stop =
      d.session.serveStop d.socket d.now d.stopping := rfl
  unfold Session.serveStop at hserve
  by_cases hstopping : d.stopping = true
  · rw [if_pos hstopping] at hserve
    exact leave_move .stop (by rintro ⟨⟩) hr d.session.codec d.session.queue d.session.answers _
      false hserve
  · rw [if_neg hstopping] at hserve
    exact still_move .stop hr hserve

-- The payload that is held is handed over if it is wanted.
theorem hand_move (what : Service) (hwhat : what ≠ .frame) (hr : d.session.Runs) (payload : Bytes)
    (hp : d.session.parked = some payload)
    (hserve : d.session.serve d.socket d.now d.stopping what =
      some (d.session.offer payload, d.socket)) :
    ServeMove d (d.delivery (.serve what)) (d.turn (.serve what)) := by
  rw [offer_eq _ payload hr.producing hr.hasReader] at hserve
  cases htake : takeOne? d.session.bridge.demand with
  | none =>
      rw [htake] at hserve
      refine ServeMove.waits.of_serve what hr.phase ?_ [] (List.append_nil _).symm ?_
      · rw [hserve]
        dsimp only
        rw [← hp]
        rfl
      · rw [if_neg hwhat]
        rfl
  | some left =>
      rw [htake] at hserve
      refine (ServeMove.hands payload left hp htake).of_serve what hr.phase (congrArg d.acted hserve)
        [payload] (Bridge.items_accepting _ payload left) ?_
      rw [if_neg hwhat]
      rfl

theorem serve_demand_move (hr : d.session.Runs) :
    ServeMove d (d.delivery (.serve .demand)) (d.turn (.serve .demand)) := by
  have hserve : d.session.serve d.socket d.now d.stopping .demand =
      d.session.serveDemand.map fun s => (s, d.socket) := rfl
  unfold Session.serveDemand Bridge.readiness? at hserve
  cases hparked : d.session.parked with
  | none =>
      rw [hparked] at hserve
      exact still_move .demand hr hserve
  | some payload =>
      rw [hparked] at hserve
      dsimp only at hserve
      rw [if_pos hr.producing, if_neg (by rw [hr.isOpen]; exact Bool.false_ne_true)] at hserve
      by_cases hdemand : d.session.bridge.demand = 0
      · rw [if_pos hdemand] at hserve
        exact still_move .demand hr hserve
      · rw [if_neg hdemand] at hserve
        exact hand_move .demand (by rintro ⟨⟩) hr payload hparked hserve

theorem serve_offer_move (hr : d.session.Runs) :
    ServeMove d (d.delivery (.serve .offer)) (d.turn (.serve .offer)) := by
  have hserve : d.session.serve d.socket d.now d.stopping .offer =
      d.session.parked.map fun payload => (d.session.offer payload, d.socket) := rfl
  cases hparked : d.session.parked with
  | none =>
      rw [hparked] at hserve
      exact still_move .offer hr hserve
  | some payload =>
      rw [hparked] at hserve
      exact hand_move .offer (by rintro ⟨⟩) hr payload hparked hserve

-- A payload that was read goes to the bridge if it is wanted, and is held otherwise.
theorem data_move (hr : d.session.Runs) (hn : d.session.parked = none) (f : Frame)
    (payload : Bytes) (hf : Session.payload? f = some payload) (sock : Socket)
    (hread : (d.session.codec.read d.socket).1 = .frame f)
    (hserve : d.session.serve d.socket d.now d.stopping .frame =
      some (d.session.offer (d.session.pipeline.inbound payload), sock)) :
    ServeMove d (d.delivery (.serve .frame)) (d.turn (.serve .frame)) := by
  have hreading := reading_of_serve hr hserve
  rw [hread] at hreading
  rw [offer_eq _ _ hr.producing hr.hasReader] at hserve
  cases htake : takeOne? d.session.bridge.demand with
  | none =>
      rw [htake] at hserve
      refine (ServeMove.parks f payload sock hn hf ((Flow.takeOne?_eq_none_iff _).1 htake)).of_serve
        .frame hr.phase (congrArg d.acted hserve) [] (List.append_nil _).symm ?_
      rw [if_pos rfl, hreading]
      rfl
  | some left =>
      rw [htake] at hserve
      refine (ServeMove.accepts f payload left sock hn hf htake).of_serve .frame hr.phase
        (congrArg d.acted hserve) [_] (Bridge.items_accepting _ _ left) ?_
      rw [if_pos rfl, hreading]
      rfl

theorem pass_move (hr : d.session.Runs) (hn : d.session.parked = none) (f : Frame)
    (hf : Session.payload? f = none) (he : (Delivery.read f).ending? = none) (sock : Socket)
    (hpong : ∀ payload, f = .ping payload → d.socket.outbox.broken = false →
      sock.outbox.frames = d.socket.outbox.frames ++ [.pong payload])
    (hread : (d.session.codec.read d.socket).1 = .frame f)
    (hserve : d.session.serve d.socket d.now d.stopping .frame = some (d.session, sock)) :
    ServeMove d (d.delivery (.serve .frame)) (d.turn (.serve .frame)) := by
  refine (ServeMove.passes f sock hn hf he hpong).of_serve .frame hr.phase
    (congrArg d.acted hserve) [] (List.append_nil _).symm ?_
  rw [if_pos rfl, reading_of_serve hr hserve, hread]
  rfl

-- The other side ends the session.
theorem part_move (hr : d.session.Runs) (hn : d.session.parked = none) (i : Delivery)
    (e : Option NetError) (he : i.ending? = some e) {codec : Codec} {phase : SessionPhase}
    {answers : List (Nat × Except NetError Unit)} {sock : Socket} (hphase : phase ≠ .running)
    (hread : (d.session.codec.read d.socket).1.delivery = [i])
    (hserve : d.session.serve d.socket d.now d.stopping .frame =
      some (d.session.left codec phase answers e, sock)) :
    ServeMove d (d.delivery (.serve .frame)) (d.turn (.serve .frame)) := by
  refine (ServeMove.parts i e codec phase answers sock hphase hn he).of_serve .frame hr.phase
    (congrArg d.acted hserve) [] ?_ ?_
  · rw [List.append_nil]
    exact Bridge.items_concluded d.session.bridge e
  · rw [if_pos rfl, reading_of_serve hr hserve, hread]
    rfl

theorem serve_frame_move (hr : d.session.Runs) :
    ServeMove d (d.delivery (.serve .frame)) (d.turn (.serve .frame)) := by
  have hserve : d.session.serve d.socket d.now d.stopping .frame =
      d.session.serveFrame d.socket d.now := rfl
  unfold Session.serveFrame at hserve
  cases hn : d.session.parked with
  | some payload =>
      rw [if_pos (by rw [hn]; rfl)] at hserve
      exact still_move .frame hr hserve
  | none =>
      rw [if_neg (by rw [hn]; exact Bool.false_ne_true)] at hserve
      rcases take_quiet hr.quiet d.socket with ⟨hquiet, houtbox⟩
      have hread := congrArg Prod.fst (hr.quiet.read_eq d.socket)
      rw [hr.quiet.read_eq] at hserve
      generalize d.session.codec.take d.socket = taken at hserve hread hquiet houtbox
      rcases taken with ⟨r, c', sock⟩
      dsimp only at hserve hread hquiet houtbox
      cases hquiet with
      | pending =>
          dsimp only at hserve
          rw [if_pos rfl] at hserve
          exact still_move .frame hr hserve
      | data f payload hf =>
          cases f with
          | text _ | binary _ =>
              cases hf
              exact data_move hr hn _ _ rfl sock hread hserve
          | ping _ | pong _ | close _ => cases hf
      | pong payload =>
          exact pass_move hr hn _ rfl rfl sock (fun _ hf => by cases hf) hread hserve
      | ping payload =>
          rcases flush_owing hr.quiet (.pong payload) sock with ⟨hcodec, hpong⟩
          rw [houtbox] at hpong
          dsimp only at hserve
          rw [hcodec] at hserve
          refine pass_move hr hn _ rfl rfl _ (fun payload' hf => ?_) hread hserve
          cases hf
          exact hpong
      | close reason c' =>
          rcases leave_left { d.session with codec := (c'.flush sock).2.1 } (c'.flush sock).2.2
            d.now false hr.producing with ⟨phase, answers, sock', hphase, hleave⟩
          exact part_move hr hn _ none rfl hphase (congrArg Reading.delivery hread)
            (hserve.trans (congrArg some hleave))
      | failed e c' =>
          rcases fail_left { d.session with codec := c' } sock d.now false hr.producing hr.hasReader
            with ⟨phase, answers, sock', hphase, hleave⟩
          exact part_move hr hn _ (some .webSocketCodec) rfl hphase
            (congrArg Reading.delivery hread) (hserve.trans (congrArg some hleave))

theorem serve_move (what : Service) (hr : d.session.Runs) :
    ServeMove d (d.delivery (.serve what)) (d.turn (.serve what)) := by
  cases what with
  | request => exact serve_request_move hr
  | demand => exact serve_demand_move hr
  | offer => exact serve_offer_move hr
  | frame => exact serve_frame_move hr
  | stop => exact serve_stop_move hr

-- A session that no longer runs serves nothing.
theorem serve_over (what : Service) (hrun : d.session.phase ≠ .running) :
    d.turn (.serve what) = d ∧ d.delivery (.serve what) = [] := by
  have hturn : d.turn (.serve what) = d := d.serve_of_over what hrun
  have hreading : d.reading = [] := by
    unfold Duet.reading
    rw [if_neg fun h => hrun h.1]
  refine ⟨hturn, ?_⟩
  unfold Duet.delivery
  dsimp only
  rw [hturn, hreading, ite_self, List.drop_length]
  rfl

end Services

/-! ### What every turn keeps -/

/-- How the session stands, and how that shows. -/
inductive Standing (s : Session) (h : List Delivery) : Prop
  | running (hphase : s.phase = .running) (hproducing : s.producing = true)
      (hquiet : s.codec.IsQuiet) (hnone : endingsOf h = [])
  /-- It has ended, and the other side was not the reason. -/
  | left (hphase : s.phase ≠ .running) (hproducing : s.producing = false)
      (hnone : endingsOf h = []) (hfail : (account h).failures = [])
  | parted (e : Option NetError) (hphase : s.phase ≠ .running) (hproducing : s.producing = false)
      (hend : endingsOf h = [e]) (hfail : (account h).failures = e.toList)
      (hparked : s.parked = none)

/-- What relates a session to the history of its receiving side. -/
structure Delivering (p : Connection.Pipeline) (d : Duet) (h : List Delivery) : Prop where
  pipeline : d.session.pipeline = p
  hosted : Hosted d.session.bridge d.consumer d.session.producing (account h)
  intact : d.session.bridge.abandoned = false
  conserved : (payloadsOf h).map d.session.pipeline.inbound =
    (account h).accepted ++ d.session.parked.toList
  standing : Standing d.session h

theorem delivering_start (role : Role) (pipeline : Connection.Pipeline) (window : Flow.Window)
    (keepAlive : Bool) : Delivering pipeline (.facing role pipeline window keepAlive) [] :=
  ⟨rfl, Hosted.start, rfl, rfl, .running rfl rfl ⟨rfl, rfl⟩ rfl⟩

/-- Sessions that differ in nothing that matters to the receiving side but the bridge. -/
structure Session.Alike (s s' : Session) : Prop where
  pipeline : s'.pipeline = s.pipeline
  parked : s'.parked = s.parked
  producing : s'.producing = s.producing
  phase : s'.phase = .running ↔ s.phase = .running
  codec : s.phase = .running → s'.codec = s.codec

theorem Session.Alike.refl (s : Session) : s.Alike s := ⟨rfl, rfl, rfl, Iff.rfl, fun _ => rfl⟩

section Keeping

variable {p : Connection.Pipeline} {d d' : Duet} {h es : List Delivery}

theorem Delivering.runs (hi : Delivering p d h) (hrun : d.session.phase = .running) :
    d.session.Runs ∧ endingsOf h = [] ∧
      Hosted d.session.bridge d.consumer true (account h) := by
  cases hi.standing with
  | left hphase _ _ _ | parted _ hphase _ _ _ _ => exact absurd hrun hphase
  | running _ hproducing hquiet hnone =>
      have hhosted := hi.hosted
      rw [hproducing] at hhosted
      refine ⟨⟨hrun, hproducing, hquiet, hhosted.isOpen.1, ?_⟩, hnone, hhosted⟩
      unfold Bridge.isClosed
      rw [hhosted.isOpen.2, hi.intact]
      rfl

-- A turn of anybody but the session itself. The consumer may look.
theorem Delivering.still (hi : Delivering p d h) (hes : es = [] ∨ ∃ p, es = [.polled p])
    (hsame : d.session.Alike d'.session) (hintact : d'.session.bridge.abandoned = false)
    (hhosted : Hosted d'.session.bridge d'.consumer d.session.producing (account (h ++ es))) :
    Delivering p d' (h ++ es) := by
  have hquiet : payloadsOf es = [] ∧ endingsOf es = [] ∧
      (account (h ++ es)).accepted = (account h).accepted ∧
      (account (h ++ es)).failures = (account h).failures := by
    rw [account_append]
    rcases hes with rfl | ⟨p, rfl⟩ <;> exact ⟨rfl, rfl, rfl, rfl⟩
  rcases hquiet with ⟨hpayloads, hends, haccepted, hfailures⟩
  have hendings : endingsOf (h ++ es) = endingsOf h := by
    rw [endingsOf_append, hends, List.append_nil]
  refine ⟨hsame.pipeline.trans hi.pipeline, by rw [hsame.producing]; exact hhosted, hintact, ?_, ?_⟩
  · rw [payloadsOf_append, hpayloads, List.append_nil, hsame.pipeline, haccepted, hsame.parked]
    exact hi.conserved
  · cases hi.standing with
    | running hphase hproducing hcodec hnone =>
        refine .running (hsame.phase.2 hphase) (hsame.producing.trans hproducing) ?_
          (hendings.trans hnone)
        rw [hsame.codec hphase]
        exact hcodec
    | left hphase hproducing hnone hfail =>
        exact .left (fun hrun => hphase (hsame.phase.1 hrun)) (hsame.producing.trans hproducing)
          (hendings.trans hnone) (hfailures.trans hfail)
    | parted e hphase hproducing hend hfail hparked =>
        exact .parted e (fun hrun => hphase (hsame.phase.1 hrun))
          (hsame.producing.trans hproducing) (hendings.trans hend) (hfailures.trans hfail)
          (hsame.parked.trans hparked)

-- A session that serves and goes on.
theorem Delivering.goOn (hi : Delivering p d h) (hrun : d.session.phase = .running)
    (hpipeline : d'.session.pipeline = d.session.pipeline)
    (hrun' : d'.session.phase = .running) (hproducing : d'.session.producing = true)
    (hquiet : d'.session.codec.IsQuiet) (hintact : d'.session.bridge.abandoned = false)
    (hends : endingsOf es = [])
    (hhosted : Hosted d'.session.bridge d'.consumer true (account (h ++ es)))
    (hconserved : (payloadsOf h ++ payloadsOf es).map d'.session.pipeline.inbound =
      (account (h ++ es)).accepted ++ d'.session.parked.toList) : Delivering p d' (h ++ es) := by
  rcases hi.runs hrun with ⟨_, hnone, _⟩
  refine ⟨hpipeline.trans hi.pipeline, by rw [hproducing]; exact hhosted, hintact, ?_,
    .running hrun' hproducing hquiet ?_⟩
  · rw [payloadsOf_append]
    exact hconserved
  · rw [endingsOf_append, hnone, hends]
    rfl

-- A session that ends still holds what it held.
theorem Delivering.endWith (hi : Delivering p d h) (hrun : d.session.phase = .running)
    (codec : Codec) (phase : SessionPhase) (answers : List (Nat × Except NetError Unit))
    (socket : Socket) (e : Option NetError) (hpayloads : payloadsOf es = [])
    (haccount : account (h ++ es) = (account h).conclude e)
    (hstanding : Standing (d.session.left codec phase answers e) (h ++ es)) :
    Delivering p { d with session := d.session.left codec phase answers e, socket } (h ++ es) := by
  rcases hi.runs hrun with ⟨_, _, hhosted⟩
  refine ⟨hi.pipeline, ?_, hi.intact, ?_, hstanding⟩
  · rw [haccount]
    exact hhosted.conclude e
  · rw [payloadsOf_append, hpayloads, List.append_nil, haccount]
    exact hi.conserved

theorem of_ending {i : Delivery} {e : Option NetError} (he : i.ending? = some e) :
    payloadsOf [i] = [] ∧ endingsOf [i] = [e] ∧ ∀ s, i.enter s = s.conclude e := by
  refine ⟨?_, List.filterMap_cons_some he, ?_⟩
  · cases i with
    | read f =>
        cases f with
        | close reason => rfl
        | text _ | binary _ | ping _ | pong _ => cases he
    | finished | failed _ | accepted _ | polled _ => rfl
  · cases i with
    | read f =>
        cases f with
        | close reason =>
            cases he
            exact fun s => s.conclude_none.symm
        | text _ | binary _ | ping _ | pong _ => cases he
    | finished =>
        cases he
        exact fun s => s.conclude_none.symm
    | failed _ =>
        cases he
        exact fun s => rfl
    | accepted _ | polled _ => cases he

theorem payloadsOf_read (f : Frame) : payloadsOf [.read f] = (Session.payload? f).toList := by
  cases f <;> rfl

theorem ending_of_data {f : Frame} {payload : Bytes} (hf : Session.payload? f = some payload) :
    (Delivery.read f).ending? = none := by
  cases f with
  | text _ | binary _ => rfl
  | ping _ | pong _ | close _ => cases hf

theorem delivering_move (hi : Delivering p d h) (hrun : d.session.phase = .running)
    (hmove : ServeMove d es d') : Delivering p d' (h ++ es) := by
  rcases hi.runs hrun with ⟨hruns, hnone, hhosted⟩
  have hconserved := hi.conserved
  cases hmove with
  | waits =>
      rw [List.append_nil]
      exact hi
  | serves codec queue answers socket hc =>
      rw [List.append_nil]
      exact ⟨hi.pipeline, hi.hosted, hi.intact, hconserved, .running hrun hruns.producing hc hnone⟩
  | passes f socket hn hf he hpong =>
      refine hi.goOn hrun rfl hrun hruns.producing hruns.quiet hi.intact
        (List.filterMap_cons_none he) ?_ ?_
      · rw [account_append]
        exact hhosted
      · rw [payloadsOf_read, hf, account_append]
        exact (congrArg _ (List.append_nil _)).trans hconserved
  | accepts f payload left socket hn hf ht =>
      refine hi.goOn hrun rfl hrun hruns.producing hruns.quiet hi.intact
        (List.filterMap_cons_none (ending_of_data hf)) ?_ ?_
      · rw [account_append]
        exact hhosted.accept _ left ht
      · rw [hn, Option.toList_none, List.append_nil] at hconserved
        have hpayloads : payloadsOf
            [.read f, .accepted (d.session.pipeline.inbound payload)] = [payload] :=
          List.filterMap_cons_some hf
        rw [hpayloads, account_append, List.map_append]
        exact (congrArg (· ++ _) hconserved).trans (List.append_nil _).symm
  | parks f payload socket hn hf hd =>
      refine hi.goOn hrun rfl hrun hruns.producing hruns.quiet hi.intact
        (List.filterMap_cons_none (ending_of_data hf)) ?_ ?_
      · rw [account_append]
        exact hhosted
      · rw [hn, Option.toList_none, List.append_nil] at hconserved
        rw [payloadsOf_read, hf, account_append, List.map_append]
        exact congrArg (· ++ _) hconserved
  | hands payload left hp ht =>
      refine hi.goOn hrun rfl hrun hruns.producing hruns.quiet hi.intact rfl ?_ ?_
      · rw [account_append]
        exact hhosted.accept _ left ht
      · rw [hp] at hconserved
        rw [account_append]
        exact (congrArg _ (List.append_nil _)).trans (hconserved.trans (List.append_nil _).symm)
  | leaves codec phase answers socket hphase =>
      refine hi.endWith hrun codec phase answers socket none rfl ?_ ?_
      · rw [List.append_nil, Account.conclude_none]
      · rw [List.append_nil]
        exact .left hphase rfl hnone hhosted.running
  | parts i e codec phase answers socket hphase hn he =>
      rcases of_ending he with ⟨hpayloads, hends, henter⟩
      have haccount : account (h ++ [i]) = (account h).conclude e := by
        rw [account_append]
        exact henter _
      refine hi.endWith hrun codec phase answers socket e hpayloads haccount
        (.parted e hphase rfl ?_ ?_ hn)
      · rw [endingsOf_append, hnone, hends]
        rfl
      · rw [haccount]
        change (account h).failures ++ e.toList = e.toList
        rw [hhosted.running]
        rfl

-- A turn of the consumer, which leaves the session alone.
theorem Delivering.consume (hi : Delivering p d h) (bridge : Bridge Bytes)
    (consumer : Option Consumer)
    (hd : d' = { d with session := { d.session with bridge }, consumer })
    (hes : es = [] ∨ ∃ p, es = [.polled p])
    (hintact : bridge.abandoned = d.session.bridge.abandoned)
    (hhosted : Hosted bridge consumer d.session.producing (account (h ++ es))) :
    Delivering p d' (h ++ es) := by
  subst hd
  exact hi.still hes ⟨rfl, rfl, rfl, Iff.rfl, fun _ => rfl⟩ (hintact.trans hi.intact) hhosted

-- A session that waits for the answer to its close reads, and stays or ends.
theorem linger_cases (s : Session) (sock : Socket) (now deadline : Nat) (next : Session × Socket)
    (h : s.linger sock now deadline = some next) :
    next = ({ s with codec := (s.codec.read sock).2.1 }, (s.codec.read sock).2.2) ∨
      next = Session.finish { s with codec := (s.codec.read sock).2.1 }
        (s.codec.read sock).2.2 := by
  unfold Session.linger at h
  generalize s.codec.read sock = found at h ⊢
  rcases found with ⟨r, codec, sock'⟩
  cases r with
  | pending =>
      dsimp only at h
      split at h
      · exact .inr (Option.some.inj h).symm
      · split at h
        · cases h
        · exact .inl (Option.some.inj h).symm
  | finished | failed e => exact .inr (Option.some.inj h).symm
  | frame f =>
      cases f with
      | close reason => exact .inr (Option.some.inj h).symm
      | text _ | binary _ | ping _ | pong _ => exact .inl (Option.some.inj h).symm

-- It gives nothing to its bridge then.
theorem linger_alike (s : Session) (sock : Socket) (now deadline : Nat) (next : Session × Socket)
    (hphase : s.phase ≠ .running) (h : s.linger sock now deadline = some next) :
    s.Alike next.1 ∧ next.1.bridge = s.bridge := by
  rcases linger_cases s sock now deadline next h with rfl | rfl
  · exact ⟨⟨rfl, rfl, rfl, Iff.rfl, fun hrun => absurd hrun hphase⟩, rfl⟩
  · exact ⟨⟨rfl, rfl, rfl, ⟨by rintro ⟨⟩, fun hrun => absurd hrun hphase⟩,
      fun hrun => absurd hrun hphase⟩, rfl⟩

theorem submit_alike (s : Session) (op : SessionOp) :
    s.Alike (s.submit op).2 ∧ (s.submit op).2.bridge = s.bridge := by
  unfold Session.submit
  dsimp only
  split <;> exact ⟨⟨rfl, rfl, rfl, Iff.rfl, fun _ => rfl⟩, rfl⟩

theorem delivering_turn (d : Duet) (h : List Delivery) (t : Turn) (hi : Delivering p d h) :
    Delivering p (d.turn t) (h ++ d.delivery t) := by
  have hhosted := hi.hosted
  have hquiet : Hosted d.session.bridge d.consumer d.session.producing (account (h ++ [])) := by
    rw [List.append_nil]
    exact hhosted
  cases t with
  | arrive _ | hangUp | breakOff | collect | pass _ | stop =>
      exact hi.still (.inl rfl) (.refl _) hi.intact hquiet
  | release => exact hi.still (.inl rfl) ⟨rfl, rfl, rfl, Iff.rfl, fun _ => rfl⟩ hi.intact hquiet
  | submit op =>
      rcases submit_alike d.session op with ⟨hsame, hkept⟩
      have hintact := hi.intact
      rw [← hkept] at hquiet hintact
      exact hi.still (.inl rfl) hsame hintact hquiet
  | linger =>
      unfold Duet.delivery Duet.turn
      dsimp only
      cases hphase : d.session.phase with
      | running | ended => exact hi.still (.inl rfl) (.refl _) hi.intact hquiet
      | lingering deadline =>
          dsimp only
          cases hnext : d.session.linger d.socket d.now deadline with
          | none => exact hi.still (.inl rfl) (.refl _) hi.intact hquiet
          | some next =>
              have hover : d.session.phase ≠ .running := by
                rw [hphase]
                rintro ⟨⟩
              rcases linger_alike _ _ _ _ next hover hnext with ⟨hsame, hkept⟩
              have hintact := hi.intact
              rw [← hkept] at hquiet hintact
              exact hi.still (.inl rfl) hsame hintact hquiet
  | serve what =>
      by_cases hrun : d.session.phase = .running
      · exact delivering_move hi hrun (serve_move what (hi.runs hrun).1)
      · rcases serve_over what hrun with ⟨hturn, hnothing⟩
        rw [hturn, hnothing, List.append_nil]
        exact hi
  | attach mode =>
      unfold Duet.delivery Duet.turn Duet.attach
      dsimp only
      cases hattach : d.session.bridge.attach mode with
      | error e => exact hi.still (.inl rfl) (.refl _) hi.intact hquiet
      | ok r =>
          exact hi.consume r.2 (some r.1) rfl (.inl rfl)
            (Bridge.attach_abandoned _ mode r.1 r.2 hattach)
            (hquiet.attach mode r.1 r.2 hattach)
  | request n =>
      unfold Duet.delivery Duet.turn Duet.request
      dsimp only
      cases hc : d.consumer with
      | none => exact hi.still (.inl rfl) (.refl _) hi.intact hquiet
      | some c =>
          rw [hc] at hquiet
          exact hi.consume (d.session.bridge.request c n) (some c) rfl (.inl rfl)
            (Bridge.request_abandoned _ c n) (hquiet.request n)
  | poll =>
      unfold Duet.delivery Duet.turn Duet.poll
      dsimp only
      cases hc : d.consumer with
      | none => exact hi.still (.inl rfl) (.refl _) hi.intact hquiet
      | some c =>
          rw [hc] at hhosted
          refine hi.consume (d.session.bridge.poll c).2.2 (some (d.session.bridge.poll c).2.1) rfl
            (.inr ⟨_, rfl⟩) (Bridge.poll_abandoned _ c) ?_
          rw [account_append]
          exact hhosted.poll
  | cancel =>
      unfold Duet.delivery Duet.turn Duet.cancel
      dsimp only
      cases hc : d.consumer with
      | none => exact hi.still (.inl rfl) (.refl _) hi.intact hquiet
      | some c =>
          rw [hc] at hquiet
          exact hi.consume (d.session.bridge.detach c) none rfl (.inl rfl)
            (Bridge.detach_abandoned _ c) hquiet.detach

end Keeping

/-! ### The receiving side as a whole -/

section Whole

variable {p : Connection.Pipeline} {d d' : Duet} {h es : List Delivery}

-- Every payload that the bridge takes uses up one unit of demand, and nothing else does.
theorem demand_move (hmove : ServeMove d es d') :
    (acceptedOf es = [] ∧ d'.session.bridge.demand = d.session.bridge.demand) ∨
      ∃ payload, acceptedOf es = [payload] ∧
        takeOne? d.session.bridge.demand = some d'.session.bridge.demand := by
  cases hmove with
  | waits | serves _ _ _ _ _ | passes _ _ _ _ _ _ | parks _ _ _ _ _ _ | leaves _ _ _ _ _ =>
      exact .inl ⟨rfl, rfl⟩
  | accepts _ _ _ _ _ _ ht | hands _ _ _ ht => exact .inr ⟨_, rfl, ht⟩
  | parts i e _ _ _ _ _ _ he =>
      refine .inl ⟨?_, rfl⟩
      cases i with
      | read _ | finished | failed _ | polled _ => rfl
      | accepted _ => cases he

theorem demand_serve (hi : Delivering p d h) (what : Service) :
    (acceptedOf (d.delivery (.serve what)) = [] ∧
        (d.turn (.serve what)).session.bridge.demand = d.session.bridge.demand) ∨
      ∃ payload, acceptedOf (d.delivery (.serve what)) = [payload] ∧
        takeOne? d.session.bridge.demand =
          some (d.turn (.serve what)).session.bridge.demand := by
  by_cases hrun : d.session.phase = .running
  · exact demand_move (serve_move what (hi.runs hrun).1)
  · rcases serve_over what hrun with ⟨hturn, hnothing⟩
    rw [hturn, hnothing]
    exact .inl ⟨rfl, rfl⟩

theorem mem_delivery_poll {p : Poll Bytes} (hp : .polled p ∈ d.delivery .poll) :
    ∃ c, d.consumer = some c ∧ p = (d.session.bridge.poll c).1 := by
  unfold Duet.delivery Duet.poll at hp
  dsimp only at hp
  cases hc : d.consumer with
  | none =>
      rw [hc] at hp
      cases hp
  | some c =>
      rw [hc] at hp
      cases List.mem_singleton.1 hp
      exact ⟨c, rfl, rfl⟩

-- What is seen of a turn is the look of a consumer or comes from a session that runs.
theorem mem_delivery (hi : Delivering p d h) {t : Turn} {i : Delivery} (hmem : i ∈ d.delivery t) :
    (∃ p, i = .polled p) ∨ d.session.phase = .running ∧ ServeMove d (d.delivery t) (d.turn t) := by
  cases t with
  | poll =>
      unfold Duet.delivery at hmem
      dsimp only at hmem
      cases hpoll : d.poll with
      | none =>
          rw [hpoll] at hmem
          cases hmem
      | some r =>
          rw [hpoll] at hmem
          exact .inl ⟨r.1, List.mem_singleton.1 hmem⟩
  | serve what =>
      by_cases hrun : d.session.phase = .running
      · exact .inr ⟨hrun, serve_move what (hi.runs hrun).1⟩
      · rw [(serve_over what hrun).2] at hmem
        cases hmem
  | arrive _ | hangUp | breakOff | collect | pass _ | attach _ | request _ | cancel | submit _
  | release | stop | linger => cases hmem

-- A frame is read only while no payload is held. If it carries no data the bridge is left
-- alone, and a ping is answered.
theorem read_move {f : Frame} (hmem : .read f ∈ es) (hmove : ServeMove d es d') :
    d.session.parked = none ∧
      (Session.payload? f = none →
        acceptedOf es = [] ∧ d'.session.bridge.demand = d.session.bridge.demand) ∧
      ∀ payload, f = .ping payload → d.socket.outbox.broken = false →
        d'.socket.outbox.frames = d.socket.outbox.frames ++ [.pong payload] := by
  cases hmove with
  | waits | serves _ _ _ _ _ | leaves _ _ _ _ _ => cases hmem
  | hands _ _ _ _ => cases List.mem_singleton.1 hmem
  | passes f' socket hn hf he hpong =>
      cases List.mem_singleton.1 hmem
      exact ⟨hn, fun _ => ⟨rfl, rfl⟩, hpong⟩
  | accepts f' payload left socket hn hf ht =>
      rcases List.mem_cons.1 hmem with heq | htail
      · cases heq
        refine ⟨hn, fun hnone => absurd (hf.symm.trans hnone) (by rintro ⟨⟩), ?_⟩
        rintro _ rfl
        cases hf
      · cases List.mem_singleton.1 htail
  | parks f' payload socket hn hf hd =>
      cases List.mem_singleton.1 hmem
      refine ⟨hn, fun hnone => absurd (hf.symm.trans hnone) (by rintro ⟨⟩), ?_⟩
      rintro _ rfl
      cases hf
  | parts i e _ _ _ _ _ hn he =>
      cases List.mem_singleton.1 hmem
      refine ⟨hn, fun _ => ⟨rfl, rfl⟩, ?_⟩
      rintro _ rfl
      cases he

theorem ending_move {i : Delivery} {e : Option NetError} (hmem : i ∈ es) (he : i.ending? = some e)
    (hmove : ServeMove d es d') : d.session.parked = none := by
  cases i with
  | read f => exact (read_move hmem hmove).1
  | accepted _ | polled _ => cases he
  | finished | failed _ =>
      cases hmove with
      | waits | serves _ _ _ _ _ | leaves _ _ _ _ _ => cases hmem
      | hands _ _ _ _ | passes _ _ _ _ _ _ | parks _ _ _ _ _ _ =>
          cases List.mem_singleton.1 hmem
      | accepts _ _ _ _ _ _ _ =>
          rcases List.mem_cons.1 hmem with heq | htail
          · cases heq
          · cases List.mem_singleton.1 htail
      | parts _ _ _ _ _ _ _ hn _ => exact hn

-- Whether anything is wanted makes no difference to what is read next.
theorem read_next (hi : Delivering p d h) (hrun : d.session.phase = .running)
    (hn : d.session.parked = none) (f : Frame) (rest : List Frame)
    (hframes : d.socket.inbox.frames = f :: rest) (hsound : f.defect? = none)
    (hclose : ∀ reason, f ≠ .close reason) : .read f ∈ d.delivery (.serve .frame) := by
  have hquiet := (hi.runs hrun).1.quiet
  have hreceive : (d.session.codec.receive f).1 = .frame f := by
    unfold Codec.receive
    rw [if_neg (by rw [hquiet.canRead]; exact Bool.false_ne_true), hsound]
    cases f with
    | text _ | binary _ | ping _ | pong _ => rfl
    | close reason => exact absurd rfl (hclose reason)
  have hread : (d.session.codec.read d.socket).1 = .frame f := by
    rw [hquiet.read_eq]
    unfold Codec.take
    rw [hframes]
    exact hreceive
  have hserves : (d.session.serveFrame d.socket d.now).isSome = true := by
    unfold Session.serveFrame
    rw [if_neg (by rw [hn]; exact Bool.false_ne_true)]
    generalize d.session.codec.read d.socket = r at hread
    rcases r with ⟨r, codec, sock⟩
    cases hread
    cases f <;> rfl
  have hreading : d.reading = [.read f] := by
    unfold Duet.reading
    rw [if_pos ⟨hrun, hserves⟩, hread]
    rfl
  unfold Duet.delivery
  dsimp only
  rw [if_pos rfl, hreading]
  exact List.mem_cons_self

-- What a look brings, once it is known how the session stands.
theorem Delivering.look (hi : Delivering p d h) {r : Poll Bytes}
    (hr : .polled r ∈ d.delivery .poll) :
    r = (account h).next d.session.bridge.items d.session.producing := by
  rcases mem_delivery_poll hr with ⟨c, hc, rfl⟩
  have hhosted := hi.hosted
  rw [hc] at hhosted
  exact hhosted.poll_eq

theorem Delivering.afterEnding (hi : Delivering p d h) {e : Option NetError}
    (he : e ∈ endingsOf h) :
    endingsOf h = [e] ∧ (account h).failures = e.toList ∧ d.session.phase ≠ .running ∧
      d.session.parked = none ∧ d.session.producing = false := by
  cases hi.standing with
  | running _ _ _ hnone | left _ _ hnone _ =>
      rw [hnone] at he
      cases he
  | parted e' hphase hproducing hend hfail hparked =>
      rw [hend] at he
      cases List.mem_singleton.1 he
      exact ⟨hend, hfail, hphase, hparked, hproducing⟩

theorem Delivering.afterLeaving (hi : Delivering p d h) (hphase : d.session.phase ≠ .running)
    (hnone : endingsOf h = []) :
    (account h).failures = [] ∧ d.session.producing = false := by
  cases hi.standing with
  | running hrun _ _ _ => exact absurd hrun hphase
  | left _ hproducing _ hfail => exact ⟨hfail, hproducing⟩
  | parted _ _ _ hend _ _ =>
      rw [hend] at hnone
      cases hnone

end Whole

-- The payloads that were read are those that consumers received, those still queued, and
-- the one that the session holds. The bridge takes one for one unit of demand, frames that
-- carry no data leave it alone, and a ping is answered at once. The session reads only
-- while it holds nothing, so what the other side does to end it is seen after all that was
-- read before; a payload is left over only if the session has ended on its own account.
theorem payloads_in_order_and_one_end (role : Role) (pipeline : Connection.Pipeline)
    (window : Flow.Window) (keepAlive : Bool) (ts : List Turn) :
    let d := (Duet.facing role pipeline window keepAlive).after ts
    let h := (Duet.facing role pipeline window keepAlive).watch Duet.delivery ts
    let looks (p : Poll Bytes) : Prop := .polled p ∈ d.delivery .poll
    let queued : List (Poll Bytes) := d.session.bridge.items.map .item
    ((payloadsOf h).map pipeline.inbound = (account h).accepted ++ d.session.parked.toList ∧
        (account h).accepted = (account h).yielded ++ d.session.bridge.items) ∧
      (∀ what,
        (acceptedOf (d.delivery (.serve what)) = [] ∧
            (d.turn (.serve what)).session.bridge.demand = d.session.bridge.demand) ∨
          ∃ payload, acceptedOf (d.delivery (.serve what)) = [payload] ∧
            takeOne? d.session.bridge.demand =
              some (d.turn (.serve what)).session.bridge.demand) ∧
      (∀ t f, .read f ∈ d.delivery t →
        d.session.phase = .running ∧ d.session.parked = none ∧
          (Session.payload? f = none → acceptedOf (d.delivery t) = [] ∧
            (d.turn t).session.bridge.demand = d.session.bridge.demand)) ∧
      (d.session.phase = .running → d.session.parked = none →
        ∀ f rest, d.socket.inbox.frames = f :: rest → f.defect? = none →
          (∀ reason, f ≠ .close reason) → .read f ∈ d.delivery (.serve .frame)) ∧
      (∀ t payload, .read (.ping payload) ∈ d.delivery t → d.socket.outbox.broken = false →
        (d.turn t).socket.outbox.frames = d.socket.outbox.frames ++ [.pong payload]) ∧
      (∀ t i e, i ∈ d.delivery t → i.ending? = some e →
        (payloadsOf h).map pipeline.inbound = (account h).accepted) ∧
      (∀ e ∈ endingsOf h,
        endingsOf h = [e] ∧ (account h).failures = e.toList ∧ d.session.phase ≠ .running ∧
          d.session.parked = none ∧
          ∀ p, looks p → p = queued.headD
            (if (account h).terminals.isEmpty then e.elim .ended .failed else .ended)) ∧
      (d.session.phase ≠ .running → endingsOf h = [] →
        (account h).failures = [] ∧ ∀ p, looks p → p = queued.headD .ended) ∧
      (d.session.phase = .running → endingsOf h = [] ∧
        ∀ p, looks p → p = queued.headD .pending) ∧
      ((account h).terminals = [] ∨ ∃ k, (account h).terminals =
        (account h).failures.map .failed ++ List.replicate k .ended) := by
  intro d h looks queued
  have hi : Delivering pipeline d h := Schedule.invariant_after delivering_turn _ []
    (delivering_start role pipeline window keepAlive) ts
  have hconserved := hi.conserved
  rw [hi.pipeline] at hconserved
  refine ⟨⟨hconserved, hi.hosted.order⟩, demand_serve hi, fun t f hmem => ?_, read_next hi,
    fun t payload hmem hwhole => ?_, fun t i e hmem he => ?_, fun e he => ?_,
    fun hphase hnone => ?_, fun hrun => ?_, hi.hosted.terminals_eq⟩
  · rcases mem_delivery hi hmem with ⟨p, hp⟩ | ⟨hrun, hmove⟩
    · cases hp
    · rcases read_move hmem hmove with ⟨hn, hcontrol, _⟩
      exact ⟨hrun, hn, hcontrol⟩
  · rcases mem_delivery hi hmem with ⟨p, hp⟩ | ⟨_, hmove⟩
    · cases hp
    · exact (read_move hmem hmove).2.2 payload rfl hwhole
  · rcases mem_delivery hi hmem with ⟨p, rfl⟩ | ⟨_, hmove⟩
    · cases he
    · rw [hconserved, ending_move hmem he hmove, Option.toList_none, List.append_nil]
  · rcases hi.afterEnding he with ⟨hend, hfail, hphase, hparked, hstop⟩
    refine ⟨hend, hfail, hphase, hparked, fun p hp => ?_⟩
    rw [hi.look hp, hstop]
    cases e with
    | none =>
        rw [Account.next_of_ended _ _ hfail, Option.elim_none, ite_self]
    | some e => rw [Account.next_of_failed _ _ e hfail, Option.elim_some]
  · rcases hi.afterLeaving hphase hnone with ⟨hfail, hstop⟩
    refine ⟨hfail, fun p hp => ?_⟩
    rw [hi.look hp, hstop, Account.next_of_ended _ _ hfail]
  · rcases hi.runs hrun with ⟨hruns, hnone, _⟩
    refine ⟨hnone, fun p hp => ?_⟩
    rw [hi.look hp, hruns.producing, Account.next_of_present]

/-- A payload that nobody wants holds up the ping behind it, but not the one before it. -/
example : ((Duet.facing .server [] (.bounded 1) true).after
    [.arrive (.ping [1]), .arrive (.text [2]), .arrive (.ping [3]), .serve .frame, .serve .frame,
      .serve .frame]).socket.outbox.frames = [.pong [1]] := by
  rfl

end WebSocket

end DemandNet
