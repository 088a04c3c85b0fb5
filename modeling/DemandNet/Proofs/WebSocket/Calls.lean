import DemandNet.Proofs.WebSocket.Outgoing

/-!
# Calls of a Session

What a session asks of its codec, and which answers follow from that.

What is on the wire says what became of a message only as far as the codec can be trusted
with it. Here nothing is known of the codec. Between any two turns it and its socket may
turn into any others, so that it can fail in any call and read whatever it likes, and what
is proved of a session is owed to the session alone. What can be seen then are the calls
that it makes of its codec and the answers that it gives.

A step of a session is one of four things. It may have nothing to do with requests; it may
hand a message to the codec, which accepts it; it may be the last one, because the codec
refused a message, because it was told to close, because the other side did or for a reason
that has nothing to do with requests; and after the end the close of the other side may
still be read. The last step settles all that is queued. A request that is made is queued or
declined. All that is proved of calls and answers is derived from this.

## Main definitions

* `Move`: A turn, or a disturbance of the codec.
* `Dealing`: What can be seen of a session and its codec.
* `Duet.calls`, `Duet.dealings`: What a move shows of it.
* `Fate`: The calls that were made for a request, and its answer.
* `Farewell`, `Deal`, `Deals`: What a step can do.

## Theorems

* `deal_serve`, `deal_linger`: Every step of the session does one of those things.
* `Deal.fates`: A step settles requests as their calls say.
* `deals_move`: Every move does one of those things, or makes a request.
-/

namespace DemandNet

namespace WebSocket

/-- A turn of somebody, or the codec and its socket turn into any others. -/
inductive Move where
  | turn (t : Turn)
  | disturb (codec : Codec) (socket : Socket)
  deriving DecidableEq

/-- What can be seen of a session, its requests and its codec. -/
inductive Dealing where
  /-- A request was made; it is late if the session no longer runs. -/
  | submitted (ticket : Nat) (op : SessionOp) (late : Bool)
  /-- A message was handed to the codec. -/
  | sent (ticket : Nat) (f : Frame) (r : Except CodecError Unit)
  /-- The codec was told to begin the closing handshake, for a request or because nobody
      holds the session any more. -/
  | closed (ticket : Option Nat) (r : Except CodecError Unit)
  /-- The close of the other side was read. -/
  | parted
  | answered (ticket : Nat) (r : Except NetError Unit)

/-- What is heard of the other side's close when the session reads. -/
def Session.heard (s : Session) (sock : Socket) : List Dealing :=
  match (s.codec.read sock).1 with
  | .frame (.close _) => [.parted]
  | _ => []

/-- What a service asks of the codec for a request, and what it hears. -/
def Session.calls (s : Session) (sock : Socket) : Service → List Dealing
  | .request =>
      match s.queue with
      | ⟨t, .send m⟩ :: _ => [.sent t (s.encode m) (s.codec.send sock (s.encode m)).1]
      | ⟨t, .close⟩ :: _ => [.closed (some t) (s.codec.close sock none).1]
      | [] => if s.released then [.closed none (s.codec.close sock none).1] else []
  | .frame => if s.parked.isSome then [] else s.heard sock
  | .demand | .offer | .stop => []

namespace Duet

/-- The session after a move. -/
def move (d : Duet) : Move → Duet
  | .turn t => d.turn t
  | .disturb codec socket => { d with session := { d.session with codec }, socket }

/-- The request that a move makes. -/
def asked (d : Duet) : Move → List Dealing
  | .turn (.submit op) => [.submitted d.session.issued op d.session.isClosed]
  | _ => []

/-- What a move asks of the codec, and what it hears. -/
def calls (d : Duet) : Move → List Dealing
  | .turn (.serve what) =>
      if d.session.phase = .running then d.session.calls d.socket what else []
  | .turn .linger =>
      match d.session.phase with
      | .lingering _ => d.session.heard d.socket
      | _ => []
  | _ => []

/-- What a move shows, with the answers that it gives. -/
def dealings (d : Duet) (m : Move) : List Dealing :=
  d.asked m ++ d.calls m ++
    ((d.move m).session.answers.drop d.session.answers.length).map fun a => .answered a.1 a.2

end Duet

/-! ### Parts of a history -/

/-- The request for which the codec was called. -/
def Dealing.caller? : Dealing → Option Nat
  | .sent t _ _ => some t
  | .closed t _ => t
  | _ => none

/-- The codec was called to send or to close. -/
def Dealing.isCall : Dealing → Bool
  | .sent _ _ _ => true
  | .closed _ _ => true
  | _ => false

/-- Nothing is sent or closed behind this: the codec refused a message, the closing handshake
    was begun, or the other side has closed. -/
def Dealing.isLast : Dealing → Bool
  | .sent _ _ (.error _) => true
  | .closed _ _ => true
  | .parted => true
  | _ => false

/-- The calls that were made for a request. -/
def callsOf (t : Nat) (h : List Dealing) : List Dealing := h.filter fun e => e.caller? == some t

/-- The requests that were made, by number. -/
def ticketsOf (h : List Dealing) : List Nat :=
  h.filterMap fun
    | .submitted t _ _ => some t
    | _ => none

/-- The answers that were given. -/
def answersOf (h : List Dealing) : List (Nat × Except NetError Unit) :=
  h.filterMap fun
    | .answered t r => some (t, r)
    | _ => none

/-- The messages that were submitted, as the codec is to get them. -/
def submissionsOf (p : Connection.Pipeline) (h : List Dealing) : List (Nat × Frame) :=
  h.filterMap fun
    | .submitted t (.send m) _ => some (t, m.frame p)
    | _ => none

/-- The messages that were handed to the codec. -/
def handedOf (h : List Dealing) : List (Nat × Frame) :=
  h.filterMap fun
    | .sent t f _ => some (t, f)
    | _ => none

/-- The frames of the messages that the codec took. -/
def takenOf (h : List Dealing) : List Frame :=
  h.filterMap fun
    | .sent _ f (.ok ()) => some f
    | _ => none

/-- Answers as they are seen. -/
def answering (as : List (Nat × Except NetError Unit)) : List Dealing :=
  as.map fun a => .answered a.1 a.2

/-- What may follow the last call. -/
def Follows (e e' : Dealing) : Prop := e.isLast = true → e'.isCall = false

theorem callsOf_append (t : Nat) (h es : List Dealing) :
    callsOf t (h ++ es) = callsOf t h ++ callsOf t es := List.filter_append _ _

theorem ticketsOf_append (h es : List Dealing) :
    ticketsOf (h ++ es) = ticketsOf h ++ ticketsOf es := List.filterMap_append

theorem answersOf_append (h es : List Dealing) :
    answersOf (h ++ es) = answersOf h ++ answersOf es := List.filterMap_append

theorem submissionsOf_append (p : Connection.Pipeline) (h es : List Dealing) :
    submissionsOf p (h ++ es) = submissionsOf p h ++ submissionsOf p es := List.filterMap_append

theorem handedOf_append (h es : List Dealing) :
    handedOf (h ++ es) = handedOf h ++ handedOf es := List.filterMap_append

theorem takenOf_append (h es : List Dealing) :
    takenOf (h ++ es) = takenOf h ++ takenOf es := List.filterMap_append

-- Answers are neither requests nor calls.
theorem parts_of_answering (p : Connection.Pipeline) (as : List (Nat × Except NetError Unit)) :
    answersOf (answering as) = as ∧ ticketsOf (answering as) = [] ∧
      submissionsOf p (answering as) = [] ∧ handedOf (answering as) = [] ∧
      takenOf (answering as) = [] := by
  induction as with
  | nil => exact ⟨rfl, rfl, rfl, rfl, rfl⟩
  | cons a rest ih =>
      rcases ih with ⟨hanswers, htickets, hsubmissions, hhanded, htaken⟩
      refine ⟨?_, htickets, hsubmissions, hhanded, htaken⟩
      change a :: answersOf (answering rest) = _
      rw [hanswers]

theorem callsOf_answering (t : Nat) (as : List (Nat × Except NetError Unit)) :
    callsOf t (answering as) = [] := by
  induction as with
  | nil => rfl
  | cons a rest ih => exact ih

theorem answering_cases (as : List (Nat × Except NetError Unit)) :
    ∀ e ∈ answering as, e.isLast = false ∧ e.isCall = false := by
  intro e he
  rcases List.mem_map.1 he with ⟨a, -, rfl⟩
  exact ⟨rfl, rfl⟩

/-! ### What a step can do -/

/-- The calls that were made for a request, and the answer that it got. -/
inductive Fate (p : Connection.Pipeline) (t : Nat) :
    SessionOp → Bool → List Dealing → Except NetError Unit → Prop
  /-- The session had ended before the message was submitted. -/
  | late (m : Message) : Fate p t (.send m) true []
      (.error (.notRunning "websocket session closed"))
  /-- The message was still queued when the session ended. -/
  | dropped (m : Message) : Fate p t (.send m) false [] (.error .remoteClosed)
  | accepted (m : Message) : Fate p t (.send m) false [.sent t (m.frame p) (.ok ())] (.ok ())
  /-- The codec refused the message, and its failure is the answer. -/
  | refused (m : Message) (e : CodecError) : Fate p t (.send m) false
      [.sent t (m.frame p) (.error e)] (.error .webSocketCodec)
  /-- A close finds the session ended, be it that it was queued before. -/
  | unheard (late : Bool) : Fate p t .close late [] (.ok ())
  /-- A close succeeds if the codec says so, or says that it has closed already. -/
  | closed (r : Except CodecError Unit)
      (hr : r = .ok () ∨ r = .error .closed ∨ r = .error .alreadyClosed) :
      Fate p t .close false [.closed (some t) r] (.ok ())
  | failed (e : CodecError) (he : e ≠ .closed ∧ e ≠ .alreadyClosed) :
      Fate p t .close false [.closed (some t) (.error e)] (.error .webSocketCodec)

theorem fate_close (p : Connection.Pipeline) (t : Nat) (r : Except CodecError Unit) :
    Fate p t .close false [.closed (some t) r] (Session.closeOutcome r) := by
  cases r with
  | ok u => exact .closed (.ok ()) (Or.inl rfl)
  | error e =>
      cases e with
      | closed => exact .closed _ (Or.inr (Or.inl rfl))
      | alreadyClosed => exact .closed _ (Or.inr (Or.inr rfl))
      | sendAfterClosing | receivedAfterClosing | reset | oversized | garbled | disconnected =>
          refine .failed _ ?_
          simp only [ne_eq, reduceCtorEq, not_false_eq_true, and_self]

theorem fate_dropped (p : Connection.Pipeline) (r : SessionRequest) :
    Fate p r.ticket r.op false [] (Session.droppedAnswer r.op) := by
  cases r.op with
  | send m => exact .dropped m
  | close => exact .unheard false

theorem fate_late (p : Connection.Pipeline) (t : Nat) (op : SessionOp) :
    Fate p t op true [] (Session.lateAnswer op) := by
  cases op with
  | send m => exact .late m
  | close => exact .unheard true

/-- How a session ends: its last calls, the request that they settle, and those that are
    still queued. -/
inductive Farewell (s : Session) : List Dealing → List Settled → List SessionRequest → Prop
  | refused (t : Nat) (m : Message) (e : CodecError) (rest : List SessionRequest)
      (hq : s.queue = ⟨t, .send m⟩ :: rest) :
      Farewell s [.sent t (m.frame s.pipeline) (.error e)]
        [⟨t, .send m, .error .webSocketCodec⟩] rest
  | closes (t : Nat) (r : Except CodecError Unit) (rest : List SessionRequest)
      (hq : s.queue = ⟨t, .close⟩ :: rest) :
      Farewell s [.closed (some t) r] [⟨t, .close, Session.closeOutcome r⟩] rest
  /-- Nobody holds the session any more. -/
  | released (r : Except CodecError Unit) (hq : s.queue = []) : Farewell s [.closed none r] [] []
  /-- The other side has closed. -/
  | parts : Farewell s [.parted] [] s.queue
  /-- The session was told to stop, or it cannot read on. -/
  | stops : Farewell s [] [] s.queue

/-- What a step does to requests, and which of them it settles. -/
inductive Deal (s : Session) : List Dealing → List Settled → Session → Prop
  | aside (s' : Session) (h : s.SameWork s') : Deal s [] [] s'
  /-- After its end the session reads the close of the other side. -/
  | hears (s' : Session) (hover : s.phase ≠ .running) (h : s.SameWork s') :
      Deal s [.parted] [] s'
  | accepts (t : Nat) (m : Message) (rest : List SessionRequest) (s' : Session)
      (hrun : s.phase = .running) (hq : s.queue = ⟨t, .send m⟩ :: rest)
      (h : Session.SameWork
        { s with queue := rest, answers := s.answers ++ [(t, .ok ())] } s') :
      Deal s [.sent t (m.frame s.pipeline) (.ok ())] [⟨t, .send m, .ok ()⟩] s'
  | leaves (calls : List Dealing) (rs : List Settled) (rest : List SessionRequest) (s' : Session)
      (hrun : s.phase = .running) (hover : s'.phase ≠ .running) (hf : Farewell s calls rs rest)
      (h : Session.SameWork
        { s with
          queue := [], phase := s'.phase
          answers := s.answers ++ (rs ++ rest.map Settled.dropped).map Settled.answer } s') :
      Deal s calls (rs ++ rest.map Settled.dropped) s'

section Steps

variable {s : Session}

-- A session that leaves has settled a request or none, and drops those that are left.
theorem deal_leave {settling : Session} (sock : Socket) (now : Nat) (waits : Bool)
    {calls : List Dealing} {rs : List Settled} {rest : List SessionRequest}
    (hrun : s.phase = .running) (hf : Farewell s calls rs rest)
    (hsame : Session.SameWork
      { s with queue := rest, answers := s.answers ++ rs.map Settled.answer } settling) :
    Deal s calls (rs ++ rest.map Settled.dropped) (settling.leave sock now waits).1 := by
  rcases leave_eq settling sock now waits with ⟨phase, sock', hphase, -, -, hleave⟩
  rcases stopProducing_same settling with ⟨hstop, -⟩
  rw [hleave]
  refine .leaves calls rs rest _ hrun hphase hf ⟨?_, rfl, ?_, ?_, Iff.rfl⟩
  · exact hstop.pipeline.trans hsame.pipeline
  · exact hstop.issued.trans hsame.issued
  · dsimp only
    rw [hstop.answers, hstop.queue, hsame.answers, hsame.queue, List.map_append, List.map_map,
      List.append_assoc]
    rfl

theorem deal_request (sock : Socket) (now : Nat) (hrun : s.phase = .running) :
    ∃ rs, Deal s (s.calls sock .request) rs
      (((s.serveRequest sock now).map Prod.fst).getD s) := by
  unfold Session.calls Session.serveRequest
  cases hq : s.queue with
  | nil =>
      dsimp only
      by_cases hr : s.released = true
      · rw [if_pos hr, if_pos hr]
        exact ⟨_, deal_leave _ now true hrun (.released _ hq)
          ⟨rfl, rfl, rfl, (List.append_nil _).symm, Iff.rfl⟩⟩
      · rw [if_neg hr, if_neg hr]
        exact ⟨[], .aside s (.refl s)⟩
  | cons r rest =>
      rcases r with ⟨t, op⟩
      cases op with
      | close =>
          exact ⟨_, deal_leave _ now true hrun (.closes t _ rest hq) ⟨rfl, rfl, rfl, rfl, Iff.rfl⟩⟩
      | send m =>
          dsimp only
          rw [encode_eq_frame]
          generalize s.codec.send sock (m.frame s.pipeline) = outcome
          rcases outcome with ⟨r, codec, sock'⟩
          cases r with
          | ok u =>
              exact ⟨_, .accepts t m rest _ hrun hq ⟨rfl, rfl, rfl, rfl, Iff.rfl⟩⟩
          | error e =>
              exact ⟨_, deal_leave _ now false hrun (.refused t m e rest hq)
                ⟨rfl, rfl, rfl, rfl, Iff.rfl⟩⟩

theorem deal_frame (sock : Socket) (now : Nat) (hrun : s.phase = .running) :
    ∃ rs, Deal s (s.calls sock .frame) rs (((s.serveFrame sock now).map Prod.fst).getD s) := by
  unfold Session.calls Session.serveFrame
  by_cases hp : s.parked.isSome = true
  · simp only [hp, if_true, Option.map_none, Option.getD_none]
    exact ⟨[], .aside s (.refl s)⟩
  · simp only [hp, Bool.false_eq_true, if_false]
    unfold Session.heard
    generalize s.codec.read sock = found
    rcases found with ⟨r, codec, sock'⟩
    have hleave : ∀ (settling : Session) calls (sock'' : Socket), Farewell s calls [] s.queue →
        s.SameWork settling → ∃ rs, Deal s calls rs (settling.leave sock'' now false).1 := by
      intro settling calls sock'' hf hsame
      refine ⟨_, deal_leave sock'' now false hrun hf ⟨hsame.pipeline, hsame.queue, hsame.issued,
        ?_, hsame.phase⟩⟩
      exact hsame.answers.trans (List.append_nil _).symm
    have hcodec : ∀ codec, s.SameWork { s with codec } := fun _ => ⟨rfl, rfl, rfl, rfl, Iff.rfl⟩
    cases r with
    | pending =>
        dsimp only
        by_cases hc : codec = s.codec
        · rw [if_pos hc]
          exact ⟨[], .aside s (.refl s)⟩
        · rw [if_neg hc]
          exact ⟨[], .aside _ (hcodec codec)⟩
    | finished => exact hleave _ _ _ .stops (hcodec codec)
    | failed e =>
        rcases failProducing_same { s with codec } with ⟨hsame, -⟩
        exact hleave _ _ _ .stops
          ⟨hsame.pipeline, hsame.queue, hsame.issued, hsame.answers, hsame.phase⟩
    | frame f =>
        cases f with
        | close reason => exact hleave _ _ _ .parts (hcodec _)
        | ping payload => exact ⟨[], .aside _ (hcodec _)⟩
        | pong payload => exact ⟨[], .aside _ (hcodec _)⟩
        | text payload | binary payload =>
            rcases offer_same { s with codec } (s.pipeline.inbound payload) with ⟨hsame, -⟩
            exact ⟨[], .aside _
              ⟨hsame.pipeline, hsame.queue, hsame.issued, hsame.answers, hsame.phase⟩⟩

theorem deal_demand : ∃ rs, Deal s [] rs (s.serveDemand.getD s) := by
  unfold Session.serveDemand
  split
  · exact ⟨[], .aside s (.refl s)⟩
  split
  · split
    · exact ⟨[], .aside s (.refl s)⟩
    · rcases stopProducing_same s with ⟨hsame, -⟩
      exact ⟨[], .aside _
        ⟨hsame.pipeline, hsame.queue, hsame.issued, hsame.answers, hsame.phase⟩⟩
    · exact ⟨[], .aside _ (offer_same s _).1⟩
  · exact ⟨[], .aside s (.refl s)⟩

theorem deal_serve (sock : Socket) (now : Nat) (stopping : Bool) (hrun : s.phase = .running)
    (what : Service) :
    ∃ rs, Deal s (s.calls sock what) rs
      (((s.serve sock now stopping what).map Prod.fst).getD s) := by
  cases what with
  | request => exact deal_request sock now hrun
  | frame => exact deal_frame sock now hrun
  | demand =>
      have hserve : ((s.serve sock now stopping .demand).map Prod.fst).getD s =
          s.serveDemand.getD s := by
        simp only [Session.serve, Option.map_map, Function.comp_def, Option.map_id']
      rw [hserve]
      exact deal_demand
  | offer =>
      unfold Session.serve
      dsimp only
      cases s.parked with
      | none => exact ⟨[], .aside s (.refl s)⟩
      | some payload => exact ⟨[], .aside _ (offer_same s payload).1⟩
  | stop =>
      unfold Session.serve Session.serveStop
      cases stopping with
      | false => exact ⟨[], .aside s (.refl s)⟩
      | true =>
          refine ⟨_, deal_leave sock now false hrun .stops ⟨rfl, rfl, rfl, ?_, Iff.rfl⟩⟩
          exact (List.append_nil _).symm

-- A session that waits for the answer to its close hears it, or something else.
theorem deal_linger (sock : Socket) (now deadline : Nat) (hphase : s.phase = .lingering deadline) :
    ∃ rs, Deal s (s.heard sock) rs (((s.linger sock now deadline).map Prod.fst).getD s) := by
  have hover : s.phase ≠ .running := by
    rw [hphase]
    simp only [ne_eq, reduceCtorEq, not_false_eq_true]
  have hsame : s.SameWork (((s.linger sock now deadline).map Prod.fst).getD s) := by
    cases hl : s.linger sock now deadline with
    | none => exact .refl s
    | some next =>
        rcases linger_cases s sock now deadline next hl with rfl | rfl
        · exact ⟨rfl, rfl, rfl, rfl, Iff.rfl⟩
        · refine ⟨rfl, rfl, rfl, rfl, fun h => ?_, fun h => absurd h hover⟩
          simp only [Option.map_some, Option.getD_some, Session.finish, reduceCtorEq] at h
  unfold Session.heard
  split
  · exact ⟨[], .hears _ hover hsame⟩
  · exact ⟨[], .aside _ hsame⟩

end Steps

/-- What a move does to requests, and what is seen of it. -/
inductive Deals (s : Session) : List Dealing → Session → Prop
  | settles (calls : List Dealing) (rs : List Settled) (s' : Session) (h : Deal s calls rs s') :
      Deals s (calls ++ answering (rs.map Settled.answer)) s'
  | queues (op : SessionOp) (hrun : s.phase = .running) :
      Deals s [.submitted s.issued op false]
        { s with issued := s.issued + 1, queue := s.queue ++ [⟨s.issued, op⟩] }
  | declines (op : SessionOp) (hover : s.phase ≠ .running) :
      Deals s [.submitted s.issued op true, .answered s.issued (Session.lateAnswer op)]
        { s with
          issued := s.issued + 1
          answers := s.answers ++ [(s.issued, Session.lateAnswer op)] }

/-! ### What follows from a step -/

/-- The messages among requests, as the codec is to get them. -/
def framesOf (p : Connection.Pipeline) (rs : List SessionRequest) : List (Nat × Frame) :=
  rs.filterMap fun
    | ⟨t, .send m⟩ => some (t, m.frame p)
    | ⟨_, .close⟩ => none

theorem framesOf_append (p : Connection.Pipeline) (rs rs' : List SessionRequest) :
    framesOf p (rs ++ rs') = framesOf p rs ++ framesOf p rs' := List.filterMap_append

theorem callsOf_self {t : Nat} {e : Dealing} (h : e.caller? = some t) : callsOf t [e] = [e] := by
  unfold callsOf
  rw [List.filter_cons, h, beq_self_eq_true, if_pos rfl, List.filter_nil]

theorem callsOf_other {t : Nat} {e : Dealing} (h : e.caller? ≠ some t) : callsOf t [e] = [] := by
  unfold callsOf
  rw [List.filter_cons, if_neg (by simpa only [beq_iff_eq] using h), List.filter_nil]

section Deals

variable {s s' : Session} {calls : List Dealing} {rs : List Settled} {rest : List SessionRequest}

theorem Farewell.queue (h : Farewell s calls rs rest) :
    s.queue = rs.map Settled.request ++ rest := by
  cases h with
  | refused t m e rest hq => exact hq
  | closes t r rest hq => exact hq
  | released r hq => exact hq
  | parts => rfl
  | stops => rfl

theorem Deal.account (h : Deal s calls rs s') :
    s'.pipeline = s.pipeline ∧ s'.issued = s.issued ∧
      s.queue = rs.map Settled.request ++ s'.queue ∧
      s'.answers = s.answers ++ rs.map Settled.answer := by
  cases h with
  | aside s' hsame =>
      exact ⟨hsame.pipeline, hsame.issued, hsame.queue.symm,
        hsame.answers.trans (List.append_nil _).symm⟩
  | hears s' hover hsame =>
      exact ⟨hsame.pipeline, hsame.issued, hsame.queue.symm,
        hsame.answers.trans (List.append_nil _).symm⟩
  | accepts t m rest s' hrun hq hsame =>
      refine ⟨hsame.pipeline, hsame.issued, ?_, hsame.answers⟩
      rw [hsame.queue]
      exact hq
  | leaves calls rs rest s' hrun hover hf hsame =>
      refine ⟨hsame.pipeline, hsame.issued, ?_, hsame.answers⟩
      rw [hsame.queue, hf.queue, List.map_append, request_dropped, List.append_nil]

-- A call is no request and no answer.
theorem Deal.unasked (h : Deal s calls rs s') (p : Connection.Pipeline) :
    answersOf calls = [] ∧ ticketsOf calls = [] ∧ submissionsOf p calls = [] := by
  cases h with
  | aside s' hsame => exact ⟨rfl, rfl, rfl⟩
  | hears s' hover hsame => exact ⟨rfl, rfl, rfl⟩
  | accepts t m rest s' hrun hq hsame => exact ⟨rfl, rfl, rfl⟩
  | leaves calls rs rest s' hrun hover hf hsame => cases hf <;> exact ⟨rfl, rfl, rfl⟩

-- A session that runs on has called the codec for all that it has settled.
theorem Deal.runs (h : Deal s calls rs s') (hrun : s'.phase = .running) :
    s.phase = .running ∧ (∀ e ∈ calls, e.isLast = false) ∧
      (∀ r ∈ rs, callsOf r.ticket calls ≠ []) ∧
      handedOf calls = framesOf s.pipeline (rs.map Settled.request) := by
  cases h with
  | aside s' hsame =>
      exact ⟨hsame.phase.1 hrun, fun e he => absurd he List.not_mem_nil,
        fun r hr => absurd hr List.not_mem_nil, rfl⟩
  | hears s' hover hsame => exact absurd (hsame.phase.1 hrun) hover
  | accepts t m rest s' hrunning hq hsame =>
      refine ⟨hrunning, fun e he => ?_, fun r hr => ?_, rfl⟩
      · rw [List.mem_singleton.1 he]
        rfl
      · rw [List.mem_singleton.1 hr, callsOf_self rfl]
        exact List.cons_ne_nil _ _
  | leaves calls rs rest s' hrunning hover hf hsame => exact absurd hrun hover

-- Once a session has ended it settles nothing and calls nobody.
theorem Deal.over (h : Deal s calls rs s') (hover : s.phase ≠ .running) :
    s'.phase ≠ .running ∧ rs = [] ∧ ∀ e ∈ calls, e.isCall = false := by
  cases h with
  | aside s' hsame =>
      exact ⟨fun hrun => hover (hsame.phase.1 hrun), rfl, fun e he => absurd he List.not_mem_nil⟩
  | hears s' hover' hsame =>
      refine ⟨fun hrun => hover (hsame.phase.1 hrun), rfl, fun e he => ?_⟩
      rw [List.mem_singleton.1 he]
      rfl
  | accepts t m rest s' hrun hq hsame => exact absurd hrun hover
  | leaves calls rs rest s' hrun hover' hf hsame => exact absurd hrun hover

theorem Deal.ends (h : Deal s calls rs s') (hrun : s.phase = .running)
    (hover : s'.phase ≠ .running) : s'.queue = [] := by
  cases h with
  | aside s' hsame => exact absurd (hsame.phase.2 hrun) hover
  | hears s' hover' hsame => exact absurd hrun hover'
  | accepts t m rest s' hrun hq hsame => exact absurd (hsame.phase.2 hrun) hover
  | leaves calls rs rest s' hrun hover hf hsame => exact hsame.queue

theorem Deal.handed (h : Deal s calls rs s') :
    handedOf calls <+: framesOf s.pipeline (rs.map Settled.request) := by
  cases h with
  | aside s' hsame => exact List.nil_prefix
  | hears s' hover hsame => exact List.nil_prefix
  | accepts t m rest s' hrun hq hsame => exact List.prefix_refl _
  | leaves calls rs rest s' hrun hover hf hsame =>
      rw [List.map_append, framesOf_append]
      cases hf with
      | refused t m e rest hq => exact List.prefix_append _ _
      | closes t r rest hq => exact List.nil_prefix
      | released r hq => exact List.nil_prefix
      | parts => exact List.nil_prefix
      | stops => exact List.nil_prefix

-- A step makes one call or none.
theorem Deal.alone (h : Deal s calls rs s') : calls.Pairwise Follows := by
  cases h with
  | aside s' hsame => exact .nil
  | hears s' hover hsame => exact List.pairwise_singleton _ _
  | accepts t m rest s' hrun hq hsame => exact List.pairwise_singleton _ _
  | leaves calls rs rest s' hrun hover hf hsame =>
      cases hf with
      | refused t m e rest hq => exact List.pairwise_singleton _ _
      | closes t r rest hq => exact List.pairwise_singleton _ _
      | released r hq => exact List.pairwise_singleton _ _
      | parts => exact List.pairwise_singleton _ _
      | stops => exact .nil

-- Calls are made for requests that are settled with them.
theorem Deal.strangers (h : Deal s calls rs s') (t : Nat) (ht : t ∉ rs.map Settled.ticket) :
    callsOf t calls = [] := by
  cases h with
  | aside s' hsame => rfl
  | hears s' hover hsame => rfl
  | accepts u m rest s' hrun hq hsame =>
      refine callsOf_other fun hu => ht ?_
      cases hu
      exact List.mem_cons_self
  | leaves calls rs rest s' hrun hover hf hsame =>
      cases hf with
      | refused u m e rest hq =>
          refine callsOf_other fun hu => ht ?_
          cases hu
          exact List.mem_cons_self
      | closes u r rest hq =>
          refine callsOf_other fun hu => ht ?_
          cases hu
          exact List.mem_cons_self
      | released r hq => rfl
      | parts => rfl
      | stops => rfl

/-- The fate of a request that a step has settled. -/
def Settled.Fares (s : Session) (calls : List Dealing) (r : Settled) : Prop :=
  Fate s.pipeline r.ticket r.op false (callsOf r.ticket calls) r.result

-- Those that were still queued had no calls, so their tickets have to differ from the one
-- for which the last call was made.
theorem fares_dropped (p : Session) (hnone : ∀ r ∈ rest, callsOf r.ticket calls = []) :
    ∀ r ∈ rest.map Settled.dropped, r.Fares p calls := by
  intro r hr
  rcases List.mem_map.1 hr with ⟨q, hq, rfl⟩
  unfold Settled.Fares
  change Fate _ q.ticket q.op false (callsOf q.ticket calls) _
  rw [hnone q hq]
  exact fate_dropped _ q

theorem Deal.fates (h : Deal s calls rs s')
    (hnodup : (s.queue.map SessionRequest.ticket).Nodup) : ∀ r ∈ rs, r.Fares s calls := by
  cases h with
  | aside s' hsame => exact fun r hr => absurd hr List.not_mem_nil
  | hears s' hover hsame => exact fun r hr => absurd hr List.not_mem_nil
  | accepts t m rest s' hrun hq hsame =>
      intro r hr
      rw [List.mem_singleton.1 hr, Settled.Fares, callsOf_self rfl]
      exact .accepted m
  | leaves calls rs rest s' hrun hover hf hsame =>
      have hother : ∀ (q : SessionRequest) (e : Dealing), s.queue = q :: rest →
          e.caller? = some q.ticket → ∀ r ∈ rest, callsOf r.ticket [e] = [] := by
        intro q e hq he r hr
        rw [hq, List.map_cons, List.nodup_cons] at hnodup
        refine callsOf_other fun hr' => hnodup.1 ?_
        rw [he, Option.some.injEq] at hr'
        rw [hr']
        exact List.mem_map_of_mem hr
      intro r hr
      rcases List.mem_append.1 hr with hlast | hdropped
      · cases hf with
        | refused t m e rest hq =>
            rw [List.mem_singleton.1 hlast, Settled.Fares, callsOf_self rfl]
            exact .refused m e
        | closes t r rest hq =>
            rw [List.mem_singleton.1 hlast, Settled.Fares, callsOf_self rfl]
            exact fate_close s.pipeline t r
        | released r hq => exact absurd hlast List.not_mem_nil
        | parts => exact absurd hlast List.not_mem_nil
        | stops => exact absurd hlast List.not_mem_nil
      · refine fares_dropped s ?_ r hdropped
        cases hf with
        | refused t m e rest hq => exact hother _ _ hq rfl
        | closes t r rest hq => exact hother _ _ hq rfl
        | released r hq => exact fun r hr => absurd hr List.not_mem_nil
        | parts => exact fun r hr => rfl
        | stops => exact fun r hr => rfl

end Deals

/-! ### What a move does -/

section Moves

variable {d : Duet} {m : Move}

theorem deals_of_deal (rs : List Settled) (hasked : d.asked m = [])
    (h : Deal d.session (d.calls m) rs (d.move m).session) :
    Deals d.session (d.dealings m) (d.move m).session := by
  rcases h.account with ⟨-, -, -, hanswers⟩
  unfold Duet.dealings
  rw [hasked, hanswers, List.drop_left]
  exact .settles _ _ _ h

theorem deals_aside (hasked : d.asked m = []) (hcalls : d.calls m = [])
    (hsame : d.session.SameWork (d.move m).session) :
    Deals d.session (d.dealings m) (d.move m).session := by
  refine deals_of_deal [] hasked ?_
  rw [hcalls]
  exact .aside _ hsame

-- A turn of the session itself, which may have nothing to do.
theorem acted_session (d : Duet) (r : Option (Session × Socket)) :
    (d.acted r).session = (r.map Prod.fst).getD d.session := by
  cases r with
  | none => rfl
  | some next => rfl

theorem deals_serve (d : Duet) (what : Service) :
    Deals d.session (d.dealings (.turn (.serve what))) (d.move (.turn (.serve what))).session := by
  by_cases hrun : d.session.phase = .running
  · rcases deal_serve d.socket d.now d.stopping hrun what with ⟨rs, hdeal⟩
    have hcalls : d.calls (.turn (.serve what)) = d.session.calls d.socket what := if_pos hrun
    refine deals_of_deal rs rfl ?_
    unfold Duet.move
    dsimp only
    rw [hcalls, d.serve_of_running what hrun, acted_session]
    exact hdeal
  · refine deals_aside rfl (if_neg hrun) ?_
    unfold Duet.move
    dsimp only
    rw [d.serve_of_over what hrun]
    exact .refl _

theorem deals_linger (d : Duet) :
    Deals d.session (d.dealings (.turn .linger)) (d.move (.turn .linger)).session := by
  cases hphase : d.session.phase with
  | lingering deadline =>
      rcases deal_linger d.socket d.now deadline hphase with ⟨rs, hdeal⟩
      have hcalls : d.calls (.turn .linger) = d.session.heard d.socket := by
        unfold Duet.calls
        rw [hphase]
      refine deals_of_deal rs rfl ?_
      unfold Duet.move
      dsimp only
      rw [hcalls, d.linger_of_lingering deadline hphase, acted_session]
      exact hdeal
  | running | ended =>
      refine deals_aside rfl ?_ ?_
      · unfold Duet.calls
        rw [hphase]
      · unfold Duet.move Duet.turn
        dsimp only
        rw [hphase]
        exact .refl _

theorem deals_submit (d : Duet) (op : SessionOp) :
    Deals d.session (d.dealings (.turn (.submit op))) (d.move (.turn (.submit op))).session := by
  have hmove : (d.move (.turn (.submit op))).session = (d.session.submit op).2 := rfl
  have hcalls : d.calls (.turn (.submit op)) = [] := rfl
  have hasked : d.asked (.turn (.submit op)) =
      [.submitted d.session.issued op d.session.isClosed] := rfl
  unfold Duet.dealings
  rw [hmove, hcalls, hasked]
  by_cases hrun : d.session.phase = .running
  · have hopen : d.session.isClosed = false := by
      unfold Session.isClosed
      rw [hrun]
      rfl
    rw [submit_of_running d.session op hrun, hopen, List.drop_length]
    exact .queues op hrun
  · have hclosed : d.session.isClosed = true := bne_iff_ne.2 hrun
    rw [submit_of_over d.session op hrun, hclosed, List.drop_left]
    exact .declines op hrun

theorem consumer_same (d : Duet) (t : Turn) (ht : t.isOfConsumer = true) :
    d.session.SameWork (d.turn t).session := by
  rcases consumer_turn d t ht with ⟨bridge, consumer, hturn⟩
  rw [hturn]
  exact ⟨rfl, rfl, rfl, rfl, Iff.rfl⟩

theorem deals_move (d : Duet) (m : Move) :
    Deals d.session (d.dealings m) (d.move m).session := by
  cases m with
  | disturb codec socket => exact deals_aside rfl rfl ⟨rfl, rfl, rfl, rfl, Iff.rfl⟩
  | turn t =>
      cases t with
      | arrive _ | hangUp | breakOff | collect | pass _ | stop | release =>
          exact deals_aside rfl rfl ⟨rfl, rfl, rfl, rfl, Iff.rfl⟩
      | attach _ | request _ | poll | cancel =>
          exact deals_aside rfl rfl (consumer_same d _ rfl)
      | submit op => exact deals_submit d op
      | serve what => exact deals_serve d what
      | linger => exact deals_linger d

end Moves

end WebSocket

end DemandNet
