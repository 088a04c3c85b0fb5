import DemandNet.Client.Call
import DemandNet.Proofs.Http.Gathering

/-!
# What Comes of a Call

A call whose server answers, from the status of the answer to the end of its body.

The status alone decides whether there is a response. An answer that sends the caller
elsewhere fails the call with its status and the place it names, one that reports a failure
fails it with its status, and every other answer is a response. The codes from 600 on, which
the codec lets pass, are not taken for failures.

The body of a response has not been read by anybody when the caller gets it, so what
`Gathering` says of bodies holds: it is taken as a whole, whatever the window of the client,
whatever the order of the pump and the caller, and however the server cut it into frames.

## Main definitions

* `carried`: The bytes of the frames of a body.
* `Faithful`: A response says what was answered.
* `Judged`: The outcome of a call is that of its answer.
* `Carrier.answering`: The way to a server that always gives the same answer.

## Theorems

* `judged_accept`: The decision about an answer.
* `call_judged`: A call has the outcome of its answer.
-/

namespace DemandNet

namespace Client

open DemandNet.Flow (Window)
open DemandNet.Http (BodyEnd BodyFrame Gathering Headers Intake bytesThrough gathered isRedirection
  reader valueText?)

/-- The bytes that the frames of a body carry, in order. -/
def carried : List BodyFrame → Bytes
  | [] => []
  | .data chunk :: rest => chunk ++ carried rest
  | .trailers :: rest => carried rest

/-- A response says what was answered: its head as it was, and of its body all bytes, or the
    failure with which it ended. -/
structure Faithful (a : Answer) (e : BodyEnd) (r : Response) : Prop where
  status : r.status = a.status
  headers : r.headers = a.headers
  /-- The body is taken as a whole. -/
  aggregate : r.aggregate.1 = some (gathered e (carried a.frames))
  /-- A caller takes it in any order of its own turns and those of the pump, and is done when
      both had enough of them. -/
  received : ∃ c r', r.receive = .ok (c, r') ∧
    (∀ (ts : List Gathering.Turn) (result : Except NetError Bytes),
      ((Gathering.start c r'.body).after ts).outcome = some result →
        result = gathered e (carried a.frames)) ∧
    ∀ rounds : List (List Gathering.Turn),
      (∀ round ∈ rounds, Gathering.Turn.pump ∈ round ∧ Gathering.Turn.look ∈ round) →
      2 * a.frames.length + 4 ≤ rounds.length →
        ((Gathering.start c r'.body).after rounds.flatten).outcome =
          some (gathered e (carried a.frames))

/-- The outcome of a call is that of its answer. -/
structure Judged (a : Answer) (e : BodyEnd) (result : Except NetError Response) : Prop where
  redirected : ∀ status location, result = .error (.redirectResponse status location) ↔
    (300 ≤ a.status ∧ a.status < 400) ∧ status = a.status ∧
      location = (a.headers.values "location").head?.bind valueText?
  refused : ∀ status, result = .error (.clientErrorResponse status) ↔
    (400 ≤ a.status ∧ a.status < 600) ∧ status = a.status
  accepted : (∃ r, result = .ok r) ↔ a.status < 300 ∨ 600 ≤ a.status
  faithful : ∀ r, result = .ok r → Faithful a e r

/-! ### By the status -/

section Status

variable {status : Nat} (headers : Headers)

theorem failure_of_redirection (h : 300 ≤ status ∧ status < 400) :
    failure? status headers = some (.redirectResponse status (headers.text? "location")) := by
  have hredirection : isRedirection status = true := by
    unfold isRedirection
    rw [Bool.and_eq_true, decide_eq_true_eq, decide_eq_true_eq]
    exact h
  exact if_pos hredirection

theorem not_isRedirection (h : status < 300 ∨ 400 ≤ status) : ¬ isRedirection status = true := by
  unfold isRedirection
  rw [Bool.and_eq_true, decide_eq_true_eq, decide_eq_true_eq]
  omega

theorem failure_of_error (h : 400 ≤ status ∧ status < 600) :
    failure? status headers = some (.clientErrorResponse status) := by
  unfold failure?
  rw [if_neg (not_isRedirection (Or.inr h.1)), if_pos]
  rw [Bool.and_eq_true, decide_eq_true_eq, decide_eq_true_eq]
  exact h

theorem failure_of_other (h : status < 300 ∨ 600 ≤ status) : failure? status headers = none := by
  unfold failure?
  rw [if_neg (not_isRedirection (by omega)), if_neg]
  rw [Bool.and_eq_true, decide_eq_true_eq, decide_eq_true_eq]
  omega

end Status

/-! ### The body -/

-- A client puts nothing between the codec and the caller.
theorem bytesThrough_nil (frames : List BodyFrame) : bytesThrough [] frames = carried frames := by
  induction frames with
  | nil => rfl
  | cons frame rest ih =>
      unfold bytesThrough at ih ⊢
      rw [List.flatMap_cons, ih]
      cases frame with
      | trailers => rfl
      | data chunk => cases chunk <;> rfl

/-- The response to an answer. -/
def Answer.response (a : Answer) (w : Window) : Response :=
  { status := a.status, headers := a.headers, window := w
    body := .start [] a.frames a.ending }

variable {a : Answer} {e : BodyEnd} {w : Window}

theorem faithful_response (hw : 1 ≤ w.size) (hend : a.ending = some e) :
    Faithful a e (a.response w) where
  status := rfl
  headers := rfl
  aggregate := by
    have hall := Http.collect_gathers hw (Http.unread_start [] a.frames e)
    rw [bytesThrough_nil, ← hend] at hall
    exact hall
  received := by
    refine ⟨reader w, { a.response w with body := (a.response w).body.attached }, rfl,
      fun ts result hr => ?_, fun rounds hrounds henough => ?_⟩
    · unfold Answer.response at hr
      rw [hend] at hr
      rw [← bytesThrough_nil]
      exact Gathering.outcome_of_schedule hw (Http.unread_start [] a.frames e) ts result hr
    · unfold Answer.response
      rw [hend, ← bytesThrough_nil]
      exact Gathering.outcome_of_rounds hw (Http.unread_start [] a.frames e) rounds hrounds henough

theorem accept_of_failure {err : NetError} (h : failure? a.status a.headers = some err) :
    a.accept w = .error err := by
  unfold Answer.accept
  rw [h]

theorem accept_of_none (h : failure? a.status a.headers = none) :
    a.accept w = .ok (a.response w) := by
  unfold Answer.accept
  rw [h]
  rfl

theorem judged_of_redirection (h : 300 ≤ a.status ∧ a.status < 400) :
    Judged a e (a.accept w) := by
  rw [accept_of_failure (failure_of_redirection a.headers h)]
  refine ⟨fun status location => ?_, fun status => ?_, ?_, fun r hr => by cases hr⟩
  · rw [Except.error.injEq, NetError.redirectResponse.injEq]
    exact ⟨fun hsame => ⟨h, hsame.1.symm, hsame.2.symm⟩,
      fun hsame => ⟨hsame.2.1.symm, hsame.2.2.symm⟩⟩
  · rw [Except.error.injEq]
    exact ⟨fun hsame => (by cases hsame), fun hrange => by omega⟩
  · exact ⟨fun ⟨_, hr⟩ => (by cases hr), fun hrange => by omega⟩

theorem judged_of_error (h : 400 ≤ a.status ∧ a.status < 600) : Judged a e (a.accept w) := by
  rw [accept_of_failure (failure_of_error a.headers h)]
  refine ⟨fun status location => ?_, fun status => ?_, ?_, fun r hr => by cases hr⟩
  · rw [Except.error.injEq]
    exact ⟨fun hsame => (by cases hsame), fun hrange => by omega⟩
  · rw [Except.error.injEq, NetError.clientErrorResponse.injEq]
    exact ⟨fun hsame => ⟨h, hsame.symm⟩, fun hsame => hsame.2.symm⟩
  · exact ⟨fun ⟨_, hr⟩ => (by cases hr), fun hrange => by omega⟩

theorem judged_of_other (hw : 1 ≤ w.size) (hend : a.ending = some e)
    (h : a.status < 300 ∨ 600 ≤ a.status) : Judged a e (a.accept w) := by
  rw [accept_of_none (failure_of_other a.headers h)]
  refine ⟨fun status location => ?_, fun status => ?_, ?_, fun r hr => ?_⟩
  · exact ⟨fun hsame => (by cases hsame), fun hrange => by omega⟩
  · exact ⟨fun hsame => (by cases hsame), fun hrange => by omega⟩
  · exact ⟨fun _ => h, fun _ => ⟨_, rfl⟩⟩
  · rw [← Except.ok.inj hr]
    exact faithful_response hw hend

theorem judged_accept (hw : 1 ≤ w.size) (hend : a.ending = some e) :
    Judged a e (a.accept w) := by
  by_cases hredirection : 300 ≤ a.status ∧ a.status < 400
  · exact judged_of_redirection hredirection
  · by_cases herror : 400 ≤ a.status ∧ a.status < 600
    · exact judged_of_error herror
    · exact judged_of_other hw hend (by omega)

/-! ### Calls -/

theorem request_of_answer (carrier : Carrier) (method url : String) (headers : Headers)
    (body : Bytes) (l : Url.Location) (hurl : locate "http" url = .ok l)
    (hconnect : carrier.connect l = .ok ())
    (hanswer : carrier.exchange l (.ofCall l method headers body) = .ok a) :
    request carrier w method url headers body = a.accept w := by
  unfold request
  rw [hurl]
  change (carrier.connect l >>= fun _ => _) = _
  rw [hconnect]
  change (carrier.exchange l (.ofCall l method headers body) >>= fun answer => _) = _
  rw [hanswer]
  rfl

/-- The way to a server that gives the same answer to every request. -/
def Carrier.answering (a : Answer) : Carrier :=
  { connect := fun _ => .ok ()
    exchange := fun _ _ => .ok a
    handshake := fun _ _ => .error .webSocketCodec }

/-- A call that is answered fails with the place to go to exactly if the status is in the
    three hundreds, and with the status alone exactly if it is in the four or five hundreds.
    Otherwise there is a response, and the whole body can be had from it. -/
theorem call_judged (carrier : Carrier) (w : Window) (hw : 1 ≤ w.size) (method url : String)
    (headers : Headers) (body : Bytes) (l : Url.Location) (hurl : locate "http" url = .ok l)
    (hconnect : carrier.connect l = .ok ()) (a : Answer)
    (hanswer : carrier.exchange l (.ofCall l method headers body) = .ok a) (e : BodyEnd)
    (hend : a.ending = some e) :
    Judged a e (request carrier w method url headers body) := by
  rw [request_of_answer carrier method url headers body l hurl hconnect hanswer]
  exact judged_accept hw hend

/-- An answer in pieces: two with bytes, one without any, and trailers. -/
def piecemeal : Answer :=
  { status := 200, headers := [], ending := some .complete
    frames := [.data (Bytes.ofText "he"), .data [], .data (Bytes.ofText "llo"), .trailers] }

theorem piecemeal_judged :
    ∃ r, request (.answering piecemeal) ⟨1⟩ "GET" "http://a/" [] [] = .ok r ∧
      r.aggregate.1 = some (.ok (Bytes.ofText "hello")) := by
  have hjudged := call_judged (.answering piecemeal) ⟨1⟩ (by decide) "GET" "http://a/" [] []
    ⟨"http", some (.name "a"), none, "/", none⟩ (by decide) rfl piecemeal rfl .complete rfl
  rcases hjudged.accepted.2 (Or.inl (by decide)) with ⟨r, hr⟩
  exact ⟨r, hr, (hjudged.faithful r hr).aggregate⟩

/-- An answer with a status beyond those of the servers' failures. -/
def beyond : Answer :=
  { status := 600, headers := [], frames := [.data (Bytes.ofText "hi")]
    ending := some .complete }

-- Not every status from 400 on is a failure.
theorem beyond_accepted :
    ∃ r, request (.answering beyond) ⟨1⟩ "GET" "http://a/" [] [] = .ok r ∧ r.status = 600 :=
  ⟨beyond.response ⟨1⟩, rfl, rfl⟩

end Client

end DemandNet
