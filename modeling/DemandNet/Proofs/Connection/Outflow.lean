import DemandNet.Proofs.Connection.Schedule

/-!
# The Output of a Connection

What the writer of a connection does, step by step.

What can be seen of a writer is what it is asked, which calls it makes of its sink, and
which answers it gives. All of this is read off the link before and after a turn: the
sink keeps a record of its calls and the writer one of its answers, and both only grow.
A call is made on behalf of the request that the writer is busy with, except for the
last flush of a writer that gives up.

A step does one of nine things. The write of a chunk is answered at once if it failed or
something else is queued, and after a flush otherwise; a close takes a flush and a
shutdown; and each of these can be the end of the writer, which answers everything that
is still queued.

## Main definitions

* `Outflow`: What can be seen of the writing side.
* `Link.outflow`: What a turn shows of it.
* `verdict`: The answer that follows from a call.
* `GivesUp`: How a writer ends that was not asked to.
* `WriteMove`: What a step of the writer can do.

## Theorems

* `write_move`: A step of the writer does one of those things.
* `submit_move`: What becomes of a request.
-/

namespace DemandNet

namespace Connection

/-- What can be seen of the writing side of a connection. -/
inductive Outflow where
  /-- A request was made; it is late if the writer has ended. -/
  | submitted (ticket : Nat) (op : WriteOp) (late : Bool)
  /-- A chunk was handed to the sink, while a consumer was attached or not, and while the
      queue was dry or not. -/
  | wrote (ticket : Nat) (chunk : Bytes) (failure : Option IoKind) (heard dry : Bool)
  /-- The sink was flushed because of a write. -/
  | flushed (ticket : Nat) (failure : Option IoKind) (heard : Bool)
  /-- The sink was called because of a close. -/
  | parted (ticket : Nat) (call : SinkCall) (failure : Option IoKind) (heard : Bool)
  /-- The sink was called and no request was the reason. -/
  | unasked (r : SinkRecord)
  | answered (ticket : Nat) (r : Except NetError Unit)

/-- A call of the sink, seen as what it was for. -/
def Activity.shows (heard dry : Bool) : Activity → SinkRecord → Outflow
  | .writing t _, ⟨.write chunk, failure⟩ => .wrote t chunk failure heard dry
  | .flushing t, ⟨.flush, failure⟩ => .flushed t failure heard
  | .closing t, ⟨call, failure⟩ => .parted t call failure heard
  | .shutting t, ⟨call, failure⟩ => .parted t call failure heard
  | _, r => .unasked r

/-- What a turn shows of the writing side. -/
def Link.outflow (l : Link) (t : Turn) : List Outflow :=
  let asked : List Outflow :=
    match t with
    | .submit op => [.submitted l.writer.issued op l.writer.hasEnded]
    | _ => []
  let calls := (l.turn t).sink.record.drop l.sink.record.length
  let answers := (l.turn t).writer.answers.drop l.writer.answers.length
  asked ++ calls.map (l.writer.activity.shows l.bridge.attached l.writer.queue.isEmpty) ++
    answers.map fun a => .answered a.1 a.2

/-- The record of a call. -/
def Outflow.record? : Outflow → Option SinkRecord
  | .wrote _ chunk failure _ _ => some ⟨.write chunk, failure⟩
  | .flushed _ failure _ => some ⟨.flush, failure⟩
  | .parted _ call failure _ => some ⟨call, failure⟩
  | .unasked r => some r
  | .submitted _ _ _ => none
  | .answered _ _ => none

/-- The answer that follows from a call: a failure is the answer, unless the pipe is
    broken and nobody reads the other direction. -/
def verdict (heard : Bool) : Option IoKind → Except NetError Unit
  | none => .ok ()
  | some k => if k.isBrokenPipe && !heard then .ok () else .error (.ofIo (.ofKind k))

theorem settleCall_fst (v : WriterView) (failure : Option IoKind) :
    (Writer.settleCall v failure).1 = verdict v.consumed failure := by
  cases failure with
  | none => rfl
  | some k =>
      unfold Writer.settleCall verdict
      dsimp only
      split <;> rfl

/-! ### The steps of a writer -/

/-- The answers to the requests in a queue when the writer ends. -/
def droppedAnswers (q : List Request) : List (Nat × Except NetError Unit) :=
  q.map fun r => (r.ticket, Writer.droppedAnswer r.op)

/-- A sink after one more call. -/
def Sink.recorded (s : Sink) (r : SinkRecord) : Sink := { s with record := s.record ++ [r] }

/-- What a call of the sink would be seen as. -/
def Link.shown (l : Link) (r : SinkRecord) : Outflow :=
  l.writer.activity.shows l.bridge.attached l.writer.queue.isEmpty r

/-- Answers as they are seen. -/
def answering (as : List (Nat × Except NetError Unit)) : List Outflow :=
  as.map fun a => .answered a.1 a.2

/-- What a writer does first about a request. -/
def Request.begun (p : Pipeline) (r : Request) : Activity :=
  match r.op with
  | .write chunk => .writing r.ticket (p.outbound chunk)
  | .close => .closing r.ticket

/-- The writer has nothing to do, or has to wait for its sink. -/
inductive Idling (l : Link) : Prop
  | empty (ha : l.writer.activity = .idle) (hq : l.writer.queue = [])
  | ended (ha : l.writer.activity = .ended)
  | blocked (t : Nat) (chunk : Bytes) (ha : l.writer.activity = .writing t chunk)
      (hb : l.sink.blocked = true)

/-- How a writer ends that was not asked to close: at once, or after a last flush. -/
inductive GivesUp (w : Writer) : List (Nat × Except NetError Unit) → Writer → Prop
  | cleans (hd : w.dirty = true) : GivesUp w [] { w with activity := .cleaning }
  | ends : GivesUp w (droppedAnswers w.queue) w.finish

/-- A call after which a write is answered, whether the sink is to be flushed still, and
    what is seen of the call. -/
inductive Settling (l : Link) : Nat → Bool → SinkRecord → Outflow → Prop
  | write (t : Nat) (chunk : Bytes) (failure : Option IoKind)
      (ha : l.writer.activity = .writing t chunk)
      (hf : failure ≠ none ∨ l.writer.queue ≠ []) :
      Settling l t true ⟨.write chunk, failure⟩
        (.wrote t chunk failure l.bridge.attached l.writer.queue.isEmpty)
  | flush (t : Nat) (failure : Option IoKind) (ha : l.writer.activity = .flushing t) :
      Settling l t false ⟨.flush, failure⟩ (.flushed t failure l.bridge.attached)

/-- A call after which a close is answered. -/
inductive Closing (l : Link) : Nat → SinkRecord → Prop
  | unflushed (t : Nat) (k : IoKind) (ha : l.writer.activity = .closing t) :
      Closing l t ⟨.flush, some k⟩
  | shut (t : Nat) (failure : Option IoKind) (ha : l.writer.activity = .shutting t) :
      Closing l t ⟨.shutdown, failure⟩

/-- What a step of the writer can do, and what it shows. -/
inductive WriteMove (l : Link) : List Outflow → Link → Prop
  | waits (hw : Idling l) : WriteMove l [] l
  | takes (r : Request) (rest : List Request) (ha : l.writer.activity = .idle)
      (hq : l.writer.queue = r :: rest) :
      WriteMove l [] { l with
        writer := { l.writer with queue := rest, activity := r.begun l.pipeline } }
  | releases (as : List (Nat × Except NetError Unit)) (w : Writer)
      (ha : l.writer.activity = .idle) (hq : l.writer.queue = []) (hg : GivesUp l.writer as w) :
      WriteMove l (answering as) { l with writer := w }
  | writes (t : Nat) (chunk : Bytes) (ha : l.writer.activity = .writing t chunk)
      (hq : l.writer.queue = []) :
      WriteMove l [.wrote t chunk none l.bridge.attached true] { l with
        writer := { l.writer with activity := .flushing t, dirty := true }
        sink := l.sink.recorded ⟨.write chunk, none⟩ }
  /-- A write has succeeded, and the writer goes on. -/
  | settles (t : Nat) (dirty : Bool) (r : SinkRecord) (e : Outflow)
      (hr : Settling l t dirty r e) (hf : r.failure = none) (hs : l.status = .opened) :
      WriteMove l (e :: answering [(t, .ok ())]) { l with
        writer := { l.writer with
          activity := .idle, dirty, answers := l.writer.answers ++ [(t, .ok ())] }
        sink := l.sink.recorded r }
  /-- A write has failed, or the connection is no longer open. -/
  | fails (t : Nat) (dirty : Bool) (r : SinkRecord) (e : Outflow)
      (as : List (Nat × Except NetError Unit)) (w : Writer) (status : Status)
      (hr : Settling l t dirty r e)
      (hf : r.failure ≠ none ∨ l.status ≠ .opened)
      (hg : GivesUp { l.writer with
        dirty, answers := l.writer.answers ++ [(t, verdict l.bridge.attached r.failure)] } as w) :
      WriteMove l (e :: answering ((t, verdict l.bridge.attached r.failure) :: as))
        { l with writer := w, status, sink := l.sink.recorded r }
  | parts (t : Nat) (ha : l.writer.activity = .closing t) :
      WriteMove l [.parted t .flush none l.bridge.attached] { l with
        writer := { l.writer with activity := .shutting t }
        sink := l.sink.recorded ⟨.flush, none⟩ }
  | closes (t : Nat) (r : SinkRecord) (status : Status) (hr : Closing l t r) :
      WriteMove l
        (.parted t r.call r.failure l.bridge.attached :: answering
          ((t, verdict l.bridge.attached r.failure) :: droppedAnswers l.writer.queue))
        { l with
          writer := (l.writer.answer t (verdict l.bridge.attached r.failure)).finish
          status
          sink := l.sink.recorded r }
  | cleans (failure : Option IoKind) (ha : l.writer.activity = .cleaning) :
      WriteMove l (.unasked ⟨.flush, failure⟩ :: answering (droppedAnswers l.writer.queue))
        { l with writer := l.writer.finish, sink := l.sink.recorded ⟨.flush, failure⟩ }

theorem Settling.shown {l : Link} {t : Nat} {dirty : Bool} {r : SinkRecord} {e : Outflow}
    (h : Settling l t dirty r e) : e = l.shown r := by
  unfold Link.shown
  cases h with
  | write _ _ ha _ | flush _ ha =>
      rw [ha]
      rfl

theorem Closing.shown {l : Link} {t : Nat} {r : SinkRecord} (h : Closing l t r) :
    .parted t r.call r.failure l.bridge.attached = l.shown r := by
  unfold Link.shown
  cases h with
  | unflushed _ ha | shut _ ha =>
      rw [ha]
      rfl

theorem call_eq (s : Sink) (c : SinkCall) : (s.call c).2 = s.recorded ⟨c, (s.call c).1⟩ := rfl

-- What is seen of a step is what it added to the record and to the answers.
theorem outflow_write {l l' : Link} (calls : List SinkRecord)
    (as : List (Nat × Except NetError Unit)) (hl : l.turn .write = l')
    (hcalls : l'.sink.record = l.sink.record ++ calls)
    (has : l'.writer.answers = l.writer.answers ++ as) :
    l.outflow .write = calls.map l.shown ++ answering as := by
  unfold Link.outflow
  rw [hl, hcalls, has, List.drop_left, List.drop_left]
  rfl

theorem GivesUp.answers {w w' : Writer} {as : List (Nat × Except NetError Unit)}
    (h : GivesUp w as w') : w'.answers = w.answers ++ as := by
  cases h with
  | cleans _ => exact (List.append_nil _).symm
  | ends => rfl

theorem giveUp_givesUp (w : Writer) : ∃ as, GivesUp w as w.giveUp := by
  unfold Writer.giveUp
  by_cases hd : w.dirty = true
  · rw [if_pos hd]
    exact ⟨[], .cleans hd⟩
  · rw [if_neg hd]
    exact ⟨_, .ends⟩

-- A move, with what is seen of it left to be compared.
theorem WriteMove.of_turn {l l' : Link} {es : List Outflow} (hmove : WriteMove l es l')
    (calls : List SinkRecord) (as : List (Nat × Except NetError Unit))
    (hl : l.turn .write = l') (hcalls : l'.sink.record = l.sink.record ++ calls)
    (has : l'.writer.answers = l.writer.answers ++ as)
    (hes : es = calls.map l.shown ++ answering as) :
    WriteMove l (l.outflow .write) (l.turn .write) := by
  rw [outflow_write calls as hl hcalls has, hl, ← hes]
  exact hmove

-- A connection goes on after a call only if the call succeeded.
theorem settleCall_opened (v : WriterView) (failure : Option IoKind) :
    ((Writer.settleCall v failure).1.isOk && (Writer.settleCall v failure).2 == .opened) = true ↔
      failure = none ∧ v.status = .opened := by
  cases failure with
  | none => simp only [Writer.settleCall, Except.isOk, Except.toBool, Bool.true_and, beq_iff_eq,
      true_and]
  | some k =>
      have hclosing : (Writer.settleCall v (some k)).2 ≠ .opened := by
        unfold Writer.settleCall
        dsimp only
        split <;> exact v.status.markClosing_ne_opened
      simp only [Bool.and_eq_true, beq_iff_eq, hclosing, and_false, reduceCtorEq, false_and]

theorem writing_move {l : Link} (t : Nat) (dirty : Bool) (r : SinkRecord) (e : Outflow)
    (hr : Settling l t dirty r e)
    (hl : l.turn .write =
      { l with
        writer := (Writer.concludeWrite { l.writer with dirty } l.writerView t r.failure).1
        status := (Writer.concludeWrite { l.writer with dirty } l.writerView t r.failure).2
        sink := l.sink.recorded r }) :
    WriteMove l (l.outflow .write) (l.turn .write) := by
  have hverdict := settleCall_fst l.writerView r.failure
  unfold Writer.concludeWrite at hl
  dsimp only at hl
  by_cases hgo : ((Writer.settleCall l.writerView r.failure).1.isOk &&
      (Writer.settleCall l.writerView r.failure).2 == .opened) = true
  · rw [if_pos hgo] at hl
    rcases (settleCall_opened _ _).1 hgo with ⟨hnone, hopened⟩
    rw [hnone] at hl
    exact WriteMove.of_turn (.settles t dirty r e hr hnone hopened) [r] [(t, .ok ())] hl rfl rfl
      (by rw [hr.shown]; rfl)
  · rw [if_neg hgo, hverdict] at hl
    have hfail : r.failure ≠ none ∨ l.status ≠ .opened := by
      by_contra hnot
      rw [not_or, not_not, not_not] at hnot
      exact hgo ((settleCall_opened _ _).2 hnot)
    rcases giveUp_givesUp (Writer.answer { l.writer with dirty } t
      (verdict l.bridge.attached r.failure)) with ⟨as, hg⟩
    refine WriteMove.of_turn (.fails t dirty r e as _ _ hr hfail hg) [r] (_ :: as) hl rfl ?_
      (by rw [hr.shown]; rfl)
    rw [hg.answers]
    exact List.append_assoc l.writer.answers [_] as

theorem closing_move {l : Link} (t : Nat) (r : SinkRecord) (hr : Closing l t r)
    (hl : l.turn .write =
      { l with
        writer := (l.writer.concludeClose l.writerView t r.failure).1
        status := (l.writer.concludeClose l.writerView t r.failure).2
        sink := l.sink.recorded r }) :
    WriteMove l (l.outflow .write) (l.turn .write) := by
  have hverdict := settleCall_fst { l.writerView with status := l.status.markClosing } r.failure
  unfold Writer.concludeClose at hl
  dsimp only [Link.writerView] at hl hverdict
  rw [hverdict] at hl
  refine WriteMove.of_turn (.closes t r _ hr) [r] (_ :: droppedAnswers l.writer.queue) hl rfl ?_
    (by rw [hr.shown]; rfl)
  exact List.append_assoc l.writer.answers [_] _

theorem write_move (l : Link) : WriteMove l (l.outflow .write) (l.turn .write) := by
  have hturn : l.turn .write = l.withWriter (l.writer.advance l.writerView l.sink) := rfl
  have hwaits : Idling l → l.writer.advance l.writerView l.sink = none →
      WriteMove l (l.outflow .write) (l.turn .write) := fun hidle hnone =>
    WriteMove.of_turn (.waits hidle) [] [] (by rw [hturn, hnone]; rfl) (List.append_nil _).symm
      (List.append_nil _).symm rfl
  unfold Writer.advance at hturn hwaits
  cases ha : l.writer.activity with
  | idle =>
      rw [ha] at hturn hwaits
      dsimp only at hturn hwaits
      cases hq : l.writer.queue with
      | nil =>
          rw [hq] at hturn hwaits
          dsimp only at hturn hwaits
          by_cases hr : l.writer.released = true
          · rw [if_pos hr] at hturn
            rcases giveUp_givesUp l.writer with ⟨as, hg⟩
            exact WriteMove.of_turn (.releases as _ ha hq hg) [] as hturn
              (List.append_nil _).symm hg.answers rfl
          · exact hwaits (.empty ha hq) (if_neg hr)
      | cons r rest =>
          have hmove := WriteMove.takes r rest ha hq
          rcases r with ⟨t, op⟩
          rw [hq] at hturn
          cases op <;> exact hmove.of_turn [] [] hturn (List.append_nil _).symm
            (List.append_nil _).symm rfl
  | writing t chunk =>
      rw [ha] at hturn hwaits
      dsimp only at hturn hwaits
      by_cases hb : l.sink.blocked = true
      · exact hwaits (.blocked t chunk ha hb) (if_pos hb)
      · rw [if_neg hb] at hturn
        by_cases hdry : ((l.sink.call (.write chunk)).1.isNone && l.writer.queue.isEmpty) = true
        · rw [if_pos hdry, call_eq] at hturn
          rw [Bool.and_eq_true, Option.isNone_iff_eq_none, List.isEmpty_iff] at hdry
          rw [hdry.1] at hturn
          refine WriteMove.of_turn (.writes t chunk ha hdry.2) [_] [] hturn rfl
            (List.append_nil _).symm ?_
          rw [List.map_singleton, Link.shown, ha, hdry.2]
          rfl
        · rw [if_neg hdry, call_eq] at hturn
          refine writing_move t true ⟨_, _⟩ _ (.write t chunk _ ha ?_) hturn
          by_contra hnot
          rw [not_or, not_not, not_not] at hnot
          refine hdry ?_
          rw [Bool.and_eq_true, Option.isNone_iff_eq_none, List.isEmpty_iff]
          exact hnot
  | flushing t =>
      rw [ha] at hturn
      exact writing_move t false ⟨_, _⟩ _ (.flush t _ ha) hturn
  | closing t =>
      rw [ha] at hturn
      dsimp only at hturn
      cases hfailure : (l.sink.call .flush).1 with
      | none =>
          rw [hfailure, call_eq, hfailure] at hturn
          refine WriteMove.of_turn (.parts t ha) [_] [] hturn rfl (List.append_nil _).symm ?_
          rw [List.map_singleton, Link.shown, ha]
          rfl
      | some k =>
          rw [hfailure, call_eq, hfailure] at hturn
          exact closing_move t ⟨_, _⟩ (.unflushed t k ha) hturn
  | shutting t =>
      rw [ha] at hturn
      exact closing_move t ⟨_, _⟩ (.shut t _ ha) hturn
  | cleaning =>
      rw [ha] at hturn
      refine WriteMove.of_turn (.cleans _ ha) [_] (droppedAnswers l.writer.queue) hturn rfl rfl ?_
      rw [List.map_singleton, Link.shown, ha]
      rfl
  | ended =>
      rw [ha] at hwaits
      exact hwaits (.ended ha) rfl

/-! ### Requests -/

/-- What becomes of a request when it is made, and what that shows. -/
inductive SubmitMove (l : Link) (op : WriteOp) : List Outflow → Link → Prop
  | late (ha : l.writer.activity = .ended) :
      SubmitMove l op
        (.submitted l.writer.issued op true ::
          answering [(l.writer.issued, Writer.lateAnswer op)])
        { l with writer := { l.writer with
          issued := l.writer.issued + 1
          answers := l.writer.answers ++ [(l.writer.issued, Writer.lateAnswer op)] } }
  | queued (ha : l.writer.activity ≠ .ended) :
      SubmitMove l op [.submitted l.writer.issued op false]
        { l with writer := { l.writer with
          issued := l.writer.issued + 1
          queue := l.writer.queue ++ [⟨l.writer.issued, op⟩] } }

theorem submit_move (l : Link) (op : WriteOp) :
    SubmitMove l op (l.outflow (.submit op)) (l.turn (.submit op)) := by
  have hturn : l.turn (.submit op) = { l with writer := (l.writer.submit op).2 } := rfl
  unfold Writer.submit at hturn
  dsimp only at hturn
  have hended : l.writer.hasEnded = true ↔ l.writer.activity = .ended := beq_iff_eq
  unfold Link.outflow
  by_cases ha : l.writer.activity = .ended
  · have hlate : (Writer.hasEnded { l.writer with issued := l.writer.issued + 1 }) = true :=
      hended.2 ha
    rw [if_pos hlate] at hturn
    rw [hturn, hended.2 ha]
    dsimp only [Writer.answer]
    rw [List.drop_length, List.drop_left]
    exact .late ha
  · have hearly : ¬ (Writer.hasEnded { l.writer with issued := l.writer.issued + 1 }) = true :=
      fun h => ha (hended.1 h)
    rw [if_neg hearly] at hturn
    rw [hturn, Bool.eq_false_iff.2 fun h => ha (hended.1 h)]
    dsimp only
    rw [List.drop_length, List.drop_length]
    exact .queued ha

-- Other turns leave the writing side alone, except that its last handle may go away and
-- its sink be blocked.
theorem writing_side (l : Link) (t : Turn) (hwrite : t ≠ .write)
    (hsubmit : ∀ op, t ≠ .submit op) :
    ((l.turn t).sink.record = l.sink.record ∧
      ((∀ blocked, t ≠ .block blocked) → (l.turn t).sink.blocked = l.sink.blocked)) ∧
      ∃ released, (l.turn t).writer = { l.writer with released } := by
  cases t with
  | write => exact absurd rfl hwrite
  | submit op => exact absurd rfl (hsubmit op)
  | arrive _ | pass _ | abandon | markClosing | markClosed =>
      exact ⟨⟨rfl, fun _ => rfl⟩, l.writer.released, rfl⟩
  | block blocked => exact ⟨⟨rfl, fun h => absurd rfl (h blocked)⟩, l.writer.released, rfl⟩
  | release => exact ⟨⟨rfl, fun _ => rfl⟩, true, rfl⟩
  | attach mode =>
      unfold Link.turn Link.attach
      dsimp only
      cases l.bridge.attach mode <;>
        exact ⟨⟨rfl, fun _ => rfl⟩, l.writer.released, rfl⟩
  | request n =>
      unfold Link.turn Link.request
      dsimp only
      cases l.consumer <;>
        exact ⟨⟨rfl, fun _ => rfl⟩, l.writer.released, rfl⟩
  | poll =>
      unfold Link.turn Link.poll
      dsimp only
      cases l.consumer <;>
        exact ⟨⟨rfl, fun _ => rfl⟩, l.writer.released, rfl⟩
  | cancel =>
      unfold Link.turn Link.cancel
      dsimp only
      cases l.consumer <;>
        exact ⟨⟨rfl, fun _ => rfl⟩, l.writer.released, rfl⟩
  | read =>
      unfold Link.turn
      dsimp only
      cases l.reader.advance l.readerView l.bridge <;>
        exact ⟨⟨rfl, fun _ => rfl⟩, l.writer.released, rfl⟩
  | readOn =>
      unfold Link.turn
      dsimp only
      cases l.reader.readOn l.readerView l.bridge <;>
        exact ⟨⟨rfl, fun _ => rfl⟩, l.writer.released, rfl⟩

theorem outflow_other (l : Link) (t : Turn) (hwrite : t ≠ .write)
    (hsubmit : ∀ op, t ≠ .submit op) : l.outflow t = [] := by
  rcases writing_side l t hwrite hsubmit with ⟨⟨hrecord, _⟩, released, hwriter⟩
  unfold Link.outflow
  rw [hrecord, hwriter, List.drop_length, List.drop_length]
  cases t with
  | submit op => exact absurd rfl (hsubmit op)
  | _ => rfl

-- Whatever holds of the moves of the writer and of those who ask it, and of a link whose
-- writing side is left alone, holds of every turn.
theorem outflow_turn {P : Link → List Outflow → Prop} (l : Link) (t : Turn)
    (hwrite : ∀ es l', WriteMove l es l' → P l' es)
    (hsubmit : ∀ op es l', SubmitMove l op es l' → P l' es)
    (hother : ∀ l' released, l'.writer = { l.writer with released } →
      l'.sink.record = l.sink.record → P l' []) : P (l.turn t) (l.outflow t) := by
  by_cases hw : t = .write
  · rw [hw]
    exact hwrite _ _ (write_move l)
  · by_cases hs : ∃ op, t = .submit op
    · rcases hs with ⟨op, rfl⟩
      exact hsubmit op _ _ (submit_move l op)
    · have hne : ∀ op, t ≠ .submit op := fun op h => hs ⟨op, h⟩
      rcases writing_side l t hw hne with ⟨⟨hrecord, _⟩, released, hwriter⟩
      rw [outflow_other l t hw hne]
      exact hother _ released hwriter hrecord

theorem blocked_turn (l : Link) (t : Turn) (ht : ∀ blocked, t ≠ .block blocked) :
    (l.turn t).sink.blocked = l.sink.blocked := by
  by_cases hw : t = .write
  · have hmove := write_move l
    rw [hw]
    generalize l.turn .write = l' at hmove ⊢
    generalize l.outflow .write = es at hmove
    cases hmove <;> rfl
  · by_cases hs : ∃ op, t = .submit op
    · rcases hs with ⟨op, rfl⟩
      rfl
    · exact (writing_side l t hw fun op h => hs ⟨op, h⟩).1.2 ht

end Connection

end DemandNet
