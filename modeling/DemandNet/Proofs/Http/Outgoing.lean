import DemandNet.Proofs.Http.Head

/-!
# Bodies on Their Way Out

What becomes of the chunks that are sent behind a head.

A codec takes the chunks of a body one by one as long as its client is there. It may let go
of the body at any time, and that is the one thing that can go wrong here. It is told by how
many chunks it took before: the first that finds the pipe broken ends the writer, and all
later ones are refused.

So the codec has the first chunks, and those were acknowledged. Whether the one that found
the pipe broken is acknowledged too is up to the request: a broken pipe is reported to
somebody who reads, and if nobody does the end of a connection is no news. It is the only
chunk that can be acknowledged and lost.

## Main definitions

* `Exchange.Open`, `Exchange.Shut`: The writer between two operations.
* `Exchange.acknowledged`: The chunks that are acknowledged.
* `Exchange.Begins`: A head went before what is sent.
* `Exchange.Delivered`: What became of chunks.
* `Exchange.takenOf`: The chunks that a codec takes.

## Theorems

* `write_taken`, `write_broken`, `write_shut`: One chunk.
* `delivered_sendChunks`: Chunks one after the other.
* `written_finish`: The end of a response writes nothing more.
-/

namespace DemandNet

namespace Http

open Connection

namespace Exchange

/-! ### Bodies on their way out -/

/-- The writer waits for the next request and nobody has asked it to stop, and the codec took
    every chunk so far. -/
structure Open (taken : Option Nat) (x : Exchange) : Prop where
  activity : x.writer.activity = .idle
  queue : x.writer.queue = []
  released : x.writer.released = false
  tickets : ∀ a ∈ x.writer.answers, a.1 < x.writer.issued
  status : x.status = .opened
  blocked : x.sink.blocked = false
  plan : x.sink.plan = (Sink.taking taken).plan
  count : x.sink.count .write = x.sink.written.length
  room : ∀ n, taken = some n → x.sink.written.length ≤ n

/-- The writer has ended. -/
structure Shut (x : Exchange) : Prop where
  activity : x.writer.activity = .ended
  tickets : ∀ a ∈ x.writer.answers, a.1 < x.writer.issued

/-- The chunks that are acknowledged when chunks are sent up to the first that fails. -/
def acknowledged (x : Exchange) : List Bytes → List Bytes
  | [] => []
  | chunk :: rest =>
      match x.write (.write chunk) with
      | (some (.ok ()), y) => chunk :: y.acknowledged rest
      | _ => []

variable {taken : Option Nat} {x : Exchange}

theorem taking_fresh (taken : Option Nat) :
    (Sink.taking taken).record = [] ∧ (Sink.taking taken).blocked = false := by
  cases taken <;> exact ⟨rfl, rfl⟩

theorem written_startFor (codec : Codec) (settings : Settings) (incoming : Incoming)
    (frames : List BodyFrame) (ending : Option BodyEnd) :
    (startFor codec settings incoming frames ending).sink.written = [] := by
  change (Sink.taking codec.patience.taken?).written = []
  rw [Sink.written, (taking_fresh _).1, List.filterMap_nil]

theorem open_startFor (codec : Codec) (settings : Settings) (incoming : Incoming)
    (frames : List BodyFrame) (ending : Option BodyEnd) :
    (startFor codec settings incoming frames ending).Open codec.patience.taken? := by
  have hwritten := written_startFor codec settings incoming frames ending
  refine ⟨rfl, rfl, rfl, fun _ ha => absurd ha List.not_mem_nil, rfl, (taking_fresh _).2, rfl,
    ?_, fun n _ => ?_⟩
  · rw [hwritten]
    change (Sink.taking codec.patience.taken?).count .write = 0
    rw [Sink.count, (taking_fresh _).1, List.countP_nil]
  · rw [hwritten]
    exact Nat.zero_le n

/-- Two exchanges are alike as to their bodies. -/
structure SameBody (x y : Exchange) : Prop where
  writer : y.writer = x.writer
  status : y.status = x.status
  sink : y.sink = x.sink

theorem Open.same {y : Exchange} (h : x.Open taken) (hsame : SameBody x y) : y.Open taken := by
  constructor
  · rw [hsame.writer, h.activity]
  · rw [hsame.writer, h.queue]
  · rw [hsame.writer, h.released]
  · rw [hsame.writer]
    exact h.tickets
  · rw [hsame.status, h.status]
  · rw [hsame.sink, h.blocked]
  · rw [hsame.sink, h.plan]
  · rw [hsame.sink, h.count]
  · rw [hsame.sink]
    exact h.room

theorem Shut.same {y : Exchange} (h : x.Shut) (hsame : SameBody x y) : y.Shut := by
  constructor
  · rw [hsame.writer, h.activity]
  · rw [hsame.writer]
    exact h.tickets

theorem Open.writer_eq (h : x.Open taken) :
    x.writer = ⟨[], .idle, x.writer.dirty, x.writer.issued, x.writer.answers, false⟩ := by
  rw [← h.queue, ← h.activity, ← h.released]

-- Only writes fail, and only behind what is taken.
theorem Open.calls (h : x.Open taken) :
    (∀ i, x.sink.plan .flush i = none) ∧ (∀ i, x.sink.plan .shutdown i = none) ∧
      ∀ i, x.sink.plan .write i = taken.bind fun n => if n < i then some .brokenPipe else none := by
  rw [h.plan]
  cases taken with
  | none => exact ⟨fun _ => rfl, fun _ => rfl, fun _ => rfl⟩
  | some n =>
      refine ⟨fun _ => rfl, fun _ => rfl, fun i => ?_⟩
      simp only [Sink.taking, true_and, Option.bind_some]

theorem settleCall_broken (v : WriterView) :
    Writer.settleCall v (some .brokenPipe) =
      (if v.consumed then .error .remoteClosed else .ok (), v.status.markClosing) := by
  cases hconsumed : v.consumed with
  | true =>
      simp only [Writer.settleCall, hconsumed]
      rfl
  | false =>
      simp only [Writer.settleCall, hconsumed]
      rfl

-- The chunk passes the pipeline and is written. As nothing is queued behind it, the sink is
-- flushed too before it is answered.
theorem settle_taken (h : x.Open taken) (chunk : Bytes)
    (hcall : x.sink.plan .write (x.sink.count .write + 1) = none) :
    (x.writer.submit (.write chunk)).2.settle x.writerView x.sink =
      ({ x.writer with
          dirty := false
          issued := x.writer.issued + 1
          answers := x.writer.answers ++ [(x.writer.issued, .ok ())] },
        .opened,
        { x.sink with
          record := x.sink.record ++ [⟨.write (x.body.pipeline.outbound chunk), none⟩] ++
            [⟨.flush, none⟩] }) := by
  have hflush := h.calls.1
  have hblocked := h.blocked
  rw [writerView, h.writer_eq, h.status]
  simp only [Writer.settle, Writer.settleUpTo, Writer.advance, Writer.submit, Writer.hasEnded,
    beq_iff_eq, reduceCtorEq, ↓reduceIte, List.nil_append, hblocked, Bool.false_eq_true, Sink.call,
    SinkCall.kind, hcall, Option.isNone_none, List.isEmpty_nil, Bool.and_self,
    Writer.concludeWrite, Except.isOk, Except.toBool, Writer.settleCall, hflush,
    List.append_assoc, List.cons_append, BEq.rfl, Writer.answer]

-- The pipe is broken, so the writer ends. It says so only if somebody reads the request.
theorem settle_broken (h : x.Open taken) (chunk : Bytes)
    (hcall : x.sink.plan .write (x.sink.count .write + 1) = some .brokenPipe) :
    (x.writer.submit (.write chunk)).2.settle x.writerView x.sink =
      ({ x.writer with
          activity := .ended
          dirty := true
          issued := x.writer.issued + 1
          answers := x.writer.answers ++ [(x.writer.issued,
            if x.body.bridge.attached then .error .remoteClosed else .ok ())] },
        .closing,
        { x.sink with
          record := x.sink.record ++
            [⟨.write (x.body.pipeline.outbound chunk), some .brokenPipe⟩] ++
              [⟨.flush, none⟩] }) := by
  have hflush := h.calls.1
  have hblocked := h.blocked
  have hclosing : (Status.opened.markClosing == Status.opened) = false := rfl
  rw [writerView, h.writer_eq, h.status]
  simp only [Writer.settle, Writer.settleUpTo, Writer.advance, Writer.submit, Writer.hasEnded,
    beq_iff_eq, reduceCtorEq, ↓reduceIte, List.nil_append, hblocked, Bool.false_eq_true, Sink.call,
    SinkCall.kind, hcall, Option.isNone_some, Bool.false_and, Writer.concludeWrite,
    settleCall_broken, hclosing, Bool.and_false, Writer.giveUp, Writer.answer, Writer.finish,
    List.map_nil, List.append_nil, hflush, List.append_assoc, List.cons_append]
  rfl

theorem settle_close (h : x.Open taken) :
    ((x.writer.submit .close).2.settle x.writerView x.sink).2.2 =
      { x.sink with record := x.sink.record ++ [⟨.flush, none⟩] ++ [⟨.shutdown, none⟩] } := by
  have hcalls := h.calls
  rw [writerView, h.writer_eq, h.status]
  simp only [Writer.settle, Writer.settleUpTo, Writer.advance, Writer.submit, Writer.hasEnded,
    beq_iff_eq, reduceCtorEq, ↓reduceIte, List.nil_append, Sink.call, SinkCall.kind, hcalls.1,
    hcalls.2.1, Option.isNone_none, Writer.concludeClose, Writer.finish, Writer.answer,
    Writer.settleCall, List.append_assoc, List.cons_append, List.map_nil, List.append_nil]

-- A writer that has ended answers at once.
theorem settle_shut (h : x.Shut) (op : WriteOp) :
    (x.writer.submit op).2.settle x.writerView x.sink =
      ({ x.writer with
          issued := x.writer.issued + 1
          answers := x.writer.answers ++ [(x.writer.issued, Writer.lateAnswer op)] },
        x.status, x.sink) := by
  have hactivity := h.activity
  simp only [Writer.settle, Writer.settleUpTo, Writer.advance, Writer.submit, Writer.hasEnded,
    hactivity, BEq.rfl, ↓reduceIte, Writer.answer, writerView]

theorem written_record (s : Sink) (rs : List SinkRecord) :
    { s with record := s.record ++ rs }.written = s.written ++ { s with record := rs }.written :=
  List.filterMap_append

theorem count_record (s : Sink) (k : SinkCallKind) (rs : List SinkRecord) :
    { s with record := s.record ++ rs }.count k = s.count k + { s with record := rs }.count k :=
  List.countP_append

/-- How a write leaves an exchange: its answer, and the writer after it. -/
structure Writes (x : Exchange) (op : WriteOp) (answer : Except NetError Unit) : Prop where
  answered : (x.write op).1 = some answer
  tickets : ∀ a ∈ (x.write op).2.writer.answers, a.1 < (x.write op).2.writer.issued
  body : (x.write op).2.body = x.body

-- The ticket is new, so no other answer is found under it.
theorem writes_of_settle {w : Writer} {status : Status} {sink : Sink} {op : WriteOp}
    {answer : Except NetError Unit} (htickets : ∀ a ∈ x.writer.answers, a.1 < x.writer.issued)
    (hticket : (x.writer.submit op).1 = x.writer.issued)
    (hsettle : (x.writer.submit op).2.settle x.writerView x.sink = (w, status, sink))
    (hissued : w.issued = x.writer.issued + 1)
    (hanswers : w.answers = x.writer.answers ++ [(x.writer.issued, answer)]) :
    Writes x op answer ∧ (x.write op).2.writer = w ∧ (x.write op).2.status = status ∧
      (x.write op).2.sink = sink := by
  have hwriter : (x.write op).2.writer = w := congrArg Prod.fst hsettle
  have hnew : x.writer.answers.lookup x.writer.issued = none := by
    refine List.lookup_eq_none_iff.2 fun a ha => bne_iff_ne.2 ?_
    exact Nat.ne_of_gt (htickets a ha)
  refine ⟨⟨?_, ?_, rfl⟩, hwriter, congrArg (fun t => t.2.1) hsettle,
    congrArg (fun t => t.2.2) hsettle⟩
  · change (x.write op).2.writer.answer? (x.writer.submit op).1 = _
    rw [hwriter, hticket, Writer.answer?, hanswers, List.lookup_append, hnew, Option.none_or,
      List.lookup_cons_self]
  · rw [hwriter, hanswers, hissued]
    intro a ha
    rcases List.mem_append.1 ha with hold | hlast
    · exact Nat.lt_succ_of_lt (htickets a hold)
    · rw [List.mem_singleton.1 hlast]
      exact Nat.lt_succ_self x.writer.issued

theorem submit_ticket (w : Writer) (op : WriteOp) : (w.submit op).1 = w.issued := by
  unfold Writer.submit
  dsimp only
  split <;> rfl

-- A chunk for which there is room is acknowledged,
theorem write_taken (h : x.Open taken) (chunk : Bytes)
    (hroom : ∀ n, taken = some n → x.sink.written.length < n) :
    Writes x (.write chunk) (.ok ()) ∧ (x.write (.write chunk)).2.Open taken ∧
      (x.write (.write chunk)).2.sink.written =
        x.sink.written ++ [x.body.pipeline.outbound chunk] := by
  have hcall : x.sink.plan .write (x.sink.count .write + 1) = none := by
    rw [h.calls.2.2, h.count]
    cases taken with
    | none => rfl
    | some n =>
        have hlt := hroom n rfl
        exact if_neg (by omega)
  rcases writes_of_settle h.tickets (submit_ticket _ _) (settle_taken h chunk hcall) rfl rfl with
    ⟨hwrites, hwriter, hstatus, hsink⟩
  have hwritten : (x.write (.write chunk)).2.sink.written =
      x.sink.written ++ [x.body.pipeline.outbound chunk] := by
    rw [hsink, List.append_assoc, written_record]
    rfl
  refine ⟨hwrites, ⟨?_, ?_, ?_, hwrites.tickets, hstatus, ?_, ?_, ?_, fun n hn => ?_⟩, hwritten⟩
  · rw [hwriter, h.activity]
  · rw [hwriter, h.queue]
  · rw [hwriter, h.released]
  · rw [hsink, h.blocked]
  · rw [hsink, h.plan]
  · rw [hwritten, List.length_append, hsink, List.append_assoc, count_record, h.count]
    rfl
  · have hlt := hroom n hn
    rw [hwritten, List.length_append]
    exact hlt

-- and the next one is the last, whether that is said or not.
theorem write_broken {n : Nat} (h : x.Open (some n)) (chunk : Bytes)
    (hfull : x.sink.written.length = n) :
    Writes x (.write chunk) (if x.body.bridge.attached then .error .remoteClosed else .ok ()) ∧
      (x.write (.write chunk)).2.Shut ∧
        (x.write (.write chunk)).2.sink.written = x.sink.written := by
  have hcall : x.sink.plan .write (x.sink.count .write + 1) = some .brokenPipe := by
    rw [h.calls.2.2, h.count, hfull]
    exact if_pos (Nat.lt_succ_self n)
  rcases writes_of_settle h.tickets (submit_ticket _ _) (settle_broken h chunk hcall) rfl rfl with
    ⟨hwrites, hwriter, hstatus, hsink⟩
  refine ⟨hwrites, ⟨?_, hwrites.tickets⟩, ?_⟩
  · rw [hwriter]
  · rw [hsink, List.append_assoc, written_record]
    exact List.append_nil _

theorem write_shut (h : x.Shut) (op : WriteOp) :
    Writes x op (Writer.lateAnswer op) ∧ (x.write op).2.Shut ∧
      (x.write op).2.sink.written = x.sink.written := by
  rcases writes_of_settle h.tickets (submit_ticket _ _) (settle_shut h op) rfl rfl with
    ⟨hwrites, hwriter, hstatus, hsink⟩
  refine ⟨hwrites, ⟨?_, hwrites.tickets⟩, ?_⟩
  · rw [hwriter, h.activity]
  · rw [hsink]

/-- A response has begun: its head went first, unless it had gone before. -/
structure Begins (x y : Exchange) : Prop where
  sent : y.sent = some (x.sent.getD (ResponseHead.onTheWire x.pending x.keepAlive))
  bodiless : y.bodiless = x.bodiless
  body : y.body = x.body
  failure : y.failure = x.failure
  same : SameBody x y

theorem begins_sendHeaders {x : Exchange} (h : x.sent = none → x.bodiless = false) :
    x.Begins x.sendHeaders.2 := by
  cases hx : x.sent with
  | none =>
      have hflush : x.sendHeaders.2 =
          { x with
            sent := some (ResponseHead.onTheWire x.pending x.keepAlive)
            pending := { x.pending with headers := [] }
            bodiless := false } := by
        rw [sendHeaders, flush, if_neg (not_headSent hx)]
        rfl
      rw [hflush]
      refine ⟨?_, (h hx).symm, rfl, rfl, rfl, rfl, rfl⟩
      rw [hx]
      rfl
  | some head =>
      have hflush : x.sendHeaders.2 = x := congrArg Prod.snd (flush_late hx false)
      rw [hflush]
      refine ⟨?_, rfl, rfl, rfl, rfl, rfl, rfl⟩
      rw [hx]
      rfl

-- The end of a response writes nothing more.
theorem written_finish (h : x.sent = none → x.bodiless = false)
    (hready : x.Open taken ∨ x.Shut) : x.finish.sink.written = x.sink.written := by
  have hbegun := begins_sendHeaders h
  have hsame : x.SameBody { x.sendHeaders.2 with body := x.sendHeaders.2.body.abandon } :=
    ⟨hbegun.same.writer, hbegun.same.status, hbegun.same.sink⟩
  rcases hready with hopen | hshut
  · have hsink : x.finish.sink = _ := settle_close (hopen.same hsame)
    rw [hsink, List.append_assoc, written_record, hbegun.same.sink]
    exact List.append_nil _
  · exact (write_shut (hshut.same hsame) .close).2.2.trans (congrArg Sink.written hsame.sink)

/-! ### Chunks one after the other -/

theorem kept_sendChunks {P : Exchange → Prop}
    (hwrite : ∀ y chunk, P y → P (y.write (.write chunk)).2) (chunks : List Bytes) :
    ∀ x, P x → P (x.sendChunks chunks).2 := by
  induction chunks with
  | nil => exact fun x hx => hx
  | cons chunk rest ih =>
      intro x hx
      have hfirst := hwrite x chunk hx
      unfold sendChunks
      split
      next y heq =>
        rw [heq] at hfirst
        exact ih y hfirst
      next => exact hfirst

theorem send_eq_sendAll (x : Exchange) (chunk : Bytes) :
    (x.send chunk).2 = (x.sendAll [chunk]).2 := by
  rw [send, sendAll, sendChunks]
  split
  next y heq =>
    rw [heq]
    rfl
  next => rfl

/-- What became of the chunks that were sent, and how that leaves the writer; `unread` says that
    nobody read the request when one of them was. -/
inductive Delivered (taken : Option Nat) (p : Pipeline) (unread : Prop) (sent acked : List Bytes)
    (x : Exchange) : Prop
  /-- The codec took them all. -/
  | all (hopen : x.Open taken) (hacked : acked = sent)
      (hwritten : x.sink.written = sent.map p.outbound)
  /-- The codec let go behind some of them. The next one may have been acknowledged, too, if
      nobody read then. -/
  | first (n m : Nat) (htaken : taken = some n) (hshut : x.Shut) (hn : n < sent.length)
      (hm : m = n ∨ m = n + 1 ∧ unread) (hacked : acked = sent.take m)
      (hwritten : x.sink.written = (sent.take n).map p.outbound)

namespace Delivered

variable {p : Pipeline} {unread : Prop} {sent acked : List Bytes}

theorem ready (h : Delivered taken p unread sent acked x) : x.Open taken ∨ x.Shut := by
  cases h with
  | all hopen _ _ => exact Or.inl hopen
  | first _ _ _ hshut _ _ _ _ => exact Or.inr hshut

theorem same {y : Exchange} {unread' : Prop} (h : Delivered taken p unread sent acked x)
    (hsame : SameBody x y) (hunread : unread → unread') :
    Delivered taken p unread' sent acked y := by
  cases h with
  | all hopen hacked hwritten =>
      exact .all (hopen.same hsame) hacked (by rw [hsame.sink, hwritten])
  | first n m htaken hshut hn hm hacked hwritten =>
      exact .first n m htaken (hshut.same hsame) hn (hm.imp_right (.imp_right hunread)) hacked
        (by rw [hsame.sink, hwritten])

-- What is sent to a writer that has ended is as if it had not been sent.
theorem more {y : Exchange} (n m : Nat) (htaken : taken = some n) (hshut : y.Shut)
    (hn : n < sent.length) (hm : m = n ∨ m = n + 1 ∧ unread) (hacked : acked = sent.take m)
    (hwritten : y.sink.written = (sent.take n).map p.outbound) (later : List Bytes) :
    Delivered taken p unread (sent ++ later) acked y := by
  refine .first n m htaken hshut ?_ hm ?_ ?_
  · rw [List.length_append]
    omega
  · rw [hacked, List.take_append_of_le_length (by omega)]
  · rw [hwritten, List.take_append_of_le_length (by omega)]

-- A chunk is acknowledged, or it is the last that the writer has to do with.
theorem write (h : Delivered taken p unread sent acked x) (hp : x.body.pipeline = p)
    (hunread : x.body.bridge.attached = false → unread) (chunk : Bytes) :
    ((x.write (.write chunk)).1 = some (.ok ()) ∧
        Delivered taken p unread (sent ++ [chunk]) (acked ++ [chunk])
          (x.write (.write chunk)).2) ∨
      (∃ e, (x.write (.write chunk)).1 = some (.error e)) ∧
        ∀ later, Delivered taken p unread (sent ++ chunk :: later) acked
          (x.write (.write chunk)).2 := by
  cases h with
  | all hopen hacked hwritten =>
      by_cases hroom : ∀ n, taken = some n → x.sink.written.length < n
      · rcases write_taken hopen chunk hroom with ⟨hwrites, hstays, hnow⟩
        refine Or.inl ⟨hwrites.answered, .all hstays (by rw [hacked]) ?_⟩
        rw [hnow, hwritten, hp, List.map_append, List.map_singleton]
      · rw [not_forall] at hroom
        rcases hroom with ⟨n, hroom⟩
        rw [Classical.not_imp] at hroom
        rcases hroom with ⟨htaken, hfull⟩
        subst htaken
        have hlength : x.sink.written.length = n :=
          Nat.le_antisymm (hopen.room n rfl) (Nat.le_of_not_lt hfull)
        have hsent : sent.length = n := by
          rw [← hlength, hwritten, List.length_map]
        rcases write_broken hopen chunk hlength with ⟨hwrites, hshut, hnow⟩
        have hstill : (x.write (.write chunk)).2.sink.written =
            ((sent ++ [chunk]).take n).map p.outbound := by
          rw [hnow, hwritten, ← hsent, List.take_left]
        have hnext : (sent ++ [chunk]).length = n + 1 := by
          rw [List.length_append, hsent, List.length_singleton]
        have hmore : n < (sent ++ [chunk]).length := Nat.lt_of_lt_of_eq n.lt_succ_self hnext.symm
        cases hattached : x.body.bridge.attached with
        | false =>
            -- Nobody reads the request, so the broken pipe is not worth a word.
            rw [hattached, if_neg Bool.false_ne_true] at hwrites
            refine Or.inl ⟨hwrites.answered, .first n (n + 1) rfl hshut hmore
              (Or.inr ⟨rfl, hunread hattached⟩) ?_ hstill⟩
            rw [hacked, ← hnext, List.take_length]
        | true =>
            rw [hattached, if_pos rfl] at hwrites
            refine Or.inr ⟨⟨_, hwrites.answered⟩, fun later => ?_⟩
            rw [List.append_cons]
            refine more n n rfl hshut hmore (Or.inl rfl) ?_ hstill later
            rw [hacked, ← hsent, List.take_left]
  | first n m htaken hshut hn hm hacked hwritten =>
      rcases write_shut hshut (.write chunk) with ⟨hwrites, hstays, hnow⟩
      exact Or.inr ⟨⟨_, hwrites.answered⟩, fun later =>
        more n m htaken hstays hn hm hacked (hnow.trans hwritten) (chunk :: later)⟩

end Delivered

/-- The chunks that are taken by a codec that lets go behind so many. -/
def takenOf (taken : Option Nat) (chunks : List Bytes) : List Bytes :=
  match taken with
  | none => chunks
  | some n => chunks.take n

theorem takenOf_nil (taken : Option Nat) : takenOf taken [] = [] := by
  cases taken with
  | none => rfl
  | some n => exact List.take_nil

namespace Delivered

variable {p : Pipeline} {unread : Prop} {sent acked : List Bytes}

theorem of_nothing (h : Delivered taken p unread [] acked x) :
    x.Open taken ∧ acked = [] ∧ x.sink.written = [] := by
  cases h with
  | all hopen hacked hwritten => exact ⟨hopen, hacked, hwritten⟩
  | first _ _ _ _ hn _ _ _ => exact absurd hn (Nat.not_lt_zero _)

theorem acknowledged_in_order (h : Delivered taken p unread sent acked x) :
    acked <+: sent ∧ ((∀ n, taken = some n → sent.length ≤ n) → acked = sent) := by
  cases h with
  | all _ hacked _ =>
      rw [hacked]
      exact ⟨List.prefix_rfl, fun _ => rfl⟩
  | first n m htaken _ hn _ hacked _ =>
      rw [hacked]
      exact ⟨List.take_prefix m sent, fun h => absurd (h n htaken) (Nat.not_le_of_lt hn)⟩

theorem written_eq (h : Delivered taken p unread sent acked x) :
    x.sink.written = (takenOf taken acked).map p.outbound ∧
      ∀ n, taken = some n → acked.length ≤ n + 1 := by
  cases h with
  | all hopen hacked hwritten =>
      have hlength : x.sink.written.length = sent.length := by
        rw [hwritten, List.length_map]
      rw [hwritten, hacked, ← hlength]
      refine ⟨?_, fun n hn => Nat.le_succ_of_le (hopen.room n hn)⟩
      cases taken with
      | none => rfl
      | some n =>
          have hroom := hopen.room n rfl
          rw [hlength] at hroom
          rw [takenOf, List.take_of_length_le hroom]
  | first n m htaken _ hn hm hacked hwritten =>
      have hle : n ≤ m := by omega
      rw [hwritten, hacked, htaken, takenOf, List.take_take, Nat.min_eq_left hle]
      refine ⟨rfl, fun k hk => ?_⟩
      injection hk with hk
      rw [List.length_take, ← hk]
      omega

theorem written_of_read (h : Delivered taken p unread sent acked x) (hread : ¬ unread) :
    x.sink.written = acked.map p.outbound := by
  cases h with
  | all _ hacked hwritten => rw [hwritten, hacked]
  | first n m _ _ _ hm hacked hwritten =>
      have hmn : m = n := hm.resolve_right fun h => hread h.2
      rw [hwritten, hacked, hmn]

end Delivered

-- By induction on the chunks, up to the first that is not acknowledged.
theorem delivered_sendChunks {p : Pipeline} {unread : Prop} (chunks : List Bytes) :
    ∀ (sent acked : List Bytes) (x : Exchange), Delivered taken p unread sent acked x →
      x.body.pipeline = p → (chunks ≠ [] → x.body.bridge.attached = false → unread) →
        Delivered taken p unread (sent ++ chunks) (acked ++ x.acknowledged chunks)
          (x.sendChunks chunks).2 := by
  induction chunks with
  | nil =>
      intro sent acked x h _ _
      rw [acknowledged, List.append_nil, List.append_nil]
      exact h
  | cons chunk rest ih =>
      intro sent acked x h hp hunread
      have hbody : (x.write (.write chunk)).2.body = x.body := rfl
      have hwrite := h.write hp (hunread (List.cons_ne_nil chunk rest)) chunk
      unfold acknowledged sendChunks
      generalize x.write (.write chunk) = written at hwrite hbody
      rcases written with ⟨answer, y⟩
      rcases hwrite with ⟨hanswer, hnext⟩ | ⟨⟨e, hanswer⟩, hlast⟩
      · dsimp only at hanswer hbody
        rw [hanswer, List.append_cons sent, List.append_cons acked]
        refine ih _ _ y hnext (by rw [hbody, hp]) fun _ hattached => ?_
        exact hunread (List.cons_ne_nil chunk rest) (by rw [← hbody, hattached])
      · dsimp only at hanswer
        rw [hanswer, List.append_nil]
        exact hlast rest

theorem newHead_toList {x y : Exchange} (h : x.sent = none ∨ y.sent = x.sent) :
    x.sent.toList ++ x.newHead y = y.sent.toList := by
  rcases h with hnone | hkept
  · cases hy : y.sent with
    | none =>
        rw [newHead_of_kept (hy.trans hnone.symm), hnone]
        rfl
    | some head =>
        rw [newHead_of_sent hnone hy, hnone]
        rfl
  · rw [newHead_of_kept hkept, List.append_nil, hkept]

end Exchange

end Http

end DemandNet
