import DemandNet.Proofs.Connection.Sending

/-!
# The Output of a Connection That Closes

What the writer still does once its connection is no longer open.

The reader and the writer share the status, and both can take the connection out of its
open state. A writer looks at the status only when it has come to the end of a write. If
the writer itself found the failure, or was busy when the reader found one, it goes no
further than the requests that were made before. But if it was asleep, with nothing to do
and nothing queued, nobody wakes it: it takes the first request that is made afterwards
as if the connection were open, and a chunk so submitted is written and answered well.
There is no second one, since at the end of that write the writer sees the status.

So the requests that a writer still takes are counted by the tickets: those that had been
given out when the connection closed, and the next one if the writer was asleep.

## Main definitions

* `Writer.Asleep`: The writer has nothing to do.
* `Spared`: The requests that are still taken.
* `Lingering`: How far a writer may have come since its connection closed.

## Theorems

* `lingering_write`, `lingering_submit`: Only spared requests are taken.
* `closing_leaves_one_write`: What is written of what was submitted after the closing.
-/

namespace DemandNet

namespace Connection

/-- The writer has nothing to do, and nothing is queued. -/
def Writer.Asleep (w : Writer) : Prop := w.activity = .idle ∧ w.queue = []

/-- A request that is still taken when the first `n` had been made before the connection
    closed: one of those, or the next one if the writer was asleep. -/
def Spared (n : Nat) (asleep : Prop) (t : Nat) : Prop := t < n ∨ asleep ∧ t = n

/-- How far a writer may have come since its connection closed. -/
inductive Lingering (n : Nat) (asleep : Prop) (w : Writer) : Prop
  /-- It has been asleep all the time. -/
  | sleeps (ha : w.activity = .idle) (hq : w.queue = []) (hs : asleep) (hn : w.issued = n)
  /-- It looks for its next request, which is one it may take. -/
  | looks (r : Request) (rest : List Request) (ha : w.activity = .idle) (hq : w.queue = r :: rest)
      (hr : Spared n asleep r.ticket)
  /-- It writes. -/
  | writes (t : Nat) (hg : w.isOver = false) (ht : w.inHand = [t]) (hs : Spared n asleep t)
  | done (ho : w.isOver = true)

section Lingering

variable {n : Nat} {asleep : Prop} {l l' : Link} {es : List Outflow}

theorem isOver_eq {w : Writer} {a : Activity} (ha : w.activity = a) :
    w.isOver = Writer.isOver { w with activity := a } := by
  rw [← ha]

theorem Lingering.inHand {w : Writer} {t : Nat} (hl : Lingering n asleep w)
    (hg : w.isOver = false) (ht : w.inHand = [t]) : Spared n asleep t := by
  cases hl with
  | sleeps ha _ _ _ | looks _ _ ha _ _ =>
      rw [inHand_eq ha] at ht
      cases ht
  | writes t' _ ht' hs =>
      cases ht'.symm.trans ht
      exact hs
  | done ho =>
      rw [ho] at hg
      cases hg

-- A writer whose connection is no longer open ends with the write that it is busy with, so
-- it looks for another request only if it was not busy at all.
theorem lingering_write (hs : l.status ≠ .opened) (hl : Lingering n asleep l.writer)
    (hmove : WriteMove l es l') :
    Lingering n asleep l'.writer ∧ ∀ a ∈ attemptsOf es, Spared n asleep a.1 := by
  have hquiet : ∀ as, attemptsOf (answering as) = [] := fun as => (parts_of_answering [] as).2
  have hnone : attemptsOf es = [] → ∀ a ∈ attemptsOf es, Spared n asleep a.1 := by
    intro h a ha
    rw [h] at ha
    exact absurd ha List.not_mem_nil
  cases hmove with
  | waits _ => exact ⟨hl, hnone rfl⟩
  | takes r rest ha hq =>
      refine ⟨?_, hnone rfl⟩
      have hr : Spared n asleep r.ticket := by
        cases hl with
        | sleeps _ hempty _ _ => cases hempty.symm.trans hq
        | looks r' rest' _ hq' hr' =>
            cases hq'.symm.trans hq
            exact hr'
        | writes t _ ht _ =>
            rw [inHand_eq ha] at ht
            cases ht
        | done ho =>
            rw [isOver_eq ha] at ho
            cases ho
      rcases r with ⟨t, op⟩
      cases op with
      | write chunk => exact .writes t rfl rfl hr
      | close => exact .done rfl
  | releases as w _ _ hg => exact ⟨.done hg.past.2, hnone (hquiet as)⟩
  | writes t chunk ha _ =>
      have ht : Spared n asleep t := hl.inHand (isOver_eq ha) (inHand_eq ha)
      refine ⟨.writes t rfl rfl ht, fun a hmem => ?_⟩
      rw [List.mem_singleton.1 hmem]
      exact ht
  | settles _ _ _ _ _ _ hopened => exact absurd hopened hs
  | fails t dirty r e as w status hr _ hg =>
      have ht : Spared n asleep t := hl.inHand hr.going.1 hr.inHand.1
      refine ⟨.done hg.past.2, fun a hmem => ?_⟩
      rw [(parts_of_write [] e r _ hr.inHand.2).2.1] at hmem
      cases hr with
      | write chunk failure _ _ =>
          rw [List.mem_singleton.1 hmem]
          exact ht
      | flush failure _ => exact absurd hmem List.not_mem_nil
  | parts t _ => exact ⟨.done rfl, hnone rfl⟩
  | closes t r status _ =>
      exact ⟨.done rfl, hnone (parts_of_write [] (.parted t r.call r.failure _) r _ rfl).2.1⟩
  | cleans failure _ =>
      exact ⟨.done rfl, hnone (parts_of_write [] (.unasked ⟨.flush, failure⟩) _ _ rfl).2.1⟩

-- A request that is made of a sleeping writer is the next one after those before.
theorem lingering_submit {op : WriteOp} (hl : Lingering n asleep l.writer)
    (hmove : SubmitMove l op es l') : Lingering n asleep l'.writer ∧ attemptsOf es = [] := by
  cases hmove with
  | late ha =>
      refine ⟨.done ?_, rfl⟩
      exact isOver_eq (w := { l.writer with issued := _, answers := _ }) ha
  | queued ha =>
      refine ⟨?_, rfl⟩
      cases hl with
      | sleeps hidle hq hs hn =>
          refine .looks ⟨l.writer.issued, op⟩ [] hidle ?_ (.inr ⟨hs, hn⟩)
          dsimp only
          rw [hq, List.nil_append]
      | looks r rest hidle hq hr =>
          refine .looks r (rest ++ [⟨l.writer.issued, op⟩]) hidle ?_ hr
          dsimp only
          rw [hq, List.cons_append]
      | writes t hg ht hs => exact .writes t hg ht hs
      | done ho => exact .done ho

end Lingering

/-- What is known of a connection since it closed. -/
structure Closed (n : Nat) (asleep : Prop) (l : Link) (h : List Outflow) : Prop where
  status : l.status ≠ .opened
  lingering : Lingering n asleep l.writer
  attempts : ∀ a ∈ attemptsOf h, Spared n asleep a.1

theorem closed_turn {n : Nat} {asleep : Prop} (l : Link) (h : List Outflow) (t : Turn)
    (hc : Closed n asleep l h) : Closed n asleep (l.turn t) (h ++ l.outflow t) := by
  have hstep : Lingering n asleep (l.turn t).writer ∧
      ∀ a ∈ attemptsOf (l.outflow t), Spared n asleep a.1 := by
    refine outflow_turn (P := fun l' es => Lingering n asleep l'.writer ∧
        ∀ a ∈ attemptsOf es, Spared n asleep a.1) l t
      (fun es l' => lingering_write hc.status hc.lingering) (fun op es l' hmove => ?_)
      fun l' released hwriter _ => ?_
    · rcases lingering_submit hc.lingering hmove with ⟨hl, hnone⟩
      rw [hnone]
      exact ⟨hl, fun _ ha => absurd ha List.not_mem_nil⟩
    · rw [hwriter]
      refine ⟨?_, fun _ ha => absurd ha List.not_mem_nil⟩
      cases hc.lingering with
      | sleeps ha hq hs hn => exact .sleeps ha hq hs hn
      | looks r rest ha hq hr => exact .looks r rest ha hq hr
      | writes t hg ht hs => exact .writes t hg ht hs
      | done ho => exact .done ho
  refine ⟨l.status_turn t hc.status, hstep.1, fun a ha => ?_⟩
  rw [attemptsOf_append] at ha
  rcases List.mem_append.1 ha with hold | hnew
  · exact hc.attempts a hold
  · exact hstep.2 a hnew

-- Whatever the writer is busy with or has in its queue was asked for before.
theorem closed_start {l : Link} {h : List Outflow} (ho : Outflowing l h)
    (hs : l.status ≠ .opened) : Closed l.writer.issued l.writer.Asleep l [] := by
  refine ⟨hs, ?_, fun _ ha => absurd ha List.not_mem_nil⟩
  have hbefore : ∀ t, t ∈ l.writer.inHand ∨ t ∈ l.writer.queue.map Request.ticket →
      Spared l.writer.issued l.writer.Asleep t := fun t ht => by
    refine .inl (List.mem_range.1 ?_)
    rw [← ho.tallied.inOrder]
    rcases ht with hhand | hqueue
    · exact List.mem_append_left _ (List.mem_append_right _ hhand)
    · exact List.mem_append_right _ hqueue
  cases ha : l.writer.activity with
  | idle =>
      cases hq : l.writer.queue with
      | nil => exact .sleeps ha hq ⟨ha, hq⟩ rfl
      | cons r rest =>
          refine .looks r rest ha hq (hbefore _ (.inr ?_))
          rw [hq]
          exact List.mem_cons_self
  | writing t _ | flushing t =>
      have hin : l.writer.inHand = [t] := inHand_eq ha
      refine .writes t (isOver_eq ha) hin (hbefore t (.inl ?_))
      rw [hin]
      exact List.mem_cons_self
  | closing _ | shutting _ | cleaning | ended => exact .done (isOver_eq ha)

/-! ### Requests and their answers -/

theorem mem_ticketsOf {h : List Outflow} {t : Nat} {op : WriteOp} {late : Bool}
    (hmem : .submitted t op late ∈ h) : t ∈ ticketsOf h :=
  List.mem_filterMap.2 ⟨_, hmem, rfl⟩

-- No two requests have the same ticket.
theorem submitted_unique {h : List Outflow} (hn : (ticketsOf h).Nodup) {t : Nat}
    {op op' : WriteOp} {late late' : Bool} (hmem : .submitted t op late ∈ h)
    (hmem' : .submitted t op' late' ∈ h) : op = op' := by
  induction h with
  | nil => exact absurd hmem List.not_mem_nil
  | cons e rest ih =>
      have hcons : e :: rest = [e] ++ rest := rfl
      rw [hcons, ticketsOf_append] at hn
      rcases List.nodup_append.1 hn with ⟨_, hrest, hdisjoint⟩
      rcases List.mem_cons.1 hmem with rfl | htail
      · rcases List.mem_cons.1 hmem' with heq | htail'
        · cases heq
          rfl
        · exact absurd rfl (hdisjoint t List.mem_cons_self t (mem_ticketsOf htail'))
      · rcases List.mem_cons.1 hmem' with rfl | htail'
        · exact absurd rfl (hdisjoint t List.mem_cons_self t (mem_ticketsOf htail))
        · exact ih hrest htail htail'

-- A write that was answered well was handed to the sink.
theorem Fate.attempted {p : Pipeline} {t : Nat} {chunk : Bytes} {late : Bool} {es : List Outflow}
    (hf : Fate p t (.write chunk) late es (.ok ())) : t ∈ (attemptsOf es).map Prod.fst := by
  generalize hr : (Except.ok () : Except NetError Unit) = r at hf
  cases hf with
  | late | dropped => cases hr
  | wrote _ _ _ _ | flushed _ _ _ => exact List.mem_cons_self

theorem attempted_of_ok {l : Link} {h : List Outflow} (ho : Outflowing l h) {t : Nat}
    {chunk : Bytes} {late : Bool} (hmem : .submitted t (.write chunk) late ∈ h)
    (hok : (t, .ok ()) ∈ answersOf h) : t ∈ (attemptsOf (callsOf t h)).map Prod.fst := by
  rw [ho.tallied.answers] at hok
  rcases ho.kept.answered _ hok with ⟨op, late', hasked, hfate⟩
  have hnodup : (ticketsOf h).Nodup := by
    rw [ho.tallied.tickets]
    exact List.nodup_range
  rw [← submitted_unique hnodup hmem hasked] at hfate
  exact hfate.attempted

section Later

variable {l : Link} {before h : List Outflow}

-- The requests that are made later have the tickets that were not given out before.
theorem later_tickets {n m : Nat} (hbefore : ticketsOf before = List.range n)
    (hall : ticketsOf (before ++ h) = List.range m) :
    ticketsOf h = List.range' n (m - n) := by
  rw [ticketsOf_append, hbefore] at hall
  have hdrop := congrArg (List.drop n) hall
  rwa [List.drop_left' List.length_range, List.range_eq_range', List.drop_range', Nat.zero_add,
    Nat.mul_one] at hdrop

theorem head?_later {n m t : Nat} (hlater : ticketsOf h = List.range' n (m - n))
    (ht : t ∈ ticketsOf h) : n ≤ t ∧ (ticketsOf h).head? = some n := by
  rw [hlater] at ht ⊢
  rw [List.mem_range'_1] at ht
  refine ⟨ht.1, ?_⟩
  rw [List.head?_range', if_neg (by omega)]

end Later

/-! ### The write of a writer that was asleep -/

theorem asleep_takes (l : Link) (chunk : Bytes) (ha : l.writer.Asleep) :
    l.after [.submit (.write chunk), .write] =
      { l with writer := { l.writer with
          issued := l.writer.issued + 1
          activity := .writing l.writer.issued (l.pipeline.outbound chunk) } } := by
  rcases l with ⟨pipeline, window, idleLimit, now, status, bridge, consumer, reader, writer, sink⟩
  rcases writer with ⟨queue, activity, dirty, issued, answers, released⟩
  rcases ha with ⟨rfl, rfl⟩
  rfl

theorem lone_write_written (l : Link) (t : Nat) (chunk : Bytes)
    (ha : l.writer.activity = .writing t chunk) (hq : l.writer.queue = [])
    (hb : l.sink.blocked = false) (hw : (l.sink.call (.write chunk)).1 = none) :
    l.turn .write = { l with
      writer := { l.writer with activity := .flushing t, dirty := true }
      sink := l.sink.recorded ⟨.write chunk, none⟩ } := by
  simp only [Link.turn, Writer.advance, ha, hb, hw, hq, call_eq, Bool.false_eq_true, if_false,
    Option.isNone_none, List.isEmpty_nil, Bool.and_self, if_true]
  rfl

-- A flush that succeeds is the answer to the write before it, whatever the status is by
-- then. The status only says whether the writer goes on.
theorem flushed_write_answered (l : Link) (t : Nat) (ha : l.writer.activity = .flushing t)
    (hf : (l.sink.call .flush).1 = none) :
    (l.turn .write).sink.record = l.sink.record ++ [⟨.flush, none⟩] ∧
      (t, .ok ()) ∈ (l.turn .write).writer.answers := by
  simp only [Link.turn, Writer.advance, ha, hf, Link.withWriter, Writer.concludeWrite,
    Writer.settleCall]
  refine ⟨?_, ?_⟩
  · rw [call_eq, hf]
    rfl
  · split
    · simp [Writer.answer]
    · unfold Writer.giveUp
      simp [Writer.answer, Writer.finish]

theorem asleep_writes (l : Link) (chunk : Bytes) (ha : l.writer.Asleep)
    (hb : l.sink.blocked = false)
    (hw : (l.sink.call (.write (l.pipeline.outbound chunk))).1 = none)
    (hf : (l.sink.call .flush).1 = none) :
    let l' := l.after [.submit (.write chunk), .write, .write, .write]
    l'.sink.written = l.sink.written ++ [l.pipeline.outbound chunk] ∧
      (l.writer.issued, .ok ()) ∈ l'.writer.answers := by
  have hsplit : l.after [.submit (.write chunk), .write, .write, .write] =
      ((l.after [.submit (.write chunk), .write]).turn .write).turn .write := rfl
  have htakes := asleep_takes l chunk ha
  generalize l.after [.submit (.write chunk), .write] = l₁ at hsplit htakes
  have hactivity : l₁.writer.activity = .writing l.writer.issued (l.pipeline.outbound chunk) := by
    rw [htakes]
  have hwrites := lone_write_written l₁ _ _ hactivity (by rw [htakes]; exact ha.2)
    (by rw [htakes]; exact hb) (by rw [htakes]; exact hw)
  -- The write does not count among the flushes, so the flush behind it is the next one.
  have hflush : ((l₁.turn .write).sink.call .flush).1 = none := by
    rw [hwrites, htakes, ← hf]
    simp [Sink.call, Sink.count, Sink.recorded, SinkCall.kind]
  rcases flushed_write_answered (l₁.turn .write) l.writer.issued (by rw [hwrites]) hflush with
    ⟨hrecord, hanswer⟩
  rw [hsplit]
  refine ⟨?_, hanswer⟩
  rw [Sink.written, hrecord, hwrites, htakes]
  simp [Sink.recorded, Sink.written]

-- A writer that finds out by itself that the connection is to close is not asleep then.
theorem not_asleep_of_closing_write (l : Link) (hs : l.status = .opened)
    (hs' : (l.turn .write).status ≠ .opened) : ¬ (l.turn .write).writer.Asleep := by
  have hmove := write_move l
  have hover : ∀ w : Writer, w.isOver = true → ¬ w.Asleep := fun w hw ha => by
    rw [isOver_eq ha.1] at hw
    cases hw
  generalize l.turn .write = l' at hmove hs' ⊢
  generalize l.outflow .write = es at hmove
  cases hmove with
  | waits _ | takes _ _ _ _ | releases _ _ _ _ _ | writes _ _ _ _ | settles _ _ _ _ _ _ _
  | parts _ _ | cleans _ _ => exact absurd hs hs'
  | fails t dirty r e as w status hr _ hg => exact hover _ hg.past.2
  | closes t r status hr => exact hover _ rfl

/-! ### The output of a connection that closes -/

section Closing

variable {l : Link} {before : List Outflow}

theorem written_later (ho : Outflowing l before) (hs : l.status ≠ .opened) (later : List Turn)
    (t : Nat) (chunk : Bytes) (late : Bool)
    (hmem : .submitted t (.write chunk) late ∈ l.watch Link.outflow later)
    (hdone : t ∈ (attemptsOf (l.watch Link.outflow later)).map Prod.fst ∨
      (t, .ok ()) ∈ answersOf (l.watch Link.outflow later)) :
    l.writer.Asleep ∧ (ticketsOf (l.watch Link.outflow later)).head? = some t := by
  have hall : Outflowing (l.after later) (before ++ l.watch Link.outflow later) :=
    Schedule.invariant_after outflowing_turn l before ho later
  have hclosed : Closed l.writer.issued l.writer.Asleep (l.after later)
      ([] ++ l.watch Link.outflow later) :=
    Schedule.invariant_after closed_turn l [] (closed_start ho hs) later
  rw [List.nil_append] at hclosed
  generalize l.watch Link.outflow later = h at hmem hdone hall hclosed ⊢
  rcases head?_later (later_tickets ho.tallied.tickets hall.tallied.tickets)
    (mem_ticketsOf hmem) with ⟨hle, hhead⟩
  -- What was answered well was written, and what was written for a new request was written
  -- after it was made.
  have hattempt : t ∈ (attemptsOf h).map Prod.fst := by
    rcases hdone with hwritten | hok
    · exact hwritten
    · have hcalled := attempted_of_ok hall (List.mem_append_right before hmem)
        (by rw [answersOf_append]; exact List.mem_append_right _ hok)
      rw [callsOf_append, ho.kept.fresh t hle, List.nil_append] at hcalled
      exact ((List.filter_sublist.filterMap _).map Prod.fst).subset hcalled
  rcases List.mem_map.1 hattempt with ⟨a, ha, rfl⟩
  rcases hclosed.attempts a ha with hlt | ⟨hasleep, heq⟩
  · exact absurd hlt (Nat.not_lt.2 hle)
  · rw [heq]
    exact ⟨hasleep, hhead⟩

end Closing

-- Of the chunks that are submitted after a connection has closed at most one is written or
-- answered well, the first request of all that are made, and only if the writer was
-- asleep; and then it is written if the sink takes it. A writer that closed the connection
-- itself writes none of them.
theorem closing_leaves_one_write (pipeline : Pipeline) (window : Flow.Window)
    (idleLimit : Option Nat) (plan : SinkCallKind → Nat → Option IoKind) (before : List Turn) :
    let l := (Link.start pipeline window idleLimit (.planned plan)).after before
    (l.status ≠ .opened →
      (∀ later t chunk late, .submitted t (.write chunk) late ∈ l.watch Link.outflow later →
        (t ∈ (attemptsOf (l.watch Link.outflow later)).map Prod.fst ∨
          (t, .ok ()) ∈ answersOf (l.watch Link.outflow later)) →
        l.writer.Asleep ∧ (ticketsOf (l.watch Link.outflow later)).head? = some t) ∧
      (l.writer.Asleep → l.sink.blocked = false → ∀ chunk,
        (l.sink.call (.write (pipeline.outbound chunk))).1 = none →
        (l.sink.call .flush).1 = none →
        let l' := l.after [.submit (.write chunk), .write, .write, .write]
        l'.sink.written = l.sink.written ++ [pipeline.outbound chunk] ∧
          (l.writer.issued, .ok ()) ∈ l'.writer.answers)) ∧
    (l.status = .opened → (l.turn .write).status ≠ .opened →
      ∀ later t chunk late,
        .submitted t (.write chunk) late ∈ (l.turn .write).watch Link.outflow later →
        t ∉ (attemptsOf ((l.turn .write).watch Link.outflow later)).map Prod.fst ∧
          (t, .ok ()) ∉ answersOf ((l.turn .write).watch Link.outflow later)) := by
  intro l
  have ho : Outflowing l _ := Schedule.invariant_after outflowing_turn _ []
    (outflowing_start pipeline window idleLimit plan) before
  have hpipeline : l.pipeline = pipeline := Link.pipeline_after _ before
  refine ⟨fun hs => ⟨written_later ho hs, fun ha hb chunk hw hf => ?_⟩,
    fun hs hs' later t chunk late hmem => ?_⟩
  · rw [← hpipeline] at hw ⊢
    exact asleep_writes l chunk ha hb hw hf
  · have hnot : ∀ hdone, False := fun hdone => not_asleep_of_closing_write l hs hs'
      (written_later (outflowing_turn _ _ .write ho) hs' later t chunk late hmem hdone).1
    exact ⟨fun hwritten => hnot (.inl hwritten), fun hok => hnot (.inr hok)⟩

/-- Something is wanted of the reader of a connection, and its read fails. -/
def failedRead : List Turn :=
  [.attach .manual, .request 1, .read, .arrive (.failure .connectionReset), .read]

/-- A chunk is submitted, and the writer goes on until it is answered. -/
def lateWrite : List Turn := [.submit (.write [1]), .write, .write, .write]

/-- A connection on which nothing fails but what a plan says. -/
def plainLink (plan : SinkCallKind → Nat → Option IoKind) : Link :=
  .start [] (.bounded 1) none (.planned plan)

theorem lateWrite_after_failedRead :
    let l := (plainLink fun _ _ => none).after failedRead
    let l' := (plainLink fun _ _ => some .connectionReset).after [.submit (.write [2]), .write]
    (l.status = .closing ∧ l.writer.Asleep ∧
      (ticketsOf (l.watch Link.outflow lateWrite)).head? = some 0 ∧
      (l.after lateWrite).sink.written = [[1]] ∧ (0, .ok ()) ∈ (l.after lateWrite).writer.answers) ∧
    l'.status = .opened ∧ (l'.turn .write).status = .closing ∧
      (1, .ok ()) ∉ answersOf ((l'.turn .write).watch Link.outflow lateWrite) := by
  have hclosing := (closing_leaves_one_write [] (.bounded 1) none (fun _ _ => none) failedRead).1
    (by decide)
  have hwritten := hclosing.2 ⟨rfl, rfl⟩ rfl [1] rfl rfl
  have hfirst := hclosing.1 lateWrite 0 [1] false List.mem_cons_self (.inl List.mem_cons_self)
  have hitself := (closing_leaves_one_write [] (.bounded 1) none
    (fun _ _ => some .connectionReset) [.submit (.write [2]), .write]).2 rfl (by decide) lateWrite
    1 [1] false List.mem_cons_self
  exact ⟨⟨rfl, hfirst.1, hfirst.2, hwritten.1, hwritten.2⟩, rfl, rfl, hitself.2⟩

theorem late_write_accepted :
    ¬ ∀ (pipeline : Pipeline) (window : Flow.Window) (idleLimit : Option Nat)
        (plan : SinkCallKind → Nat → Option IoKind) (before later : List Turn),
      let l := (Link.start pipeline window idleLimit (.planned plan)).after before
      let h := l.watch Link.outflow later
      l.status ≠ .opened → ∀ t chunk late, .submitted t (.write chunk) late ∈ h →
        t ∉ (attemptsOf h).map Prod.fst ∧ (t, .ok ()) ∉ answersOf h := by
  intro h
  have hnone := h [] (.bounded 1) none (fun _ _ => none) failedRead lateWrite (by decide) 0 [1]
    false List.mem_cons_self
  exact hnone.1 List.mem_cons_self

end Connection

end DemandNet
