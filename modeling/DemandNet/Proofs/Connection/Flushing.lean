import DemandNet.Proofs.Connection.Closing

/-!
# When a Writer Flushes

What a writer leaves behind when it waits and when it ends, and when it flushes before.

A sink may keep what it was given until it is flushed, so a writer that goes to sleep after
a write has to flush first, and one that ends has to as well, however it came to its end.
On the other hand a flush between two writes is wasted if the second one was there already
when the first one was done. The writer decides by its queue at that moment, and it keeps
a flag for the writes that it did not flush.

The flag alone would not do. A writer with the flag up that waits would leave its write in
the sink for as long as nobody asks for more; it never does, since the flag stays up only
where the queue was not empty, and what is queued is taken out by the writer alone. `Clean`
says this, together with what is known of the sink when the flag is down, and in the two
places where the flag is not looked at any more: between the flush and the shutdown of a
close, and at the end.

For the flushes in between, a request that waits is compared with the writes before it. As
long as the writer goes on, no flush was made since a write before which the request was
made (`Unbroken`), and while the writer flushes, every request that waits was made after
the last write (`Newer`).

## Main definitions

* `Flushed`: Every write in a record has a flush behind it.
* `Clean`: What the flag of a writer says about its sink.
* `Unbroken`, `Newer`: How a request stands to the writes before it.
* `Bursting`: How those that wait stand to them.

## Theorems

* `clean_write`, `clean_submit`: The flag keeps its meaning.
* `bursting_write`, `bursting_submit`: No flush comes between a write and those that waited.
* `flushed_before_waiting`: When a writer has flushed, when it does not, and what stands in
  front of a shutdown.
-/

namespace DemandNet

namespace Connection

/-- The sink was called to write. -/
def isWrite (r : SinkRecord) : Bool := r.call.kind == .write

/-- The sink was called to flush. -/
def isFlush (r : SinkRecord) : Bool := r.call.kind == .flush

/-- The sink was flushed, whatever for. -/
def Outflow.isFlush (e : Outflow) : Bool := e.record?.any Connection.isFlush

/-- Every write in a record, be it that it failed, has a flush behind it. -/
def Flushed (record : List SinkRecord) : Prop :=
  ∀ before r behind, record = before ++ r :: behind → isWrite r = true →
    ∃ f ∈ behind, isFlush f = true

/-- A shutdown stands right behind a flush that succeeded. -/
def Parting (record : List SinkRecord) : Prop :=
  ∀ before r behind, record = before ++ r :: behind → isShutdown r = true →
    before.getLast? = some ⟨.flush, none⟩

/-- A place in two lists put together is a place in one of them. -/
theorem place_of_append {α : Type} {xs ys before behind : List α} {x : α}
    (h : xs ++ ys = before ++ x :: behind) :
    (∃ rest, xs = before ++ x :: rest ∧ behind = rest ++ ys) ∨
      ∃ first, before = xs ++ first ∧ ys = first ++ x :: behind := by
  rcases List.append_eq_append_iff.1 h with hlate | ⟨rest, hxs, hrest⟩
  · exact Or.inr hlate
  · cases rest with
    | nil =>
        rw [List.append_nil] at hxs
        exact Or.inr ⟨[], by rw [List.append_nil, hxs], hrest.symm⟩
    | cons y rest =>
        rw [List.cons_append] at hrest
        injection hrest with hy hbehind
        exact Or.inl ⟨rest, by rw [hxs, hy], hbehind⟩

/-! ### What is left in the sink -/

section Records

variable {record : List SinkRecord} {r : SinkRecord}

theorem flushed_nil : Flushed [] := by
  intro before r behind h _
  simp only [List.nil_eq, List.append_eq_nil_iff, reduceCtorEq, and_false] at h

theorem flushed_by (hr : isFlush r = true) : Flushed (record ++ [r]) := by
  intro before w behind h hw
  rcases place_of_append h with ⟨rest, -, hbehind⟩ | ⟨first, -, hlast⟩
  · rw [hbehind]
    exact ⟨r, List.mem_append_right _ List.mem_cons_self, hr⟩
  · -- A flush is no write.
    rcases List.append_eq_singleton_iff.1 hlast.symm with ⟨-, hsame⟩ | ⟨-, hnone⟩
    · simp only [List.cons.injEq] at hsame
      simp only [isWrite, isFlush, beq_iff_eq] at hr hw
      rw [hsame.1, hr] at hw
      simp only [reduceCtorEq] at hw
    · simp only [reduceCtorEq] at hnone

theorem Flushed.more (hf : Flushed record) (hr : isWrite r = false) :
    Flushed (record ++ [r]) := by
  intro before w behind h hw
  rcases place_of_append h with ⟨rest, hrecord, hbehind⟩ | ⟨first, -, hlast⟩
  · rcases hf before w rest hrecord hw with ⟨f, hmem, hflush⟩
    rw [hbehind]
    exact ⟨f, List.mem_append_left _ hmem, hflush⟩
  · have hmem : w ∈ [r] := by
      rw [hlast]
      exact List.mem_append_right _ List.mem_cons_self
    rw [List.mem_singleton.1 hmem, hr] at hw
    simp only [Bool.false_eq_true] at hw

theorem Parting.more (hp : Parting record)
    (hr : isShutdown r = true → record.getLast? = some ⟨.flush, none⟩) :
    Parting (record ++ [r]) := by
  intro before s behind h hs
  rcases place_of_append h with ⟨rest, hrecord, -⟩ | ⟨first, hbefore, hlast⟩
  · exact hp before s rest hrecord hs
  · rcases List.append_eq_singleton_iff.1 hlast.symm with ⟨hnil, hsame⟩ | ⟨-, hnone⟩
    · simp only [List.cons.injEq] at hsame
      rw [hbefore, hnil, List.append_nil]
      exact hr (by rw [← hsame.1]; exact hs)
    · simp only [reduceCtorEq] at hnone

end Records

/-- What the flag of a writer says about its sink. -/
structure Clean (w : Writer) (record : List SinkRecord) : Prop where
  flag : w.dirty = false → Flushed record
  /-- A writer that looks for a request with the flag up finds one. -/
  idle : w.activity = .idle → w.dirty = true → w.queue ≠ []
  shutting : ∀ t, w.activity = .shutting t →
    Flushed record ∧ record.getLast? = some ⟨.flush, none⟩
  ended : w.activity = .ended → Flushed record
  parting : Parting record

section Clean

variable {l l' : Link} {es : List Outflow}

-- The flag is up right after a write, so a writer that then gives up has still to flush.
theorem writing_not_ended (l : Link) (t : Nat) (chunk : Bytes)
    (ha : l.writer.activity = .writing t chunk) : (l.turn .write).writer.activity ≠ .ended := by
  have hturn : l.turn .write = l.withWriter (l.writer.advance l.writerView l.sink) := rfl
  unfold Writer.advance at hturn
  rw [hturn, ha]
  dsimp only
  by_cases hb : l.sink.blocked = true
  · simp only [hb, if_true, Link.withWriter, ha, ne_eq, reduceCtorEq, not_false_eq_true]
  · simp only [hb, Bool.false_eq_true, if_false]
    split
    · simp only [Link.withWriter, ne_eq, reduceCtorEq, not_false_eq_true]
    · simp only [Link.withWriter, Writer.concludeWrite, Writer.giveUp, Writer.answer, if_true]
      split <;> simp only [ne_eq, reduceCtorEq, not_false_eq_true]

-- How a writer ends that was not asked to: with the flag up it flushes first.
theorem Clean.givesUp {w w' : Writer} {record : List SinkRecord}
    {as : List (Nat × Except NetError Unit)} (hg : GivesUp w as w') (hp : Parting record)
    (hflag : w.dirty = false → Flushed record)
    (hend : w'.activity = .ended → w.dirty = false) : Clean w' record := by
  cases hg with
  | cleans hd =>
      refine ⟨hflag, ?_, ?_, ?_, hp⟩ <;> simp only [reduceCtorEq, false_implies, implies_true]
  | ends =>
      refine ⟨hflag, ?_, ?_, fun ha => hflag (hend ha), hp⟩ <;>
        simp only [Writer.finish, reduceCtorEq, false_implies, implies_true]

-- A call on behalf of a write leaves the flag up unless it is a flush.
theorem Settling.flag {t : Nat} {dirty : Bool} {r : SinkRecord} {e : Outflow}
    (hr : Settling l t dirty r e) (hc : Clean l.writer l.sink.record) :
    (dirty = false → Flushed (l.sink.record ++ [r])) ∧ Parting (l.sink.record ++ [r]) ∧
      (dirty = true → ∃ chunk, l.writer.activity = .writing t chunk ∧
        (r.failure ≠ none ∨ l.writer.queue ≠ [])) := by
  cases hr with
  | write chunk failure ha hf =>
      refine ⟨?_, hc.parting.more ?_, fun _ => ⟨chunk, ha, hf⟩⟩
      · simp only [Bool.true_eq_false, false_implies]
      · simp only [isShutdown, SinkCall.kind, beq_iff_eq, reduceCtorEq, false_implies]
  | flush failure ha =>
      refine ⟨fun _ => flushed_by rfl, hc.parting.more ?_, ?_⟩
      · simp only [isShutdown, SinkCall.kind, beq_iff_eq, reduceCtorEq, false_implies]
      · simp only [Bool.false_eq_true, false_implies]

-- Behind a flush everything is clean, and a task that parts has not failed to flush.
theorem Clean.flushes (hc : Clean l.writer l.sink.record) (w : Writer) (failure : Option IoKind)
    (hidle : w.activity ≠ .idle) (hshut : ∀ t, w.activity = .shutting t → failure = none) :
    Clean w (l.sink.record ++ [⟨.flush, failure⟩]) := by
  refine ⟨fun _ => flushed_by rfl, fun ha => absurd ha hidle, fun t ha => ⟨flushed_by rfl, ?_⟩,
    fun _ => flushed_by rfl, hc.parting.more ?_⟩
  · rw [hshut t ha, List.getLast?_concat]
  · simp only [isShutdown, SinkCall.kind, beq_iff_eq, reduceCtorEq, false_implies]

theorem clean_write (hc : Clean l.writer l.sink.record)
    (hlate : ∀ t chunk, l.writer.activity = .writing t chunk → l'.writer.activity ≠ .ended)
    (hmove : WriteMove l es l') : Clean l'.writer l'.sink.record := by
  cases hmove with
  | waits _ => exact hc
  | takes r rest ha hq =>
      have hbegun : r.begun l.pipeline ≠ .idle ∧ (∀ t, r.begun l.pipeline ≠ .shutting t) ∧
          r.begun l.pipeline ≠ .ended := by
        unfold Request.begun
        cases r.op <;> simp only [ne_eq, reduceCtorEq, not_false_eq_true, implies_true, and_self]
      exact ⟨hc.flag, fun h => absurd h hbegun.1, fun t h => absurd h (hbegun.2.1 t),
        fun h => absurd h hbegun.2.2, hc.parting⟩
  | releases as w ha hq hg =>
      refine .givesUp hg hc.parting hc.flag fun _ => ?_
      by_contra hd
      exact hc.idle ha (Bool.not_eq_false _ ▸ hd) hq
  | writes t chunk ha hq =>
      refine ⟨?_, ?_, ?_, ?_, hc.parting.more ?_⟩ <;>
        simp only [isShutdown, SinkCall.kind, beq_iff_eq, reduceCtorEq, Bool.true_eq_false,
          false_implies, implies_true]
  | settles t dirty r e hr hf hs =>
      rcases hr.flag hc with ⟨hflag, hparting, hwrote⟩
      refine ⟨hflag, fun _ hd => ?_, ?_, ?_, hparting⟩
      · rcases hwrote hd with ⟨chunk, -, hfailed | hqueue⟩
        · exact absurd hf hfailed
        · exact hqueue
      · simp only [reduceCtorEq, false_implies, implies_true]
      · simp only [reduceCtorEq, false_implies]
  | fails t dirty r e as w status hr hf hg =>
      rcases hr.flag hc with ⟨hflag, hparting, hwrote⟩
      refine .givesUp hg hparting hflag fun hend => ?_
      by_contra hd
      rcases hwrote (Bool.not_eq_false _ ▸ hd) with ⟨chunk, ha, -⟩
      exact hlate t chunk ha hend
  | parts t ha =>
      exact hc.flushes _ none (by simp only [ne_eq, reduceCtorEq, not_false_eq_true])
        fun _ _ => rfl
  | closes t r status hr =>
      cases hr with
      | unflushed k ha =>
          refine hc.flushes _ (some k) ?_ ?_ <;>
            simp only [Writer.finish, ne_eq, reduceCtorEq, not_false_eq_true, false_implies,
              implies_true]
      | shut failure ha =>
          rcases hc.shutting t ha with ⟨hflushed, hlast⟩
          have hmore : Flushed (l.sink.record ++ [⟨.shutdown, failure⟩]) := hflushed.more rfl
          exact ⟨fun _ => hmore, by simp only [Writer.finish, reduceCtorEq, false_implies],
            by simp only [Writer.finish, reduceCtorEq, false_implies, implies_true],
            fun _ => hmore, hc.parting.more fun _ => hlast⟩
  | cleans failure ha =>
      refine hc.flushes _ failure ?_ ?_ <;>
        simp only [Writer.finish, ne_eq, reduceCtorEq, not_false_eq_true, false_implies,
          implies_true]

theorem clean_submit {op : WriteOp} (hc : Clean l.writer l.sink.record)
    (hmove : SubmitMove l op es l') : Clean l'.writer l'.sink.record := by
  cases hmove with
  | late ha => exact ⟨hc.flag, hc.idle, hc.shutting, hc.ended, hc.parting⟩
  | queued ha =>
      refine ⟨hc.flag, fun _ _ => ?_, hc.shutting, hc.ended, hc.parting⟩
      simp only [ne_eq, List.append_eq_nil_iff, reduceCtorEq, and_false, not_false_eq_true]

end Clean

/-! ### Bursts of writes -/

/-- No flush was made since a write before which the request was made. -/
def Unbroken (h : List Outflow) (t : Nat) : Prop :=
  ∀ before e between, h = before ++ e :: between → e.isWrite = true → t ∈ ticketsOf before →
    ∀ f ∈ between, f.isFlush = false

/-- The request was made after the last write. -/
def Newer (h : List Outflow) (t : Nat) : Prop :=
  ∀ before e behind, h = before ++ e :: behind → e.isWrite = true → t ∉ ticketsOf before

section Bursts

variable {h es : List Outflow} {t : Nat}

-- As long as no flush is made, nothing changes.
theorem Unbroken.more (hu : Unbroken h t) (hes : ∀ e ∈ es, e.isFlush = false) :
    Unbroken (h ++ es) t := by
  intro before e between heq hw ht f hf
  rcases place_of_append heq with ⟨rest, hold, hbetween⟩ | ⟨first, -, hnew⟩
  · rw [hbetween] at hf
    rcases List.mem_append.1 hf with hrest | hes'
    · exact hu before e rest hold hw ht f hrest
    · exact hes f hes'
  · refine hes f ?_
    rw [hnew]
    exact List.mem_append_right _ (List.mem_cons_of_mem _ hf)

theorem Newer.more (hn : Newer h t) (hes : ∀ e ∈ es, e.isWrite = false) : Newer (h ++ es) t := by
  intro before e behind heq hw
  rcases place_of_append heq with ⟨rest, hold, -⟩ | ⟨first, -, hnew⟩
  · exact hn before e rest hold hw
  · have hmem : e ∈ es := by
      rw [hnew]
      exact List.mem_append_right _ List.mem_cons_self
    rw [hes e hmem] at hw
    simp only [Bool.false_eq_true] at hw

-- Who comes after the last write is not concerned by a flush.
theorem Newer.unbroken (hn : Newer h t) : Unbroken h t := by
  intro before e between heq hw ht
  exact absurd ht (hn before e between heq hw)

-- A request is newer than everything before it.
theorem newer_of_fresh (hall : ∀ s ∈ ticketsOf h, s < t) : Newer h t := by
  intro before e behind heq _ ht
  refine Nat.lt_irrefl t (hall t ?_)
  rw [heq, ticketsOf_append]
  exact List.mem_append_left _ ht

theorem quiet_answering (as : List (Nat × Except NetError Unit)) :
    ∀ e ∈ answering as, e.isFlush = false ∧ e.isWrite = false := by
  intro e he
  rcases List.mem_map.1 he with ⟨a, -, rfl⟩
  exact ⟨rfl, rfl⟩

theorem not_write_cons_answering {e : Outflow} (he : e.isWrite = false)
    (as : List (Nat × Except NetError Unit)) : ∀ e' ∈ e :: answering as, e'.isWrite = false :=
  List.forall_mem_cons.2 ⟨he, fun e' he' => (quiet_answering as e' he').2⟩

end Bursts

/-- The requests that have still to be served: those in the queue, and a write that was taken
    out of it. -/
def Writer.waiting (w : Writer) : List Nat :=
  match w.activity with
  | .writing t _ => t :: w.queue.map Request.ticket
  | _ => w.queue.map Request.ticket

/-- How the requests that wait stand to the writes before them. -/
structure Bursting (w : Writer) (h : List Outflow) : Prop where
  waiting : w.isOver = false → ∀ t ∈ w.waiting, Unbroken h t
  newer : ∀ t, w.activity = .flushing t → ∀ s ∈ w.waiting, Newer h s
  /-- Every write was made while this was so. -/
  written : ∀ before e behind, h = before ++ e :: behind → e.isWrite = true →
    ∀ t, e.caller? = some t → Unbroken before t

section Bursting

variable {l l' : Link} {h es : List Outflow}

theorem Bursting.goOn {w w' : Writer} (hb : Bursting w h)
    (hwaiting : w'.isOver = false → ∀ t ∈ w'.waiting, Unbroken (h ++ es) t)
    (hnewer : ∀ t, w'.activity = .flushing t → ∀ s ∈ w'.waiting, Newer (h ++ es) s)
    (hes : ∀ first e behind, es = first ++ e :: behind → e.isWrite = true →
      first = [] ∧ ∀ t, e.caller? = some t → Unbroken h t) : Bursting w' (h ++ es) := by
  refine ⟨hwaiting, hnewer, fun before e behind heq hw t ht => ?_⟩
  rcases place_of_append heq with ⟨rest, hold, -⟩ | ⟨first, hbefore, hnew⟩
  · exact hb.written before e rest hold hw t ht
  · rcases hes first e behind hnew hw with ⟨hfirst, hunbroken⟩
    rw [hbefore, hfirst, List.append_nil]
    exact hunbroken t ht

-- A step that writes nothing.
theorem no_write_in (hes : ∀ e ∈ es, e.isWrite = false) :
    ∀ first e behind, es = first ++ e :: behind → e.isWrite = true →
      first = [] ∧ ∀ t, e.caller? = some t → Unbroken h t := by
  intro first e behind heq hw
  have hmem : e ∈ es := by
    rw [heq]
    exact List.mem_append_right _ List.mem_cons_self
  rw [hes e hmem] at hw
  simp only [Bool.false_eq_true] at hw

-- A call comes first and the answers behind it, so only the call can be a write.
theorem write_in_front {e : Outflow} (as : List (Nat × Except NetError Unit))
    (he : e.isWrite = true → ∀ t, e.caller? = some t → Unbroken h t) :
    ∀ first e' behind, e :: answering as = first ++ e' :: behind → e'.isWrite = true →
      first = [] ∧ ∀ t, e'.caller? = some t → Unbroken h t := by
  intro first e' behind heq hw
  cases first with
  | nil =>
      rw [List.nil_append] at heq
      injection heq with hsame _
      rw [← hsame] at hw ⊢
      exact ⟨rfl, he hw⟩
  | cons e'' first =>
      rw [List.cons_append] at heq
      injection heq with _ hrest
      have hmem : e' ∈ answering as := by
        rw [hrest]
        exact List.mem_append_right _ List.mem_cons_self
      rw [(quiet_answering as e' hmem).2] at hw
      simp only [Bool.false_eq_true] at hw

-- A writer that is over waits for nothing, and it does not flush because of a write.
theorem Bursting.over {w w' : Writer} (hb : Bursting w h) (hover : w'.isOver = true)
    (hes : ∀ first e behind, es = first ++ e :: behind → e.isWrite = true →
      first = [] ∧ ∀ t, e.caller? = some t → Unbroken h t) : Bursting w' (h ++ es) := by
  refine hb.goOn (fun hgoing => ?_) (fun t ha => ?_) hes
  · rw [hover] at hgoing
    simp only [Bool.true_eq_false] at hgoing
  · rw [isOver_eq ha] at hover
    simp only [Writer.isOver, Bool.false_eq_true] at hover

theorem waiting_eq {w : Writer} {a : Activity} (ha : w.activity = a) :
    w.waiting = Writer.waiting { w with activity := a } := by
  rw [← ha]

theorem Bursting.inFront {t : Nat} {dirty : Bool} {r : SinkRecord} {e : Outflow}
    (hb : Bursting l.writer h) (hr : Settling l t dirty r e) :
    e.isWrite = true → ∀ s, e.caller? = some s → Unbroken h s := by
  intro hw s hs
  cases hr with
  | write chunk failure ha hf =>
      refine hb.waiting (isOver_eq ha) s ?_
      simp only [Outflow.caller?, Option.some.injEq] at hs
      rw [waiting_eq ha, ← hs]
      exact List.mem_cons_self
  | flush failure ha => simp only [Outflow.isWrite, Bool.false_eq_true] at hw

-- After a write that was followed by others at once no flush has been made; after a flush
-- those that wait have come since the write.
theorem Bursting.settled {t : Nat} {dirty : Bool} {r : SinkRecord} {e : Outflow}
    (hb : Bursting l.writer h) (hr : Settling l t dirty r e)
    (as : List (Nat × Except NetError Unit)) :
    ∀ s ∈ l.writer.queue.map Request.ticket, Unbroken (h ++ e :: answering as) s := by
  intro s hs
  cases hr with
  | write chunk failure ha hf =>
      refine Unbroken.more (hb.waiting (isOver_eq ha) s ?_) ?_
      · rw [waiting_eq ha]
        exact List.mem_cons_of_mem _ hs
      · exact List.forall_mem_cons.2 ⟨rfl, fun e he => (quiet_answering as e he).1⟩
  | flush failure ha =>
      refine (Newer.more (hb.newer t ha s ?_) ?_).unbroken
      · rw [waiting_eq ha]
        exact hs
      · exact not_write_cons_answering rfl as

theorem bursting_write (hb : Bursting l.writer h) (hmove : WriteMove l es l') :
    Bursting l'.writer (h ++ es) := by
  cases hmove with
  | waits _ =>
      rw [List.append_nil]
      exact hb
  | takes r rest ha hq =>
      rcases r with ⟨t, op⟩
      cases op with
      | close => exact hb.over rfl (no_write_in fun _ he => absurd he List.not_mem_nil)
      | write chunk =>
          -- The request is out of the queue, but still waits to be written.
          have hwaiting : l.writer.waiting = t :: rest.map Request.ticket := by
            rw [waiting_eq ha, Writer.waiting, hq, List.map_cons]
          refine hb.goOn (fun _ s hs => ?_) ?_ (no_write_in fun _ he => absurd he List.not_mem_nil)
          · rw [List.append_nil]
            refine hb.waiting (isOver_eq ha) s ?_
            rw [hwaiting]
            exact hs
          · simp only [Request.begun, reduceCtorEq, false_implies, implies_true]
  | releases as w ha hq hg =>
      exact hb.over hg.past.2 (no_write_in fun e he => (quiet_answering as e he).2)
  | writes t chunk ha hq =>
      have hnone :
          Writer.waiting { l.writer with activity := .flushing t, dirty := true } = [] := by
        rw [Writer.waiting, hq, List.map_nil]
      refine hb.goOn (fun _ s hs => ?_) (fun _ _ s hs => ?_) (write_in_front [] ?_)
      · rw [hnone] at hs
        exact absurd hs List.not_mem_nil
      · rw [hnone] at hs
        exact absurd hs List.not_mem_nil
      · intro _ s hs
        refine hb.waiting (isOver_eq ha) s ?_
        simp only [Outflow.caller?, Option.some.injEq] at hs
        rw [waiting_eq ha, ← hs]
        exact List.mem_cons_self
  | settles t dirty r e hr hf hs =>
      refine hb.goOn (fun _ => hb.settled hr _) ?_ (write_in_front _ (hb.inFront hr))
      simp only [reduceCtorEq, false_implies, implies_true]
  | fails t dirty r e as w status hr hf hg =>
      exact hb.over hg.past.2 (write_in_front _ (hb.inFront hr))
  | parts t ha => exact hb.over rfl (no_write_in (not_write_cons_answering rfl []))
  | closes t r status hr => exact hb.over rfl (no_write_in (not_write_cons_answering rfl _))
  | cleans failure ha => exact hb.over rfl (no_write_in (not_write_cons_answering rfl _))

-- Whoever comes now comes after every write that was made.
theorem bursting_submit {op : WriteOp} (hb : Bursting l.writer h)
    (htickets : ticketsOf h = List.range l.writer.issued) (hmove : SubmitMove l op es l') :
    Bursting l'.writer (h ++ es) := by
  have hquiet : ∀ e ∈ es, e.isFlush = false ∧ e.isWrite = false := by
    cases hmove with
    | late _ => exact List.forall_mem_cons.2 ⟨⟨rfl, rfl⟩, quiet_answering [_]⟩
    | queued _ => exact List.forall_mem_singleton.2 ⟨rfl, rfl⟩
  have hnew : Newer (h ++ es) l.writer.issued := by
    refine Newer.more (newer_of_fresh fun s hs => ?_) fun e he => (hquiet e he).2
    rw [htickets] at hs
    exact List.mem_range.1 hs
  cases hmove with
  | late ha =>
      refine hb.over ?_ (no_write_in fun e he => (hquiet e he).2)
      exact isOver_eq (w := { l.writer with issued := _, answers := _ }) ha
  | queued ha =>
      have hwaiting : Writer.waiting { l.writer with
            issued := l.writer.issued + 1
            queue := l.writer.queue ++ [⟨l.writer.issued, op⟩] } =
          l.writer.waiting ++ [l.writer.issued] := by
        unfold Writer.waiting
        cases l.writer.activity <;>
          simp only [List.map_append, List.map_cons, List.map_nil, List.cons_append]
      refine hb.goOn (fun hgoing s hs => ?_) (fun t ht s hs => ?_)
        (no_write_in fun e he => (hquiet e he).2)
      · rw [hwaiting] at hs
        rcases List.mem_append.1 hs with hold | hlast
        · exact (hb.waiting hgoing s hold).more fun e he => (hquiet e he).1
        · rw [List.mem_singleton.1 hlast]
          exact hnew.unbroken
      · rw [hwaiting] at hs
        rcases List.mem_append.1 hs with hold | hlast
        · exact (hb.newer t ht s hold).more fun e he => (hquiet e he).2
        · rw [List.mem_singleton.1 hlast]
          exact hnew

end Bursting

/-! ### The flushes of a writer -/

/-- What relates a link to the flushes in its history. -/
structure Flushing (l : Link) (h : List Outflow) : Prop where
  outflowing : Outflowing l h
  clean : Clean l.writer l.sink.record
  bursting : Bursting l.writer h

theorem flushing_start (pipeline : Pipeline) (window : Flow.Window) (idleLimit : Option Nat)
    (plan : SinkCallKind → Nat → Option IoKind) :
    Flushing (Link.start pipeline window idleLimit (.planned plan)) [] where
  outflowing := outflowing_start pipeline window idleLimit plan
  clean := by
    refine ⟨fun _ => flushed_nil, ?_, ?_, ?_, ?_⟩
    · simp only [Link.start, Writer.start, Bool.false_eq_true, false_implies, implies_true]
    · simp only [Link.start, Writer.start, reduceCtorEq, false_implies, implies_true]
    · simp only [Link.start, Writer.start, reduceCtorEq, false_implies]
    · intro before r behind h _
      simp only [Link.start, Sink.planned, List.nil_eq, List.append_eq_nil_iff, reduceCtorEq,
        and_false] at h
  bursting := by
    refine ⟨fun _ t ht => absurd ht List.not_mem_nil, fun _ _ t ht => absurd ht List.not_mem_nil,
      fun before e behind h => ?_⟩
    simp only [List.nil_eq, List.append_eq_nil_iff, reduceCtorEq, and_false] at h

theorem flushing_turn (l : Link) (h : List Outflow) (t : Turn) (hf : Flushing l h) :
    Flushing (l.turn t) (h ++ l.outflow t) := by
  have hboth : Clean (l.turn t).writer (l.turn t).sink.record ∧
      Bursting (l.turn t).writer (h ++ l.outflow t) := by
    by_cases hw : t = .write
    · rw [hw]
      exact ⟨clean_write hf.clean (writing_not_ended l) (write_move l),
        bursting_write hf.bursting (write_move l)⟩
    by_cases hs : ∃ op, t = .submit op
    · rcases hs with ⟨op, rfl⟩
      exact ⟨clean_submit hf.clean (submit_move l op),
        bursting_submit hf.bursting hf.outflowing.tallied.tickets (submit_move l op)⟩
    · have hne : ∀ op, t ≠ .submit op := fun op h => hs ⟨op, h⟩
      rcases writing_side l t hw hne with ⟨⟨hrecord, -⟩, released, hwriter⟩
      rw [hrecord, hwriter, outflow_other l t hw hne, List.append_nil]
      exact ⟨⟨hf.clean.flag, hf.clean.idle, hf.clean.shutting, hf.clean.ended, hf.clean.parting⟩,
        ⟨hf.bursting.waiting, hf.bursting.newer, hf.bursting.written⟩⟩
  exact ⟨outflowing_turn l h t hf.outflowing, hboth.1, hboth.2⟩

-- A writer that has nothing to do or has ended has flushed since its last write, whatever
-- failed. Between two writes it does not flush if the second was asked for before the first
-- was done. Nothing is shut down but right after a flush that succeeded.
theorem flushed_before_waiting (pipeline : Pipeline) (window : Flow.Window)
    (idleLimit : Option Nat) (plan : SinkCallKind → Nat → Option IoKind) (ts : List Turn) :
    let l := (Link.start pipeline window idleLimit (.planned plan)).after ts
    let h := (Link.start pipeline window idleLimit (.planned plan)).watch Link.outflow ts
    recordsOf h = l.sink.record ∧
      (l.writer.Asleep ∨ l.writer.activity = .ended →
        ∀ before r behind, l.sink.record = before ++ r :: behind → isWrite r = true →
          ∃ f ∈ behind, isFlush f = true) ∧
      (∀ before e between e' behind, h = before ++ e :: (between ++ e' :: behind) →
        e.isWrite = true → e'.isWrite = true →
        (∀ t, e'.caller? = some t → t ∈ ticketsOf before) →
        ∀ r ∈ recordsOf between, isFlush r = false) ∧
      ∀ before r behind, l.sink.record = before ++ r :: behind → isShutdown r = true →
        before.getLast? = some ⟨.flush, none⟩ := by
  intro l h
  have hf : Flushing l h := Schedule.invariant_after flushing_turn _ []
    (flushing_start pipeline window idleLimit plan) ts
  refine ⟨hf.outflowing.tallied.records, fun hquiet => ?_, ?_, hf.clean.parting⟩
  · rcases hquiet with ⟨hidle, hqueue⟩ | hended
    · refine hf.clean.flag ?_
      by_contra hd
      exact hf.clean.idle hidle (Bool.not_eq_false _ ▸ hd) hqueue
    · exact hf.clean.ended hended
  · intro before e between e' behind heq hw hw' hasked r hr
    rcases List.mem_filterMap.1 hr with ⟨f, hmem, hrecord⟩
    have hcaller : ∃ t, e'.caller? = some t := by
      cases e' with
      | wrote t _ _ _ _ => exact ⟨t, rfl⟩
      | submitted _ _ _ | flushed _ _ _ | parted _ _ _ _ | unasked _ | answered _ _ =>
          simp only [Outflow.isWrite, Bool.false_eq_true] at hw'
    rcases hcaller with ⟨t, ht⟩
    have hunbroken : Unbroken (before ++ e :: between) t := by
      refine hf.bursting.written _ e' behind ?_ hw' t ht
      rw [heq, List.append_assoc, List.cons_append]
    have hflush := hunbroken before e between rfl hw (hasked t ht) f hmem
    simpa only [Outflow.isFlush, hrecord, Option.any_some] using hflush

/-- A burst of two writes is flushed once, and the chunk that fails behind them as well. -/
example : ((Link.start [] (.bounded 1) none (.planned fun k n =>
      if k = .write ∧ n = 3 then some .timedOut else none)).after
    [.submit (.write [1]), .submit (.write [2]), .write, .write, .write, .write, .write,
      .submit (.write [3]), .write, .write, .write]).sink.record =
    [⟨.write [1], none⟩, ⟨.write [2], none⟩, ⟨.flush, none⟩, ⟨.write [3], some .timedOut⟩,
      ⟨.flush, none⟩] := by
  rfl

end Connection

end DemandNet
