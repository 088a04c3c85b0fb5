import DemandNet.Proofs.Connection.Outflow

/-!
# Every Request Is Answered Once

Which answer a request of a writer gets, and in what order.

The requests of a writer are numbered, and they never overtake each other: those that
were answered, the one that the writer is busy with, and those in its queue are together
all the requests that were ever made, in order. So no request is answered twice and none
gets lost.

Which answer a request gets can be read off the calls that were made for it. `Fate` lists
the ways: a write is answered by what became of its write, or of the flush behind it, a
close by what became of its flush and shutdown, and a request for which nothing was called
is answered because the writer ended before its turn, or had ended before it was made.

How long an answer takes is a matter of turns of the writer. While its sink takes writes,
every turn brings each request that is waiting closer to its answer, whatever else happens
in between.

## Main definitions

* `callsOf`, `answersOf`, `recordsOf`, `ticketsOf`: Parts of a history.
* `Fate`: The calls that were made for a request, and its answer.
* `Tallied`: The requests of a writer in order.
* `Kept`, `Staged`: What was called for each of them.

## Theorems

* `tallied_write`, `tallied_submit`: The requests keep their order.
* `answered_write`, `answered_submit`: What is called for a request fits its answer.
* `answered_within`: A request is answered within a number of turns of the writer.
-/

namespace DemandNet

namespace Connection

/-! ### Parts of a history -/

/-- The request on whose behalf the sink was called. -/
def Outflow.caller? : Outflow → Option Nat
  | .wrote t _ _ _ _ => some t
  | .flushed t _ _ => some t
  | .parted t _ _ _ => some t
  | .submitted _ _ _ => none
  | .unasked _ => none
  | .answered _ _ => none

/-- The calls that were made for a request. -/
def callsOf (t : Nat) (h : List Outflow) : List Outflow := h.filter fun e => e.caller? == some t

/-- The requests that were made, by number. -/
def ticketsOf (h : List Outflow) : List Nat :=
  h.filterMap fun
    | .submitted t _ _ => some t
    | _ => none

/-- The answers that were given. -/
def answersOf (h : List Outflow) : List (Nat × Except NetError Unit) :=
  h.filterMap fun
    | .answered t r => some (t, r)
    | _ => none

/-- The calls of the sink, as the sink has them. -/
def recordsOf (h : List Outflow) : List SinkRecord := h.filterMap Outflow.record?

theorem callsOf_append (t : Nat) (h es : List Outflow) :
    callsOf t (h ++ es) = callsOf t h ++ callsOf t es := List.filter_append _ _

theorem callsOf_of_callers (t : Nat) (es : List Outflow) (hes : ∀ e ∈ es, e.caller? ≠ some t) :
    callsOf t es = [] := by
  refine List.filter_eq_nil_iff.2 fun e he heq => hes e he ?_
  exact beq_iff_eq.1 heq

theorem callsOf_caller (t : Nat) (e : Outflow) (he : e.caller? = some t) : callsOf t [e] = [e] := by
  unfold callsOf
  rw [List.filter_cons_of_pos (by rw [he]; exact beq_self_eq_true _)]
  rfl

theorem ticketsOf_append (h es : List Outflow) :
    ticketsOf (h ++ es) = ticketsOf h ++ ticketsOf es := List.filterMap_append

theorem answersOf_append (h es : List Outflow) :
    answersOf (h ++ es) = answersOf h ++ answersOf es := List.filterMap_append

theorem recordsOf_append (h es : List Outflow) :
    recordsOf (h ++ es) = recordsOf h ++ recordsOf es := List.filterMap_append

theorem answersOf_answering (as : List (Nat × Except NetError Unit)) :
    answersOf (answering as) = as := by
  unfold answersOf answering
  rw [List.filterMap_map]
  exact List.filterMap_some

theorem ticketsOf_answering (as : List (Nat × Except NetError Unit)) :
    ticketsOf (answering as) = [] := by
  unfold ticketsOf answering
  rw [List.filterMap_map]
  exact List.filterMap_eq_nil_iff.2 fun _ _ => rfl

theorem recordsOf_answering (as : List (Nat × Except NetError Unit)) :
    recordsOf (answering as) = [] := by
  unfold recordsOf answering
  rw [List.filterMap_map]
  exact List.filterMap_eq_nil_iff.2 fun _ _ => rfl

/-! ### Requests in order -/

/-- The request that a writer is busy with. -/
def Writer.inHand (w : Writer) : List Nat :=
  match w.activity with
  | .writing t _ => [t]
  | .flushing t => [t]
  | .closing t => [t]
  | .shutting t => [t]
  | _ => []

theorem inHand_eq {w : Writer} {a : Activity} (ha : w.activity = a) :
    w.inHand = Writer.inHand { w with activity := a } := by
  rw [← ha]

/-- The requests of a writer in order, and what was seen of them. -/
structure Tallied (w : Writer) (record : List SinkRecord) (h : List Outflow) : Prop where
  records : recordsOf h = record
  answers : answersOf h = w.answers
  tickets : ticketsOf h = List.range w.issued
  inOrder : w.answers.map Prod.fst ++ w.inHand ++ w.queue.map Request.ticket =
    List.range w.issued
  emptied : w.activity = .ended → w.queue = []

theorem GivesUp.tickets {w w' : Writer} {as : List (Nat × Except NetError Unit)}
    (hg : GivesUp w as w') :
    w'.answers.map Prod.fst ++ w'.inHand ++ w'.queue.map Request.ticket =
        w.answers.map Prod.fst ++ w.queue.map Request.ticket ∧
      w'.issued = w.issued ∧ (w'.activity = .ended → w'.queue = []) := by
  cases hg with
  | cleans _ =>
      refine ⟨?_, rfl, by rintro ⟨⟩⟩
      change w.answers.map Prod.fst ++ [] ++ _ = _
      rw [List.append_nil]
  | ends =>
      refine ⟨?_, rfl, fun _ => rfl⟩
      change (w.answers ++ droppedAnswers w.queue).map Prod.fst ++ [] ++ [] = _
      rw [List.append_nil, List.append_nil, List.map_append, droppedAnswers, List.map_map]
      rfl

-- A step that answers what it answers in the order of the requests.
theorem Tallied.step {w w' : Writer} {record calls : List SinkRecord} {h es : List Outflow}
    {as : List (Nat × Except NetError Unit)} (ht : Tallied w record h)
    (hrecords : recordsOf es = calls) (hanswers : answersOf es = as) (htickets : ticketsOf es = [])
    (has : w'.answers = w.answers ++ as) (hissued : w'.issued = w.issued)
    (horder : w'.answers.map Prod.fst ++ w'.inHand ++ w'.queue.map Request.ticket =
      w.answers.map Prod.fst ++ w.inHand ++ w.queue.map Request.ticket)
    (hover : w'.activity = .ended → w'.queue = []) :
    Tallied w' (record ++ calls) (h ++ es) := by
  refine ⟨?_, ?_, ?_, ?_, hover⟩
  · rw [recordsOf_append, ht.records, hrecords]
  · rw [answersOf_append, ht.answers, hanswers, has]
  · rw [ticketsOf_append, ht.tickets, htickets, hissued, List.append_nil]
  · rw [horder, ht.inOrder, hissued]

-- A call, seen as what it was for, and then answers.
theorem parts_of_call (e : Outflow) (r : SinkRecord) (as : List (Nat × Except NetError Unit))
    (he : e.record? = some r) :
    recordsOf (e :: answering as) = [r] ∧ answersOf (e :: answering as) = as ∧
      ticketsOf (e :: answering as) = [] := by
  have hnone : answersOf [e] = [] ∧ ticketsOf [e] = [] := by
    cases e <;> first | exact ⟨rfl, rfl⟩ | cases he
  have hrecord : recordsOf [e] = [r] := by
    unfold recordsOf
    rw [List.filterMap_cons_some he, List.filterMap_nil]
  have hcons : e :: answering as = [e] ++ answering as := rfl
  rw [hcons, recordsOf_append, answersOf_append, ticketsOf_append, hrecord, hnone.1, hnone.2,
    recordsOf_answering, answersOf_answering, ticketsOf_answering]
  exact ⟨rfl, rfl, rfl⟩

theorem Settling.inHand {l : Link} {t : Nat} {dirty : Bool} {r : SinkRecord} {e : Outflow}
    (h : Settling l t dirty r e) : l.writer.inHand = [t] ∧ e.record? = some r := by
  unfold Writer.inHand
  cases h with
  | write _ _ ha _ | flush _ ha =>
      rw [ha]
      exact ⟨rfl, rfl⟩

theorem Closing.inHand {l : Link} {t : Nat} {r : SinkRecord} (h : Closing l t r) :
    l.writer.inHand = [t] := by
  unfold Writer.inHand
  cases h with
  | unflushed _ ha | shut _ ha => rw [ha]

theorem tallied_write {l l' : Link} {h es : List Outflow}
    (ht : Tallied l.writer l.sink.record h) (hmove : WriteMove l es l') :
    Tallied l'.writer l'.sink.record (h ++ es) := by
  cases hmove with
  | waits _ =>
      rw [List.append_nil]
      exact ht
  | takes r rest ha hq =>
      rw [← List.append_nil l.sink.record]
      refine ht.step rfl rfl rfl (List.append_nil _).symm rfl ?_ ?_
      · rw [inHand_eq ha, hq]
        unfold Request.begun Writer.inHand
        cases r.op <;> simp only [List.append_nil, List.map_cons, List.append_assoc,
          List.cons_append, List.nil_append]
      · unfold Request.begun
        cases r.op <;> rintro ⟨⟩
  | releases as w ha hq hg =>
      rcases hg.tickets with ⟨horder, hissued, hover⟩
      rw [← List.append_nil l.sink.record]
      refine ht.step (recordsOf_answering as) (answersOf_answering as) (ticketsOf_answering as)
        hg.answers hissued ?_ hover
      rw [horder, inHand_eq ha]
      change _ = l.writer.answers.map Prod.fst ++ [] ++ _
      rw [List.append_nil]
  | writes t chunk ha _ =>
      refine ht.step rfl rfl rfl (List.append_nil _).symm rfl ?_ (by rintro ⟨⟩)
      rw [inHand_eq ha]
      rfl
  | settles t dirty r e hr _ _ =>
      rcases hr.inHand with ⟨hin, hrecord⟩
      rcases parts_of_call e r [(t, .ok ())] hrecord with ⟨hrecords, hanswers, htickets⟩
      refine ht.step hrecords hanswers htickets rfl rfl ?_ (by rintro ⟨⟩)
      rw [hin, List.map_append]
      change _ ++ [] ++ _ = _
      rw [List.append_nil]
      rfl
  | fails t dirty r e as w status hr _ hg =>
      rcases hr.inHand with ⟨hin, hrecord⟩
      rcases parts_of_call e r (_ :: as) hrecord with ⟨hrecords, hanswers, htickets⟩
      rcases hg.tickets with ⟨horder, hissued, hover⟩
      refine ht.step hrecords hanswers htickets ?_ hissued ?_ hover
      · exact hg.answers.trans (List.append_assoc _ _ _)
      · rw [horder, hin, List.map_append]
        rfl
  | parts t ha =>
      refine ht.step rfl rfl rfl (List.append_nil _).symm rfl ?_ (by rintro ⟨⟩)
      rw [inHand_eq ha]
      rfl
  | closes t r status hr =>
      have hin := hr.inHand
      rcases parts_of_call (.parted t r.call r.failure l.bridge.attached) r
        (_ :: droppedAnswers l.writer.queue) rfl with ⟨hrecords, hanswers, htickets⟩
      rcases (GivesUp.ends (w := l.writer.answer t (verdict l.bridge.attached r.failure))).tickets
        with ⟨horder, hissued, hover⟩
      refine ht.step hrecords hanswers htickets ?_ hissued ?_ hover
      · exact List.append_assoc _ _ _
      · rw [horder, hin]
        unfold Writer.answer
        rw [List.map_append]
        rfl
  | cleans failure ha =>
      rcases parts_of_call (.unasked ⟨.flush, failure⟩) ⟨.flush, failure⟩
        (droppedAnswers l.writer.queue) rfl with ⟨hrecords, hanswers, htickets⟩
      rcases (GivesUp.ends (w := l.writer)).tickets with ⟨horder, hissued, hover⟩
      refine ht.step hrecords hanswers htickets rfl hissued ?_ hover
      rw [horder, inHand_eq ha]
      change _ = l.writer.answers.map Prod.fst ++ [] ++ _
      rw [List.append_nil]

theorem tallied_submit {l l' : Link} {op : WriteOp} {h es : List Outflow}
    (ht : Tallied l.writer l.sink.record h) (hmove : SubmitMove l op es l') :
    Tallied l'.writer l'.sink.record (h ++ es) := by
  cases hmove with
  | late ha =>
      have hq := ht.emptied ha
      have hin : l.writer.inHand = [] := by
        unfold Writer.inHand
        rw [ha]
      have horder := ht.inOrder
      rw [hq, hin, List.map_nil, List.append_nil, List.append_nil] at horder
      refine ⟨?_, ?_, ?_, ?_, fun _ => hq⟩
      · rw [recordsOf_append, ht.records]
        exact List.append_nil _
      · rw [answersOf_append, ht.answers]
        rfl
      · rw [ticketsOf_append, ht.tickets]
        exact List.range_succ.symm
      · change (l.writer.answers ++ [(l.writer.issued, Writer.lateAnswer op)]).map Prod.fst ++
          l.writer.inHand ++ l.writer.queue.map Request.ticket = _
        rw [hq, hin, List.map_append, horder, List.map_nil, List.append_nil, List.append_nil]
        exact List.range_succ.symm
  | queued ha =>
      refine ⟨?_, ?_, ?_, ?_, fun hend => absurd hend ha⟩
      · rw [recordsOf_append, ht.records]
        exact List.append_nil _
      · rw [answersOf_append, ht.answers]
        exact List.append_nil _
      · rw [ticketsOf_append, ht.tickets]
        exact List.range_succ.symm
      · change l.writer.answers.map Prod.fst ++ l.writer.inHand ++
          (l.writer.queue ++ [(⟨l.writer.issued, op⟩ : Request)]).map Request.ticket = _
        rw [List.map_append, ← List.append_assoc, ht.inOrder]
        exact List.range_succ.symm

/-! ### What is called for a request -/

/-- The calls that were made for a request, and the answer that it got. -/
inductive Fate (p : Pipeline) (t : Nat) :
    WriteOp → Bool → List Outflow → Except NetError Unit → Prop
  /-- The writer had ended before the request was made. -/
  | late (op : WriteOp) : Fate p t op true [] (Writer.lateAnswer op)
  /-- The writer ended before the turn of the request. -/
  | dropped (op : WriteOp) : Fate p t op false [] (Writer.droppedAnswer op)
  /-- The write failed, or something was queued behind it. -/
  | wrote (chunk : Bytes) (failure : Option IoKind) (heard dry : Bool)
      (hf : failure ≠ none ∨ dry = false) :
      Fate p t (.write chunk) false [.wrote t (p.outbound chunk) failure heard dry]
        (verdict heard failure)
  /-- The write was the last in the queue, and a flush followed. -/
  | flushed (chunk : Bytes) (heard heard' : Bool) (failure : Option IoKind) :
      Fate p t (.write chunk) false
        [.wrote t (p.outbound chunk) none heard true, .flushed t failure heard']
        (verdict heard' failure)
  | unflushed (k : IoKind) (heard : Bool) :
      Fate p t .close false [.parted t .flush (some k) heard] (verdict heard (some k))
  | shut (heard heard' : Bool) (failure : Option IoKind) :
      Fate p t .close false
        [.parted t .flush none heard, .parted t .shutdown failure heard'] (verdict heard' failure)

/-- An answered request, with the calls that were made for it. -/
def Answered (p : Pipeline) (h : List Outflow) (a : Nat × Except NetError Unit) : Prop :=
  ∃ op late, .submitted a.1 op late ∈ h ∧ Fate p a.1 op late (callsOf a.1 h) a.2

/-- A request for which nothing was called yet. -/
def Untouched (h : List Outflow) (r : Request) : Prop :=
  .submitted r.ticket r.op false ∈ h ∧ callsOf r.ticket h = []

/-- What was called for the requests that the writer is not busy with. -/
structure Kept (p : Pipeline) (w : Writer) (h : List Outflow) : Prop where
  queued : ∀ r ∈ w.queue, Untouched h r
  answered : ∀ a ∈ w.answers, Answered p h a
  fresh : ∀ t, w.issued ≤ t → callsOf t h = []

/-- What was called for the request that the writer is busy with. -/
def Staged (p : Pipeline) (h : List Outflow) : Activity → Prop
  | .writing t chunk => ∃ c, chunk = p.outbound c ∧ Untouched h ⟨t, .write c⟩
  | .flushing t => ∃ c heard, .submitted t (.write c) false ∈ h ∧
      callsOf t h = [.wrote t (p.outbound c) none heard true]
  | .closing t => Untouched h ⟨t, .close⟩
  | .shutting t => ∃ heard, .submitted t .close false ∈ h ∧
      callsOf t h = [.parted t .flush none heard]
  | _ => True

section Keeping

variable {p : Pipeline} {w : Writer} {h : List Outflow}

-- Calls for other requests make no difference to a request.
theorem Untouched.more {r : Request} (hr : Untouched h r) (es : List Outflow)
    (hes : callsOf r.ticket es = []) : Untouched (h ++ es) r := by
  refine ⟨List.mem_append_left _ hr.1, ?_⟩
  rw [callsOf_append, hr.2, hes]
  rfl

theorem Answered.more {a : Nat × Except NetError Unit} (ha : Answered p h a) (es : List Outflow)
    (hes : callsOf a.1 es = []) : Answered p (h ++ es) a := by
  rcases ha with ⟨op, late, hmem, hfate⟩
  refine ⟨op, late, List.mem_append_left _ hmem, ?_⟩
  rw [callsOf_append, hes, List.append_nil]
  exact hfate

theorem Kept.more (hk : Kept p w h) (es : List Outflow)
    (hqueue : ∀ r ∈ w.queue, callsOf r.ticket es = [])
    (hanswers : ∀ a ∈ w.answers, callsOf a.1 es = [])
    (hfresh : ∀ t, w.issued ≤ t → callsOf t es = []) : Kept p w (h ++ es) := by
  refine ⟨fun r hr => (hk.queued r hr).more es (hqueue r hr),
    fun a ha => (hk.answered a ha).more es (hanswers a ha), fun t ht => ?_⟩
  rw [callsOf_append, hk.fresh t ht, hfresh t ht]
  rfl

-- The request that the writer is busy with is none of the others.
theorem Kept.call {record : List SinkRecord} (hk : Kept p w h) (ht : Tallied w record h)
    {t : Nat} (hin : w.inHand = [t]) (e : Outflow) (he : e.caller? = some t) :
    Kept p w (h ++ [e]) := by
  have horder := ht.inOrder
  rw [hin] at horder
  have hnodup : (w.answers.map Prod.fst ++ [t] ++ w.queue.map Request.ticket).Nodup := by
    rw [horder]
    exact List.nodup_range
  have hother : ∀ s, s ≠ t → callsOf s [e] = [] := by
    intro s hs
    refine callsOf_of_callers s [e] fun e' he' => ?_
    rw [List.mem_singleton.1 he', he, ne_eq, Option.some.injEq]
    exact fun heq => hs heq.symm
  refine hk.more [e] (fun r hr => hother _ ?_) (fun a ha => hother _ ?_) fun s hs => hother s ?_
  · rintro rfl
    rw [List.append_assoc] at hnodup
    have htail := (List.nodup_append.1 hnodup).2.1
    exact (List.nodup_cons.1 htail).1 (List.mem_map_of_mem hr)
  · rintro rfl
    rw [List.append_assoc] at hnodup
    exact (List.nodup_append.1 hnodup).2.2 _ (List.mem_map_of_mem ha) _ List.mem_cons_self rfl
  · rintro rfl
    have hmem : s ∈ List.range w.issued := by
      rw [← horder]
      exact List.mem_append_left _ (List.mem_append_right _ List.mem_cons_self)
    exact absurd (List.mem_range.1 hmem) (Nat.not_lt.2 hs)

theorem callsOf_answering (t : Nat) (as : List (Nat × Except NetError Unit)) :
    callsOf t (answering as) = [] := by
  refine callsOf_of_callers t _ fun e he => ?_
  rcases List.mem_map.1 he with ⟨a, _, rfl⟩
  rintro ⟨⟩

theorem Kept.answering (hk : Kept p w h) (as : List (Nat × Except NetError Unit)) :
    Kept p w (h ++ answering as) :=
  hk.more _ (fun r _ => callsOf_answering r.ticket as) (fun a _ => callsOf_answering a.1 as)
    fun t _ => callsOf_answering t as

theorem Kept.answer (hk : Kept p w h) (a : Nat × Except NetError Unit) (ha : Answered p h a) :
    Kept p { w with answers := w.answers ++ [a] } h := by
  refine ⟨hk.queued, fun b hb => ?_, hk.fresh⟩
  rcases List.mem_append.1 hb with hold | hnew
  · exact hk.answered b hold
  · rw [List.mem_singleton.1 hnew]
    exact ha

-- What is still queued when the writer ends is answered without a call.
theorem Kept.finish (hk : Kept p w h) : Kept p w.finish h := by
  refine ⟨fun r hr => (List.not_mem_nil hr).elim, fun a ha => ?_, hk.fresh⟩
  rcases List.mem_append.1 ha with hold | hdropped
  · exact hk.answered a hold
  · rcases List.mem_map.1 hdropped with ⟨r, hr, rfl⟩
    rcases hk.queued r hr with ⟨hmem, hcalls⟩
    refine ⟨r.op, false, hmem, ?_⟩
    rw [hcalls]
    exact .dropped r.op

theorem Kept.givesUp {w' : Writer} {as : List (Nat × Except NetError Unit)} (hk : Kept p w h)
    (hg : GivesUp w as w') : Kept p w' h ∧ ∀ h', Staged p h' w'.activity := by
  cases hg with
  | cleans _ => exact ⟨⟨hk.queued, hk.answered, hk.fresh⟩, fun _ => trivial⟩
  | ends => exact ⟨hk.finish, fun _ => trivial⟩

end Keeping

-- The answer to a write fits the calls that were made for it.
theorem Settling.answered {l : Link} {t : Nat} {dirty : Bool} {r : SinkRecord} {e : Outflow}
    {p : Pipeline} {h : List Outflow} (hr : Settling l t dirty r e)
    (hs : Staged p h l.writer.activity) :
    Answered p (h ++ [e]) (t, verdict l.bridge.attached r.failure) := by
  cases hr with
  | write chunk failure ha hf =>
      rw [ha] at hs
      rcases hs with ⟨c, rfl, hmem, hcalls⟩
      refine ⟨.write c, false, List.mem_append_left _ hmem, ?_⟩
      dsimp only at hcalls ⊢
      rw [callsOf_append, hcalls, callsOf_caller t _ rfl]
      refine .wrote c failure _ _ (hf.imp_right fun hne => ?_)
      exact Bool.eq_false_iff.2 fun hempty => hne (List.isEmpty_iff.1 hempty)
  | flush failure ha =>
      rw [ha] at hs
      rcases hs with ⟨c, heard, hmem, hcalls⟩
      refine ⟨.write c, false, List.mem_append_left _ hmem, ?_⟩
      dsimp only
      rw [callsOf_append, hcalls, callsOf_caller t _ rfl]
      exact .flushed c heard _ failure

theorem Closing.answered {l : Link} {t : Nat} {r : SinkRecord} {p : Pipeline} {h : List Outflow}
    (hr : Closing l t r) (hs : Staged p h l.writer.activity) :
    Answered p (h ++ [.parted t r.call r.failure l.bridge.attached])
      (t, verdict l.bridge.attached r.failure) := by
  cases hr with
  | unflushed k ha =>
      rw [ha] at hs
      rcases hs with ⟨hmem, hcalls⟩
      refine ⟨.close, false, List.mem_append_left _ hmem, ?_⟩
      dsimp only at hcalls ⊢
      rw [callsOf_append, hcalls, callsOf_caller t _ rfl]
      exact .unflushed k _
  | shut failure ha =>
      rw [ha] at hs
      rcases hs with ⟨heard, hmem, hcalls⟩
      refine ⟨.close, false, List.mem_append_left _ hmem, ?_⟩
      dsimp only
      rw [callsOf_append, hcalls, callsOf_caller t _ rfl]
      exact .shut heard _ failure

theorem Settling.caller {l : Link} {t : Nat} {dirty : Bool} {r : SinkRecord} {e : Outflow}
    (h : Settling l t dirty r e) : e.caller? = some t := by
  cases h <;> rfl

theorem answered_write {l l' : Link} {h es : List Outflow}
    (ht : Tallied l.writer l.sink.record h) (hk : Kept l.pipeline l.writer h)
    (hs : Staged l.pipeline h l.writer.activity) (hmove : WriteMove l es l') :
    Kept l.pipeline l'.writer (h ++ es) ∧ Staged l.pipeline (h ++ es) l'.writer.activity := by
  have hcons : ∀ (e : Outflow) as, h ++ e :: answering as = h ++ [e] ++ answering as :=
    fun e as => (List.append_assoc h [e] _).symm
  cases hmove with
  | waits _ =>
      rw [List.append_nil]
      exact ⟨hk, hs⟩
  | takes r rest ha hq =>
      have hr := hk.queued r (hq ▸ List.mem_cons_self)
      rw [List.append_nil]
      refine ⟨⟨fun r' hr' => hk.queued r' (hq ▸ List.mem_cons_of_mem r hr'), hk.answered,
        hk.fresh⟩, ?_⟩
      rcases r with ⟨t, op⟩
      cases op with
      | write chunk => exact ⟨chunk, rfl, hr⟩
      | close => exact hr
  | releases as w ha hq hg =>
      rcases hk.givesUp hg with ⟨hkept, hstaged⟩
      exact ⟨hkept.answering as, hstaged _⟩
  | writes t chunk ha _ =>
      rw [ha] at hs
      rcases hs with ⟨c, rfl, hmem, hcalls⟩
      have hkept := hk.call ht (inHand_eq ha)
        (.wrote t (l.pipeline.outbound c) none l.bridge.attached true) rfl
      refine ⟨⟨hkept.queued, hkept.answered, hkept.fresh⟩, c, l.bridge.attached,
        List.mem_append_left _ hmem, ?_⟩
      dsimp only at hcalls
      rw [callsOf_append, hcalls, callsOf_caller t _ rfl]
      rfl
  | settles t dirty r e hr hf _ =>
      have hkept := hk.call ht hr.inHand.1 e hr.caller
      have hanswer := hr.answered hs
      rw [hf] at hanswer
      have hall := (hkept.answer _ hanswer).answering [(t, .ok ())]
      rw [hcons]
      exact ⟨⟨hall.queued, hall.answered, hall.fresh⟩, trivial⟩
  | fails t dirty r e as w status hr _ hg =>
      have hkept := (hk.call ht hr.inHand.1 e hr.caller).answer _ (hr.answered hs)
      have hdirty : Kept l.pipeline { l.writer with
          dirty, answers := l.writer.answers ++ [(t, verdict l.bridge.attached r.failure)] }
          (h ++ [e]) := ⟨hkept.queued, hkept.answered, hkept.fresh⟩
      rcases hdirty.givesUp hg with ⟨hgone, hstaged⟩
      rw [hcons]
      exact ⟨hgone.answering _, hstaged _⟩
  | parts t ha =>
      rw [ha] at hs
      rcases hs with ⟨hmem, hcalls⟩
      have hkept := hk.call ht (inHand_eq ha) (.parted t .flush none l.bridge.attached) rfl
      refine ⟨⟨hkept.queued, hkept.answered, hkept.fresh⟩, l.bridge.attached,
        List.mem_append_left _ hmem, ?_⟩
      dsimp only at hcalls
      rw [callsOf_append, hcalls, callsOf_caller t _ rfl]
      rfl
  | closes t r status hr =>
      have hkept := (hk.call ht hr.inHand (.parted t r.call r.failure l.bridge.attached) rfl).answer
        _ (hr.answered hs)
      rw [hcons]
      exact ⟨hkept.finish.answering _, trivial⟩
  | cleans failure ha =>
      have hquiet : ∀ s, callsOf s [Outflow.unasked ⟨.flush, failure⟩] = [] := fun s =>
        callsOf_of_callers s _ fun e he => by
          rw [List.mem_singleton.1 he]
          rintro ⟨⟩
      have hkept := hk.more [.unasked ⟨.flush, failure⟩] (fun r _ => hquiet r.ticket)
        (fun a _ => hquiet a.1) fun s _ => hquiet s
      rw [hcons]
      exact ⟨hkept.finish.answering _, trivial⟩

theorem Staged.more {p : Pipeline} {h : List Outflow} {a : Activity} (hs : Staged p h a)
    (es : List Outflow) (hes : ∀ t, callsOf t es = []) : Staged p (h ++ es) a := by
  cases a with
  | writing t chunk =>
      rcases hs with ⟨c, hc, hu⟩
      exact ⟨c, hc, hu.more es (hes t)⟩
  | flushing t =>
      rcases hs with ⟨c, heard, hmem, hcalls⟩
      refine ⟨c, heard, List.mem_append_left _ hmem, ?_⟩
      rw [callsOf_append, hcalls, hes]
      rfl
  | closing t => exact Untouched.more hs es (hes t)
  | shutting t =>
      rcases hs with ⟨heard, hmem, hcalls⟩
      refine ⟨heard, List.mem_append_left _ hmem, ?_⟩
      rw [callsOf_append, hcalls, hes]
      rfl
  | idle | cleaning | ended => trivial

theorem answered_submit {l l' : Link} {op : WriteOp} {h es : List Outflow}
    (hk : Kept l.pipeline l.writer h) (hs : Staged l.pipeline h l.writer.activity)
    (hmove : SubmitMove l op es l') :
    Kept l.pipeline l'.writer (h ++ es) ∧ Staged l.pipeline (h ++ es) l'.writer.activity := by
  have hquiet : ∀ t, callsOf t es = [] := by
    intro t
    cases hmove <;> rfl
  have hkept := hk.more es (fun r _ => hquiet r.ticket) (fun a _ => hquiet a.1) fun t _ => hquiet t
  have hstaged := hs.more es hquiet
  have hnew := hkept.fresh l.writer.issued (Nat.le_refl _)
  cases hmove with
  | late ha =>
      refine ⟨⟨hkept.queued, fun a hmem => ?_, fun t ht => hkept.fresh t (Nat.le_of_succ_le ht)⟩,
        hstaged⟩
      rcases List.mem_append.1 hmem with hold | hlate
      · exact hkept.answered a hold
      · rw [List.mem_singleton.1 hlate]
        refine ⟨op, true, List.mem_append_right _ List.mem_cons_self, ?_⟩
        rw [hnew]
        exact .late op
  | queued ha =>
      refine ⟨⟨fun r hmem => ?_, hkept.answered, fun t ht => hkept.fresh t (Nat.le_of_succ_le ht)⟩,
        hstaged⟩
      rcases List.mem_append.1 hmem with hold | hlast
      · exact hkept.queued r hold
      · rw [List.mem_singleton.1 hlast]
        exact ⟨List.mem_append_right _ List.mem_cons_self, hnew⟩

theorem tallied_turn (l : Link) (h : List Outflow) (t : Turn)
    (ht : Tallied l.writer l.sink.record h) :
    Tallied (l.turn t).writer (l.turn t).sink.record (h ++ l.outflow t) := by
  refine outflow_turn (P := fun l' es => Tallied l'.writer l'.sink.record (h ++ es)) l t
    (fun es l' => tallied_write ht) (fun op es l' => tallied_submit ht) ?_
  intro l' released hwriter hrecord
  rw [hwriter, hrecord, List.append_nil]
  exact ⟨ht.records, ht.answers, ht.tickets, ht.inOrder, ht.emptied⟩

/-! ### How long an answer takes -/

/-- The steps that a writer needs for what it is doing, at most. -/
def Activity.left : Activity → Nat
  | .writing _ _ => 2
  | .flushing _ => 1
  | .closing _ => 2
  | .shutting _ => 1
  | .cleaning => 1
  | .idle => 0
  | .ended => 0

/-- A request is answered, or will be after this many steps of the writer. -/
inductive Within (w : Writer) (t : Nat) (n : Nat) : Prop
  | given (r : Except NetError Unit) (hr : (t, r) ∈ w.answers)
  | inHand (ht : w.inHand = [t]) (hn : w.activity.left ≤ n)
  | queued (ahead behind : List Request) (r : Request) (hq : w.queue = ahead ++ r :: behind)
      (ht : r.ticket = t) (hn : w.activity.left + 3 * (ahead.length + 1) ≤ n)

theorem within_of_lt {w : Writer} {record : List SinkRecord} {h : List Outflow}
    (ht : Tallied w record h) (t : Nat) (hlt : t < w.issued) :
    Within w t (3 * w.queue.length + 2) := by
  have hmem : t ∈ w.answers.map Prod.fst ++ w.inHand ++ w.queue.map Request.ticket := by
    rw [ht.inOrder]
    exact List.mem_range.2 hlt
  have hleft : w.activity.left ≤ 2 := by
    unfold Activity.left
    split <;> omega
  rcases List.mem_append.1 hmem with hfirst | hqueue
  · rcases List.mem_append.1 hfirst with hgiven | hhand
    · rcases List.mem_map.1 hgiven with ⟨a, ha, rfl⟩
      exact .given a.2 ha
    · refine .inHand ?_ (by omega)
      unfold Writer.inHand at hhand ⊢
      cases ha : w.activity with
      | idle | cleaning | ended =>
          rw [ha] at hhand
          cases hhand
      | writing s _ | flushing s | closing s | shutting s =>
          rw [ha] at hhand
          rw [List.mem_singleton.1 hhand]
  · rcases List.mem_map.1 hqueue with ⟨r, hr, rfl⟩
    rcases List.append_of_mem hr with ⟨ahead, behind, hq⟩
    have hlength : w.queue.length = ahead.length + (behind.length + 1) := by
      rw [hq, List.length_append, List.length_cons]
    exact .queued ahead behind r hq rfl (by omega)

theorem Within.mono {w : Writer} {t n m : Nat} (hw : Within w t n) (hle : n ≤ m) :
    Within w t m := by
  cases hw with
  | given r hr => exact .given r hr
  | inHand ht hn => exact .inHand ht (Nat.le_trans hn hle)
  | queued ahead behind r hq ht hn => exact .queued ahead behind r hq ht (Nat.le_trans hn hle)

-- Whoever is in the queue when the writer ends is answered.
theorem within_finish {w : Writer} {t : Nat} (n : Nat) (ahead behind : List Request) (r : Request)
    (hq : w.queue = ahead ++ r :: behind) (ht : r.ticket = t) : Within w.finish t n := by
  refine .given (Writer.droppedAnswer r.op) (List.mem_append_right _ ?_)
  rw [← ht, hq]
  exact List.mem_map.2 ⟨r, List.mem_append_right _ List.mem_cons_self, rfl⟩

theorem within_givesUp {w w' : Writer} {as : List (Nat × Except NetError Unit)} {t n : Nat}
    (hg : GivesUp w as w')
    (hw : (∃ r, (t, r) ∈ w.answers) ∨ ∃ ahead behind r, w.queue = ahead ++ r :: behind ∧
      r.ticket = t ∧ (w.dirty = true → 1 + 3 * (ahead.length + 1) ≤ n)) : Within w' t n := by
  rcases hw with ⟨r, hr⟩ | ⟨ahead, behind, r, hq, ht, hn⟩
  · refine .given r ?_
    rw [hg.answers]
    exact List.mem_append_left _ hr
  · cases hg with
    | cleans hd => exact .queued ahead behind r hq ht (hn hd)
    | ends => exact within_finish n ahead behind r hq ht

-- A step of the writer brings the request that it is busy with closer to its answer.
theorem within_write_inHand {l l' : Link} {es : List Outflow} {t n : Nat}
    (hfree : l.sink.blocked = false) (hin : l.writer.inHand = [t])
    (hn : l.writer.activity.left ≤ n + 1) (hmove : WriteMove l es l') : Within l'.writer t n := by
  have hidle : l.writer.activity = .idle → False := fun ha => by
    rw [inHand_eq ha] at hin
    cases hin
  cases hmove with
  | waits hw =>
      cases hw with
      | empty ha _ => exact (hidle ha).elim
      | ended ha =>
          rw [inHand_eq ha] at hin
          cases hin
      | blocked _ _ _ hb => exact absurd (hfree.symm.trans hb) Bool.false_ne_true
  | takes r rest ha _ => exact (hidle ha).elim
  | releases as w ha _ _ => exact (hidle ha).elim
  | writes s chunk ha _ =>
      rw [inHand_eq ha] at hin
      rw [ha] at hn
      exact .inHand hin (Nat.le_of_succ_le_succ hn)
  | settles s dirty r e hr _ _ =>
      cases hr.inHand.1.symm.trans hin
      exact .given (.ok ()) (List.mem_append_right _ List.mem_cons_self)
  | fails s dirty r e as w status hr _ hg =>
      cases hr.inHand.1.symm.trans hin
      exact within_givesUp hg (.inl ⟨_, List.mem_append_right _ List.mem_cons_self⟩)
  | parts s ha =>
      rw [inHand_eq ha] at hin
      rw [ha] at hn
      exact .inHand hin (Nat.le_of_succ_le_succ hn)
  | closes s r status hr =>
      cases hr.inHand.symm.trans hin
      exact .given _ (List.mem_append_left _ (List.mem_append_right _ List.mem_cons_self))
  | cleans failure ha =>
      rw [inHand_eq ha] at hin
      cases hin

-- It brings those in the queue closer as well.
theorem within_write_queued {l l' : Link} {es : List Outflow} {t n : Nat}
    (hfree : l.sink.blocked = false) (hover : l.writer.activity = .ended → l.writer.queue = [])
    (ahead behind : List Request) (r : Request) (hq : l.writer.queue = ahead ++ r :: behind)
    (ht : r.ticket = t) (hn : l.writer.activity.left + 3 * (ahead.length + 1) ≤ n + 1)
    (hmove : WriteMove l es l') : Within l'.writer t n := by
  have hnonempty : l.writer.queue ≠ [] := by
    rw [hq]
    exact List.append_ne_nil_of_right_ne_nil _ (List.cons_ne_nil _ _)
  cases hmove with
  | waits hw =>
      cases hw with
      | empty _ hempty => exact absurd hempty hnonempty
      | ended ha => exact absurd (hover ha) hnonempty
      | blocked _ _ _ hb => exact absurd (hfree.symm.trans hb) Bool.false_ne_true
  | takes r' rest ha hq' =>
      have hbegun : (r'.begun l.pipeline).left = 2 := by
        unfold Request.begun
        cases r'.op <;> rfl
      rw [hq'] at hq
      cases ahead with
      | nil =>
          cases hq
          refine .inHand ?_ (by rw [hbegun]; simp only [List.length_nil] at hn; omega)
          rw [← ht]
          unfold Request.begun Writer.inHand
          cases r.op <;> rfl
      | cons r'' ahead =>
          cases hq
          refine .queued ahead behind r rfl ht ?_
          rw [List.length_cons] at hn
          change (r'.begun l.pipeline).left + _ ≤ n
          omega
  | releases as w _ hempty _ => exact absurd hempty hnonempty
  | writes s chunk _ hempty => exact absurd hempty hnonempty
  | settles s dirty r' e hr _ _ =>
      refine .queued ahead behind r hq ht ?_
      have hleft : 1 ≤ l.writer.activity.left := by
        cases hr with
        | write _ _ ha _ =>
            rw [ha]
            exact Nat.le_succ 1
        | flush _ ha =>
            rw [ha]
            exact Nat.le_refl 1
      change 0 + _ ≤ n
      omega
  | fails s dirty r' e as w status hr _ hg =>
      refine within_givesUp hg (.inr ⟨ahead, behind, r, hq, ht, fun hd => ?_⟩)
      cases hr with
      | write chunk _ ha _ =>
          rw [ha] at hn
          change 2 + _ ≤ n + 1 at hn
          omega
      | flush _ _ => cases hd
  | parts s ha =>
      rw [ha] at hn
      refine .queued ahead behind r hq ht ?_
      change 2 + _ ≤ n + 1 at hn
      change 1 + _ ≤ n
      omega
  | closes s r' status hr => exact within_finish n ahead behind r hq ht
  | cleans failure _ => exact within_finish n ahead behind r hq ht

theorem within_write {l l' : Link} {h es : List Outflow} {t n : Nat}
    (ht : Tallied l.writer l.sink.record h) (hfree : l.sink.blocked = false)
    (hw : Within l.writer t (n + 1)) (hmove : WriteMove l es l') : Within l'.writer t n := by
  cases hw with
  | given r hr =>
      refine .given r ?_
      rw [← (tallied_write ht hmove).answers, answersOf_append, ht.answers]
      exact List.mem_append_left _ hr
  | inHand hin hn => exact within_write_inHand hfree hin hn hmove
  | queued ahead behind r hq hr hn =>
      exact within_write_queued hfree ht.emptied ahead behind r hq hr hn hmove

-- Whatever else happens takes no request further from its answer.
theorem within_turn {l : Link} {t n : Nat} (u : Turn) (hu : u ≠ .write)
    (hw : Within l.writer t n) : Within (l.turn u).writer t n := by
  by_cases hs : ∃ op, u = .submit op
  · rcases hs with ⟨op, rfl⟩
    have hmove := submit_move l op
    generalize l.turn (.submit op) = l' at hmove ⊢
    generalize l.outflow (.submit op) = es at hmove
    cases hmove with
    | late _ =>
        cases hw with
        | given r hr => exact .given r (List.mem_append_left _ hr)
        | inHand hin hn => exact .inHand hin hn
        | queued ahead behind r hq ht hn => exact .queued ahead behind r hq ht hn
    | queued _ =>
        cases hw with
        | given r hr => exact .given r hr
        | inHand hin hn => exact .inHand hin hn
        | queued ahead behind r hq ht hn =>
            refine .queued ahead (behind ++ [⟨l.writer.issued, op⟩]) r ?_ ht hn
            change l.writer.queue ++ _ = _
            rw [hq, List.append_assoc, List.cons_append]
  · rcases (writing_side l u hu fun op h => hs ⟨op, h⟩).2 with ⟨released, hwriter⟩
    rw [hwriter]
    cases hw with
    | given r hr => exact .given r hr
    | inHand hin hn => exact .inHand hin hn
    | queued ahead behind r hq ht hn => exact .queued ahead behind r hq ht hn

theorem answered_of_within {w : Writer} {t : Nat} (hw : Within w t 0) :
    ∃ r, (t, r) ∈ w.answers := by
  cases hw with
  | given r hr => exact ⟨r, hr⟩
  | queued _ _ _ _ _ hn => omega
  | inHand hin hn =>
      unfold Writer.inHand at hin
      cases ha : w.activity with
      | idle | cleaning | ended =>
          rw [ha] at hin
          cases hin
      | writing _ _ | flushing _ | closing _ | shutting _ =>
          rw [ha] at hn
          cases hn

theorem answered_within (us : List Turn) :
    ∀ {l : Link} {h : List Outflow} {t n : Nat}, Tallied l.writer l.sink.record h →
      l.sink.blocked = false → .block true ∉ us → n ≤ us.count .write →
      Within l.writer t n → ∃ r, (t, r) ∈ (l.after us).writer.answers := by
  induction us with
  | nil =>
      intro l h t n _ _ _ hn hw
      exact answered_of_within (hw.mono hn)
  | cons u rest ih =>
      intro l h t n ht hfree hblock hn hw
      have htail : .block true ∉ rest := fun hmem => hblock (List.mem_cons_of_mem u hmem)
      have htallied := tallied_turn l h u ht
      by_cases hu : u = .write
      · subst hu
        have hfree' : (l.turn .write).sink.blocked = false :=
          (blocked_turn l .write (by rintro _ ⟨⟩)).trans hfree
        rw [List.count_cons_self] at hn
        refine ih (n := n - 1) htallied hfree' htail (by omega) ?_
        exact within_write ht hfree (hw.mono (by omega)) (write_move l)
      · have hfree' : (l.turn u).sink.blocked = false := by
          by_cases hb : ∃ blocked, u = .block blocked
          · rcases hb with ⟨blocked, rfl⟩
            cases blocked with
            | false => rfl
            | true => exact absurd List.mem_cons_self hblock
          · exact (blocked_turn l u fun blocked h => hb ⟨blocked, h⟩).trans hfree
        rw [List.count_cons_of_ne hu] at hn
        exact ih htallied hfree' htail hn (within_turn u hu hw)

end Connection

end DemandNet
