import DemandNet.Proofs.Connection.Answers

/-!
# The Order of Writes

Which chunks reach the sink, and when the last one does.

As long as a writer goes on, the chunks that it handed to the sink, the one that it is
about to hand over and those in its queue are all the chunks that it was ever asked to
write, in order. Once it is over, nothing more is written, so what was handed over stays
a beginning of what was asked for.

A call that fails and a call for a close are the last of their kind: after them the sink
is called for the same request at most, and never to write. So of all the writes that
were attempted only the last one can have failed.

## Main definitions

* `writesOf`, `attemptsOf`, `writtenOf`, `chunksOf`: The writes in a history.
* `Outflow.isLast`: A call after which nothing is written.
* `Writer.pending`: The writes that a writer has not yet made.
* `Ordered`: How the writes that were made relate to those that were asked for.

## Theorems

* `ordered_write`, `ordered_submit`: The order of writes is kept.
* `written_beginning`: Only the last attempt can have failed.
* `behind_last`: What is left of a history after the last write.
-/

namespace DemandNet

namespace Connection

/-! ### The writes in a history -/

/-- The writes that were asked for, with their numbers, as the sink is to get them. -/
def writesOf (p : Pipeline) (h : List Outflow) : List (Nat × Bytes) :=
  h.filterMap fun
    | .submitted t (.write chunk) _ => some (t, p.outbound chunk)
    | _ => none

/-- The chunks that were to be written. -/
def chunksOf (h : List Outflow) : List Bytes :=
  h.filterMap fun
    | .submitted _ (.write chunk) _ => some chunk
    | _ => none

/-- The writes that were attempted. -/
def attemptsOf (h : List Outflow) : List (Nat × Bytes) :=
  h.filterMap fun
    | .wrote t chunk _ _ _ => some (t, chunk)
    | _ => none

/-- The writes that succeeded. -/
def writtenOf (h : List Outflow) : List (Nat × Bytes) :=
  h.filterMap fun
    | .wrote t chunk none _ _ => some (t, chunk)
    | _ => none

/-- The sink was called to write. -/
def Outflow.isWrite : Outflow → Bool
  | .wrote _ _ _ _ _ => true
  | _ => false

/-- A call on behalf of a write failed, or the sink was called on behalf of a close. -/
def Outflow.isLast : Outflow → Bool
  | .wrote _ _ failure _ _ => failure.isSome
  | .flushed _ failure _ => failure.isSome
  | .parted _ _ _ _ => true
  | _ => false

/-- What may follow the last write. -/
def Follows (e e' : Outflow) : Prop :=
  e.isLast = true → e'.isWrite = false ∧ (e'.caller? = none ∨ e'.caller? = e.caller?)

theorem writesOf_append (p : Pipeline) (h es : List Outflow) :
    writesOf p (h ++ es) = writesOf p h ++ writesOf p es := List.filterMap_append

theorem attemptsOf_append (h es : List Outflow) :
    attemptsOf (h ++ es) = attemptsOf h ++ attemptsOf es := List.filterMap_append

theorem writesOf_snd (p : Pipeline) (h : List Outflow) :
    (writesOf p h).map Prod.snd = (chunksOf h).map p.outbound := by
  unfold writesOf chunksOf
  rw [List.map_filterMap, List.map_filterMap]
  refine congrArg (fun f => h.filterMap f) (funext fun e => ?_)
  cases e with
  | submitted t op late => cases op <;> rfl
  | wrote _ _ _ _ _ | flushed _ _ _ | parted _ _ _ _ | unasked _ | answered _ _ => rfl

theorem parts_of_answering (p : Pipeline) (as : List (Nat × Except NetError Unit)) :
    writesOf p (answering as) = [] ∧ attemptsOf (answering as) = [] := by
  unfold writesOf attemptsOf answering
  rw [List.filterMap_map, List.filterMap_map]
  exact ⟨List.filterMap_eq_nil_iff.2 fun _ _ => rfl, List.filterMap_eq_nil_iff.2 fun _ _ => rfl⟩

theorem follows_answering (e : Outflow) (as : List (Nat × Except NetError Unit)) :
    ∀ e' ∈ answering as, e'.isLast = false ∧ Follows e e' := by
  intro e' he'
  rcases List.mem_map.1 he' with ⟨a, _, rfl⟩
  exact ⟨rfl, fun _ => ⟨rfl, .inl rfl⟩⟩

theorem pairwise_call (e : Outflow) (as : List (Nat × Except NetError Unit)) :
    (e :: answering as).Pairwise Follows := by
  refine List.pairwise_cons.2 ⟨fun e' he' => (follows_answering e as e' he').2, ?_⟩
  refine List.pairwise_of_forall_mem_list fun a ha b hb => ?_
  exact (follows_answering a as b hb).2

/-! ### What the writer has still to write -/

/-- A writer that will not write any more. -/
def Writer.isOver (w : Writer) : Bool :=
  match w.activity with
  | .closing _ => true
  | .shutting _ => true
  | .cleaning => true
  | .ended => true
  | _ => false

/-- The writes in a queue. -/
def queuedWrites (p : Pipeline) (q : List Request) : List (Nat × Bytes) :=
  q.filterMap fun r =>
    match r.op with
    | .write chunk => some (r.ticket, p.outbound chunk)
    | .close => none

/-- The writes that a writer has not yet made. -/
def Writer.pending (p : Pipeline) (w : Writer) : List (Nat × Bytes) :=
  match w.activity with
  | .writing t chunk => (t, chunk) :: queuedWrites p w.queue
  | _ => queuedWrites p w.queue

/-- The last write was made before; a call that is not the end of the writer itself was
    made for a close that is not yet done. -/
def Past (w : Writer) (e : Outflow) : Prop :=
  w.activity = .cleaning ∨ w.activity = .ended ∨
    ∃ t, w.activity = .shutting t ∧ e.caller? = some t

/-- A call to shut down. -/
def isShutdown (r : SinkRecord) : Bool := r.call.kind == .shutdown

/-- How the writes that were made relate to those that were asked for. -/
structure Ordered (p : Pipeline) (w : Writer) (h : List Outflow) : Prop where
  whole : w.isOver = false → writesOf p h = attemptsOf h ++ w.pending p
  beginning : attemptsOf h <+: writesOf p h
  past : ∀ e ∈ h, e.isLast = true → Past w e
  last : h.Pairwise Follows
  shutdowns : (recordsOf h).countP isShutdown ≤ if w.activity = .ended then 1 else 0

theorem Ordered.step {p : Pipeline} {w w' : Writer} {h : List Outflow} (ho : Ordered p w h)
    (es : List Outflow) (hwrites : writesOf p es = [])
    (hwhole : w'.isOver = false →
      w.isOver = false ∧ w.pending p = attemptsOf es ++ w'.pending p)
    (hbeginning : attemptsOf es ≠ [] → w.isOver = false ∧ attemptsOf es <+: w.pending p)
    (hpast : ∀ e, Past w e → Past w' e) (hnew : ∀ e ∈ es, e.isLast = true → Past w' e)
    (hfollows : ∀ e, Past w e → ∀ e' ∈ es, Follows e e') (hpairwise : es.Pairwise Follows)
    (hshutdowns : (recordsOf es).countP isShutdown + (if w.activity = .ended then 1 else 0) ≤
      if w'.activity = .ended then 1 else 0) : Ordered p w' (h ++ es) := by
  refine ⟨fun hgoing => ?_, ?_, fun e he hlast => ?_, ?_, ?_⟩
  · rcases hwhole hgoing with ⟨hbefore, hpending⟩
    rw [writesOf_append, attemptsOf_append, hwrites, List.append_nil, ho.whole hbefore, hpending,
      List.append_assoc]
  · rw [writesOf_append, attemptsOf_append, hwrites, List.append_nil]
    by_cases hnone : attemptsOf es = []
    · rw [hnone, List.append_nil]
      exact ho.beginning
    · rcases hbeginning hnone with ⟨hbefore, hprefix⟩
      rw [ho.whole hbefore]
      exact (List.prefix_append_right_inj _).2 hprefix
  · rcases List.mem_append.1 he with hold | hes
    · exact hpast e (ho.past e hold hlast)
    · exact hnew e hes hlast
  · refine List.pairwise_append.2 ⟨ho.last, hpairwise, fun e he e' he' => ?_⟩
    intro hlast
    exact hfollows e (ho.past e he hlast) e' he' hlast
  · have hbefore := ho.shutdowns
    rw [recordsOf_append, List.countP_append]
    omega

theorem not_past {w : Writer} {a : Activity} (ha : w.activity = a) (hclean : a ≠ .cleaning)
    (hend : a ≠ .ended) (hshut : ∀ t, a ≠ .shutting t) (e : Outflow) : ¬ Past w e := by
  rintro (hc | he | ⟨t, ht, _⟩)
  · exact hclean (ha.symm.trans hc)
  · exact hend (ha.symm.trans he)
  · exact hshut t (ha.symm.trans ht)

-- A writer that is not over has not made its last call.
theorem going {w : Writer} (hw : w.isOver = false) :
    (∀ e, ¬ Past w e) ∧ w.activity ≠ .ended := by
  unfold Writer.isOver at hw
  cases ha : w.activity with
  | idle | writing _ _ | flushing _ =>
      refine ⟨not_past ha (by rintro ⟨⟩) (by rintro ⟨⟩) (by rintro _ ⟨⟩), by rintro ⟨⟩⟩
  | closing _ | shutting _ | cleaning | ended =>
      rw [ha] at hw
      cases hw

theorem Ordered.goOn {p : Pipeline} {w w' : Writer} {h : List Outflow} (ho : Ordered p w h)
    (hw : w.isOver = false) (es : List Outflow) (hwrites : writesOf p es = [])
    (hwhole : w'.isOver = false → w.pending p = attemptsOf es ++ w'.pending p)
    (hbeginning : attemptsOf es <+: w.pending p)
    (hnew : ∀ e ∈ es, e.isLast = true → Past w' e) (hpairwise : es.Pairwise Follows)
    (hshutdowns : (recordsOf es).countP isShutdown = 0) : Ordered p w' (h ++ es) := by
  rcases going hw with ⟨hnot, hrunning⟩
  refine ho.step es hwrites (fun hgoing => ⟨hw, hwhole hgoing⟩) (fun _ => ⟨hw, hbeginning⟩)
    (fun e he => absurd he (hnot e)) hnew (fun e he => absurd he (hnot e)) hpairwise ?_
  rw [hshutdowns, if_neg hrunning]
  exact Nat.zero_le _

theorem Ordered.wind {p : Pipeline} {w w' : Writer} {h : List Outflow} (ho : Ordered p w h)
    (hw' : w'.isOver = true) (es : List Outflow) (hwrites : writesOf p es = [])
    (hattempts : attemptsOf es = [])
    (hpast : ∀ e, Past w e → Past w' e) (hnew : ∀ e ∈ es, e.isLast = true → Past w' e)
    (hfollows : ∀ e, Past w e → ∀ e' ∈ es, Follows e e') (hpairwise : es.Pairwise Follows)
    (hshutdowns : (recordsOf es).countP isShutdown + (if w.activity = .ended then 1 else 0) ≤
      if w'.activity = .ended then 1 else 0) : Ordered p w' (h ++ es) := by
  refine ho.step es hwrites (fun hgoing => ?_) (fun hne => absurd hattempts hne) hpast hnew hfollows
    hpairwise hshutdowns
  rw [hw'] at hgoing
  cases hgoing

theorem GivesUp.past {w w' : Writer} {as : List (Nat × Except NetError Unit)}
    (hg : GivesUp w as w') : (∀ e, Past w' e) ∧ w'.isOver = true := by
  cases hg with
  | cleans _ => exact ⟨fun _ => .inl rfl, rfl⟩
  | ends => exact ⟨fun _ => .inr (.inl rfl), rfl⟩

-- What is seen of a call and the answers behind it.
theorem parts_of_write (p : Pipeline) (e : Outflow) (r : SinkRecord)
    (as : List (Nat × Except NetError Unit)) (he : e.record? = some r) :
    writesOf p (e :: answering as) = [] ∧ attemptsOf (e :: answering as) = attemptsOf [e] ∧
      (recordsOf (e :: answering as)).countP isShutdown = if isShutdown r then 1 else 0 := by
  have hcons : e :: answering as = [e] ++ answering as := rfl
  have hnone : writesOf p [e] = [] := by
    cases e <;> first | rfl | cases he
  rcases parts_of_answering p as with ⟨hwrites, hattempts⟩
  refine ⟨?_, ?_, ?_⟩
  · rw [hcons, writesOf_append, hnone, hwrites]
    rfl
  · rw [hcons, attemptsOf_append, hattempts, List.append_nil]
  · rw [(parts_of_call e r as he).1, List.countP_singleton]

theorem Settling.going {l : Link} {t : Nat} {dirty : Bool} {r : SinkRecord} {e : Outflow}
    (h : Settling l t dirty r e) :
    l.writer.isOver = false ∧ isShutdown r = false ∧ (r.failure = none → e.isLast = false) ∧
      ∀ p, l.writer.pending p = attemptsOf [e] ++ queuedWrites p l.writer.queue := by
  unfold Writer.isOver Writer.pending
  cases h with
  | write chunk failure ha _ =>
      rw [ha]
      refine ⟨rfl, rfl, fun hf => ?_, fun p => rfl⟩
      dsimp only at hf
      rw [hf]
      rfl
  | flush failure ha =>
      rw [ha]
      refine ⟨rfl, rfl, fun hf => ?_, fun p => rfl⟩
      dsimp only at hf
      rw [hf]
      rfl

section Moves

variable {l l' : Link} {h es : List Outflow}

-- A call on behalf of a write, after which the write is answered.
theorem Ordered.settling {t : Nat} {dirty : Bool} {r : SinkRecord} {e : Outflow} {w' : Writer}
    (ho : Ordered l.pipeline l.writer h) (hr : Settling l t dirty r e)
    (as : List (Nat × Except NetError Unit))
    (hwhole : w'.isOver = false →
      w'.pending l.pipeline = queuedWrites l.pipeline l.writer.queue)
    (hnew : e.isLast = true → Past w' e) :
    Ordered l.pipeline w' (h ++ e :: answering as) := by
  rcases hr.going with ⟨hgoing, hshut, _, hpending⟩
  rcases parts_of_write l.pipeline e r as hr.inHand.2 with ⟨hwrites, hattempts, hcount⟩
  refine ho.goOn hgoing _ hwrites (fun hgo => ?_) ?_ (fun e' he' hlast => ?_) (pairwise_call e _)
    ?_
  · rw [hattempts, hwhole hgo]
    exact hpending _
  · rw [hattempts, hpending]
    exact List.prefix_append _ _
  · rcases List.mem_cons.1 he' with rfl | htail
    · exact hnew hlast
    · rw [(follows_answering e _ e' htail).1] at hlast
      cases hlast
  · rw [hcount, hshut]
    rfl

-- The last call of a writer.
theorem Ordered.ends {p : Pipeline} {w w' : Writer} (ho : Ordered p w h)
    (hw' : w'.activity = .ended) (hrunning : w.activity ≠ .ended) (e : Outflow) (r : SinkRecord)
    (he : e.record? = some r) (hattempt : attemptsOf [e] = [])
    (hfollows : ∀ e', Past w e' → Follows e' e) (as : List (Nat × Except NetError Unit)) :
    Ordered p w' (h ++ e :: answering as) := by
  rcases parts_of_write p e r as he with ⟨hwrites, hattempts, hcount⟩
  have hover : w'.isOver = true := by
    unfold Writer.isOver
    rw [hw']
  refine ho.wind hover _ hwrites (hattempts.trans hattempt) (fun e' _ => .inr (.inl hw'))
    (fun e' _ _ => .inr (.inl hw')) (fun e' he' e'' he'' => ?_) (pairwise_call _ _) ?_
  · rcases List.mem_cons.1 he'' with rfl | htail
    · exact hfollows e' he'
    · exact (follows_answering e' _ e'' htail).2
  · rw [hcount, if_neg hrunning, if_pos hw']
    split <;> omega

-- Before a close is done only the close itself was called for.
theorem Closing.last {t : Nat} {r : SinkRecord} (hr : Closing l t r) :
    l.writer.activity ≠ .ended ∧ ∀ e, Past l.writer e →
      Follows e (.parted t r.call r.failure l.bridge.attached) := by
  cases hr with
  | unflushed k ha =>
      have hnot := not_past ha (by rintro ⟨⟩) (by rintro ⟨⟩) (by rintro _ ⟨⟩)
      exact ⟨by rw [ha]; rintro ⟨⟩, fun e he => absurd he (hnot e)⟩
  | shut failure ha =>
      refine ⟨by rw [ha]; rintro ⟨⟩, fun e he => ?_⟩
      rcases he with hc | hend | ⟨t', ht', hcaller⟩
      · cases ha.symm.trans hc
      · cases ha.symm.trans hend
      · cases ha.symm.trans ht'
        exact fun _ => ⟨rfl, .inr hcaller.symm⟩

theorem ordered_write (ho : Ordered l.pipeline l.writer h) (hmove : WriteMove l es l') :
    Ordered l.pipeline l'.writer (h ++ es) := by
  have hover : ∀ a, l.writer.activity = a →
      l.writer.isOver = Writer.isOver { l.writer with activity := a } ∧
        l.writer.pending l.pipeline = Writer.pending l.pipeline { l.writer with activity := a } :=
    fun a ha => by
      rw [← ha]
      exact ⟨rfl, rfl⟩
  cases hmove with
  | waits _ =>
      rw [List.append_nil]
      exact ho
  | takes r rest ha hq =>
      refine ho.goOn (hover _ ha).1 [] rfl (fun hgoing => ?_) List.nil_prefix
        (fun e he => (List.not_mem_nil he).elim) .nil rfl
      rw [(hover _ ha).2]
      rcases r with ⟨t, op⟩
      cases op with
      | close => cases hgoing
      | write chunk =>
          change queuedWrites l.pipeline l.writer.queue = _
          rw [hq]
          rfl
  | releases as w ha hq hg =>
      rcases parts_of_answering l.pipeline as with ⟨hwrites, hattempts⟩
      refine ho.goOn (hover _ ha).1 _ hwrites (fun hgoing => ?_) ?_
        (fun e _ _ => hg.past.1 e) ?_ ?_
      · rw [hg.past.2] at hgoing
        cases hgoing
      · rw [hattempts]
        exact List.nil_prefix
      · exact List.pairwise_of_forall_mem_list fun a _ b hb => (follows_answering a as b hb).2
      · rw [recordsOf_answering]
        rfl
  | writes t chunk ha hq =>
      refine ho.goOn (hover _ ha).1 _ rfl (fun _ => (hover _ ha).2) ?_ ?_
        (List.pairwise_singleton _ _) rfl
      · rw [(hover _ ha).2]
        exact List.prefix_append [(t, chunk)] _
      · intro e he hlast
        rw [List.mem_singleton.1 he] at hlast
        cases hlast
  | settles t dirty r e hr hf _ =>
      refine ho.settling hr _ (fun _ => rfl) fun hlast => ?_
      rw [hr.going.2.2.1 hf] at hlast
      cases hlast
  | fails t dirty r e as w status hr _ hg =>
      refine ho.settling hr _ (fun hgoing => ?_) fun _ => hg.past.1 e
      rw [hg.past.2] at hgoing
      cases hgoing
  | parts t ha =>
      have hnot := not_past ha (by rintro ⟨⟩) (by rintro ⟨⟩) (by rintro _ ⟨⟩)
      refine ho.wind rfl _ rfl rfl (fun e he => absurd he (hnot e)) (fun e he _ => ?_)
        (fun e he => absurd he (hnot e)) (List.pairwise_singleton _ _) ?_
      · rw [List.mem_singleton.1 he]
        exact .inr (.inr ⟨t, rfl, rfl⟩)
      · rw [if_neg (by rw [ha]; rintro ⟨⟩)]
        exact Nat.zero_le _
  | closes t r status hr => exact ho.ends rfl hr.last.1 _ r rfl rfl hr.last.2 _
  | cleans failure ha =>
      exact ho.ends rfl (by rw [ha]; rintro ⟨⟩) _ _ rfl rfl (fun _ _ _ => ⟨rfl, .inl rfl⟩) _

-- A request for a write stands at the end of those that were asked for, and at the end of
-- the queue as long as the writer goes on.
theorem ordered_submit {op : WriteOp} (ho : Ordered l.pipeline l.writer h)
    (hmove : SubmitMove l op es l') : Ordered l.pipeline l'.writer (h ++ es) := by
  have hquiet : attemptsOf es = [] ∧ recordsOf es = [] ∧ es.Pairwise Follows ∧
      (∀ e ∈ es, e.isLast = false) ∧ ∀ e, ∀ e' ∈ es, Follows e e' := by
    cases hmove with
    | late _ =>
        refine ⟨rfl, rfl, pairwise_call _ [_], fun e he => ?_, fun e e' he' => ?_⟩
        · rcases List.mem_cons.1 he with rfl | htail
          · rfl
          · exact (follows_answering e _ e htail).1
        · rcases List.mem_cons.1 he' with rfl | htail
          · exact fun _ => ⟨rfl, .inl rfl⟩
          · exact (follows_answering e _ e' htail).2
    | queued _ =>
        refine ⟨rfl, rfl, List.pairwise_singleton _ _, fun e he => ?_, fun e e' he' => ?_⟩
        · rw [List.mem_singleton.1 he]
          rfl
        · rw [List.mem_singleton.1 he']
          exact fun _ => ⟨rfl, .inl rfl⟩
  rcases hquiet with ⟨hattempts, hrecords, hpairwise, hlast, hfollows⟩
  have hactivity : l'.writer.activity = l.writer.activity := by
    cases hmove <;> rfl
  have hwhole : l'.writer.isOver = false → l.writer.isOver = false ∧
      l'.writer.pending l.pipeline = l.writer.pending l.pipeline ++ writesOf l.pipeline es := by
    unfold Writer.isOver Writer.pending
    rw [hactivity]
    refine fun hgoing => ⟨hgoing, ?_⟩
    cases hmove with
    | late ha =>
        rw [ha] at hgoing
        cases hgoing
    | queued _ =>
        have hqueue : queuedWrites l.pipeline (l.writer.queue ++ [⟨l.writer.issued, op⟩]) =
            queuedWrites l.pipeline l.writer.queue ++
              writesOf l.pipeline [.submitted l.writer.issued op false] := by
          unfold queuedWrites
          rw [List.filterMap_append]
          cases op <;> rfl
        dsimp only
        rw [hqueue]
        split <;> rfl
  refine ⟨fun hgoing => ?_, ?_, fun e he hl => ?_, ?_, ?_⟩
  · rcases hwhole hgoing with ⟨hbefore, hpending⟩
    rw [writesOf_append, attemptsOf_append, hattempts, List.append_nil, ho.whole hbefore, hpending,
      List.append_assoc]
  · rw [writesOf_append, attemptsOf_append, hattempts, List.append_nil]
    exact ho.beginning.trans (List.prefix_append _ _)
  · unfold Past
    rw [hactivity]
    rcases List.mem_append.1 he with hold | hes
    · exact ho.past e hold hl
    · rw [hlast e hes] at hl
      cases hl
  · exact List.pairwise_append.2 ⟨ho.last, hpairwise, fun e _ e' he' => hfollows e e' he'⟩
  · rw [recordsOf_append, hrecords, List.append_nil, hactivity]
    exact ho.shutdowns

end Moves

/-! ### What follows about the writes -/

-- Of the writes that were attempted only the last one can have failed.
theorem written_beginning {h : List Outflow} (hlast : h.Pairwise Follows) :
    writtenOf h <+: attemptsOf h := by
  induction h with
  | nil => exact List.prefix_refl _
  | cons e rest ih =>
      rcases List.pairwise_cons.1 hlast with ⟨hhead, htail⟩
      have hrest := ih htail
      cases e with
      | wrote t chunk failure heard dry =>
          cases failure with
          | none => exact (List.prefix_append_right_inj [(t, chunk)]).2 hrest
          | some k =>
              have hnone : writtenOf rest = [] := by
                refine List.filterMap_eq_nil_iff.2 fun e' he' => ?_
                have hwrite := (hhead e' he' rfl).1
                cases e' with
                | wrote _ _ _ _ _ => cases hwrite
                | submitted _ _ _ | flushed _ _ _ | parted _ _ _ _ | unasked _
                | answered _ _ => rfl
              change writtenOf rest <+: _
              rw [hnone]
              exact List.nil_prefix
      | submitted _ _ _ | flushed _ _ _ | parted _ _ _ _ | unasked _ | answered _ _ => exact hrest

theorem writesOf_sublist (p : Pipeline) (h : List Outflow) :
    ((writesOf p h).map Prod.fst).Sublist (ticketsOf h) := by
  induction h with
  | nil => exact .slnil
  | cons e rest ih =>
      cases e with
      | submitted t op late =>
          cases op with
          | write chunk => exact ih.cons_cons t
          | close => exact ih.cons t
      | wrote _ _ _ _ _ | flushed _ _ _ | parted _ _ _ _ | unasked _ | answered _ _ => exact ih

-- After the last write no chunk is handed to the sink, and nothing is called for anybody
-- for whom nothing was called before.
theorem behind_last {before behind : List Outflow} {e : Outflow}
    (hlast : (before ++ e :: behind).Pairwise Follows) (he : e.isLast = true) :
    attemptsOf behind = [] ∧ ∀ t, e.caller? ≠ some t → callsOf t before = [] →
      callsOf t (before ++ e :: behind) = [] := by
  have hfollows : ∀ e' ∈ behind, e'.isWrite = false ∧
      (e'.caller? = none ∨ e'.caller? = e.caller?) := fun e' he' =>
    (List.pairwise_cons.1 (List.pairwise_append.1 hlast).2.1).1 e' he' he
  refine ⟨List.filterMap_eq_nil_iff.2 fun e' he' => ?_, fun t ht hbefore => ?_⟩
  · have hwrite := (hfollows e' he').1
    cases e' with
    | wrote _ _ _ _ _ => cases hwrite
    | submitted _ _ _ | flushed _ _ _ | parted _ _ _ _ | unasked _ | answered _ _ => rfl
  · rw [callsOf_append, hbefore, List.nil_append]
    refine callsOf_of_callers t _ fun e' he' => ?_
    rcases List.mem_cons.1 he' with rfl | htail
    · exact ht
    · rcases (hfollows e' htail).2 with hnone | hsame
      · rw [hnone]
        rintro ⟨⟩
      · rw [hsame]
        exact ht

end Connection

end DemandNet
