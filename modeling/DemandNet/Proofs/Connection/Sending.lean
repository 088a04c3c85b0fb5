import DemandNet.Proofs.Connection.WriteOrder
import Mathlib.Data.List.Nodup

/-!
# What Becomes of Writes

The output of a connection as a whole, under every schedule.

All that is known of a writer is put together here: its requests keep their order, its
answers fit the calls that were made, and its writes are a beginning of what was asked
for. A stream of chunks that is sent one by one adds nothing new to a writer. Its sender
is one more party that makes requests, and it makes the next one only when the last was
answered well. So it is followed through schedules in which everybody else goes on as
before, others that send included; and since its requests are some of all requests, in
order, its writes are a beginning of its stream for the same reason.

## Main definitions

* `Outflowing`: What relates a link to the history of its writing side.
* `Sender`: Somebody who sends a stream of chunks.
* `Sending`: A link, its history and a sender.
* `SentBy`: A sender has asked for the first chunks of its stream.

## Theorems

* `outflowing_turn`: Every turn keeps the relation.
* `sentBy_turn`: So does every turn of a schedule with a sender.
* `sending_sendAll`: Sending a stream is what a sender does.
* `writes_in_order_and_answered_once`: The writes of a connection and their answers.
-/

namespace DemandNet

namespace Connection

/-- A sink on which nothing was called yet, with its plan of failures. -/
def Sink.planned (plan : SinkCallKind → Nat → Option IoKind) : Sink :=
  { plan, blocked := false, record := [] }

/-- A chunk is handed to the sink on behalf of a write only. -/
def Outflow.IsPlain : Outflow → Prop
  | .parted _ call _ _ => call.kind ≠ .write
  | .unasked r => r.call.kind ≠ .write
  | _ => True

theorem plain_answering (as : List (Nat × Except NetError Unit)) :
    ∀ e ∈ answering as, e.IsPlain := by
  intro e he
  rcases List.mem_map.1 he with ⟨a, _, rfl⟩
  trivial

theorem plain_turn (l : Link) (t : Turn) : ∀ e ∈ l.outflow t, e.IsPlain := by
  have hcall : ∀ (e : Outflow) as, e.IsPlain → ∀ e' ∈ e :: answering as, e'.IsPlain :=
    fun e as he e' he' => by
      rcases List.mem_cons.1 he' with rfl | htail
      · exact he
      · exact plain_answering as e' htail
  refine outflow_turn (P := fun _ es => ∀ e ∈ es, e.IsPlain) l t (fun es l' hmove => ?_)
    (fun op es l' hmove => ?_) fun _ _ _ _ _ he => (List.not_mem_nil he).elim
  · cases hmove with
    | waits _ | takes _ _ _ _ => exact fun _ he => (List.not_mem_nil he).elim
    | releases as _ _ _ _ => exact plain_answering as
    | writes t chunk _ _ => exact hcall _ [] trivial
    | settles t dirty r e hr _ _ | fails t dirty r e _ _ _ hr _ _ =>
        refine hcall e _ ?_
        cases hr <;> trivial
    | parts t _ => exact hcall _ [] (by rintro ⟨⟩)
    | closes t r _ hr =>
        refine hcall _ _ ?_
        cases hr <;> rintro ⟨⟩
    | cleans failure _ => exact hcall _ _ (by rintro ⟨⟩)
  · cases hmove with
    | late _ => exact hcall _ [_] trivial
    | queued _ => exact hcall _ [] trivial

/-! ### Links -/

/-- What relates a link to the history of its writing side. -/
structure Outflowing (l : Link) (h : List Outflow) : Prop where
  tallied : Tallied l.writer l.sink.record h
  kept : Kept l.pipeline l.writer h
  staged : Staged l.pipeline h l.writer.activity
  ordered : Ordered l.pipeline l.writer h
  plain : ∀ e ∈ h, e.IsPlain

theorem outflowing_start (pipeline : Pipeline) (window : Flow.Window) (idleLimit : Option Nat)
    (plan : SinkCallKind → Nat → Option IoKind) :
    Outflowing (Link.start pipeline window idleLimit (.planned plan)) [] where
  tallied := ⟨rfl, rfl, rfl, rfl, by rintro ⟨⟩⟩
  kept := ⟨fun _ hr => (List.not_mem_nil hr).elim, fun _ ha => (List.not_mem_nil ha).elim,
    fun _ _ => rfl⟩
  staged := trivial
  ordered := ⟨fun _ => rfl, List.prefix_refl _, fun _ he => (List.not_mem_nil he).elim, .nil,
    Nat.zero_le _⟩
  plain := fun _ he => (List.not_mem_nil he).elim

theorem outflowing_turn (l : Link) (h : List Outflow) (t : Turn) (ho : Outflowing l h) :
    Outflowing (l.turn t) (h ++ l.outflow t) := by
  have hall : (Kept l.pipeline (l.turn t).writer (h ++ l.outflow t) ∧
      Staged l.pipeline (h ++ l.outflow t) (l.turn t).writer.activity) ∧
      Ordered l.pipeline (l.turn t).writer (h ++ l.outflow t) := by
    refine outflow_turn (P := fun l' es => (Kept l.pipeline l'.writer (h ++ es) ∧
        Staged l.pipeline (h ++ es) l'.writer.activity) ∧
        Ordered l.pipeline l'.writer (h ++ es)) l t
      (fun es l' hm => ⟨answered_write ho.tallied ho.kept ho.staged hm, ordered_write ho.ordered hm⟩)
      (fun op es l' hm => ⟨answered_submit ho.kept ho.staged hm, ordered_submit ho.ordered hm⟩) ?_
    intro l' released hwriter _
    rw [hwriter, List.append_nil]
    exact ⟨⟨⟨ho.kept.queued, ho.kept.answered, ho.kept.fresh⟩, ho.staged⟩,
      ho.ordered.whole, ho.ordered.beginning, ho.ordered.past, ho.ordered.last,
      ho.ordered.shutdowns⟩
  rw [← l.pipeline_turn t] at hall
  refine ⟨tallied_turn l h t ho.tallied, hall.1.1, hall.1.2, hall.2, fun e he => ?_⟩
  rcases List.mem_append.1 he with hold | hnew
  · exact ho.plain e hold
  · exact plain_turn l t e hnew

section Facts

variable {l : Link} {h : List Outflow}

theorem Outflowing.written (ho : Outflowing l h) : l.sink.written = (writtenOf h).map Prod.snd := by
  unfold Sink.written
  rw [← ho.tallied.records]
  unfold recordsOf writtenOf
  rw [List.filterMap_filterMap, List.map_filterMap]
  refine List.filterMap_congr fun e he => ?_
  have hplain := ho.plain e he
  cases e with
  | wrote t chunk failure heard dry => cases failure <;> rfl
  | submitted _ _ _ | flushed _ _ _ | answered _ _ => rfl
  | parted t call failure heard =>
      cases call with
      | write chunk => exact absurd rfl hplain
      | flush | shutdown => rfl
  | unasked r =>
      rcases r with ⟨call, failure⟩
      cases call with
      | write chunk => exact absurd rfl hplain
      | flush | shutdown => rfl

theorem Outflowing.writes_beginning (ho : Outflowing l h) : writtenOf h <+: writesOf l.pipeline h :=
  (written_beginning ho.ordered.last).trans ho.ordered.beginning

theorem Outflowing.inOrder (ho : Outflowing l h) :
    l.sink.written <+: (chunksOf h).map l.pipeline.outbound := by
  rw [ho.written, ← writesOf_snd]
  exact ho.writes_beginning.map Prod.snd

theorem Outflowing.answeredInOrder (ho : Outflowing l h) :
    (answersOf h).map Prod.fst <+: List.range l.writer.issued := by
  rw [ho.tallied.answers, ← ho.tallied.inOrder, List.append_assoc]
  exact List.prefix_append _ _

theorem Outflowing.shutdowns (ho : Outflowing l h) : l.sink.count .shutdown ≤ 1 := by
  have hcount := ho.ordered.shutdowns
  rw [ho.tallied.records] at hcount
  refine Nat.le_trans hcount ?_
  split <;> omega

-- A request gets one answer.
theorem Outflowing.answer_unique (ho : Outflowing l h) {t : Nat} {r r' : Except NetError Unit}
    (hr : (t, r) ∈ l.writer.answers) (hr' : (t, r') ∈ l.writer.answers) : r = r' := by
  have hnodup := ho.answeredInOrder.sublist.nodup List.nodup_range
  rw [ho.tallied.answers] at hnodup
  exact congrArg Prod.snd (List.inj_on_of_nodup_map hnodup hr hr' rfl)

-- An answer that was given stays.
theorem Outflowing.answers_turn (ho : Outflowing l h) (t : Turn) :
    l.writer.answers <+: (l.turn t).writer.answers := by
  rw [← (outflowing_turn l h t ho).tallied.answers, ← ho.tallied.answers, answersOf_append]
  exact List.prefix_append _ _

end Facts

/-! ### Somebody who sends -/

/-- What somebody who sends a stream is doing. -/
inductive Sender.Stage where
  /-- The next chunk may be sent. -/
  | ready
  /-- The answer to a write is not there yet. -/
  | waiting (ticket : Nat)
  | finished (r : Except NetError Unit)

/-- Somebody who sends a stream of chunks, one by one. -/
structure Sender where
  rest : List Bytes
  /-- The writes that were asked for, by number. -/
  tickets : List Nat
  stage : Sender.Stage

/-- Somebody who has sent nothing yet. -/
def Sender.start (chunks : List Bytes) : Sender := { rest := chunks, tickets := [], stage := .ready }

/-- What a sender has come to, once it has. -/
def Sender.outcome? (s : Sender) : Option (Except NetError Unit) :=
  match s.stage with
  | .finished r => some r
  | _ => none

/-- A sender goes on, if it does not have to wait; the turns are what it does to the link. -/
def Sender.next (s : Sender) (w : Writer) : Sender × List Turn :=
  match s.stage with
  | .ready =>
      match s.rest with
      | [] => ({ s with stage := .finished (.ok ()) }, [])
      | chunk :: rest =>
          ({ rest, tickets := s.tickets ++ [w.issued], stage := .waiting w.issued },
            [.submit (.write chunk)])
  | .waiting t =>
      match w.answer? t with
      | none => (s, [])
      | some (.ok ()) => ({ s with stage := .ready }, [])
      | some (.error e) => ({ s with stage := .finished (.error e) }, [])
  | .finished _ => (s, [])

/-- A link with what was seen of its writing side, and somebody who sends. -/
structure Sending where
  link : Link
  history : List Outflow
  sender : Sender

/-- Something happens to the link, or the sender goes on. -/
def Sending.turn (s : Sending) : Option Turn → Sending
  | some t => { s with link := s.link.turn t, history := s.history ++ s.link.outflow t }
  | none =>
      let (sender, ts) := s.sender.next s.link.writer
      { link := s.link.after ts, history := s.history ++ s.link.watch Link.outflow ts, sender }

/-- The state after a schedule. -/
def Sending.after (s : Sending) (us : List (Option Turn)) : Sending :=
  Schedule.after Sending.turn s us

/-- How the answers that a sender got relate to what it is doing. -/
inductive Progress (answers : List (Nat × Except NetError Unit)) : Sender → Prop
  | ready (rest : List Bytes) (tickets : List Nat) (hok : ∀ t ∈ tickets, (t, .ok ()) ∈ answers) :
      Progress answers ⟨rest, tickets, .ready⟩
  | waiting (rest : List Bytes) (before : List Nat) (t : Nat)
      (hok : ∀ t ∈ before, (t, .ok ()) ∈ answers) :
      Progress answers ⟨rest, before ++ [t], .waiting t⟩
  | done (tickets : List Nat) (hok : ∀ t ∈ tickets, (t, .ok ()) ∈ answers) :
      Progress answers ⟨[], tickets, .finished (.ok ())⟩
  | failed (rest : List Bytes) (before : List Nat) (t : Nat) (e : NetError)
      (hok : ∀ t ∈ before, (t, .ok ()) ∈ answers) (he : (t, .error e) ∈ answers) :
      Progress answers ⟨rest, before ++ [t], .finished (.error e)⟩

/-- The writes of a sender, among those that were asked for. -/
def Sender.own (s : Sender) (writes : List (Nat × Bytes)) : List (Nat × Bytes) :=
  writes.filter fun a => a.1 ∈ s.tickets

/-- A sender has asked for the first chunks of its stream, in order. -/
structure SentBy (chunks : List Bytes) (s : Sending) : Prop where
  outflowing : Outflowing s.link s.history
  issued : ∀ t ∈ s.sender.tickets, t < s.link.writer.issued
  sent : ∃ sent, sent ++ s.sender.rest = chunks ∧ sent.length = s.sender.tickets.length ∧
    (s.sender.own (writesOf s.link.pipeline s.history)).map Prod.snd =
      sent.map s.link.pipeline.outbound
  progress : Progress s.link.writer.answers s.sender

theorem Progress.mono {answers answers' : List (Nat × Except NetError Unit)} {s : Sender}
    (hp : Progress answers s) (hle : answers <+: answers') : Progress answers' s := by
  cases hp with
  | ready rest tickets hok => exact .ready rest tickets fun t ht => hle.mem (hok t ht)
  | waiting rest before t hok => exact .waiting rest before t fun t ht => hle.mem (hok t ht)
  | done tickets hok => exact .done tickets fun t ht => hle.mem (hok t ht)
  | failed rest before t e hok he =>
      exact .failed rest before t e (fun t ht => hle.mem (hok t ht)) (hle.mem he)

theorem answer?_mem {w : Writer} {t : Nat} {r : Except NetError Unit} (h : w.answer? t = some r) :
    (t, r) ∈ w.answers := by
  rcases List.lookup_eq_some_iff.1 h with ⟨before, behind, hanswers, _⟩
  rw [hanswers]
  exact List.mem_append_right _ List.mem_cons_self

/-! ### The turns of a schedule with a sender -/

theorem sentBy_start {l : Link} {h : List Outflow} (ho : Outflowing l h) (chunks : List Bytes) :
    SentBy chunks ⟨l, h, .start chunks⟩ where
  outflowing := ho
  issued := fun _ ht => (List.not_mem_nil ht).elim
  sent := by
    refine ⟨[], rfl, rfl, ?_⟩
    unfold Sender.own
    rw [List.filter_eq_nil_iff.2 fun a _ => by rw [decide_eq_true_eq]; exact List.not_mem_nil]
    rfl
  progress := .ready chunks [] fun _ ht => (List.not_mem_nil ht).elim

theorem writesOf_lt {l : Link} {h : List Outflow} (ho : Outflowing l h) :
    ∀ a ∈ writesOf l.pipeline h, a.1 < l.writer.issued := by
  intro a ha
  have hmem := (writesOf_sublist l.pipeline h).subset (List.mem_map_of_mem ha)
  rw [ho.tallied.tickets] at hmem
  exact List.mem_range.1 hmem

-- What is asked for in a turn has a number that nobody has had before.
theorem writesOf_turn {l : Link} {h : List Outflow} (ho : Outflowing l h) (t : Turn) :
    ∀ a ∈ writesOf l.pipeline (l.outflow t), l.writer.issued ≤ a.1 := by
  intro a ha
  have hmem := (writesOf_sublist l.pipeline _).subset (List.mem_map_of_mem ha)
  have htickets := (outflowing_turn l h t ho).tallied.tickets
  rw [ticketsOf_append, ho.tallied.tickets] at htickets
  have hnodup : (List.range l.writer.issued ++ ticketsOf (l.outflow t)).Nodup := by
    rw [htickets]
    exact List.nodup_range
  by_contra hlt
  exact (List.nodup_append.1 hnodup).2.2 _ (List.mem_range.2 (Nat.lt_of_not_le hlt)) _ hmem rfl

-- Whatever others ask for is none of the writes of a sender.
theorem own_turn {l : Link} {h : List Outflow} (ho : Outflowing l h) (t : Turn) (s : Sender)
    (hs : ∀ t ∈ s.tickets, t < l.writer.issued) :
    s.own (writesOf l.pipeline (h ++ l.outflow t)) = s.own (writesOf l.pipeline h) := by
  unfold Sender.own
  rw [writesOf_append, List.filter_append]
  have hnone : (writesOf l.pipeline (l.outflow t)).filter (fun a => a.1 ∈ s.tickets) = [] := by
    refine List.filter_eq_nil_iff.2 fun a ha hmem => ?_
    have hlt := hs _ (of_decide_eq_true hmem)
    exact absurd (writesOf_turn ho t a ha) (Nat.not_le.2 hlt)
  rw [hnone, List.append_nil]

theorem issued_turn {l : Link} {h : List Outflow} (ho : Outflowing l h) (t : Turn) :
    l.writer.issued ≤ (l.turn t).writer.issued := by
  have htickets := congrArg List.length (outflowing_turn l h t ho).tallied.tickets
  rw [ticketsOf_append, ho.tallied.tickets, List.length_append, List.length_range,
    List.length_range] at htickets
  omega

theorem sentBy_other {chunks : List Bytes} {s : Sending} (hs : SentBy chunks s) (t : Turn) :
    SentBy chunks (s.turn (some t)) where
  outflowing := outflowing_turn s.link s.history t hs.outflowing
  issued := fun n hn => Nat.lt_of_lt_of_le (hs.issued n hn) (issued_turn hs.outflowing t)
  sent := by
    rcases hs.sent with ⟨sent, hall, hlength, hown⟩
    refine ⟨sent, hall, hlength, ?_⟩
    change (s.sender.own (writesOf (s.link.turn t).pipeline _)).map Prod.snd =
      sent.map (s.link.turn t).pipeline.outbound
    rw [s.link.pipeline_turn t]
    exact (congrArg _ (own_turn hs.outflowing t s.sender hs.issued)).trans hown
  progress := hs.progress.mono (hs.outflowing.answers_turn t)

-- A sender that has only looked for its answer.
theorem SentBy.look {chunks : List Bytes} {s : Sending} (hs : SentBy chunks s)
    (stage : Sender.Stage)
    (hp : Progress s.link.writer.answers { s.sender with stage }) :
    SentBy chunks { s with sender := { s.sender with stage } } :=
  ⟨hs.outflowing, hs.issued, hs.sent, hp⟩

theorem submitted_write (l : Link) (chunk : Bytes) :
    writesOf l.pipeline (l.outflow (.submit (.write chunk))) =
        [(l.writer.issued, l.pipeline.outbound chunk)] ∧
      (l.turn (.submit (.write chunk))).writer.issued = l.writer.issued + 1 := by
  have hmove := submit_move l (.write chunk)
  generalize l.turn (.submit (.write chunk)) = l' at hmove ⊢
  generalize l.outflow (.submit (.write chunk)) = es at hmove ⊢
  cases hmove <;> exact ⟨rfl, rfl⟩

-- A write that is the last one of all is the last one of its sender.
theorem own_submit {l : Link} {h : List Outflow} {rest : List Bytes} {stage : Sender.Stage}
    (s : Sender) (ho : Outflowing l h) (chunk : Bytes) :
    Sender.own ⟨rest, s.tickets ++ [l.writer.issued], stage⟩
        (writesOf l.pipeline h ++ [(l.writer.issued, chunk)]) =
      s.own (writesOf l.pipeline h) ++ [(l.writer.issued, chunk)] := by
  have hold : (writesOf l.pipeline h).filter (fun a => a.1 ∈ s.tickets ++ [l.writer.issued]) =
      s.own (writesOf l.pipeline h) := by
    refine List.filter_congr fun a ha => ?_
    have hne : a.1 ≠ l.writer.issued := Nat.ne_of_lt (writesOf_lt ho a ha)
    rw [decide_eq_decide, List.mem_append, List.mem_singleton, or_iff_left hne]
  have hnew : [(l.writer.issued, chunk)].filter (fun a => a.1 ∈ s.tickets ++ [l.writer.issued]) =
      [(l.writer.issued, chunk)] :=
    List.filter_cons_of_pos (decide_eq_true (List.mem_append_right _ List.mem_cons_self))
  change List.filter (fun a : Nat × Bytes => a.1 ∈ s.tickets ++ [l.writer.issued]) _ = _
  rw [List.filter_append, hold, hnew]

-- The next chunk of the stream becomes the last write of the sender.
theorem sentBy_submit {chunks : List Bytes} {s : Sending} (hs : SentBy chunks s) (chunk : Bytes)
    (rest : List Bytes) (hrest : s.sender.rest = chunk :: rest)
    (hok : ∀ t ∈ s.sender.tickets, (t, .ok ()) ∈ s.link.writer.answers) :
    SentBy chunks
      { link := s.link.turn (.submit (.write chunk))
        history := s.history ++ s.link.outflow (.submit (.write chunk))
        sender := ⟨rest, s.sender.tickets ++ [s.link.writer.issued],
          .waiting s.link.writer.issued⟩ } := by
  rcases submitted_write s.link chunk with ⟨hwrites, hissued⟩
  refine ⟨outflowing_turn _ _ (.submit (.write chunk)) hs.outflowing, fun t ht => ?_, ?_, ?_⟩
  · dsimp only at ht ⊢
    rw [hissued]
    rcases List.mem_append.1 ht with hold | hnew
    · exact Nat.lt_succ_of_lt (hs.issued t hold)
    · rw [List.mem_singleton.1 hnew]
      exact Nat.lt_succ_self _
  · rcases hs.sent with ⟨sent, hall, hlength, hown⟩
    refine ⟨sent ++ [chunk], ?_, ?_, ?_⟩
    · rw [← hall, hrest, List.append_assoc]
      rfl
    · rw [List.length_append, hlength, List.length_append]
      rfl
    · dsimp only
      rw [s.link.pipeline_turn, writesOf_append, hwrites]
      rw [own_submit s.sender hs.outflowing, List.map_append, hown, List.map_append]
      rfl
  · exact .waiting rest _ _ fun t ht => (hs.outflowing.answers_turn _).mem (hok t ht)

theorem sentBy_go {chunks : List Bytes} {s : Sending} (hs : SentBy chunks s) :
    SentBy chunks (s.turn none) := by
  have hstay : SentBy chunks { s with history := s.history ++ [] } := by
    rw [List.append_nil]
    exact hs
  rcases s with ⟨link, history, rest, tickets, stage⟩
  have hprogress := hs.progress
  unfold Sending.turn Sender.next
  dsimp only at hprogress ⊢
  cases hprogress with
  | ready _ _ hok =>
      cases rest with
      | nil => exact hstay.look _ (.done tickets hok)
      | cons chunk rest =>
          have hsubmit := sentBy_submit hs chunk rest rfl hok
          unfold Link.watch
          dsimp only
          rw [Schedule.watch_singleton]
          exact hsubmit
  | waiting _ before t hok =>
      dsimp only
      cases hanswer : link.writer.answer? t with
      | none => exact hstay
      | some r =>
          have hmem := answer?_mem hanswer
          cases r with
          | error e => exact hstay.look _ (.failed rest before t e hok hmem)
          | ok _ =>
              refine hstay.look _ (.ready rest _ fun n hn => ?_)
              rcases List.mem_append.1 hn with hold | hnew
              · exact hok n hold
              · rw [List.mem_singleton.1 hnew]
                exact hmem
  | done _ _ | failed _ _ _ _ _ _ => exact hstay

theorem sentBy_turn {chunks : List Bytes} {s : Sending} (hs : SentBy chunks s)
    (u : Option Turn) : SentBy chunks (s.turn u) := by
  cases u with
  | none => exact sentBy_go hs
  | some t => exact sentBy_other hs t

theorem sentBy_after {chunks : List Bytes} (us : List (Option Turn)) :
    ∀ {s : Sending}, SentBy chunks s → SentBy chunks (s.after us) := by
  induction us with
  | nil => exact fun hs => hs
  | cons u rest ih => exact fun hs => ih (sentBy_turn hs u)

/-! ### What follows about a sender -/

section Sent

variable {chunks : List Bytes} {s : Sending}

-- What was written of the stream is a beginning of what was sent of it.
theorem SentBy.written (hs : SentBy chunks s) :
    ∃ sent, sent ++ s.sender.rest = chunks ∧ sent.length = s.sender.tickets.length ∧
      (s.sender.own (writtenOf s.history)).map Prod.snd <+:
        sent.map s.link.pipeline.outbound := by
  rcases hs.sent with ⟨sent, hall, hlength, hown⟩
  refine ⟨sent, hall, hlength, ?_⟩
  rw [← hown]
  exact (hs.outflowing.writes_beginning.filter _).map Prod.snd

-- Nothing is sent after a write that failed.
theorem SentBy.stops (hs : SentBy chunks s) (t : Nat) (ht : t ∈ s.sender.tickets) (e : NetError)
    (he : (t, .error e) ∈ s.link.writer.answers) : s.sender.tickets.getLast? = some t := by
  have hbad : (t, .ok ()) ∈ s.link.writer.answers → False := fun hok => by
    cases hs.outflowing.answer_unique he hok
  have hlast : ∀ before t', (∀ n ∈ before, (n, .ok ()) ∈ s.link.writer.answers) →
      t ∈ before ++ [t'] → (before ++ [t']).getLast? = some t := fun before t' hok hmem => by
    rcases List.mem_append.1 hmem with hold | hnew
    · exact (hbad (hok t hold)).elim
    · rw [List.mem_singleton.1 hnew]
      exact List.getLast?_concat
  have hprogress := hs.progress
  rcases s with ⟨link, history, rest, tickets, stage⟩
  dsimp only at hprogress ht hbad hlast ⊢
  cases hprogress with
  | ready _ _ hok | done _ hok => exact (hbad (hok t ht)).elim
  | waiting _ before t' hok | failed _ before t' _ hok _ => exact hlast before t' hok ht

theorem SentBy.done (hs : SentBy chunks s) (hr : s.sender.outcome? = some (.ok ())) :
    s.sender.rest = [] ∧ ∀ t ∈ s.sender.tickets, (t, .ok ()) ∈ s.link.writer.answers := by
  have hprogress := hs.progress
  rcases s with ⟨link, history, rest, tickets, stage⟩
  dsimp only at hprogress hr ⊢
  cases hprogress with
  | ready _ _ _ | waiting _ _ _ _ | failed _ _ _ _ _ _ => cases hr
  | done _ hok => exact ⟨rfl, hok⟩

theorem SentBy.failed (hs : SentBy chunks s) (e : NetError)
    (hr : s.sender.outcome? = some (.error e)) :
    ∃ t, s.sender.tickets.getLast? = some t ∧ (t, .error e) ∈ s.link.writer.answers := by
  have hprogress := hs.progress
  rcases s with ⟨link, history, rest, tickets, stage⟩
  dsimp only at hprogress hr ⊢
  cases hprogress with
  | ready _ _ _ | waiting _ _ _ _ | done _ _ => cases hr
  | failed _ before t e' _ he =>
      cases hr
      exact ⟨t, List.getLast?_concat, he⟩

end Sent

/-! ### Sending a stream -/

theorem Sending.pipeline_after (us : List (Option Turn)) (s : Sending) :
    (s.after us).link.pipeline = s.link.pipeline := by
  refine Schedule.kept_after (f := fun s => s.link.pipeline) (fun s u => ?_) us s
  cases u with
  | none => exact s.link.pipeline_after _
  | some t => exact s.link.pipeline_turn t

theorem Sending.after_others (ts : List Turn) :
    ∀ s : Sending, (s.after (ts.map some)).link = s.link.after ts ∧
      (s.after (ts.map some)).sender = s.sender := by
  induction ts with
  | nil => exact fun s => ⟨rfl, rfl⟩
  | cons t rest ih => exact fun s => ih (s.turn (some t))

theorem submit_fst (l : Link) (op : WriteOp) : (l.submit op).1 = l.writer.issued := by
  unfold Link.submit Writer.submit
  dsimp only
  split <;> rfl

-- A chunk is sent by the sender, then the link goes on, and then the sender looks for the
-- answer.
theorem sending_send (s : Sending) (chunk : Bytes) (rest : List Bytes) (tickets : List Nat)
    (hs : s.sender = ⟨chunk :: rest, tickets, .ready⟩) :
    ∃ us, (s.after us).link = (s.link.send chunk).2 ∧
      (s.after us).sender = (Sender.next
        ⟨rest, tickets ++ [s.link.writer.issued], .waiting s.link.writer.issued⟩
        (s.link.send chunk).2.writer).1 := by
  rcases (s.link.turn (.submit (.write chunk))).runs_settle with ⟨ts, hts⟩
  have hgo : (s.turn none).link = s.link.turn (.submit (.write chunk)) ∧
      (s.turn none).sender = ⟨rest, tickets ++ [s.link.writer.issued],
        .waiting s.link.writer.issued⟩ := by
    unfold Sending.turn Sender.next
    rw [hs]
    exact ⟨rfl, rfl⟩
  have hlink : (s.link.send chunk).2 = (s.link.turn (.submit (.write chunk))).settle := rfl
  rcases Sending.after_others ts (s.turn none) with ⟨hafter, hsame⟩
  have hsplit : s.after (none :: (ts.map some ++ [none])) =
      ((s.turn none).after (ts.map some)).turn none :=
    Schedule.after_append (s.turn none) (ts.map some) [none]
  have hsettled : (s.link.turn (.submit (.write chunk))).settle =
      ((s.turn none).after (ts.map some)).link := by
    rw [hafter, hgo.1]
    exact hts
  refine ⟨none :: (ts.map some ++ [none]), ?_⟩
  rw [hsplit, hlink, hsettled, ← hgo.2, ← hsame]
  generalize (s.turn none).after (ts.map some) = s' at hsame ⊢
  have hstage : s'.sender.stage = .waiting s.link.writer.issued := by rw [hsame, hgo.2]
  unfold Sending.turn Sender.next
  rw [hstage]
  dsimp only
  cases s'.link.writer.answer? s.link.writer.issued with
  | none => exact ⟨rfl, rfl⟩
  | some r => cases r <;> exact ⟨rfl, rfl⟩

-- Sending a stream while nothing else happens is what a sender does in one schedule.
theorem sending_sendAll (chunks : List Bytes) :
    ∀ (s : Sending) (tickets : List Nat), s.sender = ⟨chunks, tickets, .ready⟩ →
      ∃ us, (s.after us).link = (s.link.sendAll chunks).2 ∧
        (s.after us).sender.outcome? = (s.link.sendAll chunks).1 := by
  induction chunks with
  | nil =>
      intro s tickets hs
      refine ⟨[none], ?_⟩
      change (s.turn none).link = s.link ∧ (s.turn none).sender.outcome? = some (.ok ())
      unfold Sending.turn Sender.next
      rw [hs]
      exact ⟨rfl, rfl⟩
  | cons chunk rest ih =>
      intro s tickets hs
      rcases sending_send s chunk rest tickets hs with ⟨us, hlink, hsender⟩
      have hanswer : (s.link.send chunk).1 =
          (s.link.send chunk).2.writer.answer? s.link.writer.issued := by
        rw [← submit_fst s.link (.write chunk)]
        rfl
      unfold Link.sendAll
      generalize s.link.send chunk = sent at hlink hsender hanswer ⊢
      rcases sent with ⟨outcome, l⟩
      dsimp only at hlink hsender hanswer
      dsimp only [Sender.next] at hsender
      rw [← hanswer] at hsender
      rcases outcome with _ | (e | _)
      · exact ⟨us, hlink, by rw [hsender]; rfl⟩
      · exact ⟨us, hlink, by rw [hsender]; rfl⟩
      · rcases ih (s.after us) _ hsender with ⟨vs, hvs⟩
        have hsplit : s.after (us ++ vs) = (s.after us).after vs := Schedule.after_append s us vs
        refine ⟨us ++ vs, ?_⟩
        rw [hsplit]
        rw [hlink] at hvs
        exact hvs

/-! ### The output as a whole -/

-- A request for which nothing was called was made too late, or the writer ended first.
theorem Answered.uncalled {p : Pipeline} {h : List Outflow} {a : Nat × Except NetError Unit}
    (ha : Answered p h a) (hnone : callsOf a.1 h = []) :
    ∃ op late, .submitted a.1 op late ∈ h ∧
      a.2 = if late then Writer.lateAnswer op else Writer.droppedAnswer op := by
  rcases a with ⟨t, r⟩
  rcases ha with ⟨op, late, hmem, hfate⟩
  rw [hnone] at hfate
  refine ⟨op, late, hmem, ?_⟩
  cases hfate <;> rfl

-- The chunks that were written are a beginning of those that were to be written. Every
-- request is answered once, in order, and as its calls came out, and it does not wait for
-- ever for its answer. After a call that failed or was for a close nothing is written, and
-- whoever was not called for before is refused. A stream that is sent goes out from its
-- beginning, up to the first write that fails.
theorem writes_in_order_and_answered_once (pipeline : Pipeline) (window : Flow.Window)
    (idleLimit : Option Nat) (plan : SinkCallKind → Nat → Option IoKind) (ts : List Turn) :
    let l := (Link.start pipeline window idleLimit (.planned plan)).after ts
    let h := (Link.start pipeline window idleLimit (.planned plan)).watch Link.outflow ts
    (recordsOf h = l.sink.record ∧ answersOf h = l.writer.answers ∧
        ticketsOf h = List.range l.writer.issued) ∧
      (l.sink.written = (writtenOf h).map Prod.snd ∧
        l.sink.written <+: (chunksOf h).map pipeline.outbound) ∧
      ((answersOf h).map Prod.fst <+: List.range l.writer.issued ∧
        (∀ a ∈ answersOf h, Answered pipeline h a) ∧
        ∀ t < l.writer.issued, ∀ us : List Turn, l.sink.blocked = false → .block true ∉ us →
          3 * l.writer.queue.length + 2 ≤ us.count .write →
          ∃ r, (t, r) ∈ (l.after us).writer.answers) ∧
      (∀ before e behind, h = before ++ e :: behind → e.isLast = true →
        attemptsOf behind = [] ∧
          ∀ a ∈ answersOf h, e.caller? ≠ some a.1 → callsOf a.1 before = [] →
            ∃ op late, .submitted a.1 op late ∈ h ∧
              a.2 = if late then Writer.lateAnswer op else Writer.droppedAnswer op) ∧
      l.sink.count .shutdown ≤ 1 ∧
      ∀ chunks : List Bytes,
        (∀ us, let s := (⟨l, h, .start chunks⟩ : Sending).after us
          (∃ sent, sent ++ s.sender.rest = chunks ∧ sent.length = s.sender.tickets.length ∧
            (s.sender.own (writtenOf s.history)).map Prod.snd <+: sent.map pipeline.outbound) ∧
          (∀ t ∈ s.sender.tickets, ∀ e, (t, .error e) ∈ s.link.writer.answers →
            s.sender.tickets.getLast? = some t) ∧
          (s.sender.outcome? = some (.ok ()) → s.sender.rest = [] ∧
            ∀ t ∈ s.sender.tickets, (t, .ok ()) ∈ s.link.writer.answers) ∧
          ∀ e, s.sender.outcome? = some (.error e) →
            ∃ t, s.sender.tickets.getLast? = some t ∧ (t, .error e) ∈ s.link.writer.answers) ∧
        ∃ us, ((⟨l, h, .start chunks⟩ : Sending).after us).link = (l.sendAll chunks).2 ∧
          ((⟨l, h, .start chunks⟩ : Sending).after us).sender.outcome? = (l.sendAll chunks).1 := by
  intro l h
  have ho : Outflowing l h := Schedule.invariant_after outflowing_turn _ []
    (outflowing_start pipeline window idleLimit plan) ts
  have hpipeline : l.pipeline = pipeline := Link.pipeline_after _ ts
  have hanswered : ∀ a ∈ answersOf h, Answered l.pipeline h a := by
    rw [ho.tallied.answers]
    exact ho.kept.answered
  have hinOrder := ho.inOrder
  rw [hpipeline] at hanswered hinOrder
  refine ⟨⟨ho.tallied.records, ho.tallied.answers, ho.tallied.tickets⟩, ⟨ho.written, hinOrder⟩,
    ⟨ho.answeredInOrder, hanswered, fun t ht us hfree hblock hn => ?_⟩,
    fun before e behind hh he => ?_, ho.shutdowns, fun chunks => ⟨fun us => ?_, ?_⟩⟩
  · exact answered_within us ho.tallied hfree hblock hn (within_of_lt ho.tallied t ht)
  · have hlast := ho.ordered.last
    rw [hh] at hlast
    rcases behind_last hlast he with ⟨hover, hcalls⟩
    refine ⟨hover, fun a ha hother hbefore => (hanswered a ha).uncalled ?_⟩
    rw [hh]
    exact hcalls a.1 hother hbefore
  · have hs := sentBy_after us (sentBy_start ho chunks)
    have hsame := Sending.pipeline_after us ⟨l, h, .start chunks⟩
    intro s
    have hwritten := hs.written
    rw [hsame, hpipeline] at hwritten
    exact ⟨hwritten, hs.stops, hs.done, hs.failed⟩
  · exact sending_sendAll chunks ⟨l, h, .start chunks⟩ [] rfl

/-- The pipe breaks under the first of two writes, and nobody reads the other direction. -/
example : answersOf ((Link.start [] (.bounded 1) none (.planned fun _ _ => some .brokenPipe)).watch
    Link.outflow [.submit (.write [1]), .write, .submit (.write [2]), .submit .close, .write,
      .write, .submit (.write [3]), .submit .close]) =
    [(0, .ok ()), (1, .error .remoteClosed), (2, .ok ()),
      (3, .error (.notRunning "connection writer closed")), (4, .ok ())] := by
  rfl

end Connection

end DemandNet
