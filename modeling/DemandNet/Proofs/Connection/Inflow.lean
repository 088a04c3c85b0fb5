import DemandNet.Proofs.Connection.Schedule
import DemandNet.Proofs.Flow.Hosted

/-!
# The Input of a Connection

Where the chunks are that a connection has read.

Whatever the schedule, they are in one of four places, in this order: received by a
consumer, queued in the bridge, held by the reader, or thrown away. The reader holds at
most one, because it reads the next only after the bridge has taken the last; and it
throws at most one away, because that is what it does last, on a bridge that nobody will
read any more. Consumers may come and go meanwhile. They move chunks from the queue to
themselves and change nothing else.

A step of the reader does one of nine things, and `ReadMove` lists them with what they
show. The invariant is proved from that list. What it says about the end of the stream is
how the reader stopped: at the end of the data, at a failure, or because the bridge was
abandoned.

## Main definitions

* `Inflow`: What can be seen of the reading side.
* `Link.inflow`: What a turn shows of it.
* `readsOf`, `discardedOf`, `account`: Parts of a history.
* `Reader.held`: The chunk in the hands of the reader.
* `ReadMove`: What a step of the reader can do.
* `Inflowing`: What relates a link to the history of its reading side.

## Theorems

* `read_move`, `readOn_move`: A step of the reader does one of those things.
* `inflowing_turn`: Every turn keeps the relation.
* `chunks_in_order_and_one_end`: The chunks that were read, and how their stream ends.
-/

namespace DemandNet

namespace Connection

open DemandNet.Flow (Account Bridge Consumer Hosted Poll takeOne?)

/-- What can be seen of the reading side of a connection. -/
inductive Inflow where
  /-- A read began. -/
  | began
  /-- A read brought these bytes, which did not yet pass the pipeline. -/
  | read (bytes : Bytes)
  /-- A read met the end of the data. -/
  | eof
  /-- A read failed, or took too long. -/
  | failed (e : NetError)
  /-- The bridge took a chunk. -/
  | accepted (chunk : Bytes)
  /-- A chunk was thrown away. -/
  | discarded (chunk : Bytes)
  /-- The consumer looked. -/
  | polled (p : Poll Bytes)

/-- What the end of a read shows. -/
def ReadResult.inflow : ReadResult → List Inflow
  | .chunk bytes _ => [.read bytes]
  | .nothing _ => []
  | .eof => [.eof]
  | .failed e => [.failed (.ofIo e)]

/-- The chunk in the hands of a reader. -/
def Reader.held (r : Reader) : List Bytes :=
  match r.phase with
  | .holding chunk => [chunk]
  | _ => []

/-- What a read that comes to its end shows. -/
def Reader.readInflow (r : Reader) (v : ReaderView) : List Inflow :=
  match r.phase with
  | .reading since => (r.readResult? v since).elim [] ReadResult.inflow
  | _ => []

/-- What a step of the reader shows. -/
def Reader.inflow (r : Reader) (v : ReaderView) (b : Bridge Bytes) : List Inflow :=
  match r.phase with
  | .waiting => if b.readiness? = some .wanted then [.began] else []
  | .reading _ => if b.isClosed then [] else r.readInflow v
  | .holding chunk =>
      match (b.deliver chunk).1 with
      | none => []
      | some (.ok ()) => [.accepted chunk]
      | some (.error _) => [.discarded chunk]
  | .stopped => []

/-- What a turn shows of the reading side. -/
def Link.inflow (l : Link) : Turn → List Inflow
  | .poll => (l.poll.map fun r => Inflow.polled r.1).toList
  | .read => l.reader.inflow l.readerView l.bridge
  | .readOn => l.reader.readInflow l.readerView
  | _ => []

/-! ### Parts of a history -/

/-- The chunks that were read, as they came from the socket. -/
def readsOf (h : List Inflow) : List Bytes :=
  h.filterMap fun
    | .read bytes => some bytes
    | _ => none

/-- The chunks that were thrown away. -/
def discardedOf (h : List Inflow) : List Bytes :=
  h.filterMap fun
    | .discarded chunk => some chunk
    | _ => none

/-- The account after something happened. -/
def Inflow.enter (s : Account Bytes) : Inflow → Account Bytes
  | .accepted chunk => s.accept chunk
  | .polled p => s.see p
  | .failed e => s.conclude (some e)
  | _ => s

/-- What was handed over and what the consumers saw. -/
def account (h : List Inflow) : Account Bytes := h.foldl Inflow.enter .empty

theorem readsOf_append (h es : List Inflow) : readsOf (h ++ es) = readsOf h ++ readsOf es :=
  List.filterMap_append

theorem discardedOf_append (h es : List Inflow) :
    discardedOf (h ++ es) = discardedOf h ++ discardedOf es := List.filterMap_append

theorem account_append (h es : List Inflow) :
    account (h ++ es) = es.foldl Inflow.enter (account h) := List.foldl_append

/-! ### What the reader does -/

/-- A link whose reader has stopped. -/
def Link.stopped (l : Link) (e : Option NetError) : Link :=
  { l with reader := { l.reader with phase := .stopped }, bridge := l.bridge.concluded e }

/-- What a step of the reader can do, and what it shows. -/
inductive ReadMove (l : Link) : List Inflow → Link → Prop
  | waits : ReadMove l [] l
  | began (hp : l.reader.phase = .waiting) (hd : 0 < l.bridge.demand)
      (hc : l.bridge.isClosed = false) :
      ReadMove l [.began] { l with reader := { l.reader with phase := .reading l.now } }
  | nothing (since : Nat) (rest : List Incoming) (hp : l.reader.phase = .reading since) :
      ReadMove l [] { l with reader := { l.reader with socket := rest } }
  | read (since : Nat) (bytes : Bytes) (rest : List Incoming) (count : Nat)
      (hp : l.reader.phase = .reading since) :
      ReadMove l [.read bytes]
        { l with reader := ⟨.holding (l.pipeline.inbound bytes), rest, count⟩ }
  | eof (since : Nat) (hp : l.reader.phase = .reading since) :
      ReadMove l [.eof] (l.stopped none)
  | failed (since : Nat) (e : NetError) (hp : l.reader.phase = .reading since) :
      ReadMove l [.failed e] { l.stopped (some e) with status := l.status.markClosing }
  | accepted (chunk : Bytes) (left : Nat) (hp : l.reader.phase = .holding chunk)
      (ht : takeOne? l.bridge.demand = some left) :
      ReadMove l [.accepted chunk]
        { l with
          reader := { l.reader with phase := .waiting }
          bridge := l.bridge.accepting chunk left }
  | discarded (chunk : Bytes) (hp : l.reader.phase = .holding chunk)
      (ha : l.bridge.abandoned = true) : ReadMove l [.discarded chunk] (l.stopped none)
  | closed (hp : l.reader.held = []) (halive : l.reader.isAlive = true)
      (ha : l.bridge.abandoned = true) : ReadMove l [] (l.stopped none)

theorem held_of_reading {r : Reader} {since : Nat} (hp : r.phase = .reading since) :
    r.held = [] := by
  unfold Reader.held
  rw [hp]

theorem length_held_le (r : Reader) : r.held.length ≤ 1 := by
  unfold Reader.held
  cases r.phase with
  | holding _ => exact Nat.le_refl 1
  | waiting | reading _ | stopped => exact Nat.zero_le 1

theorem alive_of_phase {r : Reader} {p : ReaderPhase} (hp : r.phase = p) (hne : p ≠ .stopped) :
    r.isAlive = true := by
  unfold Reader.isAlive
  rw [hp]
  exact bne_iff_ne.2 hne

section Moves

variable {l : Link} {s : Account Bytes}

theorem read_end_move (since : Nat) (hp : l.reader.phase = .reading since)
    (hopen : l.bridge.readEnd ≠ .dropped) :
    ReadMove l ((l.reader.readResult? l.readerView since).elim [] ReadResult.inflow)
      (l.withReader
        ((l.reader.readResult? l.readerView since).map (l.reader.conclude l.readerView l.bridge)))
    := by
  cases hresult : l.reader.readResult? l.readerView since with
  | none => exact .waits
  | some r =>
      cases r with
      | chunk bytes rest => exact .read since bytes rest _ hp
      | nothing rest => exact .nothing since rest hp
      | eof =>
          have hmove := ReadMove.eof since hp
          unfold Link.stopped at hmove
          rw [← Bridge.finish_eq] at hmove
          exact hmove
      | failed e =>
          have hmove := ReadMove.failed since (.ofIo e) hp
          unfold Link.stopped at hmove
          rw [← Bridge.finishWith_of_open _ _ hopen] at hmove
          exact hmove

theorem readOn_move (hopen : l.reader.isAlive = true → l.bridge.readEnd ≠ .dropped) :
    ReadMove l (l.inflow .readOn) (l.turn .readOn) := by
  unfold Link.inflow Link.turn Reader.readInflow Reader.readOn
  dsimp only
  cases hp : l.reader.phase with
  | reading since =>
      exact read_end_move since hp (hopen (alive_of_phase hp (by rintro ⟨⟩)))
  | waiting | holding _ | stopped => exact .waits

theorem read_move (hopen : l.reader.isAlive = true →
      l.bridge.readEnd ≠ .dropped ∧ l.bridge.terminated = false) :
    ReadMove l (l.inflow .read) (l.turn .read) := by
  have habandoned : l.reader.isAlive = true → l.bridge.isClosed = l.bridge.abandoned :=
    fun halive => by
      unfold Bridge.isClosed
      rw [(hopen halive).2, Bool.false_or]
  have hstop : l.reader.held = [] → l.reader.isAlive = true → l.bridge.isClosed = true →
      ReadMove l [] (l.withReader (some (l.reader.stop l.readerView l.bridge))) := by
    intro hheld halive hclosed
    have hmove := ReadMove.closed hheld halive ((habandoned halive).symm.trans hclosed)
    unfold Link.stopped at hmove
    rwa [← Bridge.finish_eq] at hmove
  unfold Link.inflow Link.turn Reader.inflow Reader.advance
  dsimp only
  cases hp : l.reader.phase with
  | stopped => exact .waits
  | waiting =>
      have halive := alive_of_phase hp (by rintro ⟨⟩)
      dsimp only
      unfold Bridge.readiness?
      by_cases hclosed : l.bridge.isClosed = true
      · rw [if_pos hclosed, if_neg (by rintro ⟨⟩)]
        exact hstop (by unfold Reader.held; rw [hp]) halive hclosed
      · rw [if_neg hclosed]
        by_cases hdemand : l.bridge.demand = 0
        · rw [if_pos hdemand, if_neg (by rintro ⟨⟩)]
          exact .waits
        · rw [if_neg hdemand, if_pos rfl]
          exact .began hp (Nat.pos_of_ne_zero hdemand) (Bool.eq_false_iff.2 hclosed)
  | reading since =>
      have halive := alive_of_phase hp (by rintro ⟨⟩)
      dsimp only
      by_cases hclosed : l.bridge.isClosed = true
      · rw [if_pos hclosed, if_pos hclosed]
        exact hstop (held_of_reading hp) halive hclosed
      · rw [if_neg hclosed, if_neg hclosed]
        unfold Reader.readInflow
        rw [hp]
        exact read_end_move since hp (hopen halive).1
  | holding chunk =>
      have halive := alive_of_phase hp (by rintro ⟨⟩)
      dsimp only
      rw [Bridge.deliver_of_open _ chunk (hopen halive).1 (hopen halive).2]
      by_cases ha : l.bridge.abandoned = true
      · rw [if_pos ha]
        have hmove := ReadMove.discarded chunk hp ha
        unfold Link.stopped at hmove
        rwa [← Bridge.finish_eq] at hmove
      · rw [if_neg ha]
        cases htake : takeOne? l.bridge.demand with
        | none => exact .waits
        | some left => exact .accepted chunk left hp htake

end Moves

/-! ### What every turn keeps -/

/-- How the reader stands, and how that shows. -/
inductive Standing (l : Link) (h : List Inflow) : Prop
  | running (halive : l.reader.isAlive = true) (heof : .eof ∉ h) (hnone : discardedOf h = [])
  | atEnd (hstop : l.reader.isAlive = false) (hfail : (account h).failures = [])
      (hnone : discardedOf h = [])
  | failed (e : NetError) (hstop : l.reader.isAlive = false) (heof : .eof ∉ h)
      (hfail : (account h).failures = [e]) (hnone : discardedOf h = [])
      (hstatus : l.status ≠ .opened)
  /-- Its bridge was abandoned, and it may have thrown away what it held. -/
  | closed (hstop : l.reader.isAlive = false) (heof : .eof ∉ h)
      (hfail : (account h).failures = []) (hone : (discardedOf h).length ≤ 1)
      (ha : l.bridge.abandoned = true)

/-- What relates a link to the history of its reading side. -/
structure Inflowing (l : Link) (h : List Inflow) : Prop where
  hosted : Hosted l.bridge l.consumer l.reader.isAlive (account h)
  reads : (readsOf h).map l.pipeline.inbound =
    (account h).accepted ++ l.reader.held ++ discardedOf h
  standing : Standing l h

theorem inflowing_start (pipeline : Pipeline) (window : Flow.Window) (idleLimit : Option Nat)
    (sink : Sink) : Inflowing (Link.start pipeline window idleLimit sink) [] :=
  ⟨Hosted.start, rfl, .running rfl List.not_mem_nil rfl⟩

-- A turn of anybody but the reader. The consumer may look, and the bridge may be
-- abandoned.
theorem Inflowing.still {l l' : Link} {h : List Inflow} (hi : Inflowing l h) (es : List Inflow)
    (hes : es = [] ∨ ∃ p, es = [.polled p]) (hphase : l'.reader.phase = l.reader.phase)
    (hpipeline : l'.pipeline = l.pipeline) (hstatus : l.status ≠ .opened → l'.status ≠ .opened)
    (ha : l.bridge.abandoned = true → l'.bridge.abandoned = true)
    (hhosted : Hosted l'.bridge l'.consumer l.reader.isAlive (account (h ++ es))) :
    Inflowing l' (h ++ es) := by
  have halive : l'.reader.isAlive = l.reader.isAlive := by
    unfold Reader.isAlive
    rw [hphase]
  have hheld : l'.reader.held = l.reader.held := by
    unfold Reader.held
    rw [hphase]
  have hquiet : readsOf es = [] ∧ discardedOf es = [] ∧ .eof ∉ es ∧
      (account (h ++ es)).accepted = (account h).accepted ∧
      (account (h ++ es)).failures = (account h).failures := by
    rw [account_append]
    rcases hes with rfl | ⟨p, rfl⟩
    · exact ⟨rfl, rfl, List.not_mem_nil, rfl, rfl⟩
    · refine ⟨rfl, rfl, fun hmem => ?_, rfl, rfl⟩
      cases List.mem_singleton.1 hmem
  rcases hquiet with ⟨hreads, hdiscarded, hnoeof, haccepted, hfailures⟩
  have hsame : discardedOf (h ++ es) = discardedOf h := by
    rw [discardedOf_append, hdiscarded, List.append_nil]
  have heofs : .eof ∉ h → .eof ∉ h ++ es := fun heof hmem =>
    (List.mem_append.1 hmem).elim heof hnoeof
  refine ⟨by rw [halive]; exact hhosted, ?_, ?_⟩
  · rw [readsOf_append, hreads, List.append_nil, hpipeline, haccepted, hheld, hsame]
    exact hi.reads
  · cases hi.standing with
    | running halive' heof hnone =>
        exact .running (halive.trans halive') (heofs heof) (hsame.trans hnone)
    | atEnd hstop hfail hnone =>
        exact .atEnd (halive.trans hstop) (hfailures.trans hfail) (hsame.trans hnone)
    | failed e hstop heof hfail hnone hstat =>
        exact .failed e (halive.trans hstop) (heofs heof) (hfailures.trans hfail)
          (hsame.trans hnone) (hstatus hstat)
    | closed hstop heof hfail hone hab =>
        exact .closed (halive.trans hstop) (heofs heof) (hfailures.trans hfail)
          (hsame ▸ hone) (ha hab)

-- While the reader runs nothing has ended.
theorem Inflowing.alive {l : Link} {h : List Inflow} (hi : Inflowing l h)
    (halive : l.reader.isAlive = true) :
    .eof ∉ h ∧ discardedOf h = [] ∧ Hosted l.bridge l.consumer true (account h) ∧
      (account h).failures = [] := by
  have hhosted := hi.hosted
  rw [halive] at hhosted
  cases hi.standing with
  | running _ heof hnone => exact ⟨heof, hnone, hhosted, hhosted.running⟩
  | atEnd hstop _ _ | failed _ hstop _ _ _ _ | closed hstop _ _ _ _ =>
      rw [hstop] at halive
      cases halive

-- The chunk in the hands of a reader that stops is thrown away, and nothing else.
theorem Inflowing.stop {l : Link} {h : List Inflow} (hi : Inflowing l h)
    (halive : l.reader.isAlive = true) (e : Option NetError) (status : Status)
    (es : List Inflow) (hreads : readsOf es = [])
    (hdiscarded : discardedOf es = l.reader.held)
    (haccount : account (h ++ es) = (account h).conclude e)
    (hstanding : Standing { l.stopped e with status } (h ++ es)) :
    Inflowing { l.stopped e with status } (h ++ es) := by
  rcases hi.alive halive with ⟨_, hnone, hhosted, _⟩
  refine ⟨by rw [haccount]; exact hhosted.conclude e, ?_, hstanding⟩
  have hheld : Reader.held { l.stopped e with status }.reader = [] := rfl
  rw [readsOf_append, hreads, List.append_nil, discardedOf_append, hdiscarded, hnone, haccount,
    hheld, List.append_nil, List.nil_append]
  change _ = (account h).accepted ++ l.reader.held
  rw [← List.append_nil (_ ++ _), ← hnone]
  exact hi.reads

-- A reader that goes on has thrown nothing away.
theorem Inflowing.goOn {l l' : Link} {h : List Inflow} (hi : Inflowing l h)
    (halive : l.reader.isAlive = true) (halive' : l'.reader.isAlive = true) (es : List Inflow)
    (heof : .eof ∉ es) (hdiscarded : discardedOf es = [])
    (hhosted : Hosted l'.bridge l'.consumer true (account (h ++ es)))
    (hreads : (readsOf h ++ readsOf es).map l'.pipeline.inbound =
      (account (h ++ es)).accepted ++ l'.reader.held) : Inflowing l' (h ++ es) := by
  rcases hi.alive halive with ⟨hnoeof, hnone, _, _⟩
  have hsame : discardedOf (h ++ es) = [] := by
    rw [discardedOf_append, hnone, hdiscarded]
    rfl
  refine ⟨by rw [halive']; exact hhosted, ?_, .running halive' (fun hmem => ?_) hsame⟩
  · rw [readsOf_append, hsame, List.append_nil]
    exact hreads
  · exact (List.mem_append.1 hmem).elim hnoeof heof

-- The three ways a reader stops: at the end of its stream, at an error, and when its bridge
-- was abandoned.
section Stops

variable {l : Link} {h : List Inflow} {since : Nat}

theorem Inflowing.atEnd (hi : Inflowing l h) (hp : l.reader.phase = .reading since) :
    Inflowing (l.stopped none) (h ++ [.eof]) := by
  have halive := alive_of_phase hp (by rintro ⟨⟩)
  rcases hi.alive halive with ⟨_, hnone, _, hfail⟩
  refine hi.stop halive none l.status [.eof] rfl (held_of_reading hp).symm ?_ ?_
  · rw [account_append, Account.conclude_none]
    rfl
  · refine .atEnd rfl ?_ ?_
    · rw [account_append]
      exact hfail
    · rw [discardedOf_append, hnone]
      rfl

theorem Inflowing.atError (hi : Inflowing l h) (e : NetError)
    (hp : l.reader.phase = .reading since) :
    Inflowing { l.stopped (some e) with status := l.status.markClosing } (h ++ [.failed e]) := by
  have halive := alive_of_phase hp (by rintro ⟨⟩)
  rcases hi.alive halive with ⟨hnoeof, hnone, _, hfail⟩
  have haccount : account (h ++ [.failed e]) = (account h).conclude (some e) :=
    account_append h _
  refine hi.stop halive (some e) _ [.failed e] rfl (held_of_reading hp).symm haccount ?_
  refine .failed e rfl (fun hmem => ?_) ?_ ?_ l.status.markClosing_ne_opened
  · rcases List.mem_append.1 hmem with hold | hnew
    · exact hnoeof hold
    · cases List.mem_singleton.1 hnew
  · rw [haccount]
    change (account h).failures ++ [e] = [e]
    rw [hfail]
    rfl
  · rw [discardedOf_append, hnone]
    rfl

theorem Inflowing.atClose (hi : Inflowing l h) (halive : l.reader.isAlive = true)
    (ha : l.bridge.abandoned = true) (es : List Inflow) (hreads : readsOf es = [])
    (heof : .eof ∉ es) (hdiscarded : discardedOf es = l.reader.held)
    (haccount : account (h ++ es) = account h) : Inflowing (l.stopped none) (h ++ es) := by
  rcases hi.alive halive with ⟨hnoeof, hnone, _, hfail⟩
  refine hi.stop halive none l.status es hreads hdiscarded ?_ ?_
  · rw [haccount, Account.conclude_none]
  · refine .closed rfl (fun hmem => (List.mem_append.1 hmem).elim hnoeof heof) ?_ ?_ ha
    · rw [haccount]
      exact hfail
    · rw [discardedOf_append, hnone, List.nil_append, hdiscarded]
      exact length_held_le l.reader

end Stops

theorem inflowing_move {l l' : Link} {h es : List Inflow} (hi : Inflowing l h)
    (hmove : ReadMove l es l') : Inflowing l' (h ++ es) := by
  have hreads : l.reader.isAlive = true →
      (readsOf h).map l.pipeline.inbound = (account h).accepted ++ l.reader.held := by
    intro halive
    have hall := hi.reads
    rwa [(hi.alive halive).2.1, List.append_nil] at hall
  cases hmove with
  | waits =>
      rw [List.append_nil]
      exact hi
  | began hp _ _ =>
      have halive := alive_of_phase hp (by rintro ⟨⟩)
      refine hi.goOn halive rfl [.began] (by rintro (_ | ⟨_, ⟨⟩⟩)) rfl ?_ ?_
      · rw [account_append]
        exact (hi.alive halive).2.2.1
      · have hheld : l.reader.held = [] := by
          unfold Reader.held
          rw [hp]
        have hall := hreads halive
        rw [hheld] at hall
        rw [account_append]
        exact (congrArg _ (List.append_nil _)).trans hall
  | nothing since rest hp =>
      have halive := alive_of_phase hp (by rintro ⟨⟩)
      refine hi.goOn halive (by exact halive) [] List.not_mem_nil rfl ?_ ?_
      · rw [List.append_nil]
        exact (hi.alive halive).2.2.1
      · rw [List.append_nil]
        exact (congrArg _ (List.append_nil _)).trans (hreads halive)
  | read since bytes rest count hp =>
      have halive := alive_of_phase hp (by rintro ⟨⟩)
      have hall := hreads halive
      rw [held_of_reading hp, List.append_nil] at hall
      refine hi.goOn halive rfl [.read bytes] (by rintro (_ | ⟨_, ⟨⟩⟩)) rfl ?_ ?_
      · rw [account_append]
        exact (hi.alive halive).2.2.1
      · rw [account_append, List.map_append]
        change (readsOf h).map l.pipeline.inbound ++ _ = _
        rw [hall]
        rfl
  | accepted chunk left hp ht =>
      have halive := alive_of_phase hp (by rintro ⟨⟩)
      have hall := hreads halive
      unfold Reader.held at hall
      rw [hp] at hall
      refine hi.goOn halive rfl [.accepted chunk] (by rintro (_ | ⟨_, ⟨⟩⟩)) rfl ?_ ?_
      · rw [account_append]
        exact (hi.alive halive).2.2.1.accept chunk left ht
      · rw [account_append]
        exact (congrArg _ (List.append_nil _)).trans (hall.trans (List.append_nil _).symm)
  | eof since hp => exact hi.atEnd hp
  | failed since e hp => exact hi.atError e hp
  | discarded chunk hp ha =>
      have hheld : l.reader.held = [chunk] := by
        unfold Reader.held
        rw [hp]
      refine hi.atClose (alive_of_phase hp (by rintro ⟨⟩)) ha [.discarded chunk] rfl
        (by rintro (_ | ⟨_, ⟨⟩⟩)) hheld.symm ?_
      rw [account_append]
      rfl
  | closed hheld halive ha =>
      exact hi.atClose halive ha [] rfl List.not_mem_nil hheld.symm (by rw [List.append_nil])

-- A turn of the consumer, which leaves the reader alone.
theorem Inflowing.consume {l l' : Link} {h : List Inflow} (hi : Inflowing l h)
    (bridge : Bridge Bytes) (consumer : Option Consumer)
    (hl : l' = { l with bridge, consumer }) (es : List Inflow)
    (hes : es = [] ∨ ∃ p, es = [.polled p])
    (ha : l.bridge.abandoned = true → bridge.abandoned = true)
    (hhosted : Hosted bridge consumer l.reader.isAlive (account (h ++ es))) :
    Inflowing l' (h ++ es) := by
  subst hl
  exact hi.still es hes rfl rfl id ha hhosted

theorem inflowing_turn (l : Link) (h : List Inflow) (t : Turn) (hi : Inflowing l h) :
    Inflowing (l.turn t) (h ++ l.inflow t) := by
  have hhosted := hi.hosted
  have hquiet : Hosted l.bridge l.consumer l.reader.isAlive (account (h ++ [])) := by
    rw [List.append_nil]
    exact hhosted
  have hopen : l.reader.isAlive = true → l.bridge.readEnd ≠ .dropped ∧
      l.bridge.terminated = false := fun halive => (hi.alive halive).2.2.1.isOpen
  cases t with
  | arrive _ | pass _ | submit _ | release | block _ =>
      exact hi.still [] (.inl rfl) rfl rfl id id hquiet
  | markClosing | markClosed =>
      exact hi.still [] (.inl rfl) rfl rfl (fun hs => l.status_turn _ hs) id hquiet
  | write =>
      have hstatus := l.status_turn .write
      unfold Link.inflow
      unfold Link.turn at hstatus ⊢
      dsimp only at hstatus ⊢
      cases hstep : l.writer.advance l.writerView l.sink with
      | none => exact hi.still [] (.inl rfl) rfl rfl id id hquiet
      | some next =>
          rw [hstep] at hstatus
          exact hi.still [] (.inl rfl) rfl rfl hstatus id hquiet
  | read => exact inflowing_move hi (read_move hopen)
  | readOn => exact inflowing_move hi (readOn_move fun halive => (hopen halive).1)
  | abandon =>
      refine hi.consume l.bridge.abandon l.consumer rfl [] (.inl rfl) (fun _ => rfl) ?_
      exact hquiet.abandon
  | attach mode =>
      unfold Link.inflow Link.turn Link.attach
      dsimp only
      cases hattach : l.bridge.attach mode with
      | error e => exact hi.still [] (.inl rfl) rfl rfl id id hquiet
      | ok r =>
          exact hi.consume r.2 (some r.1) rfl [] (.inl rfl)
            (l.bridge.attach_abandoned mode r.1 r.2 hattach).trans
            (hquiet.attach mode r.1 r.2 hattach)
  | request n =>
      unfold Link.inflow Link.turn Link.request
      dsimp only
      cases hc : l.consumer with
      | none => exact hi.still [] (.inl rfl) rfl rfl id id hquiet
      | some c =>
          rw [hc] at hquiet
          exact hi.consume (l.bridge.request c n) (some c) rfl [] (.inl rfl)
            (l.bridge.request_abandoned c n).trans (hquiet.request n)
  | poll =>
      unfold Link.inflow Link.turn Link.poll
      dsimp only
      cases hc : l.consumer with
      | none => exact hi.still [] (.inl rfl) rfl rfl id id hquiet
      | some c =>
          rw [hc] at hhosted
          refine hi.consume (l.bridge.poll c).2.2 (some (l.bridge.poll c).2.1) rfl _
            (.inr ⟨_, rfl⟩) (l.bridge.poll_abandoned c).trans ?_
          rw [account_append]
          exact hhosted.poll
  | cancel =>
      unfold Link.inflow Link.turn Link.cancel
      dsimp only
      cases hc : l.consumer with
      | none => exact hi.still [] (.inl rfl) rfl rfl id id hquiet
      | some c =>
          rw [hc] at hquiet
          exact hi.consume (l.bridge.detach c) none rfl [] (.inl rfl)
            (l.bridge.detach_abandoned c).trans hquiet.detach

/-! ### The input as a whole -/

theorem failures_account (h : List Inflow) :
    (account h).failures = h.filterMap fun
      | .failed e => some e
      | _ => none := by
  have hfold : ∀ (h : List Inflow) (s : Account Bytes),
      (h.foldl Inflow.enter s).failures = s.failures ++ h.filterMap fun
        | .failed e => some e
        | _ => none := by
    intro h
    induction h with
    | nil => exact fun s => (List.append_nil _).symm
    | cons i rest ih =>
        intro s
        rw [List.foldl_cons, ih]
        cases i with
        | failed e => exact List.append_assoc s.failures [e] _
        | began | read _ | eof | accepted _ | discarded _ | polled _ => rfl
  exact hfold h .empty

theorem mem_inflow_poll {l : Link} {p : Poll Bytes} (hp : .polled p ∈ l.inflow .poll) :
    ∃ c, l.consumer = some c ∧ p = (l.bridge.poll c).1 := by
  unfold Link.inflow Link.poll at hp
  dsimp only at hp
  cases hc : l.consumer with
  | none =>
      rw [hc] at hp
      cases hp
  | some c =>
      rw [hc] at hp
      cases List.mem_singleton.1 hp
      exact ⟨c, rfl, rfl⟩

-- What is seen of a turn is the look of a consumer or comes from the reader.
theorem mem_inflow {l : Link} {h : List Inflow} (hi : Inflowing l h) {t : Turn} {i : Inflow}
    (hmem : i ∈ l.inflow t) :
    (∃ p, i = .polled p) ∨ ∃ es, i ∈ es ∧ ReadMove l es (l.turn t) := by
  have hopen : l.reader.isAlive = true → l.bridge.readEnd ≠ .dropped ∧
      l.bridge.terminated = false := fun halive => (hi.alive halive).2.2.1.isOpen
  cases t with
  | poll =>
      unfold Link.inflow at hmem
      dsimp only at hmem
      cases hpoll : l.poll with
      | none =>
          rw [hpoll] at hmem
          cases hmem
      | some r =>
          rw [hpoll] at hmem
          exact .inl ⟨r.1, List.mem_singleton.1 hmem⟩
  | read => exact .inr ⟨_, hmem, read_move hopen⟩
  | readOn => exact .inr ⟨_, hmem, readOn_move fun halive => (hopen halive).1⟩
  | arrive _ | pass _ | attach _ | request _ | cancel | abandon | submit _ | release
  | markClosing | markClosed | block _ | write => cases hmem

theorem read_wanted {l : Link} {h : List Inflow} (hi : Inflowing l h) {t : Turn}
    (ht : .began ∈ l.inflow t) :
    l.reader.held = [] ∧ 0 < l.bridge.demand ∧ l.bridge.isClosed = false := by
  rcases mem_inflow hi ht with ⟨p, hp⟩ | ⟨es, hmem, hmove⟩
  · cases hp
  · generalize l.turn t = l' at hmove
    cases hmove with
    | began hp hd hc =>
        refine ⟨?_, hd, hc⟩
        unfold Reader.held
        rw [hp]
    | waits | nothing _ _ _ | closed _ _ _ => cases hmem
    | read _ _ _ _ _ | eof _ _ | failed _ _ _ | accepted _ _ _ _ | discarded _ _ _ =>
        cases List.mem_singleton.1 hmem

theorem failed_read_closes {l : Link} {h : List Inflow} (hi : Inflowing l h) {t : Turn}
    {e : NetError} (ht : .failed e ∈ l.inflow t) : (l.turn t).status = l.status.markClosing := by
  rcases mem_inflow hi ht with ⟨p, hp⟩ | ⟨es, hmem, hmove⟩
  · cases hp
  · generalize l.turn t = l' at hmove
    cases hmove with
    | failed _ _ _ => rfl
    | waits | nothing _ _ _ | closed _ _ _ => cases hmem
    | began _ _ _ | read _ _ _ _ _ | eof _ _ | accepted _ _ _ _ | discarded _ _ _ =>
        cases List.mem_singleton.1 hmem

theorem held_of_stopped {r : Reader} (hstop : r.isAlive = false) : r.held = [] := by
  unfold Reader.held
  split
  · rename_i hp
    rw [alive_of_phase hp (by rintro ⟨⟩)] at hstop
    cases hstop
  · rfl

section Whole

variable {l : Link} {h : List Inflow}

theorem Inflowing.conserved (hi : Inflowing l h) :
    (readsOf h).map l.pipeline.inbound =
        (account h).yielded ++ l.bridge.items ++ l.reader.held ++ discardedOf h ∧
      l.reader.held.length + (discardedOf h).length ≤ 1 := by
  refine ⟨by rw [hi.reads, hi.hosted.order], ?_⟩
  have hheld : l.reader.held.length ≤ 1 := by
    unfold Reader.held
    split
    · exact Nat.le_refl 1
    · exact Nat.zero_le 1
  cases hi.standing with
  | running _ _ hnone | atEnd _ _ hnone | failed _ _ _ _ hnone _ =>
      rw [hnone]
      exact hheld
  | closed hstop _ _ hone _ =>
      rw [held_of_stopped hstop, List.length_nil, Nat.zero_add]
      exact hone

-- What a look brings, once it is known how the reader stands.
theorem Inflowing.look (hi : Inflowing l h) {p : Poll Bytes} (hp : .polled p ∈ l.inflow .poll) :
    p = (account h).next l.bridge.items l.reader.isAlive := by
  rcases mem_inflow_poll hp with ⟨c, hc, rfl⟩
  have hhosted := hi.hosted
  rw [hc] at hhosted
  exact hhosted.poll_eq

theorem Inflowing.afterEof (hi : Inflowing l h) (heof : .eof ∈ h) :
    l.reader.isAlive = false ∧ discardedOf h = [] ∧ (account h).failures = [] := by
  cases hi.standing with
  | atEnd hstop hfail hnone => exact ⟨hstop, hnone, hfail⟩
  | running _ hno _ | failed _ _ hno _ _ _ | closed _ hno _ _ _ => exact absurd heof hno

theorem Inflowing.afterFailure (hi : Inflowing l h) {e : NetError} (hmem : .failed e ∈ h) :
    l.reader.isAlive = false ∧ discardedOf h = [] ∧ (account h).failures = [e] ∧
      l.status ≠ .opened := by
  have he : e ∈ (account h).failures := by
    rw [failures_account]
    exact List.mem_filterMap.2 ⟨_, hmem, rfl⟩
  cases hi.standing with
  | running halive _ _ =>
      rw [(hi.alive halive).2.2.2] at he
      cases he
  | atEnd _ hfail _ | closed _ _ hfail _ _ =>
      rw [hfail] at he
      cases he
  | failed e' hstop _ hfail hnone hstatus =>
      rw [hfail] at he
      cases List.mem_singleton.1 he
      exact ⟨hstop, hnone, hfail, hstatus⟩

theorem Inflowing.abandoned (hi : Inflowing l h) (hne : discardedOf h ≠ []) :
    l.bridge.abandoned = true := by
  cases hi.standing with
  | running _ _ hnone | atEnd _ _ hnone | failed _ _ _ _ hnone _ => exact absurd hnone hne
  | closed _ _ _ _ ha => exact ha

end Whole

-- The chunks that were read are those that consumers received, those still queued, the
-- one that the reader holds and the one that it threw away, of which there is one at
-- most. The end of the data is told of after all of them, and so is a failure, which is
-- told of once.
theorem chunks_in_order_and_one_end (pipeline : Pipeline) (window : Flow.Window)
    (idleLimit : Option Nat) (sink : Sink) (ts : List Turn) :
    let l := (Link.start pipeline window idleLimit sink).after ts
    let h := (Link.start pipeline window idleLimit sink).watch Link.inflow ts
    let looks (p : Poll Bytes) : Prop := .polled p ∈ l.inflow .poll
    let queued : List (Poll Bytes) := l.bridge.items.map .item
    (readsOf h).map pipeline.inbound =
        (account h).yielded ++ l.bridge.items ++ l.reader.held ++ discardedOf h ∧
      l.reader.held.length + (discardedOf h).length ≤ 1 ∧
      (∀ t, .began ∈ l.inflow t →
        l.reader.held = [] ∧ 0 < l.bridge.demand ∧ l.bridge.isClosed = false) ∧
      (∀ p, looks p → p.isTerminal = true →
        (readsOf h).map pipeline.inbound = (account h).yielded ++ discardedOf h) ∧
      (l.reader.isAlive = true → ∀ p, looks p → p = queued.headD .pending) ∧
      (.eof ∈ h → discardedOf h = [] ∧ ∀ p, looks p → p = queued.headD .ended) ∧
      (∀ e, .failed e ∈ h →
        discardedOf h = [] ∧ l.status ≠ .opened ∧ (account h).failures = [e] ∧
          ∀ p, looks p → p = queued.headD
            (if (account h).terminals.isEmpty then .failed e else .ended)) ∧
      (∀ t e, .failed e ∈ l.inflow t → (l.turn t).status = l.status.markClosing) ∧
      ((account h).terminals = [] ∨ ∃ k, (account h).terminals =
        (account h).failures.map .failed ++ List.replicate k .ended) ∧
      (discardedOf h ≠ [] → l.bridge.abandoned = true) := by
  intro l h looks queued
  have hi : Inflowing l h := Schedule.invariant_after inflowing_turn _ []
    (inflowing_start pipeline window idleLimit sink) ts
  have hpipeline : l.pipeline = pipeline := Link.pipeline_after _ ts
  rcases hi.conserved with ⟨horder, hone⟩
  rw [hpipeline] at horder
  refine ⟨horder, hone, fun t ht => read_wanted hi ht, fun p hp hterminal => ?_,
    fun halive p hp => ?_, fun heof => ?_, fun e he => ?_, fun t e ht => failed_read_closes hi ht,
    hi.hosted.terminals_eq, hi.abandoned⟩
  · rw [hi.look hp] at hterminal
    rcases Account.next_terminal _ _ _ hterminal with ⟨hitems, hstop⟩
    rw [horder, hitems, held_of_stopped hstop, List.append_nil, List.append_nil]
  · rw [hi.look hp, halive, Account.next_of_present]
  · rcases hi.afterEof heof with ⟨hstop, hnone, hfail⟩
    refine ⟨hnone, fun p hp => ?_⟩
    rw [hi.look hp, hstop, Account.next_of_ended _ _ hfail]
  · rcases hi.afterFailure he with ⟨hstop, hnone, hfail, hstatus⟩
    refine ⟨hnone, hstatus, hfail, fun p hp => ?_⟩
    rw [hi.look hp, hstop, Account.next_of_failed _ _ e hfail]

/-- A consumer leaves while a read is under way; the chunk waits for the next one. -/
example : (account ((Link.start [] (.bounded 1) none .reliable).watch Link.inflow
    [.attach (.window (.bounded 1)), .poll, .read, .cancel, .arrive (.data [1, 2]), .read, .read,
      .attach .manual, .request 1, .poll, .read, .poll])).yielded = [[1, 2]] := by
  rfl

end Connection

end DemandNet
