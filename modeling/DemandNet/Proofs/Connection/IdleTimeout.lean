import DemandNet.Proofs.Connection.Inflow

/-!
# The Idle Limit

When a connection finds that a read took too long.

The limit is that of one read. It begins to run with the read, which begins only while an
item is wanted, and whatever else happens it runs on until the read comes to its end. So
when it has passed no byte has arrived since, and items were wanted for as long as the
consumer stayed. A consumer that leaves takes its demand with it, but neither ends the read
nor stops its clock: the connection may then be closed while nobody wants anything from it.
It is safe if no read was under way when the demand went away.

The argument is about the moments of a schedule, the links that its turns find. `Pending`
says what holds of all moments since a read began, and every turn keeps it until the read
ends.

## Main definitions

* `Link.moment`: What is seen of a turn is the link that it finds.
* `Link.timesOut`: A turn finds that a read took too long.
* `isLeaving`: A consumer leaves at this moment.
* `arrivalsIn`: What arrived on the socket.
* `Pending`: What holds since a read began.
* `Told`: The history tells of the read that is under way.

## Theorems

* `reading_turn`: A read begins where an item is wanted, and goes on until it ends.
* `timesOut_cases`: A turn that finds the limit passed finds an empty socket.
* `told_after`: What holds while a read is under way.
* `idle_timeout_of_wanted_read`: Which reads take too long.
* `paused_read_times_out`: One of them takes too long while nothing is wanted.
-/

namespace DemandNet

namespace Connection

open DemandNet.Flow (Bridge Look grant unbounded)

/-- What is seen of a turn is the link that it finds. -/
def Link.moment (l : Link) (t : Turn) : List (Link × Turn) := [(l, t)]

/-- A turn finds that a read took too long. -/
def Link.timesOut (l : Link) (t : Turn) : Prop :=
  .failed (.ofIo Reader.idleTimeout) ∈ l.inflow t

/-- A consumer leaves at this moment. -/
def isLeaving (m : Link × Turn) : Bool := m.1.consumer.isSome && decide (m.2 = .cancel)

/-- There are no bytes in what arrived, and it is not the end. -/
def Incoming.isBlank : Incoming → Bool
  | .data bytes => bytes.isEmpty
  | .eof | .failure _ => false

/-- What has arrived on a socket and matters to its reader. -/
def weighty (is : List Incoming) : List Incoming := is.filter fun i => !i.isBlank

/-- What arrives in a turn. -/
def Turn.arrived? : Turn → Option Incoming
  | .arrive i => some i
  | _ => none

/-- What arrived on the socket. -/
def arrivalsIn (ms : List (Link × Turn)) : List Incoming := ms.filterMap fun m => m.2.arrived?

theorem weighty_append (is js : List Incoming) : weighty (is ++ js) = weighty is ++ weighty js :=
  List.filter_append _ _

theorem weighty_blank {bytes : Bytes} (h : bytes.isEmpty = true) (rest : List Incoming) :
    weighty (.data bytes :: rest) = weighty rest := by
  unfold weighty
  rw [List.filter_cons, if_neg (by simp only [Incoming.isBlank, h, Bool.not_true,
    Bool.false_eq_true, not_false_eq_true])]

theorem blank_of_weighty {is : List Incoming} (h : weighty is = []) :
    ∀ i ∈ is, i.isBlank = true := by
  intro i hi
  have hblank := List.filter_eq_nil_iff.1 h i hi
  simpa only [Bool.not_eq_true, Bool.not_eq_false'] using hblank

theorem arrivalsIn_concat (ms : List (Link × Turn)) (l : Link) (t : Turn) :
    arrivalsIn (ms ++ [(l, t)]) = arrivalsIn ms ++ t.arrived?.toList := by
  unfold arrivalsIn
  rw [List.filterMap_append]
  cases ht : t.arrived? <;> simp only [List.filterMap_cons, List.filterMap_nil, ht,
    Option.toList_none, Option.toList_some]

/-! ### Demand -/

theorem grant_pos {d : Nat} (n : Nat) (hd : 0 < d) : 0 < grant d n := by
  by_cases h : d + n < unbounded
  · rw [Flow.grant_of_lt d n h]
    omega
  · rw [Flow.grant_of_le d n (by omega)]
    unfold unbounded
    omega

theorem foldl_grant_pos (gs : List Nat) : ∀ d : Nat, 0 < d → 0 < gs.foldl grant d := by
  induction gs with
  | nil => exact fun d hd => hd
  | cons g rest ih => exact fun d hd => ih _ (grant_pos g hd)

/-! ### What a turn does to a read -/

/-- A turn in which a read goes on. Nothing of what arrived is lost, and as long as the
    consumer stays there is demand. -/
structure Link.GoesOn (l : Link) (t : Turn) : Prop where
  socket : weighty (l.turn t).reader.socket = weighty (l.reader.socket ++ t.arrived?.toList)
  demand : 0 < l.bridge.demand → isLeaving (l, t) = false → 0 < (l.turn t).bridge.demand

section Turns

variable {l : Link} {t : Turn} {since : Nat}

-- A turn that does not touch the reader.
theorem goesOn_aside (hnone : t.arrived? = none) (hreader : (l.turn t).reader = l.reader)
    (hdemand : 0 < l.bridge.demand → isLeaving (l, t) = false → 0 < (l.turn t).bridge.demand) :
    l.GoesOn t := by
  refine ⟨?_, hdemand⟩
  rw [hnone, hreader, Option.toList_none, List.append_nil]

theorem attach_aside (l : Link) (mode : Flow.Mode) :
    (l.turn (.attach mode)).reader = l.reader ∧
      (l.turn (.attach mode)).bridge.demand = l.bridge.demand := by
  unfold Link.turn Link.attach Bridge.attach
  dsimp only
  by_cases ha : l.bridge.attached = true
  · rw [if_pos ha]
    exact ⟨rfl, rfl⟩
  · rw [if_neg ha]
    cases l.bridge.readEnd <;> exact ⟨rfl, rfl⟩

theorem request_aside (l : Link) (n : Nat) :
    (l.turn (.request n)).reader = l.reader ∧
      (0 < l.bridge.demand → 0 < (l.turn (.request n)).bridge.demand) := by
  unfold Link.turn Link.request
  dsimp only
  cases l.consumer with
  | none => exact ⟨rfl, id⟩
  | some c =>
      refine ⟨rfl, fun hd => ?_⟩
      simp only [Option.map_some, Option.getD_some, Bridge.request]
      by_cases hdone : c.done = true
      · rw [if_pos hdone]
        exact hd
      · rw [if_neg hdone]
        exact grant_pos n hd

theorem poll_aside (l : Link) :
    (l.turn .poll).reader = l.reader ∧
      (0 < l.bridge.demand → 0 < (l.turn .poll).bridge.demand) := by
  unfold Link.turn Link.poll
  dsimp only
  cases l.consumer with
  | none => exact ⟨rfl, id⟩
  | some c =>
      refine ⟨rfl, fun hd => ?_⟩
      rcases Bridge.look_frame _ _ _ _ _ (l.bridge.poll_look c) with ⟨-, -, -, -, -, hdemand⟩
      simp only [Option.map_some, Option.getD_some]
      rw [hdemand]
      exact foldl_grant_pos _ _ hd

-- A consumer that leaves takes its demand with it, but the reader goes on.
theorem cancel_aside (l : Link) :
    (l.turn .cancel).reader = l.reader ∧
      (isLeaving (l, .cancel) = false → (l.turn .cancel).bridge.demand = l.bridge.demand) := by
  unfold Link.turn Link.cancel isLeaving
  dsimp only
  cases l.consumer with
  | none => exact ⟨rfl, fun _ => rfl⟩
  | some c =>
      refine ⟨rfl, fun hleave => ?_⟩
      simp only [Option.isSome_some, decide_true, Bool.and_self, Bool.true_eq_false] at hleave

theorem socket_of_nothing (r : Reader) (v : ReaderView) (rest : List Incoming)
    (h : r.readResult? v since = some (.nothing rest)) : weighty rest = weighty r.socket := by
  unfold Reader.readResult? at h
  split at h
  · rename_i bytes rest' hsocket
    by_cases hempty : bytes.isEmpty = true
    · rw [if_pos hempty, Option.some.injEq, ReadResult.nothing.injEq] at h
      rw [hsocket, weighty_blank hempty, h]
    · rw [if_neg hempty] at h
      simp only [Option.some.injEq, reduceCtorEq] at h
  · simp only [Option.some.injEq, reduceCtorEq] at h
  · simp only [Option.some.injEq, reduceCtorEq] at h
  · split at h <;> simp only [Option.some.injEq, reduceCtorEq] at h

-- A read that has found something is over, unless what it found is nothing.
theorem reading_of_end {since' : Nat} (hphase : l.reader.phase = .reading since)
    {l' : Link} (hl' : l' = l.withReader ((l.reader.readResult? l.readerView since).map
      (l.reader.conclude l.readerView l.bridge)))
    (h : l'.reader.phase = .reading since') :
    since' = since ∧ weighty l'.reader.socket = weighty l.reader.socket ∧
      l'.bridge = l.bridge := by
  subst hl'
  cases hresult : l.reader.readResult? l.readerView since with
  | none =>
      rw [hresult, Option.map_none, Link.withReader, hphase, ReaderPhase.reading.injEq] at h
      exact ⟨h.symm, rfl, rfl⟩
  | some result =>
      rw [hresult] at h
      simp only [Option.map_some, Link.withReader] at h ⊢
      cases result with
      | nothing rest =>
          change l.reader.phase = _ at h
          rw [hphase, ReaderPhase.reading.injEq] at h
          exact ⟨h.symm, socket_of_nothing _ _ _ hresult, rfl⟩
      | chunk bytes rest =>
          simp only [Reader.conclude, reduceCtorEq] at h
      | eof =>
          simp only [Reader.conclude, Reader.stop, reduceCtorEq] at h
      | failed e =>
          simp only [Reader.conclude, Reader.fail, reduceCtorEq] at h

theorem goesOn_of_end {since' : Nat} (hphase : l.reader.phase = .reading since)
    (harrived : t.arrived? = none)
    (hturn : l.turn t = l.withReader ((l.reader.readResult? l.readerView since).map
      (l.reader.conclude l.readerView l.bridge)))
    (h : (l.turn t).reader.phase = .reading since') :
    l.reader.phase = .reading since' ∧ l.GoesOn t := by
  rcases reading_of_end hphase hturn h with ⟨hsince, hsocket, hbridge⟩
  refine ⟨hsince ▸ hphase, ?_, fun hd _ => ?_⟩
  · rw [harrived, Option.toList_none, List.append_nil]
    exact hsocket
  · rw [hbridge]
    exact hd

/-- A read begins in this turn. -/
structure Link.Begins (l : Link) (t : Turn) : Prop where
  turn : t = .read
  wanted : 0 < l.bridge.demand
  after : l.turn t = { l with reader := { l.reader with phase := .reading l.now } }

theorem wanted_of_readiness {b : Bridge Bytes} (h : b.readiness? = some .wanted) :
    0 < b.demand := by
  unfold Bridge.readiness? at h
  by_cases hclosed : b.isClosed = true
  · rw [if_pos hclosed] at h
    cases h
  · rw [if_neg hclosed] at h
    by_cases hd : b.demand = 0
    · rw [if_pos hd] at h
      cases h
    · exact Nat.pos_of_ne_zero hd

-- A reader that waits begins to read where an item is wanted, or does not read.
theorem begins_of_waiting (hphase : l.reader.phase = .waiting)
    (h : (l.turn .read).reader.phase = .reading since) : l.Begins .read := by
  have hturn : l.turn .read = l.withReader (l.reader.advance l.readerView l.bridge) := rfl
  unfold Reader.advance at hturn
  rw [hphase] at hturn
  cases hready : l.bridge.readiness? with
  | none =>
      simp only [hready] at hturn
      rw [hturn, Link.withReader, hphase] at h
      cases h
  | some r =>
      simp only [hready] at hturn
      cases r with
      | closed =>
          rw [hturn, Link.withReader] at h
          simp only [Reader.stop, reduceCtorEq] at h
      | wanted => exact ⟨rfl, wanted_of_readiness hready, hturn⟩

theorem reading_read (h : (l.turn .read).reader.phase = .reading since) :
    l.Begins .read ∨ l.reader.phase = .reading since ∧ l.GoesOn .read := by
  have hturn : l.turn .read = l.withReader (l.reader.advance l.readerView l.bridge) := rfl
  cases hphase : l.reader.phase with
  | waiting => exact Or.inl (begins_of_waiting hphase h)
  | reading since' =>
      unfold Reader.advance at hturn
      rw [hphase] at hturn
      dsimp only at hturn
      by_cases hclosed : l.bridge.isClosed = true
      · rw [if_pos hclosed] at hturn
        rw [hturn, Link.withReader] at h
        simp only [Reader.stop, reduceCtorEq] at h
      · rw [if_neg hclosed] at hturn
        have hgoes := goesOn_of_end hphase rfl hturn h
        rw [hphase] at hgoes
        exact Or.inr hgoes
  | holding chunk =>
      unfold Reader.advance at hturn
      rw [hphase] at hturn
      dsimp only at hturn
      split at hturn
      · rw [hturn, Link.withReader, hphase] at h
        cases h
      · rw [hturn, Link.withReader] at h
        cases h
      · rw [hturn, Link.withReader] at h
        simp only [Reader.stop, reduceCtorEq] at h
  | stopped =>
      unfold Reader.advance at hturn
      rw [hphase] at hturn
      rw [hturn, Link.withReader, hphase] at h
      cases h

theorem reading_readOn (h : (l.turn .readOn).reader.phase = .reading since) :
    l.reader.phase = .reading since ∧ l.GoesOn .readOn := by
  have hturn : l.turn .readOn = l.withReader (l.reader.readOn l.readerView l.bridge) := rfl
  unfold Reader.readOn at hturn
  cases hphase : l.reader.phase with
  | reading since' =>
      rw [hphase] at hturn
      have hgoes := goesOn_of_end hphase rfl hturn h
      rw [hphase] at hgoes
      exact hgoes
  | waiting | holding _ | stopped =>
      rw [hphase] at hturn
      rw [hturn, Link.withReader, hphase] at h
      cases h

-- A read begins where an item is wanted, and goes on until it ends.
theorem reading_turn (l : Link) (t : Turn) (h : (l.turn t).reader.phase = .reading since) :
    l.Begins t ∨ l.reader.phase = .reading since ∧ l.GoesOn t := by
  cases t with
  | arrive i => exact Or.inr ⟨h, rfl, fun hd _ => hd⟩
  | pass _ | abandon | submit _ | release | markClosing | markClosed | block _ =>
      exact Or.inr ⟨h, goesOn_aside rfl rfl fun hd _ => hd⟩
  | write =>
      have hwrite : (l.turn .write).reader = l.reader ∧ (l.turn .write).bridge = l.bridge := by
        unfold Link.turn
        dsimp only
        cases l.writer.advance l.writerView l.sink <;> exact ⟨rfl, rfl⟩
      rw [hwrite.1] at h
      exact Or.inr ⟨h, goesOn_aside rfl hwrite.1 fun hd _ => by rw [hwrite.2]; exact hd⟩
  | attach mode =>
      rcases attach_aside l mode with ⟨hreader, hdemand⟩
      rw [hreader] at h
      exact Or.inr ⟨h, goesOn_aside rfl hreader fun hd _ => by rw [hdemand]; exact hd⟩
  | request n =>
      rcases request_aside l n with ⟨hreader, hdemand⟩
      rw [hreader] at h
      exact Or.inr ⟨h, goesOn_aside rfl hreader fun hd _ => hdemand hd⟩
  | poll =>
      rcases poll_aside l with ⟨hreader, hdemand⟩
      rw [hreader] at h
      exact Or.inr ⟨h, goesOn_aside rfl hreader fun hd _ => hdemand hd⟩
  | cancel =>
      rcases cancel_aside l with ⟨hreader, hdemand⟩
      rw [hreader] at h
      exact Or.inr ⟨h, goesOn_aside rfl hreader fun hd hstays => by rw [hdemand hstays]; exact hd⟩
  | read => exact reading_read h
  | readOn => exact Or.inr (reading_readOn h)

/-! ### A turn that finds the limit passed -/

-- Nothing that a socket reports is taken for the passing of the limit.
theorem ofKind_ne_idleTimeout (k : IoKind) :
    NetError.ofIo (.ofKind k) ≠ .ofIo Reader.idleTimeout := by
  cases k <;> decide

theorem isLate_cases {v : ReaderView} (h : Reader.isLate v since = true) :
    ∃ limit, v.idleLimit = some limit ∧ since + limit ≤ v.now := by
  unfold Reader.isLate at h
  cases hlimit : v.idleLimit with
  | none =>
      rw [hlimit] at h
      cases h
  | some limit =>
      rw [hlimit] at h
      exact ⟨limit, rfl, of_decide_eq_true h⟩

theorem readInflow_timeout {r : Reader} {v : ReaderView}
    (h : .failed (.ofIo Reader.idleTimeout) ∈ r.readInflow v) :
    ∃ since, r.phase = .reading since ∧ r.socket = [] ∧ Reader.isLate v since = true := by
  unfold Reader.readInflow at h
  cases hphase : r.phase with
  | waiting | holding _ | stopped =>
      rw [hphase] at h
      cases h
  | reading since =>
      refine ⟨since, rfl, ?_⟩
      rw [hphase] at h
      unfold Reader.readResult? at h
      dsimp only at h
      cases hsocket : r.socket with
      | nil =>
          rw [hsocket] at h
          by_cases hlate : Reader.isLate v since = true
          · exact ⟨rfl, hlate⟩
          · simp only [hlate, Bool.false_eq_true, if_false, Option.elim_none] at h
            cases h
      | cons i rest =>
          rw [hsocket] at h
          cases i with
          | eof => cases List.mem_singleton.1 h
          | failure k =>
              have hsame := List.mem_singleton.1 h
              rw [Inflow.failed.injEq] at hsame
              exact absurd hsame.symm (ofKind_ne_idleTimeout k)
          | data bytes =>
              dsimp only at h
              by_cases hempty : bytes.isEmpty = true
              · rw [if_pos hempty] at h
                cases h
              · rw [if_neg hempty] at h
                cases List.mem_singleton.1 h

theorem timesOut_cases (h : l.timesOut t) :
    ∃ since limit, l.reader.phase = .reading since ∧ l.reader.socket = [] ∧
      l.idleLimit = some limit ∧ since + limit ≤ l.now := by
  have hend : .failed (.ofIo Reader.idleTimeout) ∈ l.reader.readInflow l.readerView := by
    unfold Link.timesOut Link.inflow at h
    cases t with
    | arrive _ | pass _ | attach _ | request _ | cancel | abandon | submit _ | release
    | markClosing | markClosed | block _ | write => cases h
    | poll =>
        dsimp only at h
        cases hpoll : l.poll with
        | none =>
            rw [hpoll] at h
            cases h
        | some r =>
            rw [hpoll] at h
            cases List.mem_singleton.1 h
    | readOn => exact h
    | read =>
        unfold Reader.inflow at h
        cases hphase : l.reader.phase with
        | waiting =>
            simp only [hphase] at h
            split at h
            · cases List.mem_singleton.1 h
            · cases h
        | reading since =>
            simp only [hphase] at h
            split at h
            · cases h
            · exact h
        | holding chunk =>
            simp only [hphase] at h
            split at h
            · cases h
            · cases List.mem_singleton.1 h
            · cases List.mem_singleton.1 h
        | stopped =>
            simp only [hphase] at h
            cases h
  rcases readInflow_timeout hend with ⟨since, hphase, hsocket, hlate⟩
  rcases isLate_cases hlate with ⟨limit, hlimit, hpassed⟩
  exact ⟨since, limit, hphase, hsocket, hlimit, hpassed⟩

-- A read that has gone on for the limit with nothing on the socket is found to be late, and
-- the connection begins to close. Nothing is asked about demand.
theorem timesOut_of_late {limit : Nat} (hphase : l.reader.phase = .reading since)
    (hsocket : l.reader.socket = []) (hlimit : l.idleLimit = some limit)
    (hpassed : since + limit ≤ l.now) (hopen : l.bridge.isClosed = false) :
    l.timesOut .read ∧ (l.turn .read).status = l.status.markClosing := by
  have hlate : Reader.isLate l.readerView since = true := by
    unfold Reader.isLate Link.readerView
    rw [hlimit]
    exact decide_eq_true hpassed
  have hresult : l.reader.readResult? l.readerView since = some (.failed Reader.idleTimeout) := by
    unfold Reader.readResult?
    rw [hsocket, hlate]
    rfl
  refine ⟨?_, ?_⟩
  · unfold Link.timesOut Link.inflow Reader.inflow Reader.readInflow
    dsimp only
    rw [hphase, hopen]
    dsimp only
    rw [hresult]
    exact List.mem_cons_self
  · unfold Link.turn Reader.advance
    dsimp only
    rw [hphase, hopen]
    dsimp only
    rw [hresult]
    rfl

end Turns

/-! ### Since a read began -/

/-- What holds since a read began: it goes on all the time, what arrived is still there, and
    items are wanted for as long as the consumer stays. -/
structure Pending (began : Link) (behind : List (Link × Turn)) (l : Link) : Prop where
  reading : l.reader.phase = .reading began.now
  throughout : ∀ m ∈ behind, m.1.reader.phase = .reading began.now
  unread : weighty (began.reader.socket ++ arrivalsIn behind) = weighty l.reader.socket
  wanted : ∀ t, ∀ m ∈ Schedule.upTo isLeaving ((began, .read) :: (behind ++ [(l, t)])),
    0 < m.1.bridge.demand

/-- The history tells of the beginning of the read that is under way. -/
def Told (l : Link) (h : List (Link × Turn)) : Prop :=
  ∀ since, l.reader.phase = .reading since →
    ∃ first began behind, h = first ++ (began, .read) :: behind ∧ Pending began behind l

section Histories

variable {l : Link} {t : Turn} {h : List (Link × Turn)}

theorem pending_of_begins (hb : l.Begins t) : Pending l [] (l.turn t) := by
  have hsame : (l.turn t).bridge = l.bridge := by
    rw [hb.after]
  refine ⟨?_, fun m hm => absurd hm List.not_mem_nil, ?_, fun u m hm => ?_⟩
  · rw [hb.after]
  · rw [hb.after]
    exact congrArg weighty (List.append_nil _)
  · rcases Schedule.mem_upTo_append isLeaving [(l, .read)] [(l.turn t, u)] hm with hm | ⟨-, hm⟩
    · rw [Schedule.upTo_singleton] at hm
      rw [List.mem_singleton.1 hm]
      exact hb.wanted
    · rw [Schedule.upTo_singleton] at hm
      rw [List.mem_singleton.1 hm, hsame]
      exact hb.wanted

theorem Pending.turn {began : Link} {behind : List (Link × Turn)} (hp : Pending began behind l)
    (hgoes : l.GoesOn t) (hreading : (l.turn t).reader.phase = .reading began.now) :
    Pending began (behind ++ [(l, t)]) (l.turn t) := by
  refine ⟨hreading, fun m hm => ?_, ?_, fun u m hm => ?_⟩
  · rcases List.mem_append.1 hm with hbefore | hlast
    · exact hp.throughout m hbefore
    · rw [List.mem_singleton.1 hlast]
      exact hp.reading
  · rw [arrivalsIn_concat, ← List.append_assoc, weighty_append, hp.unread, hgoes.socket,
      weighty_append]
  · rw [← List.cons_append] at hm
    rcases Schedule.mem_upTo_append isLeaving _ _ hm with hbefore | ⟨hstays, hlast⟩
    · exact hp.wanted t m hbefore
    · -- Nobody has left, so there was demand at the last moment, and there still is.
      have hmem : (l, t) ∈ (began, Turn.read) :: (behind ++ [(l, t)]) :=
        List.mem_cons_of_mem _ (List.mem_append_right _ List.mem_cons_self)
      have hdemand := hp.wanted t (l, t) (by
        rw [Schedule.upTo_eq_self isLeaving _ hstays]
        exact hmem)
      rw [Schedule.upTo_singleton] at hlast
      rw [List.mem_singleton.1 hlast]
      exact hgoes.demand hdemand (hstays _ hmem)

theorem told_turn (l : Link) (h : List (Link × Turn)) (t : Turn) (hi : Told l h) :
    Told (l.turn t) (h ++ l.moment t) := by
  intro since hreading
  rcases reading_turn l t hreading with hb | ⟨hphase, hgoes⟩
  · refine ⟨h, l, [], ?_, pending_of_begins hb⟩
    rw [Link.moment, hb.turn]
  · rcases hi since hphase with ⟨first, began, behind, hh, hp⟩
    have hsince : since = began.now := by
      have hsame := hphase.symm.trans hp.reading
      rw [ReaderPhase.reading.injEq] at hsame
      exact hsame
    refine ⟨first, began, behind ++ [(l, t)], ?_, hp.turn hgoes (hsince ▸ hreading)⟩
    rw [hh, Link.moment, List.append_assoc, List.cons_append]

theorem told_after (pipeline : Pipeline) (window : Flow.Window) (idleLimit : Option Nat)
    (sink : Sink) (ts : List Turn) :
    let start := Link.start pipeline window idleLimit sink
    Told (start.after ts) (start.watch Link.moment ts) := by
  intro start
  have htold : Told start [] := by
    intro since hreading
    cases hreading
  exact Schedule.invariant_after told_turn start [] htold ts

end Histories

-- Where nothing is wanted no read begins, so none takes too long.
theorem paused_reads_nothing (us : List Turn) :
    ∀ l : Link, (∀ since, l.reader.phase ≠ .reading since) →
      (∀ m ∈ l.watch Link.moment us, m.1.bridge.demand = 0) →
      ∀ m ∈ l.watch Link.moment us, ¬ m.1.timesOut m.2 := by
  induction us with
  | nil => exact fun l _ _ m hm => absurd hm List.not_mem_nil
  | cons u rest ih =>
      intro l hidle hpaused
      have hwatch : l.watch Link.moment (u :: rest) =
          (l, u) :: (l.turn u).watch Link.moment rest := rfl
      rw [hwatch] at hpaused ⊢
      rcases List.forall_mem_cons.1 hpaused with ⟨hnone, hlater⟩
      refine List.forall_mem_cons.2 ⟨fun hout => ?_, ih _ (fun since hreading => ?_) hlater⟩
      · rcases timesOut_cases hout with ⟨since, limit, hphase, -⟩
        exact hidle since hphase
      · rcases reading_turn l u hreading with hb | ⟨hphase, -⟩
        · have hwanted := hb.wanted
          dsimp only at hnone
          omega
        · exact hidle since hphase

-- The limit is found to have passed only by a read that began at least as long ago, where an
-- item was wanted. It has gone on ever since, and no byte has arrived; items were wanted
-- until the consumer left, and all the time if it did not. A connection that is paused while
-- no read is under way is never found to be idle.
theorem idle_timeout_of_wanted_read (pipeline : Pipeline) (window : Flow.Window)
    (idleLimit : Option Nat) (sink : Sink) (ts : List Turn) :
    let start := Link.start pipeline window idleLimit sink
    let l := start.after ts
    let h := start.watch Link.moment ts
    (∀ t, l.timesOut t → ∃ limit first began behind,
      idleLimit = some limit ∧ h = first ++ (began, .read) :: behind ∧
        began.now + limit ≤ l.now ∧
        (∀ m ∈ behind ++ [(l, t)], m.1.reader.phase = .reading began.now) ∧
        (∀ i ∈ began.reader.socket ++ arrivalsIn behind, i.isBlank = true) ∧
        (∀ m ∈ Schedule.upTo isLeaving ((began, .read) :: (behind ++ [(l, t)])),
          0 < m.1.bridge.demand)) ∧
      ((∀ since, l.reader.phase ≠ .reading since) → ∀ us,
        (∀ m ∈ l.watch Link.moment us, m.1.bridge.demand = 0) →
          ∀ m ∈ l.watch Link.moment us, ¬ m.1.timesOut m.2) := by
  intro start l h
  refine ⟨fun t hout => ?_, fun hidle us => paused_reads_nothing us l hidle⟩
  rcases timesOut_cases hout with ⟨since, limit, hphase, hsocket, hlimit, hpassed⟩
  rcases told_after pipeline window idleLimit sink ts since hphase with
    ⟨first, began, behind, hh, hp⟩
  have hsince : began.now = since := by
    have hsame := hp.reading.symm.trans hphase
    rw [ReaderPhase.reading.injEq] at hsame
    exact hsame
  refine ⟨limit, first, began, behind, ?_, hh, by omega, ?_, ?_, hp.wanted t⟩
  · rw [← hlimit]
    exact (Link.idleLimit_after start ts).symm
  · intro m hm
    rcases List.mem_append.1 hm with hbefore | hlast
    · exact hp.throughout m hbefore
    · rw [List.mem_singleton.1 hlast]
      exact hp.reading
  · have hunread := hp.unread
    rw [hsocket] at hunread
    exact blank_of_weighty hunread

-- A consumer asks for one item and stays, and nothing comes for as long as the limit.
theorem wanted_read_times_out :
    let start := Link.start [] (.bounded 1) (some 1000) .reliable
    let ts : List Turn :=
      [.attach (.window (.bounded 1)), .poll, .read, .pass 400, .arrive (.data []), .pass 600,
        .read]
    (start.after ts).timesOut .read ∧
      ∃ limit first began behind, some 1000 = some limit ∧
        start.watch Link.moment ts = first ++ (began, .read) :: behind ∧
          began.now + limit ≤ (start.after ts).now := by
  intro start ts
  have hout := (timesOut_of_late (l := start.after ts) rfl rfl rfl (Nat.le_refl 1000) rfl).1
  rcases (idle_timeout_of_wanted_read [] (.bounded 1) (some 1000) .reliable ts).1 .read hout with
    ⟨limit, first, began, behind, hlimit, hh, hpassed, -⟩
  exact ⟨hout, limit, first, began, behind, hlimit, hh, hpassed⟩

-- The consumer leaves as soon as the read has begun. From then on nothing is wanted, and the
-- connection is closed all the same when the limit has passed.
theorem paused_read_times_out :
    let start := Link.start [] (.bounded 1) (some 1000) .reliable
    let asked : List Turn := [.attach (.window (.bounded 1)), .poll, .read, .cancel]
    let l := start.after (asked ++ [.pass 1000])
    (∀ m ∈ (start.after asked).watch Link.moment [.pass 1000, .read],
      m.1.consumer = none ∧ m.1.bridge.demand = 0) ∧
      l.timesOut .read ∧ l.status = .opened ∧ (l.turn .read).status = .closing := by
  intro start asked l
  have hclosing := timesOut_of_late (l := l) rfl rfl rfl (Nat.le_refl 1000) rfl
  refine ⟨fun m hm => ?_, hclosing.1, rfl, hclosing.2⟩
  rcases List.mem_cons.1 hm with rfl | hlast
  · exact ⟨rfl, rfl⟩
  · rw [List.mem_singleton.1 hlast]
    exact ⟨rfl, rfl⟩

end Connection

end DemandNet
