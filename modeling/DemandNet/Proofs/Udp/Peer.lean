import DemandNet.Proofs.Flow.Hosted
import DemandNet.Udp.Peers

/-!
# One Peer

Where the datagrams are that were put into the queue of a connection.

They are in one of five places: received by the handler, queued in the bridge, thrown
away, in the hands of the pump, or still in the queue. As long as the pump delivers
nothing is thrown away, so the order in which they came is the order of these places; and
a pump that has ended the stream delivers nothing any more, so it stays that.

A pump ends the stream for two reasons: the handler has ended or closed the connection, or
the serve loop has forgotten it and the queue is empty. Only in the first case is there
anything to throw away.

## Main definitions

* `Peer.delivers`, `Peer.inHand`: What the pump is doing.
* `PumpMove`: What a step of the pump can do.
* `Tended`: What relates a connection to what was put into its queue.

## Theorems

* `Tended.pump_move`: A step of the pump does one of those things.
* `Tended.offer`, `Tended.pump`, `Tended.poll` and others: Every operation keeps the
  relation.
-/

namespace DemandNet

namespace Udp

open DemandNet.Address DemandNet.Flow

namespace Peer

/-- The pump still delivers to the handler. -/
def delivers (p : Peer) : Bool :=
  match p.pump with
  | .idle => true
  | .holding _ => true
  | .leaving => false
  | .stopped => false

/-- The chunk in the hands of the pump. -/
def inHand (p : Peer) : List Bytes :=
  match p.pump with
  | .holding chunk => [chunk]
  | _ => []

/-- What is queued, as the handler is to see it. -/
def waiting (p : Peer) : List Bytes := p.queue.map p.pipeline.inbound

theorem delivers_eq {p : Peer} {a : Pump} (ha : p.pump = a) :
    p.delivers = delivers { p with pump := a } := by
  rw [← ha]

theorem inHand_eq {p : Peer} {a : Pump} (ha : p.pump = a) :
    p.inHand = inHand { p with pump := a } := by
  rw [← ha]

-- An offer is taken, or it changes nothing.
theorem offer_cases (p : Peer) (payload : Bytes) :
    (p.offer payload = (.closed, p) ∧ p.pump = .stopped) ∨
      (p.offer payload = (.full, p) ∧ queueLimit ≤ p.queue.length) ∨
      (p.offer payload = (.taken, { p with queue := p.queue ++ [payload] }) ∧
        p.pump ≠ .stopped ∧ p.queue.length < queueLimit) := by
  unfold offer
  by_cases hp : p.pump = .stopped
  · simp [hp]
  · by_cases hq : p.queue.length < queueLimit
    · simp [hp, hq]
    · simp [hp, hq, Nat.le_of_not_lt hq]

end Peer

/-- The chunks that a pump delivered. -/
def deliveredIn (ms : List Pumped) : List Bytes :=
  ms.filterMap fun
    | .delivered chunk => some chunk
    | .discarded _ => none

/-- The chunks that a pump threw away. -/
def discardedIn (ms : List Pumped) : List Bytes :=
  ms.filterMap fun
    | .delivered _ => none
    | .discarded chunk => some chunk

theorem discardedIn_map (chunks : List Bytes) :
    deliveredIn (chunks.map .discarded) = [] ∧ discardedIn (chunks.map .discarded) = chunks := by
  unfold deliveredIn discardedIn
  rw [List.filterMap_map, List.filterMap_map]
  exact ⟨List.filterMap_eq_nil_iff.2 fun _ _ => rfl, List.filterMap_some⟩

/-- What a step of a pump can do, and what it does with chunks. -/
inductive PumpMove (p : Peer) : List Pumped → Peer → Prop
  | waits : PumpMove p [] p
  | takes (payload : Bytes) (rest : List Bytes) (ha : p.pump = .idle)
      (hq : p.queue = payload :: rest) :
      PumpMove p [] { p with queue := rest, pump := .holding (p.pipeline.inbound payload) }
  | delivers (chunk : Bytes) (left : Nat) (ha : p.pump = .holding chunk)
      (ht : takeOne? p.bridge.demand = some left) :
      PumpMove p [.delivered chunk]
        { p with bridge := p.bridge.accepting chunk left, pump := .idle }
  | discards (chunk : Bytes) (ha : p.pump = .holding chunk) (hb : p.bridge.abandoned = true) :
      PumpMove p [.discarded chunk] p.leave
  | leaves (ha : p.pump = .idle)
      (hb : p.bridge.abandoned = true ∨ p.fed = false ∧ p.queue = []) : PumpMove p [] p.leave
  | stops (ha : p.pump = .leaving) :
      PumpMove p (p.waiting.map .discarded) { p with pump := .stopped, queue := [] }

/-- What relates a connection to what was put into its queue, what its pump threw away and
    the account of its bridge. -/
structure Tended (p : Peer) (queued discarded : List Bytes) (s : Account Bytes) : Prop where
  hosted : Hosted p.bridge p.consumer p.delivers s
  order : queued.map p.pipeline.inbound = s.accepted ++ discarded ++ p.inHand ++ p.waiting
  kept : p.delivers = true → discarded = []
  spent : p.delivers = false → p.bridge.abandoned = true ∨ p.fed = false ∧ p.queue = []
  emptied : p.pump = .stopped → p.queue = []
  finished : p.finished = true → p.bridge.abandoned = true
  room : p.queue.length ≤ queueLimit
  dropped : discarded ≠ [] → p.bridge.abandoned = true

theorem tended_fresh (a : Socket) (pipeline : Connection.Pipeline) :
    Tended (.fresh a pipeline) [] [] .empty where
  hosted := .start
  order := rfl
  kept := fun _ => rfl
  spent := by rintro ⟨⟩
  emptied := by rintro ⟨⟩
  finished := by rintro ⟨⟩
  room := Nat.zero_le _
  dropped := fun h => absurd rfl h

section Operations

variable {p p' : Peer} {queued discarded : List Bytes} {s : Account Bytes}

theorem Tended.isLive_eq (ht : Tended p queued discarded s) :
    p.isLive = !p.bridge.abandoned := by
  unfold Peer.isLive
  cases hf : p.finished with
  | false => simp
  | true => simp [ht.finished hf]

theorem Tended.dead (ht : Tended p queued discarded s) (hb : p.bridge.abandoned = true) :
    p.isLive = false := by
  rw [ht.isLive_eq, hb]
  rfl

-- A connection whose pump has stopped is dead, unless it was forgotten.
theorem Tended.dead_of_stopped (ht : Tended p queued discarded s) (hp : p.pump = .stopped)
    (hf : p.fed = true) : p.isLive = false := by
  rcases ht.spent (Peer.delivers_eq hp) with hb | ⟨hf', _⟩
  · exact ht.dead hb
  · rw [hf] at hf'
    cases hf'

/-! ### The pump -/

theorem Tended.pump_move (ht : Tended p queued discarded s) (alert : Bool) :
    PumpMove p (p.pumpStep alert).1 (p.pumpStep alert).2 := by
  unfold Peer.pumpStep
  cases ha : p.pump with
  | idle =>
      have hpresent : p.delivers = true := Peer.delivers_eq ha
      have hhosted := ht.hosted
      rw [hpresent] at hhosted
      have hclosed : p.bridge.isClosed = p.bridge.abandoned := by
        unfold Bridge.isClosed
        rw [hhosted.isOpen.2, Bool.false_or]
      dsimp only
      rw [hclosed]
      by_cases hleave : (alert && p.bridge.abandoned) = true
      · rw [if_pos hleave]
        exact .leaves ha (.inl (Bool.and_eq_true_iff.1 hleave).2)
      · rw [if_neg hleave]
        cases hq : p.queue with
        | cons payload rest => exact .takes payload rest ha hq
        | nil =>
            by_cases hend : (p.bridge.abandoned || !p.fed) = true
            · dsimp only
              rw [if_pos hend]
              refine .leaves ha ?_
              rcases Bool.or_eq_true_iff.1 hend with hb | hf
              · exact .inl hb
              · exact .inr ⟨by simpa using hf, hq⟩
            · dsimp only
              rw [if_neg hend]
              exact .waits
  | holding chunk =>
      have hpresent : p.delivers = true := Peer.delivers_eq ha
      have hhosted := ht.hosted
      rw [hpresent] at hhosted
      rcases hhosted.isOpen with ⟨hread, hopen⟩
      dsimp only
      rw [Bridge.deliver_of_open p.bridge chunk hread hopen]
      by_cases hb : p.bridge.abandoned = true
      · rw [if_pos hb]
        exact .discards chunk ha hb
      · rw [if_neg hb]
        cases htake : takeOne? p.bridge.demand with
        | none =>
            change PumpMove p [] { p with pump := .holding chunk }
            rw [← ha]
            exact .waits
        | some left => exact .delivers chunk left ha htake
  | leaving =>
      have hmove := PumpMove.stops ha
      unfold Peer.waiting at hmove
      rwa [List.map_map] at hmove
  | stopped => exact .waits

/-- An account after a pump has delivered. -/
def delivering (s : Account Bytes) (ms : List Pumped) : Account Bytes :=
  (deliveredIn ms).foldl Account.accept s

theorem Tended.leave (ht : Tended p queued discarded s) (hp : p.delivers = true)
    (hb : p.bridge.abandoned = true ∨ p.fed = false ∧ p.queue = [])
    (hin : p.inHand ≠ [] → p.bridge.abandoned = true) :
    Tended p.leave queued (discarded ++ p.inHand) s := by
  have hhosted := ht.hosted
  rw [hp] at hhosted
  have hconcluded := hhosted.conclude none
  rw [← Bridge.finish_eq, Account.conclude_none] at hconcluded
  refine ⟨hconcluded, ?_, by rintro ⟨⟩, fun _ => hb, by rintro ⟨⟩, ht.finished, ht.room,
    fun hne => hin ?_⟩
  · have horder := ht.order
    rw [List.append_assoc s.accepted] at horder
    change _ = s.accepted ++ (discarded ++ p.inHand) ++ [] ++ p.waiting
    rw [List.append_nil]
    exact horder
  · rwa [ht.kept hp, List.nil_append] at hne

theorem Tended.pump_moved {ms : List Pumped} (ht : Tended p queued discarded s)
    (hmove : PumpMove p ms p') :
    Tended p' queued (discarded ++ discardedIn ms) (delivering s ms) := by
  have hnothing : discarded ++ discardedIn [] = discarded := List.append_nil _
  cases hmove with
  | waits =>
      rw [hnothing]
      exact ht
  | takes payload rest ha hq =>
      have hpresent : p.delivers = true := Peer.delivers_eq ha
      have hhosted := ht.hosted
      have horder := ht.order
      have hroom := ht.room
      rw [hpresent] at hhosted
      rw [Peer.inHand_eq ha, Peer.waiting, hq] at horder
      rw [hq, List.length_cons] at hroom
      rw [hnothing]
      refine ⟨hhosted, ?_, fun _ => ht.kept hpresent, by rintro ⟨⟩, by rintro ⟨⟩, ht.finished,
        Nat.le_of_succ_le hroom, ht.dropped⟩
      rw [horder]
      simp [Peer.inHand, Peer.waiting, delivering, deliveredIn]
  | delivers chunk left ha htake =>
      have hpresent : p.delivers = true := Peer.delivers_eq ha
      have hhosted := ht.hosted
      have horder := ht.order
      rw [hpresent] at hhosted
      rw [ht.kept hpresent, Peer.inHand_eq ha] at horder
      have hnone : discardedIn [.delivered chunk] = [] := rfl
      rw [hnone, List.append_nil]
      refine ⟨hhosted.accept chunk left htake, ?_, fun _ => ht.kept hpresent, by rintro ⟨⟩,
        by rintro ⟨⟩, ht.finished, ht.room, ht.dropped⟩
      rw [ht.kept hpresent, horder]
      simp [Peer.inHand, delivering, deliveredIn, Account.accept, Peer.waiting]
  | discards chunk ha hb =>
      have hin : p.inHand = [chunk] := Peer.inHand_eq ha
      have hleft := ht.leave (Peer.delivers_eq ha) (.inl hb) fun _ => hb
      rw [hin] at hleft
      exact hleft
  | leaves ha hb =>
      have hin : p.inHand = [] := Peer.inHand_eq ha
      have hleft := ht.leave (Peer.delivers_eq ha) hb fun hne => absurd hin hne
      rw [hin] at hleft
      exact hleft
  | stops ha =>
      have hover : p.delivers = false := Peer.delivers_eq ha
      have hhosted := ht.hosted
      have horder := ht.order
      rw [hover] at hhosted
      rw [Peer.inHand_eq ha] at horder
      unfold delivering
      rw [(discardedIn_map p.waiting).1, (discardedIn_map p.waiting).2]
      refine ⟨hhosted, ?_, by rintro ⟨⟩, fun _ => ?_, fun _ => rfl, ht.finished, Nat.zero_le _,
        fun hne => ?_⟩
      · rw [horder]
        simp [Peer.inHand, Peer.waiting]
      · exact (ht.spent hover).imp_right fun h => ⟨h.1, rfl⟩
      · rcases ht.spent hover with hb | ⟨_, hq⟩
        · exact hb
        · rw [Peer.waiting, hq, List.map_nil, List.append_nil] at hne
          exact ht.dropped hne

-- Whatever a pump throws away was put into the queue of a connection that is dead.
theorem Tended.dead_of_discard {ms : List Pumped} {chunk : Bytes}
    (ht : Tended p queued discarded s) (hmove : PumpMove p ms p')
    (hmem : .discarded chunk ∈ ms) : p.isLive = false := by
  cases hmove with
  | waits | takes _ _ _ _ | leaves _ _ => exact absurd hmem List.not_mem_nil
  | delivers chunk' _ _ _ => cases List.mem_singleton.1 hmem
  | discards chunk' _ hb => exact ht.dead hb
  | stops ha =>
      rcases ht.spent (Peer.delivers_eq ha) with hb | ⟨_, hq⟩
      · exact ht.dead hb
      · rw [Peer.waiting, hq] at hmem
        exact absurd hmem List.not_mem_nil

/-! ### The queue -/

theorem Tended.take (ht : Tended p queued discarded s) (payload : Bytes) (hf : p.fed = true)
    (hp : p.pump ≠ .stopped) (hq : p.queue.length < queueLimit) :
    Tended { p with queue := p.queue ++ [payload] } (queued ++ [payload]) discarded s where
  hosted := ht.hosted
  order := by
    have horder := ht.order
    rw [List.map_append, horder]
    simp [Peer.inHand, Peer.waiting]
  kept := ht.kept
  spent := fun h => (ht.spent h).imp_right fun ⟨hf', _⟩ => by
    rw [hf] at hf'
    cases hf'
  emptied := fun h => absurd h hp
  finished := ht.finished
  room := by
    rw [List.length_append]
    exact hq
  dropped := ht.dropped

theorem Tended.forget (ht : Tended p queued discarded s) : Tended p.forget queued discarded s :=
  ⟨ht.hosted, ht.order, ht.kept, fun h => (ht.spent h).imp_right fun ⟨_, hq⟩ => ⟨rfl, hq⟩,
    ht.emptied, ht.finished, ht.room, ht.dropped⟩

/-! ### The handler -/

theorem Tended.close (ht : Tended p queued discarded s) : Tended p.close queued discarded s :=
  ⟨ht.hosted.abandon, ht.order, ht.kept, fun _ => .inl rfl, ht.emptied, fun _ => rfl, ht.room,
    fun _ => rfl⟩

theorem Tended.finish (ht : Tended p queued discarded s) : Tended p.finish queued discarded s :=
  ⟨ht.hosted.abandon, ht.order, ht.kept, fun _ => .inl rfl, ht.emptied, fun _ => rfl, ht.room,
    fun _ => rfl⟩

theorem Tended.notify (ht : Tended p queued discarded s) :
    Tended { p with notified := true } queued discarded s :=
  ⟨ht.hosted, ht.order, ht.kept, ht.spent, ht.emptied, ht.finished, ht.room, ht.dropped⟩

-- The handler changes its own end of the bridge and nothing else.
theorem Tended.handled (ht : Tended p queued discarded s) {b : Bridge Bytes}
    {c : Option Consumer} {s' : Account Bytes} (hh : Hosted b c p.delivers s')
    (hs : s'.accepted = s.accepted) (hb : b.abandoned = p.bridge.abandoned) :
    Tended { p with bridge := b, consumer := c } queued discarded s' where
  hosted := hh
  order := by
    rw [hs]
    exact ht.order
  kept := ht.kept
  spent := by
    rw [hb]
    exact ht.spent
  emptied := ht.emptied
  finished := by
    rw [hb]
    exact ht.finished
  room := ht.room
  dropped := by
    rw [hb]
    exact ht.dropped

theorem Tended.attach (ht : Tended p queued discarded s) (mode : Mode) :
    Tended (p.attach mode) queued discarded s := by
  unfold Peer.attach
  cases hattach : p.bridge.attach mode with
  | error e => exact ht
  | ok r =>
      rcases r with ⟨c, b⟩
      exact ht.handled (ht.hosted.attach mode c b hattach) rfl
        (p.bridge.attach_abandoned mode c b hattach)

theorem Tended.request (ht : Tended p queued discarded s) (n : Nat) :
    Tended (p.request n) queued discarded s := by
  unfold Peer.request
  have hhosted := ht.hosted
  cases hc : p.consumer with
  | none => exact ht
  | some c =>
      rw [hc] at hhosted
      exact ht.handled (hhosted.request n) rfl (p.bridge.request_abandoned c n)

theorem Tended.poll (ht : Tended p queued discarded s) :
    Tended p.poll.2 queued discarded (p.poll.1.toList.foldl Account.see s) := by
  unfold Peer.poll
  have hhosted := ht.hosted
  cases hc : p.consumer with
  | none => exact ht
  | some c =>
      rw [hc] at hhosted
      exact ht.handled hhosted.poll rfl (p.bridge.poll_abandoned c)

theorem Tended.detach (ht : Tended p queued discarded s) :
    Tended p.detach queued discarded s := by
  unfold Peer.detach
  have hhosted := ht.hosted
  cases hc : p.consumer with
  | none => exact ht
  | some c =>
      rw [hc] at hhosted
      exact ht.handled hhosted.detach rfl (p.bridge.detach_abandoned c)

end Operations

end Udp

end DemandNet
