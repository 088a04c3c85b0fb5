import DemandNet.Proofs.Schedule
import DemandNet.Proofs.Udp.Peer

/-!
# Schedules of Peers

Everything that can happen to the connections of a datagram server, in any order.

The serve loop, the pumps and the handlers know nothing of each other but what is in the
queues and in the bridges, and each of them goes on whenever it likes. A turn is one step
of one of them. While the serve loop is busy with a datagram no other one arrives: it
waits in the socket until its turn is repeated.

## Main definitions

* `Turn`: One step of one party.
* `Peers.turn`, `Peers.after`: The connections after a turn, and after a schedule.
* `Event`, `Peers.shows`, `Peers.watch`: What can be seen.
* `cameOf`, `settledOf`, `queuedOf`, `discardedOf`, `yieldedOf`, `accountOf`: Parts of a
  history.
* `Continues`, `Works`: What no turn undoes about a connection.

## Theorems

* `silent_of_others`: What happens on other connections makes no difference to one.
* `yieldedOf_eq`: What a connection yielded, read off its account.
-/

namespace DemandNet

namespace Udp

open DemandNet.Address DemandNet.Flow

/-- One step of one party. -/
inductive Turn where
  /-- The serve loop receives a datagram. -/
  | arrive (a : Socket) (payload : Bytes)
  /-- The serve loop hands a new connection its first datagram. -/
  | enter
  | readNotice
  /-- The serve loop ends. -/
  | stop
  | pump (i : Nat) (alert : Bool)
  /-- A handler comes to its end. -/
  | finish (i : Nat)
  | notify (i : Nat)
  /-- A handler closes its connection. -/
  | close (i : Nat)
  | attach (i : Nat) (mode : Mode)
  | request (i n : Nat)
  | poll (i : Nat)
  /-- A handler leaves its datagrams. -/
  | detach (i : Nat)
  deriving DecidableEq

/-- What can be seen. -/
inductive Event where
  /-- The serve loop received a datagram. -/
  | came (a : Socket) (payload : Bytes)
  /-- It is known what becomes of a datagram. -/
  | settled (a : Socket) (payload : Bytes) (fate : Fate)
  /-- The pump of a connection has done something. -/
  | pumped (i : Nat) (m : Pumped)
  /-- The handler of a connection has looked. -/
  | saw (i : Nat) (p : Poll Bytes)

namespace Peers

/-- The connections after a turn; a turn that is not possible changes nothing. -/
def turn (s : Peers) : Turn → Peers
  | .arrive a payload => (s.arrive a payload).2
  | .enter => s.enter.2
  | .readNotice => s.readNotice
  | .stop => s.stop
  | .pump i alert => (s.pump i alert).2
  | .finish i => s.finish i
  | .notify i => s.notify i
  | .close i => s.close i
  | .attach i mode => s.attach i mode
  | .request i n => s.request i n
  | .poll i => (s.poll i).2
  | .detach i => s.detach i

/-- What a turn shows. -/
def shows (s : Peers) : Turn → List Event
  | .arrive a payload =>
      if s.serving = .waiting then
        .came a payload :: (s.arrive a payload).1.toList.map (.settled a payload)
      else []
  | .enter =>
      match s.serving with
      | .opening a _ payload => s.enter.1.toList.map (.settled a payload)
      | _ => []
  | .pump i alert => (s.pump i alert).1.map (.pumped i)
  | .poll i => (s.poll i).1.toList.map (.saw i)
  | _ => []

/-- The connections after a schedule. -/
def after (s : Peers) (ts : List Turn) : Peers := Schedule.after turn s ts

/-- What a schedule shows. -/
def watch (s : Peers) (ts : List Turn) : List Event := Schedule.watch turn shows s ts

end Peers

/-! ### Parts of a history -/

/-- The connection that a datagram was meant for. -/
def Fate.peer : Fate → Nat
  | .queued i => i
  | .refused i => i
  | .lost i => i

/-- The datagrams that were received. -/
def cameOf (h : List Event) : List (Socket × Bytes) :=
  h.filterMap fun
    | .came a payload => some (a, payload)
    | _ => none

/-- The datagrams of which it is known what becomes of them. -/
def settledOf (h : List Event) : List ((Socket × Bytes) × Fate) :=
  h.filterMap fun
    | .settled a payload f => some ((a, payload), f)
    | _ => none

/-- The datagrams that were put into the queue of a connection. -/
def queuedOf (i : Nat) (h : List Event) : List Bytes :=
  h.filterMap fun
    | .settled _ payload (.queued j) => if j = i then some payload else none
    | _ => none

/-- The chunks that the pump of a connection threw away. -/
def discardedOf (i : Nat) (h : List Event) : List Bytes :=
  h.filterMap fun
    | .pumped j (.discarded chunk) => if j = i then some chunk else none
    | _ => none

/-- The chunks that a connection yielded to its handler. -/
def yieldedOf (i : Nat) (h : List Event) : List Bytes :=
  h.filterMap fun
    | .saw j (.item chunk) => if j = i then some chunk else none
    | _ => none

/-- The account of a connection after something happened. -/
def Event.enter (i : Nat) (s : Account Bytes) : Event → Account Bytes
  | .pumped j (.delivered chunk) => if j = i then s.accept chunk else s
  | .saw j p => if j = i then s.see p else s
  | _ => s

/-- What the bridge of a connection was handed and what its handler saw. -/
def accountOf (i : Nat) (h : List Event) : Account Bytes := h.foldl (Event.enter i) .empty

/-- The connection on which something happened. -/
def Event.peer? : Event → Option Nat
  | .came _ _ => none
  | .settled _ _ (.queued i) => some i
  | .settled _ _ _ => none
  | .pumped i _ => some i
  | .saw i _ => some i

theorem cameOf_append (h es : List Event) : cameOf (h ++ es) = cameOf h ++ cameOf es :=
  List.filterMap_append

theorem settledOf_append (h es : List Event) :
    settledOf (h ++ es) = settledOf h ++ settledOf es := List.filterMap_append

theorem queuedOf_append (i : Nat) (h es : List Event) :
    queuedOf i (h ++ es) = queuedOf i h ++ queuedOf i es := List.filterMap_append

theorem discardedOf_append (i : Nat) (h es : List Event) :
    discardedOf i (h ++ es) = discardedOf i h ++ discardedOf i es := List.filterMap_append

theorem accountOf_append (i : Nat) (h es : List Event) :
    accountOf i (h ++ es) = es.foldl (Event.enter i) (accountOf i h) := List.foldl_append

theorem yieldedOf_eq (i : Nat) (h : List Event) : (accountOf i h).yielded = yieldedOf i h := by
  have hfrom : ∀ (es : List Event) (s : Account Bytes),
      (es.foldl (Event.enter i) s).yielded = s.yielded ++ yieldedOf i es := by
    intro es
    induction es with
    | nil => exact fun s => (List.append_nil _).symm
    | cons e rest ih =>
        intro s
        have hone : (Event.enter i s e).yielded = s.yielded ++ yieldedOf i [e] := by
          cases e with
          | came _ _ | settled _ _ _ => exact (List.append_nil _).symm
          | pumped j m =>
              cases m with
              | discarded _ => exact (List.append_nil _).symm
              | delivered chunk =>
                  by_cases hj : j = i <;> simp [Event.enter, yieldedOf, Account.accept, hj]
          | saw j p =>
              by_cases hj : j = i <;> cases p <;>
                simp [Event.enter, yieldedOf, Account.see, Poll.item?, hj]
        have hcons : e :: rest = [e] ++ rest := rfl
        have hsplit : yieldedOf i ([e] ++ rest) = yieldedOf i [e] ++ yieldedOf i rest :=
          List.filterMap_append
        rw [List.foldl_cons, ih, hone, hcons, hsplit, List.append_assoc]
  exact hfrom h .empty

-- What happens on other connections makes no difference to a connection.
theorem silent_of_others (i : Nat) (es : List Event) (hes : ∀ e ∈ es, e.peer? ≠ some i) :
    queuedOf i es = [] ∧ discardedOf i es = [] ∧
      ∀ s, es.foldl (Event.enter i) s = s := by
  induction es with
  | nil => exact ⟨rfl, rfl, fun _ => rfl⟩
  | cons e rest ih =>
      rcases ih fun e' he' => hes e' (List.mem_cons_of_mem _ he') with ⟨hq, hd, ha⟩
      have he := hes e List.mem_cons_self
      have hone : queuedOf i [e] = [] ∧ discardedOf i [e] = [] ∧ ∀ s, Event.enter i s e = s := by
        cases e with
        | came _ _ => exact ⟨rfl, rfl, fun _ => rfl⟩
        | settled a payload f =>
            cases f with
            | refused _ | lost _ => exact ⟨rfl, rfl, fun _ => rfl⟩
            | queued j =>
                have hj : j ≠ i := fun h => he (congrArg some h)
                simp [queuedOf, discardedOf, Event.enter, hj]
        | pumped j m =>
            have hj : j ≠ i := fun h => he (congrArg some h)
            cases m <;> simp [queuedOf, discardedOf, Event.enter, hj]
        | saw j p =>
            have hj : j ≠ i := fun h => he (congrArg some h)
            simp [queuedOf, discardedOf, Event.enter, hj]
      have hcons : e :: rest = [e] ++ rest := rfl
      refine ⟨?_, ?_, fun s => ?_⟩
      · rw [hcons, queuedOf_append, hone.1, hq]
        rfl
      · rw [hcons, discardedOf_append, hone.2.1, hd]
        rfl
      · rw [List.foldl_cons, hone.2.2, ha]

/-! ### Connections -/

/-- What no turn undoes about a connection. -/
structure Continues (p p' : Peer) : Prop where
  address : p'.address = p.address
  pipeline : p'.pipeline = p.pipeline
  finished : p.finished = true → p'.finished = true
  abandoned : p.bridge.abandoned = true → p'.bridge.abandoned = true

/-- What no turn but those of the serve loop changes about a connection. -/
structure Works (p p' : Peer) : Prop extends Continues p p' where
  fed : p'.fed = p.fed

theorem Continues.refl (p : Peer) : Continues p p := ⟨rfl, rfl, id, id⟩

-- A connection that is dead stays so.
theorem Continues.live {p p' : Peer} (h : Continues p p') (hl : p'.isLive = true) :
    p.isLive = true := by
  unfold Peer.isLive at hl ⊢
  cases hf : p.finished with
  | true =>
      rw [h.finished hf] at hl
      cases hl
  | false =>
      cases hb : p.bridge.abandoned with
      | true =>
          rw [h.abandoned hb, Bool.not_true, Bool.and_false] at hl
          cases hl
      | false => rfl

theorem Continues.forget (p : Peer) : Continues p p.forget := ⟨rfl, rfl, id, id⟩

namespace Works

theorem refl (p : Peer) : Works p p := ⟨.refl p, rfl⟩

theorem offer (p : Peer) (payload : Bytes) : Works p (p.offer payload).2 := by
  rcases p.offer_cases payload with ⟨h, _⟩ | ⟨h, _⟩ | ⟨h, _⟩ <;> rw [h]
  · exact refl p
  · exact refl p
  · exact ⟨⟨rfl, rfl, id, id⟩, rfl⟩

theorem pumped {p p' : Peer} {ms : List Pumped} (hmove : PumpMove p ms p') : Works p p' := by
  cases hmove <;> exact ⟨⟨rfl, rfl, id, id⟩, rfl⟩

theorem finish (p : Peer) : Works p p.finish := ⟨⟨rfl, rfl, fun _ => rfl, fun _ => rfl⟩, rfl⟩

theorem close (p : Peer) : Works p p.close := ⟨⟨rfl, rfl, id, fun _ => rfl⟩, rfl⟩

theorem notify (p : Peer) : Works p { p with notified := true } := ⟨⟨rfl, rfl, id, id⟩, rfl⟩

-- The handler cannot bring back a connection through its end of the bridge.
theorem handled (p : Peer) {b : Bridge Bytes} {c : Option Consumer}
    (hb : b.abandoned = p.bridge.abandoned) :
    Works p { p with bridge := b, consumer := c } :=
  ⟨⟨rfl, rfl, id, fun ha => hb.trans ha⟩, rfl⟩

theorem attach (p : Peer) (mode : Mode) : Works p (p.attach mode) := by
  unfold Peer.attach
  cases hattach : p.bridge.attach mode with
  | error e => exact refl p
  | ok r =>
      rcases r with ⟨c, b⟩
      exact handled p (p.bridge.attach_abandoned mode c b hattach)

theorem request (p : Peer) (n : Nat) : Works p (p.request n) := by
  unfold Peer.request
  cases p.consumer with
  | none => exact refl p
  | some c => exact ⟨⟨rfl, rfl, id, fun ha => (p.bridge.request_abandoned c n).trans ha⟩, rfl⟩

theorem poll (p : Peer) : Works p p.poll.2 := by
  unfold Peer.poll
  cases p.consumer with
  | none => exact refl p
  | some c => exact handled p (p.bridge.poll_abandoned c)

theorem detach (p : Peer) : Works p p.detach := by
  unfold Peer.detach
  cases p.consumer with
  | none => exact refl p
  | some c => exact handled p (p.bridge.detach_abandoned c)

end Works

namespace Peers

theorem getElem?_onPeer (s : Peers) (i : Nat) (f : Peer → Peer) (j : Nat) :
    (s.onPeer i f).peers[j]? = if i = j then s.peers[j]?.map f else s.peers[j]? := by
  unfold onPeer
  rw [List.getElem?_modify]
  split <;> simp

end Peers

end Udp

end DemandNet
