import DemandNet.Proofs.Udp.Table

/-!
# The Moves of Peers

What a turn of the serve loop, of a pump or of a handler can do.

A pump and a handler act on their own connection and on no other. The serve loop offers a
datagram to one connection, opens one, enters one into its table, forgets one, or ends.
`TurnMove` lists all this with what it shows. What is known of a connection depends on what
happened on it and on nothing else, so a move about one connection leaves the others as
they were.

## Main definitions

* `PeerMove`: What a pump or a handler does about its connection.
* `TurnMove`: What a turn can do.
* `Traced`: What is known of a connection.

## Theorems

* `turn_move`: A turn does one of those things.
* `PeerMove.traced`, `Traced.offer`: A move about a connection keeps what is known of it.
-/

namespace DemandNet

namespace Udp

open DemandNet.Address DemandNet.Flow

/-! ### Moves -/

/-- What a pump or a handler does about its connection, and what it shows. -/
inductive PeerMove (i : Nat) (p : Peer) : List Event → Peer → Prop
  | pumps (ms : List Pumped) (p' : Peer) (hm : PumpMove p ms p') :
      PeerMove i p (ms.map (.pumped i)) p'
  | finishes : PeerMove i p [] p.finish
  | notifies : PeerMove i p [] { p with notified := true }
  | closes : PeerMove i p [] p.close
  | attaches (mode : Mode) : PeerMove i p [] (p.attach mode)
  | requests (n : Nat) : PeerMove i p [] (p.request n)
  | looks : PeerMove i p (p.poll.1.toList.map (.saw i)) p.poll.2
  | detaches : PeerMove i p [] p.detach

/-- What a turn can do, and what it shows. -/
inductive TurnMove (s : Peers) : List Event → Peers → Prop
  | rests : TurnMove s [] s
  | peer (i : Nat) (p : Peer) (f : Peer → Peer) (es : List Event) (ns : List (Socket × Nat))
      (hp : s.peers[i]? = some p) (hm : PeerMove i p es (f p))
      (hns : ∀ e ∈ ns, e ∈ s.notices ∨ e = (p.address, i) ∧ p.finished = true) :
      TurnMove s es { s.onPeer i f with notices := ns }
  /-- A datagram is offered to the connection of its address. -/
  | offers (a : Socket) (payload : Bytes) (i : Nat) (p : Peer) (hw : s.serving = .waiting)
      (hl : s.table.lookup a = some i) (hp : s.peers[i]? = some p)
      (ho : (p.offer payload).1 ≠ .closed) :
      TurnMove s [.came a payload, .settled a payload ((p.offer payload).1.fate i)]
        (s.onPeer i fun p => (p.offer payload).2)
  /-- The address of a datagram has no connection. -/
  | opens (a : Socket) (payload : Bytes) (hw : s.serving = .waiting)
      (hl : s.table.lookup a = none) : TurnMove s [.came a payload] (s.openPeer a payload)
  /-- The connection of the address has ended. -/
  | reopens (a : Socket) (payload : Bytes) (i : Nat) (p : Peer) (hw : s.serving = .waiting)
      (hl : s.table.lookup a = some i) (hp : s.peers[i]? = some p) (hd : p.pump = .stopped) :
      TurnMove s [.came a payload] ((s.forget a).openPeer a payload)
  | enters (a : Socket) (i : Nat) (payload : Bytes) (p : Peer)
      (ho : s.serving = .opening a i payload) (hp : s.peers[i]? = some p) :
      TurnMove s [.settled a payload ((p.offer payload).1.fate i)]
        { s.onPeer i fun p => (p.offer payload).2 with
          table := (a, i) :: s.table
          serving := .waiting }
  /-- A notice is read that came too late. -/
  | reads (e : Socket × Nat) (rest : List (Socket × Nat)) (hw : s.serving = .waiting)
      (hn : s.notices = e :: rest) (hl : s.table.lookup e.1 ≠ some e.2) :
      TurnMove s [] { s with notices := rest }
  | forgets (e : Socket × Nat) (rest : List (Socket × Nat)) (hw : s.serving = .waiting)
      (hn : s.notices = e :: rest) (hl : s.table.lookup e.1 = some e.2) :
      TurnMove s [] ({ s with notices := rest }.forget e.1)
  | stops (hw : s.serving = .waiting) :
      TurnMove s []
        { s with peers := s.peers.map Peer.forget, table := [], serving := .stopped }

/-- What is known of a connection, or of a place where there is none yet. -/
def Traced (i : Nat) (h : List Event) : Option Peer → Prop
  | some p => Tended p (queuedOf i h) (discardedOf i h) (accountOf i h)
  | none => queuedOf i h = [] ∧ discardedOf i h = [] ∧ accountOf i h = .empty

section Moves

variable {s s' : Peers} {h es : List Event}

theorem onPeer_of_none (i : Nat) (f : Peer → Peer) (hp : s.peers[i]? = none) :
    s.onPeer i f = s := by
  unfold Peers.onPeer
  rw [List.modify_eq_self (List.getElem?_eq_none_iff.1 hp)]

-- An operation on a place where there is no connection does nothing.
theorem peer_move (i : Nat) (f : Peer → Peer) (hm : ∀ p, PeerMove i p [] (f p)) :
    TurnMove s [] (s.onPeer i f) := by
  cases hp : s.peers[i]? with
  | none =>
      rw [onPeer_of_none i f hp]
      exact .rests
  | some p => exact .peer i p f [] s.notices hp (hm p) fun e he => .inl he

theorem arrive_move (hs : Registered s) (a : Socket) (payload : Bytes) :
    TurnMove s (s.shows (.arrive a payload)) (s.turn (.arrive a payload)) := by
  unfold Peers.shows Peers.turn Peers.arrive
  cases hw : s.serving with
  | opening _ _ _ | stopped => exact .rests
  | waiting =>
      dsimp only
      rw [if_pos rfl]
      cases hl : s.table.lookup a with
      | none => exact .opens a payload hw hl
      | some i =>
          rcases hs.lookup hl with ⟨p, hp, _, _⟩
          dsimp only
          rw [hp]
          dsimp only
          rcases p.offer_cases payload with ⟨ho, hd⟩ | ⟨ho, _⟩ | ⟨ho, _⟩
          · rw [ho]
            exact .reopens a payload i p hw hl hp hd
          · have hmove := TurnMove.offers a payload i p hw hl hp (by rw [ho]; rintro ⟨⟩)
            rw [ho] at hmove ⊢
            exact hmove
          · have hmove := TurnMove.offers a payload i p hw hl hp (by rw [ho]; rintro ⟨⟩)
            rw [ho] at hmove ⊢
            exact hmove

theorem enter_move (hs : Registered s) : TurnMove s (s.shows .enter) (s.turn .enter) := by
  unfold Peers.shows Peers.turn Peers.enter
  cases hw : s.serving with
  | waiting | stopped => exact .rests
  | opening a i payload =>
      rcases hs.opening a i payload hw with ⟨hnone, p, hp, _, _⟩
      have hforget : (s.onPeer i fun p => (p.offer payload).2).forget a =
          s.onPeer i fun p => (p.offer payload).2 := forget_of_none a hnone
      dsimp only
      rw [hp, hforget]
      exact .enters a i payload p hw hp

theorem readNotice_move : TurnMove s (s.shows .readNotice) (s.turn .readNotice) := by
  unfold Peers.shows Peers.turn Peers.readNotice
  cases hw : s.serving with
  | opening _ _ _ | stopped => exact .rests
  | waiting =>
      cases hn : s.notices with
      | nil => exact .rests
      | cons e rest =>
          dsimp only
          by_cases hl : s.table.lookup e.1 = some e.2
          · rw [if_pos hl]
            have hmove := TurnMove.forgets e rest hw hn hl
            rw [hw] at hmove
            exact hmove
          · rw [if_neg hl]
            have hmove := TurnMove.reads e rest hw hn hl
            rw [hw] at hmove
            exact hmove

theorem turn_move (hs : Registered s) (ht : ∀ i, Traced i h s.peers[i]?) (t : Turn) :
    TurnMove s (s.shows t) (s.turn t) := by
  cases t with
  | arrive a payload => exact arrive_move hs a payload
  | enter => exact enter_move hs
  | readNotice => exact readNotice_move
  | stop =>
      unfold Peers.shows Peers.turn Peers.stop
      cases hw : s.serving with
      | opening _ _ _ | stopped => exact .rests
      | waiting => exact .stops hw
  | pump i alert =>
      have hi := ht i
      change TurnMove s ((s.pump i alert).1.map (.pumped i)) (s.pump i alert).2
      unfold Peers.pump
      cases hp : s.peers[i]? with
      | none => exact .rests
      | some p =>
          rw [hp] at hi
          exact .peer i p (fun p => (p.pumpStep alert).2) _ s.notices hp
            (.pumps _ _ (Tended.pump_move hi alert)) fun e he => .inl he
  | finish i => exact peer_move i _ fun _ => .finishes
  | notify i =>
      change TurnMove s [] (s.notify i)
      unfold Peers.notify
      cases hp : s.peers[i]? with
      | none => exact .rests
      | some p =>
          dsimp only
          by_cases hf : (p.finished && !p.notified) = true
          · rw [if_pos hf]
            refine .peer i p (fun p => { p with notified := true }) [] _ hp .notifies fun e he => ?_
            rcases List.mem_append.1 he with hold | hnew
            · exact .inl hold
            · exact .inr ⟨List.mem_singleton.1 hnew, (Bool.and_eq_true_iff.1 hf).1⟩
          · rw [if_neg hf]
            exact .rests
  | close i => exact peer_move i _ fun _ => .closes
  | attach i mode => exact peer_move i _ fun _ => .attaches mode
  | request i n => exact peer_move i _ fun _ => .requests n
  | poll i =>
      change TurnMove s ((s.poll i).1.toList.map (.saw i)) (s.poll i).2
      unfold Peers.poll
      cases hp : s.peers[i]? with
      | none => exact .rests
      | some p => exact .peer i p (fun p => p.poll.2) _ s.notices hp .looks fun e he => .inl he
  | detach i => exact peer_move i _ fun _ => .detaches

/-! ### One connection -/

theorem PeerMove.works {i : Nat} {p p' : Peer} (hm : PeerMove i p es p') : Works p p' := by
  cases hm with
  | pumps ms p' hm => exact .pumped hm
  | finishes => exact .finish p
  | notifies => exact .notify p
  | closes => exact .close p
  | attaches mode => exact .attach p mode
  | requests n => exact .request p n
  | looks => exact .poll p
  | detaches => exact .detach p

theorem PeerMove.own {i : Nat} {p p' : Peer} (hm : PeerMove i p es p') :
    ∀ e ∈ es, e.peer? = some i ∧ cameOf [e] = [] ∧ settledOf [e] = [] := by
  cases hm with
  | pumps ms _ _ =>
      intro e he
      rcases List.mem_map.1 he with ⟨m, _, rfl⟩
      exact ⟨rfl, rfl, rfl⟩
  | looks =>
      intro e he
      rcases List.mem_map.1 he with ⟨r, _, rfl⟩
      exact ⟨rfl, rfl, rfl⟩
  | finishes | notifies | closes | attaches _ | requests _ | detaches =>
      exact fun _ he => absurd he List.not_mem_nil

-- What a pump shows is what it did.
theorem parts_of_pumped (i : Nat) (ms : List Pumped) :
    queuedOf i (ms.map (.pumped i)) = [] ∧
      discardedOf i (ms.map (.pumped i)) = discardedIn ms ∧
      ∀ s, (ms.map (.pumped i)).foldl (Event.enter i) s = delivering s ms := by
  refine ⟨?_, ?_, ?_⟩
  · unfold queuedOf
    rw [List.filterMap_map]
    exact List.filterMap_eq_nil_iff.2 fun _ _ => rfl
  · unfold discardedOf discardedIn
    rw [List.filterMap_map]
    refine List.filterMap_congr fun m _ => ?_
    cases m <;> simp
  · unfold delivering deliveredIn
    induction ms with
    | nil => exact fun _ => rfl
    | cons m rest ih =>
        intro s
        rw [List.map_cons, List.foldl_cons, ih]
        cases m <;> simp [Event.enter]

theorem parts_of_saw (i : Nat) (r : Option (Poll Bytes)) :
    queuedOf i (r.toList.map (.saw i)) = [] ∧ discardedOf i (r.toList.map (.saw i)) = [] ∧
      ∀ s, (r.toList.map (.saw i)).foldl (Event.enter i) s = r.toList.foldl Account.see s := by
  cases r with
  | none => exact ⟨rfl, rfl, fun _ => rfl⟩
  | some p => exact ⟨rfl, rfl, fun s => by simp [Event.enter]⟩

theorem PeerMove.traced {i : Nat} {p p' : Peer} (hm : PeerMove i p es p')
    (ht : Traced i h (some p)) : Traced i (h ++ es) (some p') := by
  have hsilent : Tended p' (queuedOf i h) (discardedOf i h) (accountOf i h) →
      Traced i (h ++ []) (some p') := fun ht' => by
    rw [List.append_nil]
    exact ht'
  cases hm with
  | pumps ms p' hm =>
      rcases parts_of_pumped i ms with ⟨hq, hd, ha⟩
      unfold Traced
      rw [queuedOf_append, discardedOf_append, accountOf_append, hq, hd, ha, List.append_nil]
      exact Tended.pump_moved ht hm
  | looks =>
      rcases parts_of_saw i p.poll.1 with ⟨hq, hd, ha⟩
      unfold Traced
      rw [queuedOf_append, discardedOf_append, accountOf_append, hq, hd, ha, List.append_nil,
        List.append_nil]
      exact Tended.poll ht
  | finishes => exact hsilent (Tended.finish ht)
  | notifies => exact hsilent (Tended.notify ht)
  | closes => exact hsilent (Tended.close ht)
  | attaches mode => exact hsilent (Tended.attach ht mode)
  | requests n => exact hsilent (Tended.request ht n)
  | detaches => exact hsilent (Tended.detach ht)

-- A connection on which nothing happened.
theorem Traced.silent {i : Nat} {o : Option Peer} (ht : Traced i h o)
    (hes : ∀ e ∈ es, e.peer? ≠ some i) : Traced i (h ++ es) o := by
  rcases silent_of_others i es hes with ⟨hq, hd, ha⟩
  cases o with
  | none =>
      unfold Traced
      rw [queuedOf_append, discardedOf_append, accountOf_append, hq, hd, ha, List.append_nil,
        List.append_nil]
      exact ht
  | some p =>
      unfold Traced
      rw [queuedOf_append, discardedOf_append, accountOf_append, hq, hd, ha, List.append_nil,
        List.append_nil]
      exact ht

-- A datagram is put into the queue, or it is not.
theorem Traced.offer {i : Nat} {p : Peer} (ht : Traced i h (some p)) (hf : p.fed = true)
    (a : Socket) (payload : Bytes) :
    Traced i (h ++ [.settled a payload ((p.offer payload).1.fate i)])
      (some (p.offer payload).2) := by
  rcases p.offer_cases payload with ⟨ho, _⟩ | ⟨ho, _⟩ | ⟨ho, hp, hq⟩ <;> rw [ho]
  · exact ht.silent fun e he => by
      rw [List.mem_singleton.1 he]
      rintro ⟨⟩
  · exact ht.silent fun e he => by
      rw [List.mem_singleton.1 he]
      rintro ⟨⟩
  · have hqueued : queuedOf i [.settled a payload (.queued i)] = [payload] := by simp [queuedOf]
    unfold Traced
    dsimp only [Offer.fate]
    rw [queuedOf_append, discardedOf_append, accountOf_append, hqueued]
    change Tended _ _ (discardedOf i h ++ []) (accountOf i h)
    rw [List.append_nil]
    exact Tended.take ht payload hf hp hq

end Moves

end Udp

end DemandNet
