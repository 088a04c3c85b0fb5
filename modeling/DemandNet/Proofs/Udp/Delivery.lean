import DemandNet.Proofs.Udp.Moves

/-!
# What Becomes of Datagrams

The datagrams of a server and the connections they go to, under every schedule.

Each datagram that the serve loop receives is settled at once, or a connection is opened
for it and it is settled with the next turn of the loop, whatever the pumps and the
handlers do in between: nothing in the moves of the loop waits for them. What was put into
a queue is followed to the handler of its connection, and the connection to the table.

## Main definitions

* `Event.Excused`: Why a datagram may be dropped.
* `Served`: What relates the connections to their history.

## Theorems

* `served_turn`: Every turn keeps the relation.
* `Served.excused`: Nothing is dropped without a reason.
* `settled_by_arrive`, `settled_by_enter`: The serve loop does not wait.
* `forgotten_by_notice`: A notice removes one entry at most.
* `datagrams_settled_in_order`: What becomes of datagrams.
-/

namespace DemandNet

namespace Udp

open DemandNet.Address DemandNet.Flow

/-! ### All connections -/

/-- The datagram for which a connection is being opened. -/
def Peers.pending (s : Peers) : List (Socket × Bytes) :=
  match s.serving with
  | .opening a _ payload => [(a, payload)]
  | _ => []

/-- Why a datagram may be dropped: the queue of its connection is full, or the handler has
    ended or closed the connection. -/
def Event.Excused (s : Peers) : Event → Prop
  | .settled _ _ (.refused i) => ∃ p, s.peers[i]? = some p ∧ p.queue.length = queueLimit
  | .settled _ _ (.lost i) => ∃ p, s.peers[i]? = some p ∧ p.isLive = false
  | .pumped i (.discarded _) => ∃ p, s.peers[i]? = some p ∧ p.isLive = false
  | _ => True

/-- What relates the connections to their history. -/
structure Served (s : Peers) (h : List Event) : Prop where
  registered : Registered s
  traced : ∀ i, Traced i h s.peers[i]?
  settled : cameOf h = (settledOf h).map Prod.fst ++ s.pending
  homes : ∀ x ∈ settledOf h, ∃ p, s.peers[x.2.peer]? = some p ∧ p.address = x.1.1

section Served

variable {s s' : Peers} {h es : List Event}

theorem Offer.peer_fate (o : Offer) (i : Nat) : (o.fate i).peer = i := by
  cases o <;> rfl

theorem registered_move (hs : Registered s) (ht : ∀ i, Traced i h s.peers[i]?)
    (hm : TurnMove s es s') : Registered s' := by
  cases hm with
  | rests => exact hs
  | peer i p f es ns hp hm hns =>
      have hworks := hs.works i f fun p' hp' => by
        cases hp.symm.trans hp'
        exact hm.works
      refine hworks.renotice ns fun e he => ?_
      rcases hns e he with hold | ⟨rfl, hfinished⟩
      · exact hworks.notices e hold
      · refine ⟨f p, ?_, hm.works.address, hm.works.finished hfinished⟩
        rw [Peers.getElem?_onPeer, if_pos rfl, hp]
        rfl
  | offers a payload i p hw hl hp ho => exact hs.works i _ fun p' _ => .offer p' payload
  | opens a payload hw hl => exact hs.openPeer hw hl payload
  | reopens a payload i p hw hl hp hd =>
      rcases hs.lookup hl with ⟨p', hp', _, hfed⟩
      cases hp.symm.trans hp'
      have hi := ht i
      rw [hp] at hi
      have hforgotten := hs.forget hw hl fun p' hp' => by
        cases hp.symm.trans hp'
        exact Tended.dead_of_stopped hi hd hfed
      refine hforgotten.openPeer ?_ ?_ payload
      · rw [forget_of_some hl]
        exact hw
      · rw [forget_of_some hl]
        exact lookup_filter_self _ a
  | enters a i payload p ho hp =>
      exact (hs.works i _ fun p' _ => .offer p' payload).enter ho
  | reads e rest hw hn hl =>
      exact hs.renotice rest fun e' he' => hs.notices e' (hn ▸ List.mem_cons_of_mem e he')
  | forgets e rest hw hn hl =>
      have hrest := hs.renotice rest fun e' he' => hs.notices e' (hn ▸ List.mem_cons_of_mem e he')
      refine hrest.forget hw hl fun p hp => ?_
      rcases hs.notices e (hn ▸ List.mem_cons_self) with ⟨p', hp', _, hfinished⟩
      cases hp.symm.trans hp'
      unfold Peer.isLive
      rw [hfinished]
      rfl
  | stops hw => exact hs.stop

theorem getElem?_forget (a : Socket) (j : Nat) :
    (s.forget a).peers[j]? = s.peers[j]? ∨
      ∃ p, s.peers[j]? = some p ∧ (s.forget a).peers[j]? = some p.forget := by
  cases hl : s.table.lookup a with
  | none =>
      rw [forget_of_none a hl]
      exact .inl rfl
  | some i =>
      rw [forget_of_some hl]
      change (s.onPeer i Peer.forget).peers[j]? = _ ∨ ∃ p, _ ∧ (s.onPeer i Peer.forget).peers[j]? = _
      rw [Peers.getElem?_onPeer]
      by_cases hj : i = j
      · rw [if_pos hj]
        cases hp : s.peers[j]? with
        | none => exact .inl rfl
        | some p => exact .inr ⟨p, rfl, rfl⟩
      · rw [if_neg hj]
        exact .inl rfl

theorem traced_forget (ht : ∀ i, Traced i h s.peers[i]?) (a : Socket) :
    ∀ i, Traced i h (s.forget a).peers[i]? := by
  intro i
  rcases getElem?_forget (s := s) a i with hsame | ⟨p, hp, hforgotten⟩
  · rw [hsame]
    exact ht i
  · have hi := ht i
    rw [hp] at hi
    rw [hforgotten]
    exact Tended.forget hi

theorem traced_openPeer (ht : ∀ i, Traced i h s.peers[i]?) (a : Socket) (payload : Bytes) :
    ∀ i, Traced i h (s.openPeer a payload).peers[i]? := by
  intro i
  cases hp : (s.openPeer a payload).peers[i]? with
  | none =>
      have hi := ht i
      have hnone : s.peers[i]? = none := by
        cases hq : s.peers[i]? with
        | none => rfl
        | some q =>
            rw [(getElem?_openPeer a payload i q).2 (.inl hq)] at hp
            cases hp
      rw [hnone] at hi
      exact hi
  | some p =>
      rcases (getElem?_openPeer a payload i p).1 hp with hold | ⟨rfl, rfl⟩
      · have hi := ht i
        rw [hold] at hi
        exact hi
      · have hi := ht s.peers.length
        rw [List.getElem?_eq_none (Nat.le_refl _)] at hi
        rcases hi with ⟨hq, hd, ha⟩
        unfold Traced
        rw [hq, hd, ha]
        exact tended_fresh a _

theorem traced_onPeer (ht : ∀ i, Traced i h s.peers[i]?) {i : Nat} {p : Peer} {f : Peer → Peer}
    (hp : s.peers[i]? = some p) (hes : ∀ e ∈ es, e.peer? = some i ∨ e.peer? = none)
    (hi : Traced i (h ++ es) (some (f p))) :
    ∀ j, Traced j (h ++ es) (s.onPeer i f).peers[j]? := by
  intro j
  rw [Peers.getElem?_onPeer]
  by_cases hj : i = j
  · subst hj
    rw [if_pos rfl, hp]
    exact hi
  · rw [if_neg hj]
    refine (ht j).silent fun e he heq => ?_
    rcases hes e he with hsome | hnone
    · exact hj (Option.some.inj (hsome.symm.trans heq))
    · cases hnone.symm.trans heq

-- What is known of each connection is known after a move.
theorem traced_move (hs : Registered s) (ht : ∀ i, Traced i h s.peers[i]?)
    (hm : TurnMove s es s') : ∀ i, Traced i (h ++ es) s'.peers[i]? := by
  have hcame : ∀ (a : Socket) payload, ∀ i, Traced i (h ++ [.came a payload]) s.peers[i]? :=
    fun a payload i => (ht i).silent fun e he => by
      rw [List.mem_singleton.1 he]
      rintro ⟨⟩
  have hpeer : ∀ (o : Offer) (i : Nat) (a : Socket) (payload : Bytes),
      (Event.settled a payload (o.fate i)).peer? = some i ∨
        (Event.settled a payload (o.fate i)).peer? = none := fun o i a payload => by
    cases o with
    | taken => exact .inl rfl
    | full | closed => exact .inr rfl
  cases hm with
  | rests =>
      rw [List.append_nil]
      exact ht
  | peer i p f es ns hp hm hns =>
      have hi := ht i
      rw [hp] at hi
      exact traced_onPeer ht hp (fun e he => .inl (hm.own e he).1) (hm.traced hi)
  | offers a payload i p hw hl hp ho =>
      rcases hs.lookup hl with ⟨p', hp', _, hfed⟩
      cases hp.symm.trans hp'
      have hi := hcame a payload i
      rw [hp] at hi
      have hcons : ∀ e : Event, h ++ [.came a payload, e] = (h ++ [.came a payload]) ++ [e] :=
        fun e => (List.append_assoc h [_] [e]).symm
      rw [hcons]
      refine traced_onPeer (hcame a payload) hp (fun e he => ?_) (hi.offer hfed a payload)
      rw [List.mem_singleton.1 he]
      exact hpeer _ i a payload
  | opens a payload hw hl => exact traced_openPeer (hcame a payload) a payload
  | reopens a payload i p hw hl hp hd =>
      exact traced_openPeer (traced_forget (hcame a payload) a) a payload
  | enters a i payload p ho hp =>
      rcases (hs.opening a i payload ho).2 with ⟨p', hp', _, hfed⟩
      cases hp.symm.trans hp'
      have hi := ht i
      rw [hp] at hi
      refine traced_onPeer ht hp (fun e he => ?_) (hi.offer hfed a payload)
      rw [List.mem_singleton.1 he]
      exact hpeer _ i a payload
  | reads e rest hw hn hl =>
      rw [List.append_nil]
      exact ht
  | forgets e rest hw hn hl =>
      rw [List.append_nil]
      exact traced_forget (s := { s with notices := rest }) ht e.1
  | stops hw =>
      rw [List.append_nil]
      intro i
      have hi := ht i
      dsimp only
      rw [List.getElem?_map]
      cases hp : s.peers[i]? with
      | none =>
          rw [hp] at hi
          exact hi
      | some p =>
          rw [hp] at hi
          exact Tended.forget hi

theorem continues_forget (a : Socket) (i : Nat) (p : Peer) (hp : s.peers[i]? = some p) :
    ∃ p', (s.forget a).peers[i]? = some p' ∧ Continues p p' := by
  rcases getElem?_forget (s := s) a i with hsame | ⟨q, hq, hforgotten⟩
  · exact ⟨p, hsame.trans hp, .refl p⟩
  · cases hp.symm.trans hq
    exact ⟨_, hforgotten, .forget p⟩

-- A connection stays, and it stays what it is.
theorem continues_move (hm : TurnMove s es s') (i : Nat) (p : Peer) (hp : s.peers[i]? = some p) :
    ∃ p', s'.peers[i]? = some p' ∧ Continues p p' := by
  have hworks : ∀ (j : Nat) (f : Peer → Peer), (∀ q, s.peers[j]? = some q → Works q (f q)) →
      ∃ p', (s.onPeer j f).peers[i]? = some p' ∧ Continues p p' := fun j f hf => by
    rcases (onPeer_cases Works.refl hf).2 i p hp with ⟨p', hp', hw⟩
    exact ⟨p', hp', hw.toContinues⟩
  cases hm with
  | rests | reads _ _ _ _ _ => exact ⟨p, hp, .refl p⟩
  | peer j q f es ns hq hm _ =>
      exact hworks j f fun q' hq' => by
        cases hq.symm.trans hq'
        exact hm.works
  | offers a payload j q _ _ _ _ => exact hworks j _ fun q' _ => .offer q' payload
  | opens a payload _ _ => exact ⟨p, (getElem?_openPeer a payload i p).2 (.inl hp), .refl p⟩
  | reopens a payload j q _ _ _ _ =>
      rcases continues_forget a i p hp with ⟨p', hp', hc⟩
      exact ⟨p', (getElem?_openPeer a payload i p').2 (.inl hp'), hc⟩
  | enters a j payload q _ _ => exact hworks j _ fun q' _ => .offer q' payload
  | forgets e rest _ _ _ => exact continues_forget (s := { s with notices := rest }) e.1 i p hp
  | stops _ =>
      refine ⟨p.forget, ?_, .forget p⟩
      dsimp only
      rw [List.getElem?_map, hp]
      rfl

-- A move settles the datagram that it receives, or opens a connection for it.
theorem settled_move (hm : TurnMove s es s') :
    s.pending ++ cameOf es = (settledOf es).map Prod.fst ++ s'.pending := by
  unfold Peers.pending
  cases hm with
  | rests | reads _ _ _ _ _ => exact List.append_nil _
  | peer i p f es ns hp hm hns =>
      have hnone : cameOf es = [] ∧ settledOf es = [] := by
        refine ⟨List.filterMap_eq_nil_iff.2 fun e he => ?_,
          List.filterMap_eq_nil_iff.2 fun e he => ?_⟩
        · exact List.filterMap_eq_nil_iff.1 (hm.own e he).2.1 e List.mem_cons_self
        · exact List.filterMap_eq_nil_iff.1 (hm.own e he).2.2 e List.mem_cons_self
      rw [hnone.1, hnone.2]
      exact List.append_nil _
  | offers a payload i p hw hl hp ho =>
      change (match s.serving with | .opening a _ payload => [(a, payload)] | _ => []) ++ _ =
        _ ++ (match s.serving with | .opening a _ payload => [(a, payload)] | _ => [])
      rw [hw]
      rfl
  | opens a payload hw hl =>
      rw [hw]
      rfl
  | reopens a payload i p hw hl hp hd =>
      rw [hw]
      rfl
  | enters a i payload p ho hp =>
      rw [ho]
      rfl
  | forgets e rest hw hn hl =>
      rw [forget_of_some (s := { s with notices := rest }) hl]
      exact List.append_nil _
  | stops hw =>
      rw [hw]
      rfl

-- A datagram is settled on a connection of its address.
theorem homes_move (hs : Registered s) (hm : TurnMove s es s') :
    ∀ x ∈ settledOf es, ∃ p, s.peers[x.2.peer]? = some p ∧ p.address = x.1.1 := by
  cases hm with
  | rests | reads _ _ _ _ _ | forgets _ _ _ _ _ | stops _ | opens _ _ _ _
  | reopens _ _ _ _ _ _ _ _ => exact fun _ hx => absurd hx List.not_mem_nil
  | peer i p f es ns hp hm hns =>
      intro x hx
      rcases List.mem_filterMap.1 hx with ⟨e, he, hsome⟩
      have hnone := List.filterMap_eq_nil_iff.1 (hm.own e he).2.2 e List.mem_cons_self
      cases hnone.symm.trans hsome
  | offers a payload i p hw hl hp ho =>
      intro x hx
      rw [List.mem_singleton.1 hx]
      rcases hs.lookup hl with ⟨p', hp', ha, _⟩
      exact ⟨p', by rw [Offer.peer_fate]; exact hp', ha⟩
  | enters a i payload p ho hp =>
      intro x hx
      rw [List.mem_singleton.1 hx]
      rcases (hs.opening a i payload ho).2 with ⟨p', hp', ha, _⟩
      exact ⟨p', by rw [Offer.peer_fate]; exact hp', ha⟩

theorem served_turn (s : Peers) (h : List Event) (t : Turn) (hs : Served s h) :
    Served (s.turn t) (h ++ s.shows t) := by
  have hm := turn_move hs.registered hs.traced t
  refine ⟨registered_move hs.registered hs.traced hm, traced_move hs.registered hs.traced hm, ?_,
    fun x hx => ?_⟩
  · rw [cameOf_append, settledOf_append, hs.settled, List.append_assoc, settled_move hm,
      List.map_append, List.append_assoc]
  · rw [settledOf_append] at hx
    have hbefore : ∃ p, s.peers[x.2.peer]? = some p ∧ p.address = x.1.1 := by
      rcases List.mem_append.1 hx with hold | hnew
      · exact hs.homes x hold
      · exact homes_move hs.registered hm x hnew
    rcases hbefore with ⟨p, hp, ha⟩
    rcases continues_move hm _ p hp with ⟨p', hp', hc⟩
    exact ⟨p', hp', hc.address.trans ha⟩

theorem served_empty (setUp : Nat → Socket → Connection.Pipeline) :
    Served (.empty setUp) [] where
  registered := registered_empty setUp
  traced := fun _ => ⟨rfl, rfl, rfl⟩
  settled := rfl
  homes := fun _ hx => absurd hx List.not_mem_nil

-- Nothing is dropped without a reason.
theorem Served.excused (hs : Served s h) (hm : TurnMove s es s') : ∀ e ∈ es, e.Excused s := by
  have hoffer : ∀ (i : Nat) (p : Peer) (a : Socket) (payload : Bytes), s.peers[i]? = some p →
      p.fed = true → (Event.settled a payload ((p.offer payload).1.fate i)).Excused s := by
    intro i p a payload hp hfed
    have hi := hs.traced i
    rw [hp] at hi
    rcases p.offer_cases payload with ⟨ho, hd⟩ | ⟨ho, hq⟩ | ⟨ho, _⟩ <;> rw [ho]
    · exact ⟨p, hp, Tended.dead_of_stopped hi hd hfed⟩
    · exact ⟨p, hp, Nat.le_antisymm (Tended.room hi) hq⟩
    · trivial
  cases hm with
  | rests | reads _ _ _ _ _ | forgets _ _ _ _ _ | stops _ =>
      exact fun _ he => absurd he List.not_mem_nil
  | opens _ _ _ _ | reopens _ _ _ _ _ _ _ _ =>
      intro e he
      rw [List.mem_singleton.1 he]
      trivial
  | peer i p f es ns hp hm hns =>
      intro e he
      have hi := hs.traced i
      rw [hp] at hi
      generalize f p = p' at hm
      cases hm with
      | pumps ms p' hm =>
          rcases List.mem_map.1 he with ⟨m, hmem, rfl⟩
          cases m with
          | delivered chunk => trivial
          | discarded chunk => exact ⟨p, hp, Tended.dead_of_discard hi hm hmem⟩
      | looks =>
          rcases List.mem_map.1 he with ⟨r, _, rfl⟩
          trivial
      | finishes | notifies | closes | attaches _ | requests _ | detaches =>
          exact absurd he List.not_mem_nil
  | offers a payload i p hw hl hp ho =>
      rcases hs.registered.lookup hl with ⟨p', hp', _, hfed⟩
      cases hp.symm.trans hp'
      intro e he
      rcases List.mem_cons.1 he with rfl | htail
      · trivial
      · rw [List.mem_singleton.1 htail]
        exact hoffer i p a payload hp hfed
  | enters a i payload p ho hp =>
      rcases (hs.registered.opening a i payload ho).2 with ⟨p', hp', _, hfed⟩
      cases hp.symm.trans hp'
      intro e he
      rw [List.mem_singleton.1 he]
      exact hoffer i p a payload hp hfed

end Served

/-! ### The serve loop -/

section Loop

variable {s : Peers}

-- A loop that is opening a connection does nothing else, and nobody else moves it.
theorem serving_of_opening {a : Socket} {i : Nat} {payload : Bytes} (us : List Turn) :
    ∀ {s : Peers}, s.serving = .opening a i payload → .enter ∉ us →
      (s.after us).serving = .opening a i payload := by
  induction us with
  | nil => exact fun hw _ => hw
  | cons t rest ih =>
      intro s hw hnot
      refine ih ?_ fun hmem => hnot (List.mem_cons_of_mem t hmem)
      unfold Peers.turn
      cases t with
      | enter => exact absurd List.mem_cons_self hnot
      | arrive b payload' =>
          unfold Peers.arrive
          dsimp only
          rw [hw]
          exact hw
      | readNotice =>
          unfold Peers.readNotice
          dsimp only
          rw [hw]
          exact hw
      | stop =>
          unfold Peers.stop
          dsimp only
          rw [hw]
          exact hw
      | pump j alert =>
          unfold Peers.pump
          dsimp only
          cases s.peers[j]? <;> exact hw
      | notify j =>
          unfold Peers.notify
          dsimp only
          cases s.peers[j]? with
          | none => exact hw
          | some p =>
              dsimp only
              split <;> exact hw
      | poll j =>
          unfold Peers.poll
          dsimp only
          cases s.peers[j]? <;> exact hw
      | finish _ | close _ | attach _ _ | request _ _ | detach _ => exact hw

theorem settled_by_enter (hs : Registered s) {a : Socket} {i : Nat} {payload : Bytes}
    (hw : s.serving = .opening a i payload) :
    (s.turn .enter).serving = .waiting ∧ ∃ f, s.shows .enter = [.settled a payload f] := by
  rcases (hs.opening a i payload hw).2 with ⟨p, hp, _, _⟩
  unfold Peers.turn Peers.shows Peers.enter
  dsimp only
  rw [hw]
  dsimp only
  rw [hp]
  exact ⟨rfl, _, rfl⟩

-- A datagram is settled at once, or a connection is opened for it.
theorem settled_by_arrive (hs : Registered s) (hw : s.serving = .waiting) (a : Socket)
    (payload : Bytes) :
    ((s.turn (.arrive a payload)).serving = .waiting ∧
        ∃ f, s.shows (.arrive a payload) = [.came a payload, .settled a payload f]) ∨
      ∃ i, (s.turn (.arrive a payload)).serving = .opening a i payload := by
  have hm := arrive_move hs a payload
  have hcame : ∃ es, s.shows (.arrive a payload) = .came a payload :: es := by
    unfold Peers.shows
    dsimp only
    rw [if_pos hw]
    exact ⟨_, rfl⟩
  rcases hcame with ⟨es, hes⟩
  rw [hes] at hm ⊢
  generalize s.turn (.arrive a payload) = s' at hm ⊢
  generalize hall : Event.came a payload :: es = all at hm ⊢
  cases hm with
  | offers b payload' i p _ hl hp ho =>
      cases hall
      exact .inl ⟨hw, _, rfl⟩
  | opens b payload' _ hl =>
      cases hall
      exact .inr ⟨_, rfl⟩
  | reopens b payload' i p _ hl hp hd =>
      cases hall
      exact .inr ⟨_, rfl⟩
  | rests | enters _ _ _ _ _ _ | reads _ _ _ _ _ | forgets _ _ _ _ _ | stops _ => cases hall
  | peer i p f es' ns hp hm hns =>
      have hnone := (hm.own _ (hall ▸ List.mem_cons_self)).2.1
      cases hnone

-- The connections of other addresses are left as they are.
theorem others_of_arrive (hs : Registered s) (a : Socket) (payload : Bytes) (j : Nat) (p : Peer)
    (hp : s.peers[j]? = some p) (ha : p.address ≠ a) :
    (s.turn (.arrive a payload)).peers[j]? = some p := by
  have hopen : ∀ s' : Peers, s'.peers[j]? = some p → (s'.openPeer a payload).peers[j]? = some p :=
    fun s' hp' => (getElem?_openPeer a payload j p).2 (.inl hp')
  unfold Peers.turn Peers.arrive
  dsimp only
  cases s.serving with
  | opening _ _ _ | stopped => exact hp
  | waiting =>
      cases hl : s.table.lookup a with
      | none => exact hopen s hp
      | some i =>
          rcases hs.lookup hl with ⟨q, hq, hqa, _⟩
          have hne : i ≠ j := by
            rintro rfl
            cases hp.symm.trans hq
            exact ha hqa
          have hother : ∀ f, (s.onPeer i f).peers[j]? = some p := fun f => by
            rw [Peers.getElem?_onPeer, if_neg hne]
            exact hp
          dsimp only
          rw [hq]
          dsimp only
          rcases q.offer_cases payload with ⟨ho, _⟩ | ⟨ho, _⟩ | ⟨ho, _⟩ <;> rw [ho]
          · refine hopen _ ?_
            rw [forget_of_some hl]
            exact hother _
          · exact hother _
          · exact hother _

-- A notice is for one connection, and no other entry goes with it.
theorem forgotten_by_notice (hs : Registered s) (e : Socket × Nat) (he : e ∈ s.table)
    (hgone : e ∉ (s.turn .readNotice).table) :
    s.notices.head? = some e ∧ ∃ p, s.peers[e.2]? = some p ∧ p.finished = true := by
  unfold Peers.turn Peers.readNotice at hgone
  dsimp only at hgone
  cases hw : s.serving with
  | opening _ _ _ | stopped =>
      rw [hw] at hgone
      exact absurd he hgone
  | waiting =>
      cases hn : s.notices with
      | nil =>
          rw [hw, hn] at hgone
          exact absurd he hgone
      | cons e' rest =>
          rw [hw, hn] at hgone
          dsimp only at hgone
          by_cases hl : s.table.lookup e'.1 = some e'.2
          · rw [if_pos hl, forget_of_some (s := { s with notices := rest, serving := .waiting }) hl]
              at hgone
            have haddress : e.1 = e'.1 := by
              by_contra hne
              exact hgone (List.mem_filter.2 ⟨he, bne_iff_ne.2 hne⟩)
            have hfound := (lookup_eq_some_iff hs.keys e.1 e.2).2 he
            rw [haddress, hl] at hfound
            have heq : e' = e := Prod.ext haddress.symm (Option.some.inj hfound)
            rcases hs.notices e' (hn ▸ List.mem_cons_self) with ⟨p, hp, _, hfinished⟩
            rw [heq] at hp
            exact ⟨by rw [heq]; rfl, p, hp, hfinished⟩
          · rw [if_neg hl] at hgone
            exact absurd he hgone

end Loop

/-! ### All schedules -/

-- Every datagram that is received becomes one of those that were put into the queue of a
-- connection of its address or were dropped. It is dropped for a reason. What was put into
-- a queue is yielded in order, up to what the pump threw away or has not yet delivered. The
-- table has one entry for an address at most, and an address one connection that is alive;
-- a notice removes the entry of the connection it is about and no other. And no datagram
-- has to wait for anybody but the serve loop.
theorem datagrams_settled_in_order (setUp : Nat → Socket → Connection.Pipeline)
    (ts : List Turn) :
    let s := (Peers.empty setUp).after ts
    let h := (Peers.empty setUp).watch ts
    (cameOf h = (settledOf h).map Prod.fst ++ s.pending ∧
        ∀ x ∈ settledOf h, ∃ p, s.peers[x.2.peer]? = some p ∧ p.address = x.1.1) ∧
      (∀ t, ∀ e ∈ s.shows t, e.Excused s) ∧
      (∀ i p, s.peers[i]? = some p →
        (queuedOf i h).map p.pipeline.inbound =
            yieldedOf i h ++ p.bridge.items ++ discardedOf i h ++ p.inHand ++ p.waiting ∧
          (discardedOf i h ≠ [] → p.isLive = false) ∧ p.queue.length ≤ queueLimit) ∧
      ((s.table.map Prod.fst).Nodup ∧
        (∀ e ∈ s.table, ∃ p, s.peers[e.2]? = some p ∧ p.address = e.1) ∧
        ∀ (i j : Nat) (p q : Peer), s.peers[i]? = some p → s.peers[j]? = some q →
          p.isLive = true → q.isLive = true → p.address = q.address → i = j) ∧
      (∀ e ∈ s.table, e ∉ (s.turn .readNotice).table →
        s.notices.head? = some e ∧ ∃ p, s.peers[e.2]? = some p ∧ p.finished = true) ∧
      (s.serving = .waiting → ∀ a payload,
        let s₁ := s.turn (.arrive a payload)
        ((s₁.serving = .waiting ∧
            ∃ f, s.shows (.arrive a payload) = [.came a payload, .settled a payload f]) ∨
          ∃ i, ∀ us, .enter ∉ us → (s₁.after us).serving = .opening a i payload ∧
            ((s₁.after us).turn .enter).serving = .waiting ∧
            ∃ f, (s₁.after us).shows .enter = [.settled a payload f]) ∧
        ∀ (j : Nat) (p : Peer), s.peers[j]? = some p → p.address ≠ a → s₁.peers[j]? = some p)
    := by
  intro s h
  have hs : Served s h := Schedule.invariant_after served_turn _ [] (served_empty setUp) ts
  refine ⟨⟨hs.settled, hs.homes⟩,
    fun t => hs.excused (turn_move hs.registered hs.traced t), fun i p hp => ?_,
    ⟨hs.registered.keys, fun e he => ?_, hs.registered.unique⟩,
    forgotten_by_notice hs.registered, fun hw a payload => ⟨?_, ?_⟩⟩
  · have hi := hs.traced i
    rw [hp] at hi
    have horder := Tended.order hi
    rw [(Tended.hosted hi).order, yieldedOf_eq] at horder
    exact ⟨horder, fun hne => Tended.dead hi (Tended.dropped hi hne), Tended.room hi⟩
  · rcases hs.registered.entries e he with ⟨p, hp, ha, _⟩
    exact ⟨p, hp, ha⟩
  · have hnext : Served _ (h ++ _) := served_turn s h (.arrive a payload) hs
    rcases settled_by_arrive hs.registered hw a payload with hsettled | ⟨i, hopening⟩
    · exact .inl hsettled
    · refine .inr ⟨i, fun us hus => ?_⟩
      have hlater := Schedule.invariant_after served_turn _ _ hnext us
      have hstill := serving_of_opening us hopening hus
      exact ⟨hstill, settled_by_enter hlater.registered hstill⟩
  · exact others_of_arrive hs.registered a payload

/-- A handler closes its connection while datagrams still come; its pump throws them away,
    and the address gets another connection. -/
example :
    let a : Socket := default
    let h := (Peers.empty fun _ _ => []).watch [.arrive a [1], .enter, .close 0, .arrive a [2],
      .pump 0 true, .pump 0 true, .arrive a [3], .finish 0, .notify 0, .enter, .readNotice,
      .arrive a [4]]
    (settledOf h).map Prod.snd = [.queued 0, .queued 0, .queued 1, .queued 1] ∧
      discardedOf 0 h = [[1], [2]] := by
  decide

end Udp

end DemandNet
