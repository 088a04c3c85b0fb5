import DemandNet.Proofs.Flow.Conservation

/-!
# Bridges in a Larger System

What holds of a bridge whose producer and consumers are parts of something else.

A connection and a session keep a bridge among other things, with at most one consumer
and a producer of their own. They do not number their consumers and keep no exchange.
Still everything they do to the bridge is done in some exchange: `Hosted` says that there
is one, and one lemma an operation carries it along. What a host can then be asked is
what it has done to the bridge and what its consumers saw, which is an `Account`.

The account of a hosted bridge determines what the next look at the bridge brings. That
is the strongest thing to be said about a consumer, and the order of items and the one
end of the stream are both read off it.

## Main definitions

* `Account`: What a producer handed over and what the consumers saw.
* `Account.next`: What a look brings, given the account and what is queued.
* `Exchange.Seats`: The consumer of a host is the only one in an exchange.
* `Hosted`: The bridge of a host is the bridge of some exchange.

## Theorems

* `Hosted.attach`, `Hosted.request`, `Hosted.poll`, `Hosted.detach`, `Hosted.abandon`: The
  consumer's side of a hosted bridge.
* `Hosted.accept`, `Hosted.conclude`: The producer's side.
* `Hosted.order`: What was accepted is what was received and what is queued.
* `Hosted.poll_eq`: What a look brings.
* `Hosted.vacancy`, `Hosted.occupied`: Who is attached, as the bridge shows it.
* `Hosted.queue_of_untold`: What is queued before anybody was told of the end.
-/

namespace DemandNet

namespace Flow

variable {α : Type}

/-! ### What a consumer leaves alone -/

namespace Bridge

theorem attach_abandoned (b : Bridge α) (mode : Mode) (c : Consumer) (b' : Bridge α)
    (h : b.attach mode = .ok (c, b')) : b'.abandoned = b.abandoned := by
  rw [attach_eq] at h
  split at h
  · cases h
  · cases h
    rfl

theorem request_abandoned (b : Bridge α) (c : Consumer) (n : Nat) :
    (b.request c n).abandoned = b.abandoned := by
  unfold request
  split <;> rfl

theorem poll_abandoned (b : Bridge α) (c : Consumer) :
    (b.poll c).2.2.abandoned = b.abandoned := by
  have hlook := b.poll_look c
  generalize (b.poll c).1 = p at hlook
  generalize (b.poll c).2.1 = c' at hlook
  generalize (b.poll c).2.2 = b' at hlook ⊢
  cases hlook <;> rfl

theorem detach_abandoned (b : Bridge α) (c : Consumer) :
    (b.detach c).abandoned = b.abandoned := by
  unfold detach
  dsimp only
  split
  · rfl
  · split <;> rfl

end Bridge

/-! ### Accounts -/

/-- What a producer handed over and what the consumers saw, whichever they were. -/
structure Account (α : Type) where
  accepted : List α
  yielded : List α
  /-- The outcomes that ended the stream for some consumer. -/
  terminals : List (Poll α)
  /-- The errors that the producer left with. -/
  failures : List NetError

namespace Account

/-- Nothing has happened. -/
def empty : Account α :=
  { accepted := [], yielded := [], terminals := [], failures := [] }

/-- The bridge takes an item. -/
def accept (s : Account α) (a : α) : Account α :=
  { s with accepted := s.accepted ++ [a] }

/-- A consumer looks. -/
def see (s : Account α) (p : Poll α) : Account α :=
  { s with
    yielded := s.yielded ++ p.item?.toList
    terminals := s.terminals ++ if p.isTerminal then [p] else [] }

/-- The producer leaves, perhaps with an error. -/
def conclude (s : Account α) (e : Option NetError) : Account α :=
  { s with failures := s.failures ++ e.toList }

/-- The account of a history. -/
def ofEvents (es : List (Event α)) : Account α :=
  { accepted := Flow.accepted es, yielded := Flow.yielded es, terminals := Flow.terminals es,
    failures := Flow.failures es }

/-- What a look brings: the first item that is queued; after the last one nothing while
    the producer is there, its error if nobody was told of it, and the end. -/
def next (s : Account α) (items : List α) (present : Bool) : Poll α :=
  match items with
  | a :: _ => .item a
  | [] =>
      if present then .pending
      else
        match s.terminals, s.failures with
        | [], e :: _ => .failed e
        | _, _ => .ended

theorem next_of_present (s : Account α) (items : List α) :
    s.next items true = (items.map Poll.item).headD .pending := by
  cases items <;> rfl

theorem next_of_ended (s : Account α) (items : List α) (h : s.failures = []) :
    s.next items false = (items.map Poll.item).headD .ended := by
  unfold next
  rw [h]
  cases items with
  | nil => cases s.terminals <;> rfl
  | cons a rest => rfl

theorem next_of_failed (s : Account α) (items : List α) (e : NetError) (h : s.failures = [e]) :
    s.next items false =
      (items.map Poll.item).headD (if s.terminals.isEmpty then .failed e else .ended) := by
  unfold next
  rw [h]
  cases items with
  | nil => cases s.terminals <;> rfl
  | cons a rest => rfl

-- The end of a stream is told only when nothing is queued and the producer is gone.
theorem next_terminal (s : Account α) (items : List α) (present : Bool)
    (h : (s.next items present).isTerminal = true) : items = [] ∧ present = false := by
  cases items with
  | cons a rest => cases h
  | nil =>
      cases present with
      | true => cases h
      | false => exact ⟨rfl, rfl⟩

theorem conclude_none (s : Account α) : s.conclude none = s := by
  unfold conclude
  rw [Option.toList_none, List.append_nil]

theorem ofEvents_accept (es : List (Event α)) (a : α) :
    ofEvents (es ++ [.accepted a]) = (ofEvents es).accept a := by
  have hparts : Flow.yielded [Event.accepted a] = [] ∧ Flow.terminals [Event.accepted a] = [] ∧
      Flow.failures [Event.accepted a] = [] := ⟨rfl, rfl, rfl⟩
  unfold ofEvents accept
  rw [accepted_append, yielded_append, terminals_append, failures_append, hparts.1, hparts.2.1,
    hparts.2.2, List.append_nil, List.append_nil, List.append_nil]
  rfl

theorem ofEvents_see (es : List (Event α)) (i : Nat) (gs : List Nat) (p : Poll α) :
    ofEvents (es ++ (gs.map (.granted i) ++ [.polled i p])) = (ofEvents es).see p := by
  rcases parts_of_look i gs p with ⟨hacc, hyie, hter, hfai, _⟩
  unfold ofEvents see
  rw [accepted_append, yielded_append, terminals_append, failures_append, hacc, hyie, hter, hfai,
    List.append_nil, List.append_nil]

theorem ofEvents_conclude (es : List (Event α)) (e : Option NetError) :
    ofEvents (es ++ e.toList.map .failed) = (ofEvents es).conclude e := by
  rcases parts_of_leaving (α := α) e with ⟨hacc, hyie, hter, hfai, _⟩
  unfold ofEvents conclude
  rw [accepted_append, yielded_append, terminals_append, failures_append, hacc, hyie, hter, hfai,
    List.append_nil, List.append_nil, List.append_nil]

theorem ofEvents_silent (es fs : List (Event α)) (h : Silent fs) :
    ofEvents (es ++ fs) = ofEvents es := by
  unfold ofEvents
  rw [accepted_append, yielded_append, terminals_append, failures_append, h.accepted, h.yielded,
    h.terminals, h.failures, List.append_nil, List.append_nil, List.append_nil, List.append_nil]

end Account

/-- The consumer of a host has a number in the exchange and is the only one there. -/
def Exchange.Seats (x : Exchange α) (c : Option Consumer) : Prop :=
  ∃ i, ∀ j, x.consumer? j = if j = i then c else none

/-- A bridge with its consumer, its producer's presence and its account is that of some
    exchange. -/
structure Hosting (b : Bridge α) (c : Option Consumer) (present : Bool) (s : Account α)
    (x : Exchange α) (es : List (Event α)) : Prop where
  bridge : x.bridge = b
  seats : x.Seats c
  present : x.producer ≠ .gone ↔ present = true
  sound : x.Sound
  conserved : x.Conserved es
  account : Account.ofEvents es = s

/-- A bridge is that of some exchange, with one consumer at most. -/
def Hosted (b : Bridge α) (c : Option Consumer) (present : Bool) (s : Account α) : Prop :=
  ∃ x es, Hosting b c present s x es

namespace Hosted

variable {b : Bridge α} {c : Option Consumer} {present : Bool} {s : Account α}

theorem start : Hosted (Bridge.empty : Bridge α) none true .empty := by
  refine ⟨Exchange.empty, [], rfl, ⟨0, fun j => ?_⟩, ⟨fun _ => rfl, fun _ => by rintro ⟨⟩⟩,
    Exchange.empty_sound, Exchange.empty_conserved, rfl⟩
  by_cases hj : j = 0
  · rw [if_pos hj]
    rfl
  · rw [if_neg hj]
    rfl

-- What is done to the bridge is done in the exchange.
theorem of_effect (b' : Bridge α) (c' : Option Consumer) (present' : Bool) (s' : Account α)
    {x : Exchange α} {es : List (Event α)} (h : Hosting b c present s x es) (fs : List (Event α))
    (x' : Exchange α) (he : Exchange.Effect x fs x') (hb : x'.bridge = b') (hc : x'.Seats c')
    (hp : x'.producer ≠ .gone ↔ present' = true) (hs : Account.ofEvents (es ++ fs) = s') :
    Hosted b' c' present' s' :=
  ⟨x', es ++ fs, hb, hc, hp, Exchange.effect_sound x x' fs h.sound he,
    Exchange.conserved_effect x x' es fs h.sound h.conserved he, hs⟩

/-! ### The consumer's side -/

theorem attach (h : Hosted b c present s) (mode : Mode) (c' : Consumer) (b' : Bridge α)
    (hattach : b.attach mode = .ok (c', b')) : Hosted b' (some c') present s := by
  rcases h with ⟨x, es, h⟩
  rw [Bridge.attach_eq] at hattach
  by_cases hatt : b.attached = true
  · rw [if_pos hatt] at hattach
    cases hattach
  · rw [if_neg hatt] at hattach
    cases hattach
    have hvacant : x.bridge.attached = false := by
      rw [h.bridge]
      exact Bool.eq_false_iff.mpr hatt
    refine of_effect _ _ _ s h [] _ (.attached mode hvacant) ?_ ⟨x.consumers.length, fun j => ?_⟩
      h.present ?_
    · rw [h.bridge]
    · rw [Exchange.consumer?_append x _ (x.bridge.newcomer mode) rfl, h.bridge,
        (h.sound.seating.vacancy x hvacant).1]
    · rw [List.append_nil]
      exact h.account

theorem request {d : Consumer} (h : Hosted b (some d) present s) (n : Nat) :
    Hosted (b.request d n) (some d) present s := by
  rcases h with ⟨x, es, h⟩
  rcases h.seats with ⟨i, hi⟩
  have hd : x.consumer? i = some d := by rw [hi, if_pos rfl]
  refine of_effect _ _ _ s h _ _ (.requested i n d hd) ?_ h.seats h.present ?_
  · rw [h.bridge]
  · rw [Account.ofEvents_silent es _ (silent_granted i _)]
    exact h.account

theorem poll {d : Consumer} (h : Hosted b (some d) present s) :
    Hosted (b.poll d).2.2 (some (b.poll d).2.1) present (s.see (b.poll d).1) := by
  rcases h with ⟨x, es, h⟩
  rcases h.seats with ⟨i, hi⟩
  have hd : x.consumer? i = some d := by rw [hi, if_pos rfl]
  have hlook := Bridge.poll_look x.bridge d
  rw [← h.bridge]
  refine of_effect _ _ _ _ h _ _ (.looked i d _ _ _ hd hlook) rfl ⟨i, fun j => ?_⟩ h.present ?_
  · rw [Exchange.consumer?_set x _ i _ (Exchange.lt_of_consumer? x i d hd) rfl, hi]
    by_cases hj : j = i
    · rw [if_pos hj, if_pos hj]
    · rw [if_neg hj, if_neg hj, if_neg hj]
  · rw [Account.ofEvents_see, h.account]

theorem detach {d : Consumer} (h : Hosted b (some d) present s) :
    Hosted (b.detach d) none present s := by
  rcases h with ⟨x, es, h⟩
  rcases h.seats with ⟨i, hi⟩
  have hd : x.consumer? i = some d := by rw [hi, if_pos rfl]
  refine of_effect _ _ _ s h [] _ (.left i d hd) ?_ ⟨i, fun j => ?_⟩ h.present ?_
  · rw [h.bridge]
  · rw [Exchange.consumer?_set x _ i none (Exchange.lt_of_consumer? x i d hd) rfl, hi]
    by_cases hj : j = i
    · rw [if_pos hj, if_pos hj]
    · rw [if_neg hj, if_neg hj, if_neg hj]
  · rw [List.append_nil]
    exact h.account

theorem abandon (h : Hosted b c present s) : Hosted b.abandon c present s := by
  rcases h with ⟨x, es, h⟩
  refine of_effect _ _ _ s h [] _ .abandoned ?_ h.seats h.present ?_
  · rw [h.bridge]
  · rw [List.append_nil]
    exact h.account

/-! ### The producer's side -/

theorem accept (h : Hosted b c true s) (a : α) (left : Nat)
    (htake : takeOne? b.demand = some left) :
    Hosted (b.accepting a left) c true (s.accept a) := by
  rcases h with ⟨x, es, h⟩
  have hp : x.producer ≠ .gone := h.present.2 rfl
  refine of_effect _ _ _ _ h [.accepted a] { x with bridge := x.bridge.accepting a left }
    (.accepted _ a left hp ?_ rfl rfl hp) ?_ h.seats h.present ?_
  · rw [h.bridge]
    exact htake
  · rw [h.bridge]
  · rw [Account.ofEvents_accept, h.account]

theorem conclude (h : Hosted b c true s) (e : Option NetError) :
    Hosted (b.concluded e) c false (s.conclude e) := by
  rcases h with ⟨x, es, h⟩
  refine of_effect _ _ _ _ h _ _ (.concluded e (h.present.2 rfl)) ?_ h.seats
    ⟨fun hp => absurd rfl hp, by rintro ⟨⟩⟩ ?_
  · rw [h.bridge]
  · rw [Account.ofEvents_conclude, h.account]

/-! ### What can be said of a hosted bridge -/

theorem order (h : Hosted b c present s) : s.accepted = s.yielded ++ b.items := by
  rcases h with ⟨x, es, h⟩
  have horder := h.conserved.order
  rw [← h.account, ← h.bridge]
  exact horder

-- While the producer is there, so is a reader or a place for one.
theorem isOpen (h : Hosted b c true s) : b.readEnd ≠ .dropped ∧ b.terminated = false := by
  rcases h with ⟨x, es, h⟩
  rw [← h.bridge]
  exact h.sound.open_of_present x (h.present.2 rfl)

theorem running (h : Hosted b c true s) : s.failures = [] := by
  rcases h with ⟨x, es, h⟩
  rw [← h.account]
  exact h.conserved.running (h.present.2 rfl)

-- Of the end of the stream an error is seen first, and once.
theorem terminals_eq (h : Hosted b c present s) :
    s.terminals = [] ∨
      ∃ k, s.terminals = s.failures.map .failed ++ List.replicate k .ended := by
  rcases h with ⟨x, es, h⟩
  rw [← h.account]
  rcases h.conserved.ending with hunseen | hclosed
  · exact .inl hunseen.1
  · exact .inr hclosed.2.2

-- Once the stream is closed everybody is told of its end.
theorem next_of_closed {x : Exchange α} {es : List (Event α)} (h : Hosting b c present s x es)
    (hclosed : Exchange.Closed x es) : s.next b.items present = .ended := by
  rcases hclosed with ⟨hgone, hqueue, k, hk⟩
  have hitems : b.items = [] := by
    rw [← h.bridge]
    unfold Bridge.items
    rw [hqueue]
    rfl
  have hpresent : present = false :=
    Bool.eq_false_iff.mpr fun hp => h.present.2 hp hgone
  have hterminals : s.terminals = s.failures.map .failed ++ List.replicate k .ended := by
    rw [← h.account]
    exact hk
  unfold Account.next
  rw [hitems, hpresent, hterminals]
  cases s.failures with
  | nil => cases k <;> rfl
  | cons e rest => rfl

-- Before anybody was told of the end, the error of the producer stands in the queue.
theorem next_of_unseen {x : Exchange α} {es : List (Event α)} (h : Hosting b c present s x es)
    (hunseen : Exchange.Unseen x es) (hgone : present = false) (hitems : b.items = []) :
    b.queue = s.failures.map .error ∧
      s.next b.items present = (s.failures.map Poll.failed).headD .ended := by
  rcases hunseen with ⟨hterminals, hqueue⟩
  have hnone : s.terminals = [] := by
    rw [← h.account]
    exact hterminals
  have herror : failures es = s.failures := congrArg Account.failures h.account
  rw [h.bridge, hitems, herror] at hqueue
  refine ⟨hqueue, ?_⟩
  unfold Account.next
  rw [hitems, hgone, hnone]
  cases s.failures <;> rfl

theorem poll_eq {d : Consumer} (h : Hosted b (some d) present s) :
    (b.poll d).1 = s.next b.items present := by
  rcases h with ⟨x, es, h⟩
  have hb := h.bridge
  subst hb
  rcases h.seats with ⟨i, hi⟩
  have hd : x.consumer? i = some d := by rw [hi, if_pos rfl]
  rcases h.sound.seating.acting x i d hd with ⟨_, _, hread, _⟩
  have hpresent : present = true ↔ x.bridge.terminated = false := by
    rw [← h.present, ne_eq, ← h.sound.gone_iff, Bool.not_eq_true]
  have hitems : ∀ q, x.bridge.queue = q → x.bridge.items = q.filterMap Except.toOption :=
    fun q hq => congrArg (List.filterMap Except.toOption) hq
  have hlook := Bridge.poll_look x.bridge d
  generalize (x.bridge.poll d).1 = p at hlook ⊢
  generalize (x.bridge.poll d).2.1 = d' at hlook
  generalize (x.bridge.poll d).2.2 = b' at hlook
  cases hlook with
  | finished hdone => exact (next_of_closed h (h.conserved.told (.inr ⟨i, d, hd, hdone⟩))).symm
  | outside _ hout =>
      rw [hout] at hread
      exact (next_of_closed h (h.conserved.told (.inl hread))).symm
  | item a rest _ _ hq =>
      unfold Account.next
      rw [hitems _ hq]
      rfl
  | failure e rest _ _ hq =>
      have hlast := (hq ▸ h.sound.queue_orderly : Orderly _ _).of_error
      have hgone : present = false :=
        Bool.eq_false_iff.mpr fun hp => by rw [hpresent.1 hp] at hlast; cases hlast.2
      have hnil : x.bridge.items = [] := by
        rw [hitems _ hq, hlast.1]
        rfl
      rcases h.conserved.ending with hunseen | hclosed
      · rcases next_of_unseen h hunseen hgone hnil with ⟨hqueue, hnext⟩
        rw [hnext]
        rw [hq] at hqueue
        cases hf : s.failures with
        | nil =>
            rw [hf] at hqueue
            cases hqueue
        | cons e' more =>
            rw [hf] at hqueue
            cases hqueue
            rfl
      · cases hclosed.2.1.symm.trans hq
  | exhausted _ _ hq ht =>
      have hgone : present = false :=
        Bool.eq_false_iff.mpr fun hp => by rw [hpresent.1 hp] at ht; cases ht
      rcases h.conserved.ending with hunseen | hclosed
      · rcases next_of_unseen h hunseen hgone (hitems _ hq) with ⟨hqueue, hnext⟩
        rw [hq] at hqueue
        rw [hnext, List.map_eq_nil_iff.1 hqueue.symm]
        rfl
      · exact (next_of_closed h hclosed).symm
  | nothingYet _ _ hq ht =>
      unfold Account.next
      rw [hitems _ hq, hpresent.2 ht]
      rfl

/-! ### What is known from the bridge alone -/

theorem present_eq (h : Hosted b c present s) : present = !b.terminated := by
  rcases h with ⟨x, es, h⟩
  have hiff : present = true ↔ b.terminated = false := by
    rw [← h.present, ← h.bridge, ne_eq, ← h.sound.gone_iff, Bool.not_eq_true]
  cases ht : b.terminated with
  | true =>
      rw [ht] at hiff
      exact Bool.eq_false_iff.mpr fun hp => Bool.false_ne_true (hiff.1 hp).symm
  | false => exact hiff.2 ht

theorem vacancy (h : Hosted b none present s) :
    b.attached = false ∧ b.demand = 0 ∧ b.readEnd ≠ .held := by
  rcases h with ⟨x, es, h⟩
  rcases h.seats with ⟨i, hi⟩
  have hnone : ∀ j, x.consumer? j = none := fun j => (hi j).trans (ite_self none)
  rw [← h.bridge]
  cases h.sound.seating with
  | vacant _ ha hd hr => exact ⟨ha, hd, hr⟩
  | taken k d hd _ _ _ =>
      have hthere := hd k
      rw [if_pos rfl, hnone k] at hthere
      cases hthere

theorem occupied {d : Consumer} (h : Hosted b (some d) present s) :
    b.attached = true ∧ b.readEnd = (if d.reads then .held else .dropped) ∧
      (d.done = true → b.terminated = true ∧ b.queue = []) := by
  rcases h with ⟨x, es, h⟩
  rcases h.seats with ⟨i, hi⟩
  have hd : x.consumer? i = some d := by rw [hi, if_pos rfl]
  rw [← h.bridge]
  exact (h.sound.seating.acting x i d hd).2

-- The queue is given up only once nothing can be added to it.
theorem dropped (h : Hosted b c present s) (hr : b.readEnd = .dropped) :
    b.terminated = true ∧ b.queue = [] := by
  rcases h with ⟨x, es, h⟩
  have hbridge := h.bridge
  subst hbridge
  exact h.sound.dropped hr

-- Before anybody was told of the end, everything is still in the queue.
theorem queue_of_untold (h : Hosted b c present s) (huntold : s.terminals = []) :
    b.queue = b.items.map .ok ++ s.failures.map .error := by
  rcases h with ⟨x, es, h⟩
  have hterminals : terminals es = s.terminals := congrArg Account.terminals h.account
  have hfailures : failures es = s.failures := congrArg Account.failures h.account
  have hbridge := h.bridge
  subst hbridge
  rcases h.conserved.ending with hunseen | ⟨-, hqueue, k, hk⟩
  · rw [← hfailures]
    exact hunseen.2
  · rw [hterminals, huntold, hfailures] at hk
    have hnone := List.map_eq_nil_iff.1 (List.append_eq_nil_iff.1 hk.symm).1
    unfold Bridge.items
    rw [hqueue, hnone]
    rfl

end Hosted

end Flow

end DemandNet
