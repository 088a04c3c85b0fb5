import DemandNet.Proofs.Udp.Schedule

/-!
# The Table of the Serve Loop

Which connections the serve loop knows, and which it has to know.

An address has one entry at most, and the entry points to a connection of that address
whose queue the loop can still fill. Every such connection has its entry, or is the one
that the loop is about to enter. Now a connection that is alive can be filled: the loop
only ever forgets one whose handler has ended, or whose pump has stopped, which comes to
the same. So as long as the loop runs, every connection that is alive has an entry, and
an address has one such connection at most. When the loop has ended there are no new ones.

## Main definitions

* `Registered`: What relates the table to the connections.

## Theorems

* `lookup_eq_some_iff`: An entry is found.
* `Registered.works`, `Registered.forget`, `Registered.openPeer`, `Registered.enter`,
  `Registered.stop`: Every operation keeps the relation.
-/

namespace DemandNet

namespace Udp

open DemandNet.Address DemandNet.Flow

/-! ### Entries -/

theorem lookup_eq_some_iff {t : List (Socket × Nat)} (hk : (t.map Prod.fst).Nodup) (a : Socket)
    (i : Nat) : t.lookup a = some i ↔ (a, i) ∈ t := by
  induction t with
  | nil => simp
  | cons e rest ih =>
      rcases e with ⟨b, j⟩
      rw [List.map_cons, List.nodup_cons] at hk
      by_cases hb : a = b
      · subst hb
        have hnot : (a, i) ∉ rest := fun hmem => hk.1 (List.mem_map.2 ⟨(a, i), hmem, rfl⟩)
        rw [List.lookup_cons_self, List.mem_cons, or_iff_left hnot]
        simp [eq_comm]
      · rw [List.lookup_cons, beq_false_of_ne hb, List.mem_cons]
        have hne : (a, i) ≠ (b, j) := fun h => hb (congrArg Prod.fst h)
        rw [or_iff_right hne]
        exact ih hk.2

theorem lookup_eq_none_iff (t : List (Socket × Nat)) (a : Socket) :
    t.lookup a = none ↔ ∀ e ∈ t, e.1 ≠ a := by
  rw [List.lookup_eq_none_iff]
  exact ⟨fun h e he heq => by simpa [heq] using h e he,
    fun h e he => by simpa using fun heq => h e he heq.symm⟩

/-- The serve loop is about to enter a connection. -/
def Serving.isOpening : Serving → Socket → Nat → Prop
  | .opening a i _, b, j => a = b ∧ i = j
  | _, _, _ => False

/-- What relates the table of the serve loop to the connections. -/
structure Registered (s : Peers) : Prop where
  keys : (s.table.map Prod.fst).Nodup
  entries : ∀ e ∈ s.table, ∃ p, s.peers[e.2]? = some p ∧ p.address = e.1 ∧ p.fed = true
  entered : ∀ (i : Nat) (p : Peer), s.peers[i]? = some p → p.fed = true →
    (p.address, i) ∈ s.table ∨ s.serving.isOpening p.address i
  live : ∀ (i : Nat) (p : Peer), s.peers[i]? = some p → p.isLive = true → p.fed = true ∨ s.serving = .stopped
  unique : ∀ (i j : Nat) (p q : Peer), s.peers[i]? = some p → s.peers[j]? = some q →
    p.isLive = true → q.isLive = true → p.address = q.address → i = j
  opening : ∀ a i payload, s.serving = .opening a i payload →
    s.table.lookup a = none ∧ ∃ p, s.peers[i]? = some p ∧ p.address = a ∧ p.fed = true
  notices : ∀ e ∈ s.notices, ∃ p, s.peers[e.2]? = some p ∧ p.address = e.1 ∧ p.finished = true

theorem registered_empty (setUp : Nat → Socket → Connection.Pipeline) :
    Registered (.empty setUp) where
  keys := .nil
  entries := fun _ he => absurd he List.not_mem_nil
  entered := fun i p hp => by cases hp
  live := fun i p hp => by cases hp
  unique := fun i j p q hp => by cases hp
  opening := by rintro a i payload ⟨⟩
  notices := fun _ he => absurd he List.not_mem_nil

section Operations

variable {s : Peers}

theorem Registered.lookup (hs : Registered s) {a : Socket} {i : Nat}
    (h : s.table.lookup a = some i) :
    ∃ p, s.peers[i]? = some p ∧ p.address = a ∧ p.fed = true :=
  hs.entries (a, i) ((lookup_eq_some_iff hs.keys a i).1 h)

-- The connections after an operation on one of them, and before it.
theorem onPeer_cases {R : Peer → Peer → Prop} {i : Nat} {f : Peer → Peer} (hrefl : ∀ p, R p p)
    (hf : ∀ p, s.peers[i]? = some p → R p (f p)) :
    (∀ (j : Nat) (p' : Peer), (s.onPeer i f).peers[j]? = some p' → ∃ p, s.peers[j]? = some p ∧ R p p') ∧
      ∀ (j : Nat) (p : Peer), s.peers[j]? = some p → ∃ p', (s.onPeer i f).peers[j]? = some p' ∧ R p p' := by
  refine ⟨fun j p' hp' => ?_, fun j p hp => ?_⟩
  · rw [Peers.getElem?_onPeer] at hp'
    by_cases hj : i = j
    · subst hj
      rw [if_pos rfl] at hp'
      rcases Option.map_eq_some_iff.1 hp' with ⟨p, hp, rfl⟩
      exact ⟨p, hp, hf p hp⟩
    · rw [if_neg hj] at hp'
      exact ⟨p', hp', hrefl p'⟩
  · rw [Peers.getElem?_onPeer, hp]
    by_cases hj : i = j
    · subst hj
      rw [if_pos rfl]
      exact ⟨f p, rfl, hf p hp⟩
    · rw [if_neg hj]
      exact ⟨p, rfl, hrefl p⟩

-- An operation that leaves the serve loop alone.
theorem Registered.works (hs : Registered s) (i : Nat) (f : Peer → Peer)
    (hf : ∀ p, s.peers[i]? = some p → Works p (f p)) : Registered (s.onPeer i f) := by
  rcases onPeer_cases Works.refl hf with ⟨hback, hforth⟩
  refine ⟨hs.keys, fun e he => ?_, fun j p' hp' hfed => ?_, fun j p' hp' hlive => ?_,
    fun j k p' q' hp' hq' hlive hlive' haddress => ?_, fun a j payload ho => ?_, fun e he => ?_⟩
  · rcases hs.entries e he with ⟨p, hp, ha, hfed⟩
    rcases hforth _ p hp with ⟨p', hp', hw⟩
    exact ⟨p', hp', hw.address.trans ha, hw.fed.trans hfed⟩
  · rcases hback j p' hp' with ⟨p, hp, hw⟩
    rw [hw.address]
    exact hs.entered j p hp (hw.fed.symm.trans hfed)
  · rcases hback j p' hp' with ⟨p, hp, hw⟩
    rw [hw.fed]
    exact hs.live j p hp (hw.live hlive)
  · rcases hback j p' hp' with ⟨p, hp, hw⟩
    rcases hback k q' hq' with ⟨q, hq, hw'⟩
    rw [hw.address, hw'.address] at haddress
    exact hs.unique j k p q hp hq (hw.live hlive) (hw'.live hlive') haddress
  · rcases hs.opening a j payload ho with ⟨hnone, p, hp, ha, hfed⟩
    rcases hforth _ p hp with ⟨p', hp', hw⟩
    exact ⟨hnone, p', hp', hw.address.trans ha, hw.fed.trans hfed⟩
  · rcases hs.notices e he with ⟨p, hp, ha, hfinished⟩
    rcases hforth _ p hp with ⟨p', hp', hw⟩
    exact ⟨p', hp', hw.address.trans ha, hw.finished hfinished⟩

-- The notices that are there may be forgotten, and one may come from a handler that ended.
theorem Registered.renotice (hs : Registered s) (ns : List (Socket × Nat))
    (hns : ∀ e ∈ ns, ∃ p, s.peers[e.2]? = some p ∧ p.address = e.1 ∧ p.finished = true) :
    Registered { s with notices := ns } :=
  ⟨hs.keys, hs.entries, hs.entered, hs.live, hs.unique, hs.opening, hns⟩

theorem forget_of_none (a : Socket) (h : s.table.lookup a = none) : s.forget a = s := by
  unfold Peers.forget
  rw [h]
  have hall : s.table.filter (fun e => e.1 != a) = s.table :=
    List.filter_eq_self.2 fun e he => bne_iff_ne.2 ((lookup_eq_none_iff _ a).1 h e he)
  dsimp only
  rw [hall]

theorem forget_of_some {a : Socket} {i : Nat} (h : s.table.lookup a = some i) :
    s.forget a =
      { s.onPeer i Peer.forget with table := s.table.filter fun e => e.1 != a } := by
  unfold Peers.forget
  rw [h]
  rfl

theorem lookup_filter_self (t : List (Socket × Nat)) (a : Socket) :
    (t.filter fun e => e.1 != a).lookup a = none := by
  rw [lookup_eq_none_iff]
  intro e he
  exact bne_iff_ne.1 (List.mem_filter.1 he).2

-- The serve loop forgets a connection, which is dead.
theorem Registered.forget (hs : Registered s) (hw : s.serving = .waiting) {a : Socket} {i : Nat}
    (h : s.table.lookup a = some i) (hdead : ∀ p, s.peers[i]? = some p → p.isLive = false) :
    Registered (s.forget a) := by
  rw [forget_of_some h]
  rcases onPeer_cases (s := s) (i := i) Continues.refl fun p _ => Continues.forget p with
    ⟨hback, hforth⟩
  have hother : ∀ j, j ≠ i → (s.onPeer i Peer.forget).peers[j]? = s.peers[j]? := fun j hj => by
    rw [Peers.getElem?_onPeer, if_neg fun h => hj h.symm]
  have hself : ∀ p', (s.onPeer i Peer.forget).peers[i]? = some p' → p'.fed = false := by
    intro p' hp'
    rw [Peers.getElem?_onPeer, if_pos rfl] at hp'
    rcases Option.map_eq_some_iff.1 hp' with ⟨p, _, rfl⟩
    rfl
  refine ⟨(List.filter_sublist.map _).nodup hs.keys, fun e he => ?_, fun j p' hp' hfed => .inl ?_,
    fun j p' hp' hlive => .inl ?_, fun j k p' q' hp' hq' hlive hlive' haddress => ?_,
    fun b j payload ho => ?_, fun e he => ?_⟩
  · rcases List.mem_filter.1 he with ⟨hmem, hne⟩
    rcases hs.entries e hmem with ⟨p, hp, ha, hfed⟩
    have hj : e.2 ≠ i := by
      rintro rfl
      rcases hs.lookup h with ⟨q, hq, hqa, _⟩
      cases hp.symm.trans hq
      exact bne_iff_ne.1 hne (ha.symm.trans hqa)
    exact ⟨p, (hother _ hj).trans hp, ha, hfed⟩
  · have hj : j ≠ i := by
      rintro rfl
      rw [hself p' hp'] at hfed
      cases hfed
    have hp := (hother j hj).symm.trans hp'
    rcases hs.entered j p' hp hfed with hmem | ho
    · refine List.mem_filter.2 ⟨hmem, bne_iff_ne.2 fun heq => hj ?_⟩
      dsimp only at heq
      rw [heq, ← lookup_eq_some_iff hs.keys, h] at hmem
      exact (Option.some.inj hmem).symm
    · rw [hw] at ho
      exact ho.elim
  · rcases hback j p' hp' with ⟨p, hp, hc⟩
    have hj : j ≠ i := by
      rintro rfl
      have hlive' := hc.live hlive
      rw [hdead p hp] at hlive'
      cases hlive'
    rw [hother j hj] at hp'
    rcases hs.live j p' hp' hlive with hfed | hstopped
    · exact hfed
    · rw [hw] at hstopped
      cases hstopped
  · rcases hback j p' hp' with ⟨p, hp, hc⟩
    rcases hback k q' hq' with ⟨q, hq, hc'⟩
    rw [hc.address, hc'.address] at haddress
    exact hs.unique j k p q hp hq (hc.live hlive) (hc'.live hlive') haddress
  · cases hw.symm.trans ho
  · rcases hs.notices e he with ⟨p, hp, ha, hfinished⟩
    rcases hforth _ p hp with ⟨p', hp', hc⟩
    exact ⟨p', hp', hc.address.trans ha, hc.finished hfinished⟩

theorem getElem?_openPeer (a : Socket) (payload : Bytes) (j : Nat) (p : Peer) :
    (s.openPeer a payload).peers[j]? = some p ↔
      s.peers[j]? = some p ∨
        j = s.peers.length ∧ p = .fresh a (s.setUp s.peers.length a) := by
  unfold Peers.openPeer
  dsimp only
  by_cases hj : j < s.peers.length
  · rw [List.getElem?_append_left hj]
    exact ⟨.inl, fun h => h.resolve_right fun ⟨heq, _⟩ => Nat.ne_of_lt hj heq⟩
  · rw [List.getElem?_append_right (Nat.le_of_not_lt hj),
      List.getElem?_eq_none (Nat.le_of_not_lt hj), List.getElem?_singleton]
    by_cases heq : j = s.peers.length
    · simp [heq, eq_comm]
    · have hne : j - s.peers.length ≠ 0 := by omega
      simp [heq, hne]

-- No connection that is alive is without an entry, so a new one is the only one.
theorem Registered.openPeer (hs : Registered s) (hw : s.serving = .waiting) {a : Socket}
    (h : s.table.lookup a = none) (payload : Bytes) : Registered (s.openPeer a payload) := by
  have hkeep : ∀ (j : Nat) (p : Peer), s.peers[j]? = some p → (s.openPeer a payload).peers[j]? = some p :=
    fun j p hp => (getElem?_openPeer a payload j p).2 (.inl hp)
  have hentered : ∀ (i : Nat) (p : Peer), s.peers[i]? = some p → p.fed = true → (p.address, i) ∈ s.table := by
    intro i p hp hfed
    rcases hs.entered i p hp hfed with hmem | ho
    · exact hmem
    · rw [hw] at ho
      exact ho.elim
  have hnobody : ∀ (i : Nat) (p : Peer), s.peers[i]? = some p → p.isLive = true → p.address ≠ a := by
    intro i p hp hlive heq
    rcases hs.live i p hp hlive with hfed | hstopped
    · exact (lookup_eq_none_iff _ a).1 h _ (hentered i p hp hfed) heq
    · rw [hw] at hstopped
      cases hstopped
  refine ⟨hs.keys, fun e he => ?_, fun i p hp hfed => ?_, fun i p hp hlive => .inl ?_,
    fun i j p q hp hq hlive hlive' haddress => ?_, fun b i payload' ho => ?_, fun e he => ?_⟩
  · rcases hs.entries e he with ⟨p, hp, ha, hfed⟩
    exact ⟨p, hkeep _ p hp, ha, hfed⟩
  · rcases (getElem?_openPeer a payload i p).1 hp with hold | ⟨rfl, rfl⟩
    · exact .inl (hentered i p hold hfed)
    · exact .inr ⟨rfl, rfl⟩
  · rcases (getElem?_openPeer a payload i p).1 hp with hold | ⟨rfl, rfl⟩
    · exact (hs.live i p hold hlive).resolve_right fun hstopped => by
        rw [hw] at hstopped
        cases hstopped
    · rfl
  · rcases (getElem?_openPeer a payload i p).1 hp with hold | ⟨rfl, rfl⟩
    · rcases (getElem?_openPeer a payload j q).1 hq with hold' | ⟨rfl, rfl⟩
      · exact hs.unique i j p q hold hold' hlive hlive' haddress
      · exact absurd haddress (hnobody i p hold hlive)
    · rcases (getElem?_openPeer a payload j q).1 hq with hold' | ⟨rfl, rfl⟩
      · exact absurd haddress.symm (hnobody j q hold' hlive')
      · rfl
  · cases ho
    exact ⟨h, _, (getElem?_openPeer a payload _ _).2 (.inr ⟨rfl, rfl⟩), rfl, rfl⟩
  · rcases hs.notices e he with ⟨p, hp, ha, hfinished⟩
    exact ⟨p, hkeep _ p hp, ha, hfinished⟩

-- The entry of the new connection is the only one of its address.
theorem Registered.enter (hs : Registered s) {a : Socket} {i : Nat} {payload : Bytes}
    (ho : s.serving = .opening a i payload) :
    Registered { s with table := (a, i) :: s.table, serving := .waiting } := by
  rcases hs.opening a i payload ho with ⟨hnone, p, hp, ha, hfed⟩
  refine ⟨?_, fun e he => ?_, fun j q hq hfed' => .inl ?_, fun j q hq hlive => .inl ?_, hs.unique,
    by rintro b j payload' ⟨⟩, hs.notices⟩
  · refine List.nodup_cons.2 ⟨fun hmem => ?_, hs.keys⟩
    rcases List.mem_map.1 hmem with ⟨e, he, heq⟩
    exact (lookup_eq_none_iff _ a).1 hnone e he heq
  · rcases List.mem_cons.1 he with rfl | htail
    · exact ⟨p, hp, ha, hfed⟩
    · exact hs.entries e htail
  · rcases hs.entered j q hq hfed' with hmem | hopening
    · exact List.mem_cons_of_mem _ hmem
    · rw [ho] at hopening
      rcases hopening with ⟨rfl, rfl⟩
      exact List.mem_cons_self
  · rcases hs.live j q hq hlive with hfed' | hstopped
    · exact hfed'
    · rw [ho] at hstopped
      cases hstopped

theorem Registered.stop (hs : Registered s) :
    Registered { s with peers := s.peers.map Peer.forget, table := [], serving := .stopped } := by
  have hback : ∀ (j : Nat) (p' : Peer), (s.peers.map Peer.forget)[j]? = some p' →
      ∃ p, s.peers[j]? = some p ∧ p' = p.forget := fun j p' hp' => by
    rw [List.getElem?_map] at hp'
    rcases Option.map_eq_some_iff.1 hp' with ⟨p, hp, rfl⟩
    exact ⟨p, hp, rfl⟩
  refine ⟨.nil, fun _ he => absurd he List.not_mem_nil, fun j p' hp' hfed => ?_,
    fun _ _ _ _ => .inr rfl, fun j k p' q' hp' hq' hlive hlive' haddress => ?_,
    by rintro a i payload ⟨⟩, fun e he => ?_⟩
  · rcases hback j p' hp' with ⟨p, _, rfl⟩
    cases hfed
  · rcases hback j p' hp' with ⟨p, hp, rfl⟩
    rcases hback k q' hq' with ⟨q, hq, rfl⟩
    exact hs.unique j k p q hp hq hlive hlive' haddress
  · rcases hs.notices e he with ⟨p, hp, ha, hfinished⟩
    refine ⟨p.forget, ?_, ha, hfinished⟩
    dsimp only
    rw [List.getElem?_map, hp]
    rfl

end Operations

end Udp

end DemandNet
