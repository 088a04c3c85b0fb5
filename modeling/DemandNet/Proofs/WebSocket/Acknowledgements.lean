import DemandNet.Proofs.WebSocket.Calls

/-!
# Acknowledgements

The requests of a session and their answers, whatever the codec does.

Requests are settled in the order in which they were made, so those that were settled are
known by their number. That gives the progress as well: every time the session serves a
request the number grows, until all are settled. A request that is still queued was not
touched, so when the session ends there were no calls for it, and its answer says so.

A codec that is not disturbed writes what it accepts. There the messages that it took are
the frames on the wire.

## Main definitions

* `Tallied`, `Kept`, `Ordered`: What relates a session to its history.
* `Duet.moved`, `Duet.dealt`: The session after moves, and what they show.

## Theorems

* `settling_moved`: The relation holds after any moves.
* `settled_of_served`: Requests that are served are settled.
* `taken_written`: What an undisturbed codec took is on the wire.
* `requests_settled_once`: The requests of a session and their answers.
-/

namespace DemandNet

namespace WebSocket

/-! ### Requests and their answers -/

/-- The requests and answers that were seen are those of the session. Requests are settled
    in the order in which they were made. -/
structure Tallied (s : Session) (h : List Dealing) : Prop where
  requests : ticketsOf h = List.range s.issued
  answers : answersOf h = s.answers
  order : s.answers.map Prod.fst ++ s.queue.map SessionRequest.ticket = List.range s.issued
  drained : s.phase ≠ .running → s.queue = []

/-- What is queued was not touched, and what is settled has met its fate. -/
structure Kept (p : Connection.Pipeline) (s : Session) (h : List Dealing) : Prop where
  pipeline : s.pipeline = p
  queued : ∀ r ∈ s.queue, .submitted r.ticket r.op false ∈ h ∧ callsOf r.ticket h = []
  fresh : ∀ t, s.issued ≤ t → callsOf t h = []
  settled : ∀ a ∈ s.answers, ∃ op late, .submitted a.1 op late ∈ h ∧
    Fate p a.1 op late (callsOf a.1 h) a.2
  /-- Nothing is answered without a call as long as the session runs. -/
  called : s.phase = .running → ∀ a ∈ s.answers, callsOf a.1 h ≠ []

/-- Messages are handed over in the order in which they were submitted, and there is a last
    call. -/
structure Ordered (p : Connection.Pipeline) (s : Session) (h : List Dealing) : Prop where
  pipeline : s.pipeline = p
  whole : s.phase = .running → submissionsOf p h = handedOf h ++ framesOf p s.queue
  part : handedOf h <+: submissionsOf p h
  unfinished : s.phase = .running → ∀ e ∈ h, e.isLast = false
  follows : h.Pairwise Follows

section Histories

variable {p : Connection.Pipeline} {s s' : Session} {h es : List Dealing}

theorem Tallied.deal (hi : Tallied s h) (hd : Deals s es s') : Tallied s' (h ++ es) := by
  cases hd with
  | settles calls rs s' hdeal =>
      rcases hdeal.account with ⟨-, hissued, hqueue, hanswers⟩
      rcases hdeal.unasked s.pipeline with ⟨hnone, hunasked, -⟩
      rcases parts_of_answering s.pipeline (rs.map Settled.answer) with ⟨has, hts, -⟩
      refine ⟨?_, ?_, ?_, fun hover => ?_⟩
      · rw [ticketsOf_append, ticketsOf_append, hunasked, hts, List.append_nil, hi.requests,
          hissued]
        exact List.append_nil _
      · rw [answersOf_append, answersOf_append, hnone, has, hi.answers, hanswers]
        rfl
      · have horder := hi.order
        rw [hqueue, List.map_append, List.map_map, ← List.append_assoc] at horder
        rw [hanswers, hissued, List.map_append, List.map_map]
        exact horder
      · by_cases hrun : s.phase = .running
        · exact hdeal.ends hrun hover
        · have hnone := hi.drained hrun
          rw [hqueue] at hnone
          exact (List.append_eq_nil_iff.1 hnone).2
  | queues op hrun =>
      refine ⟨?_, ?_, ?_, fun hover => absurd hrun hover⟩
      · rw [ticketsOf_append, hi.requests, List.range_succ]
        rfl
      · rw [answersOf_append, hi.answers]
        exact List.append_nil _
      · rw [List.map_append, ← List.append_assoc, hi.order, List.range_succ]
        rfl
  | declines op hover =>
      have hnone := hi.drained hover
      have horder := hi.order
      rw [hnone, List.map_nil, List.append_nil] at horder
      refine ⟨?_, ?_, ?_, fun _ => hnone⟩
      · rw [ticketsOf_append, hi.requests, List.range_succ]
        rfl
      · rw [answersOf_append, hi.answers]
        rfl
      · rw [hnone, List.map_append, horder, List.range_succ]
        exact List.append_nil _

section Settling

variable {calls : List Dealing} {rs : List Settled}

-- The requests of a session are those that it settled before, those that it settles in a
-- step, and those that are queued still. No number is given twice.
theorem Tallied.apart (ht : Tallied s h) (hd : Deal s calls rs s') :
    (s.answers.map Prod.fst ++
      (rs.map Settled.ticket ++ s'.queue.map SessionRequest.ticket)).Nodup ∧
      ∀ t ∈ rs.map Settled.ticket, t < s.issued := by
  rcases hd.account with ⟨-, -, hqueue, -⟩
  have horder := ht.order
  rw [hqueue, List.map_append, List.map_map] at horder
  refine ⟨?_, fun t hsettled => ?_⟩
  · change (_ ++ (rs.map (SessionRequest.ticket ∘ Settled.request) ++ _)).Nodup
    rw [horder]
    exact List.nodup_range
  · rw [← List.mem_range, ← horder]
    exact List.mem_append_right _ (List.mem_append_left _ hsettled)

theorem callsOf_settles (t : Nat) :
    callsOf t (h ++ (calls ++ answering (rs.map Settled.answer))) =
      callsOf t h ++ callsOf t calls := by
  rw [callsOf_append, callsOf_append, callsOf_answering, List.append_nil]

-- A request that the step does not settle has no new calls.
theorem Deal.untouched (hd : Deal s calls rs s') {t : Nat} (ht : t ∉ rs.map Settled.ticket) :
    callsOf t (h ++ (calls ++ answering (rs.map Settled.answer))) = callsOf t h := by
  rw [callsOf_settles, hd.strangers t ht, List.append_nil]

-- One that it does settle was queued, and had none before.
theorem Kept.touched (hi : Kept p s h) (hd : Deal s calls rs s') {r : Settled} (hr : r ∈ rs) :
    .submitted r.ticket r.op false ∈ h ∧
      callsOf r.ticket (h ++ (calls ++ answering (rs.map Settled.answer))) =
        callsOf r.ticket calls := by
  rcases hd.account with ⟨-, -, hqueue, -⟩
  have hrequest : r.request ∈ s.queue := by
    rw [hqueue]
    exact List.mem_append_left _ (List.mem_map_of_mem hr)
  rcases hi.queued _ hrequest with ⟨hsubmitted, hnone⟩
  refine ⟨hsubmitted, ?_⟩
  rw [callsOf_settles, show callsOf r.ticket h = [] from hnone, List.nil_append]

theorem Kept.settle (hi : Kept p s h) (ht : Tallied s h) (hd : Deal s calls rs s') :
    Kept p s' (h ++ (calls ++ answering (rs.map Settled.answer))) := by
  rcases hd.account with ⟨hpipeline, hissued, hqueue, hanswers⟩
  rcases ht.apart hd with ⟨hnodup, hissue⟩
  rcases List.nodup_append.1 hnodup with ⟨-, hrest, hsettled⟩
  have hqueued : (s.queue.map SessionRequest.ticket).Nodup := by
    rw [hqueue, List.map_append, List.map_map]
    exact hrest
  have hold : ∀ a ∈ s.answers, a.1 ∉ rs.map Settled.ticket := fun a ha hnew =>
    hsettled a.1 (List.mem_map_of_mem ha) a.1 (List.mem_append_left _ hnew) rfl
  refine ⟨hpipeline.trans hi.pipeline, fun r hr => ?_, fun t hlate => ?_, fun a ha => ?_,
    fun hrun a ha => ?_⟩
  · have hbefore : r ∈ s.queue := by
      rw [hqueue]
      exact List.mem_append_right _ hr
    rcases hi.queued r hbefore with ⟨hsubmitted, hnone⟩
    refine ⟨List.mem_append_left _ hsubmitted, ?_⟩
    rw [hd.untouched fun hnew => (List.nodup_append.1 hrest).2.2 _ hnew _
      (List.mem_map_of_mem hr) rfl, hnone]
  · rw [hissued] at hlate
    rw [hd.untouched fun hnew => absurd (hissue t hnew) (Nat.not_lt.2 hlate), hi.fresh t hlate]
  · rw [hanswers] at ha
    rcases List.mem_append.1 ha with hbefore | hnew
    · rcases hi.settled a hbefore with ⟨op, late, hsubmitted, hfate⟩
      refine ⟨op, late, List.mem_append_left _ hsubmitted, ?_⟩
      rw [hd.untouched (hold a hbefore)]
      exact hfate
    · rcases List.mem_map.1 hnew with ⟨r, hr, rfl⟩
      rcases hi.touched hd hr with ⟨hsubmitted, hcalls⟩
      have hfate := hd.fates hqueued r hr
      unfold Settled.Fares at hfate
      rw [hi.pipeline, ← hcalls] at hfate
      exact ⟨r.op, false, List.mem_append_left _ hsubmitted, hfate⟩
  · rcases hd.runs hrun with ⟨hrunning, -, hcalled, -⟩
    rw [hanswers] at ha
    rcases List.mem_append.1 ha with hbefore | hnew
    · rw [hd.untouched (hold a hbefore)]
      exact hi.called hrunning a hbefore
    · rcases List.mem_map.1 hnew with ⟨r, hr, rfl⟩
      have hlast := hcalled r hr
      rw [← (hi.touched hd hr).2] at hlast
      exact hlast

end Settling

-- A request that is made has no calls yet.
theorem callsOf_asked (t ticket : Nat) (op : SessionOp) (late : Bool)
    (as : List (Nat × Except NetError Unit)) :
    callsOf t (h ++ .submitted ticket op late :: answering as) = callsOf t h := by
  rw [callsOf_append]
  change _ ++ callsOf t (answering as) = _
  rw [callsOf_answering, List.append_nil]

theorem Kept.deal (hi : Kept p s h) (ht : Tallied s h) (hd : Deals s es s') :
    Kept p s' (h ++ es) := by
  cases hd with
  | settles calls rs s' hdeal => exact hi.settle ht hdeal
  | queues op hrun =>
      have hsame := fun t => callsOf_asked (h := h) t s.issued op false []
      refine ⟨hi.pipeline, fun r hr => ?_, fun t hlate => ?_, fun a ha => ?_, fun _ a ha => ?_⟩
      · rcases List.mem_append.1 hr with hbefore | hnew
        · rcases hi.queued r hbefore with ⟨hsubmitted, hnone⟩
          exact ⟨List.mem_append_left _ hsubmitted, (hsame r.ticket).trans hnone⟩
        · rw [List.mem_singleton.1 hnew]
          exact ⟨List.mem_append_right _ List.mem_cons_self,
            (hsame s.issued).trans (hi.fresh s.issued le_rfl)⟩
      · exact (hsame t).trans (hi.fresh t (Nat.le_of_succ_le hlate))
      · rcases hi.settled a ha with ⟨op', late, hsubmitted, hfate⟩
        rw [← hsame] at hfate
        exact ⟨op', late, List.mem_append_left _ hsubmitted, hfate⟩
      · have hcalled := hi.called hrun a ha
        rw [← hsame] at hcalled
        exact hcalled
  | declines op hover =>
      have hsame := fun t =>
        callsOf_asked (h := h) t s.issued op true [(s.issued, Session.lateAnswer op)]
      refine ⟨hi.pipeline, fun r hr => ?_, fun t hlate => ?_, fun a ha => ?_,
        fun hrun => absurd hrun hover⟩
      · rw [ht.drained hover] at hr
        exact absurd hr List.not_mem_nil
      · exact (hsame t).trans (hi.fresh t (Nat.le_of_succ_le hlate))
      · rcases List.mem_append.1 ha with hbefore | hnew
        · rcases hi.settled a hbefore with ⟨op', late, hsubmitted, hfate⟩
          rw [← hsame] at hfate
          exact ⟨op', late, List.mem_append_left _ hsubmitted, hfate⟩
        · have hfate := fate_late p s.issued op
          rw [← hi.fresh s.issued le_rfl, ← hsame] at hfate
          rw [List.mem_singleton.1 hnew]
          exact ⟨op, true, List.mem_append_right _ List.mem_cons_self, hfate⟩

-- An answer may follow anything, and so may a request.
theorem follows_calm {e : Dealing} (h : e.isCall = false) (e' : Dealing) : Follows e' e :=
  fun _ => h

theorem Ordered.settle {calls : List Dealing} {rs : List Settled} (hi : Ordered p s h)
    (hd : Deal s calls rs s') :
    Ordered p s' (h ++ (calls ++ answering (rs.map Settled.answer))) := by
  rcases hd.account with ⟨hpipeline, -, hqueue, -⟩
  rcases hd.unasked p with ⟨-, -, hunasked⟩
  rcases parts_of_answering p (rs.map Settled.answer) with ⟨-, -, hsubmissions, hanswered, -⟩
  have hcalm := answering_cases (rs.map Settled.answer)
  have hsubmitted : submissionsOf p (h ++ (calls ++ answering (rs.map Settled.answer))) =
      submissionsOf p h := by
    rw [submissionsOf_append, submissionsOf_append, hunasked, hsubmissions]
    exact List.append_nil _
  have hhanded : handedOf (h ++ (calls ++ answering (rs.map Settled.answer))) =
      handedOf h ++ handedOf calls := by
    rw [handedOf_append, handedOf_append, hanswered, List.append_nil]
  refine ⟨hpipeline.trans hi.pipeline, fun hrun => ?_, ?_, fun hrun e he => ?_, ?_⟩
  · rcases hd.runs hrun with ⟨hrunning, -, -, hcalls⟩
    rw [hsubmitted, hhanded, hi.whole hrunning, hqueue, framesOf_append, hcalls, hi.pipeline,
      List.append_assoc]
  · rw [hsubmitted, hhanded]
    by_cases hrunning : s.phase = .running
    · rw [hi.whole hrunning, hqueue, framesOf_append]
      have hpart := hd.handed
      rw [hi.pipeline] at hpart
      exact (List.prefix_append_right_inj _).2 (hpart.trans (List.prefix_append _ _))
    · rcases hd.over hrunning with ⟨-, hnone, -⟩
      have hpart := hd.handed
      rw [hnone] at hpart
      rw [List.prefix_nil.1 hpart, List.append_nil]
      exact hi.part
  · rcases hd.runs hrun with ⟨hrunning, hnone, -, -⟩
    rcases List.mem_append.1 he with hbefore | hnew
    · exact hi.unfinished hrunning e hbefore
    · rcases List.mem_append.1 hnew with hcall | hanswer
      · exact hnone e hcall
      · exact (hcalm e hanswer).1
  · refine List.pairwise_append.2 ⟨hi.follows, List.pairwise_append.2 ⟨hd.alone, ?_, ?_⟩, ?_⟩
    · exact List.pairwise_of_forall_mem_list fun e _ e' he' => follows_calm (hcalm e' he').2 e
    · exact fun e _ e' he' => follows_calm (hcalm e' he').2 e
    · intro e he e' he'
      by_cases hrunning : s.phase = .running
      · intro hlast
        rw [hi.unfinished hrunning e he] at hlast
        cases hlast
      · refine follows_calm ?_ e
        rcases List.mem_append.1 he' with hcall | hanswer
        · exact (hd.over hrunning).2.2 e' hcall
        · exact (hcalm e' hanswer).2

-- A request that is made while the session runs is the last in the queue.
theorem Ordered.ask (hi : Ordered p s h) (t : Nat) (op : SessionOp) (late : Bool)
    (as : List (Nat × Except NetError Unit)) (hpipeline : s'.pipeline = s.pipeline)
    (hphase : s'.phase = s.phase)
    (hqueue : s.phase = .running → s'.queue = s.queue ++ [⟨t, op⟩]) :
    Ordered p s' (h ++ .submitted t op late :: answering as) := by
  rcases parts_of_answering p as with ⟨-, -, hsubmissions, hanswered, -⟩
  have hcalm : ∀ e ∈ Dealing.submitted t op late :: answering as,
      e.isLast = false ∧ e.isCall = false :=
    List.forall_mem_cons.2 ⟨⟨rfl, rfl⟩, answering_cases as⟩
  have hsubmitted : submissionsOf p (h ++ .submitted t op late :: answering as) =
      submissionsOf p h ++ framesOf p [⟨t, op⟩] := by
    rw [submissionsOf_append, ← List.singleton_append, submissionsOf_append, hsubmissions,
      List.append_nil]
    cases op with
    | send m => rfl
    | close => rfl
  have hhanded : handedOf (h ++ .submitted t op late :: answering as) = handedOf h := by
    rw [handedOf_append]
    change _ ++ handedOf (answering as) = _
    rw [hanswered, List.append_nil]
  refine ⟨hpipeline.trans hi.pipeline, fun hrun => ?_, ?_, fun hrun e he => ?_, ?_⟩
  · rw [hphase] at hrun
    rw [hsubmitted, hhanded, hi.whole hrun, hqueue hrun, framesOf_append, List.append_assoc]
  · rw [hsubmitted, hhanded]
    exact hi.part.trans (List.prefix_append _ _)
  · rw [hphase] at hrun
    rcases List.mem_append.1 he with hbefore | hnew
    · exact hi.unfinished hrun e hbefore
    · exact (hcalm e hnew).1
  · refine List.pairwise_append.2 ⟨hi.follows, ?_, ?_⟩
    · exact List.pairwise_of_forall_mem_list fun e _ e' he' => follows_calm (hcalm e' he').2 e
    · exact fun e _ e' he' => follows_calm (hcalm e' he').2 e

theorem Ordered.deal (hi : Ordered p s h) (hd : Deals s es s') : Ordered p s' (h ++ es) := by
  cases hd with
  | settles calls rs s' hdeal => exact hi.settle hdeal
  | queues op hrun => exact hi.ask s.issued op false [] rfl rfl fun _ => rfl
  | declines op hover =>
      exact hi.ask s.issued op true [(s.issued, Session.lateAnswer op)] rfl rfl fun hrun =>
        absurd hrun hover

end Histories

/-! ### Every schedule -/

namespace Duet

/-- The session after moves. -/
def moved (d : Duet) (ms : List Move) : Duet := Schedule.after move d ms

/-- What moves show. -/
def dealt (d : Duet) (ms : List Move) : List Dealing := Schedule.watch move dealings d ms

theorem moved_append (d : Duet) (ms us : List Move) :
    d.moved (ms ++ us) = (d.moved ms).moved us := Schedule.after_append d ms us

theorem moved_turns (d : Duet) (ts : List Turn) : d.moved (ts.map .turn) = d.after ts :=
  List.foldl_map

end Duet

/-- All that relates a session to its history. -/
structure Settling (p : Connection.Pipeline) (s : Session) (h : List Dealing) : Prop where
  tallied : Tallied s h
  kept : Kept p s h
  ordered : Ordered p s h

theorem settling_start (role : Role) (p : Connection.Pipeline) (window : Flow.Window)
    (keepAlive : Bool) : Settling p (Duet.facing role p window keepAlive).session [] where
  tallied := ⟨rfl, rfl, rfl, fun _ => rfl⟩
  kept := by
    refine ⟨rfl, ?_, fun t _ => rfl, ?_, ?_⟩
    · exact fun r hr => absurd hr List.not_mem_nil
    · exact fun a ha => absurd ha List.not_mem_nil
    · exact fun _ a ha => absurd ha List.not_mem_nil
  ordered := by
    refine ⟨rfl, fun _ => rfl, List.prefix_refl _, ?_, .nil⟩
    exact fun _ e he => absurd he List.not_mem_nil

theorem settling_moved (role : Role) (p : Connection.Pipeline) (window : Flow.Window)
    (keepAlive : Bool) (ms : List Move) :
    Settling p ((Duet.facing role p window keepAlive).moved ms).session
      ((Duet.facing role p window keepAlive).dealt ms) := by
  refine Schedule.invariant_after (P := fun (d : Duet) h => Settling p d.session h) ?_
    _ [] (settling_start role p window keepAlive) ms
  intro d h m hi
  have hd := deals_move d m
  exact ⟨hi.tallied.deal hd, hi.kept.deal hi.tallied hd, hi.ordered.deal hd⟩

/-! ### Requests that are served -/

section Served

variable {d : Duet} {h : List Dealing}

theorem answers_move (d : Duet) (m : Move) :
    d.session.answers <+: (d.move m).session.answers ∧
      d.session.issued ≤ (d.move m).session.issued := by
  have hd := deals_move d m
  generalize d.dealings m = es at hd
  generalize (d.move m).session = s' at hd
  cases hd with
  | settles calls rs s' hdeal =>
      rcases hdeal.account with ⟨-, hissued, -, hanswers⟩
      rw [hanswers, hissued]
      exact ⟨List.prefix_append _ _, le_rfl⟩
  | queues op hrun => exact ⟨List.prefix_refl _, Nat.le_succ _⟩
  | declines op hover => exact ⟨List.prefix_append _ _, Nat.le_succ _⟩

-- The request for which the codec is called is settled.
theorem answers_served (hrun : d.session.phase = .running) (hq : d.session.queue ≠ []) :
    d.session.answers.length <
      (d.move (.turn (.serve .request))).session.answers.length := by
  rcases List.exists_cons_of_ne_nil hq with ⟨⟨t, op⟩, rest, hqueue⟩
  rcases deal_request d.socket d.now hrun with ⟨rs, hdeal⟩
  rcases hdeal.account with ⟨-, -, -, hanswers⟩
  have hcalls : callsOf t (d.session.calls d.socket .request) ≠ [] := by
    unfold Session.calls
    rw [hqueue]
    cases op with
    | send m => rw [callsOf_self rfl]; exact List.cons_ne_nil _ _
    | close => rw [callsOf_self rfl]; exact List.cons_ne_nil _ _
  have hsettled : rs ≠ [] := by
    rintro rfl
    exact hcalls (hdeal.strangers t List.not_mem_nil)
  have hmove : (d.move (.turn (.serve .request))).session =
      ((d.session.serveRequest d.socket d.now).map Prod.fst).getD d.session := by
    unfold Duet.move
    dsimp only
    rw [d.serve_of_running .request hrun, acted_session]
    rfl
  rw [hmove, hanswers, List.length_append, List.length_map]
  have hlength := List.length_pos_of_ne_nil hsettled
  omega

theorem Tallied.length (ht : Tallied d.session h) :
    d.session.answers.length + d.session.queue.length = d.session.issued := by
  have hlength := congrArg List.length ht.order
  rw [List.length_append, List.length_map, List.length_map, List.length_range] at hlength
  exact hlength

-- Every time that a request is served one more is settled, as long as there is one.
theorem settled_of_served (us : List Move) : ∀ (d : Duet) (h : List Dealing),
    Tallied d.session h →
    min d.session.issued (d.session.answers.length + us.count (.turn (.serve .request))) ≤
      (d.moved us).session.answers.length := by
  induction us with
  | nil =>
      intro d h ht
      rw [List.count_nil, Nat.add_zero]
      exact Nat.min_le_right _ _
  | cons m rest ih =>
      intro d h ht
      have hrest := ih (d.move m) _ (ht.deal (deals_move d m))
      rcases answers_move d m with ⟨hanswers, hissued⟩
      have hgrow := hanswers.length_le
      have hlength := ht.length
      change _ ≤ ((d.move m).moved rest).session.answers.length
      by_cases hm : m = .turn (.serve .request)
      · subst hm
        rw [List.count_cons_self]
        by_cases hdone : d.session.queue = []
        · rw [hdone, List.length_nil] at hlength
          omega
        · have hrun : d.session.phase = .running := by
            by_contra hover
            exact hdone (ht.drained hover)
          have hserved := answers_served hrun hdone
          omega
      · rw [List.count_cons_of_ne hm]
        omega

end Served

/-! ### What is on the wire -/

section Wire

variable {s s' : Session} {calls es : List Dealing} {rs rs' : List Settled}
  {asked : List SessionOp} {fs : List Frame}

theorem Deal.taken (h : Deal s calls rs s') :
    takenOf calls =
      (acknowledged (rs.map Settled.outcome)).map (Message.frame s.pipeline) := by
  cases h with
  | aside s' hsame => rfl
  | hears s' hover hsame => rfl
  | accepts t m rest s' hrun hq hsame => rfl
  | leaves calls rs rest s' hrun hover hf hsame =>
      rw [List.map_append, acknowledged_append, acknowledged_dropped, List.append_nil]
      cases hf with
      | refused t m e rest hq => rfl
      | closes t r rest hq => rfl
      | released r hq => rfl
      | parts => rfl
      | stops => rfl

-- The requests that are settled are known by the state of the session before and after.
theorem Deal.outcomes (h : Deal s calls rs s') (h' : Dispatches s s' [] rs' fs) :
    rs.map Settled.outcome = rs'.map Settled.outcome := by
  rcases h.account with ⟨-, -, hqueue, hanswers⟩
  have hanswered : rs.map Settled.answer = rs'.map Settled.answer := by
    have hsame := h'.answers
    rw [hanswers] at hsame
    exact List.append_cancel_left hsame
  have hrequested : rs.map Settled.request = rs'.map Settled.request := by
    have hsame := h'.queue
    rw [hqueue] at hsame
    exact List.append_cancel_right ((List.append_nil _).symm.trans hsame)
  have hzip : ∀ qs : List Settled, qs.map Settled.outcome =
      ((qs.map Settled.request).map SessionRequest.op).zip
        ((qs.map Settled.answer).map Prod.snd) := by
    intro qs
    rw [List.map_map, List.map_map, List.zip_map']
    rfl
  rw [hzip rs, hzip rs', hanswered, hrequested]

theorem Deals.written (h : Deals s es s') (h' : Dispatches s s' asked rs' fs) :
    takenOf es = dataIn fs := by
  cases h with
  | settles calls rs s' hdeal =>
      rcases hdeal.account with ⟨-, hissued, -, -⟩
      rcases parts_of_answering s.pipeline (rs.map Settled.answer) with ⟨-, -, -, -, hnone⟩
      have hasked : asked = [] := by
        have hcount := h'.issued
        rw [hissued] at hcount
        exact List.length_eq_zero_iff.1 (by omega)
      subst hasked
      rw [takenOf_append, hnone, List.append_nil, hdeal.taken, hdeal.outcomes h', h'.data]
  | queues op hrun =>
      have hnone : rs'.map Settled.answer = [] :=
        List.append_right_eq_self.1 h'.answers.symm
      rw [h'.data, List.map_eq_nil_iff.1 hnone]
      rfl
  | declines op hover =>
      rw [h'.data, (h'.silent hover).2]
      rfl

end Wire

-- If nothing disturbs the codec, the frames that it took carry the data that is on the wire.
theorem taken_written (role : Role) (p : Connection.Pipeline) (window : Flow.Window)
    (keepAlive : Bool) (ts : List Turn) :
    let start := Duet.facing role p window keepAlive
    takenOf (start.dealt (ts.map .turn)) = dataIn (start.watch Duet.written ts) := by
  intro start
  induction ts using List.reverseRecOn with
  | nil => rfl
  | append_singleton ts t ih =>
      rcases dispatches_after role p window keepAlive ts with ⟨htidy, -⟩
      have hquiet : (start.after ts).session.phase = .running →
          (start.after ts).session.codec.IsQuiet := fun hrun =>
        ((delivering_after role p window keepAlive ts).runs hrun).1.quiet
      rcases dispatches_turn (start.after ts) t htidy hquiet with ⟨-, rs, hturn⟩
      have hdealt : start.dealt ((ts ++ [t]).map .turn) =
          start.dealt (ts.map .turn) ++ (start.after ts).dealings (.turn t) := by
        unfold Duet.dealt
        rw [List.map_append, Schedule.watch_append, List.map_singleton,
          Schedule.watch_singleton]
        change _ ++ (start.moved (ts.map .turn)).dealings _ = _
        rw [start.moved_turns]
      rw [hdealt, takenOf_append, ih, start.watch_concat, dataIn_append]
      congr 1
      exact (deals_move (start.after ts) (.turn t)).written hturn

/-! ### The requests of a session -/

-- Whatever the codec does, messages are handed to it in the order in which they were
-- submitted, and the answers are given in the order of the requests: one for each request,
-- all of them once the session has ended, and before that one more every time that a request
-- is served. The answer follows from the calls that were made and from when the request was
-- made. Nothing is sent or closed once a close was begun or read. If the codec is left
-- alone, what it took is what is on the wire.
theorem requests_settled_once (role : Role) (p : Connection.Pipeline) (window : Flow.Window)
    (keepAlive : Bool) (ms : List Move) :
    let start := Duet.facing role p window keepAlive
    let s := (start.moved ms).session
    let h := start.dealt ms
    handedOf h <+: submissionsOf p h ∧
      ticketsOf h = List.range s.issued ∧
      (answersOf h).map Prod.fst = List.range (answersOf h).length ∧
      (s.phase ≠ .running → (answersOf h).length = s.issued) ∧
      (∀ us : List Move,
        min s.issued ((answersOf h).length + us.count (.turn (.serve .request))) ≤
          (answersOf (start.dealt (ms ++ us))).length) ∧
      (∀ a ∈ answersOf h, ∃ op late, .submitted a.1 op late ∈ h ∧
        Fate p a.1 op late (callsOf a.1 h) a.2) ∧
      (s.phase = .running → ∀ a ∈ answersOf h, callsOf a.1 h ≠ []) ∧
      h.Pairwise Follows ∧
      (∀ ts : List Turn, ms = ts.map .turn →
        takenOf h = dataIn (start.watch Duet.written ts)) := by
  intro start s h
  have hi := settling_moved role p window keepAlive ms
  have hanswers : answersOf h = s.answers := hi.tallied.answers
  have hlength : s.answers.length + s.queue.length = s.issued := hi.tallied.length
  refine ⟨hi.ordered.part, hi.tallied.requests, ?_, fun hover => ?_, fun us => ?_, ?_, ?_,
    hi.ordered.follows, ?_⟩
  · have hpart : s.answers.map Prod.fst <+: List.range s.issued :=
      ⟨s.queue.map SessionRequest.ticket, hi.tallied.order⟩
    rw [hanswers, List.prefix_iff_eq_take.1 hpart, List.length_map, List.take_range]
    congr 1
    omega
  · rw [hanswers, ← hlength, show s.queue = [] from hi.tallied.drained hover]
    rfl
  · have hserved := settled_of_served us (start.moved ms) h hi.tallied
    rw [← start.moved_append] at hserved
    rw [hanswers, (settling_moved role p window keepAlive (ms ++ us)).tallied.answers]
    exact hserved
  · rw [hanswers]
    exact hi.kept.settled
  · rw [hanswers]
    exact hi.kept.called
  · rintro ts rfl
    exact taken_written role p window keepAlive ts

-- The codec refuses the first of three requests, and the two others were queued behind it.
example : ((Duet.facing .server [] (.bounded 1) true).moved
    [.turn (.submit (.send (.text [97]))), .turn (.submit .close),
      .turn (.submit (.send (.text [98]))), .disturb ⟨.server, .terminated, none⟩ .fresh,
      .turn (.serve .request), .turn (.submit (.send (.text [99])))]).session.answers =
    [(0, .error .webSocketCodec), (1, .ok ()), (2, .error .remoteClosed),
      (3, .error (.notRunning "websocket session closed"))] := rfl

end WebSocket

end DemandNet
