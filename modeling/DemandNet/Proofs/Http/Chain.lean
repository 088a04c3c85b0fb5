import DemandNet.Http.Site
import DemandNet.Proofs.Http.Acts
import DemandNet.Proofs.Routing.Selection

/-!
# What a Chain of Handlers Answers

The response of a request for which several handlers were asked in turn.

A chain is told apart into turns. Each turn is one handler at work on the exchange that the
one before it left, and the chain is the turns up to the first that fails. What the codec
gets is then a matter of the acts in these turns and of how the last of them ended. If some
handler flushed the head, the response was decided then, but for the rest of its body and
the way it ends. If none did, the end of the chain decides: a failure makes it 500, a miss
404, and otherwise the status is the one that was set last.

The body has the chunks that the codec took, in the order in which they were sent. It took all
that were acknowledged but perhaps the last one: a chunk that meets a codec that let go of the
body is acknowledged if nobody reads the request at that time.

A failure cuts off a response that was begun, as long as there is somebody left to do it. A
handler that collapses takes the end of the chain with it, so what it leaves of a body looks
like all of it.

A miss is not made good by a handler that sets a status later and leaves the head to the end
of the chain. Only one that flushes the head takes the request over for good.

## Main definitions

* `Turn`: A handler whose turn it is.
* `turnsTaken`: The turns of a chain.
* `InOrder`: Who is asked, and what they find.
* `IsResponseTo`: The response to what handlers did.
* `Answers`: A request is answered.

## Theorems

* `runHandlers_eq`: A chain is its turns.
* `account_turns`: What the turns have made of the exchange.
* `closes_of_untouched`, `ends_of_sent`: The end of a chain, when nobody flushed the head and
  when somebody did.
* `chain_answers_once`: One head goes to the codec, with what was sent behind it.
* `acknowledged_and_lost`: What the body and its end do not tell.
* `Site.respond_answers`: So a site responds with the handlers that its routes select.
* `Site.respond_unrouted`: Nothing is found where no route matches and there is no fallback.
* `miss_outlives_status`: The status of a response that no handler began.
-/

namespace DemandNet

namespace Http

open Connection (Pipeline)

/-! ### Turns -/

/-- A handler whose turn it is, and the exchange that it finds. -/
structure Turn where
  handler : Handler
  found : Exchange

namespace Turn

/-- What comes of waiting for the handler, if anything does. -/
def caught? (t : Turn) : Option (Except NetError Unit) := (t.handler.run t.found).1.caught?

/-- The result of the handler. To collapse is to break down, too. -/
def outcome (t : Turn) : Except NetError Unit := t.caught?.getD (.error panicked)

/-- The handler collapsed. -/
def collapsed (t : Turn) : Bool := t.caught?.isNone

/-- The exchange that the handler leaves. -/
def left (t : Turn) : Exchange := (t.handler.run t.found).2

/-- What the handler does. -/
def acts (t : Turn) : List Act := t.handler.acts t.found

/-- The handler did not find what was asked for. -/
def missed (t : Turn) : Bool :=
  match t.outcome with
  | .error (.notFound _) => true
  | _ => false

/-- The failure of the handler, if that is one that ends the chain. Not to find something is
    none as long as the head was not flushed. -/
def failure? (t : Turn) : Option NetError :=
  match t.outcome with
  | .ok () => none
  | .error (.notFound what) => if t.left.headSent then some (.notFound what) else none
  | .error e => some e

/-- How the chain ends with the handler, if it does. -/
def ending? (t : Turn) : Option ChainEnd :=
  t.failure?.map fun e => if t.collapsed then .unwound else .failed e

theorem failure?_of_missed {t : Turn} (hmissed : t.missed = true)
    (hunsent : t.left.headSent = false) : t.failure? = none := by
  unfold missed at hmissed
  unfold failure?
  split at hmissed
  next what houtcome => rw [houtcome, hunsent]; exact if_neg Bool.false_ne_true
  next => exact absurd hmissed Bool.false_ne_true

theorem missed_of_ok {t : Turn} (hok : t.outcome = .ok ()) :
    t.missed = false ∧ t.failure? = none := by
  rw [missed, failure?, hok]
  exact ⟨rfl, rfl⟩

end Turn

/-- The turns of handlers if all of them were asked. -/
def turnsOf (x : Exchange) : List Handler → List Turn
  | [] => []
  | h :: rest => ⟨h, x⟩ :: turnsOf (h.run x).2 rest

/-- The turns of handlers up to the first that fails. -/
def turnsTaken (x : Exchange) (handlers : List Handler) : List Turn :=
  Schedule.upTo (fun t => t.failure?.isSome) (turnsOf x handlers)

/-- The exchange after turns. -/
def leftBy (x : Exchange) : List Turn → Exchange
  | [] => x
  | t :: rest => leftBy t.left rest

/-- How a chain ends after turns, if one before them may not have found what was asked for. -/
def endingOf (missed : Bool) (turns : List Turn) : ChainEnd :=
  (turns.findSome? Turn.ending?).getD (.completed (missed || turns.any Turn.missed))

theorem turnsTaken_cons (x : Exchange) (h : Handler) (rest : List Handler) :
    turnsTaken x (h :: rest) =
      if (⟨h, x⟩ : Turn).failure?.isSome then [⟨h, x⟩]
      else ⟨h, x⟩ :: turnsTaken (h.run x).2 rest := rfl

-- A chain takes one turn after the other.
theorem runHandlers_cons (missed : Bool) (asked : Nat) (x : Exchange) (h : Handler)
    (rest : List Handler) :
    runHandlers missed asked x (h :: rest) =
      match (⟨h, x⟩ : Turn).ending? with
      | none =>
          runHandlers (missed || (⟨h, x⟩ : Turn).missed) (asked + 1) (⟨h, x⟩ : Turn).left rest
      | some ending => ⟨ending, asked + 1, (⟨h, x⟩ : Turn).left⟩ := by
  rw [runHandlers, Turn.ending?, Turn.failure?, Turn.missed, Turn.left, Turn.outcome,
    Turn.collapsed, Turn.caught?]
  rcases h.run x with ⟨outcome, y⟩
  dsimp only
  cases outcome.caught? with
  | none => rfl
  | some result =>
      cases result with
      | ok done =>
          dsimp only [Option.getD_some]
          rw [Bool.or_false]
          rfl
      | error e =>
          cases e with
          | notFound what =>
              dsimp only [Option.getD_some]
              cases hsent : y.headSent with
              | true =>
                  simp only [passesOn, hsent]
                  rfl
              | false =>
                  rw [Bool.or_true]
                  simp only [passesOn, hsent]
                  rfl
          | _ => rfl

theorem endingOf_cons (missed : Bool) (t : Turn) (rest : List Turn) :
    endingOf missed (t :: rest) =
      match t.ending? with
      | none => endingOf (missed || t.missed) rest
      | some ending => ending := by
  rw [endingOf, List.findSome?_cons]
  cases t.ending? with
  | none => rw [endingOf, List.any_cons, Bool.or_assoc]
  | some ending => rfl

theorem Turn.ending?_goesOn {t : Turn} (h : t.failure? = none) : t.ending? = none := by
  rw [Turn.ending?, h, Option.map_none]

theorem Turn.ending?_failed {t : Turn} {e : NetError} (h : t.failure? = some e) :
    t.ending? = some (if t.collapsed then .unwound else .failed e) := by
  rw [Turn.ending?, h, Option.map_some]

theorem turnsTaken_failed {x : Exchange} {h : Handler} {e : NetError}
    (hfail : (⟨h, x⟩ : Turn).failure? = some e) (rest : List Handler) :
    turnsTaken x (h :: rest) = [⟨h, x⟩] := by
  rw [turnsTaken_cons, hfail]
  rfl

theorem turnsTaken_goesOn {x : Exchange} {h : Handler} (hfail : (⟨h, x⟩ : Turn).failure? = none)
    (rest : List Handler) :
    turnsTaken x (h :: rest) = ⟨h, x⟩ :: turnsTaken (⟨h, x⟩ : Turn).left rest := by
  rw [turnsTaken_cons, hfail]
  rfl

theorem runHandlers_eq (handlers : List Handler) : ∀ (missed : Bool) (asked : Nat) (x : Exchange),
    runHandlers missed asked x handlers =
      { ending := endingOf missed (turnsTaken x handlers)
        asked := asked + (turnsTaken x handlers).length
        exchange := leftBy x (turnsTaken x handlers) } := by
  induction handlers with
  | nil =>
      intro missed asked x
      exact congrArg (fun m => (⟨.completed m, asked, x⟩ : ChainRun)) (Bool.or_false missed).symm
  | cons h rest ih =>
      intro missed asked x
      rw [runHandlers_cons]
      cases hfail : (⟨h, x⟩ : Turn).failure? with
      | none =>
          have hgoes := Turn.ending?_goesOn hfail
          rw [turnsTaken_goesOn hfail, endingOf_cons, hgoes, List.length_cons, leftBy]
          dsimp only
          rw [ih, Nat.add_assoc, Nat.add_comm 1]
      | some e =>
          rw [turnsTaken_failed hfail, endingOf_cons, Turn.ending?_failed hfail]
          rfl

/-- The turns of a chain: the handlers are asked in their order, each finds what the one
    before it left, and nobody is asked after a failure, but only then. -/
structure InOrder (x : Exchange) (handlers : List Handler) (turns : List Turn) : Prop where
  asked : turns.map Turn.handler <+: handlers
  each : ∀ before t later, turns = before ++ t :: later →
    t.found = leftBy x before ∧ (later ≠ [] → t.failure? = none)
  stops : turns.length < handlers.length → ∃ t ∈ turns.getLast?, t.failure? ≠ none

theorem inOrder_nil (x : Exchange) : InOrder x [] [] where
  asked := List.prefix_rfl
  each := fun before t later h =>
    absurd h.symm (List.append_ne_nil_of_right_ne_nil before (List.cons_ne_nil t later))
  stops := fun h => absurd h (Nat.lt_irrefl 0)

theorem each_cons (t : Turn) {turns : List Turn} (hgoes : turns ≠ [] → t.failure? = none)
    (heach : ∀ before u later, turns = before ++ u :: later →
      u.found = leftBy t.left before ∧ (later ≠ [] → u.failure? = none)) :
    ∀ before u later, t :: turns = before ++ u :: later →
      u.found = leftBy t.found before ∧ (later ≠ [] → u.failure? = none) := by
  intro before u later h
  rcases List.cons_eq_append_iff.1 h with ⟨rfl, hfirst⟩ | ⟨behind, rfl, hrest⟩
  · injection hfirst with hu hlater
    rw [hu, hlater]
    exact ⟨rfl, hgoes⟩
  · exact heach behind u later hrest

theorem inOrder_turnsTaken (handlers : List Handler) :
    ∀ x : Exchange, InOrder x handlers (turnsTaken x handlers) := by
  induction handlers with
  | nil => exact inOrder_nil
  | cons h rest ih =>
      intro x
      cases hfail : (⟨h, x⟩ : Turn).failure? with
      | some e =>
          rw [turnsTaken_failed hfail]
          constructor
          · exact List.prefix_append [h] rest
          · exact each_cons ⟨h, x⟩ (fun h => absurd rfl h) (inOrder_nil _).each
          · refine fun _ => ⟨⟨h, x⟩, rfl, ?_⟩
            rw [hfail]
            exact Option.some_ne_none e
      | none =>
          rw [turnsTaken_goesOn hfail]
          have hrest := ih (⟨h, x⟩ : Turn).left
          constructor
          · exact (List.prefix_cons_inj h).2 hrest.asked
          · exact each_cons ⟨h, x⟩ (fun _ => hfail) hrest.each
          · intro hlength
            rcases hrest.stops (Nat.lt_of_succ_lt_succ hlength) with ⟨u, hlast, hu⟩
            refine ⟨u, ?_, hu⟩
            rw [Option.mem_def] at hlast
            rw [Option.mem_def, List.getLast?_cons, hlast, Option.getD_some]

/-! ### The response so far -/

/-- What handlers do in their turns. -/
def actsOf (turns : List Turn) : List Act := turns.flatMap Turn.acts

/-- The heads that handlers flush in their turns. -/
def headsOf (turns : List Turn) : List ResponseHead := (actsOf turns).flatMap Act.heads

/-- The status that was set last, or the one that a response begins with. -/
def statusOf (turns : List Turn) : Nat :=
  ((actsOf turns).filterMap Act.status?).getLast?.getD 200

/-- The chunks that handlers send in their turns. -/
def chunksOf (turns : List Turn) : List Bytes := (actsOf turns).flatMap Act.chunks

/-- Those of them that are acknowledged. -/
def acknowledgedOf (turns : List Turn) : List Bytes := (actsOf turns).flatMap Act.acknowledged

-- By induction on the handlers: each of them keeps the account.
theorem account_turns {taken : Option Nat} {p : Pipeline} (handlers : List Handler) :
    ∀ (acts : List Act) (x : Exchange), Account taken p acts x →
      Account taken p (acts ++ actsOf (turnsTaken x handlers))
        (leftBy x (turnsTaken x handlers)) := by
  induction handlers with
  | nil =>
      intro acts x h
      have hnone : actsOf (turnsTaken x []) = [] := rfl
      rw [hnone, List.append_nil]
      exact h
  | cons handler rest ih =>
      intro acts x h
      have hfirst : Account taken p (acts ++ (⟨handler, x⟩ : Turn).acts)
          (⟨handler, x⟩ : Turn).left :=
        account_run handler acts x h
      cases hfail : (⟨handler, x⟩ : Turn).failure? with
      | some e =>
          rw [turnsTaken_failed hfail, actsOf, List.flatMap_singleton]
          exact hfirst
      | none =>
          rw [turnsTaken_goesOn hfail, actsOf, List.flatMap_cons, ← List.append_assoc]
          exact ih _ _ hfirst

/-! ### The end of a chain -/

/-- The status that the end of a chain gives a response that nobody began. -/
def closingStatus (r : ChainRun) : Nat :=
  match r.ending with
  | .completed missed => if missed then 404 else r.exchange.pending.status
  | .failed _ | .unwound => 500

/-- The failure that the end of a chain cuts a response off with. -/
def ChainEnd.failure? : ChainEnd → Option NetError
  | .completed _ | .unwound => none
  | .failed e => some e

/-- The heads that the codec is handed when the handlers are done: one that is flushed then,
    or the one that stands in for a response that nobody began. -/
def closingHeads (x y : Exchange) : List ResponseHead :=
  x.newHead y ++ if y.sent.isNone then [y.response.head] else []

namespace Exchange

variable {x y : Exchange}

theorem response_of_body {head : ResponseHead} (hsent : y.sent = some head)
    (hbodiless : y.bodiless = false) :
    y.response = ⟨head, y.sink.written, (y.failure.map BodyEnd.broken).getD .complete⟩ := by
  rw [response, hsent, hbodiless]
  rfl

theorem response_of_bodiless {head : ResponseHead} (hsent : y.sent = some head)
    (hbodiless : y.bodiless = true) : y.response = ⟨head, [], .complete⟩ := by
  rw [response, hsent, hbodiless]
  rfl

theorem response_of_unsent (hsent : y.sent = none) :
    y.response = ⟨⟨500, []⟩, [], .complete⟩ := by
  rw [response, hsent]

end Exchange

/-- What the end of a chain makes of a response whose head was flushed. -/
structure Ends (taken : Option Nat) (r : ChainRun) (head : ResponseHead) : Prop where
  sent : (concludeChain r).sent = some head
  bodiless : (concludeChain r).bodiless = r.exchange.bodiless
  failure : (concludeChain r).failure = r.ending.failure?
  written : r.exchange.Open taken ∨ r.exchange.Shut →
    (concludeChain r).sink.written = r.exchange.sink.written

theorem ends_of_sent (taken : Option Nat) {r : ChainRun} {head : ResponseHead}
    (hsent : r.exchange.sent = some head) (hfailure : r.exchange.failure = none) :
    Ends taken r head := by
  have htrue := Exchange.headSent_eq_true hsent
  have hdraft : r.exchange.sent = none → r.exchange.bodiless = false := by
    intro hnone
    exact absurd (hsent.symm.trans hnone) (Option.some_ne_none head)
  cases hending : r.ending with
  | completed missed =>
      have hend : concludeChain r = r.exchange.finish := by
        simp only [concludeChain, hending, htrue, Bool.not_true, Bool.and_false]
        exact if_neg Bool.false_ne_true
      have hbegun := Exchange.begins_sendHeaders hdraft
      constructor
      · rw [hend]
        exact hbegun.sent.trans (by rw [hsent]; rfl)
      · rw [hend]
        exact hbegun.bodiless
      · rw [hend, hending]
        exact hbegun.failure.trans hfailure
      · intro hready
        rw [hend]
        exact Exchange.written_finish hdraft hready
  | failed e =>
      have hend : concludeChain r = r.exchange.abort e := by
        simp only [concludeChain, hending, htrue, Bool.or_true, if_true]
      constructor
      · rw [hend]
        exact hsent
      · rw [hend]
        rfl
      · rw [hend, hending]
        rfl
      · intro _
        rw [hend]
        rfl
  | unwound =>
      have hend : concludeChain r = r.exchange := by
        simp only [concludeChain, hending]
      constructor
      · rw [hend]
        exact hsent
      · rw [hend]
      · rw [hend, hending]
        exact hfailure
      · intro _
        rw [hend]

/-- What the end of a chain makes of a response that nobody began. -/
structure Closes (x : Exchange) (status : Nat) (y : Exchange) : Prop where
  heads : closingHeads x y = [y.response.head]
  status : y.response.head.status = status
  body : y.response.body = []
  ending : y.response.ending = .complete

/-- A response of which the codec has got nothing. -/
structure Untouched (x : Exchange) : Prop where
  sent : x.sent = none
  bodiless : x.bodiless = false
  failure : x.failure = none
  ready : ∃ taken, x.Open taken
  written : x.sink.written = []

theorem closes_finish {x : Exchange} (h : Untouched x) (pending : ResponseHead) :
    Closes x pending.status { x with pending }.finish := by
  have hdraft : { x with pending }.sent = none → { x with pending }.bodiless = false :=
    fun _ => h.bodiless
  rcases h.ready with ⟨taken, hready⟩
  have hopen : { x with pending }.Open taken := hready.same ⟨rfl, rfl, rfl⟩
  have hbegun := Exchange.begins_sendHeaders hdraft
  have hwritten : { x with pending }.finish.sink.written = [] :=
    (Exchange.written_finish hdraft (Or.inl hopen)).trans h.written
  have hbodiless : { x with pending }.finish.bodiless = false := hbegun.bodiless.trans h.bodiless
  have hfailure : { x with pending }.finish.failure = none := hbegun.failure.trans h.failure
  have hsent : { x with pending }.finish.sent =
      some (Exchange.ResponseHead.onTheWire pending x.keepAlive) := by
    refine hbegun.sent.trans ?_
    rw [h.sent]
    rfl
  have hresponse := Exchange.response_of_body hsent hbodiless
  constructor
  · rw [closingHeads, Exchange.newHead_of_sent h.sent hsent, hsent, hresponse]
    rfl
  · rw [hresponse]
    exact Exchange.onTheWire_status pending x.keepAlive
  · rw [hresponse, hwritten]
  · rw [hresponse, hfailure]
    rfl

theorem closes_setStatus {x : Exchange} (h : Untouched x) (status : Nat) :
    Closes x status (x.setStatus status).2.finish := by
  rw [Exchange.setStatus, Exchange.change_early h.sent]
  exact closes_finish h { x.pending with status }

theorem closingHeads_of_sent {x y : Exchange} {head : ResponseHead} (hx : x.sent = some head)
    (hy : y.sent = some head) : closingHeads x y = [] := by
  rw [closingHeads, Exchange.newHead_of_kept (hy.trans hx.symm), hy]
  rfl

-- If nobody is left to answer, the codec answers for itself.
theorem closes_unsent {x y : Exchange} (hx : x.sent = none) (hy : y.sent = none) :
    Closes x 500 y := by
  have hresponse := Exchange.response_of_unsent hy
  constructor
  · rw [closingHeads, Exchange.newHead_of_kept (hy.trans hx.symm), hy]
    rfl
  · rw [hresponse]
  · rw [hresponse]
  · rw [hresponse]

theorem closes_of_untouched {r : ChainRun} (h : Untouched r.exchange) :
    Closes r.exchange (closingStatus r) (concludeChain r) := by
  have hfalse := Exchange.headSent_eq_false h.sent
  cases hending : r.ending with
  | completed missed =>
      rw [closingStatus, hending]
      cases missed with
      | true =>
          have hend : concludeChain r = (r.exchange.setStatus 404).2.finish := by
            simp only [concludeChain, hending, hfalse, Bool.not_false, Bool.and_true, if_true]
          rw [hend]
          exact closes_setStatus h 404
      | false =>
          have hend : concludeChain r = r.exchange.finish := by
            simp only [concludeChain, hending, Bool.false_and]
            exact if_neg Bool.false_ne_true
          rw [hend]
          exact closes_finish h r.exchange.pending
  | failed e =>
      rw [closingStatus, hending]
      cases hgone : e.isRemoteClosed with
      | true =>
          have hend : concludeChain r = r.exchange.abort e := by
            simp only [concludeChain, hending, hgone, Bool.true_or, if_true]
          rw [hend]
          exact closes_unsent h.sent h.sent
      | false =>
          have hend : concludeChain r = (r.exchange.setStatus 500).2.finish := by
            simp only [concludeChain, hending, hgone, hfalse, Bool.or_self]
            exact if_neg Bool.false_ne_true
          rw [hend]
          exact closes_setStatus h 500
  | unwound =>
      have hend : concludeChain r = r.exchange := by
        simp only [concludeChain, hending]
      rw [closingStatus, hending, hend]
      exact closes_unsent h.sent h.sent

/-! ### The response -/

/-- What the codec gets when handlers have had their turns, and how that depends on what they
    did and on how many chunks it takes. -/
structure IsResponseTo (taken : Option Nat) (p : Pipeline) (turns : List Turn)
    (response : Response) : Prop where
  /-- Nobody found what was asked for, or there was nobody to ask. -/
  missing : headsOf turns = [] → (∀ t ∈ turns, t.missed = true) → response.head.status = 404
  /-- Somebody failed, or the client is gone. -/
  failed : headsOf turns = [] → (∃ t ∈ turns, t.failure? ≠ none) → response.head.status = 500
  /-- Everybody was content and left the head to the end of the chain. -/
  settled : headsOf turns = [] → turns ≠ [] → (∀ t ∈ turns, t.outcome = .ok ()) →
    response.head.status = statusOf turns
  /-- Nothing is sent behind the head of an upgrade. -/
  switched : Switched (actsOf turns) → response.body = []
  /-- Chunks are acknowledged in the order in which they are sent, and all of them are as long
      as there is room. -/
  acknowledged : ¬ Switched (actsOf turns) → acknowledgedOf turns <+: chunksOf turns ∧
    ((∀ n, taken = some n → (chunksOf turns).length ≤ n) →
      acknowledgedOf turns = chunksOf turns)
  /-- What is acknowledged is taken, but perhaps the last chunk, -/
  body : ¬ Switched (actsOf turns) →
    response.body = (Exchange.takenOf taken (acknowledgedOf turns)).map p.outbound ∧
      ∀ n, taken = some n → (acknowledgedOf turns).length ≤ n + 1
  /-- and only if nobody read the request when it was sent. -/
  lossless : ¬ Switched (actsOf turns) → ¬ SentUnread (actsOf turns) →
    response.body = (acknowledgedOf turns).map p.outbound
  /-- The failure comes too late for the status and cuts the response off. -/
  broken : headsOf turns ≠ [] → ¬ Switched (actsOf turns) →
    ∀ t ∈ turns, ∀ e, t.failure? = some e → t.collapsed = false → response.ending = .broken e
  complete : (headsOf turns = [] ∨ Switched (actsOf turns) ∨ ∀ t ∈ turns, t.failure? = none) →
    response.ending = .complete

section Answer

variable {x : Exchange} {handlers : List Handler} {turns : List Turn}

theorem leftBy_concat (before : List Turn) (t : Turn) :
    ∀ x, leftBy x (before ++ [t]) = t.left := by
  induction before with
  | nil => exact fun x => rfl
  | cons u rest ih => exact fun x => ih u.left

-- A failure is that of the last turn, and there is no other.
theorem failed_last (h : InOrder x handlers turns) {t : Turn} (ht : t ∈ turns) {e : NetError}
    (hfail : t.failure? = some e) (missed : Bool) :
    leftBy x turns = t.left ∧
      endingOf missed turns = if t.collapsed then .unwound else .failed e := by
  rcases List.append_of_mem ht with ⟨before, later, hturns⟩
  have hlater : later = [] := by
    by_contra hmore
    have hnone := (h.each before t later hturns).2 hmore
    exact absurd (hfail.symm.trans hnone) (Option.some_ne_none e)
  have hbefore : before.findSome? Turn.ending? = none := by
    refine List.findSome?_eq_none_iff.2 fun u hu => Turn.ending?_goesOn ?_
    rcases List.append_of_mem hu with ⟨first, behind, hsplit⟩
    have hearlier : turns = first ++ u :: (behind ++ t :: later) := by
      rw [hturns, hsplit, List.append_assoc, List.cons_append]
    exact (h.each first u _ hearlier).2
      (List.append_ne_nil_of_right_ne_nil _ (List.cons_ne_nil t later))
  rw [hlater] at hturns
  rw [hturns]
  refine ⟨leftBy_concat before t x, ?_⟩
  rw [endingOf, List.findSome?_append, hbefore, Option.none_or, List.findSome?_singleton,
    Turn.ending?_failed hfail, Option.getD_some]

theorem completed_of_goesOn (h : ∀ t ∈ turns, t.failure? = none) (missed : Bool) :
    endingOf missed turns = .completed (missed || turns.any Turn.missed) := by
  rw [endingOf, List.findSome?_eq_none_iff.2 fun t ht => Turn.ending?_goesOn (h t ht),
    Option.getD_none]

-- Not to find something is a failure only if the head was flushed.
theorem goesOn_of_missed (h : InOrder x handlers turns) (hunsent : (leftBy x turns).sent = none)
    {t : Turn} (ht : t ∈ turns) (hmissed : t.missed = true) : t.failure? = none := by
  by_contra hfail
  rcases Option.ne_none_iff_exists'.1 hfail with ⟨e, he⟩
  have hlast := (failed_last h ht he false).1
  rw [hlast] at hunsent
  exact hfail (Turn.failure?_of_missed hmissed (Exchange.headSent_eq_false hunsent))

theorem empty_of_no_turns (h : InOrder x handlers []) : handlers = [] := by
  by_contra hsome
  rcases h.stops (List.length_pos_iff.2 hsome) with ⟨t, ht, _⟩
  exact absurd ht.symm (Option.some_ne_none t)

theorem untouched_of_account {taken : Option Nat} {p : Pipeline}
    (h : Account taken p (actsOf turns) x) (hsent : x.sent = none) :
    Untouched x ∧ acknowledgedOf turns = [] := by
  have hbody := h.body (h.bodiless_of_draft hsent)
  rw [h.silent hsent] at hbody
  rcases hbody.of_nothing with ⟨hopen, hacked, hwritten⟩
  exact ⟨⟨hsent, h.bodiless_of_draft hsent, h.failure, ⟨taken, hopen⟩, hwritten⟩, hacked⟩

/-- The run of a chain that ends like its turns. -/
def runOf (x : Exchange) (handlers : List Handler) (turns : List Turn) : ChainRun :=
  ⟨endingOf handlers.isEmpty turns, turns.length, leftBy x turns⟩

-- The status is that of the ending, whatever it was that handlers set.
theorem status_completed {taken : Option Nat} {p : Pipeline}
    (haccount : Account taken p (actsOf turns) (leftBy x turns))
    (hsent : (leftBy x turns).sent = none) (hgoes : ∀ t ∈ turns, t.failure? = none) :
    (concludeChain (runOf x handlers turns)).response.head.status =
      if handlers.isEmpty || turns.any Turn.missed then 404 else statusOf turns := by
  have hcloses := closes_of_untouched (r := runOf x handlers turns)
    (untouched_of_account haccount hsent).1
  have hstatus : (leftBy x turns).pending.status = statusOf turns := haccount.status hsent
  rw [hcloses.status, closingStatus, runOf, completed_of_goesOn hgoes, hstatus]

theorem headsOf_eq {taken : Option Nat} {p : Pipeline} (h : Account taken p (actsOf turns) x) :
    headsOf turns = x.sent.toList := h.heads

-- If no handler began the response, the end of the chain did.
theorem answers_unsent {taken : Option Nat} {p : Pipeline} (h : InOrder x handlers turns)
    (haccount : Account taken p (actsOf turns) (leftBy x turns))
    (hsent : (leftBy x turns).sent = none) :
    IsResponseTo taken p turns (concludeChain (runOf x handlers turns)).response := by
  have hheads : headsOf turns = [] := by
    rw [headsOf_eq haccount, hsent]
    rfl
  have hbodiless := haccount.bodiless_of_draft hsent
  have hstays : ¬ Switched (actsOf turns) := by
    rw [← haccount.bodiless, hbodiless]
    exact Bool.false_ne_true
  rcases untouched_of_account haccount hsent with ⟨huntouched, hacked⟩
  have hcloses := closes_of_untouched (r := runOf x handlers turns) huntouched
  constructor
  · intro _ hmissed
    have hgoes : ∀ t ∈ turns, t.failure? = none := fun t ht =>
      goesOn_of_missed h hsent ht (hmissed t ht)
    have hany : (handlers.isEmpty || turns.any Turn.missed) = true := by
      cases hturns : turns with
      | nil =>
          rw [hturns] at h
          rw [empty_of_no_turns h]
          rfl
      | cons t rest =>
          rw [hturns] at hmissed
          rw [List.any_cons, hmissed t List.mem_cons_self, Bool.true_or, Bool.or_true]
    rw [status_completed haccount hsent hgoes, if_pos hany]
  · intro _ ⟨t, ht, hfail⟩
    rcases Option.ne_none_iff_exists'.1 hfail with ⟨e, he⟩
    rw [hcloses.status, closingStatus, runOf, (failed_last h ht he _).2]
    cases t.collapsed <;> rfl
  · intro _ hturns hok
    have hgoes : ∀ t ∈ turns, t.failure? = none := fun t ht => (Turn.missed_of_ok (hok t ht)).2
    have hany : ¬ turns.any Turn.missed = true := by
      rw [Bool.not_eq_true]
      refine List.any_eq_false.2 fun t ht => ?_
      rw [(Turn.missed_of_ok (hok t ht)).1]
      exact Bool.false_ne_true
    have hasked : ¬ handlers.isEmpty = true := by
      intro hempty
      have hprefix := h.asked
      rw [List.isEmpty_iff.1 hempty, List.prefix_nil, List.map_eq_nil_iff] at hprefix
      exact hturns hprefix
    rw [status_completed haccount hsent hgoes, if_neg]
    rw [Bool.or_eq_true]
    exact fun h => h.elim hasked hany
  · exact fun hswitch => absurd hswitch hstays
  · intro _
    rw [hacked]
    exact ⟨List.nil_prefix, fun _ => (haccount.silent hsent).symm⟩
  · intro _
    rw [hacked, hcloses.body, Exchange.takenOf_nil]
    exact ⟨rfl, fun n _ => Nat.zero_le (n + 1)⟩
  · intro _ _
    rw [hacked, hcloses.body]
    rfl
  · exact fun hflushed => absurd hheads hflushed
  · exact fun _ => hcloses.ending

-- What the end of the chain adds to a response that was begun is how it ends.
theorem response_sent (handlers : List Handler) {taken : Option Nat} {p : Pipeline}
    {head : ResponseHead} (haccount : Account taken p (actsOf turns) (leftBy x turns))
    (hsent : (leftBy x turns).sent = some head) :
    (Switched (actsOf turns) →
        (concludeChain (runOf x handlers turns)).response = ⟨head, [], .complete⟩) ∧
      (¬ Switched (actsOf turns) →
        Exchange.Delivered taken p (SentUnread (actsOf turns)) (chunksOf turns)
            (acknowledgedOf turns) (leftBy x turns) ∧
          (concludeChain (runOf x handlers turns)).response =
            ⟨head, (leftBy x turns).sink.written,
              ((endingOf handlers.isEmpty turns).failure?.map BodyEnd.broken).getD .complete⟩) := by
  have hends := ends_of_sent taken (r := runOf x handlers turns) hsent haccount.failure
  have hbodiless : (concludeChain (runOf x handlers turns)).bodiless = true ↔
      Switched (actsOf turns) := by
    rw [hends.bodiless]
    exact haccount.bodiless
  constructor
  · exact fun hswitch => Exchange.response_of_bodiless hends.sent (hbodiless.2 hswitch)
  · intro hstays
    rw [← hbodiless, Bool.not_eq_true] at hstays
    have hbody := haccount.body (hends.bodiless.symm.trans hstays)
    refine ⟨hbody, ?_⟩
    rw [Exchange.response_of_body hends.sent hstays, hends.failure, hends.written hbody.ready,
      runOf]

theorem answers_sent {taken : Option Nat} {p : Pipeline} {head : ResponseHead}
    (h : InOrder x handlers turns) (haccount : Account taken p (actsOf turns) (leftBy x turns))
    (hsent : (leftBy x turns).sent = some head) :
    (concludeChain (runOf x handlers turns)).response.head = head ∧
      IsResponseTo taken p turns (concludeChain (runOf x handlers turns)).response := by
  have hheads : headsOf turns ≠ [] := by
    rw [headsOf_eq haccount, hsent]
    exact List.cons_ne_nil head []
  rcases response_sent handlers haccount hsent with ⟨hswitched, hstays⟩
  constructor
  · by_cases hswitch : Switched (actsOf turns)
    · rw [hswitched hswitch]
    · rw [(hstays hswitch).2]
  constructor
  · exact fun hnone => absurd hnone hheads
  · exact fun hnone => absurd hnone hheads
  · exact fun hnone => absurd hnone hheads
  · intro hswitch
    rw [hswitched hswitch]
  · exact fun hswitch => (hstays hswitch).1.acknowledged_in_order
  · intro hswitch
    rw [(hstays hswitch).2]
    exact (hstays hswitch).1.written_eq
  · intro hswitch hread
    rw [(hstays hswitch).2]
    exact (hstays hswitch).1.written_of_read hread
  · intro _ hswitch t ht e he hcaught
    rw [(hstays hswitch).2, (failed_last h ht he _).2, hcaught]
    rfl
  · intro hgoes
    by_cases hswitch : Switched (actsOf turns)
    · rw [hswitched hswitch]
    · have hall : ∀ t ∈ turns, t.failure? = none :=
        (hgoes.resolve_left hheads).resolve_left hswitch
      rw [(hstays hswitch).2, completed_of_goesOn hall]
      rfl

end Answer

theorem runHandlers_runOf (x : Exchange) (handlers : List Handler) :
    runHandlers handlers.isEmpty 0 x handlers = runOf x handlers (turnsTaken x handlers) := by
  rw [runHandlers_eq, Nat.zero_add, runOf]

theorem runChain_eq (x : Exchange) (handlers : List Handler) :
    runChain handlers x = concludeChain (runOf x handlers (turnsTaken x handlers)) :=
  congrArg concludeChain (runHandlers_runOf x handlers)

theorem account_startFor (codec : Codec) (settings : Settings) (incoming : Incoming)
    (frames : List BodyFrame) (ending : Option BodyEnd) (handlers : List Handler) :
    let x := Exchange.startFor codec settings incoming frames ending
    Account codec.patience.taken? settings.pipeline (actsOf (turnsTaken x handlers))
      (leftBy x (turnsTaken x handlers)) :=
  account_turns handlers [] _ (.of_startFor codec settings incoming frames ending)

/-- What becomes of an exchange when handlers are asked: they have their turns, and one head
    goes to the codec. -/
structure Answers (taken : Option Nat) (p : Pipeline) (x : Exchange) (handlers : List Handler) :
    Prop where
  order : InOrder x handlers (turnsTaken x handlers)
  run : runHandlers handlers.isEmpty 0 x handlers = runOf x handlers (turnsTaken x handlers)
  heads : headsOf (turnsTaken x handlers) ++
      closingHeads (leftBy x (turnsTaken x handlers)) (runChain handlers x) =
    [(runChain handlers x).response.head]
  response : IsResponseTo taken p (turnsTaken x handlers) (runChain handlers x).response

-- The handlers and the end of the chain work on the same head, of which there is one.
theorem answers_startFor (codec : Codec) (settings : Settings) (incoming : Incoming)
    (frames : List BodyFrame) (ending : Option BodyEnd) (handlers : List Handler) :
    Answers codec.patience.taken? settings.pipeline
      (.startFor codec settings incoming frames ending) handlers := by
  have haccount := account_startFor codec settings incoming frames ending handlers
  dsimp only at haccount
  generalize Exchange.startFor codec settings incoming frames ending = x at haccount ⊢
  have horder : InOrder x handlers (turnsTaken x handlers) := inOrder_turnsTaken handlers x
  refine ⟨horder, runHandlers_runOf x handlers, ?_, ?_⟩
  · rw [headsOf_eq haccount, runChain_eq]
    cases hsent : (leftBy x (turnsTaken x handlers)).sent with
    | none => exact (closes_of_untouched (untouched_of_account haccount hsent).1).heads
    | some head =>
        have hends := ends_of_sent codec.patience.taken?
          (r := runOf x handlers (turnsTaken x handlers)) hsent haccount.failure
        rw [closingHeads_of_sent hsent hends.sent, (answers_sent horder haccount hsent).1]
        rfl
  · rw [runChain_eq]
    cases hsent : (leftBy x (turnsTaken x handlers)).sent with
    | none => exact answers_unsent horder haccount hsent
    | some head => exact (answers_sent horder haccount hsent).2

theorem not_switched {turns : List Turn} {acts : List Act} (hacts : actsOf turns = acts)
    (h : ∀ a ∈ acts, a.upgrades = false) : ¬ Switched (actsOf turns) := by
  rw [hacts]
  rintro ⟨a, ha, hupgrades, _⟩
  exact Bool.false_ne_true ((h a ha).symm.trans hupgrades)

/-- An exchange that no handler has seen. -/
def unseen : Exchange :=
  .start ⟨true, .bounded 1, []⟩ ⟨"7", ⟨"GET", "/maybe", none, .http11, []⟩, []⟩ [] none

/-- The first handler finds nothing. The third finds nothing either, but the second has flushed
    the head by then. -/
example : (runChain [.fail (.notFound "a"), .attempt (.send [65]) .ok, .fail (.notFound "b")]
    unseen).response = ⟨⟨200, [("x-request-id", [55])]⟩, [[65]], .broken (.notFound "b")⟩ := by
  rfl

/-! ### Sites -/

namespace Site

variable (s : Site) (codec : Codec) (settings : Settings) (generated : String) (r : Request)

theorem respond_answers :
    let x := Exchange.startFor codec settings (s.incoming generated r) r.frames r.ending
    s.respond codec settings generated r =
        codec.gets (runChain (s.handlers generated r) x).response ∧
      Answers codec.patience.taken? settings.pipeline x (s.handlers generated r) :=
  ⟨rfl, answers_startFor codec settings (s.incoming generated r) r.frames r.ending _⟩

-- All that match are asked, and the fallback is asked only if none does.
theorem handlers_eq : s.handlers generated r =
    let matching := s.routes.filter fun route => (route.1.test r.head.method r.head.path).isSome
    (if matching.isEmpty then s.fallback.toList else matching.map Prod.snd).map
      fun responder => responder (s.incoming generated r) := by
  unfold handlers
  simp only [Routing.RouteTable.handlers_select, List.isEmpty_map]

theorem respond_unrouted
    (hroutes : ∀ route ∈ s.routes, route.1.test r.head.method r.head.path = none)
    (hfallback : s.fallback = none) :
    ∃ response, s.respond codec settings generated r = codec.gets response ∧
      response.head.status = 404 ∧ response.body = [] ∧ response.ending = .complete := by
  have hnone : s.handlers generated r = [] := by
    have hmatching : (s.routes.filter fun route =>
        (route.1.test r.head.method r.head.path).isSome) = [] := by
      refine List.filter_eq_nil_iff.2 fun route hroute => ?_
      rw [hroutes route hroute]
      exact Bool.false_ne_true
    rw [handlers_eq]
    dsimp only
    rw [hmatching, hfallback]
    rfl
  have hanswers := s.respond_answers codec settings generated r
  dsimp only at hanswers
  rw [hnone] at hanswers
  have hstays : ¬ Switched (actsOf []) := not_switched rfl fun _ ha => absurd ha List.not_mem_nil
  refine ⟨_, hanswers.1, ?_, ?_, ?_⟩
  · exact hanswers.2.response.missing rfl fun _ ht => absurd ht List.not_mem_nil
  · refine (hanswers.2.response.lossless hstays ?_).trans rfl
    exact fun ⟨_, ha, _⟩ => absurd ha List.not_mem_nil
  · exact hanswers.2.response.complete (Or.inl rfl)

end Site

/-! ### Misses -/

-- Whether somebody missed is remembered to the end of the chain, and nothing that is done
-- to the head makes it forgotten but to flush it.
theorem miss_outlives_status (settings : Settings) (incoming : Incoming)
    (frames : List BodyFrame) (ending : Option BodyEnd) (handlers : List Handler)
    (hgoes : ∀ t ∈ turnsTaken (.start settings incoming frames ending) handlers,
      t.failure? = none)
    (hunsent : headsOf (turnsTaken (.start settings incoming frames ending) handlers) = []) :
    (runChain handlers (.start settings incoming frames ending)).response.head.status =
      if handlers.isEmpty ||
          (turnsTaken (.start settings incoming frames ending) handlers).any Turn.missed then 404
      else statusOf (turnsTaken (.start settings incoming frames ending) handlers) := by
  unfold Exchange.start at hgoes hunsent ⊢
  have haccount := account_startFor (.steady incoming.head.version) settings incoming frames ending
    handlers
  have hsent := headsOf_eq haccount
  rw [hunsent, eq_comm, Option.toList_eq_nil_iff] at hsent
  rw [runChain_eq, status_completed haccount hsent hgoes]

/-- A handler that finds nothing, and one that takes the request with a status of its own. -/
def missThenAccept : List Handler := [.fail (.notFound "first"), .attempt (.setStatus 202) .ok]

theorem missThenAccept_goesOn : ∀ t ∈ turnsTaken unseen missThenAccept, t.failure? = none :=
  List.forall_mem_cons.2 ⟨rfl, List.forall_mem_cons.2 ⟨rfl, fun _ ht => absurd ht List.not_mem_nil⟩⟩

theorem missThenAccept_not_found :
    (∀ t ∈ turnsTaken unseen missThenAccept, t.failure? = none) ∧
      headsOf (turnsTaken unseen missThenAccept) = [] ∧
        statusOf (turnsTaken unseen missThenAccept) = 202 ∧
          (runChain missThenAccept unseen).response.head.status = 404 := by
  refine ⟨missThenAccept_goesOn, rfl, rfl, ?_⟩
  exact miss_outlives_status _ _ _ _ missThenAccept missThenAccept_goesOn rfl

-- A handler that takes the request after the last miss would have to be heard.
theorem status_behind_miss_lost :
    ¬ ∀ (settings : Settings) (incoming : Incoming) (frames : List BodyFrame)
        (ending : Option BodyEnd) (handlers : List Handler),
      let x := Exchange.start settings incoming frames ending
      let turns := turnsTaken x handlers
      (∀ t ∈ turns, t.failure? = none) → headsOf turns = [] →
        ∀ before t later, turns = before ++ t :: later → t.missed = true →
          (∀ u ∈ later, u.missed = false) →
            (∃ u ∈ later, u.outcome = .ok () ∧ ∃ a ∈ u.acts, a.status? ≠ none) →
              (runChain handlers x).response.head.status = statusOf turns := by
  intro h
  have hlater := h _ _ _ _ missThenAccept missThenAccept_goesOn rfl [] _ _ rfl rfl
    (List.forall_mem_cons.2 ⟨rfl, fun _ ht => absurd ht List.not_mem_nil⟩)
    ⟨_, List.mem_cons_self, rfl, _, List.mem_cons_self, Option.some_ne_none 202⟩
  exact absurd hlater (by decide)

end Http

end DemandNet
