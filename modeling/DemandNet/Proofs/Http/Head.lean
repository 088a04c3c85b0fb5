import DemandNet.Http.Handler
import DemandNet.Proofs.Http.Values
import DemandNet.Proofs.Schedule
import Mathlib.Tactic.Common

/-!
# A Response Has One Head

What becomes of the head of a response, whoever works on it and in whatever order.

Everybody who has a hand on an exchange works on the same head, so the operations of all
of them are one sequence. Two of them let go of the head between editing and sending it; they
are there as a whole and in halves, so that a sequence may also say what others did in
between. Up to the first operation that flushes, the head is a draft that
each operation may edit. That operation edits it once more and sends it, and from then on
there is nothing to edit: an operation that would have changed the head fails, and one that
would have sent it again does nothing.

Headers are compared name by name. What is sent of a name is what the operations wrote of
it, the last one that replaced its values and all that added to them since, so nothing
depends on the order in which names were first mentioned.

## Main definitions

* `HeadOp`: An operation that has to do with the head.
* `HeadOp.status?`, `HeadOp.valuesOf`: What it writes.
* `Exchange.amend`: The first half of an answer without a body.
* `IsSentBy`: The head that operations send.
* `IsOnTime`, `IsLate`: What an operation does before and after the head was sent.
* `SameHead`: Two exchanges are alike as to their heads.

## Theorems

* `values_replaceHeaders`: The values of a name when headers replace others.
* `reject_halves`, `commitSwitch_halves`: Two operations are their halves.
* `performHead_early`, `performHead_late`: One operation, before and after the flush.
* `draft_after`, `sent_after`: Many operations.
* `sent_by_first`: The first operation that flushes sends, and no other.
* `head_committed_once`: One head is sent, as the operations up to the flush made it.
-/

namespace DemandNet

namespace Http

/-! ### The values of a name -/

theorem values_replaceHeaders (h others : Headers) (name : String) :
    (Exchange.replaceHeaders h others).values name =
      if others.values name = [] then h.values name else others.values name := by
  unfold Exchange.replaceHeaders
  rw [Headers.values_concat, Headers.values_filter h fun n => !Headers.contains others n]
  by_cases hnone : others.values name = []
  · have hout : Headers.contains others name = false := by
      rw [← Bool.not_eq_true, Headers.contains_iff]
      exact not_not.2 hnone
    rw [if_pos hnone, hnone, hout, if_pos (by decide), List.append_nil]
  · have hin : Headers.contains others name = true := (Headers.contains_iff others name).2 hnone
    rw [if_neg hnone, hin, if_neg (by decide), List.nil_append]

/-! ### Operations on the head -/

/-- An operation that has to do with the head of a response. -/
inductive HeadOp where
  | setStatus (status : Nat)
  | setHeader (name : String) (value : Bytes)
  | addHeader (name : String) (value : Bytes)
  | sendHeaders
  | send (chunk : Bytes)
  | reject (status : Nat) (headers : Headers)
  | commitSwitch (headers : Headers)
  | finish
  /-- The first half of `reject`. -/
  | beginReject (status : Nat) (headers : Headers)
  /-- The first half of `commitSwitch`. -/
  | beginSwitch (headers : Headers)
  /-- The second half of both. -/
  | sendBodiless

namespace HeadOp

/-- The operation needs the head on its way. -/
def flushes : HeadOp → Bool
  | setStatus _ => false
  | setHeader _ _ => false
  | addHeader _ _ => false
  | beginReject _ _ => false
  | beginSwitch _ => false
  | _ => true

/-- The status that an operation writes. -/
def status? : HeadOp → Option Nat
  | setStatus s => some s
  | reject s _ => some s
  | commitSwitch _ => some 101
  | beginReject s _ => some s
  | beginSwitch _ => some 101
  | _ => none

/-- What an operation makes of the values of a name. Headers that come with an answer
    replace the values of the names they have. -/
def valuesOf (name : String) (old : List Bytes) : HeadOp → List Bytes
  | setHeader other value => if other = name then [value] else old
  | addHeader other value => if other = name then old ++ [value] else old
  | reject _ headers => if headers.values name = [] then old else headers.values name
  | commitSwitch headers => if headers.values name = [] then old else headers.values name
  | beginReject _ headers => if headers.values name = [] then old else headers.values name
  | beginSwitch headers => if headers.values name = [] then old else headers.values name
  | _ => old

/-- What an operation makes of the draft of a head. -/
def edit (draft : ResponseHead) : HeadOp → ResponseHead
  | setStatus status => { draft with status }
  | setHeader name value => { draft with headers := draft.headers.insert name value }
  | addHeader name value => { draft with headers := draft.headers.append name value }
  | reject status headers =>
      { status, headers := Exchange.replaceHeaders draft.headers headers }
  | commitSwitch headers =>
      { status := 101, headers := Exchange.replaceHeaders draft.headers headers }
  | beginReject status headers =>
      { status, headers := Exchange.replaceHeaders draft.headers headers }
  | beginSwitch headers =>
      { status := 101, headers := Exchange.replaceHeaders draft.headers headers }
  | _ => draft

/-- The answer of an operation while the head is a draft. That of a chunk depends on the
    writer. -/
def earlyAnswer? : HeadOp → Option HandlerAnswer
  | send _ => none
  | sendHeaders => some (.flag true)
  | _ => some .done

/-- The answer of an operation that comes too late to do anything. A chunk is never too
    late for the head, and neither is the end. -/
def lateAnswer? : HeadOp → Option HandlerAnswer
  | setStatus _ => some (.failed .headersSent)
  | setHeader _ _ => some (.failed .headersSent)
  | addHeader _ _ => some (.failed .headersSent)
  | commitSwitch _ => some (.failed (.upgrade "cannot upgrade after headers sent"))
  | beginSwitch _ => some (.failed (.upgrade "cannot upgrade after headers sent"))
  | reject _ _ => some .done
  | beginReject _ _ => some .done
  | sendBodiless => some .done
  | sendHeaders => some (.flag false)
  | send _ => none
  | finish => none

theorem edit_status (draft : ResponseHead) (op : HeadOp) :
    (op.edit draft).status = op.status?.getD draft.status := by
  cases op <;> rfl

theorem edit_values (draft : ResponseHead) (op : HeadOp) (name : String) :
    (op.edit draft).headers.values name = op.valuesOf name (draft.headers.values name) := by
  cases op with
  | setHeader other value => exact Headers.values_insert _ _ _ _
  | addHeader other value =>
      rw [edit, Headers.values_append, valuesOf]
      by_cases hname : other = name
      · rw [if_pos hname, if_pos hname]
      · rw [if_neg hname, if_neg hname, List.append_nil]
  | reject status headers => exact values_replaceHeaders _ _ _
  | commitSwitch headers => exact values_replaceHeaders _ _ _
  | beginReject status headers => exact values_replaceHeaders _ _ _
  | beginSwitch headers => exact values_replaceHeaders _ _ _
  | setStatus status => rfl
  | sendHeaders => rfl
  | send chunk => rfl
  | finish => rfl
  | sendBodiless => rfl

end HeadOp

/-- The draft that operations leave. -/
def draftOf (draft : ResponseHead) (ops : List HeadOp) : ResponseHead :=
  ops.foldl HeadOp.edit draft

theorem draftOf_status (ops : List HeadOp) :
    ∀ draft, (draftOf draft ops).status =
      (ops.filterMap HeadOp.status?).getLast?.getD draft.status := by
  induction ops with
  | nil => exact fun draft => rfl
  | cons op rest ih =>
      intro draft
      have hrest := ih (op.edit draft)
      rw [HeadOp.edit_status] at hrest
      change (draftOf (op.edit draft) rest).status = _
      rw [hrest, List.filterMap_cons]
      cases hop : op.status? with
      | none => rfl
      | some s =>
          dsimp only
          rw [List.getLast?_cons, Option.getD_some, Option.getD_some]

theorem draftOf_values (ops : List HeadOp) (name : String) :
    ∀ draft, (draftOf draft ops).headers.values name =
      ops.foldl (HeadOp.valuesOf name) (draft.headers.values name) := by
  induction ops with
  | nil => exact fun draft => rfl
  | cons op rest ih =>
      intro draft
      have hrest := ih (op.edit draft)
      rw [HeadOp.edit_values] at hrest
      exact hrest

namespace Exchange

/-- Make the draft that of an answer without a body, unless the head was sent. -/
def amend (x : Exchange) (status : Nat) (headers : Headers) : Exchange :=
  if x.headSent then x
  else { x with pending := { status, headers := replaceHeaders x.pending.headers headers } }

/-- Perform an operation on the head. -/
def performHead (x : Exchange) : HeadOp → HandlerAnswer × Exchange
  | .setStatus status => x.perform (.setStatus status)
  | .setHeader name value => x.perform (.setHeader name value)
  | .addHeader name value => x.perform (.addHeader name value)
  | .sendHeaders => x.perform .sendHeaders
  | .send chunk => x.perform (.send chunk)
  | .reject status headers => (.done, x.reject status headers)
  | .commitSwitch headers =>
      let (r, x) := x.commitSwitch headers
      (.ofResult r, x)
  | .finish => (.done, x.finish)
  | .beginReject status headers => (.done, x.amend status headers)
  | .beginSwitch headers =>
      if x.headSent then (.failed (.upgrade "cannot upgrade after headers sent"), x)
      else (.done, x.amend 101 headers)
  | .sendBodiless => (.done, (x.flush true).2)

/-- The exchange after an operation on its head. -/
def headTurn (x : Exchange) (op : HeadOp) : Exchange := (x.performHead op).2

/-- The exchange after operations on its head. -/
def afterHeads (x : Exchange) (ops : List HeadOp) : Exchange := Schedule.after headTurn x ops

/-- The head that was sent on the way from one exchange to another. -/
def newHead (x y : Exchange) : List ResponseHead := if y.sent = x.sent then [] else y.sent.toList

/-- The head that an operation sends. -/
def headsSent (x : Exchange) (op : HeadOp) : List ResponseHead := x.newHead (x.headTurn op)

/-- Two exchanges are alike as to their heads. -/
structure SameHead (x y : Exchange) : Prop where
  keepAlive : y.keepAlive = x.keepAlive
  pending : y.pending = x.pending
  sent : y.sent = x.sent
  bodiless : y.bodiless = x.bodiless

theorem newHead_of_kept {x y : Exchange} (h : y.sent = x.sent) : x.newHead y = [] := if_pos h

theorem newHead_of_sent {x y : Exchange} {head : ResponseHead} (hx : x.sent = none)
    (hy : y.sent = some head) : x.newHead y = [head] := by
  have hnew : y.sent ≠ x.sent := by
    rw [hx, hy]
    exact Option.some_ne_none head
  rw [newHead, if_neg hnew, hy]
  rfl

theorem headSent_eq_false {x : Exchange} (h : x.sent = none) : x.headSent = false := by
  rw [headSent, h]
  rfl

theorem not_headSent {x : Exchange} (h : x.sent = none) : ¬ x.headSent = true := by
  rw [headSent_eq_false h]
  exact Bool.false_ne_true

theorem headSent_eq_true {x : Exchange} {head : ResponseHead} (h : x.sent = some head) :
    x.headSent = true := by
  rw [headSent, h]
  rfl

theorem sameHead_write (x : Exchange) (op : Connection.WriteOp) : SameHead x (x.write op).2 :=
  ⟨rfl, rfl, rfl, rfl⟩

theorem flush_late {x : Exchange} {head : ResponseHead} (h : x.sent = some head)
    (bodiless : Bool) : x.flush bodiless = (false, x) := by
  rw [flush, if_pos (headSent_eq_true h)]

/-- An exchange whose head is on its way. -/
structure Flushed (x : Exchange) (bodiless : Bool) (y : Exchange) : Prop where
  keepAlive : y.keepAlive = x.keepAlive
  sent : y.sent = some (ResponseHead.onTheWire x.pending x.keepAlive)
  status : y.pending.status = x.pending.status
  bodiless : y.bodiless = bodiless

theorem flush_early (x : Exchange) (h : x.sent = none) (bodiless : Bool) :
    (x.flush bodiless).1 = true ∧ Flushed x bodiless (x.flush bodiless).2 := by
  rw [flush, if_neg (not_headSent h)]
  cases bodiless <;> exact ⟨rfl, rfl, rfl, rfl, rfl⟩

theorem Flushed.same {x y z : Exchange} {bodiless : Bool} (h : Flushed x bodiless y)
    (h' : SameHead y z) : Flushed x bodiless z where
  keepAlive := h'.keepAlive.trans h.keepAlive
  sent := h'.sent.trans h.sent
  status := by rw [h'.pending]; exact h.status
  bodiless := h'.bodiless.trans h.bodiless

theorem sameHead_finish (x : Exchange) : SameHead x.sendHeaders.2 x.finish :=
  ⟨rfl, rfl, rfl, rfl⟩

/-! ### One operation -/

/-- What an operation does while the head is a draft: it edits the draft, and sends it if it
    needs it on its way. -/
structure IsOnTime (x : Exchange) (op : HeadOp) : Prop where
  keepAlive : (x.headTurn op).keepAlive = x.keepAlive
  drafts : op.flushes = false →
    (x.headTurn op).sent = none ∧ (x.headTurn op).pending = op.edit x.pending
  sends : op.flushes = true →
    (x.headTurn op).sent = some (ResponseHead.onTheWire (op.edit x.pending) x.keepAlive) ∧
      (x.headTurn op).pending.status = (op.edit x.pending).status
  answer : ∀ a, op.earlyAnswer? = some a → (x.performHead op).1 = a

/-- What an operation does once the head was sent: nothing to the head, and nothing at all
    if it is too late. -/
structure IsLate (x : Exchange) (op : HeadOp) : Prop where
  sent : (x.headTurn op).sent = x.sent
  pending : (x.headTurn op).pending = x.pending
  answer : ∀ a, op.lateAnswer? = some a → x.performHead op = (a, x)

theorem change_early {x : Exchange} (h : x.sent = none) (f : ResponseHead → ResponseHead) :
    x.change f = (.ok (), { x with pending := f x.pending }) := by
  rw [change, if_neg (not_headSent h)]

theorem change_late {x : Exchange} {head : ResponseHead} (h : x.sent = some head)
    (f : ResponseHead → ResponseHead) : x.change f = (.error .headersSent, x) := by
  rw [change, if_pos (headSent_eq_true h)]

theorem amend_early {x : Exchange} (h : x.sent = none) (status : Nat) (headers : Headers) :
    x.amend status headers =
      { x with pending := { status, headers := replaceHeaders x.pending.headers headers } } := by
  rw [amend, if_neg (not_headSent h)]

theorem amend_late {x : Exchange} {head : ResponseHead} (h : x.sent = some head) (status : Nat)
    (headers : Headers) : x.amend status headers = x := by
  rw [amend, if_pos (headSent_eq_true h)]

-- If the head was sent neither half does anything.
theorem reject_halves (x : Exchange) (status : Nat) (headers : Headers) :
    x.reject status headers = ((x.amend status headers).flush true).2 := by
  cases h : x.sent with
  | none =>
      rw [amend_early h, reject, if_neg (not_headSent h)]
  | some head =>
      rw [amend_late h, flush_late h, reject, if_pos (headSent_eq_true h)]

theorem commitSwitch_halves (x : Exchange) (headers : Headers) :
    x.commitSwitch headers =
      (if x.headSent then .error (.upgrade "cannot upgrade after headers sent") else .ok (),
        ((x.amend 101 headers).flush true).2) := by
  cases h : x.sent with
  | none =>
      rw [amend_early h, commitSwitch, if_neg (not_headSent h), if_neg (not_headSent h)]
  | some head =>
      have htrue := headSent_eq_true h
      rw [amend_late h, flush_late h, commitSwitch, if_pos htrue, if_pos htrue]

theorem amend_flushed {x : Exchange} (h : x.sent = none) (status : Nat) (headers : Headers) :
    Flushed { x with pending := ⟨status, replaceHeaders x.pending.headers headers⟩ } true
      ((x.amend status headers).flush true).2 := by
  rw [amend_early h]
  exact (flush_early { x with pending := ⟨status, replaceHeaders x.pending.headers headers⟩ } h
    true).2

-- An operation that flushes does nothing else to the head but, perhaps, edit it first.
theorem isOnTime_of_flushed {x : Exchange} {op : HeadOp} {bodiless : Bool}
    (hop : op.flushes = true)
    (hflush : Flushed { x with pending := op.edit x.pending } bodiless (x.headTurn op))
    (hanswer : ∀ a, op.earlyAnswer? = some a → (x.performHead op).1 = a) : IsOnTime x op where
  keepAlive := hflush.keepAlive
  drafts := fun h => absurd (hop.symm.trans h) (by decide)
  sends := fun _ => ⟨hflush.sent, hflush.status⟩
  answer := hanswer

theorem isOnTime_of_change {x : Exchange} {op : HeadOp} (hx : x.sent = none)
    (hop : op.flushes = false) (hearly : op.earlyAnswer? = some .done)
    (hturn : x.performHead op = (.done, { x with pending := op.edit x.pending })) :
    IsOnTime x op := by
  have hnext : x.headTurn op = { x with pending := op.edit x.pending } := congrArg Prod.snd hturn
  constructor
  · rw [hnext]
  · intro _
    rw [hnext]
    exact ⟨hx, rfl⟩
  · exact fun h => absurd (hop.symm.trans h) (by decide)
  · intro a ha
    rw [hearly, Option.some.injEq] at ha
    rw [hturn, ha]

theorem performHead_early {x : Exchange} (h : x.sent = none) (op : HeadOp) : IsOnTime x op := by
  have hflush := flush_early x h false
  cases op with
  | setStatus status =>
      refine isOnTime_of_change h rfl rfl ?_
      simp only [performHead, perform, setStatus, change_early h, HandlerAnswer.ofResult,
        HeadOp.edit]
  | setHeader name value =>
      refine isOnTime_of_change h rfl rfl ?_
      simp only [performHead, perform, setHeader, change_early h, HandlerAnswer.ofResult,
        HeadOp.edit]
  | addHeader name value =>
      refine isOnTime_of_change h rfl rfl ?_
      simp only [performHead, perform, addHeader, change_early h, HandlerAnswer.ofResult,
        HeadOp.edit]
  | sendHeaders =>
      refine isOnTime_of_flushed rfl hflush.2 fun a ha => ?_
      rw [← Option.some.inj ha]
      exact congrArg HandlerAnswer.flag hflush.1
  | send chunk =>
      exact isOnTime_of_flushed rfl (hflush.2.same (sameHead_write _ _)) fun a ha => nomatch ha
  | reject status headers =>
      have hflushed := amend_flushed h status headers
      rw [← reject_halves] at hflushed
      exact isOnTime_of_flushed rfl hflushed fun a ha => Option.some.inj ha
  | commitSwitch headers =>
      have hnext : x.performHead (.commitSwitch headers) =
          (.done, ((x.amend 101 headers).flush true).2) := by
        rw [performHead, commitSwitch_halves,
          if_neg (not_headSent h)]
        rfl
      have hflushed := amend_flushed h 101 headers
      rw [← congrArg Prod.snd hnext] at hflushed
      refine isOnTime_of_flushed rfl hflushed fun a ha => ?_
      rw [hnext, ← Option.some.inj ha]
  | finish =>
      refine isOnTime_of_flushed rfl (hflush.2.same (sameHead_finish x)) fun a ha => ?_
      exact Option.some.inj ha
  | beginReject status headers =>
      refine isOnTime_of_change h rfl rfl ?_
      simp only [performHead, amend_early h, HeadOp.edit]
  | beginSwitch headers =>
      refine isOnTime_of_change h rfl rfl ?_
      rw [performHead, if_neg (not_headSent h),
        amend_early h, HeadOp.edit]
  | sendBodiless =>
      exact isOnTime_of_flushed rfl (flush_early x h true).2 fun a ha => Option.some.inj ha

theorem isLate_of_refused {x : Exchange} {op : HeadOp} {a : HandlerAnswer}
    (hlate : op.lateAnswer? = some a) (hturn : x.performHead op = (a, x)) : IsLate x op := by
  have hnext : x.headTurn op = x := congrArg Prod.snd hturn
  constructor
  · rw [hnext]
  · rw [hnext]
  · intro b hb
    rw [hlate, Option.some.injEq] at hb
    rw [hturn, hb]

theorem performHead_late {x : Exchange} {head : ResponseHead} (h : x.sent = some head)
    (op : HeadOp) : IsLate x op := by
  have hflush : x.sendHeaders = (false, x) := flush_late h false
  cases op with
  | setStatus status =>
      refine isLate_of_refused rfl ?_
      simp only [performHead, perform, setStatus, change_late h, HandlerAnswer.ofResult]
  | setHeader name value =>
      refine isLate_of_refused rfl ?_
      simp only [performHead, perform, setHeader, change_late h, HandlerAnswer.ofResult]
  | addHeader name value =>
      refine isLate_of_refused rfl ?_
      simp only [performHead, perform, addHeader, change_late h, HandlerAnswer.ofResult]
  | sendHeaders =>
      refine isLate_of_refused rfl ?_
      simp only [performHead, perform, hflush]
  | send chunk =>
      have hsame : SameHead x (x.headTurn (.send chunk)) := by
        have hnext : x.headTurn (.send chunk) = (x.sendHeaders.2.write (.write chunk)).2 := rfl
        rw [hnext, hflush]
        exact sameHead_write x (.write chunk)
      exact ⟨hsame.sent, hsame.pending, fun a ha => nomatch ha⟩
  | reject status headers =>
      refine isLate_of_refused rfl ?_
      simp only [performHead, reject_halves, amend_late h, flush_late h]
  | commitSwitch headers =>
      refine isLate_of_refused rfl ?_
      simp only [performHead, commitSwitch_halves, headSent_eq_true h, amend_late h, flush_late h,
        HandlerAnswer.ofResult, if_true]
  | finish =>
      have hsame : SameHead x (x.headTurn .finish) := by
        have hfinish := sameHead_finish x
        rw [hflush] at hfinish
        exact hfinish
      exact ⟨hsame.sent, hsame.pending, fun a ha => nomatch ha⟩
  | beginReject status headers =>
      refine isLate_of_refused rfl ?_
      simp only [performHead, amend_late h]
  | beginSwitch headers =>
      refine isLate_of_refused rfl ?_
      rw [performHead, if_pos (headSent_eq_true h)]
  | sendBodiless =>
      refine isLate_of_refused rfl ?_
      simp only [performHead, flush_late h]

/-! ### Many operations -/

-- By induction on the operations: as long as none of them flushes, each only edits.
theorem draft_after (ops : List HeadOp) (hops : ∀ op ∈ ops, op.flushes = false) :
    ∀ x : Exchange, x.sent = none →
      (x.afterHeads ops).sent = none ∧ (x.afterHeads ops).pending = draftOf x.pending ops ∧
        (x.afterHeads ops).keepAlive = x.keepAlive := by
  induction ops with
  | nil => exact fun x hx => ⟨hx, rfl, rfl⟩
  | cons op rest ih =>
      intro x hx
      have hearly := performHead_early hx op
      have hturn := hearly.drafts (hops op List.mem_cons_self)
      have hrest := ih (fun o ho => hops o (List.mem_cons_of_mem _ ho)) (x.headTurn op) hturn.1
      refine ⟨hrest.1, ?_, hrest.2.2.trans hearly.keepAlive⟩
      have hpending := hrest.2.1
      rw [hturn.2] at hpending
      exact hpending

theorem sent_after (ops : List HeadOp) {head : ResponseHead} :
    ∀ x : Exchange, x.sent = some head →
      (x.afterHeads ops).sent = some head ∧ (x.afterHeads ops).pending = x.pending := by
  induction ops with
  | nil => exact fun x hx => ⟨hx, rfl⟩
  | cons op rest ih =>
      intro x hx
      have hlate := performHead_late hx op
      have hrest := ih (x.headTurn op) (hlate.sent.trans hx)
      exact ⟨hrest.1, hrest.2.trans hlate.pending⟩

theorem headsSent_late (ops : List HeadOp) {head : ResponseHead} (x : Exchange)
    (hx : x.sent = some head) : Schedule.watch headTurn headsSent x ops = [] := by
  refine (Schedule.watch_eq_nil (P := fun y => y.sent = some head) ops ?_ x hx).1
  intro op _ y hy
  have hlate := performHead_late hy op
  exact ⟨newHead_of_kept hlate.sent, hlate.sent.trans hy⟩

theorem headsSent_early (ops : List HeadOp) (hops : ∀ op ∈ ops, op.flushes = false) (x : Exchange)
    (hx : x.sent = none) : Schedule.watch headTurn headsSent x ops = [] := by
  refine (Schedule.watch_eq_nil (P := fun y => y.sent = none) ops ?_ x hx).1
  intro op hop y hy
  have hturn := (performHead_early hy op).drafts (hops op hop)
  exact ⟨newHead_of_kept (hturn.1.trans hy.symm), hturn.1⟩

/-- The head that operations send, counted from the beginning of an exchange: the status
    that was written last, and of each name the values that were written, except that an
    exchange that is not kept alive says so, unless it switches the protocol. -/
structure IsSentBy (x : Exchange) (ops : List HeadOp) (head : ResponseHead) : Prop where
  status : head.status = (ops.filterMap HeadOp.status?).getLast?.getD 200
  values : ∀ name, head.headers.values name =
    if name = "connection" ∧ x.keepAlive = false ∧ head.status ≠ 101 then [Bytes.ofText "close"]
    else ops.foldl (HeadOp.valuesOf name)
      (if name = RequestId.headerName then [Bytes.ofText x.incoming.id] else [])

theorem onTheWire_eq (draft : ResponseHead) (keepAlive : Bool) :
    ResponseHead.onTheWire draft keepAlive =
      if keepAlive = false ∧ draft.status ≠ 101 then
        { draft with headers := draft.headers.insert "connection" (Bytes.ofText "close") }
      else draft := by
  rw [ResponseHead.onTheWire]
  cases keepAlive with
  | true => rfl
  | false =>
      by_cases hswitch : draft.status = 101
      · rw [if_pos (by rw [hswitch]; rfl), if_neg fun h => h.2 hswitch]
      · rw [if_neg (by rw [Bool.false_or, decide_eq_true_eq]; exact hswitch),
          if_pos ⟨rfl, hswitch⟩]

theorem onTheWire_status (draft : ResponseHead) (keepAlive : Bool) :
    (ResponseHead.onTheWire draft keepAlive).status = draft.status := by
  rw [onTheWire_eq]
  by_cases hclose : keepAlive = false ∧ draft.status ≠ 101
  · rw [if_pos hclose]
  · rw [if_neg hclose]

theorem onTheWire_values (draft : ResponseHead) (keepAlive : Bool) (name : String) :
    (ResponseHead.onTheWire draft keepAlive).headers.values name =
      if name = "connection" ∧ keepAlive = false ∧ draft.status ≠ 101 then [Bytes.ofText "close"]
      else draft.headers.values name := by
  rw [onTheWire_eq]
  by_cases hclose : keepAlive = false ∧ draft.status ≠ 101
  · rw [if_pos hclose, Headers.values_insert]
    by_cases hname : name = "connection"
    · rw [if_pos hname.symm, if_pos ⟨hname, hclose⟩]
    · rw [if_neg (Ne.symm hname), if_neg fun h => hname h.1]
  · rw [if_neg hclose, if_neg fun h => hclose h.2]

theorem isSentBy_onTheWire (settings : Settings) (incoming : Incoming) (frames : List BodyFrame)
    (ending : Option BodyEnd) (ops : List HeadOp) :
    let x := Exchange.start settings incoming frames ending
    IsSentBy x ops (ResponseHead.onTheWire (draftOf x.pending ops) x.keepAlive) := by
  intro x
  have hstart : ∀ name, x.pending.headers.values name =
      if name = RequestId.headerName then [Bytes.ofText x.incoming.id] else [] := by
    intro name
    change Headers.values [(RequestId.headerName, Bytes.ofText incoming.id)] name = _
    rw [Headers.values_cons]
    by_cases hname : name = RequestId.headerName
    · rw [if_pos hname.symm, if_pos hname]
      rfl
    · rw [if_neg (Ne.symm hname), if_neg hname]
      rfl
  constructor
  · rw [onTheWire_status, draftOf_status]
    rfl
  · intro name
    rw [onTheWire_status, onTheWire_values, draftOf_values, hstart]

-- The first operation that flushes divides the sequence: those before it edit the draft, it
-- sends what they and itself made of it, and those behind it come too late.
theorem sent_by_first {x : Exchange} (hx : x.sent = none) (before later : List HeadOp)
    (op : HeadOp) (hbefore : ∀ o ∈ before, o.flushes = false) (hop : op.flushes = true) :
    let y := x.afterHeads (before ++ op :: later)
    let head := ResponseHead.onTheWire (draftOf x.pending (before ++ [op])) x.keepAlive
    y.sent = some head ∧ y.pending.status = head.status ∧
      Schedule.watch headTurn headsSent x (before ++ op :: later) = [head] := by
  intro y head
  have hdraft := draft_after before hbefore x hx
  have hsends := (performHead_early hdraft.1 op).sends hop
  have hdrafted : op.edit (draftOf x.pending before) = draftOf x.pending (before ++ [op]) := by
    rw [draftOf, draftOf, List.foldl_append]
    rfl
  rw [hdraft.2.1, hdraft.2.2, hdrafted] at hsends
  -- `z` is the exchange right after the flush.
  generalize hz : (x.afterHeads before).headTurn op = z at hsends
  have hy : y = z.afterHeads later := by
    rw [← hz]
    exact Schedule.after_append x before (op :: later)
  have hkept := sent_after later z hsends.1
  refine ⟨?_, ?_, ?_⟩
  · rw [hy, hkept.1]
  · rw [hy, hkept.2, hsends.2, onTheWire_status]
  · -- Only the operation in the middle sends.
    have hwatch : headsSent (x.afterHeads before) op = [head] := by
      rw [headsSent, hz]
      exact newHead_of_sent hdraft.1 hsends.1
    rw [Schedule.watch_append, headsSent_early before hbefore x hx, List.nil_append,
      Schedule.watch]
    change headsSent (x.afterHeads before) op ++
      Schedule.watch headTurn headsSent ((x.afterHeads before).headTurn op) later = _
    rw [hwatch, hz, headsSent_late later z hsends.1, List.append_nil]

theorem head_committed_once (settings : Settings) (incoming : Incoming) (frames : List BodyFrame)
    (ending : Option BodyEnd) (ops : List HeadOp) :
    let x := Exchange.start settings incoming frames ending
    let y := x.afterHeads ops
    Schedule.watch headTurn headsSent x ops = y.sent.toList ∧
      (y.sent = none ↔ ∀ op ∈ ops, op.flushes = false) ∧
      (∀ head, y.sent = some head →
        IsSentBy x (Schedule.upTo HeadOp.flushes ops) head ∧ y.pending.status = head.status) ∧
      (y.sent = none → ∀ op, IsOnTime y op) ∧
      (y.sent ≠ none → ∀ op, IsLate y op) := by
  intro x y
  have hx : x.sent = none := rfl
  have hearly : y.sent = none → ∀ op, IsOnTime y op := fun hy op => performHead_early hy op
  have hlate : y.sent ≠ none → ∀ op, IsLate y op := by
    intro hy op
    rcases Option.ne_none_iff_exists'.1 hy with ⟨head, hhead⟩
    exact performHead_late hhead op
  rcases Schedule.upTo_cases HeadOp.flushes ops with hnone | ⟨before, op, later, hops, hbefore, hop⟩
  · have hy : y.sent = none := (draft_after ops hnone x hx).1
    refine ⟨?_, ⟨fun _ => hnone, fun _ => hy⟩, ?_, hearly, hlate⟩
    · rw [headsSent_early ops hnone x hx, hy]
      rfl
    · intro head hhead
      rw [hy] at hhead
      exact absurd hhead.symm (Option.some_ne_none head)
  · have hfirst := sent_by_first hx before later op hbefore hop
    have hupTo : Schedule.upTo HeadOp.flushes ops = before ++ [op] := by
      rw [hops]
      exact Schedule.upTo_append_cons _ before later op hbefore hop
    have hmem : op ∈ ops := by
      rw [hops]
      exact List.mem_append_right _ List.mem_cons_self
    rw [← hops] at hfirst
    rcases hfirst with ⟨hsent, hstatus, hwatch⟩
    have hy : y.sent = _ := hsent
    refine ⟨?_, ⟨fun hnone => ?_, fun hnone => ?_⟩, ?_, hearly, hlate⟩
    · rw [hwatch, hy]
      rfl
    · rw [hy] at hnone
      exact absurd hnone (Option.some_ne_none _)
    · exact absurd (hop.symm.trans (hnone op hmem)) (by decide)
    · intro head hhead
      rw [hy, Option.some.injEq] at hhead
      rw [hupTo, ← hhead]
      exact ⟨isSentBy_onTheWire settings incoming frames ending (before ++ [op]), hstatus⟩

/-- A request that was refused, although somebody had begun to answer it and others went on. -/
example : ((Exchange.start ⟨false, .bounded 1, []⟩ ⟨"7", ⟨"GET", "/", none, .http11, []⟩, []⟩ []
    none).afterHeads [.setStatus 201, .reject 426 [("sec-websocket-version", [49, 51])],
      .setStatus 500, .send [1], .finish]).sent =
    some ⟨426, [("x-request-id", [55]), ("sec-websocket-version", [49, 51]),
      ("connection", Bytes.ofText "close")]⟩ := by
  rfl

end Exchange

end Http

end DemandNet
