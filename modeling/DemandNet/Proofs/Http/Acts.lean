import DemandNet.Proofs.Http.Outgoing

/-!
# What Handlers Do

The operations of a handler, and what has become of the exchange after them.

A handler decides by the answers it gets what it does next, so what it does depends on the
exchange it finds. Its acts are the operations that it did perform, each with the exchange
that it found. They tell all there is to know about the response so far: the head that was
flushed, the status it has until then, and the chunks that went to the codec.

What became of the chunks is told by how many of them the codec takes. There are none where a
head goes without a body, which only an upgrade asks for.

## Main definitions

* `Act`: An operation that was performed.
* `Handler.acts`: The acts of a handler.
* `Account`: What acts have made of an exchange.

## Theorems

* `account_perform`: An operation keeps the account.
* `account_run`: So does a handler.
-/

namespace DemandNet

namespace Http

open Connection

/-! ### Acts -/

/-- An operation that was performed, and the exchange that it found. -/
structure Act where
  found : Exchange
  op : HandlerOp

namespace Act

/-- The exchange that an act leaves. -/
def left (a : Act) : Exchange := (a.found.perform a.op).2

/-- The head that an act flushes. -/
def heads (a : Act) : List ResponseHead := a.found.newHead a.left

/-- The status that an act is to set. -/
def status? (a : Act) : Option Nat :=
  match a.op with
  | .setStatus status => some status
  | _ => none

/-- The chunks that an act sends. -/
def chunks (a : Act) : List Bytes :=
  match a.op with
  | .send chunk => [chunk]
  | .sendAll chunks => chunks
  | _ => []

/-- The chunks that an act sends and that are acknowledged. -/
def acknowledged (a : Act) : List Bytes :=
  match a.op with
  | .send chunk =>
      match (a.found.send chunk).1 with
      | some (.ok ()) => [chunk]
      | _ => []
  | .sendAll chunks => a.found.sendHeaders.2.acknowledged chunks
  | _ => []

/-- The act is an upgrade. -/
def upgrades (a : Act) : Bool :=
  match a.op with
  | .upgrade _ => true
  | _ => false

end Act

/-- The head was flushed by an upgrade, which was accepted or rejected. -/
def Switched (acts : List Act) : Prop := ∃ a ∈ acts, a.upgrades = true ∧ a.heads ≠ []

/-- The acts of a handler. -/
def Handler.acts : Handler → Exchange → List Act
  | .finish _, _ | .breakDown, _ | .collapse, _ => []
  | .act op next, x => ⟨x, op⟩ :: (next (x.perform op).1).acts (x.perform op).2

theorem switched_snoc (acts : List Act) (a : Act) :
    Switched (acts ++ [a]) ↔ Switched acts ∨ (a.upgrades = true ∧ a.heads ≠ []) := by
  constructor
  · intro ⟨b, hb, hswitch⟩
    rcases List.mem_append.1 hb with hold | hlast
    · exact Or.inl ⟨b, hold, hswitch⟩
    · rw [List.mem_singleton.1 hlast] at hswitch
      exact Or.inr hswitch
  · intro h
    rcases h with ⟨b, hb, hswitch⟩ | hswitch
    · exact ⟨b, List.mem_append_left _ hb, hswitch⟩
    · exact ⟨a, List.mem_append_right _ List.mem_cons_self, hswitch⟩

/-- Something was sent while nobody read the request. -/
def SentUnread (acts : List Act) : Prop :=
  ∃ a ∈ acts, a.chunks ≠ [] ∧ a.found.body.bridge.attached = false

theorem SentUnread.snoc {acts : List Act} (h : SentUnread acts) (a : Act) :
    SentUnread (acts ++ [a]) := by
  rcases h with ⟨b, hb, hsent⟩
  exact ⟨b, List.mem_append_left _ hb, hsent⟩

/-- What acts have made of an exchange, whose bodies pass a pipeline to a codec that takes so
    many chunks. -/
structure Account (taken : Option Nat) (p : Pipeline) (acts : List Act) (x : Exchange) : Prop where
  heads : acts.flatMap Act.heads = x.sent.toList
  status : x.sent = none →
    x.pending.status = (acts.filterMap Act.status?).getLast?.getD 200
  silent : x.sent = none → acts.flatMap Act.chunks = []
  bodiless : x.bodiless = true ↔ Switched acts
  pipeline : x.body.pipeline = p
  failure : x.failure = none
  body : x.bodiless = false →
    Exchange.Delivered taken p (SentUnread acts) (acts.flatMap Act.chunks)
      (acts.flatMap Act.acknowledged) x

namespace Account

variable {taken : Option Nat} {p : Pipeline} {acts : List Act} {a : Act} {x : Exchange}

theorem of_startFor (codec : Codec) (settings : Settings) (incoming : Incoming)
    (frames : List BodyFrame) (ending : Option BodyEnd) :
    Account codec.patience.taken? settings.pipeline []
      (.startFor codec settings incoming frames ending) where
  heads := rfl
  status := fun _ => rfl
  silent := fun _ => rfl
  bodiless := ⟨fun h => absurd h Bool.false_ne_true, fun ⟨_, ha, _⟩ => absurd ha List.not_mem_nil⟩
  pipeline := rfl
  failure := rfl
  body := fun _ =>
    .all (Exchange.open_startFor codec settings incoming frames ending) rfl
      (Exchange.written_startFor codec settings incoming frames ending)

-- A head that goes without a body has been flushed.
theorem bodiless_of_draft (h : Account taken p acts x) (hx : x.sent = none) :
    x.bodiless = false := by
  by_contra hbodiless
  rw [Bool.not_eq_false] at hbodiless
  rcases h.bodiless.1 hbodiless with ⟨a, ha, _, hheads⟩
  have hempty := h.heads
  rw [hx, Option.toList_none, List.flatMap_eq_nil_iff] at hempty
  exact hheads (hempty a ha)

theorem heads_snoc (h : Account taken p acts a.found)
    (hsent : a.found.sent = none ∨ a.left.sent = a.found.sent) :
    (acts ++ [a]).flatMap Act.heads = a.left.sent.toList := by
  rw [List.flatMap_append, h.heads, List.flatMap_singleton]
  exact Exchange.newHead_toList hsent

/-- An act that neither flushes nor sends. -/
structure IsAside (a : Act) : Prop where
  sent : a.left.sent = a.found.sent
  status : a.found.sent = none →
    a.left.pending.status = a.status?.getD a.found.pending.status
  bodiless : a.left.bodiless = a.found.bodiless
  pipeline : a.left.body.pipeline = a.found.body.pipeline
  failure : a.left.failure = a.found.failure
  body : a.found.SameBody a.left
  chunks : a.chunks = []
  acknowledged : a.acknowledged = []

theorem aside (h : Account taken p acts a.found) (ha : IsAside a) :
    Account taken p (acts ++ [a]) a.left := by
  constructor
  · exact h.heads_snoc (Or.inr ha.sent)
  · intro hsent
    have hfound : a.found.sent = none := ha.sent.symm.trans hsent
    rw [ha.status hfound, h.status hfound, List.filterMap_append, List.filterMap_cons]
    cases a.status? with
    | none => rw [List.filterMap_nil, List.append_nil, Option.getD_none]
    | some status =>
        rw [List.filterMap_nil, List.getLast?_concat, Option.getD_some, Option.getD_some]
  · intro hsent
    have hsilent := h.silent (ha.sent.symm.trans hsent)
    rw [List.flatMap_append, hsilent, List.flatMap_singleton, ha.chunks, List.nil_append]
  · have hnone : a.heads = [] := Exchange.newHead_of_kept ha.sent
    rw [ha.bodiless, h.bodiless, switched_snoc, hnone]
    exact ⟨Or.inl, fun h => h.elim id fun h => absurd rfl h.2⟩
  · exact ha.pipeline.trans h.pipeline
  · exact ha.failure.trans h.failure
  · intro hbodiless
    rw [List.flatMap_append, List.flatMap_append, List.flatMap_singleton, List.flatMap_singleton,
      ha.chunks, ha.acknowledged, List.append_nil, List.append_nil]
    exact (h.body (ha.bodiless.symm.trans hbodiless)).same ha.body (·.snoc a)

/-- An act that flushes the head without a body. -/
structure IsSwitch (a : Act) : Prop where
  upgrades : a.upgrades = true
  found : a.found.sent = none
  sent : a.left.sent ≠ none
  bodiless : a.left.bodiless = true
  pipeline : a.left.body.pipeline = a.found.body.pipeline
  failure : a.left.failure = a.found.failure

theorem switch (h : Account taken p acts a.found) (ha : IsSwitch a) :
    Account taken p (acts ++ [a]) a.left := by
  rcases Option.ne_none_iff_exists'.1 ha.sent with ⟨head, hhead⟩
  have hnew : a.heads = [head] := Exchange.newHead_of_sent ha.found hhead
  constructor
  · exact h.heads_snoc (Or.inl ha.found)
  · exact fun hsent => absurd hsent ha.sent
  · exact fun hsent => absurd hsent ha.sent
  · rw [ha.bodiless, switched_snoc, hnew]
    exact ⟨fun _ => Or.inr ⟨ha.upgrades, List.cons_ne_nil head []⟩, fun _ => rfl⟩
  · exact ha.pipeline.trans h.pipeline
  · exact ha.failure.trans h.failure
  · intro hbodiless
    rw [ha.bodiless] at hbodiless
    exact absurd hbodiless.symm Bool.false_ne_true

/-- An act that sends chunks behind the head, which it flushes if that was not done. -/
structure IsSending (a : Act) : Prop where
  upgrades : a.upgrades = false
  left : a.left = (a.found.sendAll a.chunks).2
  acknowledged : a.acknowledged = a.found.sendHeaders.2.acknowledged a.chunks

theorem sending (h : Account taken p acts a.found) (ha : IsSending a) :
    Account taken p (acts ++ [a]) a.left := by
  have hbegun := Exchange.begins_sendHeaders h.bodiless_of_draft
  -- The chunks change nothing of all this, whatever becomes of them.
  have hkept : a.left.sent = a.found.sendHeaders.2.sent ∧ a.left.bodiless = a.found.bodiless ∧
      a.left.body = a.found.body ∧ a.left.failure = a.found.failure := by
    rw [ha.left]
    exact Exchange.kept_sendChunks
      (P := fun y => y.sent = a.found.sendHeaders.2.sent ∧ y.bodiless = a.found.bodiless ∧
        y.body = a.found.body ∧ y.failure = a.found.failure)
      (fun y chunk hy => hy) a.chunks _ ⟨rfl, hbegun.bodiless, hbegun.body, hbegun.failure⟩
  have hsent := hkept.1.trans hbegun.sent
  have hbehind : a.left.sent ≠ none := by
    rw [hsent]
    exact Option.some_ne_none _
  constructor
  · refine h.heads_snoc ?_
    cases hfound : a.found.sent with
    | none => exact Or.inl rfl
    | some head =>
        rw [hsent, hfound]
        exact Or.inr rfl
  · exact fun hnone => absurd hnone hbehind
  · exact fun hnone => absurd hnone hbehind
  · rw [hkept.2.1, h.bodiless, switched_snoc, ha.upgrades]
    exact ⟨Or.inl, fun h => h.elim id fun h => absurd h.1 Bool.false_ne_true⟩
  · rw [hkept.2.2.1, h.pipeline]
  · rw [hkept.2.2.2, h.failure]
  · intro hleft
    have hfound := (h.body (hkept.2.1.symm.trans hleft)).same hbegun.same (·.snoc a)
    rw [List.flatMap_append, List.flatMap_append, List.flatMap_singleton, List.flatMap_singleton,
      ha.acknowledged, ha.left]
    refine Exchange.delivered_sendChunks a.chunks _ _ _ hfound (by rw [hbegun.body, h.pipeline]) ?_
    intro hchunks hattached
    rw [hbegun.body] at hattached
    exact ⟨a, List.mem_append_right _ List.mem_cons_self, hchunks, hattached⟩

end Account

/-! ### One operation -/

namespace Exchange

variable {x : Exchange}

-- Such an act leaves the side of the writer alone.
theorem aside_of_left {a : Act} {pending : ResponseHead} {body : Intake}
    {reader : Option Flow.Consumer} (hleft : a.left = { a.found with pending, body, reader })
    (hpipeline : body.pipeline = a.found.body.pipeline)
    (hstatus : a.found.sent = none → pending.status = a.status?.getD a.found.pending.status)
    (hchunks : a.chunks = []) (hsent : a.acknowledged = []) : Account.IsAside a := by
  constructor
  · rw [hleft]
  · rw [hleft]
    exact hstatus
  · rw [hleft]
  · rw [hleft]
    exact hpipeline
  · rw [hleft]
  · rw [hleft]
    exact ⟨rfl, rfl, rfl⟩
  · exact hchunks
  · exact hsent

theorem aside_of_change {op : HandlerOp} (f : ResponseHead → ResponseHead)
    (hleft : (x.perform op).2 = (x.change f).2) (hchunks : (⟨x, op⟩ : Act).chunks = [])
    (hsent : (⟨x, op⟩ : Act).acknowledged = [])
    (hstatus : ∀ draft, (f draft).status = (⟨x, op⟩ : Act).status?.getD draft.status) :
    Account.IsAside ⟨x, op⟩ := by
  have hturn : (⟨x, op⟩ : Act).left = (x.change f).2 := hleft
  cases hx : x.sent with
  | none =>
      rw [change_early hx] at hturn
      exact aside_of_left hturn rfl (fun _ => hstatus x.pending) hchunks hsent
  | some head =>
      rw [change_late hx] at hturn
      refine aside_of_left hturn rfl (fun hnone => ?_) hchunks hsent
      exact absurd (hx.symm.trans hnone) (Option.some_ne_none head)

/-- One exchange became another by reading, which is on the other side of it. -/
def Reads (x y : Exchange) : Prop :=
  ∃ (body : Intake) (reader : Option Flow.Consumer),
    y = { x with body, reader } ∧ body.pipeline = x.body.pipeline

theorem Reads.refl (x : Exchange) : x.Reads x := ⟨x.body, x.reader, rfl, rfl⟩

theorem aside_of_reads {op : HandlerOp} (hreads : x.Reads (x.perform op).2)
    (hchunks : (⟨x, op⟩ : Act).chunks = []) (hsent : (⟨x, op⟩ : Act).acknowledged = [])
    (hstatus : (⟨x, op⟩ : Act).status? = none) :
    Account.IsAside ⟨x, op⟩ := by
  rcases hreads with ⟨body, reader, hleft, hpipeline⟩
  refine aside_of_left hleft hpipeline (fun _ => ?_) hchunks hsent
  rw [hstatus]
  rfl

theorem attach_pipeline {i : Intake} {mode : Flow.Mode} {c : Flow.Consumer} {body : Intake}
    (h : i.attach mode = .ok (c, body)) : body.pipeline = i.pipeline := by
  unfold Intake.attach at h
  cases hattach : i.bridge.attach mode with
  | error e =>
      rw [hattach] at h
      exact nomatch h
  | ok r =>
      rw [hattach] at h
      cases h
      rfl

theorem pull_pipeline (i : Intake) (c : Flow.Consumer) : (i.pull c).2.2.pipeline = i.pipeline := by
  unfold Intake.pull
  split
  · rfl
  · rfl

theorem reads_receive (mode : Flow.Mode) : x.Reads (x.receive mode).2 := by
  unfold receive
  cases hattach : x.body.attach mode with
  | error e => exact .refl x
  | ok r => exact ⟨r.2, some r.1, rfl, attach_pipeline hattach⟩

theorem reads_receiveMultipart : x.Reads x.receiveMultipart.2 := by
  unfold receiveMultipart
  cases Multipart.receive x.incoming.head.headers (.window x.window) x.body.bridge with
  | mk r bridge =>
      cases r with
      | error e => exact ⟨{ x.body with bridge }, x.reader, rfl, rfl⟩
      | ok d => exact ⟨{ x.body with bridge }, some d.2, rfl, rfl⟩

theorem reads_pull : x.Reads x.pull.2 := by
  unfold pull
  cases x.reader with
  | none => exact .refl x
  | some c => exact ⟨_, _, rfl, pull_pipeline x.body c⟩

theorem reads_request (n : Nat) : x.Reads (x.request n) := by
  unfold request
  cases x.reader with
  | none => exact .refl x
  | some c => exact ⟨_, some c, rfl, rfl⟩

theorem reads_cancel : x.Reads x.cancel := by
  unfold cancel
  cases x.reader with
  | none => exact .refl x
  | some c => exact ⟨_, none, rfl, rfl⟩

-- The end of a handshake is an answer without a body, whether it is accepted or not.
theorem switch_of_flush {protocols : Option String} {pending : ResponseHead} {upgradable : Bool}
    {session : Option WebSocket.Accepted} (hx : x.sent = none)
    (hleft : (x.perform (.upgrade protocols)).2 =
      { ({ x with pending, upgradable }.flush true).2 with session }) :
    Account.IsSwitch ⟨x, .upgrade protocols⟩ := by
  have hflush : ({ x with pending, upgradable }.flush true).2 =
      { x.breakPipe with
        sent := some (ResponseHead.onTheWire pending x.keepAlive)
        pending := { pending with headers := [] }
        upgradable
        bodiless := true } := by
    have hdraft : { x with pending, upgradable }.sent = none := hx
    rw [flush, if_neg (not_headSent hdraft)]
    rfl
  have hturn : (⟨x, .upgrade protocols⟩ : Act).left = _ := hleft
  rw [hflush] at hturn
  constructor
  · rfl
  · exact hx
  · rw [hturn]
    exact Option.some_ne_none _
  · rw [hturn]
  · rw [hturn]
    rfl
  · rw [hturn]
    rfl

theorem perform_upgrade (protocols : Option String) :
    (x.perform (.upgrade protocols)).2 = (x.upgrade protocols).2 := by
  rw [perform]
  split
  next a y heq => rw [heq]
  next e y heq => rw [heq]

theorem perform_receiveMultipart :
    (x.perform .receiveMultipart).2 = x.receiveMultipart.2 := by
  rw [perform]
  split
  next d y heq => rw [heq]
  next e y heq => rw [heq]

-- Whether the connection is handed over is told by the session alone.
theorem handOver_left (x : Exchange) (a : WebSocket.Accepted) :
    ∃ session, (x.handOver a).2 = { x with session } := by
  unfold handOver
  split
  · exact ⟨x.session, rfl⟩
  · exact ⟨some a, rfl⟩

-- An upgrade that comes too late, or finds the connection taken, changes nothing.
theorem upgrade_cases (x : Exchange) (protocols : Option String) :
    x.Reads (x.perform (.upgrade protocols)).2 ∨
      Account.IsSwitch ⟨x, .upgrade protocols⟩ := by
  rw [perform_upgrade]
  have hperform := x.perform_upgrade protocols
  cases hx : x.sent with
  | some head =>
      rw [upgrade, if_pos (headSent_eq_true hx)]
      exact Or.inl (.refl x)
  | none =>
      rw [upgrade, if_neg (not_headSent hx)] at hperform ⊢
      cases hanswer : WebSocket.negotiate x.incoming.head.headers protocols with
      | error refusal =>
          rw [hanswer] at hperform
          cases refusal with
          | version =>
              dsimp only at hperform
              rw [reject_halves, amend_early hx] at hperform
              exact Or.inr (switch_of_flush hx hperform)
          | badRequest reason =>
              dsimp only at hperform
              rw [reject_halves, amend_early hx] at hperform
              exact Or.inr (switch_of_flush hx hperform)
      | ok a =>
          rw [hanswer] at hperform
          cases hupgradable : x.upgradable with
          | true =>
              have htaken : { x with upgradable := false }.sent = none := hx
              have hfalse : { x with upgradable := false }.headSent = false := headSent_eq_false hx
              dsimp only at hperform
              rw [hupgradable, commitSwitch_halves, hfalse, amend_early htaken] at hperform
              rcases handOver_left ({ x with upgradable := false, pending := _ }.flush true).2 a
                with ⟨session, hleft⟩
              exact Or.inr (switch_of_flush hx (hperform.trans hleft))
          | false => exact Or.inl (.refl x)

theorem sending_of_send (chunk : Bytes) : Account.IsSending ⟨x, .send chunk⟩ := by
  constructor
  · rfl
  · exact send_eq_sendAll x chunk
  · have hanswer : (x.send chunk).1 = (x.sendHeaders.2.write (.write chunk)).1 := rfl
    simp only [Act.acknowledged, Act.chunks, hanswer, acknowledged]
    rcases x.sendHeaders.2.write (.write chunk) with ⟨_ | _ | ⟨⟩, y⟩ <;> rfl

theorem sending_of_sendAll (chunks : List Bytes) : Account.IsSending ⟨x, .sendAll chunks⟩ where
  upgrades := rfl
  left := rfl
  acknowledged := rfl

theorem sending_of_sendHeaders : Account.IsSending ⟨x, .sendHeaders⟩ :=
  ⟨rfl, rfl, rfl⟩

end Exchange

theorem account_perform {taken : Option Nat} {p : Pipeline} {acts : List Act} {x : Exchange}
    (h : Account taken p acts x) (op : HandlerOp) :
    Account taken p (acts ++ [⟨x, op⟩]) (x.perform op).2 := by
  change Account taken p (acts ++ [⟨x, op⟩]) (⟨x, op⟩ : Act).left
  cases op with
  | setStatus status =>
      exact h.aside (x.aside_of_change (fun draft => { draft with status }) rfl rfl rfl
        fun _ => rfl)
  | setHeader name value =>
      exact h.aside (x.aside_of_change
        (fun draft => { draft with headers := draft.headers.insert name value }) rfl rfl rfl
        fun _ => rfl)
  | addHeader name value =>
      exact h.aside (x.aside_of_change
        (fun draft => { draft with headers := draft.headers.append name value }) rfl rfl rfl
        fun _ => rfl)
  | sendHeaders => exact h.sending x.sending_of_sendHeaders
  | send chunk => exact h.sending (x.sending_of_send chunk)
  | sendAll chunks => exact h.sending (x.sending_of_sendAll chunks)
  | upgrade protocols =>
      rcases x.upgrade_cases protocols with hrefused | hswitch
      · exact h.aside (Exchange.aside_of_reads hrefused rfl rfl rfl)
      · exact h.switch hswitch
  | headSent => exact h.aside (Exchange.aside_of_reads (.refl x) rfl rfl rfl)
  | pendingHead => exact h.aside (Exchange.aside_of_reads (.refl x) rfl rfl rfl)
  | receive mode =>
      exact h.aside (Exchange.aside_of_reads (Exchange.reads_receive mode) rfl rfl rfl)
  | receiveMultipart =>
      have hreads := x.reads_receiveMultipart
      rw [← Exchange.perform_receiveMultipart] at hreads
      exact h.aside (Exchange.aside_of_reads hreads rfl rfl rfl)
  | pull => exact h.aside (Exchange.aside_of_reads Exchange.reads_pull rfl rfl rfl)
  | request n => exact h.aside (Exchange.aside_of_reads (Exchange.reads_request n) rfl rfl rfl)
  | cancel => exact h.aside (Exchange.aside_of_reads Exchange.reads_cancel rfl rfl rfl)

/-! ### Handlers -/

-- By induction on the handler: whatever it does next, the account is kept.
theorem account_run {taken : Option Nat} {p : Pipeline} (handler : Handler) :
    ∀ (acts : List Act) (x : Exchange), Account taken p acts x →
      Account taken p (acts ++ handler.acts x) (handler.run x).2 := by
  induction handler with
  | finish | breakDown | collapse =>
      intro acts x h
      rw [Handler.acts, List.append_nil]
      exact h
  | act op next ih =>
      intro acts x h
      have hrest := ih (x.perform op).1 (acts ++ [⟨x, op⟩]) (x.perform op).2 (account_perform h op)
      rw [List.append_assoc] at hrest
      exact hrest

end Http

end DemandNet
