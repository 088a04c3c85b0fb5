import DemandNet.Http.Multipart.Receive
import DemandNet.Proofs.Flow.Hosted
import DemandNet.Proofs.Http.Gathering

/-!
# One Reader After Another

A body that several readers read, one after the other.

A reader may attach, look a few times and leave again, or be handed to a decoder that lets it
leave because the headers name no boundary. The pump goes on in between. Nothing is lost by
that: what the readers took, what is queued and what the pump has not taken yet are the body,
in this order, whoever came and went. So the next reader gets exactly what is left, and all of
the body if nobody took anything.

The bridge of a body is a hosted one, and what was accepted and what was taken is its account.
`Carried` adds where the accepted chunks came from, and that nobody was told of the end as long
as the reading end is still there.

## Main definitions

* `Relay`: A body, its reader and what was taken.
* `Relay.Turn`, `Relay.turn`: What can happen to it.
* `Carried`: What holds whoever came and went.
* `Intake.remainder`: What is left of a body.
* `Relay.Runs`: Some schedule leads from one state to another.

## Theorems

* `carried_turn`, `carried_after`: Every turn keeps what holds, and so does every schedule.
* `Carried.taken_remainder`: What was taken and what is left are the body.
* `Carried.unread`, `Carried.unread_leave`, `Carried.spent`: What the next reader finds.
-/

namespace DemandNet

namespace Http

open DemandNet.Connection (Pipeline)
open DemandNet.Flow (Bridge Consumer Hosted Mode Poll Window)

/-- A body with the reader that it has, and what was taken of it so far. -/
structure Relay where
  intake : Intake
  reader : Option Consumer
  taken : Bytes

namespace Relay

/-- A body that nobody has read from. -/
def start (p : Pipeline) (frames : List BodyFrame) (e : BodyEnd) : Relay :=
  { intake := .start p frames (some e), reader := none, taken := [] }

/-- Who has a turn. -/
inductive Turn where
  | attach (mode : Mode)
  /-- The reader is handed to a decoder. -/
  | decode (headers : Headers)
  | look
  | request (n : Nat)
  | leave
  | pump

/-- A reader attaches, if it can. -/
def attach (s : Relay) (mode : Mode) : Relay :=
  match s.intake.attach mode with
  | .error _ => s
  | .ok (c, intake) => { s with intake, reader := some c }

/-- The reader does something, if there is one. -/
def act (s : Relay) (f : Consumer → Bridge Bytes → Option Consumer × Bridge Bytes) : Relay :=
  match s.reader with
  | none => s
  | some c =>
      let (reader, bridge) := f c s.intake.bridge
      { s with intake := { s.intake with bridge }, reader }

/-- The reader is handed to a decoder, which keeps it if it knows the boundary. -/
def decode (s : Relay) (headers : Headers) : Relay :=
  s.act fun c b =>
    match Multipart.decode headers c b with
    | (.ok _, b) => (some c, b)
    | (.error _, b) => (none, b)

/-- The reader looks once, and takes what it finds. -/
def look (s : Relay) : Relay :=
  match s.reader with
  | none => s
  | some c =>
      let (found, c, bridge) := s.intake.bridge.poll c
      { intake := { s.intake with bridge }, reader := some c
        taken := s.taken ++ found.item?.toList.flatten }

/-- The reader asks for more. -/
def request (s : Relay) (n : Nat) : Relay := s.act fun c b => (some c, b.request c n)

/-- The reader leaves. -/
def leave (s : Relay) : Relay := s.act fun c b => (none, b.detach c)

/-- The pump takes one frame. -/
def pump (s : Relay) : Relay := { s with intake := s.intake.step }

/-- One turn. -/
def turn (s : Relay) : Turn → Relay
  | .attach mode => s.attach mode
  | .decode headers => s.decode headers
  | .look => s.look
  | .request n => s.request n
  | .leave => s.leave
  | .pump => s.pump

/-- The body after a schedule. -/
def after (s : Relay) (ts : List Turn) : Relay := Schedule.after turn s ts

variable {s : Relay}

theorem act_of_none (h : s.reader = none)
    (f : Consumer → Bridge Bytes → Option Consumer × Bridge Bytes) : s.act f = s := by
  unfold act
  rw [h]

theorem act_of_some {c : Consumer} (h : s.reader = some c)
    (f : Consumer → Bridge Bytes → Option Consumer × Bridge Bytes) :
    s.act f =
      { s with
        intake := { s.intake with bridge := (f c s.intake.bridge).2 }
        reader := (f c s.intake.bridge).1 } := by
  unfold act
  rw [h]

theorem leave_of_some {c : Consumer} (h : s.reader = some c) :
    s.leave =
      { s with intake := { s.intake with bridge := s.intake.bridge.detach c }, reader := none } :=
  act_of_some h _

theorem attach_of_occupied (h : s.intake.bridge.attached = true) (mode : Mode) :
    s.attach mode = s := by
  unfold attach Intake.attach
  rw [Bridge.attach_eq, if_pos h]
  rfl

theorem attach_of_vacant (h : s.intake.bridge.attached = false) (mode : Mode) :
    s.attach mode =
      { s with
        intake := { s.intake with bridge := s.intake.bridge.seated }
        reader := some (s.intake.bridge.newcomer mode) } := by
  unfold attach Intake.attach
  rw [Bridge.attach_eq, h, if_neg Bool.false_ne_true]
  rfl

-- A decoder that knows the boundary keeps its reader,
theorem decode_of_ok {headers : Headers} {boundary : String}
    (hboundary : Multipart.extractBoundary headers = .ok boundary) : s.decode headers = s := by
  unfold decode Multipart.decode
  rw [hboundary]
  cases hc : s.reader with
  | none => exact act_of_none hc _
  | some c => rw [act_of_some hc, ← hc]

-- and one that knows none lets it leave.
theorem decode_of_error {headers : Headers} {err : NetError}
    (hboundary : Multipart.extractBoundary headers = .error err) :
    s.decode headers = s.leave := by
  unfold decode Multipart.decode
  rw [hboundary]
  rfl

end Relay

/-- Somebody would be told of the end without looking at the queue. -/
def Told (b : Bridge Bytes) (reader : Option Consumer) : Prop :=
  b.readEnd = .dropped ∨ ∃ c, reader = some c ∧ c.done = true

/-- What holds of a body and the account of its bridge, whoever came and went. -/
structure Carried (e : BodyEnd) (p : Pipeline) (total : Bytes) (s : Relay)
    (a : Flow.Account Bytes) : Prop where
  pipeline : s.intake.pipeline = p
  ending : s.intake.ending = some e
  expected : s.intake.bridge.abandoned = false
  frames : s.intake.bridge.terminated = true → s.intake.frames = []
  hosted : Hosted s.intake.bridge s.reader (!s.intake.bridge.terminated) a
  /-- What was handed over and what is to come are the body. -/
  order : a.accepted.flatten ++ bytesThrough p s.intake.frames = total
  taken : a.yielded.flatten = s.taken
  failures : a.failures = s.intake.trailing e
  told : a.terminals ≠ [] → Told s.intake.bridge s.reader

section Turns

variable {e : BodyEnd} {p : Pipeline} {total : Bytes} {s : Relay} {a : Flow.Account Bytes}

theorem carried_start (p : Pipeline) (frames : List BodyFrame) (e : BodyEnd) :
    Carried e p (bytesThrough p frames) (Relay.start p frames e) .empty where
  pipeline := rfl
  ending := rfl
  expected := rfl
  frames := nofun
  hosted := .start
  order := rfl
  taken := rfl
  failures := rfl
  told := fun h => absurd rfl h

theorem Carried.hosted_of (h : Carried e p total s a) {reader : Option Consumer}
    (hreader : s.reader = reader) :
    Hosted s.intake.bridge reader (!s.intake.bridge.terminated) a := by
  rw [← hreader]
  exact h.hosted

/-! ### The readers -/

-- The readers only change the bridge, and do not decide whether it has ended.
theorem Carried.reading (h : Carried e p total s a) {bridge : Bridge Bytes}
    {reader : Option Consumer} {taken : Bytes} {a' : Flow.Account Bytes}
    (hhosted : Hosted bridge reader (!s.intake.bridge.terminated) a')
    (hexpected : bridge.abandoned = s.intake.bridge.abandoned)
    (haccepted : a'.accepted = a.accepted) (hfailures : a'.failures = a.failures)
    (htaken : a'.yielded.flatten = taken) (htold : a'.terminals ≠ [] → Told bridge reader) :
    Carried e p total { intake := { s.intake with bridge }, reader, taken } a' := by
  have hterminated : bridge.terminated = s.intake.bridge.terminated :=
    Bool.not_inj hhosted.present_eq.symm
  refine ⟨h.pipeline, h.ending, hexpected.trans h.expected, fun ht => ?_, ?_, ?_, htaken, ?_,
    htold⟩
  · exact h.frames (hterminated.symm.trans ht)
  · dsimp only
    rw [hterminated]
    exact hhosted
  · rw [haccepted]
    exact h.order
  · unfold Intake.trailing
    dsimp only
    rw [hfailures, hterminated]
    exact h.failures

-- A body to which nobody is attached has no reader, and nothing is wanted of it.
theorem Carried.vacancy (h : Carried e p total s a) (hvacant : s.intake.bridge.attached = false) :
    s.reader = none ∧ s.intake.bridge.demand = 0 ∧ s.intake.bridge.readEnd ≠ .held := by
  cases hreader : s.reader with
  | none => exact ⟨rfl, (h.hosted_of hreader).vacancy.2⟩
  | some c =>
      rw [(h.hosted_of hreader).occupied.1] at hvacant
      cases hvacant

-- A reader that attaches finds the end where somebody has met it, and nothing else there.
theorem Carried.attach (h : Carried e p total s a) (mode : Mode) :
    Carried e p total (s.attach mode) a := by
  cases hattached : s.intake.bridge.attached with
  | true =>
      rw [Relay.attach_of_occupied hattached]
      exact h
  | false =>
      have hattach : s.intake.bridge.attach mode =
          .ok (s.intake.bridge.newcomer mode, s.intake.bridge.seated) := by
        rw [Bridge.attach_eq, hattached, if_neg Bool.false_ne_true]
      rw [Relay.attach_of_vacant hattached]
      refine h.reading (h.hosted.attach mode _ _ hattach) rfl rfl rfl h.taken fun hseen => ?_
      rcases h.told hseen with hdropped | ⟨c, hc, -⟩
      · unfold Told Bridge.seated
        dsimp only
        rw [hdropped, if_neg nofun]
        exact Or.inl rfl
      · rw [(h.vacancy hattached).1] at hc
        cases hc

-- A reader that leaves gives back what it has not taken.
theorem Carried.detached (h : Carried e p total s a) {c : Consumer} (hc : s.reader = some c) :
    Carried e p total
      { s with
        intake := { s.intake with bridge := s.intake.bridge.detach c }
        reader := none } a := by
  have hhosted := h.hosted_of hc
  refine h.reading hhosted.detach (Bridge.detach_abandoned _ _) rfl rfl h.taken fun hseen => ?_
  rcases hhosted.occupied with ⟨-, hread, -⟩
  refine Or.inl ?_
  unfold Bridge.detach
  cases hreads : c.reads with
  | false =>
      rw [hreads] at hread
      exact hread
  | true =>
      rw [hreads] at hread
      rcases h.told hseen with hdropped | ⟨d, hd, hdone⟩
      · rw [hread] at hdropped
        cases hdropped
      · rw [hc] at hd
        cases hd
        rw [hdone]
        rfl

theorem Carried.leave (h : Carried e p total s a) : Carried e p total s.leave a := by
  cases hc : s.reader with
  | none =>
      unfold Relay.leave
      rw [Relay.act_of_none hc]
      exact h
  | some c =>
      rw [Relay.leave_of_some hc]
      exact h.detached hc

theorem Carried.decode (h : Carried e p total s a) (headers : Headers) :
    Carried e p total (s.decode headers) a := by
  cases hboundary : Multipart.extractBoundary headers with
  | ok boundary =>
      rw [Relay.decode_of_ok hboundary]
      exact h
  | error err =>
      rw [Relay.decode_of_error hboundary]
      exact h.leave

theorem Carried.request (h : Carried e p total s a) (n : Nat) :
    Carried e p total (s.request n) a := by
  have htold := h.told
  unfold Relay.request
  cases hc : s.reader with
  | none =>
      rw [Relay.act_of_none hc]
      exact h
  | some c =>
      rw [hc] at htold
      rw [Relay.act_of_some hc]
      refine h.reading ((h.hosted_of hc).request n) (Bridge.request_abandoned _ _ _) rfl rfl h.taken
        fun hseen => ?_
      unfold Bridge.request
      split <;> exact htold hseen

-- A reader that looks takes what it finds, and if that is the end it knows it.
theorem carried_look (h : Carried e p total s a) : ∃ a', Carried e p total s.look a' := by
  unfold Relay.look
  cases hc : s.reader with
  | none => exact ⟨a, h⟩
  | some c =>
      have hpolled := (h.hosted_of hc).poll
      have hexpected := s.intake.bridge.poll_abandoned c
      have hlook := s.intake.bridge.poll_look c
      dsimp only
      generalize s.intake.bridge.poll c = found at hpolled hexpected hlook ⊢
      rcases found with ⟨found, c', b⟩
      rcases Bridge.look_frame _ _ _ _ _ hlook with ⟨hreadEnd, -⟩
      rcases Bridge.look_done _ _ _ _ _ hlook with ⟨hends, hended⟩
      refine ⟨a.see found, h.reading hpolled hexpected rfl rfl ?_ fun hseen => ?_⟩
      · unfold Flow.Account.see
        rw [List.flatten_append, h.taken]
      · by_cases hterminal : found.isTerminal = true
        · exact Or.inr ⟨c', rfl, hends hterminal⟩
        · unfold Flow.Account.see at hseen
          rw [if_neg hterminal, List.append_nil] at hseen
          rcases h.told hseen with hdropped | ⟨d, hd, hdone⟩
          · exact Or.inl (hreadEnd.trans hdropped)
          · rw [hc] at hd
            cases hd
            exact Or.inr ⟨c', rfl, (hended hdone).1⟩

/-! ### The pump -/

theorem Carried.open_of_busy (h : Carried e p total s a) (hbusy : ¬ s.intake.Rests) :
    Hosted s.intake.bridge s.reader true a := by
  have hhosted := h.hosted
  rw [terminated_of_busy hbusy] at hhosted
  exact hhosted

theorem Carried.unfailed (h : Carried e p total s a) (hbusy : ¬ s.intake.Rests) :
    a.failures = [] := (h.open_of_busy hbusy).running

theorem Pumped.carried {i' : Intake} (hpumped : Pumped e s.intake i')
    (h : Carried e p total s a) : ∃ a', Carried e p total { s with intake := i' } a' := by
  cases hpumped with
  | waits _ => exact ⟨a, h⟩
  | ends hbusy hf =>
      have hhosted := (h.open_of_busy hbusy).conclude e.failure?
      refine ⟨a.conclude e.failure?, h.pipeline, h.ending, h.expected, fun _ => hf, hhosted,
        h.order, h.taken, ?_, h.told⟩
      unfold Flow.Account.conclude Intake.trailing Bridge.concluded
      dsimp only
      rw [h.unfailed hbusy, if_pos rfl, List.nil_append]
  | skips frame rest hbusy hf hnone =>
      have horder := h.order
      unfold bytesThrough at horder
      rw [hf, List.flatMap_cons, ← h.pipeline, hnone, List.nil_append, h.pipeline] at horder
      refine ⟨a, h.pipeline, h.ending, h.expected, fun ht => ?_, h.hosted, horder, h.taken,
        h.failures, h.told⟩
      exact absurd (Or.inl ht) hbusy
  | hands chunk rest left hbusy hf hchunk htake =>
      have horder := h.order
      unfold bytesThrough at horder
      rw [hf, List.flatMap_cons, ← h.pipeline, hchunk, h.pipeline, ← List.append_assoc] at horder
      have hhosted := (h.open_of_busy hbusy).accept (s.intake.pipeline.inbound chunk) left htake
      have hterminated := terminated_of_busy hbusy
      refine ⟨a.accept (s.intake.pipeline.inbound chunk), h.pipeline, h.ending, h.expected,
        fun ht => ?_, ?_, ?_, h.taken, h.failures, h.told⟩
      · exact absurd (Or.inl ht) hbusy
      · have hstill : (s.intake.bridge.accepting (s.intake.pipeline.inbound chunk) left).terminated
            = false := hterminated
        dsimp only
        rw [hstill]
        exact hhosted
      · unfold Flow.Account.accept
        rw [List.flatten_append, List.flatten_singleton, h.pipeline]
        exact horder

theorem carried_pump (h : Carried e p total s a) : ∃ a', Carried e p total s.pump a' := by
  unfold Relay.pump
  by_cases ht : s.intake.bridge.terminated = true
  · rw [step_of_terminated ht]
    exact ⟨a, h⟩
  · have hhosted := h.hosted
    rw [Bool.not_eq_true] at ht
    rw [ht] at hhosted
    exact (pumped_step h.ending hhosted.isOpen.1 h.expected).carried h

theorem carried_turn (h : Carried e p total s a) (t : Relay.Turn) :
    ∃ a', Carried e p total (s.turn t) a' := by
  cases t with
  | attach mode => exact ⟨a, h.attach mode⟩
  | decode headers => exact ⟨a, h.decode headers⟩
  | look => exact carried_look h
  | request n => exact ⟨a, h.request n⟩
  | leave => exact ⟨a, h.leave⟩
  | pump => exact carried_pump h

theorem carried_after (ts : List Relay.Turn) : ∀ {s : Relay} {a : Flow.Account Bytes},
    Carried e p total s a → ∃ a', Carried e p total (s.after ts) a' := by
  induction ts with
  | nil => exact fun h => ⟨_, h⟩
  | cons t rest ih =>
      intro s a h
      rcases carried_turn h t with ⟨a', h'⟩
      exact ih h'

/-! ### The next reader -/

/-- What is left of a body for those who have not taken it yet. -/
def Intake.remainder (i : Intake) : Bytes :=
  i.bridge.items.flatten ++ bytesThrough i.pipeline i.frames

-- What was taken and what is left are the body,
theorem Carried.taken_remainder (h : Carried e p total s a) :
    s.taken ++ s.intake.remainder = total := by
  have horder := h.order
  rw [h.hosted.order, List.flatten_append, h.taken, List.append_assoc] at horder
  unfold Intake.remainder
  rw [h.pipeline]
  exact horder

-- which the next reader finds, if nobody has met the end.
theorem Carried.unread (h : Carried e p total s a) (hnone : s.reader = none)
    (hopen : s.intake.bridge.readEnd ≠ .dropped) : Unread e p s.intake.remainder s.intake := by
  have hhosted := h.hosted_of hnone
  rcases hhosted.vacancy with ⟨hvacant, hunwanted, hheld⟩
  have huntold : a.terminals = [] := by
    by_contra hseen
    rcases h.told hseen with hdropped | ⟨c, hc, -⟩
    · exact hopen hdropped
    · rw [hnone] at hc
      cases hc
  have hparked : s.intake.bridge.readEnd = .parked := by
    cases hr : s.intake.bridge.readEnd with
    | parked => rfl
    | held => exact absurd hr hheld
    | dropped => exact absurd hr hopen
  refine ⟨h.pipeline, h.ending, hvacant, hparked, h.expected, hunwanted, ?_, ?_, h.frames⟩
  · unfold Intake.remainder
    rw [h.pipeline]
  · rw [← h.failures]
    exact hhosted.queue_of_untold huntold

-- A reader that leaves before the end leaves everything that it has not taken.
theorem Carried.unread_leave (h : Carried e p total s a) {c : Consumer} (hc : s.reader = some c)
    (hgoing : c.done = false) (hopen : s.intake.bridge.readEnd ≠ .dropped) :
    Unread e p s.intake.remainder s.leave.intake := by
  have hreads : c.reads = true := by
    rw [← Bool.not_eq_false]
    intro hreads
    have hread := (h.hosted_of hc).occupied.2.1
    rw [hreads] at hread
    exact hopen hread
  have hsame : s.leave.intake.remainder = s.intake.remainder := by
    have hbefore := h.taken_remainder
    have hafter := h.leave.taken_remainder
    have htaken : s.leave.taken = s.taken := by rw [Relay.leave_of_some hc]
    rw [htaken, ← hbefore] at hafter
    exact List.append_cancel_left hafter
  have hparked : s.leave.intake.bridge.readEnd ≠ .dropped := by
    rw [Relay.leave_of_some hc]
    unfold Bridge.detach
    dsimp only
    rw [hreads, hgoing]
    nofun
  rw [← hsame]
  exact h.leave.unread (by rw [Relay.leave_of_some hc]) hparked

-- Once somebody has met the end, nothing is left,
theorem Carried.spent (h : Carried e p total s a) (hdropped : s.intake.bridge.readEnd = .dropped) :
    s.intake.remainder = [] := by
  rcases h.hosted.dropped hdropped with ⟨hterminated, hqueue⟩
  unfold Intake.remainder Bridge.items bytesThrough
  rw [hqueue, h.frames hterminated]
  rfl

-- and those who come too late are told so.
theorem poll_of_latecomer {b : Bridge Bytes} {c : Consumer} (hreads : c.reads = false) :
    (b.poll c).1 = .ended := by
  have hlook := b.poll_look c
  generalize (b.poll c).1 = found at hlook ⊢
  generalize (b.poll c).2.1 = c' at hlook
  generalize (b.poll c).2.2 = b' at hlook
  cases hlook with
  | finished _ | outside _ _ => rfl
  | item _ _ _ hr _ | failure _ _ _ hr _ | exhausted _ hr _ _ | nothingYet _ hr _ _ =>
      exact absurd (hreads.symm.trans hr) Bool.false_ne_true

end Turns

/-! ### Several turns -/

namespace Relay

/-- Some schedule leads from one state of a body to another. -/
def Runs (s s' : Relay) : Prop := Schedule.Runs turn s s'

theorem Runs.refl (s : Relay) : s.Runs s := Schedule.Runs.refl s

theorem runs_turn (s : Relay) (t : Turn) : s.Runs (s.turn t) := Schedule.Runs.once s t

theorem Runs.trans {s s' s'' : Relay} (h : s.Runs s') (h' : s'.Runs s'') : s.Runs s'' :=
  Schedule.Runs.trans h h'

-- The pump goes on until it has to wait, which is some steps.
theorem runs_pump (frames : List BodyFrame) : ∀ s : Relay, s.intake.frames = frames →
    s.Runs { s with intake := s.intake.pump } := by
  induction frames with
  | nil =>
      intro s hf
      rw [pump_of_last (Or.inr hf)]
      exact s.runs_turn .pump
  | cons frame rest ih =>
      intro s hf
      by_cases hwanted : s.intake.bridge.readiness? = some .wanted
      · have hstep : s.intake.step.frames = rest := by
          unfold Intake.step
          rw [hwanted, hf]
          cases frame <;> rfl
        rw [pump_of_wanted hwanted (by rw [hf]; exact List.cons_ne_nil _ _)]
        exact (s.runs_turn .pump).trans (ih s.pump hstep)
      · rw [pump_of_last (Or.inl hwanted)]
        exact s.runs_turn .pump

-- A reader that finds nothing waits for the pump and looks again.
theorem runs_pull {s : Relay} {c : Consumer} (hc : s.reader = some c) :
    ∃ taken, s.Runs
      { intake := (s.intake.pull c).2.2, reader := some (s.intake.pull c).2.1, taken } := by
  have hfirst := s.runs_turn .look
  unfold turn look at hfirst
  rw [hc] at hfirst
  dsimp only at hfirst
  unfold Intake.pull
  generalize s.intake.bridge.poll c = found at hfirst ⊢
  rcases found with ⟨found, c', b⟩
  have hpumped := hfirst.trans (runs_pump _ _ rfl)
  cases found with
  | item chunk => exact ⟨_, hpumped⟩
  | ended => exact ⟨_, hpumped⟩
  | failed err => exact ⟨_, hpumped⟩
  | pending => exact ⟨_, (hpumped.trans (runs_turn _ .look)).trans (runs_pump _ _ rfl)⟩

end Relay

end Http

end DemandNet
