import DemandNet.Proofs.Http.Multipart.Looks

/-!
# The Course of a Task

Everything that a decoder does, as runs of its four attempts one after the other.

An operation of the decoder goes from one run to the next as long as they come to a result.
That is put down once, as the course of a task, so that what is to be shown of all operations
is shown of one run and by induction on the course. Of the attempts no more needs to be known
then than what they have in common: each takes bytes off the front of the buffer, and asks for
a chunk only where the buffer is too short to tell.

Every look of a run but the last one asks for a chunk and gets it, so that there is one look
beside those. How many there are of these is part of the course: a task has three runs at
most, and one more for every chunk of a part that it hands out.

## Main definitions

* `Stage.Scarce`: The buffer is too short to tell.
* `Curtails`, `Scans`: What an attempt leaves, and so what the attempts have in common.
* `Course`: What happens in the course of a task.

## Theorems

* `scans_skip`, `scans_suffix`, `scans_headers`, `scans_body`: The four attempts.
* `runOn_asked_nil`, `runOn_asked_cons`, `runOn_told`: One look of a run.
* `course_run`: A run is a course.
* `course_task`: Every task takes such a course.
-/

namespace DemandNet

namespace Http

namespace Multipart

open Decoder (Found)

/-! ### Attempts -/

namespace Stage

/-- Where in the body a decoder is when it begins to look. -/
def Begins : Stage → Place → Prop
  | .delimiter, p => p = .preamble ∨ p = .body
  | .headers, p => p = .headers
  | .line, _ | .body, _ => True

/-- The buffer is too short to tell what the decoder is after. -/
def Scarce : Stage → Decoder → Prop
  | .delimiter, d =>
      (d.place = .preamble ∨ d.place = .body) ∧ d.buffer.length < d.delimiter.length
  | .line, d => d.buffer.length < 2
  | .headers, d => d.place = .headers ∧ d.buffer.length ≤ maxHeaderBytes
  | .body, d => d.place = .body ∧ d.buffer.length < d.delimiter.length

theorem begins_of_scarce {stage : Stage} {d : Decoder} (h : stage.Scarce d) :
    stage.Begins d.place := by
  cases stage with
  | delimiter | headers => exact h.1
  | line | body => trivial

end Stage

/-- What an attempt leaves: the end of the buffer, and too little of it if it asks. -/
structure Curtails (stage : Stage) (d : Decoder) (a : Attempt α × Decoder) : Prop where
  boundary_eq : a.2.boundary = d.boundary
  trims : a.2.buffer <:+ d.buffer
  early : a.2.place = .preamble → d.place = .preamble
  scarce : stage.Begins d.place → a.1.asks = true → stage.Scarce a.2

/-- An attempt of the decoder, with what it is after. -/
def Scans (stage : Stage) (attempt : Decoder → Attempt α × Decoder) : Prop :=
  ∀ d, Curtails stage d (attempt d)

theorem curtails_advance {stage : Stage} {a : Attempt α} (d : Decoder) (n : Nat)
    (ha : a.asks = false) : Curtails stage d (a, d.advance n) where
  boundary_eq := rfl
  trims := List.drop_suffix n d.buffer
  early := id
  scarce := by
    intro _ hasks
    rw [ha] at hasks
    cases hasks

-- A line end and two dashes, at least.
theorem four_le_delimiter (d : Decoder) : 4 ≤ d.delimiter.length := by
  unfold Decoder.delimiter lineEnd dashes
  simp only [List.length_append, List.length_cons, List.length_nil]
  omega

theorem scans_skip : Scans .delimiter Decoder.skipAttempt := by
  intro d
  cases hfound : indexOf? d.delimiter d.buffer with
  | some n =>
      rw [skipAttempt_some d n hfound]
      exact curtails_advance d _ rfl
  | none =>
      rw [skipAttempt_none d hfound]
      refine ⟨rfl, List.drop_suffix _ d.buffer, id, fun hplace _ => ⟨hplace, ?_⟩⟩
      change (d.buffer.drop _).length < d.delimiter.length
      have hlong := four_le_delimiter d
      rw [List.length_drop]
      omega

theorem scans_suffix : Scans .line Decoder.suffixAttempt := by
  intro d
  have hpadding : d.buffer.dropWhile Decoder.isPaddingByte <:+ d.buffer := List.dropWhile_suffix _
  have hbehind := (List.drop_suffix 2 (d.buffer.dropWhile Decoder.isPaddingByte)).trans hpadding
  unfold Decoder.suffixAttempt
  dsimp only
  split_ifs with hshort hlast hopen
  · exact ⟨rfl, hpadding, id, fun _ _ => hshort⟩
  · exact ⟨rfl, hbehind, by rintro ⟨⟩, by rintro _ ⟨⟩⟩
  · exact ⟨rfl, hbehind, by rintro ⟨⟩, by rintro _ ⟨⟩⟩
  · exact ⟨rfl, hpadding, id, by rintro _ ⟨⟩⟩

theorem scans_headers : Scans .headers Decoder.headersAttempt := by
  intro d
  by_cases hp : lineEnd <+: d.buffer
  · rw [headersAttempt_empty d hp]
    exact curtails_advance d 2 rfl
  · cases hf : indexOf? (lineEnd ++ lineEnd) d.buffer with
    | some n =>
        rw [headersAttempt_some d n hp hf]
        exact curtails_advance d (n + 4) (by cases parseHeaders (d.buffer.take n) <;> rfl)
    | none =>
        rw [headersAttempt_none d hp hf]
        by_cases hlong : maxHeaderBytes < d.buffer.length
        · rw [if_pos hlong]
          exact curtails_advance d 0 rfl
        · rw [if_neg hlong]
          exact ⟨rfl, List.suffix_refl _, id, fun hplace _ => ⟨hplace, Nat.not_lt.1 hlong⟩⟩

theorem scans_body : Scans .body Decoder.bodyAttempt := by
  intro d
  by_cases hplace : d.place = .body
  · have htry := bodyAttempt_tries hplace
    generalize d.bodyAttempt = a at htry
    cases htry with
    | delimiter _ | before _ _ | sure _ _ _ => exact curtails_advance d _ rfl
    | more _ hshort =>
        have hpos := Nat.lt_of_lt_of_le (show 0 < 4 by decide) (four_le_delimiter d)
        exact ⟨rfl, List.suffix_refl _, id, fun _ _ => ⟨hplace, Nat.lt_of_le_pred hpos hshort⟩⟩
  · unfold Decoder.bodyAttempt
    rw [if_pos hplace]
    exact curtails_advance d 0 rfl

/-! ### Runs -/

section Runs

variable {stage : Stage} {attempt : Decoder → Attempt α × Decoder} {d : Decoder}

theorem runOn_asked_nil (h : (attempt d).1.asks = true) (ending : Ending) (pulls : Nat) :
    Decoder.runOn attempt ending d pulls [] =
      (ending.outcome, (attempt d).2, ⟨[], ending.after, pulls + 1⟩) := by
  rcases ha : attempt d with ⟨a | e | _, d'⟩ <;> rw [ha] at h <;> cases h
  simp only [Decoder.runOn, ha]

theorem runOn_asked_cons (h : (attempt d).1.asks = true) (ending : Ending) (pulls : Nat)
    (chunk : Bytes) (rest : List Bytes) :
    Decoder.runOn attempt ending d pulls (chunk :: rest) =
      Decoder.runOn attempt ending ((attempt d).2.feed chunk) (pulls + 1) rest := by
  rcases ha : attempt d with ⟨a | e | _, d'⟩ <;> rw [ha] at h <;> cases h
  simp only [Decoder.runOn, ha]

-- What the buffer was enough for is the result, and the input is left alone.
theorem runOn_told (h : (attempt d).1.asks = false) (ending : Ending) (pulls : Nat)
    (chunks : List Bytes) : ∃ o : Outcome α, o ≠ .stalled ∧
      Decoder.runOn attempt ending d pulls chunks =
        (o, (attempt d).2, ⟨chunks, ending, pulls⟩) := by
  rcases ha : attempt d with ⟨a | e | _, d'⟩
  · exact ⟨.done a, by rintro ⟨⟩, by cases chunks <;> simp only [Decoder.runOn, ha]⟩
  · exact ⟨.failed e, by rintro ⟨⟩, by cases chunks <;> simp only [Decoder.runOn, ha]⟩
  · rw [ha] at h
    cases h

end Runs

/-! ### Courses -/

/-- What happens in the course of a task, look by look. There are at most `n` looks beside
    those after which a chunk comes. -/
inductive Course : Nat → List Look → Decoder → Input → Outcome Unit → Decoder → Input → Prop where
  | still (n : Nat) (d : Decoder) (i : Input) : Course n [] d i (.done ()) d i
  /-- The buffer is enough. -/
  | told {α : Type} {stage : Stage} {attempt : Decoder → Attempt α × Decoder} (n : Nat)
      (d : Decoder) (i : Input) (o : Outcome Unit) (hscans : Scans stage attempt)
      (hasks : (attempt d).1.asks = false) (ho : o ≠ .stalled) :
      Course (n + 1) [⟨stage, d, (attempt d).2, false, i.chunks⟩] d i o (attempt d).2 i
  /-- A chunk is asked for and comes. -/
  | fed {α : Type} {stage : Stage} {attempt : Decoder → Attempt α × Decoder} (d : Decoder)
      (chunk : Bytes) (rest : List Bytes) (ending : Ending) (pulls : Nat)
      (hscans : Scans stage attempt) (hbegins : stage.Begins d.place)
      (hasks : (attempt d).1.asks = true) :
      Course 0 [⟨stage, d, (attempt d).2, true, chunk :: rest⟩] d ⟨chunk :: rest, ending, pulls⟩
        (.done ()) ((attempt d).2.feed chunk) ⟨rest, ending, pulls + 1⟩
  /-- A chunk is asked for, and there is none. -/
  | broken {α : Type} {stage : Stage} {attempt : Decoder → Attempt α × Decoder} (n : Nat)
      (d : Decoder) (ending : Ending) (pulls : Nat) (hscans : Scans stage attempt)
      (hbegins : stage.Begins d.place) (hasks : (attempt d).1.asks = true) :
      Course (n + 1) [⟨stage, d, (attempt d).2, true, []⟩] d ⟨[], ending, pulls⟩
        ending.outcome (attempt d).2 ⟨[], ending.after, pulls + 1⟩
  /-- Behind its headers the body of a part begins. -/
  | opened {n : Nat} {looks : List Look} {d d' : Decoder} {i i' : Input}
      (h : Course n looks d i (.done ()) d' i') :
      Course n looks d i (.done ()) { d' with place := .body } i'
  | andThen {m n : Nat} {looks more : List Look} {d d₁ d' : Decoder} {i i₁ i' : Input}
      {o : Outcome Unit} (h : Course m looks d i (.done ()) d₁ i₁)
      (hrest : Course n more d₁ i₁ o d' i') : Course (m + n) (looks ++ more) d i o d' i'

theorem Ending.outcome_as (ending : Ending) :
    (ending.outcome : Outcome α).as () = ending.outcome := by
  cases ending <;> rfl

theorem Outcome.as_unit (o : Outcome Unit) : o.as () = o := by
  cases o <;> rfl

theorem Outcome.as_ne_stalled {o : Outcome α} (h : o ≠ .stalled) (b : β) : o.as b ≠ .stalled := by
  cases o with
  | done a | failed e => rintro ⟨⟩
  | stalled => exact absurd rfl h

-- By induction on the chunks: each of them is asked for by one look.
theorem course_runOn {stage : Stage} {attempt : Decoder → Attempt α × Decoder} (n : Nat)
    (hscans : Scans stage attempt) (ending : Ending) (chunks : List Bytes) :
    ∀ (d : Decoder) (pulls : Nat), stage.Begins d.place →
      Course (n + 1) (d.watchOn stage attempt chunks) d ⟨chunks, ending, pulls⟩
        ((Decoder.runOn attempt ending d pulls chunks).1.as ())
        (Decoder.runOn attempt ending d pulls chunks).2.1
        (Decoder.runOn attempt ending d pulls chunks).2.2 := by
  induction chunks with
  | nil =>
      intro d pulls hbegins
      rw [Decoder.watchOn]
      cases hasks : (attempt d).1.asks with
      | false =>
          rcases runOn_told hasks ending pulls [] with ⟨o, ho, hrun⟩
          rw [hrun]
          exact .told n d ⟨[], ending, pulls⟩ _ hscans hasks (Outcome.as_ne_stalled ho ())
      | true =>
          rw [runOn_asked_nil hasks, Ending.outcome_as]
          exact .broken n d ending pulls hscans hbegins hasks
  | cons chunk rest ih =>
      intro d pulls hbegins
      rw [Decoder.watchOn]
      cases hasks : (attempt d).1.asks with
      | false =>
          rcases runOn_told hasks ending pulls (chunk :: rest) with ⟨o, ho, hrun⟩
          rw [hrun, if_neg Bool.false_ne_true]
          exact .told n d ⟨chunk :: rest, ending, pulls⟩ _ hscans hasks
            (Outcome.as_ne_stalled ho ())
      | true =>
          have hstill : stage.Begins (attempt d).2.place :=
            Stage.begins_of_scarce ((hscans d).scarce hbegins hasks)
          rw [runOn_asked_cons hasks, if_pos rfl, ← Nat.zero_add (n + 1)]
          exact .andThen (.fed d chunk rest ending pulls hscans hbegins hasks)
            (ih _ (pulls + 1) hstill)

theorem course_run {stage : Stage} {attempt : Decoder → Attempt α × Decoder} (n : Nat)
    (hscans : Scans stage attempt) {d d' : Decoder} {i i' : Input} {o : Outcome α}
    (hbegins : stage.Begins d.place) (hrun : d.run attempt i = (o, d', i')) :
    Course (n + 1) (d.watch stage attempt i) d i (o.as ()) d' i' := by
  have hcourse := course_runOn n hscans i.ending i.chunks d i.pulls hbegins
  unfold Decoder.run at hrun
  rw [hrun] at hcourse
  exact hcourse

/-! ### The courses of the operations -/

theorem course_skip (n : Nat) (d : Decoder) (i : Input)
    (hplace : d.place = .preamble ∨ d.place = .body) :
    Course (n + 2) (d.skipLooks i) d i (d.skipToDelimiter i).1 (d.skipToDelimiter i).2.1
      (d.skipToDelimiter i).2.2 := by
  unfold Decoder.skipLooks Decoder.skipToDelimiter
  rcases hrun : d.run Decoder.skipAttempt i with ⟨u | e | _, d₁, i₁⟩
  · rcases hsuffix : d₁.run Decoder.suffixAttempt i₁ with ⟨o, d', i'⟩
    have hline := course_run 0 scans_suffix trivial hsuffix
    rw [Outcome.as_unit] at hline
    have hboth := Course.andThen (course_run n scans_skip hplace hrun) hline
    dsimp only
    rw [hsuffix]
    exact hboth
  · rw [List.append_nil]
    exact course_run (n + 1) scans_skip hplace hrun
  · rw [List.append_nil]
    exact course_run (n + 1) scans_skip hplace hrun

theorem course_headers (n : Nat) (d : Decoder) (i : Input) (hplace : d.place = .headers) :
    Course (n + 1) (d.watch .headers Decoder.headersAttempt i) d i ((d.readHeaders i).1.as ())
      (d.readHeaders i).2.1 (d.readHeaders i).2.2 := by
  unfold Decoder.readHeaders
  rcases hrun : d.run Decoder.headersAttempt i with ⟨headers | e | _, d', i'⟩
  · exact .opened (course_run n scans_headers hplace hrun)
  · exact course_run n scans_headers hplace hrun
  · exact course_run n scans_headers hplace hrun

theorem course_next (n : Nat) (d : Decoder) (i : Input) :
    Course (n + 3) (d.nextLooks i) d i ((d.nextPart i).1.as ()) (d.nextPart i).2.1
      (d.nextPart i).2.2 := by
  unfold Decoder.nextLooks Decoder.nextPart
  cases hplace : d.place with
  | epilogue => exact .still (n + 3) d i
  | headers => exact course_headers (n + 2) d i hplace
  | preamble | body =>
      have hskip (n : Nat) := course_skip n d i (by rw [hplace]; decide)
      dsimp only
      rcases hr : d.skipToDelimiter i with ⟨u | e | _, d₁, i₁⟩ <;> rw [hr] at hskip
      · by_cases hopen : d₁.place = .headers
        · have hboth := Course.andThen (hskip n) (course_headers 0 d₁ i₁ hopen)
          dsimp only
          rw [if_pos hopen, if_pos hopen]
          exact hboth
        · have hboth := Course.andThen (hskip n) (.still 1 d₁ i₁)
          dsimp only
          rw [if_neg hopen, if_neg hopen]
          exact hboth
      · rw [List.append_nil]
        exact hskip (n + 1)
      · rw [List.append_nil]
        exact hskip (n + 1)

-- A chunk that is found is found by the last look of a run.
theorem course_found {d d' : Decoder} {i i' : Input} {bs : Bytes}
    (h : d.bodyChunk i = (.done (some bs), d', i')) :
    Course 1 (d.chunkLooks i) d i (.done ()) d' i' := by
  unfold Decoder.bodyChunk at h
  unfold Decoder.chunkLooks
  rcases hrun : d.run Decoder.bodyAttempt i with ⟨(found | _ | _) | e | _, d₁, i₁⟩ <;>
    rw [hrun] at h
  · cases h
    rw [List.append_nil]
    exact course_run 0 scans_body trivial hrun
  · dsimp only at h
    rcases hsuffix : d₁.run Decoder.suffixAttempt i₁ with ⟨u | e | _, r⟩ <;>
      rw [hsuffix] at h <;> cases h
  · cases h
  · cases h
  · cases h

theorem course_chunk (n : Nat) (d : Decoder) (i : Input) :
    Course (n + 2) (d.chunkLooks i) d i ((d.bodyChunk i).1.as ()) (d.bodyChunk i).2.1
      (d.bodyChunk i).2.2 := by
  unfold Decoder.chunkLooks Decoder.bodyChunk
  rcases hrun : d.run Decoder.bodyAttempt i with ⟨(found | _ | _) | e | _, d₁, i₁⟩
  · rw [List.append_nil]
    exact course_run (n + 1) scans_body trivial hrun
  · rcases hsuffix : d₁.run Decoder.suffixAttempt i₁ with ⟨o, d', i'⟩
    have hline := course_run 0 scans_suffix trivial hsuffix
    have hboth := Course.andThen (course_run n scans_body trivial hrun) hline
    dsimp only
    rw [hsuffix]
    cases o <;> exact hboth
  · rw [List.append_nil]
    exact course_run (n + 1) scans_body trivial hrun
  · rw [List.append_nil]
    exact course_run (n + 1) scans_body trivial hrun
  · rw [List.append_nil]
    exact course_run (n + 1) scans_body trivial hrun

-- By induction on the number of questions: each of them but the last one finds a chunk.
theorem course_all (n fuel : Nat) : ∀ (d : Decoder) (i : Input),
    Course ((d.chunksUpTo i fuel).1.length + (n + 2)) (d.allLooks i fuel) d i
      (d.chunksUpTo i fuel).2.1 (d.chunksUpTo i fuel).2.2.1 (d.chunksUpTo i fuel).2.2.2 := by
  induction fuel with
  | zero => exact fun d i => .still _ d i
  | succ fuel ih =>
      intro d i
      have hlast := course_chunk n d i
      rw [← Nat.zero_add (n + 2)] at hlast
      rw [Decoder.chunksUpTo, Decoder.allLooks]
      rcases h : d.bodyChunk i with ⟨(_ | bs) | e | _, d₁, i₁⟩ <;> rw [h] at hlast
      · rw [List.append_nil]
        exact hlast
      · have hboth := Course.andThen (course_found h) (ih d₁ i₁)
        rw [← Nat.add_assoc, Nat.add_comm 1] at hboth
        exact hboth
      · rw [List.append_nil]
        exact hlast
      · rw [List.append_nil]
        exact hlast

theorem course_task (t : Task) (d : Decoder) (i : Input) :
    Course ((t.yields d i).length + 3) (t.looks d i) d i (t.perform d i).1 (t.perform d i).2.1
      (t.perform d i).2.2 := by
  cases t with
  | still => exact .still _ d i
  | next => exact course_next _ d i
  | chunk => exact course_chunk _ d i
  | all => exact course_all 1 (d.remaining i + 1) d i

end Multipart

end Http

end DemandNet
