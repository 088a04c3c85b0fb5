import DemandNet.Proofs.Http.Multipart.Buffering

/-!
# Progress

Every call comes to an end, and parts yield no more chunks than there are bytes.

A look that asks for a chunk takes one off the input, and there are only so many. A look that
does not ask ends its run, and a task has few runs beside those that hand a chunk out. A chunk
that is handed out holds at least one byte, and that byte is gone from what the decoder can
still come to see. So a part is read to its end in a number of questions that is known from
the start, and more of them would find nothing more.

The decoder starts with a line end of its own in the buffer, which is no byte of the input.
Nothing is handed out before the first delimiter, though, and that takes more bytes away than
were put in. This is why the account counts the two bytes from the moment on at which the
preamble is left.

## Main definitions

* `Decoder.stock`: How many bytes can still be handed out, before or behind the preamble.
* `Spends`: What is handed out was in stock.

## Theorems

* `Course.brief`: A task takes no more looks than there are chunks, and a few.
* `Course.settled`: It does not break off where the input ends.
* `Course.takes`: It makes no bytes up.
* `spends_task`: Every chunk that is handed out costs a byte.
* `chunksUpTo_enough`: More questions than there are bytes find no more chunks.
* `buffer_bounded_and_calls_end`: The buffer is bounded, and every call makes progress.
-/

namespace DemandNet

namespace Http

namespace Multipart

/-! ### In the course of a task -/

namespace Course

variable {n : Nat} {looks : List Look} {d d' : Decoder} {i i' : Input} {o : Outcome Unit}

-- Every look is paid for by a chunk, or it is one of those that end a run.
theorem brief (h : Course n looks d i o d' i') :
    looks.length + i'.chunks.length ≤ i.chunks.length + n := by
  induction h with
  | still n d i => exact Nat.le_trans (Nat.le_of_eq (Nat.zero_add _)) (Nat.le_add_right _ _)
  | told n d i o _ _ _ =>
      rw [List.length_singleton]
      omega
  | fed d chunk rest ending pulls _ _ _ =>
      simp only [List.length_cons, List.length_nil]
      omega
  | broken n d ending pulls _ _ _ =>
      rw [List.length_singleton, List.length_nil]
      omega
  | opened _ ih => exact ih
  | andThen _ _ ih ihrest =>
      rw [List.length_append]
      omega

theorem settled (h : Course n looks d i o d' i') (hends : i.ending ≠ .stalled) :
    o ≠ .stalled ∧ i'.ending ≠ .stalled := by
  induction h with
  | still n d i => exact ⟨by rintro ⟨⟩, hends⟩
  | told n d i o _ _ ho => exact ⟨ho, hends⟩
  | fed d chunk rest ending pulls _ _ _ => exact ⟨by rintro ⟨⟩, hends⟩
  | broken n d ending pulls _ _ _ =>
      cases ending with
      | ended | failed e => exact ⟨by rintro ⟨⟩, by rintro ⟨⟩⟩
      | stalled => exact absurd rfl hends
  | opened _ ih => exact ih hends
  | andThen _ _ ih ihrest => exact ihrest (ih hends).2

-- No bytes are made up, and the preamble is not come back to.
theorem takes (h : Course n looks d i o d' i') :
    d'.remaining i' ≤ d.remaining i ∧ (d'.place = .preamble → d.place = .preamble) := by
  unfold Decoder.remaining
  induction h with
  | still n d i => exact ⟨Nat.le_refl _, id⟩
  | told n d i o hscans _ _ =>
      have hle := (hscans d).trims.length_le
      exact ⟨by omega, (hscans d).early⟩
  | fed d chunk rest ending pulls hscans _ _ =>
      have hle := (hscans d).trims.length_le
      refine ⟨?_, (hscans d).early⟩
      unfold Decoder.feed
      simp only [List.length_append, List.flatten_cons]
      omega
  | broken n d ending pulls hscans _ _ =>
      have hle := (hscans d).trims.length_le
      exact ⟨by simp only []; omega, (hscans d).early⟩
  | opened _ ih => exact ⟨ih.1, by rintro ⟨⟩⟩
  | andThen _ _ ih ihrest => exact ⟨Nat.le_trans ihrest.1 ih.1, fun hp => ih.2 (ihrest.2 hp)⟩

end Course

/-! ### The account of the bytes -/

/-- The number of bytes that a decoder can still come to see, and the two that it had before,
    once the preamble is behind. -/
def Decoder.stock (d : Decoder) (i : Input) : Nat :=
  d.remaining i + if d.place = .preamble then 0 else 2

/-- Of what was in stock `n` pieces are handed out, none of them in the preamble. -/
structure Spends (n : Nat) (d : Decoder) (i : Input) (d' : Decoder) (i' : Input) : Prop where
  stock : n + d'.stock i' ≤ d.stock i
  early : d'.place = .preamble → d.place = .preamble ∧ n = 0

theorem Spends.trans {m n : Nat} {d d₁ d' : Decoder} {i i₁ i' : Input}
    (h : Spends m d i d₁ i₁) (hrest : Spends n d₁ i₁ d' i') : Spends (m + n) d i d' i' := by
  have hfirst := h.stock
  have hlast := hrest.stock
  refine ⟨by omega, fun hp => ?_⟩
  rcases hrest.early hp with ⟨hp₁, hn⟩
  rcases h.early hp₁ with ⟨hp₀, hm⟩
  exact ⟨hp₀, by omega⟩

-- Where nothing is handed out it is enough that the preamble is not left for nothing.
theorem spends_nothing {n : Nat} {looks : List Look} {d d' : Decoder} {i i' : Input}
    {o : Outcome Unit} (h : Course n looks d i o d' i')
    (hleft : d.place = .preamble → d'.place = .preamble ∨ d'.remaining i' + 2 ≤ d.remaining i) :
    Spends 0 d i d' i' := by
  rcases h.takes with ⟨hle, hearly⟩
  refine ⟨?_, fun hp => ⟨hearly hp, rfl⟩⟩
  unfold Decoder.stock
  by_cases hp : d.place = .preamble
  · rw [if_pos hp]
    rcases hleft hp with hp' | hless
    · rw [if_pos hp']
      omega
    · split_ifs <;> omega
  · rw [if_neg hp]
    split_ifs <;> omega

-- The delimiter at the end of the preamble is longer than what the decoder had before.
theorem remaining_of_skip {d d' : Decoder} {i i' : Input} {u : Outcome Unit}
    (h : d.skipToDelimiter i = (u, d', i')) :
    d'.place = d.place ∨ d'.remaining i' + 4 ≤ d.remaining i := by
  have hlook := skipToDelimiter_looks d i
  rw [h] at hlook
  generalize hr : ((u, d', i') : Outcome Unit × Decoder × Input) = r at hlook
  cases hlook with
  | @delimiter n d₁ _ i₁ _ _ _ hfound hrest hsuffix =>
      cases hr
      have hline := (course_run 0 scans_suffix trivial hsuffix).takes.1
      have hin := ((indexOf?_eq_some _ _ _).1 hfound).length_le (delimiter_ne_nil d)
      have hlong := four_le_delimiter d
      have hbehind : d₁.remaining i₁ =
          (d.whole i).buffer.length - (n + d.delimiter.length) := by
        rw [remaining_eq, hrest]
        exact List.length_drop
      rw [remaining_eq d i]
      exact Or.inr (by omega)
  | broken _ =>
      cases hr
      exact Or.inl rfl

theorem spends_next (d : Decoder) (i : Input) :
    Spends 0 d i (d.nextPart i).2.1 (d.nextPart i).2.2 := by
  refine spends_nothing (course_next 0 d i) fun hp => ?_
  have hlook := nextPart_looks d i
  generalize d.nextPart i = r at hlook
  cases hlook with
  | ended _ => exact Or.inl hp
  | here hplace =>
      rw [hp] at hplace
      cases hplace
  | @opened d₁ i₁ _ hskip hopen =>
      have hread := (course_headers 0 d₁ i₁ hopen).takes.1
      rcases remaining_of_skip hskip with hsame | hless
      · rw [hopen, hp] at hsame
        cases hsame
      · exact Or.inr (by omega)
  | closed _ hskip _ =>
      rcases remaining_of_skip hskip with hsame | hless
      · exact Or.inl (hsame.trans hp)
      · exact Or.inr (by dsimp only; omega)

/-! ### Chunks -/

theorem body_of_found {d d' : Decoder} {i i' : Input} {bs : Bytes}
    (h : d.bodyChunk i = (.done (some bs), d', i')) : d.place = .body ∧ bs ≠ [] := by
  have hlook := bodyChunk_looks d i
  generalize hr : d.bodyChunk i = r at hlook
  rw [h] at hr
  cases hlook with
  | outside _ => cases hr
  | @chunk n _ _ hplace _ hpos hkeep _ _ =>
      cases hr
      refine ⟨hplace, List.ne_nil_of_length_pos ?_⟩
      rw [List.length_take]
      omega
  | @delimiter _ _ _ _ u _ _ _ _ _ => cases u <;> cases hr
  | broken _ _ _ => cases hending : i.ending <;> rw [hending] at hr <;> cases hr

theorem spends_found {d d' : Decoder} {i i' : Input} {bs : Bytes}
    (h : d.bodyChunk i = (.done (some bs), d', i')) : Spends 1 d i d' i' := by
  have hplace := (body_of_found h).1
  have hless := remaining_of_chunk hplace h
  have hlater : d'.place ≠ .preamble := by
    intro hp
    have hbefore := (course_found h).takes.2 hp
    rw [hplace] at hbefore
    cases hbefore
  refine ⟨?_, fun hp => absurd hp hlater⟩
  unfold Decoder.stock
  rw [if_neg hlater, if_neg (by rw [hplace]; rintro ⟨⟩)]
  omega

theorem bodyChunk_outside {d : Decoder} (i : Input) (h : d.place ≠ .body) :
    d.bodyChunk i = (.done none, d, i) := by
  unfold Decoder.bodyChunk
  rw [run_bodyAttempt_nothing h]

theorem spends_unfound {d d' : Decoder} {i i' : Input} {o : Outcome (Option Bytes)}
    (h : d.bodyChunk i = (o, d', i')) : Spends 0 d i d' i' := by
  have hcourse := course_chunk 0 d i
  rw [h] at hcourse
  refine spends_nothing hcourse fun hp => Or.inl ?_
  rw [bodyChunk_outside i (by rw [hp]; rintro ⟨⟩)] at h
  have hsame : d = d' := congrArg (fun r => r.2.1) h
  rw [← hsame]
  exact hp

theorem spends_chunk (d : Decoder) (i : Input) :
    Spends (d.bodyChunk i).1.handed.length d i (d.bodyChunk i).2.1 (d.bodyChunk i).2.2 := by
  rcases h : d.bodyChunk i with ⟨(_ | bs) | e | _, d', i'⟩
  case done.some => exact spends_found h
  all_goals exact spends_unfound h

-- By induction on the number of questions: every one that finds a chunk spends a byte.
theorem spends_all (fuel : Nat) : ∀ (d : Decoder) (i : Input),
    Spends (d.chunksUpTo i fuel).1.length d i (d.chunksUpTo i fuel).2.2.1
      (d.chunksUpTo i fuel).2.2.2 := by
  induction fuel with
  | zero => exact fun d i => ⟨Nat.le_of_eq (Nat.zero_add _), fun hp => ⟨hp, rfl⟩⟩
  | succ fuel ih =>
      intro d i
      rw [Decoder.chunksUpTo]
      rcases h : d.bodyChunk i with ⟨(_ | bs) | e | _, d₁, i₁⟩
      case done.some =>
        have hboth := (spends_found h).trans (ih d₁ i₁)
        rw [Nat.add_comm] at hboth
        exact hboth
      all_goals exact spends_unfound h

theorem spends_task (t : Task) (d : Decoder) (i : Input) :
    Spends (t.yields d i).length d i (t.perform d i).2.1 (t.perform d i).2.2 := by
  cases t with
  | still => exact spends_nothing (.still 0 d i) Or.inl
  | next => exact spends_next d i
  | chunk => exact spends_chunk d i
  | all => exact spends_all _ d i

theorem ne_nil_of_mem_chunksUpTo (fuel : Nat) : ∀ (d : Decoder) (i : Input),
    ∀ bs ∈ (d.chunksUpTo i fuel).1, bs ≠ [] := by
  induction fuel with
  | zero => exact fun d i bs hbs => absurd hbs List.not_mem_nil
  | succ fuel ih =>
      intro d i bs hbs
      rw [Decoder.chunksUpTo] at hbs
      rcases h : d.bodyChunk i with ⟨(_ | found) | e | _, d₁, i₁⟩ <;> rw [h] at hbs
      case done.some =>
        rcases List.mem_cons.1 hbs with rfl | hlater
        · exact (body_of_found h).2
        · exact ih d₁ i₁ bs hlater
      all_goals exact absurd hbs List.not_mem_nil

theorem ne_nil_of_mem_yields (t : Task) (d : Decoder) (i : Input) :
    ∀ bs ∈ t.yields d i, bs ≠ [] := by
  intro bs hbs
  cases t with
  | still | next => exact absurd hbs List.not_mem_nil
  | chunk =>
      have hfound : bs ∈ (d.bodyChunk i).1.handed := hbs
      rcases h : d.bodyChunk i with ⟨(_ | found) | e | _, d', i'⟩ <;> rw [h] at hfound
      case done.some =>
        rw [List.mem_singleton.1 hfound]
        exact (body_of_found h).2
      all_goals exact absurd hfound List.not_mem_nil
  | all => exact ne_nil_of_mem_chunksUpTo _ d i bs hbs

-- By induction on the number of questions that is enough: a chunk leaves fewer bytes.
theorem chunksUpTo_enough (fuel : Nat) : ∀ (d : Decoder) (i : Input) (n : Nat),
    d.remaining i < fuel → d.chunksUpTo i (fuel + n) = d.chunksUpTo i fuel := by
  induction fuel with
  | zero => exact fun d i n hfuel => absurd hfuel (Nat.not_lt_zero _)
  | succ fuel ih =>
      intro d i n hfuel
      rw [Nat.add_right_comm, Decoder.chunksUpTo, Decoder.chunksUpTo]
      rcases h : d.bodyChunk i with ⟨(_ | bs) | e | _, d₁, i₁⟩
      case done.some =>
        have hless := remaining_of_chunk (body_of_found h).1 h
        dsimp only
        rw [ih d₁ i₁ n (by omega)]
      all_goals rfl

/-! ### All calls -/

theorem run_spends (calls : List Call) : ∀ (r : Reader),
    Spends (r.yielded calls).length r.decoder r.input (r.run calls).2.decoder
      (r.run calls).2.input := by
  induction calls with
  | nil => exact fun r => spends_nothing (.still 0 r.decoder r.input) Or.inl
  | cons c rest ih =>
      intro r
      have hperforms := call_performs r c
      have htask := spends_task (r.task c) r.decoder r.input
      rw [← hperforms.decoder_eq, ← hperforms.input_eq] at htask
      rw [Reader.yielded, Reader.run_cons, List.length_append]
      exact htask.trans (ih (r.call c).2)

theorem ne_nil_of_mem_yielded (calls : List Call) : ∀ (r : Reader),
    ∀ bs ∈ r.yielded calls, bs ≠ [] := by
  induction calls with
  | nil => exact fun r bs hbs => absurd hbs List.not_mem_nil
  | cons c rest ih =>
      intro r bs hbs
      rcases List.mem_append.1 hbs with hnow | hlater
      · exact ne_nil_of_mem_yields (r.task c) r.decoder r.input bs hnow
      · exact ih (r.call c).2 bs hlater

theorem run_settled (calls : List Call) : ∀ (r : Reader), r.input.ending ≠ .stalled →
    (r.run calls).2.input.ending ≠ .stalled := by
  induction calls with
  | nil => exact fun r hends => hends
  | cons c rest ih =>
      intro r hends
      have hsettled := (course_task (r.task c) r.decoder r.input).settled hends
      rw [← (call_performs r c).input_eq] at hsettled
      rw [Reader.run_cons]
      exact ih (r.call c).2 hsettled.2

theorem yielded_le (boundary : String) (input : Input) (calls : List Call) :
    ((Reader.start boundary input).yielded calls).length ≤ input.chunks.flatten.length := by
  rcases run_spends calls (Reader.start boundary input) with ⟨hstock, hearly⟩
  generalize hlast : ((Reader.start boundary input).run calls).2 = r at hstock hearly
  have hstart : (Reader.start boundary input).decoder.stock (Reader.start boundary input).input =
      2 + input.chunks.flatten.length := rfl
  by_cases hp : r.decoder.place = .preamble
  · have hnone := (hearly hp).2
    omega
  · have hbehind : r.decoder.stock r.input = r.decoder.remaining r.input + 2 := by
      unfold Decoder.stock
      rw [if_neg hp]
    omega

-- A chunk is asked for only where the buffer is too short to tell, so that no more is held than
-- there is room for and the last chunk, at every look and between the calls. Parts yield chunks
-- with something in them, in all no more than there are bytes. A call takes as many looks as
-- there are chunks to come and chunks that it hands out, and three more at the most; it is not
-- stopped by the number of its questions, and it does not break off if the input ends.
theorem buffer_bounded_and_calls_end (boundary : String) (input : Input) (calls : List Call) :
    let first := Reader.start boundary input
    let r := (first.run calls).2
    (∀ l ∈ first.history calls, l.Frugal boundary input) ∧
    Filled boundary input r.decoder r.input.chunks ∧
    r.input.pulls = input.pulls + (first.history calls).countP Look.asked ∧
    (∀ bs ∈ first.yielded calls, bs ≠ []) ∧
    (first.yielded calls).length ≤ input.chunks.flatten.length ∧
    (∀ n, r.decoder.chunksUpTo r.input (r.decoder.remaining r.input + 1 + n) =
      r.decoder.readChunks r.input) ∧
    ∀ c,
      ((r.call c).1 = .stalled → input.ending = .stalled) ∧
      (r.looks c).length ≤ r.input.chunks.length + (r.yields c).length + 3 ∧
      (∀ bs, (r.call c).1 = .chunk bs → r.yields c = [bs]) ∧
      ∀ bs, (r.call c).1 = .bytes bs → (r.yields c).flatten = bs := by
  intro first r
  have hfrugal := frugal_after calls first [] (frugal_start boundary input)
  refine ⟨hfrugal.looked, hfrugal.filled, hfrugal.pulls_eq, ne_nil_of_mem_yielded calls first,
    yielded_le boundary input calls, fun n => chunksUpTo_enough _ _ _ n (Nat.lt_succ_self _),
    fun c => ?_⟩
  have hperforms := call_performs r c
  have hcourse := course_task (r.task c) r.decoder r.input
  refine ⟨fun hstalled => ?_, ?_, hperforms.chunk, hperforms.bytes⟩
  · by_contra hends
    have hlast := run_settled calls first hends
    exact (hcourse.settled hlast).1 (hperforms.stalled hstalled)
  · have hbrief := hcourse.brief
    unfold Reader.looks Reader.yields
    omega

end Multipart

end Http

end DemandNet
