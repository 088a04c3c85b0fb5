import DemandNet.Proofs.Http.Multipart.Calls
import DemandNet.Proofs.Http.Multipart.Overflow

/-!
# What Failures Leave

Which failures of a decoder are the last word, and what follows the others.

A reader may go on calling after a failure. Where the input is over, or the headers in the
buffer are too large, nothing can come of it: the decoder is `Spent`, every call keeps it
so, and no call says anything but failures and nothing. The two other failures are found
in bytes that have been taken off the buffer by then, a boundary line that is none and a
header block that cannot be read. The decoder does not remember that it failed, so it goes
on behind these bytes from the place where it was. Behind a boundary line that is none,
that is the body (or the preamble) it was looking for the end of, and behind a header
block it is the beginning of the headers.

## Main definitions

* `Spent`: A decoder of which nothing can come any more.
* `PassesLine`, `PassesBlock`: The decoder goes on behind a boundary line or a header block.
* `Failure`: What a failure leaves.

## Theorems

* `spent_run`: Nothing comes of calls on a decoder that is spent.
* `failure_of_bodyEnd`, `readHeaders_failed`: The two places at which operations fail.
* `move_failed`: Every failure is one of three.
* `failure_final_or_passed`: A failure is final, or it passes what is malformed.
-/

namespace DemandNet

namespace Http

namespace Multipart

open Decoder (isPaddingByte)

/-- The input is over, and its end has been reached before. -/
def Input.IsOver (i : Input) : Prop := i.chunks = [] ∧ i.ending = .ended

/-- A decoder of which nothing can come any more: it holds headers that are too large, or
    its input is over and what it looks for is not in the buffer. -/
inductive Spent (d : Decoder) (i : Input) : Prop where
  | overlong (hplace : d.place = .headers)
      (h : d.headersAttempt = (.failed tooLarge, d))
  | headers (hplace : d.place = .headers) (h : d.headersAttempt = (.more, d)) (hi : i.IsOver)
  | line (hplace : d.place = .preamble ∨ d.place = .body)
      (hnone : indexOf? d.delimiter d.buffer = none)
      (hshort : d.buffer.length ≤ d.delimiter.length - 1) (hi : i.IsOver)

theorem whole_of_isOver (d : Decoder) {i : Input} (h : i.IsOver) : d.whole i = d := by
  unfold Decoder.whole
  rw [h.1, List.flatten_nil, Decoder.feed_nil]

theorem isOver_after (pulls : Nat) {i : Input} (h : i.IsOver) :
    Input.IsOver ⟨[], i.ending.after, pulls⟩ :=
  ⟨rfl, by rw [h.2]; rfl⟩

/-! ### Nothing comes of a decoder that is spent -/

-- Looking for headers again comes to the same.
theorem readHeaders_of_spent {d : Decoder} {i : Input} (hplace : d.place = .headers)
    (h : Spent d i) : ∃ e i', d.readHeaders i = (.failed e, d, i') ∧ Spent d i' := by
  rcases i with ⟨chunks, ending, pulls⟩
  cases h with
  | overlong _ h =>
      have hrun : d.run Decoder.headersAttempt ⟨chunks, ending, pulls⟩ =
          (.failed tooLarge, d, ⟨chunks, ending, pulls⟩) := by
        unfold Decoder.run
        cases chunks <;> rw [Decoder.runOn, h]
      refine ⟨tooLarge, ⟨chunks, ending, pulls⟩, ?_, .overlong hplace h⟩
      unfold Decoder.readHeaders
      rw [hrun]
  | headers _ h hi =>
      rcases hi with ⟨hchunks, hending⟩
      dsimp only at hchunks hending
      subst hchunks hending
      refine ⟨.decode "multipart body truncated", ⟨[], .ended, pulls + 1⟩, ?_,
        .headers hplace h ⟨rfl, rfl⟩⟩
      unfold Decoder.readHeaders Decoder.run
      rw [Decoder.runOn, h]
      rfl
  | line hline => rcases hline with hline | hline <;> cases hline.symm.trans hplace

theorem skipToDelimiter_of_spent {d : Decoder} {i : Input}
    (hplace : d.place = .preamble ∨ d.place = .body) (h : Spent d i) :
    ∃ e i', d.skipToDelimiter i = (.failed e, d, i') ∧ Spent d i' := by
  cases h with
  | overlong hother _ | headers hother _ _ =>
      rcases hplace with hplace | hplace <;> cases hplace.symm.trans hother
  | line _ hnone hshort hi =>
      have hlook := skipToDelimiter_looks d i
      have hkeep : d.advance (d.buffer.length - (d.delimiter.length - 1)) = d := by
        rw [Nat.sub_eq_zero_of_le hshort]
        rfl
      have hnone' : indexOf? d.delimiter (d.whole i).buffer = none := by
        rwa [whole_of_isOver d hi]
      generalize d.skipToDelimiter i = r at hlook
      cases hlook with
      | delimiter _ hfound _ _ =>
          rw [hfound] at hnone'
          cases hnone'
      | @broken pulls _ =>
          rw [whole_of_isOver d hi, hkeep]
          refine ⟨.decode "multipart body truncated", ⟨[], i.ending.after, pulls⟩, ?_,
            .line hplace hnone hshort (isOver_after pulls hi)⟩
          rw [hi.2]
          rfl

theorem nextPart_of_spent {d : Decoder} {i : Input} (h : Spent d i) :
    ∃ e d' i', d.nextPart i = (.failed e, d', i') ∧ Spent d' i' := by
  have hlook := nextPart_looks d i
  generalize d.nextPart i = r at hlook
  cases hlook with
  | ended hplace =>
      rcases h with ⟨hother, _⟩ | ⟨hother, _, _⟩ | ⟨hother | hother, _, _, _⟩ <;>
        cases hother.symm.trans hplace
  | here hplace =>
      rcases readHeaders_of_spent hplace h with ⟨e, i', hread, hspent⟩
      exact ⟨e, d, i', hread, hspent⟩
  | opened hplace hskip _ =>
      rcases skipToDelimiter_of_spent hplace h with ⟨e, i', hfailed, _⟩
      rw [hskip] at hfailed
      cases hfailed
  | closed hplace hskip _ =>
      rcases skipToDelimiter_of_spent hplace h with ⟨e, _, hfailed, hspent⟩
      rw [hskip] at hfailed
      cases hfailed
      exact ⟨e, d, _, rfl, hspent⟩

theorem bodyChunk_of_spent {d : Decoder} {i : Input} (h : Spent d i) :
    (∀ bs, (d.bodyChunk i).1 ≠ .done (some bs)) ∧
      Spent (d.bodyChunk i).2.1 (d.bodyChunk i).2.2 := by
  have hbody : d.place = .body → indexOf? d.delimiter (d.whole i).buffer = none ∧
      (d.whole i).buffer.length ≤ d.delimiter.length - 1 ∧ i.IsOver := by
    intro hplace
    rcases h with ⟨hother, _⟩ | ⟨hother, _, _⟩ | ⟨_, hnone, hshort, hi⟩
    · cases hother.symm.trans hplace
    · cases hother.symm.trans hplace
    · rw [whole_of_isOver d hi]
      exact ⟨hnone, hshort, hi⟩
  have hlook := bodyChunk_looks d i
  generalize d.bodyChunk i = r at hlook
  cases hlook with
  | outside _ => exact ⟨by rintro bs ⟨⟩, h⟩
  | chunk hplace _ hpos hkeep _ _ =>
      have hshort := (hbody hplace).2.1
      omega
  | delimiter hplace _ hfound _ _ =>
      have hnone := (hbody hplace).1
      rw [hfound] at hnone
      cases hnone
  | @broken pulls hplace hfound hshort =>
      have hi := (hbody hplace).2.2
      rw [whole_of_isOver d hi] at hfound hshort ⊢
      refine ⟨?_, .line (.inr hplace) hfound hshort (isOver_after pulls hi)⟩
      rw [hi.2]
      rintro bs ⟨⟩

theorem readChunks_of_no_chunk {d : Decoder} {i : Input}
    (h : ∀ bs, (d.bodyChunk i).1 ≠ .done (some bs)) :
    d.readChunks i = ([], (d.bodyChunk i).1.as (), (d.bodyChunk i).2) := by
  unfold Decoder.readChunks
  rw [Decoder.chunksUpTo]
  generalize d.bodyChunk i = r at h
  rcases r with ⟨(_ | bs) | e | _, d', i'⟩
  · rfl
  · exact absurd rfl (h bs)
  · rfl
  · rfl

theorem spent_move {d d' : Decoder} {i i' : Input} {a : Answer} (h : Spent d i)
    (hmove : Move d i a d' i') : a.IsEmpty ∧ Spent d' i' := by
  cases hmove with
  | still ha _ => exact ⟨ha, h⟩
  | next hnext =>
      rcases nextPart_of_spent h with ⟨e, d₁, i₁, hfailed, hspent⟩
      rw [hnext] at hfailed
      cases hfailed
      exact ⟨trivial, hspent⟩
  | @chunk a _ _ hchunk =>
      have hnone := bodyChunk_of_spent h
      rw [hchunk] at hnone
      refine ⟨?_, hnone.2⟩
      rcases a with (_ | bs) | e | _
      · exact trivial
      · exact absurd rfl (hnone.1 bs)
      · exact trivial
      · exact trivial
  | @all _ chunks u _ _ hread ha =>
      have hnone := bodyChunk_of_spent h
      rw [readChunks_of_no_chunk hnone.1, Prod.mk.injEq, Prod.mk.injEq] at hread
      rcases hread with ⟨rfl, rfl, hrest⟩
      rw [hrest] at hnone
      refine ⟨?_, hnone.2⟩
      rcases ha with ⟨rfl, _⟩ | rfl
      · exact rfl
      · cases (d.bodyChunk i).1 <;> exact trivial

theorem spent_run (calls : List Call) : ∀ r : Reader, Spent r.decoder r.input →
    ∀ a ∈ (r.run calls).1, a.IsEmpty := by
  induction calls with
  | nil => exact fun r _ a ha => absurd ha List.not_mem_nil
  | cons c rest ih =>
      intro r h a ha
      rcases spent_move h (call_moves r c) with ⟨hempty, hspent⟩
      rcases List.mem_cons.1 ha with rfl | ha
      · exact hempty
      · exact ih (r.call c).2 hspent a ha

/-! ### What a failure leaves -/

/-- The decoder goes on behind a boundary line that is none, where it was before. -/
structure PassesLine (d : Decoder) (i : Input) (e : NetError) (d' : Decoder) (i' : Input) :
    Prop where
  error : e = .decode "malformed boundary line"
  place : d'.place = d.place
  ending : i'.ending = i.ending
  rest : ∃ n, indexOf? d.delimiter (d.whole i).buffer = some n ∧
    (d'.whole i').buffer =
      ((d.whole i).buffer.drop (n + d.delimiter.length)).dropWhile isPaddingByte

/-- The decoder goes on behind a header block that cannot be read, as if the headers of a
    part began there. -/
structure PassesBlock (d : Decoder) (i : Input) (e : NetError) (d' : Decoder) (i' : Input) :
    Prop where
  place : d'.place = .headers
  ending : i'.ending = i.ending
  rest : ∃ region n, NextRegion d i region ∧ ¬ lineEnd <+: region ∧
    indexOf? (lineEnd ++ lineEnd) region = some n ∧
    parseHeaders (region.take n) = .error e ∧ (d'.whole i').buffer = region.drop (n + 4)

/-- Headers were too large or the input broke off, and nothing can come any more. -/
structure EndsReading (i : Input) (e : NetError) (d' : Decoder) (i' : Input) : Prop where
  error : e = tooLarge ∨ (i.ending.outcome : Outcome Unit) = .failed e
  spent : Spent d' i'

/-- What a failure leaves. -/
inductive Failure (d : Decoder) (i : Input) (e : NetError) (d' : Decoder) (i' : Input) : Prop where
  | final (h : EndsReading i e d' i')
  | line (h : PassesLine d i e d' i')
  | block (h : PassesBlock d i e d' i')

theorem after_of_failed {ending : Ending} {e : NetError}
    (h : (ending.outcome : Outcome α) = .failed e) : ending.after = .ended := by
  cases ending <;> first | rfl | cases h

-- The attempt on the whole input failed, or the input broke off.
theorem Settles.failed_cases {ending : Ending} {a : Attempt α × Decoder} {e : NetError}
    {d : Decoder} {i : Input} (h : Settles ending a (.failed e, d, i)) :
    a = (.failed e, d.whole i) ∧ i.ending = ending ∨
      a = (.more, d) ∧ i.IsOver ∧ (ending.outcome : Outcome Unit) = .failed e := by
  generalize hr : ((.failed e, d, i) : Outcome α × Decoder × Input) = r at h
  cases h with
  | done _ _ _ _ => cases hr
  | failed _ _ _ hi =>
      cases hr
      exact .inl ⟨rfl, hi⟩
  | broken _ _ =>
      rw [Prod.mk.injEq, Prod.mk.injEq] at hr
      rcases hr with ⟨he, rfl, rfl⟩
      refine .inr ⟨rfl, ⟨rfl, after_of_failed he.symm⟩, ?_⟩
      cases ending <;> cases he <;> rfl

theorem suffixAttempt_failed {w w' : Decoder} {e : NetError}
    (h : w.suffixAttempt = (.failed e, w')) :
    e = .decode "malformed boundary line" ∧
      w' = { w with buffer := w.buffer.dropWhile isPaddingByte } := by
  unfold Decoder.suffixAttempt at h
  dsimp only at h
  split_ifs at h <;> cases h
  exact ⟨rfl, rfl⟩

theorem indexOf?_of_short {p s : Bytes} (hp : p ≠ []) (h : s.length < p.length) :
    indexOf? p s = none := by
  cases hf : indexOf? p s with
  | none => rfl
  | some n =>
      have hle := ((indexOf?_eq_some p s n).1 hf).length_le hp
      omega

-- Going behind the next delimiter, as every operation but reading headers does.
theorem failure_of_bodyEnd {d d' : Decoder} {i i' : Input} {e : NetError}
    (hplace : d.place = .preamble ∨ d.place = .body)
    (h : Settles i.ending (bodyEnd (d.whole i)) (.failed e, d', i')) :
    Failure d i e d' i' := by
  have hpos : 2 ≤ d.delimiter.length - 1 := by
    unfold Decoder.delimiter
    rw [List.length_append]
    change 2 ≤ 4 + _ - 1
    omega
  have hcases := h.failed_cases
  unfold bodyEnd at hcases
  cases hfound : indexOf? d.delimiter (d.whole i).buffer with
  | some n =>
      have hfound' : indexOf? (d.whole i).delimiter (d.whole i).buffer = some n := hfound
      rw [hfound'] at hcases
      rcases hcases with ⟨hsuffix, hi⟩ | ⟨hsuffix, hi, he⟩
      · rcases suffixAttempt_failed hsuffix with ⟨herror, hw⟩
        have hplace' := congrArg Decoder.place hw
        exact .line ⟨herror, hplace', hi, n, hfound, congrArg Decoder.buffer hw⟩
      · rcases suffixAttempt_more hsuffix with ⟨hw, hshort⟩
        have hplace' := congrArg Decoder.place hw
        have hplace' : d'.place = d.place := hplace'
        have hdelimiter := congrArg Decoder.delimiter hw
        have hdelimiter : d'.delimiter = d.delimiter := hdelimiter
        refine .final ⟨.inr he, .line (hplace' ▸ hplace) ?_ ?_ hi⟩
        · exact indexOf?_of_short (delimiter_ne_nil d') (by rw [hdelimiter]; omega)
        · rw [hdelimiter]
          omega
  | none =>
      have hfound' : indexOf? (d.whole i).delimiter (d.whole i).buffer = none := hfound
      have hlength : bodyLength (d.whole i) =
          (d.whole i).buffer.length - (d.delimiter.length - 1) := by
        unfold bodyLength
        rw [hfound']
        rfl
      rw [hfound', hlength] at hcases
      rcases hcases with ⟨hsuffix, _⟩ | ⟨hsuffix, hi, he⟩
      · cases hsuffix
      · cases hsuffix
        refine .final ⟨.inr he, .line hplace ?_ ?_ hi⟩
        · rw [indexOf?_eq_none] at hfound ⊢
          intro m
          change ¬ d.delimiter <+: ((d.whole i).buffer.drop _).drop m
          rw [List.drop_drop]
          exact hfound _
        · change ((d.whole i).buffer.drop _).length ≤ d.delimiter.length - 1
          rw [List.length_drop]
          omega

/-! ### Headers -/

-- An attempt that keeps the buffer when it asks for more fails, or breaks off, on all that
-- has come.
theorem runOn_kept {attempt : Decoder → Attempt α × Decoder}
    (hkeep : ∀ d d', attempt d = (.more, d') → d' = d) (ending : Ending) (chunks : List Bytes) :
    ∀ (d : Decoder) (pulls : Nat) (e : NetError) (d' : Decoder) (i' : Input),
      Decoder.runOn attempt ending d pulls chunks = (.failed e, d', i') →
      (∃ d₀, d₀.whole i' = d.feed chunks.flatten ∧ attempt d₀ = (.failed e, d') ∧
        i'.ending = ending) ∨
      (attempt d' = (.more, d') ∧ d' = d.feed chunks.flatten ∧ i'.IsOver ∧
        (ending.outcome : Outcome Unit) = .failed e) := by
  induction chunks with
  | nil =>
      intro d pulls e d' i' h
      rw [Decoder.runOn] at h
      rcases hd : attempt d with ⟨a | e | _, d₁⟩ <;> rw [hd] at h
      · cases h
      · cases h
        exact .inl ⟨d, rfl, hd, rfl⟩
      · have hsame := hkeep d d₁ hd
        subst hsame
        rw [Prod.mk.injEq, Prod.mk.injEq] at h
        rcases h with ⟨he, rfl, rfl⟩
        refine .inr ⟨hd, d₁.feed_nil.symm, ⟨rfl, after_of_failed he⟩, ?_⟩
        cases ending <;> cases he <;> rfl
  | cons chunk rest ih =>
      intro d pulls e d' i' h
      rw [Decoder.runOn] at h
      rcases hd : attempt d with ⟨a | e | _, d₁⟩ <;> rw [hd] at h
      · cases h
      · cases h
        exact .inl ⟨d, rfl, hd, rfl⟩
      · have hsame := hkeep d d₁ hd
        subst hsame
        rw [List.flatten_cons, ← Decoder.feed_feed]
        exact ih (d₁.feed chunk) (pulls + 1) e d' i' h

theorem headersAttempt_failed {d d' : Decoder} {e : NetError}
    (h : d.headersAttempt = (.failed e, d')) :
    e = tooLarge ∧ d' = d ∨ ∃ n, ¬ lineEnd <+: d.buffer ∧ n + 4 ≤ d.buffer.length ∧
      indexOf? (lineEnd ++ lineEnd) d.buffer = some n ∧
      parseHeaders (d.buffer.take n) = .error e ∧ d' = d.advance (n + 4) := by
  by_cases hp : lineEnd <+: d.buffer
  · rw [headersAttempt_empty d hp] at h
    cases h
  · cases hf : indexOf? (lineEnd ++ lineEnd) d.buffer with
    | some n =>
        rw [headersAttempt_some d n hp hf] at h
        have hfit : n + 4 ≤ d.buffer.length :=
          ((indexOf?_eq_some _ _ _).1 hf).length_le (by rintro ⟨⟩)
        cases hparse : parseHeaders (d.buffer.take n) with
        | ok hs =>
            rw [hparse] at h
            cases h
        | error e =>
            rw [hparse] at h
            cases h
            exact .inr ⟨n, hp, hfit, rfl, hparse, rfl⟩
    | none =>
        rw [headersAttempt_none d hp hf] at h
        split_ifs at h <;> cases h
        exact .inl ⟨rfl, rfl⟩

-- Reading headers that begin here.
theorem readHeaders_failed {d d' : Decoder} {i i' : Input} {e : NetError}
    (hplace : d.place = .headers) (h : d.readHeaders i = (.failed e, d', i')) :
    EndsReading i e d' i' ∨ PassesBlock d i e d' i' := by
  have hrun : d.run Decoder.headersAttempt i = (.failed e, d', i') := by
    unfold Decoder.readHeaders at h
    rcases hr : d.run Decoder.headersAttempt i with ⟨a | e | _, d₁, i₁⟩ <;> rw [hr] at h <;>
      cases h
    rfl
  have hkeep : ∀ d d' : Decoder, d.headersAttempt = (.more, d') → d' = d :=
    fun _ _ hmore => (headersAttempt_more hmore).1
  rcases runOn_kept hkeep i.ending i.chunks d i.pulls e d' i' hrun with
    ⟨d₀, hw, hattempt, hi⟩ | ⟨hmore, hw, hi, he⟩
  · have hplace₀ := congrArg Decoder.place hw
    have hplace₀ : d₀.place = .headers := hplace₀.trans hplace
    rcases headersAttempt_failed hattempt with ⟨rfl, rfl⟩ | ⟨n, hp, hfit, hf, hparse, rfl⟩
    · exact .inl ⟨.inl rfl, .overlong hplace₀ hattempt⟩
    · have hbuffer := congrArg Decoder.buffer hw
      have hbuffer : d₀.buffer ++ i'.chunks.flatten = (d.whole i).buffer := hbuffer
      refine .inr ⟨hplace₀, hi, (d.whole i).buffer, n, .inl ⟨hplace, rfl⟩, ?_, ?_, ?_, ?_⟩
      · rw [← hbuffer, lineEnd_prefix_append _ _ (by omega)]
        exact hp
      · rw [← hbuffer]
        exact indexOf?_append _ _ _ n (by rintro ⟨⟩) hf
      · rw [← hbuffer, List.take_append_of_le_length (by omega)]
        exact hparse
      · unfold Decoder.whole
        rw [d₀.feed_advance _ _ hfit]
        exact congrArg (List.drop (n + 4)) hbuffer
  · have hplace' := congrArg Decoder.place hw
    exact .inl ⟨.inr he, .headers (hplace'.trans hplace) hmore hi⟩

/-! ### Calls that fail -/

theorem nextPart_failed {d d' : Decoder} {i i' : Input} {e : NetError}
    (h : d.nextPart i = (.failed e, d', i')) : Failure d i e d' i' := by
  have hlook := nextPart_looks d i
  rw [h] at hlook
  generalize hr : ((.failed e, d', i') : Outcome (Option Headers) × Decoder × Input) = r at hlook
  cases hlook with
  | ended _ => cases hr
  | here hplace =>
      rcases readHeaders_failed hplace hr.symm with hends | hblock
      · exact .final hends
      · exact .block hblock
  | @opened d₁ i₁ hplace hskip hopen =>
      have hset := skipToDelimiter_settles d i
      rw [hskip] at hset
      have hending := hset.done_eq.2
      rcases readHeaders_failed hopen hr.symm with hends | hblock
      · exact .final ⟨by rw [← hending]; exact hends.error, hends.spent⟩
      · -- The region at which that decoder stands is the next one of this.
        rcases hblock with ⟨hplace', hi', region, n, hregion, hrest⟩
        have hsame : (d₁.whole i₁).buffer = region := by
          rcases hregion with ⟨_, hregion⟩ | ⟨hother | hother, _⟩
          · exact hregion
          · cases hother.symm.trans hopen
          · cases hother.symm.trans hopen
        have hnext := nextRegion_of_skip hplace hskip hopen
        rw [hsame] at hnext
        exact .block ⟨hplace', hi'.trans hending, region, n, hnext, hrest⟩
  | @closed u _ _ hplace hskip _ =>
      cases u <;> cases hr
      have hset := skipToDelimiter_settles d i
      rw [hskip, boundaryLine_eq_bodyEnd] at hset
      exact failure_of_bodyEnd hplace hset

theorem readChunks_failed {d d' : Decoder} {i i' : Input} {bs : List Bytes} {e : NetError}
    (h : d.readChunks i = (bs, .failed e, d', i')) : Failure d i e d' i' := by
  by_cases hplace : d.place = .body
  · have hset := (readChunks_settles d i hplace).2
    rw [h] at hset
    exact failure_of_bodyEnd (.inr hplace) hset
  · have houtside : d.bodyChunk i = (.done none, d, i) := by
      unfold Decoder.bodyChunk
      rw [run_bodyAttempt_nothing hplace]
    rw [readChunks_of_no_chunk (by rw [houtside]; rintro bs ⟨⟩), houtside] at h
    cases h

theorem bodyChunk_failed {d d' : Decoder} {i i' : Input} {e : NetError}
    (h : d.bodyChunk i = (.failed e, d', i')) : Failure d i e d' i' := by
  have hread : d.readChunks i = ([], .failed e, d', i') := by
    rw [readChunks_of_no_chunk (by rw [h]; rintro bs ⟨⟩), h]
    rfl
  exact readChunks_failed hread

theorem move_failed {d d' : Decoder} {i i' : Input} {e : NetError}
    (h : Move d i (.failed e) d' i') : Failure d i e d' i' := by
  generalize ha : Answer.failed e = a at h
  cases h with
  | still _ hne => exact absurd ha.symm (hne e)
  | @next a _ _ hnext =>
      rcases a with (_ | headers) | e | _ <;> cases ha
      exact nextPart_failed hnext
  | @chunk a _ _ hchunk =>
      rcases a with (_ | bs) | e | _ <;> cases ha
      exact bodyChunk_failed hchunk
  | @all _ chunks u _ _ hread hsay =>
      rcases hsay with ⟨hsay, _⟩ | hsay
      · cases ha.trans hsay
      · rw [hsay] at ha
        cases u <;> cases ha
        exact readChunks_failed hread

-- What was read or called before does not matter, nor what part is held.
theorem failure_final_or_passed (r : Reader) (c : Call) (e : NetError)
    (h : (r.call c).1 = .failed e) :
    let r' := (r.call c).2
    ((e = tooLarge ∨ (r.input.ending.outcome : Outcome Unit) = .failed e) ∧
        ∀ later, ∀ a ∈ (r'.run later).1, a.IsEmpty) ∨
      PassesLine r.decoder r.input e r'.decoder r'.input ∨
      PassesBlock r.decoder r.input e r'.decoder r'.input := by
  have hmove := call_moves r c
  rw [h] at hmove
  cases move_failed hmove with
  | final hends => exact .inl ⟨hends.error, fun later => spent_run later _ hends.spent⟩
  | line hline => exact .inr (.inl hline)
  | block hblock => exact .inr (.inr hblock)

theorem truncated_body_final :
    let r := ((Reader.start "b" ⟨[Bytes.ofText "--b\r\n\r\none\r\n--b"], .ended, 0⟩).run
      [.nextPart, .chunk]).2
    (r.call .chunk).1 = .failed (.decode "multipart body truncated") ∧
      ∀ later, ∀ a ∈ ((r.call .chunk).2.run later).1, a.IsEmpty := by
  intro r
  have hfailed : (r.call .chunk).1 = .failed (.decode "multipart body truncated") := by
    decide +kernel
  refine ⟨hfailed, ?_⟩
  rcases failure_final_or_passed r .chunk _ hfailed with ⟨_, hlater⟩ | hline | hblock
  · exact hlater
  · exact absurd hline.error (by decide)
  · have hplace : (r.call .chunk).2.decoder.place = .body := by decide +kernel
    cases hblock.place.symm.trans hplace

-- A header block is followed by bytes of a body that are read as headers, and a boundary
-- line by bytes that are handed out as a body.
theorem failures_passed :
    ((Reader.start "b" ⟨[Bytes.ofText
        "--b\r\nbroken\r\n\r\nX-A: 1\r\n\r\nhello\r\n--b--"], .ended, 0⟩).run
      [.nextPart, .nextPart, .bytes]).1 =
        [.failed (.decode "malformed part header: broken"), .part [("x-a", Bytes.ofText "1")],
          .bytes (Bytes.ofText "hello")] ∧
    ((Reader.start "b" ⟨[Bytes.ofText "--b\r\n\r\none\r\n--bX two\r\n--b--"], .ended, 0⟩).run
      [.nextPart, .chunk, .chunk, .chunk]).1 =
        [.part [], .chunk (Bytes.ofText "one"), .failed (.decode "malformed boundary line"),
          .chunk (Bytes.ofText "X two")] := by
  constructor <;> decide +kernel

end Multipart

end Http

end DemandNet
