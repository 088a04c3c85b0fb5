import DemandNet.Proofs.Http.Multipart.Transcript

/-!
# Headers That Overflow

When a run that reads part headers finds them too large.

The decoder looks at the limit only while the empty line behind the headers has not come.
So it is not the length of a header block that decides but what had come when: headers are
refused if at some moment more of them had come than the limit and their end had not.
`Overflows` says this of the bytes and the chunks alone. A block that comes with its end
in one chunk is accepted whatever its length.

`EndsInTime` is what makes headers safe however they are cut into chunks. Here the chunks
are given, and the run is refused or comes to what the whole input gives, as it does for
every other operation.

## Main definitions

* `arrived`: How much of a text has come while some chunks are still to come.
* `Overflows`: More headers than the limit come before their end does.

## Theorems

* `overflows_congr`: Chunks that came before the headers did do not matter.
* `headersAttempt_cases`: What has come settles headers, or is too much, or too little.
* `runOn_headersAttempt`: A run is refused if its headers overflow, and else settled.
-/

namespace DemandNet

namespace Http

namespace Multipart

/-- How many bytes of a text have come while these chunks are still to come, the text being
    what the input ends in. -/
def arrived (text : Bytes) (rest : List Bytes) : Nat := text.length - rest.flatten.length

/-- At some moment more of the headers at the beginning of this region have come than the
    limit, and the empty line behind them has not. -/
def Overflows (chunks : List Bytes) (region : Bytes) : Prop :=
  ¬ lineEnd <+: region ∧ ∃ rest, rest <:+ chunks ∧ maxHeaderBytes < arrived region rest ∧
    ∀ n, indexOf? (lineEnd ++ lineEnd) region = some n → arrived region rest < n + 4

/-- The failure that a reader is told of when headers are too large. -/
def tooLarge : NetError := .decode "part headers too large"

/-! ### Overflow -/

theorem flatten_length_of_suffix {rest chunks : List Bytes} (h : rest <:+ chunks) :
    rest.flatten.length ≤ chunks.flatten.length := by
  rcases h with ⟨front, rfl⟩
  rw [List.flatten_append, List.length_append]
  exact Nat.le_add_left _ _

theorem Overflows.length_lt {chunks : List Bytes} {region : Bytes}
    (h : Overflows chunks region) : maxHeaderBytes < region.length := by
  rcases h.2 with ⟨rest, _, hlong, _⟩
  exact Nat.lt_of_lt_of_le hlong (Nat.sub_le _ _)

-- While a chunk is still to come that came before the region did, nothing of it has come.
theorem overflows_congr {chunks rest : List Bytes} {region : Bytes} (hrest : rest <:+ chunks)
    (hfresh : ∀ l, l <:+ chunks → rest.length < l.length → region.length ≤ l.flatten.length) :
    Overflows rest region ↔ Overflows chunks region := by
  refine and_congr_right fun _ => ⟨?_, ?_⟩
  · rintro ⟨l, hl, hlong, hearly⟩
    exact ⟨l, hl.trans hrest, hlong, hearly⟩
  · rintro ⟨l, hl, hlong, hearly⟩
    refine ⟨l, ?_, hlong, hearly⟩
    by_cases hlength : l.length ≤ rest.length
    · exact List.suffix_of_suffix_length_le hl hrest hlength
    · have hnone := hfresh l hl (by omega)
      unfold arrived at hlong
      omega

/-! ### The headers that are read next -/

variable {d : Decoder}

theorem arrived_feed (chunks : List Bytes) :
    arrived (d.feed chunks.flatten).buffer chunks = d.buffer.length := by
  unfold arrived Decoder.feed
  rw [List.length_append, Nat.add_sub_cancel]

theorem le_arrived_feed {rest chunks : List Bytes} (h : rest <:+ chunks) :
    d.buffer.length ≤ arrived (d.feed chunks.flatten).buffer rest := by
  have hle := flatten_length_of_suffix h
  unfold arrived Decoder.feed
  rw [List.length_append]
  omega

-- Headers whose end is in the buffer do not overflow any more.
theorem not_overflows_of_found {chunks : List Bytes} {n : Nat}
    (hf : indexOf? (lineEnd ++ lineEnd) d.buffer = some n) :
    ¬ Overflows chunks (d.feed chunks.flatten).buffer := by
  rintro ⟨_, rest, hrest, _, hearly⟩
  have hle : n + 4 ≤ d.buffer.length := ((indexOf?_eq_some _ _ _).1 hf).length_le (by rintro ⟨⟩)
  have hcome := hearly n (indexOf?_append _ _ _ n (by rintro ⟨⟩) hf)
  have hbuffer := le_arrived_feed (d := d) hrest
  omega

theorem not_prefix_feed {x : Bytes} (hp : ¬ lineEnd <+: d.buffer)
    (hlong : maxHeaderBytes < d.buffer.length) : ¬ lineEnd <+: (d.feed x).buffer := by
  unfold maxHeaderBytes at hlong
  exact fun h => hp ((lineEnd_prefix_append d.buffer x (by omega)).1 h)

-- A buffer that is over the limit without an end overflows whatever is still to come.
theorem overflows_of_long {chunks : List Bytes} (hp : ¬ lineEnd <+: d.buffer)
    (hf : indexOf? (lineEnd ++ lineEnd) d.buffer = none)
    (hlong : maxHeaderBytes < d.buffer.length) :
    Overflows chunks (d.feed chunks.flatten).buffer := by
  refine ⟨not_prefix_feed hp hlong, chunks, List.suffix_refl _, by rwa [arrived_feed], ?_⟩
  intro n hn
  rw [arrived_feed]
  by_contra hlate
  have hfit : n + (lineEnd ++ lineEnd).length ≤ d.buffer.length := Nat.not_lt.1 hlate
  have hin := prefix_drop_of_append _ d.buffer _ n hfit ((indexOf?_eq_some _ _ _).1 hn).1
  exact (indexOf?_eq_none _ _).1 hf n hin

-- A buffer within the limit is not where headers overflow.
theorem overflows_cons_iff {chunk : Bytes} {rest : List Bytes}
    (hshort : d.buffer.length ≤ maxHeaderBytes) :
    Overflows (chunk :: rest) (d.feed (chunk :: rest).flatten).buffer ↔
      Overflows rest ((d.feed chunk).feed rest.flatten).buffer := by
  rw [Decoder.feed_feed, ← List.flatten_cons]
  refine and_congr_right fun _ => ⟨?_, ?_⟩
  · rintro ⟨l, hl, hlong, hearly⟩
    rcases List.suffix_cons_iff.1 hl with rfl | hl
    · rw [arrived_feed] at hlong
      omega
    · exact ⟨l, hl, hlong, hearly⟩
  · rintro ⟨l, hl, hlong, hearly⟩
    exact ⟨l, hl.trans (List.suffix_cons chunk rest), hlong, hearly⟩

-- An attempt that later input does not change settles the run.
theorem settles_of_settled {attempt : Decoder → Attempt α × Decoder} {d' : Decoder}
    {a : Attempt α} (ending : Ending) (chunks : List Bytes) (pulls : Nat) (ha : a ≠ .more)
    (h : attempt d = (a, d'))
    (hfeed : attempt (d.feed chunks.flatten) = (a, d'.feed chunks.flatten)) :
    Settles ending (attempt (d.feed chunks.flatten))
      (Decoder.runOn attempt ending d pulls chunks) := by
  rw [hfeed]
  cases a with
  | more => exact absurd rfl ha
  | done a => cases chunks <;> rw [Decoder.runOn, h] <;> exact .done a d' ⟨_, ending, pulls⟩ rfl
  | failed e =>
      cases chunks <;> rw [Decoder.runOn, h] <;> exact .failed e d' ⟨_, ending, pulls⟩ rfl

-- What has come of the headers settles them, or is too much, or is not enough.
theorem headersAttempt_cases (d : Decoder) :
    (∃ a d', a ≠ .more ∧ d.headersAttempt = (a, d') ∧
      (∀ x, (d.feed x).headersAttempt = (a, d'.feed x)) ∧
      ∀ chunks : List Bytes, ¬ Overflows chunks (d.feed chunks.flatten).buffer) ∨
    (d.headersAttempt = (.failed tooLarge, d) ∧
      ∀ chunks : List Bytes, Overflows chunks (d.feed chunks.flatten).buffer) ∨
    (d.headersAttempt = (.more, d) ∧ d.buffer.length ≤ maxHeaderBytes) := by
  by_cases hp : lineEnd <+: d.buffer
  · have hfeed : ∀ x, lineEnd <+: (d.feed x).buffer :=
      fun x => hp.trans (List.prefix_append d.buffer x)
    refine .inl ⟨.done [], d.advance 2, by rintro ⟨⟩, headersAttempt_empty d hp, fun x => ?_,
      fun chunks h => h.1 (hfeed _)⟩
    rw [headersAttempt_empty _ (hfeed x), d.feed_advance x 2 hp.length_le]
  · cases hf : indexOf? (lineEnd ++ lineEnd) d.buffer with
    | some n =>
        refine .inl ⟨_, _, ?_, headersAttempt_some d n hp hf, fun x => ?_,
          fun chunks => not_overflows_of_found hf⟩
        · cases parseHeaders (d.buffer.take n) <;> rintro ⟨⟩
        · rw [headersAttempt_feed d x n hp hf, headersAttempt_some d n hp hf]
    | none =>
        have hnone := headersAttempt_none d hp hf
        by_cases hlong : maxHeaderBytes < d.buffer.length
        · rw [if_pos hlong] at hnone
          exact .inr (.inl ⟨hnone, fun chunks => overflows_of_long hp hf hlong⟩)
        · rw [if_neg hlong] at hnone
          exact .inr (.inr ⟨hnone, Nat.not_lt.1 hlong⟩)

theorem runOn_headersAttempt (ending : Ending) (chunks : List Bytes) :
    ∀ (d : Decoder) (pulls : Nat),
      (Overflows chunks (d.feed chunks.flatten).buffer →
        (Decoder.runOn Decoder.headersAttempt ending d pulls chunks).1 = .failed tooLarge) ∧
      (¬ Overflows chunks (d.feed chunks.flatten).buffer →
        Settles ending (d.feed chunks.flatten).headersAttempt
          (Decoder.runOn Decoder.headersAttempt ending d pulls chunks)) := by
  induction chunks with
  | nil =>
      intro d pulls
      rcases headersAttempt_cases d with ⟨a, d', ha, h, hfeed, hnot⟩ | ⟨h, hover⟩ | ⟨h, hshort⟩
      · exact ⟨fun hover => absurd hover (hnot []),
          fun _ => settles_of_settled ending [] pulls ha h (hfeed _)⟩
      · refine ⟨fun _ => by rw [Decoder.runOn, h], fun hnot => absurd (hover []) hnot⟩
      · have hnot : ¬ Overflows [] (d.feed [].flatten).buffer := by
          rw [List.flatten_nil, Decoder.feed_nil]
          exact fun hover => absurd hover.length_lt (Nat.not_lt.2 hshort)
        refine ⟨fun hover => absurd hover hnot, fun _ => ?_⟩
        rw [List.flatten_nil, Decoder.feed_nil, Decoder.runOn, h]
        exact .broken d (pulls + 1)
  | cons chunk rest ih =>
      intro d pulls
      rcases headersAttempt_cases d with ⟨a, d', ha, h, hfeed, hnot⟩ | ⟨h, hover⟩ | ⟨h, hshort⟩
      · exact ⟨fun hover => absurd hover (hnot _),
          fun _ => settles_of_settled ending _ pulls ha h (hfeed _)⟩
      · refine ⟨fun _ => by rw [Decoder.runOn, h], fun hnot => absurd (hover _) hnot⟩
      · rw [overflows_cons_iff hshort, Decoder.runOn, h, List.flatten_cons, ← Decoder.feed_feed]
        exact ih (d.feed chunk) (pulls + 1)

theorem readHeaders_of_overflows (d : Decoder) (i : Input)
    (h : Overflows i.chunks (d.whole i).buffer) : (d.readHeaders i).1 = .failed tooLarge := by
  have hrun := (runOn_headersAttempt i.ending i.chunks d i.pulls).1 h
  unfold Decoder.readHeaders Decoder.run
  rcases hr : Decoder.runOn Decoder.headersAttempt i.ending d i.pulls i.chunks with ⟨a, d', i'⟩
  rw [hr] at hrun
  dsimp only at hrun
  rw [hrun]

theorem readHeaders_of_not_overflows (d : Decoder) (i : Input)
    (h : ¬ Overflows i.chunks (d.whole i).buffer) :
    Settles i.ending (partHead (d.whole i)) (d.readHeaders i) :=
  readHeaders_of_settles d i ((runOn_headersAttempt i.ending i.chunks d i.pulls).2 h)

end Multipart

end Http

end DemandNet
