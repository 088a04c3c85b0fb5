import DemandNet.Proofs.Http.Multipart.Search

/-!
# Attempts on the Whole Input

An operation of the decoder does not depend on how the input was cut into chunks.

An attempt sees only what has arrived. It is *steady* if later input can change neither
a result that it gave nor, by what it dropped from the buffer when it asked for more,
the result that it will give. The run of a steady attempt then comes to what the same
attempt makes of a buffer that holds all the input from the start, and what it leaves
in the buffer and among the chunks is, put together, what that one attempt leaves.

Looking for a delimiter and reading what follows it are steady. The headers of a part
are read steadily only when their end comes early enough: the limit on their size is
checked against the bytes that happen to have arrived.

## Main definitions

* `Decoder.whole`: A decoder that has all its input in the buffer.
* `Decoder.advance`: A decoder that used some bytes of its buffer.
* `Steady`: What later input cannot change.
* `Settles`: A run came to what the attempt on the whole input gave.
* `ShortHeaders`: The end of the headers comes early enough.

## Theorems

* `Steady.settles`: The run of a steady attempt depends on the whole input only.
* `Steady.run_done`: The case in which the attempt comes to a result.
* `steady_skip`, `steady_suffix`, `steady_headers`: The attempts that are steady.
-/

namespace DemandNet

namespace Http

namespace Multipart

open Decoder (isPaddingByte)

/-- A decoder that has all its input in the buffer. -/
def Decoder.whole (d : Decoder) (i : Input) : Decoder := d.feed i.chunks.flatten

/-- A decoder that used the first bytes of its buffer. -/
def Decoder.advance (d : Decoder) (n : Nat) : Decoder :=
  { d with buffer := d.buffer.drop n }

/-- Later input changes neither a result of the attempt nor what it comes to after it
    asked for more, as long as the whole input has the property. -/
structure Steady (attempt : Decoder → Attempt α × Decoder) (Fits : Decoder → Prop) :
    Prop where
  settled : ∀ (d d' : Decoder) (r : Attempt α) (x : Bytes), Fits (d.feed x) →
    r ≠ .more → attempt d = (r, d') → attempt (d.feed x) = (r, d'.feed x)
  more : ∀ (d d' : Decoder) (x : Bytes), Fits (d.feed x) → attempt d = (.more, d') →
    Fits (d'.feed x) ∧ attempt (d'.feed x) = attempt (d.feed x)

/-- What a run came to, given what the attempt on the whole input gave: the same result
    and, taken together, the same rest, or what an input that is too short comes to. -/
inductive Settles (ending : Ending) :
    Attempt α × Decoder → Outcome α × Decoder × Input → Prop where
  | done (a : α) (d : Decoder) (i : Input) (h : i.ending = ending) :
      Settles ending (.done a, d.whole i) (.done a, d, i)
  | failed (e : NetError) (d : Decoder) (i : Input) (h : i.ending = ending) :
      Settles ending (.failed e, d.whole i) (.failed e, d, i)
  | broken (d : Decoder) (pulls : Nat) :
      Settles ending (.more, d) (ending.outcome, d, ⟨[], ending.after, pulls⟩)

/-! ### Runs -/

theorem Decoder.feed_nil (d : Decoder) : d.feed [] = d := by
  unfold Decoder.feed
  rw [List.append_nil]

theorem Decoder.feed_feed (d : Decoder) (x y : Bytes) :
    (d.feed x).feed y = d.feed (x ++ y) := by
  unfold Decoder.feed
  rw [List.append_assoc]

theorem Decoder.feed_advance (d : Decoder) (x : Bytes) (n : Nat) (h : n ≤ d.buffer.length) :
    (d.advance n).feed x = (d.feed x).advance n := by
  unfold Decoder.feed Decoder.advance
  dsimp only
  rw [List.drop_append_of_le_length h]

theorem Decoder.advance_advance (d : Decoder) (m n : Nat) :
    (d.advance m).advance n = d.advance (m + n) := by
  unfold Decoder.advance
  rw [List.drop_drop]

namespace Steady

variable {attempt : Decoder → Attempt α × Decoder} {Fits : Decoder → Prop}

theorem settles_runOn (hs : Steady attempt Fits) (ending : Ending) (chunks : List Bytes) :
    ∀ (d : Decoder) (pulls : Nat), Fits (d.feed chunks.flatten) →
      Settles ending (attempt (d.feed chunks.flatten))
        (Decoder.runOn attempt ending d pulls chunks) := by
  induction chunks with
  | nil =>
      intro d pulls _
      have hwhole : ∀ (d : Decoder) (pulls : Nat), d.whole ⟨[], ending, pulls⟩ = d :=
        fun d _ => d.feed_nil
      rw [List.flatten_nil, Decoder.feed_nil, Decoder.runOn]
      rcases attempt d with ⟨a | e | _, d'⟩
      · simpa only [hwhole] using Settles.done a d' ⟨[], ending, pulls⟩ rfl
      · simpa only [hwhole] using Settles.failed e d' ⟨[], ending, pulls⟩ rfl
      · exact .broken d' (pulls + 1)
  | cons chunk rest ih =>
      intro d pulls hfits
      rw [Decoder.runOn]
      rcases h : attempt d with ⟨a | e | _, d'⟩
      · rw [hs.settled d d' (.done a) _ hfits (by rintro ⟨⟩) h]
        exact .done a d' ⟨chunk :: rest, ending, pulls⟩ rfl
      · rw [hs.settled d d' (.failed e) _ hfits (by rintro ⟨⟩) h]
        exact .failed e d' ⟨chunk :: rest, ending, pulls⟩ rfl
      · -- What the attempt kept, with the rest of the input, gives the same result.
        have hmore := hs.more d d' _ hfits h
        rw [List.flatten_cons, ← Decoder.feed_feed] at hmore
        have hrest := ih (d'.feed chunk) (pulls + 1) hmore.1
        rwa [hmore.2, ← List.flatten_cons] at hrest

theorem settles (hs : Steady attempt Fits) (d : Decoder) (i : Input)
    (hfits : Fits (d.whole i)) :
    Settles i.ending (attempt (d.whole i)) (d.run attempt i) :=
  hs.settles_runOn i.ending i.chunks d i.pulls hfits

theorem run_done (hs : Steady attempt Fits) (d w : Decoder) (i : Input) (a : α)
    (hfits : Fits (d.whole i)) (h : attempt (d.whole i) = (.done a, w)) :
    ∃ d' i', d.run attempt i = (.done a, d', i') ∧ d'.whole i' = w := by
  have hset := hs.settles d i hfits
  rw [h] at hset
  generalize hr : d.run attempt i = r at hset
  cases hset with
  | done a d' i' _ => exact ⟨d', i', rfl, rfl⟩

end Steady

/-! ### Looking for a delimiter -/

theorem delimiter_ne_nil (d : Decoder) : d.delimiter ≠ [] := by
  rintro ⟨⟩

theorem skipAttempt_some (d : Decoder) (n : Nat)
    (h : indexOf? d.delimiter d.buffer = some n) :
    d.skipAttempt = (.done (), d.advance (n + d.delimiter.length)) := by
  unfold Decoder.skipAttempt
  rw [h]
  rfl

theorem skipAttempt_none (d : Decoder) (h : indexOf? d.delimiter d.buffer = none) :
    d.skipAttempt = (.more, d.advance (d.buffer.length - (d.delimiter.length - 1))) := by
  unfold Decoder.skipAttempt
  rw [h]
  rfl

theorem steady_skip : Steady Decoder.skipAttempt (fun _ => True) where
  settled := by
    intro d d' r x _ hr h
    cases hf : indexOf? d.delimiter d.buffer with
    | none =>
        rw [skipAttempt_none d hf] at h
        cases h
        exact absurd rfl hr
    | some n =>
        rw [skipAttempt_some d n hf] at h
        cases h
        have hle := ((indexOf?_eq_some _ _ _).1 hf).length_le (delimiter_ne_nil d)
        rw [d.feed_advance x _ hle]
        exact skipAttempt_some (d.feed x) n (indexOf?_append _ _ x n (delimiter_ne_nil d) hf)
  more := by
    intro d d' x _ h
    refine ⟨trivial, ?_⟩
    cases hf : indexOf? d.delimiter d.buffer with
    | some n =>
        rw [skipAttempt_some d n hf] at h
        cases h
    | none =>
        rw [skipAttempt_none d hf] at h
        cases h
        -- The first delimiter of the kept bytes is that of all of them, `k` bytes on.
        generalize hk : d.buffer.length - (d.delimiter.length - 1) = k
        have hforget := indexOf?_forget d.delimiter d.buffer x k hf (by omega)
        rw [d.feed_advance x k (by omega)]
        cases hx : indexOf? d.delimiter ((d.buffer ++ x).drop k) with
        | some n =>
            rw [hx, Option.map_some] at hforget
            rw [skipAttempt_some _ n hx, skipAttempt_some (d.feed x) (k + n) hforget,
              Decoder.advance_advance, Nat.add_assoc]
            rfl
        | none =>
            have hlength : ((d.feed x).advance k).buffer.length =
                (d.feed x).buffer.length - k := List.length_drop
            have hfeed : (d.feed x).buffer.length = d.buffer.length + x.length :=
              List.length_append
            rw [hx, Option.map_none] at hforget
            rw [skipAttempt_none _ hx, skipAttempt_none (d.feed x) hforget,
              Decoder.advance_advance, hlength]
            -- Either way the last bytes are kept, as many as may begin a delimiter.
            congr 2
            change _ + (_ - (d.delimiter.length - 1)) = _ - (d.delimiter.length - 1)
            omega

/-! ### Behind a delimiter -/

theorem suffixAttempt_short (d : Decoder)
    (h : (d.buffer.dropWhile isPaddingByte).length < 2) :
    d.suffixAttempt = (.more, { d with buffer := d.buffer.dropWhile isPaddingByte }) := by
  unfold Decoder.suffixAttempt
  rw [if_pos h]

theorem suffixAttempt_long (d : Decoder) (b c : UInt8) (rest : Bytes)
    (h : d.buffer.dropWhile isPaddingByte = b :: c :: rest) :
    d.suffixAttempt =
      if dashes = [b, c] then (.done (), { d with buffer := rest, place := .epilogue })
      else if lineEnd = [b, c] then (.done (), { d with buffer := rest, place := .headers })
      else (.failed (.decode "malformed boundary line"),
        { d with buffer := b :: c :: rest }) := by
  have htwo : ∀ p : Bytes, p.length = 2 → (p.isPrefixOf (b :: c :: rest) ↔ p = [b, c]) := by
    intro p hp
    rw [List.isPrefixOf_iff_prefix, List.prefix_iff_eq_take, hp]
    rfl
  unfold Decoder.suffixAttempt
  simp only [h, htwo dashes rfl, htwo lineEnd rfl]
  rw [if_neg (by simp only [List.length_cons]; omega)]
  rfl

-- Only what is left without the padding counts.
theorem suffixAttempt_congr (d : Decoder) (x y : Bytes)
    (h : x.dropWhile isPaddingByte = y.dropWhile isPaddingByte) :
    { d with buffer := x }.suffixAttempt = { d with buffer := y }.suffixAttempt := by
  unfold Decoder.suffixAttempt
  dsimp only
  rw [h]

-- The padding of the kept bytes with `x` is that of all the bytes with `x`.
theorem dropWhile_append_dropWhile (p : α → Bool) (l x : List α) :
    (l.dropWhile p ++ x).dropWhile p = (l ++ x).dropWhile p := by
  induction l with
  | nil => rfl
  | cons a rest ih =>
      by_cases ha : p a
      · rw [List.dropWhile_cons_of_pos ha, List.cons_append, List.dropWhile_cons_of_pos ha, ih]
      · rw [List.dropWhile_cons_of_neg ha]

theorem dropWhile_append_of_cons (p : α → Bool) (l x r : List α) (a : α)
    (h : l.dropWhile p = a :: r) : (l ++ x).dropWhile p = a :: (r ++ x) := by
  rw [List.dropWhile_append, h]
  rfl

theorem steady_suffix : Steady Decoder.suffixAttempt (fun _ => True) where
  settled := by
    intro d d' r x _ hr h
    by_cases hshort : (d.buffer.dropWhile isPaddingByte).length < 2
    · rw [suffixAttempt_short d hshort] at h
      cases h
      exact absurd rfl hr
    · rcases hb : d.buffer.dropWhile isPaddingByte with _ | ⟨b, _ | ⟨c, rest⟩⟩
      · exact absurd (by rw [hb]; decide) hshort
      · exact absurd (by rw [hb]; exact Nat.one_lt_two) hshort
      · have hfeed := dropWhile_append_of_cons _ _ x _ _ hb
        rw [suffixAttempt_long d b c rest hb] at h
        rw [suffixAttempt_long (d.feed x) b c (rest ++ x) hfeed]
        by_cases hd : dashes = [b, c]
        · rw [if_pos hd] at h ⊢
          cases h
          rfl
        · rw [if_neg hd] at h ⊢
          by_cases hl : lineEnd = [b, c]
          · rw [if_pos hl] at h ⊢
            cases h
            rfl
          · rw [if_neg hl] at h ⊢
            cases h
            rfl
  more := by
    intro d d' x _ h
    have hd' : d' = { d with buffer := d.buffer.dropWhile isPaddingByte } := by
      by_cases hshort : (d.buffer.dropWhile isPaddingByte).length < 2
      · rw [suffixAttempt_short d hshort] at h
        cases h
        rfl
      · rcases hb : d.buffer.dropWhile isPaddingByte with _ | ⟨b, _ | ⟨c, rest⟩⟩
        · exact absurd (by rw [hb]; decide) hshort
        · exact absurd (by rw [hb]; exact Nat.one_lt_two) hshort
        · rw [suffixAttempt_long d b c rest hb] at h
          split_ifs at h <;> cases h
    subst hd'
    exact ⟨trivial, suffixAttempt_congr d _ _ (dropWhile_append_dropWhile _ _ _)⟩

/-! ### Headers -/

/-- The headers end at once, or the line that ends them begins within the limit. -/
def ShortHeaders (d : Decoder) : Prop :=
  lineEnd <+: d.buffer ∨
    ∀ n, indexOf? (lineEnd ++ lineEnd) d.buffer = some n → n + 3 ≤ maxHeaderBytes

/-- What an attempt makes of a block that was read. -/
def Attempt.ofExcept : Except NetError α → Attempt α
  | .ok a => .done a
  | .error e => .failed e

theorem headersAttempt_empty (d : Decoder) (h : lineEnd <+: d.buffer) :
    d.headersAttempt = (.done [], d.advance 2) := by
  unfold Decoder.headersAttempt
  rw [if_pos (List.isPrefixOf_iff_prefix.2 h)]
  rfl

theorem headersAttempt_some (d : Decoder) (n : Nat) (h : ¬ lineEnd <+: d.buffer)
    (hf : indexOf? (lineEnd ++ lineEnd) d.buffer = some n) :
    d.headersAttempt =
      (.ofExcept (parseHeaders (d.buffer.take n)), d.advance (n + 4)) := by
  unfold Decoder.headersAttempt
  rw [if_neg (fun hp => h (List.isPrefixOf_iff_prefix.1 hp)), hf]
  dsimp only
  cases parseHeaders (d.buffer.take n) with
  | ok hs => rfl
  | error e => rfl

theorem headersAttempt_none (d : Decoder) (h : ¬ lineEnd <+: d.buffer)
    (hf : indexOf? (lineEnd ++ lineEnd) d.buffer = none) :
    d.headersAttempt =
      if maxHeaderBytes < d.buffer.length then (.failed (.decode "part headers too large"), d)
      else (.more, d) := by
  unfold Decoder.headersAttempt
  rw [if_neg (fun hp => h (List.isPrefixOf_iff_prefix.1 hp)), hf]

-- More is asked for only while no end of the headers has come, and nothing is taken then.
theorem headersAttempt_more {d d' : Decoder} (h : d.headersAttempt = (.more, d')) :
    d' = d ∧ ¬ lineEnd <+: d.buffer ∧ indexOf? (lineEnd ++ lineEnd) d.buffer = none := by
  have hopen : ¬ lineEnd <+: d.buffer := by
    intro hp
    rw [headersAttempt_empty d hp] at h
    cases h
  cases hf : indexOf? (lineEnd ++ lineEnd) d.buffer with
  | some n =>
      rw [headersAttempt_some d n hopen hf] at h
      cases hparse : parseHeaders (d.buffer.take n) <;> rw [hparse] at h <;> cases h
  | none =>
      rw [headersAttempt_none d hopen hf] at h
      split_ifs at h <;> cases h
      exact ⟨rfl, hopen, rfl⟩

-- Two bytes are enough to see whether the headers end at once.
theorem lineEnd_prefix_append (s x : Bytes) (hs : 2 ≤ s.length) :
    lineEnd <+: s ++ x ↔ lineEnd <+: s :=
  ⟨fun h => List.prefix_of_prefix_length_le h (List.prefix_append s x) hs,
    fun h => h.trans (List.prefix_append s x)⟩

-- A block of headers whose end has arrived is read the same whatever follows.
theorem headersAttempt_feed (d : Decoder) (x : Bytes) (n : Nat) (h : ¬ lineEnd <+: d.buffer)
    (hf : indexOf? (lineEnd ++ lineEnd) d.buffer = some n) :
    (d.feed x).headersAttempt = (d.headersAttempt.1, d.headersAttempt.2.feed x) := by
  have hle : n + 4 ≤ d.buffer.length := ((indexOf?_eq_some _ _ _).1 hf).length_le (by rintro ⟨⟩)
  have hfeed : ¬ lineEnd <+: (d.feed x).buffer :=
    fun hp => h ((lineEnd_prefix_append d.buffer x (by omega)).1 hp)
  rw [headersAttempt_some d n h hf,
    headersAttempt_some (d.feed x) n hfeed (indexOf?_append _ _ x n (by rintro ⟨⟩) hf)]
  rw [d.feed_advance x _ hle, Decoder.feed, List.take_append_of_le_length (by omega)]

theorem steady_headers : Steady Decoder.headersAttempt ShortHeaders where
  settled := by
    intro d d' r x hfits hr h
    by_cases hp : lineEnd <+: d.buffer
    · have hle : 2 ≤ d.buffer.length := hp.length_le
      rw [headersAttempt_empty d hp] at h
      cases h
      rw [d.feed_advance x _ hle]
      exact headersAttempt_empty (d.feed x) (hp.trans (List.prefix_append _ _))
    · cases hf : indexOf? (lineEnd ++ lineEnd) d.buffer with
      | some n => rw [headersAttempt_feed d x n hp hf, h]
      | none =>
          rw [headersAttempt_none d hp hf] at h
          by_cases hmax : maxHeaderBytes < d.buffer.length
          · -- The end of headers this long cannot come within the limit any more.
            rw [if_pos hmax] at h
            cases h
            have hlong : 2 ≤ d.buffer.length := by unfold maxHeaderBytes at hmax; omega
            have hfeed : ¬ lineEnd <+: (d.feed x).buffer :=
              fun hq => hp ((lineEnd_prefix_append d.buffer x hlong).1 hq)
            have hnone : indexOf? (lineEnd ++ lineEnd) (d.feed x).buffer = none := by
              cases hx : indexOf? (lineEnd ++ lineEnd) (d.feed x).buffer with
              | none => rfl
              | some n =>
                  have hlate := hfits.resolve_left hfeed n hx
                  have hend : n + (lineEnd ++ lineEnd).length ≤ d.buffer.length := by
                    change n + 4 ≤ d.buffer.length
                    omega
                  have hin := prefix_drop_of_append _ _ x n hend
                    ((indexOf?_eq_some _ _ _).1 hx).1
                  exact absurd hin ((indexOf?_eq_none _ _).1 hf n)
            rw [headersAttempt_none (d.feed x) hfeed hnone, if_pos]
            simp only [Decoder.feed, List.length_append]
            omega
          · rw [if_neg hmax] at h
            cases h
            exact absurd rfl hr
  more := by
    intro d d' x hfits h
    have hd' : d' = d := (headersAttempt_more h).1
    subst hd'
    exact ⟨hfits, rfl⟩

end Multipart

end Http

end DemandNet
