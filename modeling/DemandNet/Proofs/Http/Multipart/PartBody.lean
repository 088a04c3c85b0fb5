import DemandNet.Proofs.Http.Multipart.Whole

/-!
# Bodies on the Whole Input

Reading the body of a part to its end does not depend on how the input was cut.

The chunks of a body do depend on it: everything is handed out that cannot be the
beginning of a delimiter, and what that is changes with every chunk that arrives. What
stays is their concatenation. Each chunk stands in front of the first delimiter of the
whole input, and taking it off moves that delimiter by its length. So the chunks
together are the bytes up to the first delimiter, or, if none ever comes, all but the
last bytes that might have begun one.

Every chunk takes at least one byte off the input, so asking as often as there are bytes
is enough.

## Main definitions

* `bodyLength`: How many bytes of the input belong to the body.
* `bodyEnd`: What is found behind the body.
* `BodyTry`: What one attempt in the body comes to.
* `BodyLook`: What one look for a chunk comes to.

## Theorems

* `bodyAttempt_tries`: An attempt in the body of a part has no other outcomes.
* `run_bodyAttempt`: Every look for a chunk has one of the outcomes of `BodyLook`.
* `readChunks_settles`: The chunks of a body, put together, and what comes after it.
* `readBody_of_delimiter`: A body that ends in a delimiter.
-/

namespace DemandNet

namespace Http

namespace Multipart

open Decoder (Found)

/-- The number of bytes before the first delimiter, or of those that cannot be the
    beginning of one. -/
def bodyLength (w : Decoder) : Nat :=
  match indexOf? w.delimiter w.buffer with
  | some n => n
  | none => w.buffer.length - (w.delimiter.length - 1)

/-- What is found behind the body: the rest of a boundary line, or nothing yet. -/
def bodyEnd (w : Decoder) : Attempt Unit × Decoder :=
  match indexOf? w.delimiter w.buffer with
  | some n => (w.advance (n + w.delimiter.length)).suffixAttempt
  | none => (.more, w.advance (bodyLength w))

/-- What a look for a chunk of a body comes to when the whole input is `w`. -/
inductive BodyLook (ending : Ending) (w : Decoder) :
    Outcome Found × Decoder × Input → Prop where
  | delimiter (d : Decoder) (i : Input) (hi : i.ending = ending)
      (hfound : indexOf? w.delimiter w.buffer = some 0)
      (hrest : d.whole i = w.advance w.delimiter.length) :
      BodyLook ending w (.done .delimiter, d, i)
  | chunk (n : Nat) (d : Decoder) (i : Input) (hi : i.ending = ending) (hpos : 0 < n)
      (hkeep : n + (w.delimiter.length - 1) ≤ w.buffer.length)
      (hfound : indexOf? w.delimiter w.buffer =
        (indexOf? w.delimiter (w.buffer.drop n)).map (n + ·))
      (hrest : d.whole i = w.advance n) :
      BodyLook ending w (.done (.chunk (w.buffer.take n)), d, i)
  | broken (pulls : Nat) (hfound : indexOf? w.delimiter w.buffer = none)
      (hshort : w.buffer.length ≤ w.delimiter.length - 1) :
      BodyLook ending w (ending.outcome, w, ⟨[], ending.after, pulls⟩)

/-! ### One chunk -/

/-- What one attempt in the body of a part comes to. -/
inductive BodyTry (d : Decoder) : Attempt Found × Decoder → Prop where
  | delimiter (hfound : indexOf? d.delimiter d.buffer = some 0) :
      BodyTry d (.done .delimiter, d.advance d.delimiter.length)
  | before {n : Nat} (hfound : indexOf? d.delimiter d.buffer = some n) (hpos : 0 < n) :
      BodyTry d (.done (.chunk (d.buffer.take n)), d.advance n)
  | sure {n : Nat} (hnone : indexOf? d.delimiter d.buffer = none)
      (hn : n = d.buffer.length - (d.delimiter.length - 1)) (hpos : 0 < n) :
      BodyTry d (.done (.chunk (d.buffer.take n)), d.advance n)
  | more (hnone : indexOf? d.delimiter d.buffer = none)
      (hshort : d.buffer.length ≤ d.delimiter.length - 1) : BodyTry d (.more, d)

theorem bodyAttempt_tries {d : Decoder} (hplace : d.place = .body) :
    BodyTry d d.bodyAttempt := by
  unfold Decoder.bodyAttempt
  rw [if_neg (not_not_intro hplace)]
  cases hfound : indexOf? d.delimiter d.buffer with
  | some n =>
      cases n with
      | zero => exact .delimiter hfound
      | succ n => exact .before hfound (Nat.succ_pos n)
  | none =>
      dsimp only
      by_cases hpos : 0 < d.buffer.length - (d.delimiter.length - 1)
      · rw [if_pos hpos]
        exact .sure hfound rfl hpos
      · rw [if_neg hpos]
        exact .more hfound (by omega)

-- What is done with the buffer that has arrived holds for the whole input as well.
theorem bodyLook_of_attempt (d d' : Decoder) (r : Found) (x : Bytes) (i : Input)
    (hplace : d.place = .body) (hx : i.chunks.flatten = x)
    (h : d.bodyAttempt = (.done r, d')) :
    BodyLook i.ending (d.feed x) (.done r, d', i) := by
  have hwhole : d'.whole i = d'.feed x := by unfold Decoder.whole; rw [hx]
  have hne := delimiter_ne_nil d
  have hlength : (d.feed x).buffer.length = d.buffer.length + x.length := List.length_append
  have hsame : (d.feed x).delimiter = d.delimiter := rfl
  have htry := bodyAttempt_tries hplace
  rw [h] at htry
  generalize ha : ((.done r, d') : Attempt Found × Decoder) = a at htry
  cases htry with
  | delimiter hfound =>
      cases ha
      have hle := ((indexOf?_eq_some _ _ _).1 hfound).length_le hne
      refine .delimiter _ i rfl (indexOf?_append _ _ x 0 hne hfound) ?_
      rw [hwhole]
      exact d.feed_advance x _ (by omega)
  | @before n hfound hpos =>
      cases ha
      have hle := ((indexOf?_eq_some _ _ _).1 hfound).length_le hne
      have hfeed := indexOf?_append _ _ x n hne hfound
      rw [← List.take_append_of_le_length (show n ≤ d.buffer.length by omega)]
      refine .chunk n _ i rfl hpos (by rw [hlength, hsame]; omega) ?_ ?_
      · exact indexOf?_shift _ _ _ fun m hm => ((indexOf?_eq_some _ _ _).1 hfeed).2 m hm
      · rw [hwhole]
        exact d.feed_advance x _ (by omega)
  | @sure n hnone hn hpos =>
      cases ha
      rw [← List.take_append_of_le_length (show n ≤ d.buffer.length by omega)]
      refine .chunk n _ i rfl hpos (by rw [hlength, hsame]; omega) ?_ ?_
      · exact indexOf?_forget _ _ x n hnone (Nat.le_of_eq hn)
      · rw [hwhole]
        exact d.feed_advance x _ (by omega)
  | more _ _ => cases ha

theorem runOn_bodyAttempt (ending : Ending) (chunks : List Bytes) :
    ∀ (d : Decoder) (pulls : Nat), d.place = .body →
      BodyLook ending (d.feed chunks.flatten)
        (Decoder.runOn Decoder.bodyAttempt ending d pulls chunks) := by
  induction chunks with
  | nil =>
      intro d pulls hplace
      have htry := bodyAttempt_tries hplace
      rw [Decoder.runOn]
      rcases h : d.bodyAttempt with ⟨r | e | _, d'⟩ <;> rw [h] at htry
      · exact bodyLook_of_attempt d d' r [] ⟨[], ending, pulls⟩ hplace rfl h
      · cases htry
      · cases htry with
        | more hnone hshort =>
            rw [List.flatten_nil, Decoder.feed_nil]
            exact .broken (pulls + 1) hnone hshort
  | cons chunk rest ih =>
      intro d pulls hplace
      have htry := bodyAttempt_tries hplace
      rw [Decoder.runOn]
      rcases h : d.bodyAttempt with ⟨r | e | _, d'⟩ <;> rw [h] at htry
      · exact bodyLook_of_attempt d d' r _ ⟨chunk :: rest, ending, pulls⟩ hplace rfl h
      · cases htry
      · cases htry with
        | more _ _ =>
            rw [List.flatten_cons, ← Decoder.feed_feed]
            exact ih (d.feed chunk) (pulls + 1) hplace

theorem run_bodyAttempt (d : Decoder) (i : Input) (hplace : d.place = .body) :
    BodyLook i.ending (d.whole i) (d.run Decoder.bodyAttempt i) :=
  runOn_bodyAttempt i.ending i.chunks d i.pulls hplace

/-! ### All chunks -/

theorem bodyLength_advance (w : Decoder) (n : Nat)
    (hkeep : n + (w.delimiter.length - 1) ≤ w.buffer.length)
    (hfound : indexOf? w.delimiter w.buffer =
      (indexOf? w.delimiter (w.buffer.drop n)).map (n + ·)) :
    bodyLength w = n + bodyLength (w.advance n) := by
  unfold bodyLength
  rw [hfound]
  change _ = n + (match indexOf? w.delimiter (w.buffer.drop n) with
    | some m => m
    | none => (w.buffer.drop n).length - (w.delimiter.length - 1))
  cases indexOf? w.delimiter (w.buffer.drop n) with
  | some m => rfl
  | none =>
      rw [List.length_drop]
      have hkept : w.buffer.length - (w.delimiter.length - 1) =
          n + (w.buffer.length - n - (w.delimiter.length - 1)) := by omega
      exact hkept

-- A chunk does not change what comes after the body.
theorem bodyEnd_advance (w : Decoder) (n : Nat)
    (hkeep : n + (w.delimiter.length - 1) ≤ w.buffer.length)
    (hfound : indexOf? w.delimiter w.buffer =
      (indexOf? w.delimiter (w.buffer.drop n)).map (n + ·)) :
    bodyEnd (w.advance n) = bodyEnd w := by
  have hlength := bodyLength_advance w n hkeep hfound
  unfold bodyEnd
  rw [hfound, hlength, Decoder.advance_advance]
  change (match indexOf? w.delimiter (w.buffer.drop n) with
    | some m => ((w.advance n).advance (m + w.delimiter.length)).suffixAttempt
    | none => _) = _
  cases indexOf? w.delimiter (w.buffer.drop n) with
  | some m =>
      dsimp only [Option.map_some]
      rw [Decoder.advance_advance, Nat.add_assoc]
  | none => rfl

theorem chunksUpTo_settles (fuel : Nat) :
    ∀ (d : Decoder) (i : Input), d.place = .body → (d.whole i).buffer.length < fuel →
      (d.chunksUpTo i fuel).1.flatten = (d.whole i).buffer.take (bodyLength (d.whole i)) ∧
        Settles i.ending (bodyEnd (d.whole i)) (d.chunksUpTo i fuel).2 := by
  induction fuel with
  | zero => exact fun d i _ hfuel => absurd hfuel (Nat.not_lt_zero _)
  | succ fuel ih =>
      intro d i hplace hfuel
      have hlook := run_bodyAttempt d i hplace
      rw [Decoder.chunksUpTo, Decoder.bodyChunk]
      generalize d.run Decoder.bodyAttempt i = r at hlook ⊢
      generalize hw : d.whole i = w at hlook hfuel ⊢
      have hwplace : w.place = .body := by rw [← hw]; exact hplace
      cases hlook with
      | delimiter d' i' hi hfound hrest =>
          have hset := steady_suffix.settles d' i' trivial
          have hlength : bodyLength w = 0 := by unfold bodyLength; rw [hfound]
          have hend : bodyEnd w = (d'.whole i').suffixAttempt := by
            unfold bodyEnd
            rw [hfound, hrest]
            dsimp only
            rw [Nat.zero_add]
          rw [hlength, hend, ← hi]
          dsimp only
          generalize d'.run Decoder.suffixAttempt i' = r at hset ⊢
          rcases r with ⟨u | e | _, r⟩ <;> exact ⟨rfl, hset⟩
      | chunk n d' i' hi hpos hkeep hfound hrest =>
          have hlen : (d'.whole i').buffer.length = w.buffer.length - n := by
            rw [hrest]
            exact List.length_drop
          have hplace' : d'.place = .body :=
            (congrArg Decoder.place hrest).trans hwplace
          have hmore := ih d' i' hplace' (by omega)
          rw [hrest, hi, bodyEnd_advance w n hkeep hfound] at hmore
          refine ⟨?_, hmore.2⟩
          rw [bodyLength_advance w n hkeep hfound, List.take_add]
          exact congrArg (w.buffer.take n ++ ·) hmore.1
      | broken pulls hfound hshort =>
          have hlength : bodyLength w = 0 := by
            unfold bodyLength
            rw [hfound]
            exact Nat.sub_eq_zero_of_le hshort
          have hend : bodyEnd w = (.more, w) := by
            unfold bodyEnd
            rw [hfound, hlength]
            rfl
          rw [hlength, hend]
          have hset : ∀ pulls, Settles i.ending (.more, w)
              ((i.ending.outcome, w, ⟨[], i.ending.after, pulls⟩) :
                Outcome Unit × Decoder × Input) := Settles.broken w
          cases hending : i.ending <;> rw [hending] at hset <;> exact ⟨rfl, hset pulls⟩

theorem remaining_eq (d : Decoder) (i : Input) :
    d.remaining i = (d.whole i).buffer.length := by
  unfold Decoder.remaining Decoder.whole Decoder.feed
  rw [List.length_append]

theorem readChunks_settles (d : Decoder) (i : Input) (hplace : d.place = .body) :
    (d.readChunks i).1.flatten = (d.whole i).buffer.take (bodyLength (d.whole i)) ∧
      Settles i.ending (bodyEnd (d.whole i)) (d.readChunks i).2 :=
  chunksUpTo_settles _ d i hplace (by rw [remaining_eq]; exact Nat.lt_succ_self _)

theorem readBody_of_delimiter (d w : Decoder) (i : Input) (n : Nat) (hplace : d.place = .body)
    (hfound : indexOf? d.delimiter (d.whole i).buffer = some n)
    (hend : ((d.whole i).advance (n + d.delimiter.length)).suffixAttempt = (.done (), w)) :
    ∃ d' i', d.readBody i = (.done ((d.whole i).buffer.take n), d', i') ∧ d'.whole i' = w := by
  rcases readChunks_settles d i hplace with ⟨hchunks, hset⟩
  have hfound' : indexOf? (d.whole i).delimiter (d.whole i).buffer = some n := hfound
  have hlength : bodyLength (d.whole i) = n := by unfold bodyLength; rw [hfound']
  have hwhole : bodyEnd (d.whole i) = (.done (), w) := by
    unfold bodyEnd
    rw [hfound']
    exact hend
  rw [hlength] at hchunks
  rw [hwhole] at hset
  unfold Decoder.readBody
  generalize d.readChunks i = r at hchunks hset ⊢
  rcases r with ⟨chunks, r⟩
  dsimp only at hchunks hset ⊢
  cases hset with
  | done a d' i' _ => exact ⟨d', i', by rw [← hchunks], rfl⟩

-- Behind a boundary line a decoder answers as one that has only just come there.
theorem nextPart_of_skip (d d' : Decoder) (i i' : Input)
    (hd : d.place = .preamble ∨ d.place = .body)
    (hd' : d'.place = .headers ∨ d'.place = .epilogue)
    (h : d.skipToDelimiter i = (.done (), d', i')) : d.nextPart i = d'.nextPart i' := by
  have hleft : d.nextPart i =
      if d'.place = .headers then d'.readHeaders i' else (.done none, d', i') := by
    unfold Decoder.nextPart
    rcases hd with hplace | hplace <;> rw [hplace, h]
  rw [hleft]
  unfold Decoder.nextPart
  rcases hd' with hplace | hplace
  · rw [if_pos hplace, hplace]
  · rw [if_neg (by rw [hplace]; rintro ⟨⟩), hplace]

end Multipart

end Http

end DemandNet
