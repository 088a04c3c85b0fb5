import DemandNet.Proofs.Http.Multipart.PartBody

/-!
# Transcripts

What reading a body in parts comes to does not depend on how the body was cut into
chunks, whether the body is well formed or not.

A reader asks for one part after the other and reads each of them to its end. It stops
at the first failure or when there are no more parts. Its transcript is the list of
the parts it got, the last one perhaps broken off, and how it stopped.

Every operation of the decoder settles what the same operation makes of a buffer that
holds all the input, so two decoders that are equal together with their inputs have the
same transcript. One attempt alone is not steady: the limit on the size of headers is
checked against the bytes that happen to have arrived. It is harmless where the empty
line behind the headers of every part begins early enough, and which bytes are the
headers of a part can be said of the body itself: `HeaderRegion` finds them without a
decoder.

The induction is on the bytes that are left. Every boundary line takes at least two.

## Main definitions

* `Transcript`: What asking for parts and reading them gives, up to the first failure.
* `HeaderRegion`: What follows a boundary line that opens a part.
* `EndsInTime`: The headers at the beginning of a region end within the limit.
* `boundaryLine`, `partHead`, `nextHead`: The decoder's operations on the whole input.

## Theorems

* `Transcript.unique`: A body is read in one way only.
* `skipToDelimiter_settles`, `readHeaders_settles`: The operations depend on the whole
  input only.
* `transcript_of_nextHead`: The decoders that have one input left have one transcript.
* `transcript_of_flatten`: The transcript of a body, whatever its chunks.
-/

namespace DemandNet

namespace Http

namespace Multipart

open Decoder (isPaddingByte withBoundary)

/-- How a reader stops at the answer to its question for a part; `none` if it got
    one. -/
def Outcome.stop? : Outcome (Option Headers) → Option (Outcome Unit)
  | .done (some _) => none
  | .done none => some (.done ())
  | .failed e => some (.failed e)
  | .stalled => some .stalled

/-- The parts that a reader gets, each with its headers and as much of its body as there
    was, and how the reader stops. -/
inductive Transcript : Decoder → Input → List (Headers × Bytes) → Outcome Unit → Prop where
  | stopped {d : Decoder} {i : Input} {r : Outcome Unit}
      (hnext : (d.nextPart i).1.stop? = some r) : Transcript d i [] r
  | part {d d₁ d₂ : Decoder} {i i₁ i₂ : Input} {hs : Headers} {chunks : List Bytes}
      {rest : List (Headers × Bytes)} {r : Outcome Unit}
      (hnext : d.nextPart i = (.done (some hs), d₁, i₁))
      (hbody : d₁.readChunks i₁ = (chunks, .done (), d₂, i₂))
      (hrest : Transcript d₂ i₂ rest r) : Transcript d i ((hs, chunks.flatten) :: rest) r
  | broken {d d₁ d₂ : Decoder} {i i₁ i₂ : Input} {hs : Headers} {chunks : List Bytes}
      {r : Outcome Unit}
      (hnext : d.nextPart i = (.done (some hs), d₁, i₁))
      (hbody : d₁.readChunks i₁ = (chunks, r, d₂, i₂))
      (hr : r ≠ .done ()) : Transcript d i [(hs, chunks.flatten)] r

theorem Transcript.unique {d : Decoder} {i : Input} {parts parts' : List (Headers × Bytes)}
    {r r' : Outcome Unit} (h : Transcript d i parts r) (h' : Transcript d i parts' r') :
    parts' = parts ∧ r' = r := by
  induction h generalizing parts' r' with
  | stopped hnext =>
      cases h' with
      | stopped hnext' =>
          rw [hnext, Option.some.injEq] at hnext'
          exact ⟨rfl, hnext'.symm⟩
      | part hnext' _ _ | broken hnext' _ _ =>
          rw [hnext'] at hnext
          cases hnext
  | part hnext hbody hrest ih =>
      cases h' with
      | stopped hnext' =>
          rw [hnext] at hnext'
          cases hnext'
      | part hnext' hbody' hrest' =>
          rw [hnext] at hnext'
          cases hnext'
          rw [hbody] at hbody'
          cases hbody'
          rcases ih hrest' with ⟨hparts, hr⟩
          exact ⟨by rw [hparts], hr⟩
      | broken hnext' hbody' hr' =>
          rw [hnext] at hnext'
          cases hnext'
          rw [hbody] at hbody'
          cases hbody'
          exact absurd rfl hr'
  | broken hnext hbody hr =>
      cases h' with
      | stopped hnext' =>
          rw [hnext] at hnext'
          cases hnext'
      | part hnext' hbody' _ =>
          rw [hnext] at hnext'
          cases hnext'
          rw [hbody] at hbody'
          cases hbody'
          exact absurd rfl hr
      | broken hnext' hbody' _ =>
          rw [hnext] at hnext'
          cases hnext'
          rw [hbody] at hbody'
          cases hbody'
          exact ⟨rfl, rfl⟩

/-! ### The headers in a body -/

/-- What follows the next boundary line, if that line opens a part. -/
def openedBy? (delimiter text : Bytes) : Option Bytes :=
  match indexOf? delimiter text with
  | none => none
  | some n =>
      match (text.drop (n + delimiter.length)).dropWhile isPaddingByte with
      | 13 :: 10 :: region => some region
      | _ => none

/-- What follows the headers at the beginning of a region, if they can be read. -/
def behindHeaders? (region : Bytes) : Option Bytes :=
  if lineEnd.isPrefixOf region then some (region.drop 2)
  else
    match indexOf? (lineEnd ++ lineEnd) region with
    | none => none
    | some n => if (parseHeaders (region.take n)).isOk then some (region.drop (n + 4)) else none

/-- A text has a part whose headers begin this region. -/
inductive HeaderRegion (delimiter : Bytes) : Bytes → Bytes → Prop where
  | first {text region : Bytes} (h : openedBy? delimiter text = some region) :
      HeaderRegion delimiter text region
  | later {text region rest region' : Bytes} (h : openedBy? delimiter text = some region)
      (hrest : behindHeaders? region = some rest)
      (hlater : HeaderRegion delimiter rest region') : HeaderRegion delimiter text region'

/-- The headers at the beginning of a region end at once, or the empty line behind them
    begins within the limit, or they do not end at all. -/
def EndsInTime (region : Bytes) : Prop :=
  lineEnd <+: region ∨ ∀ n, indexOf? (lineEnd ++ lineEnd) region = some n → n ≤ 16381

theorem openedBy?_length {delimiter text region : Bytes}
    (h : openedBy? delimiter text = some region) : region.length ≤ text.length := by
  unfold openedBy? at h
  cases hfound : indexOf? delimiter text with
  | none =>
      rw [hfound] at h
      cases h
  | some n =>
      have hdrop : (text.drop (n + delimiter.length)).length ≤ text.length :=
        (List.drop_suffix _ _).length_le
      have hpadding : ((text.drop (n + delimiter.length)).dropWhile isPaddingByte).length ≤
          (text.drop (n + delimiter.length)).length := (List.dropWhile_suffix _).length_le
      rw [hfound] at h
      dsimp only at h
      split at h
      · rename_i rest hrest
        cases h
        rw [hrest, List.length_cons, List.length_cons] at hpadding
        omega
      · cases h

theorem behindHeaders?_length {region rest : Bytes} (h : behindHeaders? region = some rest) :
    rest.length ≤ region.length := by
  have hdrop : ∀ n, (region.drop n).length ≤ region.length :=
    fun n => (List.drop_suffix n region).length_le
  unfold behindHeaders? at h
  split at h
  · cases h
    exact hdrop 2
  · split at h
    · cases h
    · split at h
      · cases h
        exact hdrop _
      · cases h

theorem HeaderRegion.length_le {delimiter text region : Bytes}
    (h : HeaderRegion delimiter text region) : region.length ≤ text.length := by
  induction h with
  | first h => exact openedBy?_length h
  | later h hrest _ ih =>
      have hbehind := behindHeaders?_length hrest
      have hopened := openedBy?_length h
      omega

-- In a short text all headers end in time, if they do.
theorem HeaderRegion.endsInTime {delimiter text region : Bytes}
    (h : HeaderRegion delimiter text region) (hshort : text.length ≤ 16385) :
    EndsInTime region := by
  refine .inr fun n hn => ?_
  have hfirst : n + (lineEnd ++ lineEnd).length ≤ region.length :=
    ((indexOf?_eq_some _ _ n).1 hn).length_le (List.cons_ne_nil _ _)
  have hfour : (lineEnd ++ lineEnd).length = 4 := rfl
  have hregion := h.length_le
  omega

theorem shortHeaders_iff (d : Decoder) : ShortHeaders d ↔ EndsInTime d.buffer := by
  unfold ShortHeaders EndsInTime maxHeaderBytes
  refine or_congr_right (forall_congr' fun n => imp_congr_right fun _ => ?_)
  omega

/-! ### Operations on the whole input -/

/-- What an attempt on the whole input comes to, given how that input ends. -/
def Attempt.outcome (ending : Ending) : Attempt α → Outcome α
  | .done a => .done a
  | .failed e => .failed e
  | .more => ending.outcome

theorem Settles.outcome_eq {ending : Ending} {a : Attempt α × Decoder}
    {r : Outcome α × Decoder × Input} (h : Settles ending a r) :
    r.1 = a.1.outcome ending := by
  cases h <;> rfl

theorem Settles.whole_eq {ending : Ending} {a : α} {w : Decoder}
    {r : Outcome α × Decoder × Input} (h : Settles ending (.done a, w) r) :
    ∃ d i, r = (.done a, d, i) ∧ d.whole i = w ∧ i.ending = ending := by
  cases h with
  | done _ d i hi => exact ⟨d, i, rfl, rfl, hi⟩

theorem Settles.done_eq {ending : Ending} {a : Attempt α × Decoder} {x : α} {d : Decoder}
    {i : Input} (h : Settles ending a (.done x, d, i)) :
    a = (.done x, d.whole i) ∧ i.ending = ending := by
  generalize hr : ((.done x, d, i) : Outcome α × Decoder × Input) = r at h
  cases h with
  | done _ _ _ hi =>
      cases hr
      exact ⟨rfl, hi⟩
  | failed _ _ _ _ => cases hr
  | broken _ _ => cases ending <;> cases hr

/-- Going to the end of the next boundary line. -/
def boundaryLine (w : Decoder) : Attempt Unit × Decoder :=
  match w.skipAttempt with
  | (.done (), w) => w.suffixAttempt
  | r => r

/-- Reading the headers of the part that begins here. -/
def partHead (w : Decoder) : Attempt (Option Headers) × Decoder :=
  match w.headersAttempt with
  | (.done h, w) => (.done (some h), { w with place := .body })
  | (.failed e, w) => (.failed e, w)
  | (.more, w) => (.more, w)

/-- Reading the headers of the next part. -/
def nextHead (w : Decoder) : Attempt (Option Headers) × Decoder :=
  match w.place with
  | .epilogue => (.done none, w)
  | .headers => partHead w
  | _ =>
      match boundaryLine w with
      | (.done (), w) => if w.place = .headers then partHead w else (.done none, w)
      | (.failed e, w) => (.failed e, w)
      | (.more, w) => (.more, w)

theorem skipToDelimiter_settles (d : Decoder) (i : Input) :
    Settles i.ending (boundaryLine (d.whole i)) (d.skipToDelimiter i) := by
  have hskip := steady_skip.settles d i trivial
  unfold boundaryLine Decoder.skipToDelimiter
  generalize (d.whole i).skipAttempt = a at hskip ⊢
  generalize d.run Decoder.skipAttempt i = r at hskip ⊢
  generalize he : i.ending = ending at hskip ⊢
  cases hskip with
  | done u d' i' hi =>
      have hsuffix := steady_suffix.settles d' i' trivial
      rwa [hi] at hsuffix
  | failed e d' i' hi => exact .failed e d' i' hi
  | broken w pulls =>
      cases ending with
      | ended | failed e | stalled => exact .broken w pulls

-- Reading headers comes to what the attempt on the whole input gives, if its run does.
theorem readHeaders_of_settles (d : Decoder) (i : Input)
    (hhead : Settles i.ending (d.whole i).headersAttempt (d.run Decoder.headersAttempt i)) :
    Settles i.ending (partHead (d.whole i)) (d.readHeaders i) := by
  unfold partHead Decoder.readHeaders
  generalize (d.whole i).headersAttempt = a at hhead ⊢
  generalize d.run Decoder.headersAttempt i = r at hhead ⊢
  generalize he : i.ending = ending at hhead ⊢
  cases hhead with
  | done hs d' i' hi => exact .done (some hs) { d' with place := .body } i' hi
  | failed e d' i' hi => exact .failed e d' i' hi
  | broken w pulls =>
      cases ending with
      | ended | failed e | stalled => exact .broken w pulls

theorem readHeaders_settles (d : Decoder) (i : Input) (hshort : EndsInTime (d.whole i).buffer) :
    Settles i.ending (partHead (d.whole i)) (d.readHeaders i) :=
  readHeaders_of_settles d i (steady_headers.settles d i ((shortHeaders_iff _).2 hshort))

/-! ### What the operations leave -/

theorem suffixAttempt_more {w w' : Decoder} (h : w.suffixAttempt = (.more, w')) :
    w' = { w with buffer := w.buffer.dropWhile isPaddingByte } ∧ w'.buffer.length < 2 := by
  unfold Decoder.suffixAttempt at h
  dsimp only at h
  split_ifs at h with hshort <;> cases h
  exact ⟨rfl, hshort⟩

-- A boundary line takes two bytes at least, and one that opens a part leaves the region
-- that the text itself shows.
theorem suffixAttempt_done (w w' : Decoder) (h : w.suffixAttempt = (.done (), w')) :
    w'.delimiter = w.delimiter ∧ w'.buffer.length + 2 ≤ w.buffer.length ∧
      (w'.place = .epilogue ∨ w'.place = .headers ∧
        w.buffer.dropWhile isPaddingByte = 13 :: 10 :: w'.buffer) := by
  rcases hb : w.buffer.dropWhile isPaddingByte with _ | ⟨b, _ | ⟨c, rest⟩⟩
  · rw [suffixAttempt_short w (by rw [hb]; decide)] at h
    cases h
  · rw [suffixAttempt_short w (by rw [hb]; exact Nat.one_lt_two)] at h
    cases h
  · have hlength : rest.length + 2 ≤ w.buffer.length := by
      have hle : (w.buffer.dropWhile isPaddingByte).length ≤ w.buffer.length :=
        (List.dropWhile_suffix _).length_le
      rwa [hb] at hle
    rw [suffixAttempt_long w b c rest hb] at h
    by_cases hd : dashes = [b, c]
    · rw [if_pos hd] at h
      cases h
      exact ⟨rfl, hlength, .inl rfl⟩
    · rw [if_neg hd] at h
      by_cases hl : lineEnd = [b, c]
      · rw [if_pos hl] at h
        cases h
        cases hl
        exact ⟨rfl, hlength, .inr ⟨rfl, rfl⟩⟩
      · rw [if_neg hl] at h
        cases h

theorem openedBy?_of_suffix (w w' : Decoder) (n : Nat)
    (hfound : indexOf? w.delimiter w.buffer = some n)
    (h : (w.advance (n + w.delimiter.length)).suffixAttempt = (.done (), w'))
    (hplace : w'.place = .headers) : openedBy? w.delimiter w.buffer = some w'.buffer := by
  have hopen := (suffixAttempt_done _ _ h).2.2
  rw [hplace] at hopen
  rcases hopen with hend | ⟨_, hregion⟩
  · cases hend
  · change (w.buffer.drop (n + w.delimiter.length)).dropWhile isPaddingByte = _ at hregion
    unfold openedBy?
    rw [hfound]
    dsimp only
    rw [hregion]
    rfl

theorem lineAt_done (w w' : Decoder) (n : Nat) (hfound : indexOf? w.delimiter w.buffer = some n)
    (h : (w.advance (n + w.delimiter.length)).suffixAttempt = (.done (), w')) :
    w'.delimiter = w.delimiter ∧ (w'.place = .epilogue ∨ w'.place = .headers) ∧
      (w'.place = .headers → openedBy? w.delimiter w.buffer = some w'.buffer) ∧
      w'.buffer.length < w.buffer.length := by
  rcases suffixAttempt_done _ _ h with ⟨hdelimiter, hlength, hplace⟩
  have hdrop : (w.advance (n + w.delimiter.length)).buffer.length ≤ w.buffer.length :=
    (List.drop_suffix _ _).length_le
  exact ⟨hdelimiter, hplace.imp_right And.left, openedBy?_of_suffix w w' n hfound h, by omega⟩

-- Going to a boundary line drops what reading the body up to it hands out.
theorem boundaryLine_eq_bodyEnd (w : Decoder) : boundaryLine w = bodyEnd w := by
  unfold boundaryLine bodyEnd bodyLength
  cases hfound : indexOf? w.delimiter w.buffer with
  | none => rw [skipAttempt_none w hfound]
  | some n => rw [skipAttempt_some w n hfound]

theorem bodyEnd_done (w w' : Decoder) (h : bodyEnd w = (.done (), w')) :
    w'.delimiter = w.delimiter ∧ (w'.place = .epilogue ∨ w'.place = .headers) ∧
      (w'.place = .headers → openedBy? w.delimiter w.buffer = some w'.buffer) ∧
      w'.buffer.length < w.buffer.length := by
  unfold bodyEnd at h
  cases hfound : indexOf? w.delimiter w.buffer with
  | none =>
      rw [hfound] at h
      cases h
  | some n =>
      rw [hfound] at h
      exact lineAt_done w w' n hfound h

theorem boundaryLine_done (w w' : Decoder) (h : boundaryLine w = (.done (), w')) :
    w'.delimiter = w.delimiter ∧ (w'.place = .epilogue ∨ w'.place = .headers) ∧
      (w'.place = .headers → openedBy? w.delimiter w.buffer = some w'.buffer) ∧
      w'.buffer.length < w.buffer.length :=
  bodyEnd_done w w' (boundaryLine_eq_bodyEnd w ▸ h)

theorem partHead_done (w w' : Decoder) (hs : Option Headers)
    (h : partHead w = (.done hs, w')) :
    w'.place = .body ∧ w'.delimiter = w.delimiter ∧
      w'.buffer.length ≤ w.buffer.length ∧ behindHeaders? w.buffer = some w'.buffer := by
  have hlength : ∀ n, (w.buffer.drop n).length ≤ w.buffer.length :=
    fun n => (List.drop_suffix n w.buffer).length_le
  unfold partHead at h
  by_cases hempty : lineEnd <+: w.buffer
  · rw [headersAttempt_empty w hempty] at h
    cases h
    refine ⟨rfl, rfl, hlength 2, ?_⟩
    unfold behindHeaders?
    rw [if_pos (List.isPrefixOf_iff_prefix.2 hempty)]
    rfl
  · cases hfound : indexOf? (lineEnd ++ lineEnd) w.buffer with
    | none =>
        rw [headersAttempt_none w hempty hfound] at h
        split_ifs at h <;> cases h
    | some n =>
        rw [headersAttempt_some w n hempty hfound] at h
        cases hparse : parseHeaders (w.buffer.take n) with
        | error e =>
            rw [hparse] at h
            cases h
        | ok headers =>
            rw [hparse] at h
            cases h
            refine ⟨rfl, rfl, hlength (n + 4), ?_⟩
            unfold behindHeaders?
            rw [if_neg (fun hp => hempty (List.isPrefixOf_iff_prefix.1 hp)), hfound]
            dsimp only
            rw [hparse]
            rfl

-- The headers of the later parts are those of the text that the part stands in.
theorem regions_behind_part (text : Bytes) (w w' : Decoder) (hs : Option Headers)
    (h : partHead w = (.done hs, w')) (hopen : openedBy? w.delimiter text = some w.buffer)
    (htime : ∀ region, HeaderRegion w.delimiter text region → EndsInTime region) :
    w'.place = .body ∧ w'.buffer.length ≤ w.buffer.length ∧
      ∀ region, HeaderRegion w'.delimiter w'.buffer region → EndsInTime region := by
  rcases partHead_done w w' hs h with ⟨hbody, hdelimiter, hlength, hbehind⟩
  refine ⟨hbody, hlength, fun region hregion => ?_⟩
  rw [hdelimiter] at hregion
  exact htime region (.later hopen hbehind hregion)

/-! ### Transcripts of the whole input -/

/-- All that are equal to a decoder, together with their input, answer the question for a
    part alike. -/
def NextSettles (ending : Ending) (w : Decoder) : Prop :=
  ∀ (d : Decoder) (i : Input), d.whole i = w → i.ending = ending →
    Settles ending (nextHead w) (d.nextPart i)

/-- All that are equal to a decoder, together with their input, have one transcript. -/
def SettledTranscript (ending : Ending) (w : Decoder) : Prop :=
  ∃ parts r, ∀ (d : Decoder) (i : Input), d.whole i = w → i.ending = ending →
    Transcript d i parts r

theorem nextSettles_of_epilogue (ending : Ending) (w : Decoder) (hplace : w.place = .epilogue) :
    NextSettles ending w := by
  intro d i hw hi
  have hd : d.place = .epilogue := (congrArg Decoder.place hw).trans hplace
  unfold nextHead Decoder.nextPart
  rw [hplace, hd, ← hw]
  exact .done none d i hi

theorem nextSettles_of_headers (ending : Ending) (w : Decoder) (hplace : w.place = .headers)
    (htime : EndsInTime w.buffer) : NextSettles ending w := by
  intro d i hw hi
  have hd : d.place = .headers := (congrArg Decoder.place hw).trans hplace
  have hread := readHeaders_settles d i (by rw [hw]; exact htime)
  unfold nextHead Decoder.nextPart
  rw [hplace, hd]
  rwa [hw, hi] at hread

theorem nextSettles_of_preamble (ending : Ending) (w : Decoder) (hplace : w.place = .preamble)
    (htime : ∀ v, boundaryLine w = (.done (), v) → v.place = .headers → EndsInTime v.buffer) :
    NextSettles ending w := by
  intro d i hw hi
  have hd : d.place = .preamble := (congrArg Decoder.place hw).trans hplace
  have hskip := skipToDelimiter_settles d i
  rw [hw, hi] at hskip
  unfold nextHead Decoder.nextPart
  rw [hplace, hd]
  dsimp only
  generalize boundaryLine w = a at hskip htime ⊢
  generalize d.skipToDelimiter i = r at hskip ⊢
  cases hskip with
  | done u d' i' hi' =>
      have hwhole : (d'.whole i').place = d'.place := rfl
      dsimp only
      rw [hwhole]
      by_cases hheaders : d'.place = .headers
      · rw [if_pos hheaders, if_pos hheaders, ← hi']
        exact readHeaders_settles d' i' (htime _ rfl hheaders)
      · rw [if_neg hheaders, if_neg hheaders]
        exact .done none d' i' hi'
  | failed e d' i' hi' => exact .failed e d' i' hi'
  | broken w pulls =>
      cases ending with
      | ended | failed e | stalled => exact .broken w pulls

-- Whatever the answer to a question for a part is, if it is not a part.
theorem transcript_of_stop (ending : Ending) (w : Decoder) (hset : NextSettles ending w)
    (hnone : ∀ hs, (nextHead w).1 ≠ .done (some hs)) : SettledTranscript ending w := by
  have hstop : ∃ r, ((nextHead w).1.outcome ending).stop? = some r := by
    generalize (nextHead w).1 = a at hnone
    cases a with
    | done hs =>
        cases hs with
        | none => exact ⟨_, rfl⟩
        | some hs => exact absurd rfl (hnone hs)
    | failed e => exact ⟨_, rfl⟩
    | more => cases ending <;> exact ⟨_, rfl⟩
  rcases hstop with ⟨r, hr⟩
  refine ⟨[], r, fun d i hw hi => .stopped ?_⟩
  rw [(hset d i hw hi).outcome_eq, hr]

/-- The part that begins here: its headers, and how its body is read. -/
structure PartHere (ending : Ending) (w w₁ : Decoder) (headers : Headers) : Prop where
  settles : NextSettles ending w
  found : nextHead w = (.done (some headers), w₁)
  inBody : w₁.place = .body

theorem PartHere.read {ending : Ending} {w w₁ : Decoder} {headers : Headers}
    (h : PartHere ending w w₁ headers) (d : Decoder) (i : Input) (hw : d.whole i = w)
    (hi : i.ending = ending) :
    ∃ d₁ i₁, d.nextPart i = (.done (some headers), d₁, i₁) ∧
      (d₁.readChunks i₁).1.flatten = w₁.buffer.take (bodyLength w₁) ∧
      Settles ending (bodyEnd w₁) (d₁.readChunks i₁).2 := by
  have hset := h.settles d i hw hi
  rw [h.found] at hset
  rcases hset.whole_eq with ⟨d₁, i₁, hnext, hw₁, hi₁⟩
  have hplace : d₁.place = .body := (congrArg Decoder.place hw₁).trans h.inBody
  have hchunks := readChunks_settles d₁ i₁ hplace
  rw [hw₁, hi₁] at hchunks
  exact ⟨d₁, i₁, hnext, hchunks⟩

-- A part that is read to its end is followed by what the rest of the body comes to.
theorem transcript_of_part {ending : Ending} {w w₁ w₂ : Decoder} {headers : Headers}
    (h : PartHere ending w w₁ headers) (hend : bodyEnd w₁ = (.done (), w₂))
    (hrest : SettledTranscript ending w₂) : SettledTranscript ending w := by
  rcases hrest with ⟨parts, r, hall⟩
  refine ⟨(headers, w₁.buffer.take (bodyLength w₁)) :: parts, r, fun d i hw hi => ?_⟩
  rcases h.read d i hw hi with ⟨d₁, i₁, hnext, hflatten, hset⟩
  rw [hend] at hset
  rcases hset.whole_eq with ⟨d₂, i₂, hbody, hw₂, hi₂⟩
  rw [← hflatten]
  exact .part hnext (Prod.ext rfl hbody) (hall d₂ i₂ hw₂ hi₂)

-- A part that breaks off is the last one.
theorem transcript_of_broken_part {ending : Ending} {w w₁ : Decoder} {headers : Headers}
    (h : PartHere ending w w₁ headers) (hend : (bodyEnd w₁).1 ≠ .done ()) :
    SettledTranscript ending w := by
  refine ⟨[(headers, w₁.buffer.take (bodyLength w₁))], (bodyEnd w₁).1.outcome ending,
    fun d i hw hi => ?_⟩
  rcases h.read d i hw hi with ⟨d₁, i₁, hnext, hflatten, hset⟩
  have houtcome : (bodyEnd w₁).1.outcome ending ≠ .done () := by
    generalize (bodyEnd w₁).1 = a at hend
    cases a with
    | done u => exact absurd rfl hend
    | failed e => rintro ⟨⟩
    | more => cases ending <;> rintro ⟨⟩
  rw [← hflatten]
  exact .broken hnext (Prod.ext rfl (Prod.ext hset.outcome_eq rfl)) houtcome

theorem transcript_of_nextHead (ending : Ending) (n : Nat) :
    ∀ w : Decoder, NextSettles ending w →
      (∀ hs w₁, nextHead w = (.done (some hs), w₁) →
        w₁.place = .body ∧ w₁.buffer.length < n ∧
          ∀ region, HeaderRegion w₁.delimiter w₁.buffer region → EndsInTime region) →
      SettledTranscript ending w := by
  induction n with
  | zero =>
      intro w hset hpart
      refine transcript_of_stop ending w hset fun hs h => ?_
      have hlength := (hpart hs (nextHead w).2 (Prod.ext h rfl)).2.1
      exact Nat.not_lt_zero _ hlength
  | succ n ih =>
      intro w hset hpart
      by_cases hfound : ∃ hs, (nextHead w).1 = .done (some hs)
      · rcases hfound with ⟨headers, hfound⟩
        rcases hnext : nextHead w with ⟨a, w₁⟩
        rw [hnext] at hfound
        dsimp only at hfound
        subst hfound
        rcases hpart headers w₁ hnext with ⟨hbody, hlength, htime⟩
        have hhere : PartHere ending w w₁ headers := ⟨hset, hnext, hbody⟩
        rcases hend : bodyEnd w₁ with ⟨b, w₂⟩
        by_cases hb : b = .done ()
        · subst hb
          refine transcript_of_part hhere hend ?_
          rcases bodyEnd_done w₁ w₂ hend with ⟨hdelimiter, hplace, hopened, hshorter⟩
          rcases hplace with hover | hheaders
          · refine transcript_of_stop ending w₂ (nextSettles_of_epilogue ending w₂ hover) ?_
            unfold nextHead
            rw [hover]
            rintro _ ⟨⟩
          · -- The next headers begin behind the boundary line, where the text shows them.
            have hopen := hopened hheaders
            refine ih w₂ (nextSettles_of_headers ending w₂ hheaders (htime _ (.first hopen)))
              fun hs w₃ h => ?_
            have hhead : nextHead w₂ = partHead w₂ := by
              unfold nextHead
              rw [hheaders]
            rcases regions_behind_part w₁.buffer w₂ w₃ (some hs) (hhead ▸ h)
              (by rw [hdelimiter]; exact hopen) (by rw [hdelimiter]; exact htime) with
              ⟨hbody', hlength', hlater⟩
            exact ⟨hbody', by omega, hlater⟩
        · exact transcript_of_broken_part hhere (by rw [hend]; exact hb)
      · exact transcript_of_stop ending w hset fun hs h => hfound ⟨hs, h⟩

theorem transcript_of_flatten (boundary : String) (body : Bytes) (ending : Ending)
    (htime : ∀ region, HeaderRegion (withBoundary boundary).delimiter (lineEnd ++ body) region →
      EndsInTime region) :
    ∃ parts r, ∀ i : Input, i.chunks.flatten = body → i.ending = ending →
      ∀ parts' r', Transcript (withBoundary boundary) i parts' r' ↔
        parts' = parts ∧ r' = r := by
  let w : Decoder := { withBoundary boundary with buffer := lineEnd ++ body }
  have hline : ∀ v, boundaryLine w = (.done (), v) → v.place = .headers →
      openedBy? w.delimiter w.buffer = some v.buffer :=
    fun v hv => (boundaryLine_done w v hv).2.2.1
  have hset : NextSettles ending w :=
    nextSettles_of_preamble ending w rfl fun v hv hplace => htime _ (.first (hline v hv hplace))
  have hsettled : SettledTranscript ending w := by
    refine transcript_of_nextHead ending (w.buffer.length + 1) w hset fun hs w₁ h => ?_
    have hplace : w.place = .preamble := rfl
    unfold nextHead at h
    rw [hplace] at h
    dsimp only at h
    rcases hv : boundaryLine w with ⟨a, v⟩
    rw [hv] at h
    cases a with
    | failed e => cases h
    | more => cases h
    | done u =>
        rcases boundaryLine_done w v hv with ⟨hdelimiter, _, hopened, hshorter⟩
        dsimp only at h
        by_cases hheaders : v.place = .headers
        · rw [if_pos hheaders] at h
          rcases regions_behind_part w.buffer v w₁ (some hs) h
            (by rw [hdelimiter]; exact hopened hheaders)
            (by rw [hdelimiter]; exact htime) with ⟨hbody, hlength, hlater⟩
          exact ⟨hbody, by omega, hlater⟩
        · rw [if_neg hheaders] at h
          cases h
  rcases hsettled with ⟨parts, r, hall⟩
  refine ⟨parts, r, fun i hflatten hending parts' r' => ?_⟩
  have hwhole : (withBoundary boundary).whole i = w := by
    unfold Decoder.whole
    rw [hflatten]
    rfl
  have htranscript := hall _ i hwhole hending
  constructor
  · exact htranscript.unique
  · rintro ⟨rfl, rfl⟩
    exact htranscript

/-- One part, and a boundary line that is none behind it. -/
def malformed : Bytes := Bytes.ofText "--b\r\nA: 1\r\n\r\none\r\n--b?!"

theorem malformed_in_six_chunks :
    let chunks := ["--", "b\r\nA: 1\r", "", "\n\r\non", "e\r", "\n--b?!"].map Bytes.ofText
    chunks.flatten = malformed ∧
      Transcript (withBoundary "b") ⟨chunks, .ended, 0⟩
        [([("a", Bytes.ofText "1")], Bytes.ofText "one")]
        (.failed (.decode "malformed boundary line")) := by
  intro chunks
  have hchunks : chunks.flatten = malformed := by decide +kernel
  have htime : ∀ region, HeaderRegion (withBoundary "b").delimiter (lineEnd ++ malformed) region →
      EndsInTime region :=
    fun region h => h.endsInTime (by decide +kernel)
  -- Read in one chunk, the body can be followed by computation.
  have hwhole : Transcript (withBoundary "b") ⟨[malformed], .ended, 0⟩
      [([("a", Bytes.ofText "1")], Bytes.ofText "one")]
      (.failed (.decode "malformed boundary line")) := by
    have hnext : (withBoundary "b").nextPart ⟨[malformed], .ended, 0⟩ =
        (.done (some [("a", Bytes.ofText "1")]),
          { buffer := Bytes.ofText "one\r\n--b?!", boundary := "b", place := .body },
          ⟨[], .ended, 1⟩) := rfl
    refine .broken hnext rfl ?_
    rintro ⟨⟩
  rcases transcript_of_flatten "b" malformed .ended htime with ⟨parts, r, hall⟩
  have hsame := (hall ⟨[malformed], .ended, 0⟩ (List.append_nil _) rfl _ _).1 hwhole
  exact ⟨hchunks, (hall ⟨chunks, .ended, 0⟩ hchunks rfl _ _).2 hsame⟩

end Multipart

end Http

end DemandNet
