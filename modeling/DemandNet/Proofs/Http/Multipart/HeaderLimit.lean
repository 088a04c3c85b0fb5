import DemandNet.Proofs.Http.Multipart.Calls
import DemandNet.Proofs.Http.Multipart.HeaderBlock
import DemandNet.Proofs.Http.Multipart.LastChunk

/-!
# The Limit on Part Headers

Which parts are refused for the size of their headers, over all bodies, chunks and calls.

A reader may take the chunks of a part one by one, read it at once, skip it or leave it
where it is, and ask for the next one. As long as that succeeds, the headers that would be
read next are headers of the body, and none of them had come before the last chunk: this
is `Standing`, and every call that succeeds keeps it. So whether they are refused depends
on the body and its chunks only, and not on what was called.

Headers that end in the chunk in which the limit is passed are accepted. With chunks of at
most `s` bytes every header block is refused that has more than `s` bytes above the limit,
and an end of four bytes belongs to it here.

## Main definitions

* `Standing`: Where a reader is that met no failure.
* `Answer.Succeeded`: An answer that is neither a failure nor a delay.

## Theorems

* `standing_run`: Calls that succeed keep the standing of a reader.
* `nextPart_of_standing`: What the next part comes to, by the body and its chunks.
* `overflows_of_small_chunks`: Small chunks leave little room above the limit.
* `part_headers_refused_if_overflow`: When the next part is refused for its headers.
-/

namespace DemandNet

namespace Http

namespace Multipart

open Decoder (isPaddingByte withBoundary)

/-- Where a reader of a body is that met no failure: the headers of the next part are
    those of a part of the body, and none of them had come before the last chunk. -/
structure Standing (boundary : String) (chunks : List Bytes) (d : Decoder) (i : Input) :
    Prop where
  delimiter_eq : d.delimiter = (withBoundary boundary).delimiter
  later : i.chunks <:+ chunks
  region : ∀ region, NextRegion d i region →
    HeaderRegion d.delimiter (lineEnd ++ chunks.flatten) region ∧
      Fresh chunks i.chunks region.length

/-! ### Regions -/

theorem HeaderRegion.snoc {delimiter text region rest next : Bytes}
    (h : HeaderRegion delimiter text region) (hrest : behindHeaders? region = some rest)
    (hnext : openedBy? delimiter rest = some next) : HeaderRegion delimiter text next := by
  induction h with
  | first hopen => exact .later hopen hrest (.first hnext)
  | later hopen hbehind _ ih => exact .later hopen hbehind (ih hrest)

theorem openedBy?_fits {delimiter text region : Bytes} (hne : delimiter ≠ [])
    (h : openedBy? delimiter text = some region) :
    region.length + delimiter.length ≤ text.length := by
  unfold openedBy? at h
  cases hfound : indexOf? delimiter text with
  | none =>
      rw [hfound] at h
      cases h
  | some n =>
      have hfit := ((indexOf?_eq_some _ _ _).1 hfound).length_le hne
      have hpadding : ((text.drop (n + delimiter.length)).dropWhile isPaddingByte).length ≤
          (text.drop (n + delimiter.length)).length := (List.dropWhile_suffix _).length_le
      rw [hfound] at h
      dsimp only at h
      split at h
      · rename_i rest hrest
        cases h
        rw [hrest, List.length_cons, List.length_cons, List.length_drop] at hpadding
        omega
      · cases h

theorem HeaderRegion.fits {delimiter text region : Bytes} (hne : delimiter ≠ [])
    (h : HeaderRegion delimiter text region) :
    region.length + delimiter.length ≤ text.length := by
  induction h with
  | first hopen => exact openedBy?_fits hne hopen
  | later hopen hrest _ ih =>
      have hbehind := behindHeaders?_length hrest
      have hopened := openedBy?_length hopen
      omega

/-! ### One operation -/

section Steps

variable {boundary : String} {chunks : List Bytes} {d d' : Decoder} {i i' : Input}

theorem standing_start (boundary : String) (i : Input) :
    Standing boundary i.chunks (withBoundary boundary) i where
  delimiter_eq := rfl
  later := List.suffix_refl _
  region := by
    rintro region (⟨hplace, _⟩ | ⟨_, hopen⟩)
    · cases hplace
    · exact ⟨.first hopen, List.suffix_refl _,
        fun l hl hlength => absurd hl.length_le (Nat.not_le.2 hlength)⟩

-- Behind the last boundary line there are no headers any more.
theorem Standing.of_epilogue (hd : d.delimiter = (withBoundary boundary).delimiter)
    (hi : i.chunks <:+ chunks) (hplace : d.place = .epilogue) :
    Standing boundary chunks d i where
  delimiter_eq := hd
  later := hi
  region := by
    rintro region (⟨h, _⟩ | ⟨h | h, _⟩) <;> rw [hplace] at h <;> cases h

-- Behind a delimiter that opens a part, the headers are those that the text shows.
theorem standing_suffix (hd : d.delimiter = (withBoundary boundary).delimiter)
    (hi : i.chunks <:+ chunks)
    (hregion : ∀ region, (d.whole i).buffer.dropWhile isPaddingByte = 13 :: 10 :: region →
      HeaderRegion d.delimiter (lineEnd ++ chunks.flatten) region ∧
        Fresh chunks i.chunks region.length)
    (h : d.run Decoder.suffixAttempt i = (.done (), d', i')) :
    Standing boundary chunks d' i' := by
  have hset := steady_suffix.settles d i trivial
  rw [h] at hset
  rcases suffixAttempt_done _ _ hset.done_eq.1 with ⟨hdelimiter, _, hplace⟩
  have hd' : d'.delimiter = d.delimiter := hdelimiter
  rcases run_fresh leaves_suffix h with ⟨hi', hlast⟩
  rcases hplace with hover | ⟨hheaders, hopen⟩
  · exact .of_epilogue (hd'.trans hd) (hi'.trans hi) hover
  · have hplace' : d'.place = .headers := hheaders
    refine ⟨hd'.trans hd, hi'.trans hi, ?_⟩
    rintro region (⟨_, rfl⟩ | ⟨hline | hline, _⟩)
    · rcases hregion _ hopen with ⟨hin, hfresh⟩
      rw [hd']
      refine ⟨hin, ?_⟩
      rcases hlast with ⟨hsame, _⟩ | hlast
      · rw [hsame]
        exact hfresh
      · exact hlast chunks hi
    · cases hline.symm.trans hplace'
    · cases hline.symm.trans hplace'

-- A delimiter was dropped, and what follows it is looked at.
theorem standing_delimiter {n : Nat} {d₁ : Decoder} {i₁ : Input}
    (h : Standing boundary chunks d i) (hplace : d.place = .preamble ∨ d.place = .body)
    (hfound : indexOf? d.delimiter (d.whole i).buffer = some n)
    (hrest : d₁.whole i₁ = (d.whole i).advance (n + d.delimiter.length))
    (hi₁ : i₁.chunks <:+ i.chunks)
    (hlast : i₁.chunks = i.chunks ∨ ∀ chunks, i.chunks <:+ chunks →
      Fresh chunks i₁.chunks (d₁.whole i₁).buffer.length)
    (hsuffix : d₁.run Decoder.suffixAttempt i₁ = (.done (), d', i')) :
    Standing boundary chunks d' i' := by
  have hdelimiter := congrArg Decoder.delimiter hrest
  have hd₁ : d₁.delimiter = d.delimiter := hdelimiter
  refine standing_suffix (hd₁.trans h.delimiter_eq) (hi₁.trans h.later) (fun region hopen => ?_)
    hsuffix
  have hopened : openedBy? d.delimiter (d.whole i).buffer = some region := by
    rw [hrest, Decoder.advance] at hopen
    unfold openedBy?
    rw [hfound]
    dsimp only at hopen ⊢
    rw [hopen]
    rfl
  rcases h.region region (.inr ⟨hplace, hopened⟩) with ⟨hin, hfresh⟩
  rw [hd₁]
  refine ⟨hin, ?_⟩
  rcases hlast with hsame | hlast
  · rw [hsame]
    exact hfresh
  · refine (hlast chunks h.later).mono ?_
    have hpadding : ((d₁.whole i₁).buffer.dropWhile isPaddingByte).length ≤
        (d₁.whole i₁).buffer.length := (List.dropWhile_suffix _).length_le
    rw [hopen, List.length_cons, List.length_cons] at hpadding
    omega

theorem standing_skip (h : Standing boundary chunks d i)
    (hplace : d.place = .preamble ∨ d.place = .body)
    (hskip : d.skipToDelimiter i = (.done (), d', i')) : Standing boundary chunks d' i' := by
  have hlook := skipToDelimiter_looks d i
  rw [hskip] at hlook
  generalize hr : ((.done (), d', i') : Outcome Unit × Decoder × Input) = r at hlook
  cases hlook with
  | delimiter hrun hfound hrest hsuffix =>
      cases hr
      rcases run_fresh leaves_skip hrun with ⟨hi₁, hlast⟩
      exact standing_delimiter h hplace hfound hrest hi₁ (hlast.imp_left And.left) hsuffix
  | broken hfound => cases hending : i.ending <;> rw [hending] at hr <;> cases hr

-- Behind the headers, the next ones are those behind them in the body.
theorem standing_headers {headers : Headers} (h : Standing boundary chunks d i)
    (hplace : d.place = .headers) (hread : d.readHeaders i = (.done (some headers), d', i')) :
    Standing boundary chunks d' i' := by
  have hset : Settles i.ending (partHead (d.whole i)) (d.readHeaders i) := by
    refine readHeaders_of_not_overflows d i fun hover => ?_
    have hfailed := readHeaders_of_overflows d i hover
    rw [hread] at hfailed
    cases hfailed
  rw [hread] at hset
  rcases partHead_done _ _ _ hset.done_eq.1 with ⟨hbody, hdelimiter, hlength, hbehind⟩
  have hd' : d'.delimiter = d.delimiter := hdelimiter
  have hplace' : d'.place = .body := hbody
  rcases h.region _ (.inl ⟨hplace, rfl⟩) with ⟨hin, hfresh⟩
  have htaken : i'.chunks <:+ i.chunks ∧ Fresh chunks i'.chunks (d'.whole i').buffer.length := by
    unfold Decoder.readHeaders at hread
    rcases hrun : d.run Decoder.headersAttempt i with ⟨a | e | _, d₁, i₁⟩ <;>
      rw [hrun] at hread <;> cases hread
    rcases run_fresh leaves_headers hrun with ⟨hi', hlast⟩
    refine ⟨hi', ?_⟩
    rcases hlast with ⟨hsame, _⟩ | hlast
    · rw [hsame]
      exact hfresh.mono hlength
    · exact hlast chunks h.later
  refine ⟨hd'.trans h.delimiter_eq, htaken.1.trans h.later, ?_⟩
  rintro region (⟨hheaders, _⟩ | ⟨_, hopen⟩)
  · cases hheaders.symm.trans hplace'
  · change openedBy? d'.delimiter _ = _ at hopen
    rw [hd'] at hopen ⊢
    exact ⟨hin.snoc hbehind hopen, htaken.2.mono (openedBy?_length hopen)⟩

theorem standing_nextPart {a : Option Headers} (h : Standing boundary chunks d i)
    (hnext : d.nextPart i = (.done a, d', i')) : Standing boundary chunks d' i' := by
  have hheaders : ∀ {d i}, Standing boundary chunks d i → d.place = .headers →
      (.done a, d', i') = d.readHeaders i → Standing boundary chunks d' i' := by
    intro d i h hplace hread
    cases a with
    | some headers => exact standing_headers h hplace hread.symm
    | none =>
        unfold Decoder.readHeaders at hread
        split at hread <;> cases hread
  have hlook := nextPart_looks d i
  rw [hnext] at hlook
  generalize hr : ((.done a, d', i') : Outcome (Option Headers) × Decoder × Input) = r at hlook
  cases hlook with
  | ended hplace =>
      cases hr
      exact h
  | here hplace => exact hheaders h hplace hr
  | opened hplace hskip hopen => exact hheaders (standing_skip h hplace hskip) hopen hr
  | @closed u _ _ hplace hskip _ =>
      cases u <;> cases hr
      exact standing_skip h hplace hskip

-- A chunk of a body moves the delimiter behind it, and nothing behind that.
theorem standing_chunk {bs : Bytes} {n : Nat} (h : Standing boundary chunks d i)
    (hplace : d.place = .body)
    (hrun : d.run Decoder.bodyAttempt i = (.done (.chunk bs), d', i'))
    (hfound : indexOf? d.delimiter (d.whole i).buffer =
      (indexOf? d.delimiter ((d.whole i).buffer.drop n)).map (n + ·))
    (hrest : d'.whole i' = (d.whole i).advance n) : Standing boundary chunks d' i' := by
  rcases run_fresh leaves_body hrun with ⟨hi', hlast⟩
  have hdelimiter := congrArg Decoder.delimiter hrest
  have hd' : d'.delimiter = d.delimiter := hdelimiter
  refine ⟨hd'.trans h.delimiter_eq, hi'.trans h.later, ?_⟩
  rintro region (⟨hheaders, _⟩ | ⟨_, hopen⟩)
  · have hplace' := congrArg Decoder.place hrest
    have hbody : d'.place = .body := hplace'.trans hplace
    cases hheaders.symm.trans hbody
  · have hfits := openedBy?_fits (delimiter_ne_nil d') hopen
    rw [hd'] at hopen
    have hopened : openedBy? d.delimiter (d.whole i).buffer = some region := by
      rw [hrest, Decoder.advance] at hopen
      unfold openedBy? at hopen ⊢
      dsimp only at hopen
      rw [hfound]
      cases hf : indexOf? d.delimiter ((d.whole i).buffer.drop n) with
      | none =>
          rw [hf] at hopen
          cases hopen
      | some m =>
          rw [hf] at hopen
          dsimp only [Option.map_some] at hopen ⊢
          rwa [List.drop_drop, ← Nat.add_assoc] at hopen
    rcases h.region region (.inr ⟨.inr hplace, hopened⟩) with ⟨hin, hfresh⟩
    rw [hd']
    refine ⟨hin, ?_⟩
    rcases hlast with ⟨hsame, _⟩ | hlast
    · rw [hsame]
      exact hfresh
    · refine (hlast chunks h.later).mono ?_
      unfold bodySlack
      rw [if_neg (by rintro ⟨⟩)]
      omega

theorem standing_bodyChunk {a : Option Bytes} (h : Standing boundary chunks d i)
    (hchunk : d.bodyChunk i = (.done a, d', i')) : Standing boundary chunks d' i' := by
  have hlook := bodyChunk_looks d i
  rw [hchunk] at hlook
  generalize hr : ((.done a, d', i') : Outcome (Option Bytes) × Decoder × Input) = r at hlook
  cases hlook with
  | outside _ =>
      cases hr
      exact h
  | chunk hplace hrun _ _ hfound hrest =>
      cases hr
      exact standing_chunk h hplace hrun hfound hrest
  | @delimiter d₁ _ i₁ _ u hplace hrun hfound hrest hsuffix =>
      cases u <;> cases hr
      rcases run_fresh leaves_body hrun with ⟨hi₁, hlast⟩
      refine standing_delimiter h (.inr hplace) hfound ?_ hi₁ (hlast.imp_left And.left) hsuffix
      rwa [Nat.zero_add]
  | broken _ _ _ => cases hending : i.ending <;> rw [hending] at hr <;> cases hr

/-! ### Calls -/

theorem standing_readChunks {bs : List Bytes} (h : Standing boundary chunks d i)
    (hread : d.readChunks i = (bs, .done (), d', i')) : Standing boundary chunks d' i' := by
  have hchunk : ∀ d i bs d' i', Standing boundary chunks d i →
      d.bodyChunk i = (.done (some bs), d', i') → Standing boundary chunks d' i' :=
    fun d i bs d' i' h hlook => standing_bodyChunk h hlook
  rcases chunksUpTo_last hchunk (d.remaining i + 1) d i h with ⟨d₁, i₁, h₁, hlast⟩
  have hresult : (d.chunksUpTo i (d.remaining i + 1)).2 = (.done (), d', i') := by
    unfold Decoder.readChunks at hread
    rw [hread]
  rw [hresult] at hlast
  rcases hlast with hlast | ⟨_, hlast⟩
  · cases hlast
    exact h₁
  · rcases hlook : d₁.bodyChunk i₁ with ⟨a | e | _, d₂, i₂⟩ <;> rw [hlook] at hlast <;>
      cases hlast
    exact standing_bodyChunk h₁ hlook

theorem standing_move {a : Answer} (h : Standing boundary chunks d i) (hmove : Move d i a d' i')
    (ha : a.Succeeded) : Standing boundary chunks d' i' := by
  cases hmove with
  | still _ _ => exact h
  | @next a _ _ hnext =>
      cases a with
      | done a => exact standing_nextPart h hnext
      | failed e => cases ha
      | stalled => cases ha
  | @chunk a _ _ hchunk =>
      cases a with
      | done a => exact standing_bodyChunk h hchunk
      | failed e => cases ha
      | stalled => cases ha
  | @all _ bs u _ _ hread hsay =>
      have hu : u = .done () := by
        rcases hsay with ⟨_, hu⟩ | hsay
        · exact hu
        · subst hsay
          cases u with
          | done u => rfl
          | failed e => cases ha
          | stalled => cases ha
      subst hu
      exact standing_readChunks h hread

theorem standing_run (calls : List Call) : ∀ r : Reader,
    Standing boundary chunks r.decoder r.input → (∀ a ∈ (r.run calls).1, a.Succeeded) →
      Standing boundary chunks (r.run calls).2.decoder (r.run calls).2.input := by
  induction calls with
  | nil => exact fun r h _ => h
  | cons c rest ih =>
      intro r h hall
      have hall : ∀ a ∈ (r.call c).1 :: ((r.call c).2.run rest).1, a.Succeeded := hall
      rw [List.forall_mem_cons] at hall
      exact ih (r.call c).2 (standing_move h (call_moves r c) hall.1) hall.2

/-! ### The next part -/

-- The headers of the next part are read where they begin.
theorem nextPart_of_standing {region : Bytes} (h : Standing boundary chunks d i)
    (hregion : NextRegion d i region) :
    ∃ d₁ i₁, Standing boundary chunks d₁ i₁ ∧ d₁.place = .headers ∧
      (d₁.whole i₁).buffer = region ∧ d.nextPart i = d₁.readHeaders i₁ := by
  have hline : d.place = .preamble ∨ d.place = .body → ∀ u d₁ i₁,
      d.skipToDelimiter i = (u, d₁, i₁) →
        u = .done () ∧ d₁.place = .headers ∧ (d₁.whole i₁).buffer = region := by
    intro hplace u d₁ i₁ hskip
    rcases hregion with ⟨hheaders, _⟩ | ⟨_, hopen⟩
    · rw [hheaders] at hplace
      rcases hplace with hplace | hplace <;> cases hplace
    · have hset := skipToDelimiter_settles d i
      rw [boundaryLine_of_opened _ _ hopen] at hset
      rcases hset.whole_eq with ⟨d₂, i₂, hskip₂, hw, _⟩
      rw [hskip] at hskip₂
      cases hskip₂
      have hplace₁ := congrArg Decoder.place hw
      exact ⟨rfl, hplace₁, congrArg Decoder.buffer hw⟩
  have hlook := nextPart_looks d i
  generalize hr : d.nextPart i = r at hlook
  cases hlook with
  | ended hplace =>
      rcases hregion with ⟨hother, _⟩ | ⟨hother | hother, _⟩ <;> rw [hplace] at hother <;>
        cases hother
  | here hplace =>
      rcases hregion with ⟨_, hbuffer⟩ | ⟨hother | hother, _⟩
      · exact ⟨d, i, h, hplace, hbuffer, rfl⟩
      · cases hother.symm.trans hplace
      · cases hother.symm.trans hplace
  | @opened d₁ i₁ hplace hskip hopen =>
      exact ⟨d₁, i₁, standing_skip h hplace hskip, hopen, (hline hplace _ _ _ hskip).2.2, rfl⟩
  | closed hplace hskip hclosed =>
      rcases hline hplace _ _ _ hskip with ⟨hu, hheaders, _⟩
      exact absurd hheaders (hclosed hu)

end Steps

/-- The answer to a question for a part whose header block reads like this. -/
def Answer.ofParse : Except NetError Headers → Answer
  | .ok headers => .part headers
  | .error e => .failed e

theorem answer_of_overflows {boundary : String} {chunks : List Bytes} {r : Reader}
    {region : Bytes} (h : Standing boundary chunks r.decoder r.input)
    (hregion : NextRegion r.decoder r.input region) (hover : Overflows chunks region) :
    (r.call .nextPart).1 = .failed tooLarge := by
  rcases nextPart_of_standing h hregion with ⟨d₁, i₁, h₁, hplace, hbuffer, hnext⟩
  have hfresh := (h₁.region region (.inl ⟨hplace, hbuffer⟩)).2
  rw [← overflows_congr hfresh.later hfresh.last, ← hbuffer] at hover
  rw [call_nextPart, hnext, readHeaders_of_overflows d₁ i₁ hover]
  rfl

theorem answer_of_not_overflows {boundary : String} {chunks : List Bytes} {r : Reader}
    {region : Bytes} {n : Nat} (h : Standing boundary chunks r.decoder r.input)
    (hregion : NextRegion r.decoder r.input region) (hfirst : ¬ lineEnd <+: region)
    (hn : indexOf? (lineEnd ++ lineEnd) region = some n) (hnot : ¬ Overflows chunks region) :
    (r.call .nextPart).1 = .ofParse (parseHeaders (region.take n)) := by
  rcases nextPart_of_standing h hregion with ⟨d₁, i₁, h₁, hplace, hbuffer, hnext⟩
  have hfresh := (h₁.region region (.inl ⟨hplace, hbuffer⟩)).2
  rw [← overflows_congr hfresh.later hfresh.last, ← hbuffer] at hnot
  have hset := readHeaders_of_not_overflows d₁ i₁ hnot
  rw [← hbuffer] at hfirst hn ⊢
  rw [call_nextPart, hnext, hset.outcome_eq]
  unfold partHead
  rw [headersAttempt_some _ n hfirst hn]
  cases parseHeaders ((d₁.whole i₁).buffer.take n) <;> rfl


/-! ### Small chunks -/

-- Between two moments no more comes than a chunk, so one of them is between two bounds.
theorem exists_arrived {text : Bytes} {chunks : List Bytes} {s e : Nat}
    (hsmall : ∀ chunk ∈ chunks, chunk.length ≤ s) (hstart : arrived text chunks ≤ maxHeaderBytes)
    (he : maxHeaderBytes + s < e) (hlength : e ≤ text.length) :
    ∃ rest, rest <:+ chunks ∧ maxHeaderBytes < arrived text rest ∧ arrived text rest < e := by
  induction chunks with
  | nil =>
      unfold arrived at hstart
      rw [List.flatten_nil, List.length_nil] at hstart
      omega
  | cons chunk rest ih =>
      rw [List.forall_mem_cons] at hsmall
      by_cases hlong : maxHeaderBytes < arrived text rest
      · refine ⟨rest, List.suffix_cons chunk rest, hlong, ?_⟩
        have hchunk := hsmall.1
        unfold arrived at hstart ⊢
        rw [List.flatten_cons, List.length_append] at hstart
        omega
      · rcases ih hsmall.2 (Nat.not_lt.1 hlong) with ⟨l, hl, hbounds⟩
        exact ⟨l, hl.trans (List.suffix_cons chunk rest), hbounds⟩

theorem overflows_of_small_chunks {region : Bytes} {chunks : List Bytes} {n s : Nat}
    (hfirst : ¬ lineEnd <+: region) (hn : indexOf? (lineEnd ++ lineEnd) region = some n)
    (hsmall : ∀ chunk ∈ chunks, chunk.length ≤ s)
    (hstart : region.length ≤ chunks.flatten.length) (hlong : maxHeaderBytes + s < n + 4) :
    Overflows chunks region := by
  have hend : n + 4 ≤ region.length := ((indexOf?_eq_some _ _ _).1 hn).length_le (by rintro ⟨⟩)
  have hnone : arrived region chunks ≤ maxHeaderBytes := by
    unfold arrived
    omega
  rcases exists_arrived hsmall hnone hlong hend with ⟨rest, hrest, hover, hearly⟩
  refine ⟨hfirst, rest, hrest, hover, fun m hm => ?_⟩
  rw [hn, Option.some_inj] at hm
  rwa [← hm]

-- A region lies behind a delimiter, so the chunks hold all of it.
theorem HeaderRegion.length_le_chunks {boundary : String} {chunks : List Bytes} {region : Bytes}
    (h : HeaderRegion (withBoundary boundary).delimiter (lineEnd ++ chunks.flatten) region) :
    region.length ≤ chunks.flatten.length := by
  have hfits := h.fits (delimiter_ne_nil _)
  have hdelimiter : 4 ≤ (withBoundary boundary).delimiter.length := by
    unfold Decoder.delimiter
    rw [List.length_append]
    exact Nat.le_add_right _ _
  have htwo : lineEnd.length = 2 := rfl
  rw [List.length_append] at hfits
  omega

-- A reader whose calls succeeded gets the next part unless its headers overflow, and no
-- part otherwise. With small chunks, headers overflow that are longer than the limit by
-- more than a chunk.
theorem part_headers_refused_if_overflow (boundary : String) (input : Input)
    (calls : List Call)
    (hcalls : ∀ a ∈ ((Reader.start boundary input).run calls).1, a.Succeeded) :
    let r := ((Reader.start boundary input).run calls).2
    (∀ headers, (r.call .nextPart).1 = .part headers →
      ∃ region, NextRegion r.decoder r.input region ∧ ¬ Overflows input.chunks region) ∧
    ∀ region, NextRegion r.decoder r.input region →
      HeaderRegion (withBoundary boundary).delimiter (lineEnd ++ input.chunks.flatten)
        region ∧
      (Overflows input.chunks region → (r.call .nextPart).1 = .failed tooLarge) ∧
      ∀ n, ¬ lineEnd <+: region → indexOf? (lineEnd ++ lineEnd) region = some n →
        (¬ Overflows input.chunks region →
          (r.call .nextPart).1 = .ofParse (parseHeaders (region.take n))) ∧
        ∀ s, (∀ chunk ∈ input.chunks, chunk.length ≤ s) → maxHeaderBytes + s < n + 4 →
          Overflows input.chunks region := by
  intro r
  have h : Standing boundary input.chunks r.decoder r.input :=
    standing_run calls _ (standing_start boundary input) hcalls
  constructor
  · intro headers hpart
    have hnext := call_nextPart r ▸ hpart
    rcases nextRegion_of_part (Answer.ofNext_eq_part hnext) with ⟨region, hregion⟩
    refine ⟨region, hregion, fun hover => ?_⟩
    rw [answer_of_overflows h hregion hover] at hpart
    cases hpart
  · intro region hregion
    have hin := (h.region region hregion).1
    rw [h.delimiter_eq] at hin
    refine ⟨hin, answer_of_overflows h hregion, fun n hfirst hn => ⟨?_, fun s hsmall hlong => ?_⟩⟩
    · exact answer_of_not_overflows h hregion hfirst hn
    · exact overflows_of_small_chunks hfirst hn hsmall hin.length_le_chunks hlong

/-- Two parts, the headers of the second in two chunks. -/
def twoHeads : Input where
  chunks := ["--b\r\nx: 1\r\n\r\none\r\n--b\r\ny", ": 2\r\n\r\ntwo\r\n--b--"].map Bytes.ofText
  ending := .ended
  pulls := 0

theorem second_part_within_limit :
    let first := (Reader.start "b" twoHeads).run [.nextPart, .bytes]
    (∀ a ∈ first.1, a.Succeeded) ∧
      (first.2.call .nextPart).1 = .part [("y", Bytes.ofText "2")] := by
  have hcalls : ∀ a ∈ ((Reader.start "b" twoHeads).run [.nextPart, .bytes]).1, a.Succeeded := by
    have hanswers : ((Reader.start "b" twoHeads).run [.nextPart, .bytes]).1 =
        [.part [("x", Bytes.ofText "1")], .bytes (Bytes.ofText "one")] := by decide +kernel
    rw [hanswers]
    rintro a (_ | ⟨_, _ | ⟨_, ⟨⟩⟩⟩) <;> trivial
  have hmain := part_headers_refused_if_overflow "b" twoHeads [.nextPart, .bytes] hcalls
  refine ⟨hcalls, ?_⟩
  generalize hr : ((Reader.start "b" twoHeads).run [.nextPart, .bytes]).2 = r at hmain ⊢
  have hregion : NextRegion r.decoder r.input (Bytes.ofText "y: 2\r\n\r\ntwo\r\n--b--") := by
    rw [← hr]
    exact .inl ⟨by decide +kernel, by decide +kernel⟩
  have hn : indexOf? (lineEnd ++ lineEnd) (Bytes.ofText "y: 2\r\n\r\ntwo\r\n--b--") = some 4 := by
    decide +kernel
  have hparse : Answer.ofParse (parseHeaders ((Bytes.ofText "y: 2\r\n\r\ntwo\r\n--b--").take 4)) =
      .part [("y", Bytes.ofText "2")] := by decide +kernel
  rw [← hparse]
  refine (((hmain.2 _ hregion).2.2 4 (by decide +kernel) hn).1 fun hover => ?_)
  exact absurd hover.length_lt (by decide +kernel)

/-! ### A block that comes whole -/

theorem ofText_letters (n : Nat) :
    Bytes.ofText (String.ofList (List.replicate n 'a')) = List.replicate n 97 := by
  rw [Bytes.ofText_eq_flatMap, String.toList_ofList]
  induction n with
  | zero => rfl
  | succ n ih =>
      rw [List.replicate_succ, List.flatMap_cons, ih]
      rfl

theorem trim_letters (n : Nat) : Text.trim (List.replicate n 'a') = List.replicate n 'a' := by
  have hdrop : ∀ n, (List.replicate n 'a').dropWhile Text.isBlank = List.replicate n 'a' := by
    rintro (_ | n)
    · rfl
    · exact List.dropWhile_cons_of_neg (by decide)
  unfold Text.trim Text.trimBy Text.trimEndBy
  rw [hdrop, List.reverse_replicate, hdrop, List.reverse_replicate]

/-- A header with a value of `n` letters. -/
def longField (n : Nat) : Field where
  name := "x"
  value := String.ofList (List.replicate n 'a')
  isToken := by decide +kernel
  isLegal := by
    rw [ofText_letters]
    exact List.all_replicate.trans (by cases n <;> rfl)
  isTrimmed := by
    rw [String.toList_ofList]
    exact trim_letters n

theorem length_longField (n : Nat) : (Bytes.ofText (longField n).line).length = n + 3 := by
  have hname : (Bytes.ofText ("x" ++ ": ")).length = 3 := by decide +kernel
  unfold Field.line
  rw [Bytes.ofText_append, List.length_append, show (longField n).name = "x" from rfl, hname,
    show (longField n).value = String.ofList (List.replicate n 'a') from rfl, ofText_letters,
    List.length_replicate, Nat.add_comm]

/-- One part with one header, up to the end of the header's line. -/
def headOf (f : Field) : Bytes := Bytes.ofText "--b\r\n" ++ Bytes.ofText f.line

/-- The rest of the part, and the end of the body. -/
def restOfPart : Bytes := lineEnd ++ lineEnd ++ Bytes.ofText "body\r\n--b--"

theorem nextRegion_headOf (f : Field) (chunks : List Bytes)
    (hchunks : chunks.flatten = headOf f ++ restOfPart) (ending : Ending) :
    NextRegion (withBoundary "b") ⟨chunks, ending, 0⟩ (Bytes.ofText f.line ++ restOfPart) := by
  refine .inr ⟨.inl rfl, ?_⟩
  have hwhole : ((withBoundary "b").whole ⟨chunks, ending, 0⟩).buffer =
      lineEnd ++ (Bytes.ofText "--b\r\n" ++ (Bytes.ofText f.line ++ restOfPart)) := by
    unfold Decoder.whole Decoder.feed
    rw [hchunks, headOf, List.append_assoc]
    rfl
  rw [hwhole]
  rfl

theorem lines_of_headOf (f : Field) :
    ¬ lineEnd <+: Bytes.ofText f.line ++ restOfPart ∧
      indexOf? (lineEnd ++ lineEnd) (Bytes.ofText f.line ++ restOfPart) =
        some (Bytes.ofText f.line).length :=
  ⟨lineEnd_not_prefix_blockText f [] restOfPart, indexOf?_blockText f [] _⟩

-- Whatever its length, a header that comes with its end is accepted.
theorem answer_headOf_whole (f : Field) (ending : Ending) :
    ((Reader.start "b" ⟨[headOf f ++ restOfPart], ending, 0⟩).call .nextPart).1 =
      .part [f.entry] := by
  rcases lines_of_headOf f with ⟨hfirst, hn⟩
  have hregion := nextRegion_headOf f [headOf f ++ restOfPart] (List.append_nil _) ending
  rw [answer_of_not_overflows (standing_start "b" _) hregion hfirst hn, List.take_left]
  · rw [show f.line = blockText [f] from rfl, parseHeaders_blockText f []]
    rfl
  · rintro ⟨_, rest, hrest, hlong, hearly⟩
    rcases List.suffix_cons_iff.1 hrest with rfl | hrest
    · -- Before the only chunk nothing has come.
      unfold arrived headOf at hlong
      rw [List.flatten_cons, List.flatten_nil, List.append_nil] at hlong
      simp only [List.length_append] at hlong
      omega
    · rw [List.suffix_nil.1 hrest] at hearly
      have hend := hearly _ hn
      have hlength : 4 ≤ restOfPart.length := by decide +kernel
      unfold arrived at hend
      rw [List.flatten_nil, List.length_nil, List.length_append] at hend
      omega

-- If the end comes with another chunk, a header over the limit is refused.
theorem answer_headOf_cut (f : Field) (ending : Ending)
    (hlong : maxHeaderBytes < (Bytes.ofText f.line).length) :
    ((Reader.start "b" ⟨[headOf f, restOfPart], ending, 0⟩).call .nextPart).1 =
      .failed tooLarge := by
  rcases lines_of_headOf f with ⟨hfirst, hn⟩
  have hregion := nextRegion_headOf f [headOf f, restOfPart] (by simp) ending
  refine answer_of_overflows (standing_start "b" _) hregion
    ⟨hfirst, [restOfPart], List.suffix_cons _ _, ?_, fun m hm => ?_⟩
  · unfold arrived
    rwa [List.flatten_cons, List.flatten_nil, List.append_nil, List.length_append,
      Nat.add_sub_cancel]
  · rw [hn, Option.some_inj] at hm
    unfold arrived
    rw [List.flatten_cons, List.flatten_nil, List.append_nil, List.length_append,
      Nat.add_sub_cancel, hm]
    omega

theorem oversized_headers_accepted :
    maxHeaderBytes < (Bytes.ofText (longField 16382).line).length ∧
      ((Reader.start "b" ⟨[headOf (longField 16382) ++ restOfPart], .ended, 0⟩).call
        .nextPart).1 = .part [(longField 16382).entry] ∧
      ((Reader.start "b" ⟨[headOf (longField 16382), restOfPart], .ended, 0⟩).call
        .nextPart).1 = .failed tooLarge := by
  have hlong : maxHeaderBytes < (Bytes.ofText (longField 16382).line).length := by
    rw [length_longField]
    decide
  exact ⟨hlong, answer_headOf_whole _ _, answer_headOf_cut _ _ hlong⟩

end Multipart

end Http

end DemandNet
