import DemandNet.Proofs.Http.Multipart.HeaderBlock
import DemandNet.Proofs.Http.Multipart.PartBody

/-!
# Reading Back What Was Sent

Parts in the standard form of a body are read back as they were, however the body was
cut into chunks.

The standard form is a preamble, then for each part a boundary line, the header lines,
an empty line and the body, and in the end a boundary line with two dashes and an
epilogue. The line end in front of a boundary belongs to the boundary, which is why the
preamble has to end in one, and why a body may end in any way.

The proof follows the parts. Behind each boundary line the decoder, taken together with
the input that has not arrived, is exactly `Message.behind` of the parts that are left.
From there one request for the headers and one for the body lead behind the next
boundary line. What comes earlier does not matter any more, so the induction is on the
parts that are left.

## Main definitions

* `Part`, `Message`: What can be sent, and the boundary that it can be sent with.
* `Message.encode`: The standard form.
* `Yields`: What asking for one part after the other, and for its whole body, gives.
* `Message.behind`: A decoder behind a boundary line, with all its input.

## Theorems

* `suffix_following`: A boundary line leads to the next part, or to the end.
* `headers_behind`, `body_behind`: The headers and the body of the next part.
* `yields_behind`: What is read behind a boundary line.
* `yields_encode`: The parts that were sent, in order, and no more.
-/

namespace DemandNet

namespace Http

namespace Multipart

open Decoder (isPaddingByte withBoundary)

/-- A part that can be sent with this boundary: its header block is not too large, and
    its body does not contain the delimiter. The padding stands in its boundary line. -/
structure Part (boundary : String) where
  padding : Bytes
  isPadding : ∀ b ∈ padding, isPaddingByte b = true
  headers : List Field
  isShort : (Bytes.ofText (blockText headers)).length ≤ 16381
  body : Bytes
  isFree : ¬ (withBoundary boundary).delimiter <:+: body

/-- What a reader gets of a part. -/
def Part.content {boundary : String} (p : Part boundary) : Headers × Bytes :=
  (p.headers.map Field.entry, p.body)

/-- A body in parts that can be sent. The preamble consists of whole lines, and no
    delimiter begins in it; the line end in front of it is the one that a body need not
    have. -/
structure Message where
  boundary : String
  isLine : '\r' ∉ boundary.toList ∧ '\n' ∉ boundary.toList
  preamble : Bytes
  isLines : preamble = [] ∨ lineEnd <:+ preamble
  isFree : ¬ (withBoundary boundary).delimiter <:+: lineEnd ++ preamble
  parts : List (Part boundary)
  padding : Bytes
  isPadding : ∀ b ∈ padding, isPaddingByte b = true
  epilogue : Bytes

namespace Message

/-- What separates the parts. -/
def delimiter (m : Message) : Bytes := (withBoundary m.boundary).delimiter

/-- What follows a boundary: parts, and the end of the body. -/
def following (m : Message) : List (Part m.boundary) → Bytes
  | [] => m.padding ++ (dashes ++ m.epilogue)
  | p :: ps =>
      p.padding ++ (lineEnd ++ (headerLines p.headers ++ (lineEnd ++
        (p.body ++ (m.delimiter ++ m.following ps)))))

/-- The standard form of a body in parts. -/
def encode (m : Message) : Bytes :=
  m.preamble ++ (dashes ++ (Bytes.ofText m.boundary ++ m.following m.parts))

/-- A decoder behind a boundary line, with all its input, and with parts to come. -/
def behind (m : Message) : List (Part m.boundary) → Decoder
  | [] => { buffer := m.epilogue, boundary := m.boundary, place := .epilogue }
  | p :: ps =>
      { buffer := headerLines p.headers ++ (lineEnd ++
          (p.body ++ (m.delimiter ++ m.following ps)))
        boundary := m.boundary
        place := .headers }

end Message

/-- Asking for one part after the other, and for the whole body of each, gives these
    headers and bodies, and then no more parts. -/
inductive Yields : Decoder → Input → List (Headers × Bytes) → Prop where
  | none {d d' : Decoder} {i i' : Input} (h : d.nextPart i = (.done none, d', i')) :
      Yields d i []
  | part {d d₁ d₂ : Decoder} {i i₁ i₂ : Input} {hs : Headers} {bs : Bytes}
      {rest : List (Headers × Bytes)}
      (hnext : d.nextPart i = (.done (some hs), d₁, i₁))
      (hbody : d₁.readBody i₁ = (.done bs, d₂, i₂))
      (hrest : Yields d₂ i₂ rest) : Yields d i ((hs, bs) :: rest)

/-! ### Operations on the whole input -/

theorem skipToDelimiter_done (d w : Decoder) (i : Input) (n : Nat)
    (hfound : indexOf? d.delimiter (d.whole i).buffer = some n)
    (hsuffix : ((d.whole i).advance (n + d.delimiter.length)).suffixAttempt = (.done (), w)) :
    ∃ d' i', d.skipToDelimiter i = (.done (), d', i') ∧ d'.whole i' = w := by
  have hskip : (d.whole i).skipAttempt =
      (.done (), (d.whole i).advance (n + d.delimiter.length)) :=
    skipAttempt_some (d.whole i) n hfound
  rcases steady_skip.run_done d _ i () trivial hskip with ⟨d₁, i₁, hrun, hwhole⟩
  rw [← hwhole] at hsuffix
  rcases steady_suffix.run_done d₁ w i₁ () trivial hsuffix with ⟨d₂, i₂, hrun', hwhole'⟩
  refine ⟨d₂, i₂, ?_, hwhole'⟩
  unfold Decoder.skipToDelimiter
  rw [hrun]
  exact hrun'

theorem readHeaders_done (d w : Decoder) (i : Input) (hs : Headers)
    (hshort : ShortHeaders (d.whole i)) (h : (d.whole i).headersAttempt = (.done hs, w)) :
    ∃ d' i', d.readHeaders i = (.done (some hs), d', i') ∧
      d'.whole i' = { w with place := .body } := by
  rcases steady_headers.run_done d w i hs hshort h with ⟨d', i', hrun, hwhole⟩
  refine ⟨{ d' with place := .body }, i', ?_, ?_⟩
  · unfold Decoder.readHeaders
    rw [hrun]
  · rw [← hwhole]
    rfl

theorem Yields.of_nextPart_eq {d d' : Decoder} {i i' : Input} {parts : List (Headers × Bytes)}
    (h : d.nextPart i = d'.nextPart i') (hy : Yields d' i' parts) : Yields d i parts := by
  cases hy with
  | none hn => exact .none (h.trans hn)
  | part hnext hbody hrest => exact .part (h.trans hnext) hbody hrest

/-! ### Behind a boundary line -/

namespace Message

variable (m : Message)

-- The boundary holds no carriage return, so the delimiter has one only in front.
theorem indexOf?_delimiter (s x : Bytes) (h : ¬ m.delimiter <:+: s) :
    indexOf? m.delimiter (s ++ (m.delimiter ++ x)) = some s.length := by
  have hboundary := Bytes.not_mem_ofText m.boundary '\r' (by decide) m.isLine.1
  have hreturn : (13 : UInt8) ∉ (10 :: 45 :: 45 :: Bytes.ofText m.boundary) := by
    simp only [List.mem_cons, not_or]
    exact ⟨by decide, by decide, by decide, hboundary⟩
  rw [← List.append_assoc]
  exact indexOf?_unbordered 13 _ s x hreturn h

theorem dropWhile_padding (pad x : Bytes) (b : UInt8) (hpad : ∀ c ∈ pad, isPaddingByte c = true)
    (hb : isPaddingByte b = false) : (pad ++ b :: x).dropWhile isPaddingByte = b :: x := by
  rw [List.dropWhile_append_of_pos hpad, List.dropWhile_cons_of_neg]
  rw [hb]
  exact Bool.false_ne_true

theorem suffix_following (place : Place) (ps : List (Part m.boundary)) :
    ({ buffer := m.following ps, boundary := m.boundary, place } : Decoder).suffixAttempt =
      (.done (), m.behind ps) := by
  cases ps with
  | nil =>
      rw [suffixAttempt_long _ 45 45 m.epilogue
        (dropWhile_padding m.padding _ 45 m.isPadding rfl),
        if_pos (show dashes = [45, 45] from rfl)]
      rfl
  | cons p rest =>
      rw [suffixAttempt_long _ 13 10 _ (dropWhile_padding p.padding _ 13 p.isPadding rfl),
        if_neg (by decide), if_pos (show lineEnd = [13, 10] from rfl)]
      rfl

theorem headersAttempt_lines (d : Decoder) (fs : List Field) (x : Bytes)
    (hbuffer : d.buffer = headerLines fs ++ (lineEnd ++ x))
    (hshort : (Bytes.ofText (blockText fs)).length ≤ 16381) :
    ShortHeaders d ∧
      d.headersAttempt = (.done (fs.map Field.entry), { d with buffer := x }) := by
  cases fs with
  | nil =>
      have hempty : lineEnd <+: d.buffer := ⟨x, hbuffer.symm⟩
      refine ⟨.inl hempty, ?_⟩
      rw [headersAttempt_empty d hempty, Decoder.advance, hbuffer]
      rfl
  | cons f rest =>
      have hblock : d.buffer =
          Bytes.ofText (blockText (f :: rest)) ++ (lineEnd ++ lineEnd ++ x) := by
        rw [hbuffer, headerLines_eq, List.append_assoc, List.append_assoc]
      have hfirst : ¬ lineEnd <+: d.buffer := by
        rw [hblock]
        exact lineEnd_not_prefix_blockText f rest _
      have hfound : indexOf? (lineEnd ++ lineEnd) d.buffer =
          some (Bytes.ofText (blockText (f :: rest))).length := by
        rw [hblock]
        exact indexOf?_blockText f rest x
      constructor
      · refine .inr fun n hn => ?_
        rw [hfound, Option.some_inj] at hn
        unfold maxHeaderBytes
        omega
      · rw [headersAttempt_some d _ hfirst hfound, Decoder.advance, hblock, List.take_left,
          parseHeaders_blockText, ← List.drop_drop, List.drop_left]
        rfl

theorem headers_behind (p : Part m.boundary) (ps : List (Part m.boundary)) :
    ShortHeaders (m.behind (p :: ps)) ∧
      (m.behind (p :: ps)).headersAttempt =
        (.done (p.headers.map Field.entry),
          { m.behind (p :: ps) with
            buffer := p.body ++ (m.delimiter ++ m.following ps) }) :=
  headersAttempt_lines _ p.headers _ rfl p.isShort

theorem body_behind (p : Part m.boundary) (ps : List (Part m.boundary)) (d : Decoder)
    (i : Input)
    (h : d.whole i = { buffer := p.body ++ (m.delimiter ++ m.following ps)
                       boundary := m.boundary
                       place := .body }) :
    ∃ d' i', d.readBody i = (.done p.body, d', i') ∧ d'.whole i' = m.behind ps := by
  have hplace : d.place = .body := congrArg Decoder.place h
  have hdelimiter : (d.whole i).delimiter = m.delimiter := by rw [h]; rfl
  change d.delimiter = m.delimiter at hdelimiter
  have hfound : indexOf? d.delimiter (d.whole i).buffer = some p.body.length := by
    rw [h, hdelimiter]
    exact m.indexOf?_delimiter p.body _ p.isFree
  have hend : ((d.whole i).advance (p.body.length + d.delimiter.length)).suffixAttempt =
      (.done (), m.behind ps) := by
    rw [h, hdelimiter, Decoder.advance, ← List.drop_drop, List.drop_left, List.drop_left]
    exact m.suffix_following .body ps
  have hread := readBody_of_delimiter d _ i _ hplace hfound hend
  rw [h] at hread
  dsimp only at hread
  rwa [List.take_left] at hread

theorem yields_behind (ps : List (Part m.boundary)) :
    ∀ (d : Decoder) (i : Input), d.whole i = m.behind ps → Yields d i (ps.map Part.content) := by
  induction ps with
  | nil =>
      intro d i h
      have hplace : d.place = .epilogue := congrArg Decoder.place h
      have hnext : d.nextPart i = (.done none, d, i) := by
        unfold Decoder.nextPart
        rw [hplace]
      exact .none hnext
  | cons p rest ih =>
      intro d i h
      have hplace : d.place = .headers := congrArg Decoder.place h
      rcases m.headers_behind p rest with ⟨hshort, hheaders⟩
      rw [← h] at hshort hheaders
      rcases readHeaders_done d _ i _ hshort hheaders with ⟨d₁, i₁, hread, hwhole⟩
      rw [h] at hwhole
      rcases m.body_behind p rest d₁ i₁ hwhole with ⟨d₂, i₂, hbody, hbehind⟩
      have hnext : d.nextPart i = (.done (some (p.headers.map Field.entry)), d₁, i₁) := by
        unfold Decoder.nextPart
        rw [hplace]
        exact hread
      exact .part hnext hbody (ih d₂ i₂ hbehind)

end Message

theorem yields_encode (m : Message) (i : Input) (h : i.chunks.flatten = m.encode) :
    Yields (withBoundary m.boundary) i (m.parts.map Part.content) := by
  -- With the line end that the decoder starts from, the first boundary has one in front.
  have hstart : ∃ s, lineEnd ++ m.preamble = s ++ lineEnd := by
    rcases m.isLines with hempty | ⟨s, hs⟩
    · exact ⟨[], by rw [hempty]; rfl⟩
    · exact ⟨lineEnd ++ s, by rw [← hs, List.append_assoc]⟩
  rcases hstart with ⟨s, hs⟩
  have hfree : ¬ m.delimiter <:+: s :=
    fun hin => m.isFree (hs ▸ hin.trans (List.prefix_append s lineEnd).isInfix)
  have hwhole : (withBoundary m.boundary).whole i =
      { buffer := s ++ (m.delimiter ++ m.following m.parts)
        boundary := m.boundary
        place := .preamble } := by
    unfold Decoder.whole Decoder.feed withBoundary
    rw [h, Message.encode]
    dsimp only
    rw [← List.append_assoc, hs, List.append_assoc]
    rfl
  have hfound := m.indexOf?_delimiter s (m.following m.parts) hfree
  have hsuffix : (((withBoundary m.boundary).whole i).advance
      (s.length + m.delimiter.length)).suffixAttempt = (.done (), m.behind m.parts) := by
    rw [hwhole, Decoder.advance, ← List.drop_drop, List.drop_left, List.drop_left]
    exact m.suffix_following .preamble m.parts
  rcases skipToDelimiter_done (withBoundary m.boundary) _ i s.length
    (by rw [hwhole]; exact hfound) hsuffix with ⟨d, i', hskip, hbehind⟩
  have hplace : d.place = .headers ∨ d.place = .epilogue := by
    have hbehind := congrArg Decoder.place hbehind
    cases hparts : m.parts with
    | nil => exact .inr (by rw [hparts] at hbehind; exact hbehind)
    | cons p ps => exact .inl (by rw [hparts] at hbehind; exact hbehind)
  exact (m.yields_behind m.parts d i' hbehind).of_nextPart_eq
    (nextPart_of_skip _ d i i' (.inl rfl) hplace hskip)

/-- Two parts: one with two headers of one name and with a body that ends in the
    beginning of a delimiter, and one that is empty. -/
def twoParts : Message where
  boundary := "b"
  isLine := by decide +kernel
  preamble := Bytes.ofText "hello\r\n"
  isLines := by decide +kernel
  isFree := by decide +kernel
  parts :=
    [{ padding := [32]
       isPadding := by decide +kernel
       headers :=
         [{ name := "X-Id", value := "1"
            isToken := by decide +kernel
            isLegal := by decide +kernel
            isTrimmed := by decide },
          { name := "x-ID", value := ""
            isToken := by decide +kernel
            isLegal := by decide +kernel
            isTrimmed := by decide }]
       isShort := by decide +kernel
       body := Bytes.ofText "one\r\n--"
       isFree := by decide +kernel },
     { padding := []
       isPadding := by decide +kernel
       headers := []
       isShort := by decide +kernel
       body := []
       isFree := by decide +kernel }]
  padding := [9]
  isPadding := by decide +kernel
  epilogue := Bytes.ofText "\r\n--b"

theorem twoParts_in_seven_chunks :
    let chunks := ["hello\r", "\n--b \r", "\nX-Id: 1\r\nx-ID: \r\n\r", "\none\r\n--\r\n-", "",
      "-b\r\n\r\n\r\n--b\t-", "-\r\n--b"].map Bytes.ofText
    chunks.flatten = twoParts.encode ∧
      Yields (withBoundary "b") ⟨chunks, .ended, 0⟩
        [([("x-id", Bytes.ofText "1"), ("x-id", [])], Bytes.ofText "one\r\n--"), ([], [])] := by
  intro chunks
  have hchunks : chunks.flatten = twoParts.encode := by decide +kernel
  have hparts : twoParts.parts.map Part.content =
      [([("x-id", Bytes.ofText "1"), ("x-id", [])], Bytes.ofText "one\r\n--"), ([], [])] := by
    decide +kernel
  rw [← hparts]
  exact ⟨hchunks, yields_encode twoParts ⟨chunks, .ended, 0⟩ hchunks⟩

end Multipart

end Http

end DemandNet
