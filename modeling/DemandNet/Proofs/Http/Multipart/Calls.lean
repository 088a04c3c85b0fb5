import DemandNet.Proofs.Http.Multipart.Operations

/-!
# Calls on a Body in Parts

Everything that can be asked of a decoder and of the part that it gave last.

A part is held until the next one is asked for. While it is held its chunks can be asked
for one by one, or it can be given away: to be read to its end, to be skipped, or to be
a stream. A stream is a part that only has a next item; unlike a part it is over after a
failure. The calls come in any order, and a failure is no reason to stop calling.

Whatever is called, the decoder does one of four things: nothing, look for the next part,
look for one chunk, or look for chunks until there are no more. The last is the third,
repeated, so what one look for a chunk preserves is preserved by all of them.

## Main definitions

* `Reader`: A decoder with its input and the part that is held.
* `Call`, `Answer`: What can be asked, and what is said.
* `Reader.call`, `Reader.run`: One call, and one after the other.
* `Move`: What the decoder does at a call.

## Theorems

* `call_moves`: Every call is one of the moves.
* `chunksUpTo_last`: Reading to the end comes down to the last look for a chunk.
-/

namespace DemandNet

namespace Http

namespace Multipart

/-- A part that is held: whether its end was reached, and whether it is a stream. -/
structure HeldPart where
  ended : Bool
  stream : Bool
  deriving DecidableEq

/-- A decoder, its input, and the part that is held. -/
structure Reader where
  decoder : Decoder
  input : Input
  part : Option HeldPart

/-- What can be asked of a decoder and of the part that is held. -/
inductive Call where
  | nextPart
  | chunk
  /-- The rest of the part at once, which gives the part away. -/
  | bytes
  /-- Nothing of the part, which gives it away. -/
  | skip
  /-- The next item of the part, which is a stream from now on. -/
  | pull
  deriving Repr, DecidableEq

/-- What a call says. -/
inductive Answer where
  | part (headers : Headers)
  | chunk (bs : Bytes)
  | bytes (bs : Bytes)
  /-- There is no other part, or no more of this one. -/
  | nothing
  | failed (e : NetError)
  | stalled
  /-- No part is held that could be asked. -/
  | absent
  deriving Repr, DecidableEq

/-- The answer to a question for a part. -/
def Answer.ofNext : Outcome (Option Headers) → Answer
  | .done (some headers) => .part headers
  | .done none => .nothing
  | .failed e => .failed e
  | .stalled => .stalled

/-- The answer to a question for a chunk. -/
def Answer.ofChunk : Outcome (Option Bytes) → Answer
  | .done (some bs) => .chunk bs
  | .done none => .nothing
  | .failed e => .failed e
  | .stalled => .stalled

/-- The answer to a question for the rest of a part. -/
def Answer.ofBody : Outcome Bytes → Answer
  | .done bs => .bytes bs
  | .failed e => .failed e
  | .stalled => .stalled

/-- The answer to a wish to skip the rest of a part. -/
def Answer.ofSkip : Outcome Unit → Answer
  | .done () => .nothing
  | .failed e => .failed e
  | .stalled => .stalled

namespace Reader

/-- A reader at the beginning of a body. -/
def start (boundary : String) (input : Input) : Reader :=
  { decoder := .withBoundary boundary, input, part := none }

/-- Ask for the next part, which is held then. -/
def nextPart (r : Reader) : Answer × Reader :=
  match r.decoder.nextPart r.input with
  | (.done (some headers), d, i) => (.part headers, ⟨d, i, some ⟨false, false⟩⟩)
  | (a, d, i) => (.ofNext a, ⟨d, i, none⟩)

/-- Ask a part for its next chunk. -/
def chunk (r : Reader) (p : HeldPart) : Answer × Reader :=
  let ((a, ended), d, i) := r.decoder.partChunk r.input p.ended
  (.ofChunk a, ⟨d, i, some { p with ended }⟩)

/-- Ask a stream for its next item. It is over behind its end, and behind a failure. -/
def pull (r : Reader) (p : HeldPart) : Answer × Reader :=
  let ((a, ended), d, i) := r.decoder.partChunk r.input p.ended
  match a with
  | .done none => (.nothing, ⟨d, i, none⟩)
  | .failed e => (.failed e, ⟨d, i, some ⟨true, true⟩⟩)
  | a => (.ofChunk a, ⟨d, i, some ⟨ended, true⟩⟩)

/-- Read a part to its end and give it away. -/
def bytes (r : Reader) (p : HeldPart) : Answer × Reader :=
  if p.ended then (.bytes [], { r with part := none })
  else
    let (a, d, i) := r.decoder.readBody r.input
    (.ofBody a, ⟨d, i, none⟩)

/-- Go to the end of a part and give it away. -/
def skip (r : Reader) (p : HeldPart) : Answer × Reader :=
  if p.ended then (.nothing, { r with part := none })
  else
    let (_, a, d, i) := r.decoder.readChunks r.input
    (.ofSkip a, ⟨d, i, none⟩)

/-- A call. What only a part can do is not possible while none is held, and a stream can
    do only one thing. -/
def call (r : Reader) (c : Call) : Answer × Reader :=
  match c, r.part with
  | .nextPart, _ => r.nextPart
  | .pull, some p => r.pull p
  | .chunk, some ⟨ended, false⟩ => r.chunk ⟨ended, false⟩
  | .bytes, some ⟨ended, false⟩ => r.bytes ⟨ended, false⟩
  | .skip, some ⟨ended, false⟩ => r.skip ⟨ended, false⟩
  | _, _ => (.absent, r)

/-- What a reader says to one call after the other. -/
def run (r : Reader) : List Call → List Answer × Reader
  | [] => ([], r)
  | c :: rest =>
      let (a, r) := r.call c
      let (as, r) := r.run rest
      (a :: as, r)

end Reader

/-- An answer that holds neither a part nor bytes of one. -/
def Answer.IsEmpty : Answer → Prop
  | .part _ | .chunk _ => False
  | .bytes bs => bs = []
  | _ => True

/-- An answer that is neither a failure nor a delay. -/
def Answer.Succeeded : Answer → Prop
  | .failed _ | .stalled => False
  | _ => True

/-- What the decoder does at a call, and what is said then. -/
inductive Move (d : Decoder) (i : Input) : Answer → Decoder → Input → Prop where
  | still {a : Answer} (ha : a.IsEmpty) (hne : ∀ e, a ≠ .failed e) : Move d i a d i
  | next {a : Outcome (Option Headers)} {d' : Decoder} {i' : Input}
      (h : d.nextPart i = (a, d', i')) : Move d i (.ofNext a) d' i'
  | chunk {a : Outcome (Option Bytes)} {d' : Decoder} {i' : Input}
      (h : d.bodyChunk i = (a, d', i')) : Move d i (.ofChunk a) d' i'
  | all {a : Answer} {chunks : List Bytes} {u : Outcome Unit} {d' : Decoder} {i' : Input}
      (h : d.readChunks i = (chunks, u, d', i'))
      (ha : a = .bytes chunks.flatten ∧ u = .done () ∨ a = .ofSkip u) : Move d i a d' i'

/-! ### Calls -/

-- A part that is held is looked at, unless it has ended.
theorem partChunk_moves (d : Decoder) (i : Input) (ended : Bool) :
    d.partChunk i ended = ((.done none, true), d, i) ∨
      ∃ a ended' d' i', d.bodyChunk i = (a, d', i') ∧
        d.partChunk i ended = ((a, ended'), d', i') := by
  unfold Decoder.partChunk
  by_cases he : ended
  · rw [if_pos he]
    exact .inl rfl
  · rw [if_neg he]
    rcases d.bodyChunk i with ⟨(_ | bs) | e | _, d', i'⟩
    · exact .inr ⟨_, true, d', i', rfl, rfl⟩
    · exact .inr ⟨_, false, d', i', rfl, rfl⟩
    · exact .inr ⟨_, false, d', i', rfl, rfl⟩
    · exact .inr ⟨_, false, d', i', rfl, rfl⟩

theorem nextPart_moves (r : Reader) :
    Move r.decoder r.input r.nextPart.1 r.nextPart.2.decoder r.nextPart.2.input := by
  unfold Reader.nextPart
  rcases h : r.decoder.nextPart r.input with ⟨(_ | headers) | e | _, d', i'⟩ <;> exact .next h

theorem chunk_moves (r : Reader) (p : HeldPart) :
    Move r.decoder r.input (r.chunk p).1 (r.chunk p).2.decoder (r.chunk p).2.input := by
  unfold Reader.chunk
  rcases partChunk_moves r.decoder r.input p.ended with hstill | ⟨a, ended', d', i', h, hpart⟩
  · rw [hstill]
    exact .still trivial (by rintro e ⟨⟩)
  · rw [hpart]
    exact .chunk h

theorem pull_moves (r : Reader) (p : HeldPart) :
    Move r.decoder r.input (r.pull p).1 (r.pull p).2.decoder (r.pull p).2.input := by
  unfold Reader.pull
  rcases partChunk_moves r.decoder r.input p.ended with hstill | ⟨a, ended', d', i', h, hpart⟩
  · rw [hstill]
    exact .still trivial (by rintro e ⟨⟩)
  · rw [hpart]
    rcases a with (_ | bs) | e | _ <;> exact .chunk h

theorem bytes_moves (r : Reader) (p : HeldPart) :
    Move r.decoder r.input (r.bytes p).1 (r.bytes p).2.decoder (r.bytes p).2.input := by
  unfold Reader.bytes
  by_cases he : p.ended
  · rw [if_pos he]
    exact .still rfl (by rintro e ⟨⟩)
  · rw [if_neg he]
    unfold Decoder.readBody
    rcases h : r.decoder.readChunks r.input with ⟨chunks, u | e | _, d', i'⟩
    · exact .all h (.inl ⟨rfl, rfl⟩)
    · exact .all h (.inr rfl)
    · exact .all h (.inr rfl)

theorem skip_moves (r : Reader) (p : HeldPart) :
    Move r.decoder r.input (r.skip p).1 (r.skip p).2.decoder (r.skip p).2.input := by
  unfold Reader.skip
  by_cases he : p.ended
  · rw [if_pos he]
    exact .still trivial (by rintro e ⟨⟩)
  · rw [if_neg he]
    rcases h : r.decoder.readChunks r.input with ⟨chunks, u, d', i'⟩
    exact .all h (.inr rfl)

theorem call_moves (r : Reader) (c : Call) :
    Move r.decoder r.input (r.call c).1 (r.call c).2.decoder (r.call c).2.input := by
  have habsent : Move r.decoder r.input .absent r.decoder r.input :=
    .still trivial (by rintro e ⟨⟩)
  rcases r with ⟨d, i, _ | ⟨ended, _ | _⟩⟩ <;> cases c
  case none.nextPart | some.false.nextPart | some.true.nextPart => exact nextPart_moves _
  case some.false.pull | some.true.pull => exact pull_moves _ _
  case some.false.chunk => exact chunk_moves _ _
  case some.false.bytes => exact bytes_moves _ _
  case some.false.skip => exact skip_moves _ _
  all_goals exact habsent

theorem Answer.ofNext_eq_part {a : Outcome (Option Headers)} {headers : Headers}
    (h : Answer.ofNext a = .part headers) : a = .done (some headers) := by
  rcases a with (_ | hs) | e | _ <;> cases h
  rfl

theorem call_nextPart (r : Reader) :
    (r.call .nextPart).1 = .ofNext (r.decoder.nextPart r.input).1 := by
  change r.nextPart.1 = _
  unfold Reader.nextPart
  rcases r.decoder.nextPart r.input with ⟨(_ | headers) | e | _, d, i⟩ <;> rfl

/-! ### Looking for chunks until there are no more -/

-- What one look that finds a chunk preserves is so at the last look as well.
theorem chunksUpTo_last {P : Decoder → Input → Prop}
    (hchunk : ∀ d i bs d' i', P d i → d.bodyChunk i = (.done (some bs), d', i') → P d' i')
    (fuel : Nat) : ∀ (d : Decoder) (i : Input), P d i →
      ∃ d' i', P d' i' ∧ ((d.chunksUpTo i fuel).2 = (.done (), d', i') ∨
        (∀ bs, (d'.bodyChunk i').1 ≠ .done (some bs)) ∧
          (d.chunksUpTo i fuel).2 = ((d'.bodyChunk i').1.as (), (d'.bodyChunk i').2)) := by
  induction fuel with
  | zero => exact fun d i h => ⟨d, i, h, .inl rfl⟩
  | succ fuel ih =>
      intro d i h
      rw [Decoder.chunksUpTo]
      rcases hlook : d.bodyChunk i with ⟨(_ | bs) | e | _, d₁, i₁⟩
      · exact ⟨d, i, h, .inr ⟨by rw [hlook]; rintro bs ⟨⟩, by rw [hlook]; rfl⟩⟩
      · exact ih d₁ i₁ (hchunk d i bs d₁ i₁ h hlook)
      · exact ⟨d, i, h, .inr ⟨by rw [hlook]; rintro bs ⟨⟩, by rw [hlook]; rfl⟩⟩
      · exact ⟨d, i, h, .inr ⟨by rw [hlook]; rintro bs ⟨⟩, by rw [hlook]; rfl⟩⟩

end Multipart

end Http

end DemandNet
