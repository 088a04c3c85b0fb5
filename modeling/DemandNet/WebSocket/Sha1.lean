import DemandNet.Bytes

/-!
# SHA-1

The hash by which a server shows that it understood a handshake.

A message is padded with a one bit, zeros and its length in bits to a multiple of 64
bytes, and each block of 64 bytes is stirred into the state in eighty rounds.

## Main definitions

* `pad`: The padded message.
* `schedule`: The eighty words of a block.
* `sha1`: The hash of a message.
-/

namespace DemandNet

namespace WebSocket

namespace Sha1

/-- The bits of a word moved left, those that fall out coming in on the right. -/
def rotate (x : UInt32) (n : UInt32) : UInt32 := (x <<< n) ||| (x >>> (32 - n))

/-- A number in a given number of bytes, the most significant one first. -/
def bigEndian (count n : Nat) : Bytes :=
  (List.range count).map fun i => (n / Nat.pow 256 (count - 1 - i)).toUInt8

/-- A message with its padding. -/
def pad (m : Bytes) : Bytes :=
  m ++ [0x80] ++ List.replicate ((119 - m.length % 64) % 64) 0 ++ bigEndian 8 (m.length * 8)

/-- The word that four bytes spell. -/
def word (bs : Bytes) : UInt32 :=
  bs.foldl (fun w b => (w <<< 8) ||| b.toUInt32) 0

/-- Pieces of `n` elements, as many as `count`. -/
def pieces (n : Nat) : Nat → List α → List (List α)
  | 0, _ => []
  | count + 1, xs => xs.take n :: pieces n count (xs.drop n)

/-- Extend the words of a block by `count` more. The words are in reverse order. -/
def extend : Nat → List UInt32 → List UInt32
  | 0, ws => ws
  | count + 1, ws =>
      let at' (i : Nat) := ws[i]?.getD 0
      extend count (rotate (at' 2 ^^^ at' 7 ^^^ at' 13 ^^^ at' 15) 1 :: ws)

/-- The eighty words of a block. -/
def schedule (block : Bytes) : List UInt32 :=
  (extend 64 ((pieces 4 16 block).map word).reverse).reverse

/-- The state between two blocks. -/
structure State where
  a : UInt32
  b : UInt32
  c : UInt32
  d : UInt32
  e : UInt32
  deriving Repr, DecidableEq

/-- The state before the first block. -/
def initial : State :=
  ⟨0x67452301, 0xEFCDAB89, 0x98BADCFE, 0x10325476, 0xC3D2E1F0⟩

/-- How the middle words are mixed in a round, and the constant of that round. -/
def mix (round : Nat) (s : State) : UInt32 × UInt32 :=
  if round < 20 then ((s.b &&& s.c) ||| ((~~~ s.b) &&& s.d), 0x5A827999)
  else if round < 40 then (s.b ^^^ s.c ^^^ s.d, 0x6ED9EBA1)
  else if round < 60 then ((s.b &&& s.c) ||| (s.b &&& s.d) ||| (s.c &&& s.d), 0x8F1BBCDC)
  else (s.b ^^^ s.c ^^^ s.d, 0xCA62C1D6)

/-- One round. -/
def round (s : State) (w : UInt32 × Nat) : State :=
  let (f, k) := mix w.2 s
  ⟨rotate s.a 5 + f + s.e + k + w.1, s.a, rotate s.b 30, s.c, s.d⟩

/-- Stir a block into the state. -/
def stir (s : State) (block : Bytes) : State :=
  let t := (schedule block).zipIdx.foldl round s
  ⟨s.a + t.a, s.b + t.b, s.c + t.c, s.d + t.d, s.e + t.e⟩

end Sha1

/-- The hash of a message. -/
def sha1 (m : Bytes) : Bytes :=
  let padded := Sha1.pad m
  let s := (Sha1.pieces 64 (padded.length / 64) padded).foldl Sha1.stir Sha1.initial
  [s.a, s.b, s.c, s.d, s.e].flatMap fun w => Sha1.bigEndian 4 w.toNat

end WebSocket

end DemandNet
