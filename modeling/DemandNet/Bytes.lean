/-!
# Bytes

Chunks of data, and the ways between them and text.

A chunk is a list of bytes. Text becomes bytes by UTF-8. The way back either fails on
anything that is not UTF-8 or, for logs, puts a replacement character where a byte
sequence breaks off; one broken sequence gives one replacement character however
many bytes it already had.

## Main definitions

* `Bytes.ofText`, `Bytes.toText?`: UTF-8 in both directions.
* `Bytes.lossyText`: Text for logs.
* `Bytes.startsWith`: A chunk begins with another.
* `Bytes.upper`, `Bytes.lower`: Letter case, for ASCII letters only.
-/

namespace DemandNet

/-- A chunk of data. -/
abbrev Bytes := List UInt8

namespace Bytes

/-- The UTF-8 form of a text. -/
def ofText (s : String) : Bytes := s.toUTF8.data.toList

/-- The text of which this is the UTF-8 form. -/
def toText? (bs : Bytes) : Option String := String.fromUTF8? ⟨bs.toArray⟩

/-- The text of bytes below 128, one character a byte. -/
def asciiText (bs : Bytes) : String :=
  String.ofList (bs.map fun b => Char.ofNat b.toNat)

/-- The bytes that may follow the first one of a character, as the least and the
    greatest value for each place; `none` if no character begins so. -/
def continuations (first : UInt8) : Option (List (UInt8 × UInt8)) :=
  let any : UInt8 × UInt8 := (0x80, 0xBF)
  if first < 0x80 then some []
  else if first < 0xC2 then none
  else if first < 0xE0 then some [any]
  else if first = 0xE0 then some [(0xA0, 0xBF), any]
  else if first = 0xED then some [(0x80, 0x9F), any]
  else if first < 0xF0 then some [any, any]
  else if first = 0xF0 then some [(0x90, 0xBF), any, any]
  else if first < 0xF4 then some [any, any, any]
  else if first = 0xF4 then some [(0x80, 0x8F), any, any]
  else none

/-- The bytes that fit the places, up to the first that does not. -/
def fitting : List (UInt8 × UInt8) → Bytes → Bytes
  | (lo, hi) :: places, b :: bs => if lo ≤ b ∧ b ≤ hi then b :: fitting places bs else []
  | _, _ => []

/-- The number of the character that these bytes spell. -/
def codePoint (first : UInt8) (rest : Bytes) : Nat :=
  let head :=
    match rest.length with
    | 0 => first.toNat
    | 1 => first.toNat % 32
    | 2 => first.toNat % 16
    | _ => first.toNat % 8
  rest.foldl (fun n b => n * 64 + b.toNat % 64) head

/-- The characters of a chunk, with at most `fuel` of them read. -/
def lossyChars : Nat → Bytes → List Char
  | 0, _ => []
  | _, [] => []
  | fuel + 1, b :: bs =>
      match continuations b with
      | none => '\ufffd' :: lossyChars fuel bs
      | some places =>
          let taken := fitting places bs
          let c := if taken.length = places.length then Char.ofNat (codePoint b taken)
            else '\ufffd'
          c :: lossyChars fuel (bs.drop taken.length)

/-- A chunk as text for logs: each sequence of bytes that breaks off before it spells
    a character becomes one replacement character. -/
def lossyText (bs : Bytes) : String :=
  String.ofList (lossyChars bs.length bs)

/-- A chunk begins with another. -/
def startsWith (bs start : Bytes) : Bool :=
  start.isPrefixOf bs

/-- An ASCII letter in upper case. -/
def upperByte (b : UInt8) : UInt8 :=
  if 97 ≤ b ∧ b ≤ 122 then b - 32 else b

/-- An ASCII letter in lower case. -/
def lowerByte (b : UInt8) : UInt8 :=
  if 65 ≤ b ∧ b ≤ 90 then b + 32 else b

/-- ASCII letters in upper case, all else as it is. -/
def upper (bs : Bytes) : Bytes := bs.map upperByte

/-- ASCII letters in lower case, all else as it is. -/
def lower (bs : Bytes) : Bytes := bs.map lowerByte

end Bytes

end DemandNet
