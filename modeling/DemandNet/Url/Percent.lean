import DemandNet.Address.Ip
import DemandNet.Bytes

/-!
# Percent Encoding

Bytes written as a percent sign and two hexadecimal digits.

## Main definitions

* `percentDecode`: The bytes that a text stands for.
* `percentEncode`: A text in which the characters of a class are written by their bytes.
-/

namespace DemandNet

namespace Url

/-- The bytes that a text stands for. A percent sign without two hexadecimal digits
    behind it stands for itself. -/
def percentDecode : List Char → Bytes
  | [] => []
  | '%' :: a :: b :: rest =>
      match Address.hexDigit? a, Address.hexDigit? b with
      | some x, some y => UInt8.ofNat (x * 16 + y) :: percentDecode rest
      | _, _ => 37 :: percentDecode (a :: b :: rest)
  | c :: rest => Bytes.ofText c.toString ++ percentDecode rest

/-- A hexadecimal digit, in upper case. -/
def upperHex (n : Nat) : Char :=
  if n < 10 then Char.ofNat (48 + n) else Char.ofNat (55 + n)

/-- A byte as a percent sign and two digits. -/
def percentByte (b : UInt8) : List Char :=
  ['%', upperHex (b.toNat / 16), upperHex (b.toNat % 16)]

/-- A text in which the characters of a class, and all beyond ASCII, are written by their
    bytes. -/
def percentEncode (escaped : Char → Bool) (cs : List Char) : List Char :=
  cs.flatMap fun c =>
    if escaped c || 127 ≤ c.toNat then (Bytes.ofText c.toString).flatMap percentByte else [c]

end Url

end DemandNet
