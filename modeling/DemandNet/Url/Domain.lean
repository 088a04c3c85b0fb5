import DemandNet.Text.Printable
import DemandNet.Text.Split
import DemandNet.Url.Percent
import DemandNet.Url.Punycode

/-!
# Domain Names

Domain names as URLs spell them, brought into the form that is looked up.

Percent signs are decoded first and the bytes must be UTF-8. Then every character is
replaced by what it stands for: capital letters by small ones, wide forms by plain ones,
other full stops by the dot, and some by nothing. A label in Punycode must spell
something that could not be written without it. Labels with characters beyond ASCII are
written in Punycode in the end.

Characters that end a host, controls and the percent sign are not part of any name, nor
is any character that cannot be seen.

## Main definitions

* `foldChar`: What a character stands for.
* `Label.toAscii?`: The form of one label.
* `domainToAscii?`: The form of a name.
-/

namespace DemandNet

namespace Url

/-- The characters that stand for nothing. -/
def isIgnored (n : Nat) : Bool :=
  n == 0xAD || n == 0x34F || (0x180B ≤ n && n ≤ 0x180D) || n == 0x200B || n == 0x2060
    || n == 0x2064 || (0xFE00 ≤ n && n ≤ 0xFE0F) || n == 0xFEFF

/-- The digit that a raised, lowered or circled digit stands for. -/
def plainDigit? (n : Nat) : Option Nat :=
  if n == 0xB9 then some 1
  else if n == 0xB2 || n == 0xB3 then some (n - 0xB0)
  else if n == 0x2070 || (0x2074 ≤ n && n ≤ 0x2079) then some (n - 0x2070)
  else if 0x2080 ≤ n && n ≤ 0x2089 then some (n - 0x2080)
  else if 0x2460 ≤ n && n ≤ 0x2468 then some (n - 0x245F)
  else none

/-- What a character stands for. -/
def foldChar (c : Char) : List Char :=
  let n := c.toNat
  if n < 128 then [Text.lowerChar c]
  else if isIgnored n then []
  else if n == 0x3002 || n == 0xFF61 then ['.']
  else if 0xFF01 ≤ n && n ≤ 0xFF5E then [Text.lowerChar (Char.ofNat (n - 0xFEE0))]
  else if Text.isBlank c && n != 0x85 && n != 0x1680 then [' ']
  else
    match plainDigit? n with
    | some d => [Char.ofNat (48 + d)]
    | none => [c]

/-- The ASCII characters that are not part of any name. -/
def isDenied (c : Char) : Bool :=
  c.toNat ≤ 32 || c.toNat == 127 || "#/:<>?@[\\]^|%".toList.contains c

/-- A mark that is put onto the character before it. -/
def isMark (c : Char) : Bool := 0x300 ≤ c.toNat && c.toNat ≤ 0x36F

/-- The character may stand in a label. -/
def isLabelChar (c : Char) : Bool :=
  if c.toNat < 128 then !isDenied c
  else (Text.isPrintable c || isMark c) && c.toNat != 0xFFFD

namespace Label

/-- A label that is spelled in Punycode. -/
def spelling? : List Char → Option (List Char)
  | 'x' :: 'n' :: '-' :: '-' :: rest => some rest
  | _ => none

/-- The characters may make up a label. -/
def isValid (cs : List Char) : Bool :=
  cs.all isLabelChar && !(cs.head?.any isMark)

/-- The form of a label whose characters were replaced already. -/
def toAscii? (cs : List Char) : Option (List Char) :=
  match spelling? cs with
  | some digits =>
      match Punycode.decode? digits with
      | none => none
      | some label =>
          let needed := label.any fun c => 128 ≤ c.toNat
          if isValid label && needed && label.flatMap foldChar == label then some cs else none
  | none =>
      if !isValid cs then none
      else if cs.all fun c => c.toNat < 128 then some cs
      else some ("xn--".toList ++ Punycode.encode cs)

end Label

/-- The form in which a name is looked up. -/
def domainToAscii? (cs : List Char) : Option (List Char) :=
  match Bytes.toText? (percentDecode cs) with
  | none => none
  | some name =>
      let labels := Text.splitOn (· == '.') (name.toList.flatMap foldChar)
      (labels.mapM Label.toAscii?).map fun ls => ['.'].intercalate ls

end Url

end DemandNet
