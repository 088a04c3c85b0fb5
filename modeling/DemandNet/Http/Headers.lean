import DemandNet.Bytes
import DemandNet.Text.Split

/-!
# Headers

The header fields of a request, a response or a part.

Names are compared without regard to case, so they are kept in lower case. Values are
bytes; one is readable as text only if it consists of tabs and visible ASCII
characters, and unreadable values are passed over by whatever interprets them. A name
may occur several times, and the order of its values matters.

Two limits are not modelled: a name may have any length here, where 65535 bytes are the most
otherwise, and a list may have any number of fields, where a map has room for 24576 names. The
header block of a part is too short for either.

## Main definitions

* `Headers`: Names with values, in order.
* `Headers.append`, `Headers.insert`: Another value; the only value.
* `Headers.values`, `Headers.get?`, `Headers.texts`: Looking up.
* `isName`, `isValue`: What may be a name and what a value.
* `headerTokens`: The elements of a list header.
-/

namespace DemandNet

namespace Http

/-- The fields of a message, in order. -/
abbrev Headers := List (String × Bytes)

/-- The characters of a name. -/
def isTokenByte (b : UInt8) : Bool :=
  (48 ≤ b && b ≤ 57) || (65 ≤ b && b ≤ 90) || (97 ≤ b && b ≤ 122)
    || [33, 35, 36, 37, 38, 39, 42, 43, 45, 46, 94, 95, 96, 124, 126].contains b

/-- Names are tokens: at least one character, and only the characters of names. -/
def isName (bs : Bytes) : Bool := !bs.isEmpty && bs.all isTokenByte

/-- Values hold no controls but the tab. -/
def isValue (bs : Bytes) : Bool :=
  bs.all fun b => b == 9 || (32 ≤ b && b != 127)

/-- The spelling of a name under which its values are kept. -/
def canonicalName (bs : Bytes) : String := Bytes.asciiText (Bytes.lower bs)

/-- A readable byte: a tab or a visible ASCII character. -/
def isReadable (b : UInt8) : Bool := b == 9 || (32 ≤ b && b ≤ 126)

/-- A value as text, if every byte of it is readable. -/
def valueText? (v : Bytes) : Option String :=
  if v.all isReadable then some (Bytes.asciiText v) else none

namespace Headers

/-- One more value of a name. -/
def append (h : Headers) (name : String) (value : Bytes) : Headers := h ++ [(name, value)]

/-- No values of a name. -/
def remove (h : Headers) (name : String) : Headers := h.filter fun f => f.1 != name

/-- A value of a name instead of all it had. -/
def insert (h : Headers) (name : String) (value : Bytes) : Headers :=
  (h.remove name).append name value

/-- The values of a name, in order. -/
def values (h : Headers) (name : String) : List Bytes :=
  h.filterMap fun f => if f.1 = name then some f.2 else none

/-- The first value of a name. -/
def get? (h : Headers) (name : String) : Option Bytes := (h.values name).head?

/-- The name has a value. -/
def contains (h : Headers) (name : String) : Bool := (h.get? name).isSome

/-- The readable values of a name. -/
def texts (h : Headers) (name : String) : List String := (h.values name).filterMap valueText?

/-- The first value of a name, if it is readable. -/
def text? (h : Headers) (name : String) : Option String := (h.get? name).bind valueText?

end Headers

/-- The elements of a list header: what its readable lines hold between commas,
    without blanks around it. Empty elements are kept. -/
def headerTokens (h : Headers) (name : String) : List (List Char) :=
  (h.texts name).flatMap fun v => (Text.splitOn (· == ',') v.toList).map Text.trim

end Http

end DemandNet
