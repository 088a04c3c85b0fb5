import DemandNet.Address.Ip
import DemandNet.Text.Split

/-!
# Request Identifiers

The number by which a request is known in logs and in its response.

A client may choose it: 128 bits in hexadecimal, written without hyphens or with four of
them, the latter perhaps in braces or behind `urn:uuid:`. The response always shows it in
small letters with hyphens. A request without a readable number gets a fresh one.

## Main definitions

* `RequestId.parse?`: The identifier that a text spells, as responses show it.
* `RequestId.headerName`: The header that carries it.
-/

namespace DemandNet

namespace Http

namespace RequestId

/-- The header that carries the identifier, in requests and in responses. -/
def headerName : String := "x-request-id"

/-- The digits have the length of an identifier. -/
def isDigits (cs : List Char) : Bool :=
  cs.length == 32 && cs.all fun c => (Address.hexDigit? c).isSome

/-- Digits with hyphens after the 8th, 12th, 16th and 20th. -/
def hyphenated (ds : List Char) : List Char :=
  ['-'].intercalate [ds.take 8, (ds.drop 8).take 4, (ds.drop 12).take 4, (ds.drop 16).take 4,
    ds.drop 20]

/-- The digits of a text with hyphens in their places. -/
def digits? (cs : List Char) : Option (List Char) :=
  let ds := cs.filter (· != '-')
  if isDigits ds && cs == hyphenated ds then some ds else none

/-- The digits of an identifier in any of its spellings. -/
def anyDigits? (cs : List Char) : Option (List Char) :=
  if isDigits cs then some cs
  else if cs.head? == some '\x7b' && cs.getLast? == some '\x7d' then digits? (cs.drop 1).dropLast
  else if "urn:uuid:".toList.isPrefixOf cs then digits? (cs.drop 9)
  else digits? cs

/-- The identifier that a text spells, as responses show it. -/
def parse? (s : String) : Option String :=
  (anyDigits? s.toList).map fun ds => String.ofList (hyphenated (Text.lower ds))

end RequestId

end Http

end DemandNet
