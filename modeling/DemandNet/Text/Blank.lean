/-!
# Blank Characters

The characters that count as white space, and trimming by them.

Two classes are kept apart because the formats of this library use both: header
lists and part headers are trimmed by every blank character there is, tokens of a
line only by space and tab. A third class, the ASCII blanks, is what the URL
standard and the address syntax skip.

## Main definitions

* `isBlank`: Every white-space character.
* `isPadding`: Space and tab.
* `trimBy`: A text without the characters of a class at its two ends.
-/

namespace DemandNet

namespace Text

/-- Every character with the white-space property. -/
def isBlank (c : Char) : Bool :=
  let n := c.toNat
  (9 ≤ n && n ≤ 13) || n == 32 || n == 0x85 || n == 0xA0 || n == 0x1680
    || (0x2000 ≤ n && n ≤ 0x200A) || n == 0x2028 || n == 0x2029 || n == 0x202F
    || n == 0x205F || n == 0x3000

/-- The two characters that pad a line: space and tab. -/
def isPadding (c : Char) : Bool :=
  c == ' ' || c == '\t'

/-- The characters left after dropping those of a class from the end. -/
def trimEndBy (p : α → Bool) (cs : List α) : List α :=
  (cs.reverse.dropWhile p).reverse

/-- The characters left after dropping those of a class from both ends. -/
def trimBy (p : α → Bool) (cs : List α) : List α :=
  trimEndBy p (cs.dropWhile p)

/-- A text without blank characters at its ends. -/
def trim (cs : List Char) : List Char :=
  trimBy isBlank cs

end Text

end DemandNet
