/-!
# Durations as Text

A span of time in the largest unit of which it holds at least one.

The fraction is written exactly, without trailing zeros, so no two spans share a
text.

## Main definitions

* `fractionDigits`: The digits after the point.
* `durationText`: A number of nanoseconds with its unit.
-/

namespace DemandNet

namespace Text

/-- A number in decimal, with zeros in front up to a given width. -/
def padded (width n : Nat) : List Char :=
  let ds := Nat.toDigits 10 n
  List.replicate (width - ds.length) '0' ++ ds

/-- The digits after the point of a fraction with `places` places, without the
    zeros at its end. -/
def fractionDigits (places fraction : Nat) : List Char :=
  ((padded places fraction).reverse.dropWhile (· == '0')).reverse

/-- A whole number with its fraction and unit; no point if the fraction is zero. -/
def quantityText (whole fraction places : Nat) (unitName : String) : String :=
  let tail := fractionDigits places fraction
  toString whole ++ String.ofList (if tail.isEmpty then [] else '.' :: tail) ++ unitName

/-- A number of nanoseconds in seconds, milliseconds, microseconds or
    nanoseconds, whichever is the largest unit that does not exceed it. -/
def durationText (nanos : Nat) : String :=
  if 1000000000 ≤ nanos then quantityText (nanos / 1000000000) (nanos % 1000000000) 9 "s"
  else if 1000000 ≤ nanos then quantityText (nanos / 1000000) (nanos % 1000000) 6 "ms"
  else if 1000 ≤ nanos then quantityText (nanos / 1000) (nanos % 1000) 3 "µs"
  else toString nanos ++ "ns"

end Text

end DemandNet
