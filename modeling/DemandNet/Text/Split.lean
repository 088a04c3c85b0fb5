import DemandNet.Text.Blank

/-!
# Cutting Text

Cutting a list of characters at separators.

## Main definitions

* `splitOn`: The pieces between the separators of a class; there is always one more
  piece than there are separators.
* `splitOnce?`: What stands before and after the first separator.
* `splitLines`: The pieces between line ends.
* `eqIgnoringCase`: Equality up to the case of ASCII letters.
-/

namespace DemandNet

namespace Text

/-- Put an element in front of the first piece. -/
def consFirst (a : α) : List (List α) → List (List α)
  | [] => [[a]]
  | piece :: rest => (a :: piece) :: rest

/-- The pieces between the separators of a class. -/
def splitOn (isSeparator : α → Bool) : List α → List (List α)
  | [] => [[]]
  | a :: rest =>
      if isSeparator a then [] :: splitOn isSeparator rest
      else consFirst a (splitOn isSeparator rest)

/-- What stands before and after the first separator; `none` without one. -/
def splitOnce? (isSeparator : α → Bool) : List α → Option (List α × List α)
  | [] => none
  | a :: rest =>
      if isSeparator a then some ([], rest)
      else (splitOnce? isSeparator rest).map fun (x, y) => (a :: x, y)

/-- The pieces between line ends, each a carriage return and a line feed. -/
def splitLines : List Char → List (List Char)
  | '\r' :: '\n' :: rest => [] :: splitLines rest
  | c :: rest => consFirst c (splitLines rest)
  | [] => [[]]

/-- An ASCII letter in lower case. -/
def lowerChar (c : Char) : Char :=
  if 'A' ≤ c ∧ c ≤ 'Z' then Char.ofNat (c.toNat + 32) else c

/-- ASCII letters in lower case, all else as it is. -/
def lower (cs : List Char) : List Char := cs.map lowerChar

/-- Equality up to the case of ASCII letters. -/
def eqIgnoringCase (a b : List Char) : Bool := lower a == lower b

end Text

end DemandNet
