/-!
# Punycode

Characters beyond ASCII written with letters, digits and hyphens.

The ASCII characters of a text stand in front, up to the last hyphen. What follows are
numbers, each of which says what is inserted next and where: all pairs of a character and
a place are counted through, and a number is the distance from one insertion to the next.
A number is written with its lowest digit first; a digit below a threshold ends it. The
thresholds follow a bias, which adapts to the numbers seen before.

Reading goes through the digits one by one; `Reading` is what is known between two of
them.

## Main definitions

* `Punycode.decode?`: The text that is spelled.
* `Punycode.encode`: The spelling of a text.
-/

namespace DemandNet

namespace Url

namespace Punycode

/-- The bias that follows a number. -/
def adapt (delta count : Nat) (first : Bool) : Nat :=
  let delta := if first then delta / 700 else delta / 2
  go (delta + delta / count) 0 64
where
  /-- Large numbers are brought down by a factor at a time. -/
  go (delta k : Nat) : Nat → Nat
    | 0 => k
    | fuel + 1 =>
        if 455 < delta then go (delta / 35) (k + 36) fuel
        else k + 36 * delta / (delta + 38)

/-- The threshold of a digit: at least 1 and at most 26. -/
def threshold (k bias : Nat) : Nat :=
  max 1 (min 26 (k - bias))

/-- The value of a digit. -/
def digit? (c : Char) : Option Nat :=
  if 'a' ≤ c ∧ c ≤ 'z' then some (c.toNat - 97)
  else if 'A' ≤ c ∧ c ≤ 'Z' then some (c.toNat - 65)
  else if '0' ≤ c ∧ c ≤ '9' then some (c.toNat - 22)
  else none

/-- The digit of a value. -/
def ofDigit (n : Nat) : Char :=
  if n < 26 then Char.ofNat (97 + n) else Char.ofNat (22 + n)

/-- What is known between two digits. -/
structure Reading where
  output : List Nat
  /-- The character that was inserted last. -/
  code : Nat
  /-- The place behind the last insertion. -/
  place : Nat
  bias : Nat
  /-- The part of the current number that was read. -/
  delta : Nat
  weight : Nat
  /-- The place value of the next digit, as thresholds count it. -/
  k : Nat
  deriving Repr, DecidableEq, Inhabited

namespace Reading

/-- A number was read to its end: insert a character. -/
def insert? (r : Reading) (delta : Nat) : Option Reading :=
  let count := r.output.length + 1
  let place := r.place + delta
  let code := r.code + place / count
  let place := place % count
  if Nat.isValidChar code then
    some { output := r.output.take place ++ code :: r.output.drop place
           code, place := place + 1
           bias := adapt delta count (r.place == 0)
           delta := 0, weight := 1, k := 36 }
  else none

/-- One more digit. -/
def step? (r : Reading) (c : Char) : Option Reading :=
  match digit? c with
  | none => none
  | some d =>
      let delta := r.delta + d * r.weight
      let t := threshold r.k r.bias
      if d < t then r.insert? delta
      else some { r with delta, weight := r.weight * (36 - t), k := r.k + 36 }

/-- All digits were read and the last one ended a number. -/
def isComplete (r : Reading) : Bool := r.k == 36

end Reading

/-- What stands before the last hyphen, and what follows it. -/
def splitLastHyphen (cs : List Char) : List Char × List Char :=
  let after := (cs.reverse.takeWhile (· != '-')).reverse
  (cs.take (cs.length - after.length - 1), after)

/-- The text that is spelled. -/
def decode? (cs : List Char) : Option (List Char) :=
  let (basic, digits) := splitLastHyphen cs
  if basic.any fun c => 128 ≤ c.toNat then none
  else
    let start : Reading :=
      { output := basic.map Char.toNat, code := 128, place := 0, bias := 72, delta := 0,
        weight := 1, k := 36 }
    match digits.foldlM Reading.step? start with
    | some r => if r.isComplete then some (r.output.map Char.ofNat) else none
    | none => none

/-- A threshold is positive. -/
theorem threshold_pos (k bias : Nat) : 0 < threshold k bias := Nat.le_max_left ..

/-- A number, its lowest digit first. -/
def numberDigits (bias : Nat) (q k : Nat) : List Char :=
  if q < threshold k bias then [ofDigit q]
  else
    let t := threshold k bias
    ofDigit (t + (q - t) % (36 - t)) :: numberDigits bias ((q - t) / (36 - t)) (k + 36)
termination_by q
decreasing_by
  have h1 := threshold_pos k bias
  exact Nat.lt_of_le_of_lt (Nat.div_le_self ..) (by omega)

/-- What is known between two insertions of a text that is written. -/
structure Writing where
  digits : List Char
  delta : Nat
  bias : Nat
  /-- The number of characters that are already there. -/
  count : Nat
  first : Bool
  deriving Repr, DecidableEq, Inhabited

/-- Go past one character of the text while `code` is inserted. -/
def Writing.pass (code : Nat) (w : Writing) (c : Nat) : Writing :=
  if c < code then { w with delta := w.delta + 1 }
  else if c = code then
    { digits := w.digits ++ numberDigits w.bias w.delta 36
      delta := 0
      bias := adapt w.delta (w.count + 1) w.first
      count := w.count + 1
      first := false }
  else w

/-- Insert characters in increasing order, where `next` is the least that may follow. -/
def insertions (text : List Nat) (next : Nat) (w : Writing) : List Nat → Writing
  | [] => w
  | code :: rest =>
      let w := { w with delta := w.delta + (code - next) * (w.count + 1) }
      let w := text.foldl (Writing.pass code) w
      insertions text (code + 1) { w with delta := w.delta + 1 } rest

/-- The spelling of a text. -/
def encode (cs : List Char) : List Char :=
  let text := cs.map Char.toNat
  let basic := cs.filter fun c => c.toNat < 128
  let codes := ((text.filter (128 ≤ ·)).mergeSort (· ≤ ·)).eraseDups
  let start : Writing :=
    { digits := [], delta := 0, bias := 72, count := basic.length, first := true }
  (if basic.isEmpty then [] else basic ++ ['-']) ++ (insertions text 128 start codes).digits

end Punycode

end Url

end DemandNet
