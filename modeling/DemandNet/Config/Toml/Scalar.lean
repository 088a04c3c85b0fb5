import DemandNet.Address.Ip
import DemandNet.Config.Value
import DemandNet.Text.Blank

/-!
# Scalars of TOML

Strings, numbers and dates as TOML spells them.

Every reader takes the characters from the first one of the scalar on and returns its
value with what follows it, or `none` if it is not spelled correctly. Numbers have 64
bits and a sign; a number with a fraction must not be above all doubles, while one that is
below all of them is taken for the least. Of dates only the spelling matters, since no
option takes one.

## Main definitions

* `readString?`: A string in any of the four spellings.
* `readNumber?`: A number or a date.
* `isCommentChar`: What may stand in a comment.
-/

namespace DemandNet

namespace Config

namespace Toml

/-- A character that is not ASCII. -/
def isWide (c : Char) : Bool := 0x80 ≤ c.toNat

/-- What may stand in a comment: everything but controls other than the tab. -/
def isCommentChar (c : Char) : Bool :=
  c == '\t' || (0x20 ≤ c.toNat && c.toNat ≤ 0x7E) || isWide c

/-- A line end at the beginning of a text. -/
def readLineEnd? : List Char → Option (List Char)
  | '\n' :: rest => some rest
  | '\r' :: '\n' :: rest => some rest
  | _ => none

/-- The character of a code in hexadecimal digits, if there is one. -/
def codeChar? (digits : List Char) : Option Char :=
  if digits.all (fun c => (Address.hexDigit? c).isSome) then
    let n := Address.numberValue 16 digits
    if n.isValidChar then some (Char.ofNat n) else none
  else none

/-- The character of an escape, without its backslash. -/
def readEscape? : List Char → Option (Char × List Char)
  | 'b' :: rest => some ('\x08', rest)
  | 't' :: rest => some ('\t', rest)
  | 'n' :: rest => some ('\n', rest)
  | 'f' :: rest => some ('\x0c', rest)
  | 'r' :: rest => some ('\r', rest)
  | '"' :: rest => some ('"', rest)
  | '\\' :: rest => some ('\\', rest)
  | 'u' :: rest =>
      if rest.length < 4 then none else (codeChar? (rest.take 4)).map (·, rest.drop 4)
  | 'U' :: rest =>
      if rest.length < 8 then none else (codeChar? (rest.take 8)).map (·, rest.drop 8)
  | _ => none

/-- Put a character in front of what a reader found. -/
def consChar (c : Char) (r : Option (List Char × List Char)) : Option (List Char × List Char) :=
  r.map fun (s, rest) => (c :: s, rest)

/-- The rest of a string in double quotes. -/
def readBasic? (fuel : Nat) (cs : List Char) : Option (List Char × List Char) :=
  match fuel, cs with
  | fuel + 1, c :: rest =>
      if c = '"' then some ([], rest)
      else if c = '\\' then
        (readEscape? rest).bind fun (e, rest) => consChar e (readBasic? fuel rest)
      else if isCommentChar c then consChar c (readBasic? fuel rest)
      else none
  | _, _ => none

/-- The rest of a string in single quotes. -/
def readLiteral? : List Char → Option (List Char × List Char)
  | c :: rest =>
      if c = '\'' then some ([], rest)
      else if isCommentChar c then consChar c (readLiteral? rest)
      else none
  | [] => none

/-- The end of a string in tripled quotes: up to two more quotes belong to it. -/
def closeTripled? (quote : Char) (cs : List Char) : Option (List Char × List Char) :=
  let n := min (cs.takeWhile (· == quote)).length 5
  if 3 ≤ n then some (List.replicate (n - 3) quote, cs.drop n) else none

/-- Blanks and line ends after a backslash at the end of a line; there has to be at least
    one line end. -/
def skipFold? (cs : List Char) : Option (List Char) :=
  (readLineEnd? (cs.dropWhile Text.isPadding)).map fun rest =>
    skipBlankLines rest.length rest
where
  /-- Skip blanks and line ends. -/
  skipBlankLines : Nat → List Char → List Char
    | fuel + 1, cs =>
        let cs := cs.dropWhile Text.isPadding
        match readLineEnd? cs with
        | some rest => skipBlankLines fuel rest
        | none => cs
    | 0, cs => cs

/-- The rest of a string in tripled quotes. In double quotes there are escapes. -/
def readTripled? (quote : Char) (fuel : Nat) (cs : List Char) :
    Option (List Char × List Char) :=
  match fuel, cs with
  | fuel + 1, c :: rest =>
      match closeTripled? quote cs with
      | some r => some r
      | none =>
          match readLineEnd? cs with
          | some rest => consChar '\n' (readTripled? quote fuel rest)
          | none =>
              if c = '\\' && quote = '"' then
                match skipFold? rest with
                | some rest => readTripled? quote fuel rest
                | none =>
                    (readEscape? rest).bind fun (e, rest) =>
                      consChar e (readTripled? quote fuel rest)
              else if isCommentChar c then consChar c (readTripled? quote fuel rest)
              else none
  | _, _ => none

/-- A line end right after the opening quotes does not count. -/
def skipFirstLineEnd (cs : List Char) : List Char := (readLineEnd? cs).getD cs

/-- A string in one pair of quotes. -/
def readQuoted? : List Char → Option (List Char × List Char)
  | '"' :: rest => readBasic? (rest.length + 1) rest
  | '\'' :: rest => readLiteral? rest
  | _ => none

/-- A string in any of the four spellings. -/
def readString? (cs : List Char) : Option (List Char × List Char) :=
  match cs with
  | '"' :: '"' :: '"' :: rest => readTripled? '"' (rest.length + 1) (skipFirstLineEnd rest)
  | '\'' :: '\'' :: '\'' :: rest =>
      readTripled? '\'' (rest.length + 1) (skipFirstLineEnd rest)
  | _ => readQuoted? cs

/-- Digits of a base with single underscores between them. -/
def readDigits? (base : Nat) (cs : List Char) : Option (List Char × List Char) :=
  let isDigit c := (Address.digit? base c).isSome
  let run := cs.takeWhile fun c => isDigit c || c == '_'
  let rest := cs.drop run.length
  let clean := run.filter (· != '_')
  let pairs := run.zip (run.drop 1)
  if run.isEmpty || run.head? == some '_' || run.getLast? == some '_' then none
  else if pairs.any (fun p => p.1 == '_' && p.2 == '_') then none
  else some (clean, rest)

/-- A whole number in the range of 64 bits with a sign. -/
def inRange (i : Int) : Option Value :=
  if -0x8000000000000000 ≤ i ∧ i < 0x8000000000000000 then some (.int i) else none

/-- A whole number in base 16, 8 or 2. -/
def readRadix? (cs : List Char) : Option (Value × List Char) :=
  let go (base : Nat) (rest : List Char) : Option (Value × List Char) := do
    let (ds, rest) ← readDigits? base rest
    let v ← inRange (Address.numberValue base ds)
    return (v, rest)
  match cs with
  | '0' :: 'x' :: rest => go 16 rest
  | '0' :: 'o' :: rest => go 8 rest
  | '0' :: 'b' :: rest => go 2 rest
  | _ => none

/-- A sign at the beginning of a text, as a factor. -/
def readSign : List Char → Int × List Char
  | '+' :: rest => (1, rest)
  | '-' :: rest => (-1, rest)
  | cs => (1, cs)

/-- The exponent of a number; none is zero. -/
def readExponent? (cs : List Char) : Option (Int × List Char) :=
  match cs with
  | 'e' :: rest | 'E' :: rest => do
      let (sign, rest) := readSign rest
      let (ds, rest) ← readDigits? 10 rest
      return (sign * Address.numberValue 10 ds, rest)
  | _ => some (0, cs)

/-- A decimal number is below what a double can hold. Numbers far from that bound are
    decided by their digits and their exponent, without computing the power. -/
def isFinite (digits : List Char) (exponent : Int) : Bool :=
  let n := Address.numberValue 10 digits
  if n = 0 || exponent + digits.length ≤ 308 then true
  else if 310 ≤ exponent then false
  else
    let limit := Nat.pow 2 1024 - Nat.pow 2 970
    if 0 ≤ exponent then n * Nat.pow 10 exponent.toNat < limit
    else n < limit * Nat.pow 10 (-exponent).toNat

/-- A decimal number with or without a fraction. -/
def readDecimal? (cs : List Char) : Option (Value × List Char) := do
  let (sign, rest) := readSign cs
  let (whole, rest) ← readDigits? 10 rest
  if whole.head? == some '0' && 1 < whole.length then none
  let (fraction, rest) ←
    match rest with
    | '.' :: rest => (readDigits? 10 rest).map fun (f, rest) => (some f, rest)
    | _ => some (none, rest)
  let before := rest.length
  let (exponent, rest) ← readExponent? rest
  if fraction.isNone && rest.length = before then
    let v ← inRange (sign * Address.numberValue 10 whole)
    return (v, rest)
  else
    let f := fraction.getD []
    if sign < 0 || isFinite (whole ++ f) (exponent - f.length) then return (.fraction, rest)
    else none

/-- What is no number, and what is beyond all numbers. -/
def readSpecial? (cs : List Char) : Option (Value × List Char) :=
  match (readSign cs).2 with
  | 'i' :: 'n' :: 'f' :: rest => some (.fraction, rest)
  | 'n' :: 'a' :: 'n' :: rest => some (.fraction, rest)
  | _ => none

/-- A number of exactly `n` decimal digits. -/
def readFixed? (n : Nat) (cs : List Char) : Option (Nat × List Char) :=
  let ds := cs.take n
  if ds.length = n && ds.all Char.isDigit then some (Address.numberValue 10 ds, cs.drop n)
  else none

/-- The number of days of a month. -/
def daysOf (year month : Nat) : Nat :=
  if month = 2 then
    if year % 4 = 0 && (year % 100 != 0 || year % 400 = 0) then 29 else 28
  else if [4, 6, 9, 11].contains month then 30
  else 31

/-- A day of the calendar. -/
def readDate? (cs : List Char) : Option (List Char) := do
  let (year, cs) ← readFixed? 4 cs
  let cs ← Address.readChar? '-' cs
  let (month, cs) ← readFixed? 2 cs
  let cs ← Address.readChar? '-' cs
  let (day, cs) ← readFixed? 2 cs
  if 1 ≤ month && month ≤ 12 && 1 ≤ day && day ≤ daysOf year month then some cs else none

/-- A time of day, perhaps with a fraction of a second. -/
def readTime? (cs : List Char) : Option (List Char) := do
  let (hour, cs) ← readFixed? 2 cs
  let cs ← Address.readChar? ':' cs
  let (minute, cs) ← readFixed? 2 cs
  let cs ← Address.readChar? ':' cs
  let (second, cs) ← readFixed? 2 cs
  if 23 < hour || 59 < minute || 60 < second then none
  match cs with
  | '.' :: rest =>
      let ds := rest.takeWhile Char.isDigit
      if ds.isEmpty then none else some (rest.drop ds.length)
  | _ => some cs

/-- A time zone; there need not be one. -/
def readOffset? (cs : List Char) : Option (List Char) :=
  let shifted (rest : List Char) : Option (List Char) := do
    let (hour, rest) ← readFixed? 2 rest
    let rest ← Address.readChar? ':' rest
    let (minute, rest) ← readFixed? 2 rest
    if hour ≤ 23 && minute ≤ 59 then some rest else none
  match cs with
  | 'Z' :: rest | 'z' :: rest => some rest
  | '+' :: rest | '-' :: rest => shifted rest
  | _ => some cs

/-- A date, a time, or both. Between the two stands a letter T or a space; a space that
    no digit follows does not belong to the date. -/
def readDateTime? (cs : List Char) : Option (List Char) :=
  match readDate? cs with
  | none => readTime? cs
  | some rest =>
      match rest with
      | 'T' :: after | 't' :: after => (readTime? after).bind readOffset?
      | ' ' :: d :: after =>
          if d.isDigit then (readTime? (d :: after)).bind readOffset? else some rest
      | _ => some rest

/-- A number or a date. -/
def readNumber? (cs : List Char) : Option (Value × List Char) :=
  ((readDateTime? cs).map fun rest => (Value.date, rest)).orElse fun _ =>
    (readRadix? cs).orElse fun _ => (readSpecial? cs).orElse fun _ => readDecimal? cs

end Toml

end Config

end DemandNet
