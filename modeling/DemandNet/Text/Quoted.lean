import DemandNet.Text.Printable

/-!
# Quoted Text

The quoted form in which messages and descriptions show a text.

The text stands between double quotes; a double quote and a backslash inside are
preceded by a backslash, the four usual controls have a letter of their own, and
whatever cannot be seen is written as its code in hexadecimal.

## Main definitions

* `quotedChar`: One character in quoted form.
* `quoted`: A text in quoted form.
* `optionalQuoted`: The form of a text that may be missing.
-/

namespace DemandNet

namespace Text

/-- The code of a character: `\\u`, then its number in hexadecimal in braces. -/
def codeEscape (c : Char) : List Char :=
  ['\\', 'u', '\x7b'] ++ Nat.toDigits 16 c.toNat ++ ['\x7d']

/-- One character inside double quotes. -/
def quotedChar (c : Char) : List Char :=
  if c = '\x00' then ['\\', '0']
  else if c = '\t' then ['\\', 't']
  else if c = '\r' then ['\\', 'r']
  else if c = '\n' then ['\\', 'n']
  else if c = '"' || c = '\\' then ['\\', c]
  else if isPrintable c then [c]
  else codeEscape c

/-- A text between double quotes. -/
def quoted (s : String) : String :=
  String.ofList ('"' :: s.toList.flatMap quotedChar ++ ['"'])

/-- A text that may be missing: `None`, or `Some` with the quoted text. -/
def optionalQuoted : Option String → String
  | none => "None"
  | some s => "Some(" ++ quoted s ++ ")"

end Text

end DemandNet
