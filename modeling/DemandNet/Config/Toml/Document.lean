import DemandNet.Config.Toml.Scalar
import DemandNet.Config.Toml.Tree

/-!
# Documents of TOML

Reading a TOML document.

A document is a sequence of lines: headers, keys with values, comments and empty lines.
A value may spread over several lines if it is an array or a string in tripled quotes.
Arrays and inline tables may be nested, but not arbitrarily deep.

## Main definitions

* `readKey?`: A key, with its dots.
* `readValue?`: A value.
* `parse?`: The value of a document.
-/

namespace DemandNet

namespace Config

namespace Toml

/-- The depth at which nesting ends, for values and for keys with dots. -/
def nestingLimit : Nat := 80

/-- What may stand in a key without quotes. -/
def isBareKeyChar (c : Char) : Bool := c.isAlphanum || c == '-' || c == '_'

/-- A key between dots. -/
def readSimpleKey? (cs : List Char) : Option (String × List Char) :=
  match readQuoted? cs with
  | some (s, rest) => some (String.ofList s, rest)
  | none =>
      let s := cs.takeWhile isBareKeyChar
      if s.isEmpty then none else some (String.ofList s, cs.drop s.length)

/-- The parts of a key, at most `fuel` of them. -/
def readKeyParts? : Nat → List Char → Option (List String × List Char)
  | 0, _ => none
  | fuel + 1, cs => do
      let (part, rest) ← readSimpleKey? (cs.dropWhile Text.isPadding)
      match rest.dropWhile Text.isPadding with
      | '.' :: more =>
          let (parts, rest) ← readKeyParts? fuel more
          return (part :: parts, rest)
      | rest => return ([part], rest)

/-- A key with its dots: what stands before the last dot, and what stands after it. The
    blanks around it are taken too. -/
def readKey? (cs : List Char) : Option (List String × String × List Char) := do
  let (parts, rest) ← readKeyParts? (nestingLimit - 1) cs
  let last ← parts.getLast?
  return (parts.dropLast, last, rest)

/-- What follows a comment. -/
def skipComment : List Char → List Char
  | '#' :: rest => rest.dropWhile isCommentChar
  | cs => cs

/-- What follows blanks, line ends and comments; `none` if a comment does not end with its
    line. -/
def skipGaps? : Nat → List Char → Option (List Char)
  | 0, cs => some cs
  | fuel + 1, cs =>
      match cs with
      | c :: rest =>
          if Text.isPadding c then skipGaps? fuel rest
          else if c = '#' then
            (readLineEnd? (skipComment cs)).bind (skipGaps? fuel)
          else
            match readLineEnd? cs with
            | some rest => skipGaps? fuel rest
            | none => some cs
      | [] => some []

/-- Skip the gaps of a text. -/
def skipAllGaps? (cs : List Char) : Option (List Char) := skipGaps? (cs.length + 1) cs

/-- The items of an array up to its closing bracket, each read by `item`. -/
def readItems? (item : List Char → Option (Value × List Char)) :
    Nat → List Char → Option (List Value × List Char)
  | 0, _ => none
  | fuel + 1, cs => do
      let cs ← skipAllGaps? cs
      match cs with
      | ']' :: rest => return ([], rest)
      | _ =>
          let (v, rest) ← item cs
          match ← skipAllGaps? rest with
          | ',' :: rest =>
              let (vs, rest) ← readItems? item fuel rest
              return (v :: vs, rest)
          | ']' :: rest => return ([v], rest)
          | _ => none

/-- A key with its value, the latter read by `item`. -/
def readField? (item : List Char → Option (Value × List Char)) (cs : List Char) :
    Option (List String × String × Value × List Char) := do
  let (path, key, rest) ← readKey? cs
  let rest ← Address.readChar? '=' rest
  let (v, rest) ← item (rest.dropWhile Text.isPadding)
  return (path, key, v, rest)

/-- The fields of an inline table up to its closing brace, added to those before. -/
def readFields? (item : List Char → Option (Value × List Char)) :
    Nat → Entries → List Char → Option (Entries × List Char)
  | 0, _, _ => none
  | fuel + 1, es, cs => do
      let (path, key, v, rest) ← readField? item cs
      let es ← es.insertKey? path key (.leaf v)
      match rest.dropWhile Text.isPadding with
      | ',' :: rest => readFields? item fuel es rest
      | '\x7d' :: rest => return (es, rest)
      | _ => none

/-- A value; `depth` says how much deeper values may be nested in it. -/
def readValue? : Nat → List Char → Option (Value × List Char)
  | depth, cs =>
    match cs with
    | '"' :: _ | '\'' :: _ => (readString? cs).map fun (s, rest) => (.text (String.ofList s), rest)
    | 't' :: 'r' :: 'u' :: 'e' :: rest => some (.bool true, rest)
    | 'f' :: 'a' :: 'l' :: 's' :: 'e' :: rest => some (.bool false, rest)
    | '[' :: rest =>
        match depth with
        | 0 => none
        | depth + 1 =>
            (readItems? (readValue? depth) (rest.length + 1) rest).map fun (vs, rest) =>
              (.list vs, rest)
    | '\x7b' :: rest =>
        match depth with
        | 0 => none
        | depth + 1 =>
            match rest.dropWhile Text.isPadding with
            | '\x7d' :: rest => some (.table [], rest)
            | rest =>
                (readFields? (readValue? depth) (rest.length + 1) [] rest).map fun (es, rest) =>
                  (.table (Entries.toFields es), rest)
    | _ => readNumber? cs

/-- A document that was read up to some line: its tables, and the path of the table that
    the last header opened. -/
structure Document where
  root : Entries
  path : List String

/-- A line end after blanks and perhaps a comment; the end of the text will do. -/
def endLine? (cs : List Char) : Option (List Char) :=
  match skipComment (cs.dropWhile Text.isPadding) with
  | [] => some []
  | rest => readLineEnd? rest

/-- The path between the brackets of a header. -/
def readHeader? (closing cs : List Char) : Option (List String × String × List Char) := do
  let (path, key, rest) ← readKey? cs
  if closing.isPrefixOf rest then return (path, key, rest.drop closing.length) else none

/-- One line of a document. -/
def readLine? (d : Document) (cs : List Char) : Option (Document × List Char) :=
  match cs.dropWhile Text.isPadding with
  | '[' :: '[' :: rest => do
      let (path, key, rest) ← readHeader? [']', ']'] rest
      let root ← d.root.openElement? path key
      let rest ← endLine? rest
      return (⟨root, path ++ [key]⟩, rest)
  | '[' :: rest => do
      let (path, key, rest) ← readHeader? [']'] rest
      let root ← d.root.openTable? path key
      let rest ← endLine? rest
      return (⟨root, path ++ [key]⟩, rest)
  | c :: rest =>
      if c = '#' || (readLineEnd? (c :: rest)).isSome then
        (endLine? (c :: rest)).map fun rest => (d, rest)
      else do
        let (path, key, v, rest) ← readField? (readValue? (nestingLimit - 1)) (c :: rest)
        let root ← d.root.inside? d.path fun es => es.insertKey? path key (.leaf v)
        let rest ← endLine? rest
        return (⟨root, d.path⟩, rest)
  | [] => some (d, [])

/-- The lines of a document, at most `fuel` of them. -/
def readLines? : Nat → Document → List Char → Option Document
  | _, d, [] => some d
  | 0, _, _ => none
  | fuel + 1, d, cs => do
      let (d, rest) ← readLine? d cs
      readLines? fuel d rest

/-- The value of a document. A mark of the byte order at its beginning does not count. -/
def parse? (s : String) : Option Value :=
  let cs :=
    match s.toList with
    | '\ufeff' :: rest => rest
    | cs => cs
  (readLines? (cs.length + 1) ⟨[], []⟩ cs).map fun d => .table (Entries.toFields d.root)

end Toml

end Config

end DemandNet
