import DemandNet.Routing.Pattern
import DemandNet.Text.Split

/-!
# Path Templates

Patterns for request paths, and what they capture.

A template is cut at its slashes. A name in braces stands for one segment that is not
empty and captures it, a star stands for such a segment without capturing it, and two
stars at the end stand for everything that follows, as long as it is a single line.
Every other segment stands for itself, to the letter. Names in braces are identifiers;
anything else in braces stands for itself too.

A template in which every segment stands for itself is compared with the path. Any other
is turned into a pattern, segment by segment. If that cannot be read as a pattern, which
is so if the template uses a name twice, the template stands for itself as a whole.

## Main definitions

* `Params`: Captured values by name.
* `Segment`: What a segment of a template stands for.
* `PathTemplate`: A template that was read.
* `PathTemplate.match?`: What a template captures from a path.
-/

namespace DemandNet

namespace Routing

/-- Captured values by name; each name occurs once. -/
abbrev Params := List (String × String)

namespace Params

/-- The value of a name. -/
def get? (p : Params) (name : String) : Option String := p.lookup name

/-- A value of a name instead of the one it may have had. -/
def insert (p : Params) (name value : String) : Params :=
  p.filter (fun f => f.1 != name) ++ [(name, value)]

/-- The values of both, those of the second where a name is in both. -/
def merge (p q : Params) : Params := q.foldl (fun acc f => acc.insert f.1 f.2) p

end Params

/-- What a segment of a template stands for. -/
inductive Segment where
  | literal (text : List Char)
  /-- One segment, which is captured. -/
  | capture (name : List Char)
  /-- One segment, which is not captured. -/
  | anything
  /-- Everything that follows. -/
  | remainder
  deriving Repr, DecidableEq

/-- The name between the braces of a segment. -/
def captureName? (segment : List Char) : Option (List Char) :=
  match segment with
  | '\x7b' :: rest =>
      if rest.getLast? = some '\x7d' ∧ isIdentifier rest.dropLast then some rest.dropLast
      else none
  | _ => none

namespace Segment

/-- What a segment stands for. -/
def ofText (isLast : Bool) (segment : List Char) : Segment :=
  match captureName? segment with
  | some name => capture name
  | none =>
      if segment = ['*', '*'] ∧ isLast then remainder
      else if segment = ['*'] then anything
      else literal segment

/-- What the pieces of a template stand for. -/
def ofTexts : List (List Char) → List Segment
  | [] => []
  | [s] => [ofText true s]
  | s :: rest => ofText false s :: ofTexts rest

/-- The name that a segment captures. -/
def name? : Segment → Option (List Char)
  | capture name => some name
  | _ => none

/-- The segment stands for itself. -/
def isLiteral : Segment → Bool
  | literal _ => true
  | _ => false

/-- A segment as a part of a pattern. -/
def spelling : Segment → List Char
  | literal text => Pattern.escape text
  | capture name => "(?P<".toList ++ name ++ ">[^/]+)".toList
  | anything => "[^/]+".toList
  | remainder => ".*".toList

/-- Segments as a part of a pattern, with slashes between them. -/
def spellings : List Segment → List Char
  | [] => []
  | [s] => s.spelling
  | s :: rest => s.spelling ++ '/' :: spellings rest

end Segment

/-- A template that was read. -/
structure PathTemplate where
  raw : String
  /-- What it was turned into; without a pattern it stands for itself. -/
  pattern? : Option Pattern
  /-- The names that it captures. -/
  names : List (List Char)
  deriving Repr, DecidableEq

namespace PathTemplate

/-- The template that a text spells. -/
def ofText (raw : String) : PathTemplate :=
  let segments := Segment.ofTexts (Text.splitOn (· == '/') raw.toList)
  let literally : PathTemplate := { raw, pattern? := none, names := [] }
  if segments.all Segment.isLiteral then literally
  else
    match Pattern.read? ('^' :: Segment.spellings segments ++ ['$']) with
    | none => literally
    | some pattern =>
        { raw, pattern? := some pattern, names := segments.filterMap Segment.name? }

/-- What a template captures from a path; `none` if it does not match. -/
def match? (t : PathTemplate) (path : String) : Option Params :=
  match t.pattern? with
  | none => if path = t.raw then some [] else none
  | some pattern =>
      (pattern.match? path.toList).map fun captures =>
        t.names.filterMap fun name =>
          (captures.lookup name).map fun value => (String.ofList name, String.ofList value)

end PathTemplate

end Routing

end DemandNet
