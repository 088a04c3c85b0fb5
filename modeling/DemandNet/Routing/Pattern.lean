/-!
# Patterns

The notation for texts that path templates are turned into, and what it describes.

A pattern stands between `^` and `$`, so it describes whole texts. In between are pieces:
a character that stands for itself, a dot for any character but a line feed, or a class in
brackets for any character but the one it names. A plus sign behind a piece repeats it at
least once, a star any number of times. A piece in parentheses has a name, and what it
takes of a text is captured under that name. Characters that mean something in the
notation stand for themselves behind a backslash.

This is the part of the usual notation that templates need. Whatever else it has is
refused, and so is a pattern that gives one name to two pieces.

A piece takes as much as it can and gives back what the pieces behind it need.

## Main definitions

* `Pattern.escape`: A text as a pattern that describes it alone.
* `Pattern.read?`: The pattern that a text spells.
* `Pattern.match?`: What a pattern captures from a text.
-/

namespace DemandNet

namespace Routing

/-- A class of characters. -/
inductive CharClass where
  | only (c : Char)
  | except (c : Char)
  deriving Repr, DecidableEq

/-- The character is in the class. -/
def CharClass.has : CharClass → Char → Bool
  | only c, d => d == c
  | except c, d => d != c

/-- How many characters a piece takes. -/
inductive Count where
  | one
  | oneOrMore
  | zeroOrMore
  deriving Repr, DecidableEq

/-- A piece of a pattern: characters of a class, captured if it has a name. -/
structure Piece where
  name? : Option (List Char)
  chars : CharClass
  count : Count
  deriving Repr, DecidableEq

/-- A pattern: pieces, one behind the other. -/
abbrev Pattern := List Piece

/-- Captured texts by name. -/
abbrev Captures := List (List Char × List Char)

/-- What a piece captures of the characters that it takes. -/
def Piece.capture (p : Piece) (taken : List Char) : Captures :=
  match p.name? with
  | some name => [(name, taken)]
  | none => []

/-- A letter or an underscore. -/
def isNameStart (c : Char) : Bool := c.isAlpha || c == '_'

/-- A letter, a digit or an underscore. -/
def isNameRest (c : Char) : Bool := c.isAlphanum || c == '_'

/-- An identifier. -/
def isIdentifier : List Char → Bool
  | [] => false
  | c :: rest => isNameStart c && rest.all isNameRest

namespace Pattern

/-! ### Notation -/

/-- The characters that may stand behind a backslash. -/
def specials : List Char := "\\.+*?()|[]\x7b\x7d^$#&-~".toList

/-- The characters that do not stand for themselves without one. -/
def operators : List Char := "\\.+*?()|[\x7b^$".toList

/-- A text as a pattern that describes it alone. -/
def escape (text : List Char) : List Char :=
  text.flatMap fun c => if c ∈ specials then ['\\', c] else [c]

/-- The class of characters at the beginning of a text, and what follows it. -/
def readClass? : List Char → Option (CharClass × List Char)
  | '.' :: rest => some (.except '\n', rest)
  | '[' :: '^' :: c :: ']' :: rest => if c ∈ specials then none else some (.except c, rest)
  | '\\' :: c :: rest => if c ∈ specials then some (.only c, rest) else none
  | c :: rest => if c ∈ operators then none else some (.only c, rest)
  | [] => none

/-- How often what stands before this text is repeated, and what follows that. -/
def readCount : List Char → Count × List Char
  | '+' :: rest => (.oneOrMore, rest)
  | '*' :: rest => (.zeroOrMore, rest)
  | rest => (.one, rest)

/-- The piece without a name at the beginning of a text, and what follows it. -/
def readPlain? (name? : Option (List Char)) (cs : List Char) : Option (Piece × List Char) :=
  (readClass? cs).map fun (chars, rest) =>
    ({ name?, chars, count := (readCount rest).1 }, (readCount rest).2)

/-- The piece at the beginning of a text, and what follows it. -/
def readPiece? : List Char → Option (Piece × List Char)
  | '(' :: '?' :: 'P' :: '<' :: cs =>
      let name := cs.takeWhile (· != '>')
      if isIdentifier name then
        match readPlain? (some name) ((cs.dropWhile (· != '>')).drop 1) with
        | some (p, ')' :: rest) => some (p, rest)
        | _ => none
      else none
  | cs => readPlain? none cs

theorem readClass?_length {cs rest : List Char} {k : CharClass}
    (h : readClass? cs = some (k, rest)) : rest.length < cs.length := by
  unfold readClass? at h
  split at h
  · cases h
    exact Nat.lt_succ_self _
  · split at h
    · cases h
    · cases h
      simp only [List.length_cons]
      omega
  · split at h
    · cases h
      simp only [List.length_cons]
      omega
    · cases h
  · split at h
    · cases h
    · cases h
      exact Nat.lt_succ_self _
  · cases h

theorem readCount_length (cs : List Char) : (readCount cs).2.length ≤ cs.length := by
  unfold readCount
  split
  · exact Nat.le_succ _
  · exact Nat.le_succ _
  · exact Nat.le_refl _

theorem readPlain?_length {name? : Option (List Char)} {cs rest : List Char} {p : Piece}
    (h : readPlain? name? cs = some (p, rest)) : rest.length < cs.length := by
  unfold readPlain? at h
  rcases Option.map_eq_some_iff.1 h with ⟨⟨k, after⟩, hclass, heq⟩
  cases heq
  have hcount := readCount_length after
  have hlength := readClass?_length hclass
  omega

-- So reading one piece after the other comes to an end.
theorem readPiece?_length {cs rest : List Char} {p : Piece}
    (h : readPiece? cs = some (p, rest)) : rest.length < cs.length := by
  unfold readPiece? at h
  split at h
  · rename_i cs
    dsimp only at h
    split at h
    · split at h
      · rename_i rest' hplain
        cases h
        have hlength := readPlain?_length hplain
        have hname : (cs.dropWhile (· != '>')).length ≤ cs.length :=
          (List.dropWhile_suffix _).length_le
        rw [List.length_drop, List.length_cons] at hlength
        simp only [List.length_cons]
        omega
      · cases h
    · cases h
  · exact readPlain?_length h

/-- The pieces up to the end of a pattern. -/
def readPieces? (cs : List Char) : Option Pattern :=
  if cs = ['$'] then some []
  else
    match h : readPiece? cs with
    | none => none
    | some (p, rest) =>
        have : rest.length < cs.length := readPiece?_length h
        (readPieces? rest).map (p :: ·)
  termination_by cs.length

/-- The names of the pieces that have one. -/
def names (ps : Pattern) : List (List Char) := ps.filterMap Piece.name?

/-- The pattern that a text spells; `none` if it spells none. -/
def read? : List Char → Option Pattern
  | '^' :: cs =>
      match readPieces? cs with
      | none => none
      | some ps => if ps.names.Nodup then some ps else none
  | _ => none

/-! ### Matching -/

/-- Take as many characters of a class as possible for which what follows can be matched;
    the answer is what was taken, and what was made of the rest. -/
def takeMost (chars : CharClass) (next : List Char → Option β) :
    List Char → Option (List Char × β)
  | [] => (next []).map fun b => ([], b)
  | c :: rest =>
      match if chars.has c then takeMost chars next rest else none with
      | some (taken, b) => some (c :: taken, b)
      | none => (next (c :: rest)).map fun b => ([], b)

/-- Take a character of a class, and then what `more` takes. -/
def takeFirst (chars : CharClass) (more : List Char → Option (List Char × β)) :
    List Char → Option (List Char × β)
  | [] => none
  | c :: rest =>
      if chars.has c then (more rest).map fun (taken, b) => (c :: taken, b) else none

/-- Take what a piece takes. -/
def takePiece (p : Piece) (next : List Char → Option β) :
    List Char → Option (List Char × β) :=
  match p.count with
  | .one => takeFirst p.chars fun rest => (next rest).map fun b => ([], b)
  | .oneOrMore => takeFirst p.chars (takeMost p.chars next)
  | .zeroOrMore => takeMost p.chars next

/-- What a pattern captures from a text; `none` if it does not describe the text. -/
def match? : Pattern → List Char → Option Captures
  | [], cs => if cs.isEmpty then some [] else none
  | p :: ps, cs =>
      (takePiece p (fun rest => match? ps rest) cs).map fun (taken, captures) =>
        p.capture taken ++ captures

end Pattern

end Routing

end DemandNet
