import DemandNet.Error
import DemandNet.Http.Headers

/-!
# Boundaries

The boundary of a body in parts, as the content type announces it.

A line of the content type is searched for the word multipart and, after it, for the
last parameter named boundary that has a value: a semicolon, blanks, the name, an equals
sign and at least one character that is no semicolon. The value goes up to the next
semicolon and loses the blanks around it and then its outer quotes. Letter case does not
matter in the words but is kept in the value. The first line that gives something not
empty wins.

## Main definitions

* `boundaryParameter?`: The value in one line.
* `extractBoundary`: The boundary that headers announce.
-/

namespace DemandNet

namespace Http

namespace Multipart

/-- What follows a word at the beginning of a text, whatever the case of its letters. -/
def afterWord? (word cs : List Char) : Option (List Char) :=
  if Text.eqIgnoringCase (cs.take word.length) word then some (cs.drop word.length) else none

/-- The value of a boundary parameter that begins with this semicolon. -/
def boundaryHere? (cs : List Char) : Option (List Char) :=
  match cs with
  | ';' :: rest =>
      match afterWord? "boundary=".toList (rest.dropWhile Text.isBlank) with
      | none => none
      | some value =>
          let value := value.takeWhile (· != ';')
          if value.isEmpty then none else some value
  | _ => none

/-- The value of the last boundary parameter of a text. -/
def lastBoundary? : List Char → Option (List Char)
  | [] => none
  | c :: rest => (lastBoundary? rest).orElse fun _ => boundaryHere? (c :: rest)

/-- The value of the last boundary parameter after the word multipart. -/
def boundaryParameter? : List Char → Option (List Char)
  | [] => none
  | c :: rest =>
      match afterWord? "multipart".toList (c :: rest) with
      | some after => lastBoundary? after
      | none => boundaryParameter? rest

/-- A text without blanks around it and without the quotes around that. -/
def unquoted (cs : List Char) : List Char :=
  Text.trimBy (· == '"') (Text.trim cs)

/-- The boundary that headers announce. -/
def extractBoundary (h : Headers) : Except NetError String :=
  let found := (h.texts "content-type").filterMap fun v =>
    (boundaryParameter? v.toList).map unquoted
  match found.find? (!·.isEmpty) with
  | some b => .ok (String.ofList b)
  | none => .error (.decode "not a valid multipart body")

end Multipart

end Http

end DemandNet
