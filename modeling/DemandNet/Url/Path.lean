import DemandNet.Text.Split
import DemandNet.Url.Percent

/-!
# Paths and Queries of URLs

The path and the query of a URL in the form in which they are sent.

Dots that lead nowhere or upwards are carried out, whether they are written as they are
or by their bytes; upwards from the root is the root. Characters that have a meaning, or
none, are written by their bytes.

## Main definitions

* `resolvePath`: A path in its final form.
* `resolveQuery`: A query in its final form.
-/

namespace DemandNet

namespace Url

/-- The characters that are written by their bytes in every part of a URL. -/
def isAlwaysEscaped (c : Char) : Bool :=
  c.toNat ≤ 32 || "\"<>".toList.contains c

/-- The characters that are written by their bytes in a path. -/
def isPathEscaped (c : Char) : Bool :=
  isAlwaysEscaped c || "`#?\x7b\x7d".toList.contains c

/-- The characters that are written by their bytes in a query. -/
def isQueryEscaped (c : Char) : Bool :=
  isAlwaysEscaped c || "#'".toList.contains c

/-- The piece of a path with its dots written as they are. -/
def plainDots : List Char → List Char
  | '%' :: '2' :: 'e' :: rest | '%' :: '2' :: 'E' :: rest => '.' :: plainDots rest
  | c :: rest => c :: plainDots rest
  | [] => []

/-- What the pieces of a path lead to; `front` holds the pieces before them, the last one
    first. -/
def followPieces (front : List (List Char)) : List (List Char) → List (List Char)
  | [] => front.reverse
  | piece :: rest =>
      let dots := plainDots piece
      let front :=
        if dots = ['.', '.'] then front.drop 1
        else if dots = ['.'] then front
        else percentEncode isPathEscaped piece :: front
      if rest.isEmpty && (dots = ['.', '.'] || dots = ['.']) then ([] :: front).reverse
      else followPieces front rest

/-- A path in its final form. It begins with a slash; slashes may be written backwards. -/
def resolvePath (cs : List Char) : List Char :=
  let isSlash (c : Char) := c == '/' || c == '\\'
  let cs := if cs.head?.any isSlash then cs.drop 1 else cs
  '/' :: ['/'].intercalate (followPieces [] (Text.splitOn isSlash cs))

/-- A query in its final form. -/
def resolveQuery (cs : List Char) : List Char := percentEncode isQueryEscaped cs

end Url

end DemandNet
