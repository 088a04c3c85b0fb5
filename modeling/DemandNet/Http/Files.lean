import DemandNet.Routing.Table

/-!
# Files below a Root

Where a request path leads when a directory is mounted.

What follows the mount path, up to the first question mark, is taken apart at its
slashes, and the pieces are appended to the root. Empty pieces and single dots mean
nothing; two dots would lead out, so they are refused, and so is a backslash, which some
systems take for a slash. A path that names nothing below the mount leads nowhere.

Paths are those of Unix. A piece that is a drive on other systems, and would replace all that
stands in front of it there, is a name like others here.

## Main definitions

* `resolveFile`: The file that a request path leads to.
* `joinPath`: A path with one more piece.
* `contentTypeOf`: The content type that the end of a file name stands for.
-/

namespace DemandNet

namespace Http

/-- A path with one more piece. -/
def joinPath (path piece : List Char) : List Char :=
  if path.isEmpty then piece
  else if path.getLast? == some '/' then path ++ piece
  else path ++ '/' :: piece

/-- The pieces of a path that mean something. -/
def properPieces (path : List Char) : List (List Char) :=
  (Text.splitOn (· == '/') path).filter fun p => !p.isEmpty && p != ['.']

/-- What a request path names below a mount path: it begins with a slash and ends before
    the first question mark. -/
def belowMount? (mount path : List Char) : Option (List Char) :=
  match Routing.afterStart? (Text.trimEndBy (· == '/') mount) path with
  | none => none
  | some rest =>
      let rest := rest.takeWhile (· != '?')
      if rest.head? == some '/' then some (rest.dropWhile (· == '/')) else none

/-- The file that a request path leads to. -/
def resolveFile (root mount path : String) : Option String :=
  match belowMount? mount.toList path.toList with
  | none => none
  | some rest =>
      if rest.isEmpty || rest.contains '\\' then none
      else
        let pieces := properPieces rest
        if pieces.contains ['.', '.'] then none
        else some (String.ofList (pieces.foldl joinPath root.toList))

/-- The last piece of a path that means something. -/
def fileName (path : List Char) : List Char :=
  (properPieces path).getLast?.getD []

/-- What follows the last dot of a file name, unless the dot is its first character. -/
def extension? (name : List Char) : Option (List Char) :=
  let after := (name.reverse.takeWhile (· != '.')).reverse
  if after.length + 1 < name.length && name != ['.', '.'] then some after else none

/-- The content type that the end of a file name stands for. -/
def contentTypeOf (path : String) : String :=
  match ((extension? (fileName path.toList)).map fun e => String.ofList (Text.lower e)) with
  | some "html" | some "htm" => "text/html; charset=utf-8"
  | some "css" => "text/css"
  | some "js" => "application/javascript"
  | some "json" => "application/json"
  | some "txt" => "text/plain; charset=utf-8"
  | some "png" => "image/png"
  | some "jpg" | some "jpeg" => "image/jpeg"
  | some "gif" => "image/gif"
  | some "svg" => "image/svg+xml"
  | _ => "application/octet-stream"

end Http

end DemandNet
