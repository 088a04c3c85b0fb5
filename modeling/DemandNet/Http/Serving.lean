import DemandNet.Http.Files
import DemandNet.Http.Site

/-!
# Serving Files

The handlers that come with the library for files and mounted directories.

A file is announced by its length and type and sent in pieces. One that cannot be opened
is not found, and nothing has been announced then, so another route may still answer. The
failure of a file that was found is that of the piece that could not be sent.

## Main definitions

* `FileStore`: The files there are.
* `sendFile`: A file as the response.
* `serveDirectory`: All files below a directory.
* `directoryRoute`: A directory that is mounted at a path.
-/

namespace DemandNet

namespace Http

/-- The contents of the files that can be opened, by their paths. -/
abbrev FileStore := String → Option Bytes

/-- The number of bytes of a file that are sent at a time. -/
def pieceSize : Nat := 16384

/-- Bytes in pieces of the given size, the last of which may be shorter. -/
def piecesOf (size : Nat) (bs : Bytes) : List Bytes :=
  if size = 0 ∨ bs = [] then []
  else bs.take size :: piecesOf size (bs.drop size)
termination_by bs.length
decreasing_by
  rename_i h
  have h1 : bs ≠ [] := fun e => h (Or.inr e)
  have h2 : 0 < bs.length := List.length_pos_iff.2 h1
  have h3 : size ≠ 0 := fun e => h (Or.inl e)
  rw [List.length_drop]
  omega

/-- A file as the response. If the head was flushed before, the file is not announced. -/
def sendFile (files : FileStore) (path : String) : Handler :=
  match files path with
  | none => .fail (.notFound path)
  | some content =>
      let pieces := (piecesOf pieceSize content).map HandlerOp.send
      let body := Handler.attemptAll (.sendHeaders :: pieces)
      .act .headSent fun
        | .flag true => body
        | _ =>
            .attempt (.setHeader "content-length" (Bytes.ofText (toString content.length)))
              (.attempt (.setHeader "content-type" (Bytes.ofText (contentTypeOf path))) body)

/-- Requests for the files below a directory that is mounted at a path. -/
def serveDirectory (files : FileStore) (mount root : String) : Responder := fun incoming =>
  match resolveFile root mount incoming.head.path with
  | some path => sendFile files path
  | none => .fail (.notFound incoming.head.path)

/-- The path that a directory is mounted at, without slashes at its end. -/
def mountPath (mount : String) : String :=
  String.ofList (Routing.normalizeMount mount.toList)

/-- The route of a directory: everything that is to be got at and below the path that it is
    mounted at. -/
def directoryRoute (files : FileStore) (mount root : String) : Routing.Predicate × Responder :=
  (.mountAt (some "GET") mount, serveDirectory files (mountPath mount) root)

end Http

end DemandNet
