import DemandNet.Url.Host
import DemandNet.Url.Path

/-!
# URLs

Reading absolute URLs.

A URL begins with a scheme. The schemes with a known form have a host, a port if it is
not the usual one, a path and a query; their slashes may be too many, too few or
backward. A file may have a host. All other schemes have a host if two slashes follow.
Blanks at the ends, and tabs and line ends anywhere, are passed over.

What stands before the last at sign of the host is a user's name and password. These are
read over, since connections are opened without them.

## Main definitions

* `Scheme`: The sorts of schemes.
* `Location`: A URL.
* `Location.parse`: The URL that a text spells.
* `Location.authority`, `Location.target`: What a request says of the URL.
-/

namespace DemandNet

namespace Url

/-- The sorts of schemes. -/
inductive SchemeSort where
  /-- The scheme has a host and perhaps a usual port. -/
  | hosted (port : Nat)
  | file
  | other
  deriving Repr, DecidableEq, Inhabited

namespace SchemeSort

/-- The sort of a scheme. -/
def ofName : String → SchemeSort
  | "http" | "ws" => hosted 80
  | "https" | "wss" => hosted 443
  | "ftp" => hosted 21
  | "file" => file
  | _ => other

/-- The usual port. -/
def port? : SchemeSort → Option Nat
  | hosted p => some p
  | _ => none

/-- Slashes may be written backwards. -/
def foldsSlashes : SchemeSort → Bool
  | other => false
  | _ => true

end SchemeSort

/-- A URL. -/
structure Location where
  scheme : String
  host : Option Host
  /-- The port, if it is not the usual one. -/
  port : Option Nat
  /-- What follows the host, up to the query. -/
  path : String
  query : Option String
  deriving Repr, DecidableEq, Inhabited

/-- A character that ends a host with its port. -/
def endsAuthority (sort : SchemeSort) (c : Char) : Bool :=
  c == '/' || c == '?' || c == '#' || (sort.foldsSlashes && c == '\\')

/-- The scheme in small letters, with what follows its colon. -/
def readScheme? (cs : List Char) : Option (String × List Char) :=
  let name := cs.takeWhile fun c => c.isAlphanum || "+-.".toList.contains c
  if !(name.head?.any Char.isAlpha) then none
  else
    match cs.drop name.length with
    | ':' :: rest => some (String.ofList (Text.lower name), rest)
    | _ => none

/-- What follows the last at sign. -/
def afterLastAt? (cs : List Char) : Option (List Char × List Char) :=
  if cs.contains '@' then
    let after := (cs.reverse.takeWhile (· != '@')).reverse
    some (cs.take (cs.length - after.length - 1), after)
  else none

/-- Read over a user's name and password; the answer says whether there are any. -/
def readUser (sort : SchemeSort) (cs : List Char) : Except Defect (Bool × List Char) :=
  let authority := cs.takeWhile fun c => !endsAuthority sort c
  match afterLastAt? authority with
  | none => .ok (false, cs)
  | some (user, after) =>
      let rest := cs.drop (user.length + 1)
      if user.isEmpty && after.isEmpty && !rest.isEmpty then .error .emptyHost
      else .ok (!user.isEmpty && user != [':'], rest)

/-- The host up to its end: a colon ends it unless it stands in brackets. -/
def hostLength (sort : SchemeSort) (bracketed : Bool) : List Char → Nat
  | [] => 0
  | c :: rest =>
      if endsAuthority sort c || (c == ':' && !bracketed) then 0
      else
        let bracketed := if c == '[' then true else if c == ']' then false else bracketed
        hostLength sort bracketed rest + 1

/-- A host, with what follows it; nothing is a host without a name. -/
def readHost (sort : SchemeSort) (cs : List Char) : Except Defect (Host × List Char) :=
  let n := hostLength sort false cs
  let (text, rest) := (cs.take n, cs.drop n)
  match sort with
  | .other => (Host.parseOpaque text).map fun h => (h, rest)
  | _ => if text.isEmpty then .error .emptyHost else (Host.parse text).map fun h => (h, rest)

/-- The digits of a port, as far as the port stays in range. -/
def readPortDigits (n : Nat) : List Char → Except Defect (Nat × List Char)
  | [] => .ok (n, [])
  | c :: rest =>
      if c.isDigit then
        let n := n * 10 + (c.toNat - 48)
        if 65535 < n then .error .port else readPortDigits n rest
      else if endsAuthority (.hosted 0) c then .ok (n, c :: rest)
      else .error .port

/-- A port that is not the usual one, with what follows it. -/
def readPort (sort : SchemeSort) (cs : List Char) : Except Defect (Option Nat × List Char) :=
  match cs with
  | ':' :: rest =>
      (readPortDigits 0 rest).map fun (n, rest') =>
        (if rest'.length = rest.length || sort.port? = some n then none else some n, rest')
  | _ => .ok (none, cs)

/-- Read what follows the slashes, up to the path. -/
def readAuthority (sort : SchemeSort) (cs : List Char) :
    Except Defect (Host × Option Nat × List Char) := do
  let (user, cs) ← readUser sort cs
  let (host, cs) ← readHost sort cs
  let nameless := host = .name ""
  if nameless && cs.head? == some ':' then throw .emptyHost
  let (port, cs) ← readPort sort cs
  if nameless && user then throw .emptyHost
  return (host, port, cs)

/-- A letter with a colon or a bar, as the drives of some systems are named. -/
def isDrive : List Char → Bool
  | [a, b] => a.isAlpha && (b == ':' || b == '|')
  | _ => false

/-- The host of a file, if it has one. -/
def readFileHost (cs : List Char) : Except Defect (Option Host × List Char) :=
  match cs with
  | a :: b :: rest =>
      if (a == '/' || a == '\\') && (b == '/' || b == '\\') then
        let text := rest.takeWhile fun c => !endsAuthority .file c
        if isDrive text then .ok (none, rest)
        else if text.isEmpty then .ok (none, rest)
        else (Host.parse text).map fun h =>
          (if h = .name "localhost" then none else some h, rest.drop text.length)
      else .ok (none, cs)
  | _ => .ok (none, cs)

namespace Location

/-- A URL from its parts; what follows the host is taken apart here. -/
def ofParts (scheme : String) (host : Option Host) (port : Option Nat) (rest : List Char) :
    Location :=
  let rest := rest.takeWhile (· != '#')
  let path := rest.takeWhile (· != '?')
  let query := rest.drop (path.length + 1)
  let resolved := if SchemeSort.ofName scheme = .other then path else resolvePath path
  { scheme, host, port, path := String.ofList resolved
    query := if path.length < rest.length then some (String.ofList (resolveQuery query)) else none }

/-- What is left of a text without blanks and controls at its ends, and without tabs and
    line ends. -/
def withoutPadding (cs : List Char) : List Char :=
  (Text.trimBy (fun c => c.toNat ≤ 32) cs).filter fun c => !"\t\n\r".toList.contains c

/-- The URL that a text spells. -/
def parse (s : String) : Except Defect Location := do
  match readScheme? (withoutPadding s.toList) with
  | none => throw .noScheme
  | some (scheme, rest) =>
      match SchemeSort.ofName scheme with
      | .hosted p =>
          let rest := rest.dropWhile fun c => c == '/' || c == '\\'
          let (host, port, rest) ← readAuthority (.hosted p) rest
          return ofParts scheme (some host) port rest
      | .file =>
          let (host, rest) ← readFileHost rest
          return ofParts scheme host none rest
      | .other =>
          match rest with
          | '/' :: '/' :: rest =>
              let (host, port, rest) ← readAuthority .other rest
              return ofParts scheme (some host) port rest
          | _ => return ofParts scheme none none rest

/-- The host as requests name it, with the port if it is not the usual one. -/
def authority (l : Location) : String :=
  let host := (l.host.map Host.text).getD ""
  match l.port with
  | some p => host ++ ":" ++ toString p
  | none => host

/-- What requests ask for: the path with the query. -/
def target (l : Location) : String :=
  match l.query with
  | some q => l.path ++ "?" ++ q
  | none => l.path

end Location

end Url

end DemandNet
