/-!
# Internet Addresses

Version 4 and version 6 addresses and their text.

Reading is strict: a version 4 address has exactly four decimal numbers below 256
without superfluous zeros; a version 6 address has at most one gap, groups of at most
four hexadecimal digits, and perhaps a version 4 address in place of its last two
groups. Writing gives one text for each address: the longest run of zero groups
becomes the gap, the first of them if several are longest, and never a single group.

The readers take a list of characters and return the value with what follows it.

## Main definitions

* `Ipv4`, `Ipv6`: The two sorts of addresses.
* `Ipv4.read?`, `Ipv6.read?`: The address at the beginning of a text.
* `Ipv4.parse?`, `Ipv6.parse?`: The address that a whole text spells.
* `Ipv4.text`, `Ipv6.text`: The text of an address.
-/

namespace DemandNet

namespace Address

/-- The value of a hexadecimal digit. -/
def hexDigit? (c : Char) : Option Nat :=
  if '0' ≤ c ∧ c ≤ '9' then some (c.toNat - 48)
  else if 'a' ≤ c ∧ c ≤ 'f' then some (c.toNat - 87)
  else if 'A' ≤ c ∧ c ≤ 'F' then some (c.toNat - 55)
  else none

/-- The value of a digit in a base of at most sixteen. -/
def digit? (base : Nat) (c : Char) : Option Nat :=
  (hexDigit? c).filter (· < base)

/-- The value of digits in a base. -/
def numberValue (base : Nat) (ds : List Char) : Nat :=
  ds.foldl (fun n c => n * base + (digit? base c).getD 0) 0

/-- The number at the beginning of a text: at least one digit, at most `maxDigits`,
    no superfluous zero unless `zeros` allows it, and a value below `bound`. The
    digits are taken as far as they go. -/
def readNumber? (base : Nat) (maxDigits : Option Nat) (zeros : Bool) (bound : Nat)
    (cs : List Char) : Option (Nat × List Char) :=
  let ds := cs.takeWhile fun c => (digit? base c).isSome
  let n := numberValue base ds
  if ds.isEmpty || maxDigits.any (· < ds.length) || bound ≤ n then none
  else if !zeros && 1 < ds.length && ds.head? == some '0' then none
  else some (n, cs.drop ds.length)

/-- What follows a character at the beginning of a text. -/
def readChar? (c : Char) : List Char → Option (List Char)
  | d :: rest => if d = c then some rest else none
  | [] => none

/-- A version 4 address: four numbers below 256. -/
structure Ipv4 where
  a : Nat
  b : Nat
  c : Nat
  d : Nat
  deriving Repr, DecidableEq, Inhabited

namespace Ipv4

/-- One of the four numbers. -/
def readOctet? (cs : List Char) : Option (Nat × List Char) :=
  readNumber? 10 (some 3) false 256 cs

/-- The address at the beginning of a text. -/
def read? (cs : List Char) : Option (Ipv4 × List Char) := do
  let (a, cs) ← readOctet? cs
  let cs ← readChar? '.' cs
  let (b, cs) ← readOctet? cs
  let cs ← readChar? '.' cs
  let (c, cs) ← readOctet? cs
  let cs ← readChar? '.' cs
  let (d, cs) ← readOctet? cs
  return (⟨a, b, c, d⟩, cs)

/-- The address that a whole text spells. -/
def parse? (s : String) : Option Ipv4 :=
  match read? s.toList with
  | some (ip, []) => some ip
  | _ => none

/-- The text of an address. -/
def text (ip : Ipv4) : String :=
  ".".intercalate ([ip.a, ip.b, ip.c, ip.d].map toString)

/-- The address that stands for all addresses of a machine. -/
def unspecified : Ipv4 := ⟨0, 0, 0, 0⟩

/-- The address of a machine itself. -/
def localhost : Ipv4 := ⟨127, 0, 0, 1⟩

/-- The addresses of groups. -/
def isMulticast (ip : Ipv4) : Bool := 224 ≤ ip.a && ip.a < 240

end Ipv4

/-- A version 6 address: eight groups below 65536. -/
structure Ipv6 where
  groups : List Nat
  deriving Repr, DecidableEq, Inhabited

namespace Ipv6

/-- A colon in front of every group but the first. -/
def readSeparator? (first : Bool) (cs : List Char) : Option (List Char) :=
  if first then some cs else readChar? ':' cs

/-- At most `room` groups from the beginning of a text, with what follows them; the
    flag says that the last two came from a version 4 address. -/
def readGroups (first : Bool) : Nat → List Char → List Nat × Bool × List Char
  | 0, cs => ([], false, cs)
  | room + 1, cs =>
      let embedded := if room = 0 then none else (readSeparator? first cs).bind Ipv4.read?
      match embedded with
      | some (ip, rest) => ([ip.a * 256 + ip.b, ip.c * 256 + ip.d], true, rest)
      | none =>
          match (readSeparator? first cs).bind (readNumber? 16 (some 4) true 65536) with
          | none => ([], false, cs)
          | some (g, rest) =>
              let (gs, v4, rest) := readGroups false room rest
              (g :: gs, v4, rest)

/-- The address at the beginning of a text. -/
def read? (cs : List Char) : Option (Ipv6 × List Char) :=
  let (head, v4, rest) := readGroups true 8 cs
  if head.length = 8 then some (⟨head⟩, rest)
  else if v4 then none
  else
    match rest with
    | ':' :: ':' :: rest =>
        let (tail, _, rest) := readGroups true (7 - head.length) rest
        let gap := List.replicate (8 - head.length - tail.length) 0
        some (⟨head ++ gap ++ tail⟩, rest)
    | _ => none

/-- The address that a whole text spells. -/
def parse? (s : String) : Option Ipv6 :=
  match read? s.toList with
  | some (ip, []) => some ip
  | _ => none

/-- The groups in hexadecimal, with colons between them. -/
def groupsText (gs : List Nat) : String :=
  ":".intercalate (gs.map fun g => String.ofList (Nat.toDigits 16 g))

/-- The place and length of the longest run of zeros, the first of them if several
    are longest. -/
def longestGap (gs : List Nat) : Nat × Nat :=
  let run i := (gs.drop i).takeWhile (· == 0) |>.length
  (List.range gs.length).foldl (fun (best : Nat × Nat) i =>
    if best.2 < run i then (i, run i) else best) (0, 0)

/-- The text of an address. -/
def text (ip : Ipv6) : String :=
  match ip.groups with
  | [0, 0, 0, 0, 0, 0xffff, g, h] =>
      "::ffff:" ++ Ipv4.text ⟨g / 256, g % 256, h / 256, h % 256⟩
  | gs =>
      let (start, length) := longestGap gs
      if 1 < length then groupsText (gs.take start) ++ "::" ++ groupsText (gs.drop (start + length))
      else groupsText gs

/-- The address that stands for all addresses of a machine. -/
def unspecified : Ipv6 := ⟨[0, 0, 0, 0, 0, 0, 0, 0]⟩

/-- The addresses of groups. -/
def isMulticast (ip : Ipv6) : Bool :=
  ip.groups.head?.any fun g => 0xff00 ≤ g

end Ipv6

/-- An address of either sort. -/
inductive Ip where
  | v4 (ip : Ipv4)
  | v6 (ip : Ipv6)
  deriving Repr, DecidableEq, Inhabited

namespace Ip

/-- The text of an address. -/
def text : Ip → String
  | v4 ip => ip.text
  | v6 ip => ip.text

/-- The address that a whole text spells. -/
def parse? (s : String) : Option Ip :=
  ((Ipv4.parse? s).map v4).orElse fun _ => (Ipv6.parse? s).map v6

/-- The address stands for all addresses of a machine. -/
def isUnspecified : Ip → Bool
  | v4 ip => ip == Ipv4.unspecified
  | v6 ip => ip == Ipv6.unspecified

/-- The address is that of a group. -/
def isMulticast : Ip → Bool
  | v4 ip => ip.isMulticast
  | v6 ip => ip.isMulticast

/-- It is a version 4 address. -/
def isV4 : Ip → Bool
  | v4 _ => true
  | v6 _ => false

end Ip

end Address

end DemandNet
