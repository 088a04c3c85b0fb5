import DemandNet.Url.Defect
import DemandNet.Url.Domain

/-!
# Hosts of URLs

A host is a domain name, an address of version 4 or, in brackets, one of version 6. With
a scheme whose hosts have no known form it is any text.

A name whose last label is a number is an address. Its numbers may be decimal, octal
after a zero, or hexadecimal after `0x`, and there may be fewer than four of them; the
last one then stands for all bytes that are left.

## Main definitions

* `Host`: A host.
* `Host.parse`: The host that a text spells.
* `Host.parseOpaque`: The same for schemes whose hosts have no known form.
* `parseShortIpv4?`: An address of version 4 in any of its spellings.
-/

namespace DemandNet

namespace Url

open Address

/-- A host. -/
inductive Host where
  | name (text : String)
  | ip (address : Ip)
  deriving Repr, DecidableEq, Inhabited

/-- The value of a number in its base; nothing after `0x` is zero. -/
def parseHostNumber? (cs : List Char) : Option Nat :=
  let read (base : Nat) (ds : List Char) :=
    if ds.all fun c => (digit? base c).isSome then some (numberValue base ds) else none
  match cs with
  | [] => none
  | '0' :: 'x' :: ds | '0' :: 'X' :: ds => read 16 ds
  | '0' :: d :: ds => read 8 (d :: ds)
  | ds => read 10 ds

/-- The labels of a name, without an empty one at the end. -/
def labelsOf (cs : List Char) : List (List Char) :=
  let labels := Text.splitOn (· == '.') cs
  if labels.getLast? = some [] then labels.dropLast else labels

/-- The name ends in a number, so it has to be an address. -/
def endsInNumber (cs : List Char) : Bool :=
  match (labelsOf cs).getLast? with
  | none => false
  | some l => (!l.isEmpty && l.all Char.isDigit) || (parseHostNumber? l).isSome

/-- Numbers of an address, the last of which fills what the others leave. -/
def ipv4OfNumbers? (ns : List Nat) : Option Ipv4 :=
  match ns.getLast? with
  | none => none
  | some last =>
      let front := ns.dropLast
      if 4 < ns.length || front.any (255 < ·) || Nat.pow 256 (4 - front.length) ≤ last then none
      else
        let value := (List.range front.length).foldl
          (fun v i => v + (front[i]?.getD 0) * Nat.pow 256 (3 - i)) last
        some ⟨value / 0x1000000 % 256, value / 0x10000 % 256, value / 256 % 256, value % 256⟩

/-- An address of version 4 in any of its spellings. -/
def parseShortIpv4? (cs : List Char) : Option Ipv4 :=
  match (labelsOf cs).mapM parseHostNumber? with
  | none => none
  | some ns => ipv4OfNumbers? ns

/-- An address of version 6 in brackets. -/
def parseBracketed (cs : List Char) : Except Defect Host :=
  if cs.getLast? != some ']' then .error .ipv6
  else
    match Ipv6.parse? (String.ofList ((cs.drop 1).dropLast)) with
    | some a => .ok (.ip (.v6 a))
    | none => .error .ipv6

namespace Host

/-- The host that a text spells. -/
def parse (cs : List Char) : Except Defect Host :=
  if cs.head? == some '[' then parseBracketed cs
  else
    match domainToAscii? cs with
    | none => .error .domainName
    | some [] => .error .emptyHost
    | some domain =>
        if endsInNumber domain then
          match parseShortIpv4? domain with
          | some a => .ok (.ip (.v4 a))
          | none => .error .ipv4
        else .ok (.name (String.ofList domain))

/-- The characters that no host may hold. -/
def isForbidden (c : Char) : Bool :=
  "\x00\t\n\r #/:<>?@[\\]^|".toList.contains c

/-- The host that a text spells where hosts have no known form. -/
def parseOpaque (cs : List Char) : Except Defect Host :=
  if cs.head? == some '[' then parseBracketed cs
  else if cs.any isForbidden then .error .domainCharacter
  else .ok (.name (String.ofList (percentEncode (fun c => c.toNat < 32) cs)))

/-- A host as text. -/
def text : Host → String
  | name n => n
  | ip (.v4 a) => a.text
  | ip (.v6 a) => "[" ++ a.text ++ "]"

end Host

end Url

end DemandNet
