import DemandNet.Connection.Pipeline

/-!
# Stages by Description

Simple stages, each described by a short text.

A description names one transformation, which the stage applies in both directions,
or only inwards after `>` and only outwards after `<`. A description that starts with
`first:` asks for the place next to the wire.

## Main definitions

* `transformation`: The transformation of a description.
* `Stage.ofSpec`: The stage of a description.
* `Addition.ofSpec`: The described stage, at its end of a pipeline.
-/

namespace DemandNet

namespace Connection

/-- Read a number of digits; anything else is zero. -/
def digitsValue (cs : List Char) : Nat :=
  if cs.all Char.isDigit then cs.foldl (fun n c => n * 10 + (c.toNat - 48)) 0 else 0

/-- The transformation that a description names; the identity if it names none. -/
def transformation (spec : List Char) : Bytes → Bytes :=
  match spec with
  | '+' :: text => fun c => c ++ Bytes.ofText (String.ofList text)
  | '^' :: text => fun c => Bytes.ofText (String.ofList text) ++ c
  | 'r' :: 'o' :: 't' :: n => fun c => c.map (· + (digitsValue n).toUInt8)
  | _ =>
      if spec = "upper".toList then Bytes.upper
      else if spec = "reverse".toList then List.reverse
      else if spec = "double".toList then fun c => c ++ c
      else if spec = "drop".toList then fun _ => []
      else id

/-- The stage that a description names. -/
def Stage.ofSpec (spec : List Char) : Stage :=
  let name := String.ofList spec
  match spec with
  | '>' :: inward => .silent name (transformation inward) id
  | '<' :: outward => .silent name id (transformation outward)
  | _ => .silent name (transformation spec) (transformation spec)

/-- The described stage, at the end that the description asks for. -/
def Addition.ofSpec (spec : String) : Addition :=
  let marker := "first:".toList
  let cs := spec.toList
  if marker.isPrefixOf cs then .first (Stage.ofSpec (cs.drop marker.length))
  else .last (Stage.ofSpec cs)

end Connection

end DemandNet
