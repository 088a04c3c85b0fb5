import DemandNet.Error
import DemandNet.Http.Headers

/-!
# Part Headers

The headers of a part, read from the block of lines in front of its body, and what
its content disposition says.

## Main definitions

* `parseHeaders`: The headers that a block of lines spells.
* `dispositionParam?`: A parameter of the content disposition.
* `partName?`, `partFilename?`, `partContentType?`: The usual questions about a part.
-/

namespace DemandNet

namespace Http

namespace Multipart

/-- The field that a line spells: a name, a colon and a value, both without the blanks
    around them. -/
def parseHeaderLine (line : List Char) : Except NetError (String × Bytes) :=
  match Text.splitOnce? (· == ':') line with
  | none => .error (.decode ("malformed part header: " ++ String.ofList line))
  | some (name, value) =>
      let name := Bytes.ofText (String.ofList (Text.trim name))
      let value := Bytes.ofText (String.ofList (Text.trim value))
      if !isName name then .error (.decode "invalid HTTP header name")
      else if !isValue value then .error (.decode "failed to parse header value")
      else .ok (canonicalName name, value)

/-- The headers that a block of lines spells; empty lines do not count. -/
def parseHeaders (block : Bytes) : Except NetError Headers :=
  match Bytes.toText? block with
  | none => .error (.decode "part headers are not UTF-8")
  | some text => ((Text.splitLines text.toList).filter (!·.isEmpty)).mapM parseHeaderLine

/-- A parameter of the content disposition, without blanks and quotes around it. The
    parameters stand behind the first semicolon and between the others. -/
def dispositionParam? (h : Headers) (key : String) : Option String := do
  let value ← h.text? "content-disposition"
  let params := (Text.splitOn (· == ';') value.toList).drop 1
  params.findSome? fun param => do
    let (k, v) ← Text.splitOnce? (· == '=') param
    if Text.eqIgnoringCase (Text.trim k) key.toList then
      return String.ofList (Text.trimBy (· == '"') (Text.trim v))
    else none

/-- The name of the form field that a part is for. -/
def partName? (h : Headers) : Option String := dispositionParam? h "name"

/-- The name of the file that a part holds. -/
def partFilename? (h : Headers) : Option String := dispositionParam? h "filename"

/-- The content type of a part. -/
def partContentType? (h : Headers) : Option String := h.text? "content-type"

end Multipart

end Http

end DemandNet
