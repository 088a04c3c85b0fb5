import DemandNet.Proofs.Http.Multipart.Search
import DemandNet.Proofs.Text.Split
import DemandNet.Proofs.Text.Utf8

/-!
# Blocks of Headers

The headers of a part in their standard form, and what is read from it.

A header is written as a line: the name, a colon, a blank and the value. Neither a name
nor a value can hold a carriage return, so the lines come apart again at the line ends
between them, and the first two line ends in a row are those behind the last line. A
name holds no colon, so the line comes apart at the first one, and since a value has no
blanks at its ends, only the blank that was put in is trimmed off.

## Main definitions

* `Field`: A header that can be sent.
* `Field.line`, `Field.entry`: How it is written, and how it is kept.
* `headerLines`: The lines of headers, each with its line end.
* `blockText`: The lines of headers with a line end between any two.

## Theorems

* `parseHeaderLine_line`: A line is read back.
* `parseHeaders_blockText`: A block is read back, in the same order.
* `headerLines_eq`: The lines are the block and one more line end.
* `indexOf?_blockText`: The first two line ends in a row are those behind the block.
-/

namespace DemandNet

namespace Http

namespace Multipart

/-- A header that can be sent: the name is a token, and the value is legal and has no
    blanks at its ends. -/
structure Field where
  name : String
  value : String
  isToken : isName (Bytes.ofText name) = true
  isLegal : isValue (Bytes.ofText value) = true
  isTrimmed : Text.trim value.toList = value.toList

/-- The line that spells a header. -/
def Field.line (f : Field) : String := f.name ++ ": " ++ f.value

/-- A header as it is kept: the name in lower case, and the bytes of the value. -/
def Field.entry (f : Field) : String × Bytes :=
  (canonicalName (Bytes.ofText f.name), Bytes.ofText f.value)

/-- The lines of headers, each with its line end. -/
def headerLines (fs : List Field) : Bytes :=
  fs.flatMap fun f => Bytes.ofText f.line ++ lineEnd

/-- The lines of headers with a line end between any two. -/
def blockText : List Field → String
  | [] => ""
  | [f] => f.line
  | f :: g :: fs => f.line ++ "\r\n" ++ blockText (g :: fs)

/-! ### One line -/

theorem isTokenByte_toNat (b : UInt8) (h : isTokenByte b = true) :
    33 ≤ b.toNat ∧ b.toNat < 127 ∧ b.toNat ≠ 58 := by
  have hall : ∀ n : Fin 256, isTokenByte (UInt8.ofNat n) = true →
      33 ≤ n.val ∧ n.val < 127 ∧ n.val ≠ 58 := by decide +kernel
  have hb := hall ⟨b.toNat, b.toNat_lt⟩
  rw [UInt8.ofNat_toNat] at hb
  exact hb h

namespace Field

variable (f : Field)

theorem isTokenByte_of_mem (b : UInt8) (hb : b ∈ Bytes.ofText f.name) :
    isTokenByte b = true := by
  have h := f.isToken
  unfold isName at h
  exact List.all_eq_true.1 (Bool.and_eq_true_iff.1 h).2 b hb

-- A name is ASCII, and none of its characters is a blank, a control or a colon.
theorem toNat_of_mem_name (c : Char) (hc : c ∈ f.name.toList) :
    33 ≤ c.toNat ∧ c.toNat < 127 ∧ c.toNat ≠ 58 := by
  have hascii : c.toNat < 128 := by
    refine Bytes.toNat_lt_of_mem f.name (fun b hb => ?_) c hc
    have hb := isTokenByte_toNat b (f.isTokenByte_of_mem b hb)
    rw [UInt8.lt_iff_toNat_lt]
    exact Nat.lt_trans hb.2.1 (by decide)
  have hbyte := f.isTokenByte_of_mem _ (Bytes.mem_ofText_of_mem f.name c hascii hc)
  have hnat : (UInt8.ofNat c.toNat).toNat = c.toNat := by
    rw [UInt8.toNat_ofNat']
    omega
  rw [← hnat]
  exact isTokenByte_toNat _ hbyte

theorem name_ne_nil : f.name.toList ≠ [] := by
  intro h
  have htoken := f.isToken
  rw [Bytes.ofText_eq_flatMap, h] at htoken
  exact absurd htoken Bool.false_ne_true

theorem value_no_return : '\r' ∉ f.value.toList := by
  intro h
  have hbyte := Bytes.mem_ofText_of_mem f.value '\r' (by decide) h
  have hlegal := f.isLegal
  unfold isValue at hlegal
  exact absurd (List.all_eq_true.1 hlegal _ hbyte) (by decide)

theorem toList_line : f.line.toList = f.name.toList ++ ':' :: ' ' :: f.value.toList := by
  unfold line
  rw [String.toList_append, String.toList_append, List.append_assoc]
  rfl

theorem line_no_return : '\r' ∉ f.line.toList := by
  rw [f.toList_line, List.mem_append, List.mem_cons, List.mem_cons]
  rintro (h | h | h | h)
  · have hname := (f.toNat_of_mem_name _ h).1
    exact absurd hname (by decide)
  · exact absurd h (by decide)
  · exact absurd h (by decide)
  · exact f.value_no_return h

theorem line_ne_nil : f.line.toList ≠ [] := by
  rw [f.toList_line]
  exact fun h => f.name_ne_nil (List.append_eq_nil_iff.1 h).1

end Field

theorem parseHeaderLine_line (f : Field) : parseHeaderLine f.line.toList = .ok f.entry := by
  have hcolon : ∀ c ∈ f.name.toList, (c == ':') = false := by
    intro c hc
    rw [beq_eq_false_iff_ne]
    intro h
    subst h
    exact absurd rfl (f.toNat_of_mem_name _ hc).2.2
  have hblank : ∀ c ∈ f.name.toList, Text.isBlank c = false := by
    intro c hc
    have hnat := f.toNat_of_mem_name c hc
    unfold Text.isBlank
    generalize c.toNat = n at hnat
    simp only [Bool.or_eq_false_iff, Bool.and_eq_false_iff, decide_eq_false_iff_not,
      beq_eq_false_iff_ne]
    omega
  unfold parseHeaderLine
  rw [f.toList_line, Text.splitOnce?_append _ ':' _ rfl _ hcolon]
  dsimp only
  rw [Text.trim_cons_of_blank ' ' _ rfl, f.isTrimmed, Text.trim,
    Text.trimBy_of_none _ _ hblank, String.ofList_toList, String.ofList_toList, f.isToken,
    f.isLegal]
  rfl

/-! ### All lines -/

theorem splitLines_blockText (f : Field) (fs : List Field) :
    Text.splitLines (blockText (f :: fs)).toList = (f :: fs).map fun g => g.line.toList := by
  induction fs generalizing f with
  | nil => exact Text.splitLines_of_not_mem _ f.line_no_return
  | cons g rest ih =>
      have hcut : (blockText (f :: g :: rest)).toList =
          f.line.toList ++ '\r' :: '\n' :: (blockText (g :: rest)).toList := by
        rw [blockText, String.toList_append, String.toList_append, List.append_assoc]
        rfl
      rw [hcut, Text.splitLines_append _ _ f.line_no_return, ih g]
      rfl

theorem mapM_parseHeaderLine (fs : List Field) :
    (fs.map fun g => g.line.toList).mapM parseHeaderLine = .ok (fs.map Field.entry) := by
  induction fs with
  | nil => rfl
  | cons f rest ih =>
      rw [List.map_cons, List.mapM_cons, parseHeaderLine_line, ih]
      rfl

theorem parseHeaders_blockText (f : Field) (fs : List Field) :
    parseHeaders (Bytes.ofText (blockText (f :: fs))) = .ok ((f :: fs).map Field.entry) := by
  have hlines : ((f :: fs).map fun g => g.line.toList).filter (!·.isEmpty) =
      (f :: fs).map fun g => g.line.toList := by
    rw [List.filter_eq_self]
    intro l hl
    rcases List.mem_map.1 hl with ⟨g, _, hg⟩
    rw [← hg, Bool.not_eq_true', List.isEmpty_eq_false_iff]
    exact g.line_ne_nil
  unfold parseHeaders
  rw [Bytes.toText?_ofText]
  dsimp only
  rw [splitLines_blockText, hlines, mapM_parseHeaderLine]

/-! ### Where a block ends -/

theorem ofText_blockText (f g : Field) (fs : List Field) :
    Bytes.ofText (blockText (f :: g :: fs)) =
      Bytes.ofText f.line ++ (lineEnd ++ Bytes.ofText (blockText (g :: fs))) := by
  rw [blockText, Bytes.ofText_append, Bytes.ofText_append, List.append_assoc]
  rfl

theorem headerLines_eq (f : Field) (fs : List Field) :
    headerLines (f :: fs) = Bytes.ofText (blockText (f :: fs)) ++ lineEnd := by
  induction fs generalizing f with
  | nil =>
      unfold headerLines
      rw [List.flatMap_cons, List.flatMap_nil, List.append_nil]
      rfl
  | cons g rest ih =>
      have hrest := ih g
      unfold headerLines at hrest ⊢
      rw [List.flatMap_cons, hrest, ofText_blockText, List.append_assoc, List.append_assoc,
        List.append_assoc]

theorem Field.line_no_return_byte (f : Field) : 13 ∉ Bytes.ofText f.line :=
  Bytes.not_mem_ofText f.line '\r' (by decide) f.line_no_return

-- A block begins with the name of its first header, not with a line end.
theorem head_blockText (f : Field) (fs : List Field) :
    ∃ b rest, Bytes.ofText (blockText (f :: fs)) = b :: rest ∧ b ≠ 13 := by
  have hline : ∃ rest, Bytes.ofText (blockText (f :: fs)) = Bytes.ofText f.line ++ rest := by
    cases fs with
    | nil => exact ⟨[], (List.append_nil _).symm⟩
    | cons g gs =>
        exact ⟨lineEnd ++ Bytes.ofText (blockText (g :: gs)), ofText_blockText f g gs⟩
  rcases hline with ⟨rest, hrest⟩
  cases hbytes : Bytes.ofText f.line with
  | nil =>
      rw [Bytes.ofText_eq_flatMap, List.flatMap_eq_nil_iff] at hbytes
      rcases List.exists_mem_of_ne_nil _ f.line_ne_nil with ⟨c, hc⟩
      exact absurd (hbytes c hc) String.utf8EncodeChar_ne_nil
  | cons b bs =>
      have hreturn := f.line_no_return_byte
      rw [hbytes, List.mem_cons, not_or] at hreturn
      rw [hrest, hbytes]
      exact ⟨b, bs ++ rest, rfl, Ne.symm hreturn.1⟩

theorem lineEnd_not_prefix_blockText (f : Field) (fs : List Field) (x : Bytes) :
    ¬ lineEnd <+: Bytes.ofText (blockText (f :: fs)) ++ x := by
  rcases head_blockText f fs with ⟨b, rest, hblock, hb⟩
  rw [hblock, List.cons_append, lineEnd, List.cons_prefix_cons]
  exact fun h => hb h.1.symm

-- A line end in front of anything but a carriage return is not the first of two.
theorem indexOf?_lineEnd_append (b : UInt8) (s : Bytes) (hb : b ≠ 13) :
    indexOf? (lineEnd ++ lineEnd) (lineEnd ++ b :: s) =
      (indexOf? (lineEnd ++ lineEnd) (b :: s)).map (2 + ·) := by
  rw [indexOf?_shift _ _ 2]
  · rfl
  · intro m hm h
    rcases m with _ | _ | m
    · have hthird := List.cons_prefix_cons.1
        (List.cons_prefix_cons.1 (List.cons_prefix_cons.1 h).2).2
      exact hb hthird.1.symm
    · exact absurd (List.cons_prefix_cons.1 h).1 (by decide)
    · omega

theorem indexOf?_blockText (f : Field) (fs : List Field) (x : Bytes) :
    indexOf? (lineEnd ++ lineEnd)
        (Bytes.ofText (blockText (f :: fs)) ++ (lineEnd ++ lineEnd ++ x)) =
      some (Bytes.ofText (blockText (f :: fs))).length := by
  have hskip : ∀ (g : Field) (s : Bytes),
      indexOf? (lineEnd ++ lineEnd) (Bytes.ofText g.line ++ s) =
        (indexOf? (lineEnd ++ lineEnd) s).map ((Bytes.ofText g.line).length + ·) :=
    fun g s => indexOf?_skip 13 [10, 13, 10] _ s g.line_no_return_byte
  induction fs generalizing f with
  | nil =>
      have hhere : indexOf? (lineEnd ++ lineEnd) (lineEnd ++ lineEnd ++ x) = some 0 :=
        (indexOf?_eq_some _ _ 0).2
          ⟨List.prefix_append _ _, fun m hm => absurd hm (Nat.not_lt_zero m)⟩
      rw [blockText, hskip, hhere]
      rfl
  | cons g rest ih =>
      have hrest := ih g
      rcases head_blockText g rest with ⟨b, bs, hblock, hb⟩
      rw [hblock, List.cons_append] at hrest
      rw [ofText_blockText, hblock, List.append_assoc, List.append_assoc, List.cons_append, hskip,
        indexOf?_lineEnd_append b _ hb, hrest]
      simp only [Option.map_some, List.length_append]
      rfl

end Multipart

end Http

end DemandNet
