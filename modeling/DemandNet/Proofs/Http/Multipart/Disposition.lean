import DemandNet.Proofs.Http.Multipart.HeaderBlock
import DemandNet.Proofs.Http.Values

/-!
# Quoted Parameters

What a part says about its form field and its file when both are quoted.

The content disposition is cut at every semicolon, also at one between quotes, and the
quotes are taken off the pieces afterwards. So a semicolon ends the text it stands in, and
what follows it is a piece of its own that may look like a parameter: it is looked at
before the parameters behind it. And a value of which one character is not readable is no
text at all, so neither parameter is there. Texts of visible ASCII characters without
semicolons are all that comes back.

## Main definitions

* `Quotable`: What may stand between quotes.
* `Key`, `Key.read?`: The two parameters, and the question for each.
* `formData`: The content disposition that spells both, in either order.
* `Quotable.cut`, `Quotable.strayed?`: What is left of a text, and what it supplies of the
  other one.

## Theorems

* `piecesValue?_quoted`: What the pieces of one parameter say.
* `read?_of_readable`, `read?_of_not_readable`: What is read of two.
* `quoted_parameters_read`: Which parameters come back, and what is read otherwise.
* `name_supplies_filename`: A name that is cut and supplies the file name.
-/

namespace DemandNet

namespace Http

namespace Multipart

/-! ### What is sent -/

/-- What may stand between quotes: no quote, no backslash and no control. -/
structure Quotable where
  text : String
  isPlain : ∀ c ∈ text.toList, c ≠ '"' ∧ c ≠ '\\' ∧ 32 ≤ c.toNat ∧ c.toNat ≠ 127

/-- A character that may stand between quotes. -/
def isQuotable (c : Char) : Bool :=
  c != '"' && c != '\\' && decide (32 ≤ c.toNat) && c.toNat != 127

theorem isPlain_of_all {text : String} (h : text.toList.all isQuotable = true) :
    ∀ c ∈ text.toList, c ≠ '"' ∧ c ≠ '\\' ∧ 32 ≤ c.toNat ∧ c.toNat ≠ 127 := by
  intro c hc
  have hquotable := List.all_eq_true.1 h c hc
  simpa only [isQuotable, Bool.and_eq_true, bne_iff_ne, decide_eq_true_eq, and_assoc] using
    hquotable

/-- The two parameters. -/
inductive Key where
  | name
  | filename
  deriving Repr, DecidableEq

namespace Key

/-- The word that stands for a parameter. -/
def word : Key → String
  | name => "name"
  | filename => "filename"

/-- The other parameter. -/
def other : Key → Key
  | name => filename
  | filename => name

/-- The question for a parameter. -/
def read? : Key → Headers → Option String
  | name => partName?
  | filename => partFilename?

end Key

/-- A quoted parameter, with the semicolon in front. -/
def quoted (k : Key) (a : Quotable) : String := "; " ++ k.word ++ "=\"" ++ a.text ++ "\""

/-- A content disposition with two quoted parameters: this one first, then the other. -/
def dispositionText (k : Key) (a b : Quotable) : String :=
  "form-data" ++ quoted k a ++ quoted k.other b

/-- The characters of a parameter between its semicolon and the next one. -/
def quotedChars (k : Key) (a : Quotable) : List Char :=
  ' ' :: (k.word.toList ++ '=' :: '"' :: (a.text.toList ++ ['"']))

theorem toList_quoted (k : Key) (a : Quotable) :
    (quoted k a).toList = ';' :: quotedChars k a := by
  unfold quoted quotedChars
  simp only [String.toList_append, List.append_assoc]
  rfl

theorem toList_dispositionText (k : Key) (a b : Quotable) :
    (dispositionText k a b).toList =
      "form-data".toList ++ ';' :: (quotedChars k a ++ ';' :: quotedChars k.other b) := by
  unfold dispositionText
  rw [String.toList_append, String.toList_append, toList_quoted, toList_quoted,
    List.append_assoc]
  rfl

theorem mem_quotedChars {k : Key} {a : Quotable} {c : Char} (h : c ∈ quotedChars k a) :
    32 ≤ c.toNat ∧ c.toNat ≤ 126 ∨ c ∈ a.text.toList := by
  have hword : ∀ d ∈ k.word.toList, 32 ≤ d.toNat ∧ d.toNat ≤ 126 := by
    cases k <;> simp [Key.word]
  unfold quotedChars at h
  simp only [List.mem_cons, List.mem_append, List.not_mem_nil, or_false] at h
  rcases h with rfl | h | rfl | rfl | h | rfl
  · exact .inl (by decide)
  · exact .inl (hword c h)
  · exact .inl (by decide)
  · exact .inl (by decide)
  · exact .inr h
  · exact .inl (by decide)

theorem mem_dispositionText {k : Key} {a b : Quotable} {c : Char}
    (h : c ∈ (dispositionText k a b).toList) :
    32 ≤ c.toNat ∧ c.toNat ≤ 126 ∨ c ∈ a.text.toList ∨ c ∈ b.text.toList := by
  have hword : ∀ d ∈ "form-data".toList, 32 ≤ d.toNat ∧ d.toNat ≤ 126 := by simp
  rw [toList_dispositionText] at h
  simp only [List.mem_cons, List.mem_append] at h
  rcases h with h | rfl | h | rfl | h
  · exact .inl (hword c h)
  · exact .inl (by decide)
  · exact (mem_quotedChars h).imp_right .inl
  · exact .inl (by decide)
  · exact (mem_quotedChars h).imp_right .inr

/-- The header that a content disposition is sent in. -/
def formData (k : Key) (a b : Quotable) : Field where
  name := "Content-Disposition"
  value := dispositionText k a b
  isToken := by decide +kernel
  isLegal := by
    refine isValue_ofText _ fun c hc => ?_
    rcases mem_dispositionText hc with h | h | h
    · omega
    · exact (a.isPlain c h).2.2
    · exact (b.isPlain c h).2.2
  isTrimmed := by
    rw [toList_dispositionText]
    refine Text.trimBy_of_ends Text.isBlank _ (by rintro c ⟨⟩; rfl) fun c hc => ?_
    have hquote : (quotedChars k.other b).getLast? = some '"' := by
      unfold quotedChars
      simp only [← List.append_assoc, ← List.cons_append, List.getLast?_append,
        List.getLast?_singleton, Option.some_or]
    simp only [List.getLast?_append, List.getLast?_cons, hquote, Option.getD_some,
      Option.some_or, Option.some.injEq] at hc
    rw [← hc]
    rfl

/-! ### What is read -/

/-- What a piece says about a parameter. -/
def pieceValue? (key : String) (piece : List Char) : Option String := do
  let (k, v) ← Text.splitOnce? (· == '=') piece
  if Text.eqIgnoringCase (Text.trim k) key.toList then
    return String.ofList (Text.trimBy (· == '"') (Text.trim v))
  else none

/-- What the pieces of a text say about a parameter: the first of them that is one. -/
def piecesValue? (key : Key) (cs : List Char) : Option String :=
  (cs.splitOn ';').findSome? (pieceValue? key.word)

/-- What a quoted text is cut to: a semicolon ends it, and the blanks in front of that are
    lost. -/
def Quotable.cut (a : Quotable) : String :=
  match Text.splitOnce? (· == ';') a.text.toList with
  | none => a.text
  | some (before, _) => String.ofList (Text.trimEndBy Text.isBlank before)

/-- What the pieces of a quoted text behind its first semicolon say about a parameter; the
    closing quote belongs to the last of them. -/
def Quotable.strayed? (a : Quotable) (key : Key) : Option String :=
  (Text.splitOnce? (· == ';') a.text.toList).bind fun (_, behind) =>
    piecesValue? key (behind ++ ['"'])

theorem read?_eq (key : Key) (h : Headers) : key.read? h =
    (h.text? "content-disposition").bind fun value =>
      ((value.toList.splitOn ';').drop 1).findSome? (pieceValue? key.word) := by
  have hread : ∀ word : String, dispositionParam? h word =
      (h.text? "content-disposition").bind fun value =>
        ((Text.splitOn (· == ';') value.toList).drop 1).findSome? (pieceValue? word) :=
    fun _ => rfl
  simp only [Text.splitOn_beq] at hread
  cases key with
  | name => exact hread "name"
  | filename => exact hread "filename"

-- A piece that begins a parameter says what is left of it without blanks and quotes.
theorem pieceValue?_quoted (k key : Key) (x : List Char) :
    pieceValue? key.word (' ' :: (k.word.toList ++ '=' :: '"' :: x)) =
      if k = key then some (String.ofList (Text.trimBy (· == '"') (Text.trim ('"' :: x))))
      else none := by
  have hsplit : Text.splitOnce? (· == '=') (' ' :: (k.word.toList ++ '=' :: '"' :: x)) =
      some (' ' :: k.word.toList, '"' :: x) :=
    Text.splitOnce?_append _ '=' ('"' :: x) rfl (' ' :: k.word.toList)
      (by cases k <;> simp [Key.word])
  have hkey : Text.eqIgnoringCase (Text.trim (' ' :: k.word.toList)) key.word.toList =
      decide (k = key) := by cases k <;> cases key <;> decide
  unfold pieceValue?
  rw [hsplit]
  simp only [Option.bind_eq_bind, Option.bind_some, hkey, decide_eq_true_eq]
  rfl

theorem unquoted_closed (cs : List Char) (h : '"' ∉ cs) :
    Text.trimBy (· == '"') (Text.trim ('"' :: (cs ++ ['"']))) = cs := by
  have hplain : ∀ c ∈ cs, (c == '"') = false := fun c hc =>
    beq_eq_false_iff_ne.2 (ne_of_mem_of_not_mem hc h)
  have hquote : ∀ c ∈ ['"'], (c == '"') = true := List.forall_mem_singleton.2 rfl
  have htrim : Text.trim ('"' :: (cs ++ ['"'])) = '"' :: (cs ++ ['"']) := by
    refine Text.trimBy_of_ends _ _ (by rintro c ⟨⟩; rfl) fun c hc => ?_
    rw [← List.cons_append, List.getLast?_append] at hc
    cases hc
    rfl
  rw [htrim, ← List.singleton_append, Text.trimBy_all_append _ _ hquote,
    Text.trimBy_append_of_all _ _ hquote, Text.trimBy_of_none _ _ hplain]

theorem unquoted_open (cs : List Char) (h : '"' ∉ cs) :
    Text.trimBy (· == '"') (Text.trim ('"' :: cs)) = Text.trimEndBy Text.isBlank cs := by
  have htrim : Text.trim ('"' :: cs) = '"' :: Text.trimEndBy Text.isBlank cs :=
    Text.trimEndBy_cons_of_neg Text.isBlank '"' cs rfl
  rw [htrim, Text.trimBy, List.dropWhile_cons_of_pos rfl]
  exact Text.trimBy_of_none _ _ fun c hc =>
    beq_eq_false_iff_ne.2 (ne_of_mem_of_not_mem (Text.mem_of_mem_trimEndBy hc) h)

-- A parameter says something about itself, unless it is cut, and nothing else.
theorem piecesValue?_quoted (k key : Key) (a : Quotable) : piecesValue? key (quotedChars k a) =
    (if k = key then some a.cut else none).or (a.strayed? key) := by
  have hplain : '"' ∉ a.text.toList := fun h => (a.isPlain _ h).1 rfl
  have hword : ';' ∉ k.word.toList := by cases k <;> decide
  unfold piecesValue? Quotable.strayed? Quotable.cut
  by_cases hcut : ';' ∈ a.text.toList
  · rcases Text.splitOnce?_of_mem hcut with ⟨before, behind, htext, hbefore, honce⟩
    have hpieces : quotedChars k a =
        (' ' :: (k.word.toList ++ '=' :: '"' :: before)) ++ ';' :: (behind ++ ['"']) := by
      unfold quotedChars
      rw [htext]
      simp only [List.append_assoc, List.cons_append]
    have hfirst : ';' ∉ ' ' :: (k.word.toList ++ '=' :: '"' :: before) := by
      simp only [List.mem_cons, List.mem_append, not_or]
      exact ⟨by decide, hword, by decide, by decide, hbefore⟩
    have hopen : '"' ∉ before := fun h => hplain (by
      rw [htext]
      exact List.mem_append_left _ h)
    rw [honce, hpieces, List.splitOn_append_cons_self_of_not_mem hfirst, List.findSome?_cons,
      pieceValue?_quoted, unquoted_open before hopen]
    dsimp only [Option.bind_some]
    by_cases hk : k = key
    · rw [if_pos hk]
      rfl
    · rw [if_neg hk]
      rfl
  · have hwhole : ';' ∉ quotedChars k a := by
      unfold quotedChars
      simp only [List.mem_cons, List.mem_append, List.not_mem_nil, or_false, not_or]
      exact ⟨by decide, hword, by decide, by decide, hcut, by decide⟩
    rw [Text.splitOnce?_of_not_mem hcut, List.splitOn_eq_singleton hwhole, List.findSome?_cons]
    unfold quotedChars
    rw [pieceValue?_quoted, unquoted_closed _ hplain, String.ofList_toList]
    dsimp only [Option.bind_none]
    by_cases hk : k = key
    · rw [if_pos hk]
      rfl
    · rw [if_neg hk]
      rfl

theorem text?_formData (k : Key) (a b : Quotable) :
    Headers.text? [(formData k a b).entry] "content-disposition" =
      valueText? (Bytes.ofText (dispositionText k a b)) := by
  have hname : (formData k a b).entry =
      ("content-disposition", Bytes.ofText (dispositionText k a b)) := by
    have hcase : canonicalName (Bytes.ofText "Content-Disposition") = "content-disposition" := by
      decide +kernel
    exact congrArg (·, _) hcase
  rw [hname]
  rfl

/-- A text of which every character is readable. -/
def Quotable.IsReadable (a : Quotable) : Prop := ∀ c ∈ a.text.toList, IsReadableChar c

theorem isReadable_dispositionText (k : Key) (a b : Quotable) :
    (∀ c ∈ (dispositionText k a b).toList, IsReadableChar c) ↔ a.IsReadable ∧ b.IsReadable := by
  constructor
  · intro h
    rw [toList_dispositionText] at h
    unfold quotedChars at h
    exact ⟨fun c hc => h c (by simp only [List.mem_append, List.mem_cons, hc, true_or, or_true]),
      fun c hc => h c (by simp only [List.mem_append, List.mem_cons, hc, true_or, or_true])⟩
  · rintro ⟨ha, hb⟩ c hc
    rcases mem_dispositionText hc with h | h | h
    · exact .inr h
    · exact ha c h
    · exact hb c h

-- Readable parameters are read piece by piece, those of the first one before the others.
theorem read?_of_readable (k key : Key) {a b : Quotable} (ha : a.IsReadable)
    (hb : b.IsReadable) : key.read? [(formData k a b).entry] =
      (piecesValue? key (quotedChars k a)).or (piecesValue? key (quotedChars k.other b)) := by
  have hpieces : ((dispositionText k a b).toList.splitOn ';').drop 1 =
      (quotedChars k a).splitOn ';' ++ (quotedChars k.other b).splitOn ';' := by
    rw [toList_dispositionText, List.splitOn_append_cons_self_of_not_mem (by decide),
      List.splitOn_append_cons_self, List.drop_one, List.tail_cons]
  rw [read?_eq, text?_formData,
    valueText?_of_readable _ ((isReadable_dispositionText k a b).2 ⟨ha, hb⟩), Option.bind_some,
    hpieces, List.findSome?_append]
  rfl

theorem read?_of_not_readable (k key : Key) {a b : Quotable}
    (h : ¬ (a.IsReadable ∧ b.IsReadable)) : key.read? [(formData k a b).entry] = none := by
  rw [read?_eq, text?_formData,
    valueText?_of_not_readable _ fun hall => h ((isReadable_dispositionText k a b).1 hall)]
  rfl

/-! ### What comes back -/

/-- A text that comes back: readable, and without semicolons. -/
def Quotable.IsIntact (a : Quotable) : Prop := a.IsReadable ∧ ';' ∉ a.text.toList

theorem Quotable.cut_eq_text_iff (a : Quotable) : a.cut = a.text ↔ ';' ∉ a.text.toList := by
  constructor
  · intro h hmem
    rcases Text.splitOnce?_of_mem hmem with ⟨before, behind, _, hbefore, honce⟩
    unfold cut at h
    rw [honce] at h
    rw [← h, String.toList_ofList] at hmem
    exact hbefore (Text.mem_of_mem_trimEndBy hmem)
  · intro h
    unfold cut
    rw [Text.splitOnce?_of_not_mem h]

/-- Of two quoted parameters in either order both come back exactly if both texts are readable
    and hold no semicolon. Otherwise neither is there, if a character of either text is not
    readable; or the first is cut at its semicolon, and the second, unless what follows that
    semicolon supplies it, at its own. -/
theorem quoted_parameters_read (k : Key) (a b : Quotable) :
    ∃ h, parseHeaders (Bytes.ofText (blockText [formData k a b])) = .ok h ∧
      (k.read? h = some a.text ∧ k.other.read? h = some b.text ↔ a.IsIntact ∧ b.IsIntact) ∧
      (a.IsReadable ∧ b.IsReadable →
        k.read? h = some a.cut ∧ k.other.read? h = (a.strayed? k.other).or (some b.cut)) ∧
      (¬ (a.IsReadable ∧ b.IsReadable) → k.read? h = none ∧ k.other.read? h = none) := by
  have hother : k ≠ k.other := by cases k <;> decide
  have hreadable : a.IsReadable ∧ b.IsReadable →
      k.read? [(formData k a b).entry] = some a.cut ∧
        k.other.read? [(formData k a b).entry] = (a.strayed? k.other).or (some b.cut) := by
    rintro ⟨ha, hb⟩
    rw [read?_of_readable k k ha hb, read?_of_readable k k.other ha hb, piecesValue?_quoted,
      piecesValue?_quoted, piecesValue?_quoted, piecesValue?_quoted, if_pos rfl, if_neg hother,
      if_pos rfl, Option.none_or]
    exact ⟨rfl, rfl⟩
  have hhidden : ¬ (a.IsReadable ∧ b.IsReadable) →
      k.read? [(formData k a b).entry] = none ∧
        k.other.read? [(formData k a b).entry] = none :=
    fun h => ⟨read?_of_not_readable k k h, read?_of_not_readable k k.other h⟩
  refine ⟨[(formData k a b).entry], parseHeaders_blockText _ _, ?_, hreadable, hhidden⟩
  by_cases hread : a.IsReadable ∧ b.IsReadable
  · rcases hreadable hread with ⟨hfirst, hsecond⟩
    rw [hfirst, hsecond, Option.some.injEq, a.cut_eq_text_iff]
    constructor
    · rintro ⟨ha, hb⟩
      refine ⟨⟨hread.1, ha⟩, hread.2, b.cut_eq_text_iff.1 ?_⟩
      rw [Quotable.strayed?, Text.splitOnce?_of_not_mem ha] at hb
      exact Option.some.inj hb
    · rintro ⟨⟨_, ha⟩, _, hb⟩
      rw [Quotable.strayed?, Text.splitOnce?_of_not_mem ha]
      exact ⟨ha, congrArg some (b.cut_eq_text_iff.2 hb)⟩
  · rw [(hhidden hread).1]
    exact ⟨fun h => absurd h.1 (by rintro ⟨⟩), fun h => absurd ⟨h.1.1, h.2.1⟩ hread⟩

-- A name is cut at its semicolon, and the name of the file behind it comes back.
theorem second_half_lost :
    let a : Quotable := ⟨"cats; dogs", isPlain_of_all rfl⟩
    let b : Quotable := ⟨"pets.png", isPlain_of_all rfl⟩
    a.IsReadable ∧ b.IsIntact ∧
      ∃ h, parseHeaders (Bytes.ofText (blockText [formData .name a b])) = .ok h ∧
        partName? h = some "cats" ∧ partFilename? h = some "pets.png" := by
  intro a b
  have ha : a.IsReadable := by simp [a, Quotable.IsReadable, IsReadableChar]
  have hb : b.IsIntact := by simp [b, Quotable.IsIntact, Quotable.IsReadable, IsReadableChar]
  rcases quoted_parameters_read .name a b with ⟨h, hparse, -, hread, -⟩
  rcases hread ⟨ha, hb.1⟩ with ⟨hname, hfile⟩
  exact ⟨ha, hb, h, hparse, hname.trans (by decide +kernel),
    hfile.trans (by decide +kernel)⟩

-- A name that holds what looks like the other parameter is cut and supplies that one.
theorem name_supplies_filename :
    ∃ h, parseHeaders (Bytes.ofText
        "Content-Disposition: form-data; name=\"a; filename=b\"; filename=\"c\"") = .ok h ∧
      partName? h = some "a" ∧ partFilename? h = some "b" := by
  refine ⟨[("content-disposition",
    Bytes.ofText "form-data; name=\"a; filename=b\"; filename=\"c\"")], ?_, ?_, ?_⟩ <;>
  decide +kernel

end Multipart

end Http

end DemandNet
