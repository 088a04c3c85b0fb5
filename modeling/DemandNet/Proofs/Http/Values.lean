import DemandNet.Http.Headers
import DemandNet.Proofs.Text.Utf8

/-!
# Values of Headers

The values that a name has among headers, which texts may be a value, and which of them are
read back.

Fields are added, replaced and dropped by name, so what a name has is put together from the
parts of the headers.

A value may hold every byte but the controls, so every text without controls may be one.
It is read as text only if all its bytes are tabs or visible ASCII characters. A character
that is not ASCII has a byte that is not, so a text is read back if its characters are
readable, and otherwise nothing is read.

## Main definitions

* `IsReadableChar`: What a readable value may hold.

## Theorems

* `Headers.values_concat`, `Headers.values_insert`: The values of a name among more headers.
* `isValue_ofText`: A text without controls is a legal value.
* `all_isReadable_ofText`: A value is readable exactly if its characters are.
* `valueText?_of_readable`, `valueText?_of_not_readable`: What is read of a text.
* `readable_of_texts`: What is read is readable.
-/

namespace DemandNet

namespace Http

/-! ### The values of a name -/

namespace Headers

theorem values_cons (f : String × Bytes) (h : Headers) (name : String) :
    values (f :: h) name = (if f.1 = name then [f.2] else []) ++ h.values name := by
  by_cases hname : f.1 = name
  · simp only [values, List.filterMap_cons, if_pos hname, List.singleton_append]
  · simp only [values, List.filterMap_cons, if_neg hname, List.nil_append]

theorem values_concat (h others : Headers) (name : String) :
    values (h ++ others) name = h.values name ++ others.values name := List.filterMap_append

-- Fields are dropped by name, so a name keeps all its values or none.
theorem values_filter (h : Headers) (keep : String → Bool) (name : String) :
    values (h.filter fun f => keep f.1) name = if keep name then h.values name else [] := by
  induction h with
  | nil =>
      by_cases hkeep : keep name = true
      · rw [if_pos hkeep]
        rfl
      · rw [if_neg hkeep]
        rfl
  | cons f rest ih =>
      by_cases hf : keep f.1 = true
      · have hkept : List.filter (fun f : String × Bytes => keep f.1) (f :: rest) =
            f :: List.filter (fun f => keep f.1) rest := List.filter_cons_of_pos hf
        rw [hkept, values_cons, values_cons, ih]
        by_cases hname : f.1 = name
        · rw [← hname, if_pos hf, if_pos hf]
        · rw [if_neg hname, List.nil_append, List.nil_append]
      · have hkept : List.filter (fun f : String × Bytes => keep f.1) (f :: rest) =
            List.filter (fun f => keep f.1) rest := List.filter_cons_of_neg hf
        rw [hkept, values_cons, ih]
        by_cases hname : f.1 = name
        · rw [← hname, if_neg hf, if_neg hf]
        · rw [if_neg hname, List.nil_append]

theorem values_append (h : Headers) (other name : String) (value : Bytes) :
    (h.append other value).values name =
      h.values name ++ if other = name then [value] else [] := by
  rw [append, values_concat, values_cons]
  exact congrArg (h.values name ++ ·) (List.append_nil _)

theorem values_insert (h : Headers) (other name : String) (value : Bytes) :
    (h.insert other value).values name = if other = name then [value] else h.values name := by
  rw [insert, values_append, remove, values_filter h (· != other)]
  by_cases hname : other = name
  · rw [if_pos hname, if_pos hname, if_neg, List.nil_append]
    rw [hname, bne_self_eq_false]
    exact Bool.false_ne_true
  · rw [if_neg hname, if_neg hname, if_pos, List.append_nil]
    exact bne_iff_ne.2 (Ne.symm hname)

theorem contains_iff (h : Headers) (name : String) :
    h.contains name = true ↔ h.values name ≠ [] := by
  unfold contains get?
  exact List.isSome_head?

end Headers

/-! ### Texts as values -/

-- Only controls are not legal: what is not ASCII has bytes from 128 on.
theorem isValue_ofText (s : String) (h : ∀ c ∈ s.toList, 32 ≤ c.toNat ∧ c.toNat ≠ 127) :
    isValue (Bytes.ofText s) = true := by
  unfold isValue
  rw [List.all_eq_true]
  intro b hb
  have hlegal : 32 ≤ b.toNat ∧ b.toNat ≠ 127 := by
    by_cases hascii : b < 128
    · rcases Bytes.exists_of_mem_ofText s b hascii hb with ⟨c, hc, hnat⟩
      rw [← hnat]
      exact h c hc
    · rw [UInt8.lt_iff_toNat_lt] at hascii
      have hlarge : 128 ≤ b.toNat := Nat.not_lt.1 hascii
      omega
  simp only [Bool.or_eq_true, Bool.and_eq_true, decide_eq_true_eq, bne_iff_ne, ne_eq, beq_iff_eq,
    UInt8.le_iff_toNat_le, ← UInt8.toNat_inj]
  exact .inr hlegal

/-- The characters that a readable value may hold. -/
def IsReadableChar (c : Char) : Prop := c.toNat = 9 ∨ 32 ≤ c.toNat ∧ c.toNat ≤ 126

theorem isReadable_iff (b : UInt8) :
    isReadable b = true ↔ b.toNat = 9 ∨ 32 ≤ b.toNat ∧ b.toNat ≤ 126 := by
  unfold isReadable
  simp only [Bool.or_eq_true, Bool.and_eq_true, decide_eq_true_eq, beq_iff_eq,
    UInt8.le_iff_toNat_le, ← UInt8.toNat_inj]
  rfl

theorem lt_of_isReadableChar {c : Char} (h : IsReadableChar c) : c.toNat < 128 := by
  rcases h with h | h <;> omega

theorem all_isReadable_ofText (s : String) :
    (Bytes.ofText s).all isReadable = true ↔ ∀ c ∈ s.toList, IsReadableChar c := by
  have hnat : ∀ c : Char, c.toNat < 128 → (UInt8.ofNat c.toNat).toNat = c.toNat := by
    intro c hc
    rw [UInt8.toNat_ofNat']
    omega
  rw [List.all_eq_true]
  constructor
  · intro h c hc
    have hascii : c.toNat < 128 := by
      refine Bytes.toNat_lt_of_mem s (fun b hb => ?_) c hc
      have hread := (isReadable_iff b).1 (h b hb)
      rw [UInt8.lt_iff_toNat_lt]
      change b.toNat < 128
      omega
    have hread := (isReadable_iff _).1 (h _ (Bytes.mem_ofText_of_mem s c hascii hc))
    rwa [hnat c hascii] at hread
  · intro h b hb
    rw [Bytes.ofText_of_ascii s fun c hc => lt_of_isReadableChar (h c hc)] at hb
    rcases List.mem_map.1 hb with ⟨c, hc, rfl⟩
    rw [isReadable_iff, hnat c (lt_of_isReadableChar (h c hc))]
    exact h c hc

theorem valueText?_of_readable (s : String) (h : ∀ c ∈ s.toList, IsReadableChar c) :
    valueText? (Bytes.ofText s) = some s := by
  unfold valueText?
  rw [if_pos ((all_isReadable_ofText s).2 h),
    Bytes.asciiText_ofText s fun c hc => lt_of_isReadableChar (h c hc)]

theorem valueText?_of_not_readable (s : String) (h : ¬ ∀ c ∈ s.toList, IsReadableChar c) :
    valueText? (Bytes.ofText s) = none := by
  unfold valueText?
  rw [if_neg fun hall => h ((all_isReadable_ofText s).1 hall)]

theorem readable_of_valueText {v : Bytes} {text : String} (h : valueText? v = some text) :
    ∀ c ∈ text.toList, IsReadableChar c := by
  have hascii : ∀ n : Fin 256, (Char.ofNat n.val).toNat = n.val := by decide +kernel
  unfold valueText? at h
  by_cases hall : v.all isReadable = true
  · rw [if_pos hall, Option.some.injEq] at h
    intro c hc
    rw [← h, Bytes.asciiText, String.toList_ofList] at hc
    rcases List.mem_map.1 hc with ⟨b, hb, rfl⟩
    have hread := (isReadable_iff b).1 (List.all_eq_true.1 hall b hb)
    unfold IsReadableChar
    rwa [hascii ⟨b.toNat, b.toNat_lt⟩]
  · rw [if_neg hall] at h
    cases h

theorem readable_of_texts {h : Headers} {name line : String} (hline : line ∈ h.texts name) :
    ∀ c ∈ line.toList, IsReadableChar c := by
  rcases List.mem_filterMap.1 hline with ⟨v, _, hv⟩
  exact readable_of_valueText hv

end Http

end DemandNet
