import DemandNet.Bytes
import Mathlib.Tactic.Common

/-!
# Text in Bytes

How a text shows in its UTF-8 bytes.

UTF-8 is read back without loss, and it keeps ASCII apart from everything else: a byte
below 128 is an ASCII character, and no other character has such a byte. So a text
contains an ASCII character exactly if its bytes contain that byte, and what a format
says about bytes below 128 can be said about characters.

## Theorems

* `ofText_append`: The bytes of two texts in a row.
* `toText?_ofText`: The bytes of a text are read back as the text.
* `asciiText_ofText`: An ASCII text is read back from its bytes one by one.
* `mem_ofText_of_mem`, `exists_of_mem_ofText`: An ASCII byte stands for its character
  and for nothing else.
* `not_mem_ofText`: The bytes of a text without an ASCII character.
* `toNat_lt_of_mem`: A text of ASCII bytes has only ASCII characters.
-/

namespace DemandNet

namespace Bytes

theorem ofText_append (s t : String) : ofText (s ++ t) = ofText s ++ ofText t := by
  unfold ofText
  rw [String.toUTF8_eq_toByteArray, String.toByteArray_append, ByteArray.toList_data_append]
  rfl

theorem ofText_eq_flatMap (s : String) : ofText s = s.toList.flatMap String.utf8EncodeChar := by
  have hbytes : s.toUTF8 = s.toList.utf8Encode := String.utf8Encode_toList.symm
  unfold ofText
  rw [hbytes, List.utf8Encode, List.data_toByteArray]

theorem toText?_ofText (s : String) : toText? (ofText s) = some s := by
  unfold toText? ofText String.fromUTF8?
  rw [dif_pos (show ByteArray.IsValidUTF8 ⟨s.toUTF8.data.toList.toArray⟩ from s.isValidUTF8)]
  rfl

/-! ### ASCII -/

-- All bytes of a longer form have their highest bit set.
theorem le_of_mem_utf8EncodeChar (c : Char) (b : UInt8) (hc : c.utf8Size ≠ 1)
    (hb : b ∈ String.utf8EncodeChar c) : 128 ≤ b := by
  have hor : ∀ x y : UInt8, 128 ≤ y → 128 ≤ x ||| y := by
    intro x y hy
    rw [UInt8.le_iff_toNat_le] at hy ⊢
    rw [UInt8.toNat_or]
    exact Nat.le_trans hy Nat.right_le_or
  rcases c.utf8Size_eq with h | h | h | h
  · exact absurd h hc
  · rw [String.utf8EncodeChar_eq_cons_cons h] at hb
    simp only [List.mem_cons, List.not_mem_nil, or_false] at hb
    rcases hb with rfl | rfl <;> exact hor _ _ (by decide)
  · rw [String.utf8EncodeChar_eq_cons_cons_cons h] at hb
    simp only [List.mem_cons, List.not_mem_nil, or_false] at hb
    rcases hb with rfl | rfl | rfl <;> exact hor _ _ (by decide)
  · rw [String.utf8EncodeChar_eq_cons_cons_cons_cons h] at hb
    simp only [List.mem_cons, List.not_mem_nil, or_false] at hb
    rcases hb with rfl | rfl | rfl | rfl <;> exact hor _ _ (by decide)

theorem utf8EncodeChar_of_lt (c : Char) (h : c.toNat < 128) :
    String.utf8EncodeChar c = [UInt8.ofNat c.toNat] := by
  have hsize : c.utf8Size = 1 := by
    rw [Char.utf8Size_eq_one_iff, UInt32.le_iff_toNat_le]
    exact Nat.le_of_lt_succ h
  rw [String.utf8EncodeChar_eq_singleton hsize]
  rfl

theorem ofText_of_ascii (s : String) (h : ∀ c ∈ s.toList, c.toNat < 128) :
    ofText s = s.toList.map fun c => UInt8.ofNat c.toNat := by
  rw [ofText_eq_flatMap, List.map_eq_flatMap, List.flatMap_def, List.flatMap_def,
    List.map_congr_left fun c hc => utf8EncodeChar_of_lt c (h c hc)]

theorem asciiText_ofText (s : String) (h : ∀ c ∈ s.toList, c.toNat < 128) :
    asciiText (ofText s) = s := by
  have hback : ∀ c ∈ s.toList, Char.ofNat (UInt8.ofNat c.toNat).toNat = c := by
    intro c hc
    have hlt := h c hc
    rw [UInt8.toNat_ofNat', Nat.mod_eq_of_lt (by omega), Char.ofNat_toNat]
  have hchars : (s.toList.map fun c => UInt8.ofNat c.toNat).map (fun b => Char.ofNat b.toNat) =
      s.toList := by
    rw [List.map_map]
    exact (List.map_congr_left hback).trans (List.map_id' _)
  unfold asciiText
  rw [ofText_of_ascii s h, hchars, String.ofList_toList]

theorem mem_ofText_of_mem (s : String) (c : Char) (hc : c.toNat < 128) (h : c ∈ s.toList) :
    UInt8.ofNat c.toNat ∈ ofText s := by
  rw [ofText_eq_flatMap, List.mem_flatMap]
  exact ⟨c, h, by rw [utf8EncodeChar_of_lt c hc]; exact List.mem_singleton_self _⟩

theorem exists_of_mem_ofText (s : String) (b : UInt8) (hb : b < 128) (h : b ∈ ofText s) :
    ∃ c ∈ s.toList, c.toNat = b.toNat := by
  rw [ofText_eq_flatMap, List.mem_flatMap] at h
  rcases h with ⟨c, hc, hbc⟩
  refine ⟨c, hc, ?_⟩
  by_cases hsize : c.utf8Size = 1
  · rw [Char.utf8Size_eq_one_iff, UInt32.le_iff_toNat_le] at hsize
    have hlt : c.toNat < 128 := Nat.lt_succ_of_le hsize
    rw [utf8EncodeChar_of_lt c hlt, List.mem_singleton] at hbc
    rw [hbc, UInt8.toNat_ofNat']
    omega
  · have hle := le_of_mem_utf8EncodeChar c b hsize hbc
    exact absurd hb (UInt8.not_lt.2 hle)

theorem not_mem_ofText (s : String) (c : Char) (hc : c.toNat < 128) (h : c ∉ s.toList) :
    UInt8.ofNat c.toNat ∉ ofText s := by
  intro hb
  have hnat : (UInt8.ofNat c.toNat).toNat = c.toNat := by
    rw [UInt8.toNat_ofNat']
    omega
  have hlt : UInt8.ofNat c.toNat < 128 := by
    rw [UInt8.lt_iff_toNat_lt, hnat]
    exact hc
  rcases exists_of_mem_ofText s _ hlt hb with ⟨d, hd, hdc⟩
  rw [hnat] at hdc
  exact h (Char.toNat_inj.1 hdc ▸ hd)

theorem toNat_lt_of_mem (s : String) (h : ∀ b ∈ ofText s, b < 128) (c : Char)
    (hc : c ∈ s.toList) : c.toNat < 128 := by
  by_contra hlarge
  have hsize : c.utf8Size ≠ 1 := by
    rw [Ne, Char.utf8Size_eq_one_iff, UInt32.le_iff_toNat_le]
    exact fun hle => hlarge (Nat.lt_succ_of_le hle)
  have hpos : 0 < (String.utf8EncodeChar c).length :=
    List.length_pos_iff.2 String.utf8EncodeChar_ne_nil
  have hmem := List.getElem_mem hpos
  have hbyte : (String.utf8EncodeChar c)[0] ∈ ofText s := by
    rw [ofText_eq_flatMap, List.mem_flatMap]
    exact ⟨c, hc, hmem⟩
  exact absurd (h _ hbyte) (UInt8.not_lt.2 (le_of_mem_utf8EncodeChar c _ hsize hmem))

end Bytes

end DemandNet
