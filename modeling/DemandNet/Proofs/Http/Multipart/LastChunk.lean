import DemandNet.Proofs.Http.Multipart.Overflow

/-!
# The Last Chunk

What a run leaves in the buffer came with the last chunk that it took.

The decoder does not keep how its input was cut: of a chunk it used in part only the rest
is in the buffer, and nothing tells where that began. What can be said is what had not
come before. An attempt that asks for more keeps so little that the result it comes to
takes more off the buffer than was kept. So a run that took a chunk at all leaves nothing
that was there without the last one. Only a chunk of a body leaves more: the bytes that
could begin a delimiter.

## Main definitions

* `Fresh`: The last bytes of a body came, if at all, with the last chunk.
* `Leaves`: What an attempt leaves that had asked for more.

## Theorems

* `run_fresh`: A run took no chunk, or what it leaves came with the last one.
* `leaves_skip`, `leaves_suffix`, `leaves_headers`, `leaves_body`: What the attempts leave.
-/

namespace DemandNet

namespace Http

namespace Multipart

open Decoder (isPaddingByte)

/-- Until the last chunk came, the last `n` bytes of the body were all still to come. -/
structure Fresh (chunks rest : List Bytes) (n : Nat) : Prop where
  later : rest <:+ chunks
  last : ∀ l, l <:+ chunks → rest.length < l.length → n ≤ l.flatten.length

theorem Fresh.mono {chunks rest : List Bytes} {m n : Nat} (h : Fresh chunks rest n)
    (hle : m ≤ n) : Fresh chunks rest m :=
  ⟨h.later, fun l hl hlength => Nat.le_trans hle (h.last l hl hlength)⟩

/-- An attempt that had asked for more leaves the chunk that it got then and, perhaps, this
    much. -/
def Leaves (attempt : Decoder → Attempt α × Decoder) (slack : α → Decoder → Nat) : Prop :=
  ∀ (d d₁ d₂ : Decoder) (x : Bytes) (a : α), attempt d = (.more, d₁) →
    attempt (d₁.feed x) = (.done a, d₂) → d₂.buffer.length ≤ x.length + slack a d₂

theorem length_whole (d : Decoder) (i : Input) :
    (d.whole i).buffer.length = d.buffer.length + i.chunks.flatten.length :=
  List.length_append

theorem runOn_taken {attempt : Decoder → Attempt α × Decoder} {slack : α → Decoder → Nat}
    (hleaves : Leaves attempt slack) (ending : Ending) (chunks : List Bytes) :
    ∀ (d : Decoder) (pulls : Nat) (a : α) (d' : Decoder) (i' : Input),
      Decoder.runOn attempt ending d pulls chunks = (.done a, d', i') →
      i'.chunks = chunks ∧ attempt d = (.done a, d') ∨
        i'.chunks <:+ chunks ∧ i'.chunks.length < chunks.length ∧
          ∀ l, l <:+ chunks → i'.chunks.length < l.length →
            (d'.whole i').buffer.length ≤ l.flatten.length + slack a d' := by
  induction chunks with
  | nil =>
      intro d pulls a d' i' h
      rw [Decoder.runOn] at h
      rcases hd : attempt d with ⟨a₁ | e | _, d₁⟩ <;> rw [hd] at h
      · cases h
        exact .inl ⟨rfl, rfl⟩
      · cases h
      · cases ending <;> cases h
  | cons chunk rest ih =>
      intro d pulls a d' i' h
      rw [Decoder.runOn] at h
      rcases hd : attempt d with ⟨a₁ | e | _, d₁⟩ <;> rw [hd] at h
      · cases h
        exact .inl ⟨rfl, rfl⟩
      · cases h
      · -- A chunk was taken: it is in every list of chunks that is longer than the rest.
        right
        rcases ih (d₁.feed chunk) (pulls + 1) a d' i' h with
          ⟨hrest, hdone⟩ | ⟨hrest, hfewer, hlast⟩
        · have hkept := hleaves d d₁ d' chunk a hd hdone
          rw [hrest]
          refine ⟨List.suffix_cons chunk rest, Nat.lt_succ_self _, fun l hl hlength => ?_⟩
          rcases List.suffix_cons_iff.1 hl with rfl | hl
          · rw [length_whole, hrest, List.flatten_cons, List.length_append]
            omega
          · exact absurd hl.length_le (Nat.not_le.2 hlength)
        · refine ⟨hrest.trans (List.suffix_cons chunk rest), Nat.lt_succ_of_lt hfewer,
            fun l hl hlength => ?_⟩
          rcases List.suffix_cons_iff.1 hl with rfl | hl
          · have hbound := hlast rest (List.suffix_refl rest) hfewer
            rw [List.flatten_cons, List.length_append]
            omega
          · exact hlast l hl hlength

-- A run took no chunk, or what it leaves came with the last one.
theorem run_fresh {attempt : Decoder → Attempt α × Decoder} {slack : α → Decoder → Nat}
    (hleaves : Leaves attempt slack) {d d' : Decoder} {i i' : Input} {a : α}
    (h : d.run attempt i = (.done a, d', i')) :
    i'.chunks <:+ i.chunks ∧ (i'.chunks = i.chunks ∧ attempt d = (.done a, d') ∨
      ∀ chunks, i.chunks <:+ chunks →
        Fresh chunks i'.chunks ((d'.whole i').buffer.length - slack a d')) := by
  rcases runOn_taken hleaves i.ending i.chunks d i.pulls a d' i' h with
    ⟨hsame, hdone⟩ | ⟨hrest, hfewer, hlast⟩
  · exact ⟨hsame ▸ List.suffix_refl _, .inl ⟨hsame, hdone⟩⟩
  · refine ⟨hrest, .inr fun chunks hi => ⟨hrest.trans hi, fun l hl hlength => ?_⟩⟩
    by_cases hshort : l.length ≤ i.chunks.length
    · have hbound := hlast l (List.suffix_of_suffix_length_le hl hi hshort) hlength
      omega
    · have hbound := hlast i.chunks (List.suffix_refl _) hfewer
      have hlonger := List.suffix_of_suffix_length_le hi hl (by omega)
      have hle := flatten_length_of_suffix hlonger
      omega

theorem leaves_skip : Leaves Decoder.skipAttempt (fun _ _ => 0) := by
  intro d d₁ d₂ x u h hdone
  cases hf : indexOf? d.delimiter d.buffer with
  | some n =>
      rw [skipAttempt_some d n hf] at h
      cases h
  | none =>
      rw [skipAttempt_none d hf] at h
      cases h
      -- Fewer bytes were kept than the delimiter has that was found then.
      have hlength : ((d.advance (d.buffer.length - (d.delimiter.length - 1))).feed
          x).buffer.length ≤ d.delimiter.length - 1 + x.length := by
        unfold Decoder.feed Decoder.advance
        rw [List.length_append, List.length_drop]
        omega
      revert hdone hlength
      generalize hw : (d.advance (d.buffer.length - (d.delimiter.length - 1))).feed x = w
      intro hdone hlength
      have hdelimiter : w.delimiter = d.delimiter := by rw [← hw]; rfl
      have hpos : 0 < d.delimiter.length := List.length_pos_iff.2 (delimiter_ne_nil d)
      cases hf' : indexOf? w.delimiter w.buffer with
      | none =>
          rw [skipAttempt_none w hf'] at hdone
          cases hdone
      | some n =>
          rw [skipAttempt_some w n hf'] at hdone
          cases hdone
          unfold Decoder.advance
          rw [List.length_drop, hdelimiter]
          omega

theorem leaves_suffix : Leaves Decoder.suffixAttempt (fun _ _ => 0) := by
  intro d d₁ d₂ x u h hdone
  have hshort := (suffixAttempt_more h).2
  have htaken := (suffixAttempt_done _ _ hdone).2.1
  have hlength : (d₁.feed x).buffer.length = d₁.buffer.length + x.length := List.length_append
  omega

theorem leaves_headers : Leaves Decoder.headersAttempt (fun _ _ => 0) := by
  intro d d₁ d₂ x hs h hdone
  rcases headersAttempt_more h with ⟨hsame, hopen, hnone⟩
  subst hsame
  have hlength : (d₁.feed x).buffer.length = d₁.buffer.length + x.length := List.length_append
  by_cases hp : lineEnd <+: (d₁.feed x).buffer
  · have hless : d₁.buffer.length < 2 := by
      by_contra hlong
      exact hopen ((lineEnd_prefix_append d₁.buffer x (Nat.not_lt.1 hlong)).1 hp)
    rw [headersAttempt_empty _ hp] at hdone
    cases hdone
    unfold Decoder.advance
    rw [List.length_drop]
    omega
  · cases hf : indexOf? (lineEnd ++ lineEnd) (d₁.feed x).buffer with
    | none =>
        rw [headersAttempt_none _ hp hf] at hdone
        split_ifs at hdone <;> cases hdone
    | some n =>
        -- The end that was found is not in the part of the buffer without one.
        have hlate : d₁.buffer.length < n + 4 := by
          by_contra hfit
          have hfit : n + (lineEnd ++ lineEnd).length ≤ d₁.buffer.length := Nat.not_lt.1 hfit
          have hin := prefix_drop_of_append _ d₁.buffer x n hfit
            ((indexOf?_eq_some _ _ _).1 hf).1
          exact (indexOf?_eq_none _ _).1 hnone n hin
        rw [headersAttempt_some _ n hp hf] at hdone
        cases hparse : parseHeaders ((d₁.feed x).buffer.take n) <;> rw [hparse] at hdone <;>
          cases hdone
        unfold Decoder.advance
        rw [List.length_drop]
        omega

/-- What a look for a chunk leaves of the buffer that it had before the last one. -/
def bodySlack (found : Decoder.Found) (d : Decoder) : Nat :=
  if found = .delimiter then 0 else d.delimiter.length - 1

theorem leaves_body : Leaves Decoder.bodyAttempt bodySlack := by
  intro d d₁ d₂ x found h hdone
  have hplace : d.place = .body := by
    by_contra hplace
    unfold Decoder.bodyAttempt at h
    rw [if_pos hplace] at h
    cases h
  have htry := bodyAttempt_tries hplace
  rw [h] at htry
  have hkept : d₁ = d ∧ d.buffer.length ≤ d.delimiter.length - 1 := by
    cases htry with
    | more _ hshort => exact ⟨rfl, hshort⟩
  rcases hkept with ⟨hsame, hshort⟩
  subst hsame
  have hlength : (d₁.feed x).buffer.length = d₁.buffer.length + x.length := List.length_append
  have hpos : 0 < d₁.delimiter.length := List.length_pos_iff.2 (delimiter_ne_nil d₁)
  have hwhole : ∀ d : Decoder, d.whole ⟨[], .ended, 0⟩ = d := fun d => d.feed_nil
  have hlook := bodyLook_of_attempt (d₁.feed x) d₂ found [] ⟨[], .ended, 0⟩ hplace rfl hdone
  rw [Decoder.feed_nil] at hlook
  cases hlook with
  | delimiter _ _ _ _ hrest =>
      rw [hwhole] at hrest
      subst hrest
      have hrest : ((d₁.feed x).advance d₁.delimiter.length).buffer.length =
          (d₁.feed x).buffer.length - d₁.delimiter.length := List.length_drop
      unfold bodySlack
      rw [if_pos rfl]
      change ((d₁.feed x).advance d₁.delimiter.length).buffer.length ≤ _
      omega
  | chunk n _ _ _ hn _ _ hrest =>
      rw [hwhole] at hrest
      subst hrest
      have hrest : ((d₁.feed x).advance n).buffer.length =
          (d₁.feed x).buffer.length - n := List.length_drop
      unfold bodySlack
      rw [if_neg (by rintro ⟨⟩)]
      change _ ≤ x.length + (d₁.delimiter.length - 1)
      omega

end Multipart

end Http

end DemandNet
