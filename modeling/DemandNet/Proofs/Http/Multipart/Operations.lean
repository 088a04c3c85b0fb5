import DemandNet.Proofs.Http.Multipart.Transcript

/-!
# What Operations Come To

Everything that an operation of the decoder can come to, one case each.

An operation is a run or two, and what a run comes to is known from the whole input. Here
the runs are put together once: looking for a chunk, going to the end of a boundary line,
and asking for the next part. What is said of the decoder later follows these cases and
does not open the operations again.

## Main definitions

* `ChunkLook`: What looking for a chunk comes to.
* `LineLook`: What going to the end of the next boundary line comes to.
* `PartLook`: What asking for the next part comes to.
* `NextRegion`: Where the headers of the next part begin.

## Theorems

* `bodyChunk_looks`, `skipToDelimiter_looks`, `nextPart_looks`: These are all the cases.
-/

namespace DemandNet

namespace Http

namespace Multipart

/-- An outcome with another result. -/
def Outcome.as (b : β) : Outcome α → Outcome β
  | .done _ => .done b
  | .failed e => .failed e
  | .stalled => .stalled

/-- What looking for a chunk of a part comes to. -/
inductive ChunkLook (d : Decoder) (i : Input) :
    Outcome (Option Bytes) × Decoder × Input → Prop where
  | outside (hplace : d.place ≠ .body) : ChunkLook d i (.done none, d, i)
  | chunk {n : Nat} {d' : Decoder} {i' : Input} (hplace : d.place = .body)
      (hrun : d.run Decoder.bodyAttempt i =
        (.done (.chunk ((d.whole i).buffer.take n)), d', i'))
      (hpos : 0 < n) (hkeep : n + (d.delimiter.length - 1) ≤ (d.whole i).buffer.length)
      (hfound : indexOf? d.delimiter (d.whole i).buffer =
        (indexOf? d.delimiter ((d.whole i).buffer.drop n)).map (n + ·))
      (hrest : d'.whole i' = (d.whole i).advance n) :
      ChunkLook d i (.done (some ((d.whole i).buffer.take n)), d', i')
  | delimiter {d₁ d' : Decoder} {i₁ i' : Input} {u : Outcome Unit} (hplace : d.place = .body)
      (hrun : d.run Decoder.bodyAttempt i = (.done .delimiter, d₁, i₁))
      (hfound : indexOf? d.delimiter (d.whole i).buffer = some 0)
      (hrest : d₁.whole i₁ = (d.whole i).advance d.delimiter.length)
      (hsuffix : d₁.run Decoder.suffixAttempt i₁ = (u, d', i')) :
      ChunkLook d i (u.as none, d', i')
  | broken {pulls : Nat} (hplace : d.place = .body)
      (hfound : indexOf? d.delimiter (d.whole i).buffer = none)
      (hshort : (d.whole i).buffer.length ≤ d.delimiter.length - 1) :
      ChunkLook d i (i.ending.outcome, d.whole i, ⟨[], i.ending.after, pulls⟩)

theorem run_bodyAttempt_nothing {d : Decoder} {i : Input} (h : d.place ≠ .body) :
    d.run Decoder.bodyAttempt i = (.done .nothing, d, i) := by
  have hattempt : d.bodyAttempt = (.done .nothing, d) := by
    unfold Decoder.bodyAttempt
    rw [if_pos h]
  rcases i with ⟨_ | ⟨chunk, rest⟩, ending, pulls⟩
  · unfold Decoder.run
    rw [Decoder.runOn, hattempt]
  · unfold Decoder.run
    rw [Decoder.runOn, hattempt]

theorem bodyChunk_looks (d : Decoder) (i : Input) : ChunkLook d i (d.bodyChunk i) := by
  unfold Decoder.bodyChunk
  by_cases hplace : d.place = .body
  · have hlook := run_bodyAttempt d i hplace
    generalize hrun : d.run Decoder.bodyAttempt i = look at hlook
    cases hlook with
    | delimiter d₁ i₁ _ hfound hrest =>
        dsimp only
        rcases hsuffix : d₁.run Decoder.suffixAttempt i₁ with ⟨u | e | _, d', i'⟩ <;>
          exact .delimiter hplace hrun hfound hrest hsuffix
    | chunk n d' i' _ hpos hkeep hfound hrest =>
        exact .chunk hplace hrun hpos hkeep hfound hrest
    | broken pulls hfound hshort =>
        have hbroken : ∀ pulls, ChunkLook d i
            (i.ending.outcome, d.whole i, ⟨[], i.ending.after, pulls⟩) :=
          fun pulls => .broken hplace hfound hshort
        cases hending : i.ending <;> rw [hending] at hbroken <;> exact hbroken pulls
  · rw [run_bodyAttempt_nothing hplace]
    exact .outside hplace

/-- What going to the end of the next boundary line comes to. -/
inductive LineLook (d : Decoder) (i : Input) : Outcome Unit × Decoder × Input → Prop where
  | delimiter {n : Nat} {d₁ d' : Decoder} {i₁ i' : Input} {u : Outcome Unit}
      (hrun : d.run Decoder.skipAttempt i = (.done (), d₁, i₁))
      (hfound : indexOf? d.delimiter (d.whole i).buffer = some n)
      (hrest : d₁.whole i₁ = (d.whole i).advance (n + d.delimiter.length))
      (hsuffix : d₁.run Decoder.suffixAttempt i₁ = (u, d', i')) : LineLook d i (u, d', i')
  | broken {pulls : Nat} (hfound : indexOf? d.delimiter (d.whole i).buffer = none) :
      LineLook d i (i.ending.outcome,
        (d.whole i).advance ((d.whole i).buffer.length - (d.delimiter.length - 1)),
        ⟨[], i.ending.after, pulls⟩)

theorem skipToDelimiter_looks (d : Decoder) (i : Input) :
    LineLook d i (d.skipToDelimiter i) := by
  have hset := steady_skip.settles d i trivial
  unfold Decoder.skipToDelimiter
  generalize hrun : d.run Decoder.skipAttempt i = r at hset
  cases hfound : indexOf? d.delimiter (d.whole i).buffer with
  | some n =>
      have hskip : (d.whole i).skipAttempt =
          (.done (), (d.whole i).advance (n + d.delimiter.length)) :=
        skipAttempt_some (d.whole i) n hfound
      rw [hskip] at hset
      generalize hw : (d.whole i).advance (n + d.delimiter.length) = w at hset
      cases hset with
      | done _ d₁ i₁ _ =>
          rcases hsuffix : d₁.run Decoder.suffixAttempt i₁ with ⟨u, d', i'⟩
          dsimp only
          rw [hsuffix]
          exact .delimiter hrun hfound hw.symm hsuffix
  | none =>
      have hskip : (d.whole i).skipAttempt = (.more, (d.whole i).advance
          ((d.whole i).buffer.length - (d.delimiter.length - 1))) :=
        skipAttempt_none (d.whole i) hfound
      rw [hskip] at hset
      cases hset with
      | broken _ pulls =>
          have hbroken : ∀ pulls, LineLook d i (i.ending.outcome, (d.whole i).advance
              ((d.whole i).buffer.length - (d.delimiter.length - 1)),
              ⟨[], i.ending.after, pulls⟩) := fun pulls => .broken hfound
          cases hending : i.ending <;> rw [hending] at hbroken <;> exact hbroken pulls

/-- What asking for the next part comes to. -/
inductive PartLook (d : Decoder) (i : Input) :
    Outcome (Option Headers) × Decoder × Input → Prop where
  | ended (hplace : d.place = .epilogue) : PartLook d i (.done none, d, i)
  | here (hplace : d.place = .headers) : PartLook d i (d.readHeaders i)
  | opened {d₁ : Decoder} {i₁ : Input} (hplace : d.place = .preamble ∨ d.place = .body)
      (hskip : d.skipToDelimiter i = (.done (), d₁, i₁)) (hopen : d₁.place = .headers) :
      PartLook d i (d₁.readHeaders i₁)
  | closed {u : Outcome Unit} {d₁ : Decoder} {i₁ : Input}
      (hplace : d.place = .preamble ∨ d.place = .body)
      (hskip : d.skipToDelimiter i = (u, d₁, i₁)) (hclosed : u = .done () → d₁.place ≠ .headers) :
      PartLook d i (u.as none, d₁, i₁)

theorem nextPart_looks (d : Decoder) (i : Input) : PartLook d i (d.nextPart i) := by
  unfold Decoder.nextPart
  cases hplace : d.place with
  | epilogue => exact .ended hplace
  | headers => exact .here hplace
  | preamble | body =>
      have hbefore : d.place = .preamble ∨ d.place = .body := by
        rw [hplace]
        decide
      dsimp only
      rcases hskip : d.skipToDelimiter i with ⟨u | e | _, d₁, i₁⟩
      · by_cases hopen : d₁.place = .headers
        · dsimp only
          rw [if_pos hopen]
          exact .opened hbefore hskip hopen
        · dsimp only
          rw [if_neg hopen]
          exact .closed hbefore hskip fun _ => hopen
      · exact .closed hbefore hskip (by rintro ⟨⟩)
      · exact .closed hbefore hskip (by rintro ⟨⟩)

/-! ### Where the next headers begin -/

/-- The headers of the next part begin this region of the body. -/
def NextRegion (d : Decoder) (i : Input) (region : Bytes) : Prop :=
  d.place = .headers ∧ (d.whole i).buffer = region ∨
    (d.place = .preamble ∨ d.place = .body) ∧
      openedBy? d.delimiter (d.whole i).buffer = some region

theorem boundaryLine_of_opened (w : Decoder) (region : Bytes)
    (h : openedBy? w.delimiter w.buffer = some region) :
    boundaryLine w = (.done (), { w with buffer := region, place := .headers }) := by
  unfold openedBy? at h
  cases hfound : indexOf? w.delimiter w.buffer with
  | none =>
      rw [hfound] at h
      cases h
  | some n =>
      rw [hfound] at h
      dsimp only at h
      split at h
      · rename_i rest hrest
        cases h
        unfold boundaryLine
        rw [skipAttempt_some w n hfound]
        dsimp only
        rw [suffixAttempt_long _ 13 10 region hrest, if_neg (by decide),
          if_pos (show lineEnd = [13, 10] from rfl)]
        rfl
      · cases h

-- A boundary line that opens a part ends where its headers begin.
theorem nextRegion_of_skip {d d₁ : Decoder} {i i₁ : Input}
    (hplace : d.place = .preamble ∨ d.place = .body)
    (hskip : d.skipToDelimiter i = (.done (), d₁, i₁)) (hopen : d₁.place = .headers) :
    NextRegion d i (d₁.whole i₁).buffer := by
  have hset := skipToDelimiter_settles d i
  rw [hskip] at hset
  exact .inr ⟨hplace, (boundaryLine_done _ _ hset.done_eq.1).2.2.1 hopen⟩

theorem nextRegion_of_part {d : Decoder} {i : Input} {headers : Headers}
    (hpart : (d.nextPart i).1 = .done (some headers)) :
    ∃ region, NextRegion d i region := by
  have hlook := nextPart_looks d i
  generalize hr : d.nextPart i = r at hlook hpart
  cases hlook with
  | ended _ => cases hpart
  | here hplace => exact ⟨_, .inl ⟨hplace, rfl⟩⟩
  | opened hplace hskip hopen => exact ⟨_, nextRegion_of_skip hplace hskip hopen⟩
  | @closed u _ _ _ _ _ => cases u <;> cases hpart

end Multipart

end Http

end DemandNet
