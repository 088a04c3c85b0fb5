import DemandNet.Proofs.Http.Multipart.Calls
import Mathlib.Data.List.Infix

/-!
# Parts that are Dropped

Of a part as much can be read as one likes: the parts after it are the same.

A part that is dropped leaves the decoder somewhere in its body, and the next question for
a part goes to the next delimiter from there. So two scanners have to find the same
delimiter: one hands the bytes in front of it out, the other throws them away. Both keep
as many bytes as may begin a delimiter, and both ask for input only when they have no
more than these, so they ask for the same chunks. A chunk that is handed out takes nothing
away that the other would not have thrown away. Skipping from behind it comes to the same
buffer, in the same place and with the same input, as skipping from in front of it.

Reading to the end is therefore skipping, and so is reading a while and then skipping. The
rest of a boundary line that is none is met by whichever of the two comes to it: by a
chunk that is asked for, or by the question for the next part.

## Main definitions

* `SkipsBeside`, `LooksBeside`: A look for a chunk, beside skipping from where it began.
* `nextBehind`: The question for the next part, behind the present one.
* `Portion`: How much of a part is asked for.
* `Reader.sample`: The parts that a reader gets, each with its portion, and how it stops.
* `Dropped`, `Agrees`: One part and all parts with portions, beside reading everything.

## Theorems

* `runOn_skipsBeside`: Both scanners find the same delimiter.
* `chunksUpTo_skips`: Chunks were left out, or the part is behind.
* `readChunks_eq_skipToDelimiter`: Reading to the end is skipping.
* `takeChunks_dropped`: What is met in a part or by the question for the next one.
* `sample_agrees`: The portions do not matter for the parts.
-/

namespace DemandNet

namespace Http

namespace Multipart

open Decoder (Found)

/-! ### Two scanners -/

-- The bytes in front of the next delimiter are thrown away if they are not handed out.
theorem skipAttempt_advance_before {d : Decoder} {n : Nat}
    (hfound : indexOf? d.delimiter d.buffer = some n) :
    (d.advance n).skipAttempt = d.skipAttempt := by
  have hzero : indexOf? d.delimiter (d.buffer.drop n) = some 0 := by
    rw [indexOf?_eq_some]
    exact ⟨((indexOf?_eq_some _ _ _).1 hfound).1, fun m hm => absurd hm (Nat.not_lt_zero m)⟩
  rw [skipAttempt_some d n hfound, skipAttempt_some (d.advance n) 0 hzero,
    Decoder.advance_advance, Nat.zero_add]
  rfl

-- So are all but the last bytes of a buffer without one.
theorem skipAttempt_advance_sure {d : Decoder} {n : Nat}
    (hnone : indexOf? d.delimiter d.buffer = none)
    (hn : n = d.buffer.length - (d.delimiter.length - 1)) :
    (d.advance n).skipAttempt = d.skipAttempt := by
  have hrest : indexOf? d.delimiter (d.buffer.drop n) = none := by
    rw [indexOf?_eq_none] at hnone ⊢
    intro m
    rw [List.drop_drop]
    exact hnone _
  have hkept : (d.advance n).buffer.length - ((d.advance n).delimiter.length - 1) = 0 := by
    have hlength : (d.advance n).buffer.length = d.buffer.length - n := List.length_drop
    have hsame : (d.advance n).delimiter.length = d.delimiter.length := rfl
    omega
  rw [skipAttempt_none d hnone, skipAttempt_none (d.advance n) hrest, hkept,
    Decoder.advance_advance, Nat.add_zero, hn]

/-- What a look for a chunk comes to, beside skipping to the delimiter from where it
    began. -/
inductive SkipsBeside (ending : Ending) (skip : Outcome Unit × Decoder × Input) :
    Outcome Found × Decoder × Input → Prop where
  | delimiter {d : Decoder} {i : Input} (h : skip = (.done (), d, i)) :
      SkipsBeside ending skip (.done .delimiter, d, i)
  | chunk {bs : Bytes} {d : Decoder} {i : Input} (hplace : d.place = .body)
      (h : skip = d.run Decoder.skipAttempt i) : SkipsBeside ending skip (.done (.chunk bs), d, i)
  | broken {d : Decoder} {i : Input} (h : skip = (ending.outcome, d, i)) :
      SkipsBeside ending skip (ending.outcome, d, i)

theorem runOn_done {attempt : Decoder → Attempt α × Decoder} {d d' : Decoder} {a : α}
    (h : attempt d = (.done a, d')) (ending : Ending) (pulls : Nat) (chunks : List Bytes) :
    Decoder.runOn attempt ending d pulls chunks = (.done a, d', ⟨chunks, ending, pulls⟩) := by
  cases chunks with
  | nil => simp only [Decoder.runOn, h]
  | cons chunk rest => simp only [Decoder.runOn, h]

theorem runOn_congr {attempt : Decoder → Attempt α × Decoder} {d d' : Decoder}
    (h : attempt d' = attempt d) (ending : Ending) (pulls : Nat) (chunks : List Bytes) :
    Decoder.runOn attempt ending d' pulls chunks = Decoder.runOn attempt ending d pulls chunks := by
  cases chunks with
  | nil => simp only [Decoder.runOn, h]
  | cons chunk rest => simp only [Decoder.runOn, h]

-- Where one scanner needs more so does the other: all bytes may begin a delimiter.
theorem skipAttempt_of_more {d d' : Decoder} (htry : BodyTry d (.more, d')) :
    d.skipAttempt = (.more, d') := by
  cases htry with
  | more hnone hshort =>
      have hskip := skipAttempt_none d hnone
      rwa [Nat.sub_eq_zero_of_le hshort] at hskip

theorem skipsBeside_of_done {d d' : Decoder} {found : Found} (hplace : d.place = .body)
    (htry : BodyTry d (.done found, d')) (ending : Ending) (pulls : Nat) (chunks : List Bytes) :
    SkipsBeside ending (Decoder.runOn Decoder.skipAttempt ending d pulls chunks)
      (.done found, d', ⟨chunks, ending, pulls⟩) := by
  generalize ha : ((.done found, d') : Attempt Found × Decoder) = a at htry
  cases htry with
  | delimiter hfound =>
      cases ha
      have hskip := skipAttempt_some d 0 hfound
      rw [Nat.zero_add] at hskip
      exact .delimiter (runOn_done hskip ending pulls chunks)
  | before hfound _ =>
      cases ha
      exact .chunk hplace (runOn_congr (skipAttempt_advance_before hfound) ending pulls chunks).symm
  | sure hnone hn _ =>
      cases ha
      exact .chunk hplace (runOn_congr (skipAttempt_advance_sure hnone hn) ending pulls chunks).symm
  | more _ _ => cases ha

-- By induction on the chunks: both scanners ask for the same ones.
theorem runOn_skipsBeside (ending : Ending) (chunks : List Bytes) :
    ∀ (d : Decoder) (pulls : Nat), d.place = .body →
      SkipsBeside ending (Decoder.runOn Decoder.skipAttempt ending d pulls chunks)
        (Decoder.runOn Decoder.bodyAttempt ending d pulls chunks) := by
  induction chunks with
  | nil =>
      intro d pulls hplace
      have htry := bodyAttempt_tries hplace
      rcases h : d.bodyAttempt with ⟨found | e | _, d'⟩ <;> rw [h] at htry
      · rw [runOn_done h]
        exact skipsBeside_of_done hplace htry ending pulls []
      · cases htry
      · simp only [Decoder.runOn, h, skipAttempt_of_more htry]
        exact .broken rfl
  | cons chunk rest ih =>
      intro d pulls hplace
      have htry := bodyAttempt_tries hplace
      rcases h : d.bodyAttempt with ⟨found | e | _, d'⟩ <;> rw [h] at htry
      · rw [runOn_done h]
        exact skipsBeside_of_done hplace htry ending pulls (chunk :: rest)
      · cases htry
      · simp only [Decoder.runOn, h, skipAttempt_of_more htry]
        cases htry
        exact ih (d.feed chunk) (pulls + 1) hplace

/-! ### Skipping what is left -/

theorem remaining_of_chunk {d d' : Decoder} {i i' : Input} {bs : Bytes} (hplace : d.place = .body)
    (h : d.bodyChunk i = (.done (some bs), d', i')) : d'.remaining i' < d.remaining i := by
  have hlook := bodyChunk_looks d i
  generalize hr : d.bodyChunk i = r at hlook
  rw [h] at hr
  cases hlook with
  | outside hother => exact absurd hplace hother
  | @chunk n _ _ _ _ hpos hkeep _ hrest =>
      cases hr
      rw [remaining_eq, remaining_eq, hrest]
      change ((d.whole i).buffer.drop n).length < _
      rw [List.length_drop]
      omega
  | @delimiter _ _ _ _ u _ _ _ _ _ => cases u <;> cases hr
  | broken _ _ _ => cases hending : i.ending <;> rw [hending] at hr <;> cases hr

/-- What a look for a chunk of a part comes to, beside skipping the part: a chunk, and
    skipping comes to the same behind it, or what skipping came to. -/
inductive LooksBeside (d : Decoder) (i : Input) :
    Outcome (Option Bytes) × Decoder × Input → Prop where
  | chunk {bs : Bytes} {d' : Decoder} {i' : Input} (hplace : d'.place = .body)
      (hless : d'.remaining i' < d.remaining i)
      (hskip : d'.skipToDelimiter i' = d.skipToDelimiter i) :
      LooksBeside d i (.done (some bs), d', i')
  | last {u : Outcome Unit} {d' : Decoder} {i' : Input}
      (hskip : d.skipToDelimiter i = (u, d', i')) : LooksBeside d i (u.as none, d', i')

theorem bodyChunk_looksBeside {d : Decoder} (i : Input) (hplace : d.place = .body) :
    LooksBeside d i (d.bodyChunk i) := by
  have hbeside : SkipsBeside i.ending (d.run Decoder.skipAttempt i)
      (d.run Decoder.bodyAttempt i) := runOn_skipsBeside i.ending i.chunks d i.pulls hplace
  have hless : ∀ bs d' i', d.bodyChunk i = (.done (some bs), d', i') →
      d'.remaining i' < d.remaining i := fun bs d' i' => remaining_of_chunk hplace
  have hskip := Decoder.skipToDelimiter.eq_def d i
  unfold Decoder.bodyChunk at hless ⊢
  generalize d.run Decoder.bodyAttempt i = look at hbeside hless ⊢
  generalize d.run Decoder.skipAttempt i = skip at hbeside hskip
  generalize i.ending = ending at hbeside
  cases hbeside with
  | @delimiter d₁ i₁ h =>
      rw [h] at hskip
      dsimp only at hskip ⊢
      rcases hrun : d₁.run Decoder.suffixAttempt i₁ with ⟨u | e | _, d', i'⟩ <;>
        exact .last (hskip.trans hrun)
  | chunk hplace' h =>
      refine .chunk hplace' (hless _ _ _ rfl) ?_
      rw [hskip, h]
      rfl
  | broken h =>
      rw [h] at hskip
      cases ending <;> exact .last hskip

-- By induction on the number of questions: as long as chunks come the part is skipped to the
-- same end, and the look that finds none has come there.
theorem chunksUpTo_skips (n : Nat) : ∀ (d : Decoder) (i : Input), d.place = .body →
    (∃ d' i', (d.chunksUpTo i n).2 = (.done (), d', i') ∧ d'.place = .body ∧
        d'.skipToDelimiter i' = d.skipToDelimiter i) ∨
      (d.chunksUpTo i n).2 = d.skipToDelimiter i := by
  induction n with
  | zero => exact fun d i hplace => .inl ⟨d, i, rfl, hplace, rfl⟩
  | succ n ih =>
      intro d i hplace
      have hbeside := bodyChunk_looksBeside i hplace
      rw [Decoder.chunksUpTo]
      generalize d.bodyChunk i = r at hbeside ⊢
      cases hbeside with
      | chunk hplace' _ hskip =>
          rw [← hskip]
          exact ih _ _ hplace'
      | @last u d' i' hskip =>
          right
          rw [hskip]
          cases u <;> rfl

-- More questions than there are bytes are enough to come to the end.
theorem chunksUpTo_eq_skipToDelimiter (fuel : Nat) :
    ∀ (d : Decoder) (i : Input), d.place = .body → d.remaining i < fuel →
      (d.chunksUpTo i fuel).2 = d.skipToDelimiter i := by
  induction fuel with
  | zero => exact fun d i _ hfuel => absurd hfuel (Nat.not_lt_zero _)
  | succ fuel ih =>
      intro d i hplace hfuel
      have hbeside := bodyChunk_looksBeside i hplace
      rw [Decoder.chunksUpTo]
      generalize d.bodyChunk i = r at hbeside ⊢
      cases hbeside with
      | chunk hplace' hless hskip =>
          rw [← hskip]
          exact ih _ _ hplace' (by omega)
      | @last u d' i' hskip =>
          rw [hskip]
          cases u <;> rfl

theorem readChunks_eq_skipToDelimiter {d : Decoder} (i : Input) (hplace : d.place = .body) :
    (d.readChunks i).2 = d.skipToDelimiter i :=
  chunksUpTo_eq_skipToDelimiter _ d i hplace (Nat.lt_succ_self _)

-- Fewer questions give the first of the chunks.
theorem chunksUpTo_first (n : Nat) : ∀ (d : Decoder) (i : Input) (fuel : Nat),
    d.place = .body → d.remaining i < fuel →
      (d.chunksUpTo i n).1 <+: (d.chunksUpTo i fuel).1 := by
  induction n with
  | zero => exact fun d i fuel _ _ => List.nil_prefix
  | succ n ih =>
      intro d i fuel hplace hfuel
      cases fuel with
      | zero => exact absurd hfuel (Nat.not_lt_zero _)
      | succ fuel =>
          have hbeside := bodyChunk_looksBeside i hplace
          rw [Decoder.chunksUpTo, Decoder.chunksUpTo]
          generalize d.bodyChunk i = r at hbeside ⊢
          cases hbeside with
          | chunk hplace' hless _ =>
              exact List.cons_prefix_cons.2 ⟨rfl, ih _ _ fuel hplace' (by omega)⟩
          | @last u _ _ _ => cases u <;> exact List.prefix_rfl

/-! ### Behind a part -/

-- Behind the end of a body is the beginning of the next headers, or the end.
theorem place_of_skip {d d' : Decoder} {i i' : Input}
    (h : d.skipToDelimiter i = (.done (), d', i')) :
    d'.place = .headers ∨ d'.place = .epilogue := by
  have hset := skipToDelimiter_settles d i
  rw [h] at hset
  exact (boundaryLine_done _ _ hset.done_eq.1).2.1.symm

/-- What the question for a part comes to when the rest of the present one was skipped. -/
def nextBehind : Outcome Unit × Decoder × Input → Outcome (Option Headers) × Decoder × Input
  | (.done (), d, i) => d.nextPart i
  | (u, d, i) => (u.as none, d, i)

theorem nextPart_eq_nextBehind {d : Decoder} (i : Input)
    (hplace : d.place = .preamble ∨ d.place = .body) :
    d.nextPart i = nextBehind (d.skipToDelimiter i) := by
  rcases hskip : d.skipToDelimiter i with ⟨u | e | _, d', i'⟩
  · exact nextPart_of_skip d d' i i' hplace (place_of_skip hskip) hskip
  · unfold Decoder.nextPart
    rcases hplace with hplace | hplace <;> rw [hplace, hskip] <;> rfl
  · unfold Decoder.nextPart
    rcases hplace with hplace | hplace <;> rw [hplace, hskip] <;> rfl

theorem place_of_nextPart {d d' : Decoder} {i i' : Input} {hs : Headers}
    (h : d.nextPart i = (.done (some hs), d', i')) : d'.place = .body := by
  have hread : ∀ (e : Decoder) (j : Input), e.readHeaders j = (.done (some hs), d', i') →
      d'.place = .body := by
    intro e j hread
    unfold Decoder.readHeaders at hread
    generalize e.run Decoder.headersAttempt j = r at hread
    rcases r with ⟨hs' | e | _, d₁, i₁⟩ <;> cases hread
    rfl
  have hlook := nextPart_looks d i
  generalize hr : d.nextPart i = r at hlook
  rw [h] at hr
  cases hlook with
  | ended _ => cases hr
  | here _ => exact hread d i hr.symm
  | opened _ _ _ => exact hread _ _ hr.symm
  | @closed u _ _ _ _ _ => cases u <;> cases hr

/-! ### Reading with portions -/

/-- How much of a part is asked for before the part is dropped. -/
inductive Portion where
  /-- As many chunks, or fewer if there are no more. -/
  | chunks (n : Nat)
  | all
  deriving Repr, DecidableEq

/-- How a reader of parts stops. -/
inductive Stop where
  /-- After its last part the question for another one is answered like this. -/
  | question (a : Answer)
  /-- Its last part breaks off like this. -/
  | inside (a : Answer)
  deriving Repr, DecidableEq

namespace Reader

/-- How often a portion asks for a chunk. There are no more chunks than bytes, so all of
    them have come, and the answer that there are no more, after one question more. -/
def count (r : Reader) : Portion → Nat
  | .chunks n => n
  | .all => r.decoder.remaining r.input + 1

/-- Ask `n` times for a chunk of the part that is held: the bytes that come, and the
    answer at which it breaks off. -/
def takeChunks (r : Reader) : Nat → Bytes × Option Answer × Reader
  | 0 => ([], none, r)
  | n + 1 =>
      match r.call .chunk with
      | (.chunk bs, r) =>
          let (more, stop) := r.takeChunks n
          (bs ++ more, stop)
      | (.nothing, r) => r.takeChunks n
      | (a, r) => ([], some a, r)

/-- Ask for one part after the other, and of each for its portion. A reader stops at the
    first failure or when there are no more parts, and at the latest when it has asked for
    another part after the last portion. -/
def sample (r : Reader) : List Portion → List (Headers × Bytes) × Stop
  | [] => ([], .question (r.call .nextPart).1)
  | k :: ks =>
      match r.call .nextPart with
      | (.part headers, r) =>
          match r.takeChunks (r.count k) with
          | (bs, none, r) =>
              let (parts, stop) := r.sample ks
              ((headers, bs) :: parts, stop)
          | (bs, some a, _) => ([(headers, bs)], .inside a)
      | (a, _) => ([], .question a)

end Reader

/-- The answer at which an operation breaks off. -/
def Outcome.fault? : Outcome Unit → Option Answer
  | .done () => none
  | u => some (.ofSkip u)

-- A part that has ended is not looked at again.
theorem takeChunks_ended (d : Decoder) (i : Input) (n : Nat) :
    Reader.takeChunks ⟨d, i, some ⟨true, false⟩⟩ n = ([], none, ⟨d, i, some ⟨true, false⟩⟩) := by
  induction n with
  | zero => rfl
  | succ n ih => exact ih

theorem takeChunks_eq_chunksUpTo (n : Nat) : ∀ (d : Decoder) (i : Input),
    ∃ ended, Reader.takeChunks ⟨d, i, some ⟨false, false⟩⟩ n =
      ((d.chunksUpTo i n).1.flatten, (d.chunksUpTo i n).2.1.fault?,
        ⟨(d.chunksUpTo i n).2.2.1, (d.chunksUpTo i n).2.2.2, some ⟨ended, false⟩⟩) := by
  induction n with
  | zero => exact fun d i => ⟨false, rfl⟩
  | succ n ih =>
      intro d i
      have hcall : Reader.call ⟨d, i, some ⟨false, false⟩⟩ .chunk =
          Reader.chunk ⟨d, i, some ⟨false, false⟩⟩ ⟨false, false⟩ := rfl
      rw [Reader.takeChunks, Decoder.chunksUpTo, hcall, Reader.chunk, Decoder.partChunk,
        if_neg Bool.false_ne_true]
      rcases d.bodyChunk i with ⟨(_ | bs) | e | _, d', i'⟩
      · exact ⟨true, takeChunks_ended d' i' n⟩
      · rcases ih d' i' with ⟨ended, hrest⟩
        refine ⟨ended, ?_⟩
        dsimp only [Answer.ofChunk]
        rw [hrest]
        rfl
      · exact ⟨false, rfl⟩
      · exact ⟨false, rfl⟩

-- All the chunks of a part are those that its whole body is read with.
theorem takeChunks_all (d : Decoder) (i : Input) :
    ∃ ended, Reader.takeChunks ⟨d, i, some ⟨false, false⟩⟩
        (Reader.count ⟨d, i, some ⟨false, false⟩⟩ .all) =
      ((d.readChunks i).1.flatten, (d.readChunks i).2.1.fault?,
        ⟨(d.readChunks i).2.2.1, (d.readChunks i).2.2.2, some ⟨ended, false⟩⟩) :=
  takeChunks_eq_chunksUpTo _ d i

-- Where no part comes, portions do not matter.
theorem sample_of_no_part {r : Reader} {a : Answer} (h : (r.call .nextPart).1 = a)
    (hno : ∀ headers, a ≠ .part headers) (ks : List Portion) :
    r.sample ks = ([], .question a) := by
  subst h
  cases ks with
  | nil => rfl
  | cons k ks =>
      rw [Reader.sample]
      rcases h : r.call .nextPart with ⟨a, r'⟩
      rw [h] at hno
      cases a with
      | part headers => exact absurd rfl (hno headers)
      | _ => rfl

/-- The parts of a reader with portions, beside those of one that reads everything. -/
structure Agrees (sampled full : List (Headers × Bytes) × Stop) : Prop where
  parts : List.Forall₂ (fun p q => p.1 = q.1 ∧ p.2 <+: q.2) sampled.1 full.1
  question : ∀ a, full.2 = .question a → sampled.2 = .question a
  inside : ∀ a, full.2 = .inside a → sampled.2 = .inside a ∨ sampled.2 = .question a

theorem Agrees.cons {sampled full : List (Headers × Bytes) × Stop} {headers : Headers}
    {bs all : Bytes} (h : Agrees sampled full) (hbytes : bs <+: all) :
    Agrees ((headers, bs) :: sampled.1, sampled.2) ((headers, all) :: full.1, full.2) where
  parts := .cons ⟨rfl, hbytes⟩ h.parts
  question := h.question
  inside := h.inside

/-! ### One part, dropped -/

theorem call_nextPart_congr {r r' : Reader}
    (h : r.decoder.nextPart r.input = r'.decoder.nextPart r'.input) :
    r.call .nextPart = r'.call .nextPart := by
  change r.nextPart = r'.nextPart
  unfold Reader.nextPart
  rw [h]

-- A part is held at its beginning.
theorem held_of_nextPart {r r' : Reader} {headers : Headers}
    (h : r.call .nextPart = (.part headers, r')) :
    ∃ d i, r' = ⟨d, i, some ⟨false, false⟩⟩ ∧ d.place = .body := by
  change r.nextPart = _ at h
  unfold Reader.nextPart at h
  rcases hnext : r.decoder.nextPart r.input with ⟨(_ | hs) | e | _, d, i⟩ <;> rw [hnext] at h <;>
    cases h
  exact ⟨d, i, rfl, place_of_nextPart hnext⟩

/-- What asking a part for some chunks comes to, beside asking it for all. -/
inductive Dropped : Bytes × Option Answer × Reader → Bytes × Option Answer × Reader → Prop where
  | behind {bs all : Bytes} {r r' : Reader} (hbytes : bs <+: all)
      (hnext : r.call .nextPart = r'.call .nextPart) : Dropped (bs, none, r) (all, none, r')
  | broken {bs all : Bytes} {a : Answer} {r r' : Reader} (hbytes : bs <+: all) :
      Dropped (bs, some a, r) (all, some a, r')
  /-- What breaks the part off has not been met yet: the question for the next one meets
      it. -/
  | early {bs all : Bytes} {a : Answer} {r r' : Reader} (hbytes : bs <+: all)
      (hnext : (r.call .nextPart).1 = a) (hno : ∀ headers, a ≠ .part headers) :
      Dropped (bs, none, r) (all, some a, r')

theorem takeChunks_dropped {d : Decoder} {i : Input} (hplace : d.place = .body) (n : Nat) :
    Dropped (Reader.takeChunks ⟨d, i, some ⟨false, false⟩⟩ n)
      (Reader.takeChunks ⟨d, i, some ⟨false, false⟩⟩
        (Reader.count ⟨d, i, some ⟨false, false⟩⟩ .all)) := by
  have hbytes : (d.chunksUpTo i n).1.flatten <+: (d.readChunks i).1.flatten :=
    List.IsPrefix.flatten (chunksUpTo_first n d i _ hplace (Nat.lt_succ_self _))
  have hall := readChunks_eq_skipToDelimiter i hplace
  rcases takeChunks_eq_chunksUpTo n d i with ⟨ended, hsome⟩
  rcases takeChunks_all d i with ⟨ended', hfull⟩
  rw [hsome, hfull, hall]
  rcases chunksUpTo_skips n d i hplace with ⟨d₁, i₁, hearly, hplace₁, hskip₁⟩ | hsame
  · have hnext := nextPart_eq_nextBehind i₁ (.inr hplace₁)
    rw [hskip₁] at hnext
    rw [hearly]
    generalize d.skipToDelimiter i = skip at hnext ⊢
    rcases skip with ⟨u | e | _, d₂, i₂⟩
    · exact .behind hbytes (call_nextPart_congr hnext)
    · refine .early hbytes ?_ (by rintro headers ⟨⟩)
      rw [call_nextPart, hnext]
      rfl
    · refine .early hbytes ?_ (by rintro headers ⟨⟩)
      rw [call_nextPart, hnext]
      rfl
  · rw [hsame]
    rcases d.skipToDelimiter i with ⟨u | e | _, d₂, i₂⟩
    · exact .behind hbytes (call_nextPart_congr rfl)
    · exact .broken hbytes
    · exact .broken hbytes

/-! ### All parts -/

-- Two readers that get the same part now, and drop it sooner or later, get the same parts.
-- By induction on the portions: behind the part both get the same answer to their question.
theorem sample_agrees_of_nextPart (ks : List Portion) : ∀ r r' : Reader,
    r.call .nextPart = r'.call .nextPart →
      Agrees (r.sample ks) (r'.sample (ks.map fun _ => .all)) := by
  induction ks with
  | nil =>
      intro r r' h
      rw [Reader.sample, List.map_nil, Reader.sample, h]
      exact ⟨.nil, fun a ha => ha, fun a ha => .inl ha⟩
  | cons k ks ih =>
      intro r r' h
      by_cases hpart : ∃ headers, (r'.call .nextPart).1 = .part headers
      · rcases hpart with ⟨headers, hpart⟩
        have hget : r'.call .nextPart = (.part headers, (r'.call .nextPart).2) := by rw [← hpart]
        rw [hget] at h
        rcases held_of_nextPart hget with ⟨d, i, hheld, hplace⟩
        rw [List.map_cons, Reader.sample, Reader.sample, h, hget, hheld]
        dsimp only
        have hdrop := takeChunks_dropped hplace (i := i)
          (Reader.count ⟨d, i, some ⟨false, false⟩⟩ k)
        generalize Reader.takeChunks ⟨d, i, some ⟨false, false⟩⟩ (Reader.count _ k) = part
          at hdrop ⊢
        generalize Reader.takeChunks ⟨d, i, some ⟨false, false⟩⟩ (Reader.count _ .all) = full
          at hdrop ⊢
        cases hdrop with
        | behind hbytes hnext => exact (ih _ _ hnext).cons hbytes
        | broken hbytes =>
            exact ⟨.cons ⟨rfl, hbytes⟩ .nil, by rintro a ⟨⟩, fun a ha => .inl ha⟩
        | early hbytes hnext hno =>
            dsimp only
            rw [sample_of_no_part hnext hno]
            exact ⟨.cons ⟨rfl, hbytes⟩ .nil, by rintro a ⟨⟩, by rintro a ⟨⟩; exact .inr rfl⟩
      · have hno : ∀ headers, (r'.call .nextPart).1 ≠ .part headers :=
          fun headers heq => hpart ⟨headers, heq⟩
        rw [sample_of_no_part rfl hno, sample_of_no_part (congrArg Prod.fst h) hno]
        exact ⟨.nil, fun a ha => ha, fun a ha => .inl ha⟩

/-- What is asked of each part does not matter: the question for another part has the same
    answers, up to the first that is none, as when each is read to its end, and what is
    read of a part is the beginning of the part. If everything was read without a failure
    there is none. A failure in a part that is read to its end is met there, or by the
    question for the next one. -/
theorem sample_agrees (r : Reader) (ks : List Portion) :
    Agrees (r.sample ks) (r.sample (ks.map fun _ => .all)) :=
  sample_agrees_of_nextPart ks r r rfl

end Multipart

end Http

end DemandNet
