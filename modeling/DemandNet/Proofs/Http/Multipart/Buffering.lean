import DemandNet.Proofs.Http.Multipart.Course

/-!
# What the Buffer Holds

A decoder holds no more than it takes to go on, and one chunk.

A chunk is only asked for when the buffer is too short to tell what the decoder is after, so
it is short before every chunk and at most short and one chunk long behind it. An attempt only
takes bytes away. That the buffer is never longer than that is therefore kept by every single
look, and with it by every task of every call, whatever the body is and however it is cut.

Which chunk was the last one to come is told by the chunks that are still to come, as these
are the end of the input.

## Main definitions

* `room`: The most bytes that the buffer holds when a chunk is asked for.
* `Filled`: The buffer holds no more than that and the last chunk.
* `Look.Frugal`, `Frugal`: So it is at a look, and all the time.

## Theorems

* `room_of_scarce`: Too short a buffer to tell is a short one.
* `Course.frugal`: What is held stays within the limits in the course of a task.
* `frugal_after`: It does so whatever is called.
-/

namespace DemandNet

namespace Http

namespace Multipart

/-- The most bytes that are held when a chunk is asked for. -/
def room (boundary : String) : Nat :=
  max ((Decoder.withBoundary boundary).delimiter.length - 1) maxHeaderBytes

/-- The buffer holds no more than there is room for, and the chunk that came last, when these
    chunks of the input are still to come. -/
def Filled (boundary : String) (input : Input) (d : Decoder) (coming : List Bytes) : Prop :=
  ∃ pulled, input.chunks = pulled ++ coming ∧
    d.buffer.length ≤ room boundary + (pulled.getLastD []).length

/-- The buffer holds no more than that, and a chunk is only asked for if it is too short. -/
structure Look.Frugal (boundary : String) (input : Input) (l : Look) : Prop where
  filled : Filled boundary input l.before l.coming
  trims : l.after.buffer <:+ l.before.buffer
  scarce : l.asked = true → l.stage.Scarce l.after

/-- All looks so far were frugal, and every chunk that was pulled was asked for at one. -/
structure Frugal (boundary : String) (input : Input) (looks : List Look) (d : Decoder)
    (i : Input) : Prop where
  boundary_eq : d.boundary = boundary
  filled : Filled boundary input d i.chunks
  looked : ∀ l ∈ looks, l.Frugal boundary input
  pulls_eq : i.pulls = input.pulls + looks.countP Look.asked

theorem room_of_scarce {stage : Stage} {d : Decoder} (h : stage.Scarce d) :
    d.buffer.length ≤ room d.boundary := by
  have hlong : (2 : Nat) ≤ maxHeaderBytes := by decide
  have hleft : d.delimiter.length - 1 ≤ room d.boundary := Nat.le_max_left _ _
  have hright : maxHeaderBytes ≤ room d.boundary := Nat.le_max_right _ _
  cases stage with
  | delimiter | body =>
      have := h.2
      omega
  | line =>
      have hline : d.buffer.length < 2 := h
      omega
  | headers => exact Nat.le_trans h.2 hright

theorem Filled.shorter {boundary : String} {input : Input} {d d' : Decoder} {coming : List Bytes}
    (h : Filled boundary input d coming) (hle : d'.buffer.length ≤ d.buffer.length) :
    Filled boundary input d' coming := by
  rcases h with ⟨pulled, hsplit, hroom⟩
  exact ⟨pulled, hsplit, Nat.le_trans hle hroom⟩

theorem Filled.feed {boundary : String} {input : Input} {d : Decoder} {chunk : Bytes}
    {rest : List Bytes} (h : Filled boundary input d (chunk :: rest))
    (hroom : d.buffer.length ≤ room boundary) : Filled boundary input (d.feed chunk) rest := by
  rcases h with ⟨pulled, hsplit, -⟩
  refine ⟨pulled ++ [chunk], by rw [hsplit, List.append_assoc, List.singleton_append], ?_⟩
  rw [List.getLastD_concat]
  unfold Decoder.feed
  rw [List.length_append]
  omega

namespace Frugal

variable {boundary : String} {input : Input} {looks : List Look} {d : Decoder} {i : Input}

-- One look more: the buffer got no longer, and the chunks that are to come are the same.
theorem look {stage : Stage} {attempt : Decoder → Attempt α × Decoder}
    (h : Frugal boundary input looks d i) (hscans : Scans stage attempt) (asked : Bool)
    (hscarce : asked = true → stage.Scarce (attempt d).2) (i' : Input)
    (hchunks : i'.chunks = i.chunks) (hpulls : i'.pulls = i.pulls + if asked then 1 else 0) :
    Frugal boundary input (looks ++ [⟨stage, d, (attempt d).2, asked, i.chunks⟩])
      (attempt d).2 i' where
  boundary_eq := ((hscans d).boundary_eq).trans h.boundary_eq
  filled := by
    rw [hchunks]
    exact h.filled.shorter (hscans d).trims.length_le
  looked := by
    intro l hl
    rcases List.mem_append.1 hl with hl | hl
    · exact h.looked l hl
    · rw [List.mem_singleton.1 hl]
      exact ⟨h.filled, (hscans d).trims, hscarce⟩
  pulls_eq := by
    rw [hpulls, h.pulls_eq, List.countP_append, List.countP_singleton, Nat.add_assoc]

theorem feed {chunk : Bytes} {rest : List Bytes} {ending : Ending} {pulls : Nat}
    (h : Frugal boundary input looks d ⟨chunk :: rest, ending, pulls⟩)
    (hroom : d.buffer.length ≤ room boundary) :
    Frugal boundary input looks (d.feed chunk) ⟨rest, ending, pulls⟩ where
  boundary_eq := h.boundary_eq
  filled := h.filled.feed hroom
  looked := h.looked
  pulls_eq := h.pulls_eq

end Frugal

theorem Course.frugal {boundary : String} {input : Input} {n : Nat} {looks : List Look}
    {d d' : Decoder} {i i' : Input} {o : Outcome Unit} (h : Course n looks d i o d' i') :
    ∀ seen, Frugal boundary input seen d i → Frugal boundary input (seen ++ looks) d' i' := by
  induction h with
  | still n d i =>
      intro seen hf
      rw [List.append_nil]
      exact hf
  | told n d i o hscans hasks ho =>
      intro seen hf
      exact hf.look hscans false (by rintro ⟨⟩) i rfl rfl
  | fed d chunk rest ending pulls hscans hbegins hasks =>
      intro seen hf
      have hscarce := (hscans d).scarce hbegins hasks
      have hlook := hf.look hscans true (fun _ => hscarce) ⟨chunk :: rest, ending, pulls + 1⟩
        rfl rfl
      refine hlook.feed ?_
      rw [← hlook.boundary_eq]
      exact room_of_scarce hscarce
  | broken n d ending pulls hscans hbegins hasks =>
      intro seen hf
      exact hf.look hscans true (fun _ => (hscans d).scarce hbegins hasks) _ rfl rfl
  | opened h ih =>
      intro seen hf
      have hbefore := ih seen hf
      exact ⟨hbefore.boundary_eq, hbefore.filled, hbefore.looked, hbefore.pulls_eq⟩
  | andThen h hrest ih ihrest =>
      intro seen hf
      rw [← List.append_assoc]
      exact ihrest _ (ih seen hf)

theorem frugal_start (boundary : String) (input : Input) :
    Frugal boundary input [] (Decoder.withBoundary boundary) input where
  boundary_eq := rfl
  filled := by
    refine ⟨[], rfl, ?_⟩
    have hlong : (2 : Nat) ≤ maxHeaderBytes := by decide
    exact Nat.le_trans hlong (Nat.le_max_right _ _)
  looked := fun l hl => absurd hl List.not_mem_nil
  pulls_eq := rfl

theorem frugal_call {boundary : String} {input : Input} {seen : List Look} {r : Reader}
    (h : Frugal boundary input seen r.decoder r.input) (c : Call) :
    Frugal boundary input (seen ++ r.looks c) (r.call c).2.decoder (r.call c).2.input := by
  have hperforms := call_performs r c
  rw [hperforms.decoder_eq, hperforms.input_eq]
  exact (course_task (r.task c) r.decoder r.input).frugal seen h

-- By induction on the calls, each with its looks.
theorem frugal_after {boundary : String} {input : Input} (calls : List Call) :
    ∀ (r : Reader) (seen : List Look), Frugal boundary input seen r.decoder r.input →
      Frugal boundary input (seen ++ r.history calls) (r.run calls).2.decoder
        (r.run calls).2.input := by
  induction calls with
  | nil =>
      intro r seen h
      rw [Reader.history, List.append_nil]
      exact h
  | cons c rest ih =>
      intro r seen h
      rw [Reader.history, Reader.run_cons, ← List.append_assoc]
      exact ih (r.call c).2 _ (frugal_call h c)

end Multipart

end Http

end DemandNet
