/-
# The read that settles a frame

A call that reads a frame reads the transport again and again. An interrupted
read is made again and answers nothing (`Transport.ask`), so what counts are
the answers of the others, one after another (`Transport.answer`). The call
takes them up to the first that settles the frame: the stream ends, the read
fails, the frame gets longer than the limit, or it is complete
(`Assembler.Settles`). That answer is what the call gives, and the transport
is left as the read that brought it leaves it.

A piece that completes the frame and makes it too long settles it as too
long; at the limit itself it is not too long.

Key definitions: `Transport.ask`, `Transport.past`, `Transport.answer`,
`Transport.brought`, `Assembler.Settles`, `Assembler.SettledFrom`.
Key theorems: `Assembler.gather_settled`, `Assembler.readFrame_settled`.
-/
import SpeechWire.Proofs.Reading

namespace SpeechWire

/-! ### Answers, interruptions left out -/

namespace Transport

/-- One read, made again as often as it is interrupted. -/
def ask (room : Nat) (t : Transport) : Except IoFailure (List UInt8) × Transport :=
  match _ : t.read room with
  | (.error failure, after) =>
    if failure.isInterrupted then ask room after else (.error failure, after)
  | (.ok bytes, after) => (.ok bytes, after)
termination_by t.backlog
decreasing_by exact backlog_read_lt ‹_› (by simp)

/-- The transport after so many answers. -/
def past (room : Nat) : Nat → Transport → Transport
  | 0, t => t
  | k + 1, t => past room k (t.ask room).2

/-- The answer that comes after `k` others. -/
def answer (room : Nat) (t : Transport) (k : Nat) : Except IoFailure (List UInt8) :=
  ((t.past room k).ask room).1

/-- The piece that an answer brings. -/
def piece : Except IoFailure (List UInt8) → List UInt8
  | .ok bytes => bytes
  | .error _ => []

/-- The pieces of the first `k` answers, put together. -/
def brought (room : Nat) (t : Transport) (k : Nat) : List UInt8 :=
  (List.range k).flatMap fun i => piece (t.answer room i)

/-- One read decides whether it is made again. -/
theorem ask_eq (room : Nat) (t : Transport) : t.ask room =
    match t.read room with
    | (.error failure, after) =>
      if failure.isInterrupted then after.ask room else (.error failure, after)
    | (.ok bytes, after) => (.ok bytes, after) := by
  rw [ask]
  split
  · next he => rw [he]
  · next he => rw [he]

variable {room : Nat} {t u after : Transport}

theorem ask_of_interrupted {failure : IoFailure} (h : t.read room = (.error failure, after))
    (hf : failure.isInterrupted = true) : t.ask room = after.ask room := by
  rw [ask_eq, h]
  exact if_pos hf

theorem ask_of_failed {failure : IoFailure} (h : t.read room = (.error failure, after))
    (hf : ¬ failure.isInterrupted = true) : t.ask room = (.error failure, after) := by
  rw [ask_eq, h]
  exact if_neg hf

theorem ask_of_bytes {bytes : List UInt8} (h : t.read room = (.ok bytes, after)) :
    t.ask room = (.ok bytes, after) := by
  rw [ask_eq, h]

/-! ### The first answer and the later ones -/

theorem answer_zero {found : Except IoFailure (List UInt8)} (h : t.ask room = (found, after)) :
    t.answer room 0 = found := by
  rw [answer, past, h]

theorem answer_succ (room : Nat) (t : Transport) (k : Nat) :
    t.answer room (k + 1) = (t.ask room).2.answer room k := rfl

theorem brought_zero (room : Nat) (t : Transport) : t.brought room 0 = [] := rfl

theorem brought_succ (room : Nat) (t : Transport) (k : Nat) :
    t.brought room (k + 1) = piece (t.ask room).1 ++ (t.ask room).2.brought room k := by
  rw [brought, List.range_succ_eq_map, List.flatMap_cons, List.flatMap_map]
  rfl

/-- Transports of which the first answers are the same, and leave the same,
answer the same for ever. -/
theorem past_succ_congr (h : t.ask room = u.ask room) (k : Nat) :
    t.past room (k + 1) = u.past room (k + 1) := by
  rw [past, past, h]

theorem answer_congr (h : t.ask room = u.ask room) : t.answer room = u.answer room := by
  funext k
  cases k with
  | zero => rw [answer, answer, past, past, h]
  | succ k => rw [answer_succ, answer_succ, h]

theorem brought_congr (h : t.ask room = u.ask room) : t.brought room = u.brought room := by
  funext k
  rw [brought, brought, answer_congr h]

end Transport

namespace Assembler

open Transport SpeechWire.Frame

/-! ### What settles a frame -/

/-- The answers that settle a frame of which `held` was received before, and
what comes of it. -/
inductive Settles (limit : Nat) (held : List UInt8) :
    Except IoFailure (List UInt8) → Except Fault (List UInt8) → Prop
  | ended : Settles limit held (.ok []) (.error .closed)
  | failed {failure : IoFailure} (hf : ¬ failure.isInterrupted = true) :
    Settles limit held (.error failure) (.error (.io failure))
  | tooLong {bytes : List UInt8} (hne : bytes ≠ []) (hlong : limit < (held ++ bytes).length) :
    Settles limit held (.ok bytes) (.error (.malformed (.tooLong limit)))
  | whole {bytes : List UInt8} (hne : bytes ≠ []) (hfits : (held ++ bytes).length ≤ limit)
    (hcomplete : Frame.isComplete (held ++ bytes) = true) :
    Settles limit held (.ok bytes) (.ok (held ++ bytes))

theorem not_settles_bytes {limit : Nat} {held bytes : List UInt8} (hne : bytes ≠ [])
    (hfits : ¬ limit < (held ++ bytes).length)
    (hopen : ¬ Frame.isComplete (held ++ bytes) = true) (result : Except Fault (List UInt8)) :
    ¬ Settles limit held (.ok bytes) result := by
  intro h
  cases h with
  | ended => exact hne rfl
  | tooLong _ hlong => exact hfits hlong
  | whole _ _ hcomplete => exact hopen hcomplete

/-- With `held` received before, the first of the answers of `t` that settles
the frame makes it `result`, and after it `left` is the transport. -/
def SettledFrom (limit room : Nat) (held : List UInt8) (t : Transport)
    (result : Except Fault (List UInt8)) (left : Transport) : Prop :=
  ∃ k, (∀ i < k, ∀ other, ¬ Settles limit (held ++ t.brought room i) (t.answer room i) other) ∧
    Settles limit (held ++ t.brought room k) (t.answer room k) result ∧ left = t.past room (k + 1)

namespace SettledFrom

variable {limit room : Nat} {held : List UInt8} {t u after left : Transport}
  {result : Except Fault (List UInt8)}

theorem of_ask_eq (h : SettledFrom limit room held u result left) (hask : t.ask room = u.ask room) :
    SettledFrom limit room held t result left := by
  unfold SettledFrom
  obtain ⟨k, hbefore, hsettles, hleft⟩ := h
  rw [answer_congr hask, brought_congr hask]
  exact ⟨k, hbefore, hsettles, hleft.trans (past_succ_congr hask k).symm⟩

theorem now {found : Except IoFailure (List UInt8)} (hask : t.ask room = (found, after))
    (h : Settles limit held found result) : SettledFrom limit room held t result after := by
  refine ⟨0, nofun, ?_, ?_⟩
  · rwa [answer_zero hask, brought_zero, List.append_nil]
  · rw [past, past, hask]

theorem later {bytes : List UInt8} (hask : t.ask room = (.ok bytes, after))
    (hopen : ∀ other, ¬ Settles limit held (.ok bytes) other)
    (h : SettledFrom limit room (held ++ bytes) after result left) :
    SettledFrom limit room held t result left := by
  have hbrought : ∀ i, held ++ t.brought room (i + 1) = held ++ bytes ++ after.brought room i := by
    intro i
    rw [brought_succ, hask, List.append_assoc]
    rfl
  have hanswer : ∀ i, t.answer room (i + 1) = after.answer room i := by
    intro i
    rw [answer_succ, hask]
  obtain ⟨k, hbefore, hsettles, hleft⟩ := h
  refine ⟨k + 1, ?_, ?_, ?_⟩
  · intro i hi
    cases i with
    | zero => rwa [answer_zero hask, brought_zero, List.append_nil]
    | succ i =>
      rw [hbrought, hanswer]
      exact hbefore i (Nat.lt_of_succ_lt_succ hi)
  · rwa [hbrought, hanswer]
  · rw [past, hask]
    exact hleft

end SettledFrom

/-- **Gathering ends with the first answer that settles the frame.** -/
theorem gather_settled (assembler : Assembler) (t : Transport) :
    SettledFrom assembler.limit assembler.room assembler.held t (assembler.gather t).result
      (assembler.gather t).transport := by
  have h := gathers assembler t
  generalize assembler.gather t = outcome at h ⊢
  induction h with
  | last hread habsorb =>
    cases absorbs habsorb with
    | failed hf => exact .now (ask_of_failed hread hf) (.failed hf)
    | ended => exact .now (ask_of_bytes hread) .ended
    | tooLong hne hlong => exact .now (ask_of_bytes hread) (.tooLong hne hlong)
    | whole hne hfits hcomplete =>
      exact .now (ask_of_bytes hread) (.whole hne (Nat.not_lt.1 hfits) hcomplete)
  | next hread habsorb _ ih =>
    cases absorbs habsorb with
    | interrupted hf => exact ih.of_ask_eq (ask_of_interrupted hread hf)
    | more hne hfits hopen =>
      refine .later (ask_of_bytes hread) (not_settles_bytes hne hfits hopen) ?_
      rwa [← held_hold]

/-- **A call ends with the first answer that settles its frame**, and gives what
is settled there: with the pieces before it put together no earlier answer
settles the frame, and the transport is left as it stands after this one. -/
theorem readFrame_settled (assembler : Assembler) (t : Transport) : ∃ k,
    (∀ i < k, ∀ other, ¬ Settles assembler.limit (t.brought assembler.room i)
      (t.answer assembler.room i) other) ∧
    Settles assembler.limit (t.brought assembler.room k) (t.answer assembler.room k)
      (assembler.readFrame t).result ∧
    (assembler.readFrame t).transport = t.past assembler.room (k + 1) :=
  gather_settled assembler.clear t

end Assembler
end SpeechWire
