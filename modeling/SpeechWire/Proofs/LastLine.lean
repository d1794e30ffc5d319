/-
# Completeness is seen in the last line alone

Whether bytes are a complete frame is decided by reading them backwards from
their end to the line end before (`Frame.isComplete`). A receiver reads the
other way: it cuts a line off at the first line end, and the next one at the
first line end of what is left (`Receiver.lines`). Both find the same last
line, whatever CRs and LFs stand alone before it, because the lines cut off
from the front are the lines of the text (`Receiver.lines_eq_split`).

So the answer can be read off from the front: bytes are complete at a length
if they close with a line end there, and the last line before it is too short
for a fourth byte or has another than a hyphen. Of the lines before that one
nothing is seen.

Key definitions: `Receiver.lines`.
Key theorems: `Receiver.lines_eq_split`, `Frame.not_announces_iff`,
`Frame.isComplete_take_iff`.
-/
import SpeechWire.Proofs.BlockEnd
import SpeechWire.Proofs.Framing

namespace SpeechWire
namespace Receiver

open Lines

/-! ### Lines cut off from the front -/

/-- The lines of a stream, each cut off at the first line end of what is left;
the last one is what no line end follows. -/
def lines (stream : List UInt8) : List (List UInt8) :=
  match _ : cutAt? crlf stream with
  | none => [stream]
  | some (line, rest) => line :: lines rest
termination_by stream.length
decreasing_by exact length_lt_of_cutAt? ‹_›

theorem cutAt?_eq_none_iff {mark : List UInt8} (hm : mark ≠ []) :
    ∀ {stream : List UInt8}, cutAt? mark stream = none ↔ ¬ mark <:+: stream
  | [] => by simp [cutAt?, hm]
  | b :: stream => by
    rw [cutAt?, List.infix_cons_iff]
    by_cases hp : mark <+: b :: stream
    · simp [hp]
    · simp [hp, cutAt?_eq_none_iff hm]

/-- **Cut off from the front, the lines are those of the text.** -/
theorem lines_eq_split (stream : List UInt8) : lines stream = split stream := by
  fun_induction lines stream with
  | case1 stream hnone => rw [split_of_unbroken stream ((cutAt?_eq_none_iff crlf_ne_nil).1 hnone)]
  | case2 stream line rest hcut ih =>
    obtain ⟨rfl, hline⟩ := unbroken_of_cutAt? hcut
    rw [ih, split_line_append line rest hline]

end Receiver

namespace Frame

open Lines

/-- The line cut off last is the last line. -/
theorem getLast?_lines (bytes : List UInt8) :
    (Receiver.lines bytes).getLast? = some (lastLine bytes) := by
  rw [Receiver.lines_eq_split, lastLine, List.getLast?_eq_some_getLast (split_ne_nil bytes)]

theorem not_announces_iff (bytes : List UInt8) : ¬ Announces bytes ↔
    bytes.length < codeWidth + 1 ∨ ∃ byte, bytes[codeWidth]? = some byte ∧ byte ≠ hyphen := by
  unfold Announces
  rcases Nat.lt_or_ge codeWidth bytes.length with hlong | hshort
  · rw [List.getElem?_eq_getElem hlong]
    simp [Nat.not_lt.2 hlong]
  · rw [List.getElem?_eq_none hshort]
    simp [Nat.lt_succ_of_le hshort]

/-- A line end hides what stands before it from the last line. -/
theorem lastLine_append (front body : List UInt8) :
    lastLine (front ++ crlf ++ body) = lastLine body := by
  simp only [lastLine, split_append_crlf, List.getLast_append_of_ne_nil _ (split_ne_nil body)]

theorem isComplete_append_line (front body : List UInt8) :
    isComplete (front ++ crlf ++ (body ++ crlf)) = isComplete (body ++ crlf) := by
  rw [← List.append_assoc, Bool.eq_iff_iff, isComplete_append_crlf, isComplete_append_crlf,
    lastLine_append]

/-- **Completeness line by line.** The first `n` bytes are a complete frame if
and only if they close with a line end and, of the lines cut off from the
front before it, the last one has no fourth byte or another there than a
hyphen. Whatever lines are put before, the answer is the same. -/
theorem isComplete_take_iff (bytes : List UInt8) (n : Nat) :
    (isComplete (bytes.take n) = true ↔ ∃ body last, bytes.take n = body ++ crlf ∧
      (Receiver.lines body).getLast? = some last ∧
      (last.length < codeWidth + 1 ∨ ∃ byte, last[codeWidth]? = some byte ∧ byte ≠ hyphen)) ∧
    ∀ front body : List UInt8,
      isComplete (front ++ crlf ++ (body ++ crlf)) = isComplete (body ++ crlf) := by
  refine ⟨?_, isComplete_append_line⟩
  rw [isComplete_iff]
  constructor
  · rintro ⟨body, hbody, hlast⟩
    exact ⟨body, lastLine body, hbody, getLast?_lines body, (not_announces_iff _).1 hlast⟩
  · rintro ⟨body, last, hbody, hlast, hends⟩
    obtain rfl := Option.some.inj ((getLast?_lines body).symm.trans hlast)
    exact ⟨body, hbody, (not_announces_iff _).2 hends⟩

end Frame
end SpeechWire
