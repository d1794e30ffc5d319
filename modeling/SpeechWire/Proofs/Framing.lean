/-
# Which bytes are a complete frame

Completeness is decided from the end of the bytes (`endsFrame`). Told from the
front: the bytes close with a line end, and of the lines before it the last
one does not announce another (`isComplete_iff`). So the bytes of whole lines
that announce another are complete at no point, and a well-formed frame is
complete at its end and nowhere before (`isFirst_bytes`), whatever CRs and LFs
stand alone in its texts.

Key definitions: `Frame.Announces`, `Frame.WellFormed`.
Key theorems: `Frame.isComplete_iff`, `Frame.isFirst_iff`,
`Frame.WellFormed.isFirst_bytes`.
-/
import Mathlib.Data.List.Basic
import SpeechWire.Proofs.Lines
import SpeechWire.Reply.Frame

namespace SpeechWire
namespace Frame

open Lines

/-- Whether a line announces another: a hyphen is its fourth byte. -/
def Announces (bytes : List UInt8) : Prop := bytes[codeWidth]? = some hyphen

instance (bytes : List UInt8) : Decidable (Announces bytes) := inferInstanceAs (Decidable (_ = _))

/-- The last line of bytes. -/
def lastLine (bytes : List UInt8) : List UInt8 := (split bytes).getLast (split_ne_nil bytes)

theorem lastLine_of_split_eq {bytes line : List UInt8} {lines : List (List UInt8)}
    (h : split bytes = lines ++ [line]) : lastLine bytes = line := by
  simp only [lastLine, h, List.getLast_concat]

theorem isComplete_append_crlf (body : List UInt8) :
    isComplete (body ++ crlf) = true ↔ ¬ Announces (lastLine body) := by
  have hrev : (body ++ crlf).reverse = Newline.lf :: Newline.cr :: body.reverse := by
    rw [List.reverse_append]
    rfl
  rw [isComplete, hrev, endsFrame, latest_reverse]
  simp [Announces, lastLine]

/-- **Bytes are a complete frame if they close with a line end and their last
line does not announce another.** -/
theorem isComplete_iff (bytes : List UInt8) :
    isComplete bytes = true ↔ ∃ body, bytes = body ++ crlf ∧ ¬ Announces (lastLine body) := by
  constructor
  · intro h
    have hends : ∃ body, bytes = body ++ crlf := by
      unfold isComplete at h
      cases hr : bytes.reverse with
      | nil => rw [hr] at h; cases h
      | cons last front =>
        rw [hr] at h
        cases front with
        | nil => cases h
        | cons secondLast older =>
          simp only [endsFrame, Bool.and_eq_true, beq_iff_eq] at h
          obtain ⟨⟨rfl, rfl⟩, -⟩ := h
          refine ⟨older.reverse, ?_⟩
          rw [← List.reverse_reverse bytes, hr]
          simp [crlf]
    obtain ⟨body, rfl⟩ := hends
    exact ⟨body, rfl, (isComplete_append_crlf body).1 h⟩
  · rintro ⟨body, rfl, h⟩
    exact (isComplete_append_crlf body).2 h

theorem ne_nil_of_isComplete {bytes : List UInt8} (h : isComplete bytes = true) : bytes ≠ [] := by
  rintro rfl
  cases h

/-! ### Bytes that are complete at their end and nowhere before -/

theorem isFirst_iff (bytes : List UInt8) : IsFirst bytes ↔
    isComplete bytes = true ∧ ∀ n < bytes.length, isComplete (bytes.take n) = false := by
  unfold IsFirst completePrefixes
  rw [List.range_succ, List.filter_append]
  by_cases hc : isComplete bytes = true
  · have hlast : [bytes.length].filter (fun n => isComplete (bytes.take n)) = [bytes.length] := by
      simp [hc]
    rw [hlast, List.append_left_eq_self, List.filter_eq_nil_iff]
    simp [hc]
  · have hlast : [bytes.length].filter (fun n => isComplete (bytes.take n)) = [] := by simp [hc]
    rw [hlast, List.append_nil]
    refine ⟨fun h => ?_, fun h => absurd h.1 hc⟩
    have hm : bytes.length ∈
        (List.range bytes.length).filter fun n => isComplete (bytes.take n) := by
      rw [h]
      exact List.mem_singleton_self _
    exact absurd (List.mem_range.1 (List.mem_filter.1 hm).1) (Nat.lt_irrefl _)

theorem IsFirst.isComplete {bytes : List UInt8} (h : IsFirst bytes) :
    Frame.isComplete bytes = true :=
  ((isFirst_iff bytes).1 h).1

/-- Of the parts that such bytes start with only the whole is complete. -/
theorem IsFirst.isComplete_front_iff {front back : List UInt8} (h : IsFirst (front ++ back)) :
    Frame.isComplete front = true ↔ back = [] := by
  constructor
  · intro hcomplete
    by_contra hb
    have hlt : front.length < (front ++ back).length := by
      have := List.length_pos_iff.2 hb
      rw [List.length_append]
      omega
    have hopen := ((isFirst_iff _).1 h).2 front.length hlt
    rw [List.take_left] at hopen
    exact Bool.false_ne_true (hopen.symm.trans hcomplete)
  · rintro rfl
    rw [List.append_nil] at h
    exact h.isComplete

/-! ### Well-formed frames -/

/-- What a line of a frame holds: a code of three digits and a text without a
line end. -/
structure Row where
  code : List UInt8
  text : List UInt8
  length_code : code.length = codeWidth
  digits : ∀ b ∈ code, 0x30 ≤ b ∧ b ≤ 0x39
  unbroken : Unbroken text

/-- The byte that announces no other line. -/
def space : UInt8 := 0x20

/-- The line itself: the code, a separator, the text. -/
def Row.line (separator : UInt8) (row : Row) : List UInt8 := row.code ++ separator :: row.text

/-- A well-formed frame: lines that announce another, then one that does not.
Where frames end does not depend on whether all their codes are the same. -/
structure WellFormed where
  data : List Row
  final : Row

/-- Its lines. -/
def WellFormed.lines (frame : WellFormed) : List (List UInt8) :=
  frame.data.map (Row.line hyphen) ++ [frame.final.line space]

/-- Its bytes: each line with its line end. -/
def WellFormed.bytes (frame : WellFormed) : List UInt8 := frame.lines.flatMap (· ++ crlf)

theorem Row.announces_line_iff (row : Row) (separator : UInt8) :
    Announces (row.line separator) ↔ separator = hyphen := by
  unfold Announces
  rw [line, ← row.length_code, List.getElem?_append_right (Nat.le_refl _), Nat.sub_self]
  exact Option.some_inj

theorem Row.unbroken_line (row : Row) {separator : UInt8} (h : separator ≠ Newline.cr) :
    Unbroken (row.line separator) := by
  have hcode : ∀ b ∈ row.code, b ≠ Newline.cr := by
    rintro b hb rfl
    exact absurd (row.digits _ hb).1 (by decide)
  exact (unbroken_append_iff hcode _).2 ((unbroken_cons_iff h _).2 row.unbroken)

namespace WellFormed

theorem split_bytes (frame : WellFormed) : split frame.bytes = frame.lines ++ [[]] := by
  have hne : frame.lines ≠ [] := by simp [lines]
  have hun : ∀ line ∈ frame.lines, Unbroken line := by
    intro line hl
    rcases List.mem_append.1 hl with hl | hl
    · obtain ⟨row, -, rfl⟩ := List.mem_map.1 hl
      exact row.unbroken_line (by decide)
    · rw [List.mem_singleton.1 hl]
      exact frame.final.unbroken_line (by decide)
  rw [bytes, flatMap_append_crlf hne, split_append_crlf_self, split_join hne hun]

/-- Cut at a line end before the last, the frame leaves only lines in front
that announce another. -/
theorem mem_data_of_cut (frame : WellFormed) {body rest : List UInt8}
    (h : frame.bytes = body ++ crlf ++ rest) (hr : rest ≠ []) :
    ∀ line ∈ split body, line ∈ frame.data.map (Row.line hyphen) := by
  have hsplit := frame.split_bytes
  rw [h, split_append_crlf, lines] at hsplit
  have hlen : 2 ≤ (split rest).length := by
    by_contra hlt
    obtain ⟨line, lines, hs⟩ := List.exists_cons_of_ne_nil (split_ne_nil rest)
    have hnil : lines = [] := by
      rw [hs, List.length_cons] at hlt
      exact List.length_eq_zero_iff.1 (by omega)
    subst hnil
    rw [hs] at hsplit
    obtain ⟨-, rfl⟩ := List.append_singleton_inj.1 hsplit
    exact hr (split_eq_singleton_nil_iff.1 hs)
  have hle : (split body).length ≤ (frame.data.map (Row.line hyphen)).length := by
    have := congrArg List.length hsplit
    simp only [List.length_append, List.length_cons, List.length_nil] at this
    omega
  rw [List.append_assoc] at hsplit
  have hfront : split body <+: frame.data.map (Row.line hyphen) :=
    List.prefix_of_prefix_length_le ⟨_, hsplit⟩ (List.prefix_append _ _) hle
  exact fun line hl => hfront.subset hl

/-- **A well-formed frame is complete at its end and nowhere before.** -/
theorem isFirst_bytes (frame : WellFormed) : IsFirst frame.bytes := by
  rw [isFirst_iff]
  constructor
  · have hbytes : frame.bytes = join frame.lines ++ crlf := flatMap_append_crlf (by simp [lines])
    have hsplit := frame.split_bytes
    rw [hbytes, split_append_crlf_self, List.append_left_inj] at hsplit
    rw [hbytes, isComplete_append_crlf, lastLine_of_split_eq hsplit, Row.announces_line_iff]
    decide
  · intro n hn
    by_contra hc
    rw [Bool.not_eq_false, isComplete_iff] at hc
    obtain ⟨body, hbody, hlast⟩ := hc
    have hcut : frame.bytes = body ++ crlf ++ frame.bytes.drop n := by
      rw [← hbody, List.take_append_drop]
    have hrest : frame.bytes.drop n ≠ [] := fun h => by
      have := List.drop_eq_nil_iff.1 h
      omega
    have hmem := frame.mem_data_of_cut hcut hrest (lastLine body) (List.getLast_mem _)
    obtain ⟨row, -, hrow⟩ := List.mem_map.1 hmem
    rw [← hrow, Row.announces_line_iff] at hlast
    exact hlast rfl

/-- The frame of a reply in one line, with the code 250. -/
def oneLine (text : List UInt8) (h : Unbroken text) : WellFormed where
  data := []
  final :=
    { code := [50, 53, 48]
      text := text
      length_code := rfl
      digits := by simp
      unbroken := h }

end WellFormed
end Frame
end SpeechWire
