/-
# Data blocks

A payload is sent as a block that ends with a line holding one dot. A payload
line that is itself one dot would end the block early, so it is sent as two
dots. The doubling works on the marker, a dot between two line ends: `pass`
doubles markers from the left, skipping one that shares a line end with the
marker before it, and `settle` repeats the pass until no marker is left. It
stops because a pass over a text with a marker leaves fewer of them, counted
with overlaps (`markers_pass_lt`). Last, a text that closes with a dot alone
on its line gets a second dot, since the end of the block would make a marker
of it.

Key definitions: `Block.pass`, `Block.settle`, `Block.escape`, `Block.encode`.
Key theorems: `Block.pass_induction`, `Block.markers_pass_lt`.
-/
import SpeechWire.Text.Utf8
import SpeechWire.Version

namespace SpeechWire
namespace Block

/-- A dot alone on its line, with the line ends on both sides. -/
def marker : List Char := ['\r', '\n', '.', '\r', '\n']

theorem toList_endOfData : endOfData.toList = marker := by decide +kernel

theorem toList_endOfDataEscaped :
    endOfDataEscaped.toList = ['\r', '\n', '.', '.', '\r', '\n'] := by decide +kernel

/-- How many places the marker stands at, overlaps included. -/
def markers : List Char → Nat
  | [] => 0
  | c :: rest => (if marker <+: c :: rest then 1 else 0) + markers rest

/-- Doubles the dot of each marker, from the left, none of them overlapping
the one before. -/
def pass : List Char → List Char
  | '\r' :: '\n' :: '.' :: '\r' :: '\n' :: rest =>
    '\r' :: '\n' :: '.' :: '.' :: '\r' :: '\n' :: pass rest
  | c :: rest => c :: pass rest
  | [] => []

/-! ### The steps of a pass -/

/-- A pass goes over a text marker by marker, and by one character where no
marker stands. -/
@[elab_as_elim]
theorem pass_induction {P : List Char → Prop} (nil : P [])
    (doubled : ∀ rest, P rest → P (marker ++ rest))
    (kept : ∀ c rest, ¬ marker <+: c :: rest → P rest → P (c :: rest)) (text : List Char) :
    P text := by
  fun_induction pass text with
  | case1 rest ih => exact doubled rest ih
  | case2 c rest hne ih =>
    refine kept c rest ?_ ih
    rintro ⟨s, hs⟩
    simp only [marker, List.cons_append, List.nil_append, List.cons.injEq] at hs
    exact hne s hs.1.symm hs.2.symm
  | case3 => exact nil

theorem pass_marker_append (rest : List Char) :
    pass (marker ++ rest) = endOfDataEscaped.toList ++ pass rest := by
  rw [toList_endOfDataEscaped]
  rfl

theorem pass_cons {c : Char} {rest : List Char} (h : ¬ marker <+: c :: rest) :
    pass (c :: rest) = c :: pass rest := by
  rw [pass]
  rintro s rfl rfl
  exact h ⟨s, rfl⟩

/-! ### A pass removes markers and makes none -/

/-- A pass keeps the first three characters. -/
theorem take_pass (text : List Char) : (pass text).take 3 = text.take 3 := by
  fun_induction pass text with
  | case1 rest ih => rfl
  | case2 c rest _ ih =>
    have := congrArg (List.take 2) ih
    simpa [List.take_take] using this
  | case3 => rfl

/-- What the first three characters are can be read before or after a pass. -/
theorem prefix_pass_iff {start text : List Char} (h : start.length = 3) :
    start <+: pass text ↔ start <+: text := by
  rw [List.prefix_iff_eq_take, List.prefix_iff_eq_take, h, take_pass]

/-- A marker at the front after a pass was there before it. -/
theorem marker_prefix_of_pass {c : Char} {rest : List Char} (h : marker <+: c :: pass rest) :
    marker <+: c :: rest := by
  obtain ⟨hc, h⟩ := List.cons_prefix_cons.1 h
  cases rest with
  | nil => simp [pass] at h
  | cons d rest =>
    have hd : d = '\n' := by
      have e := congrArg (List.take 1) (take_pass (d :: rest))
      obtain ⟨s, hs⟩ := h
      rw [← hs] at e
      simpa using e.symm
    subst hd
    have e : pass ('\n' :: rest) = '\n' :: pass rest := by simp [pass]
    rw [e, List.cons_prefix_cons] at h
    exact List.cons_prefix_cons.2 ⟨hc, List.cons_prefix_cons.2 ⟨rfl, (prefix_pass_iff rfl).1 h.2⟩⟩

/-- A pass makes no marker, and where there is one it removes one. -/
theorem markers_pass (text : List Char) : markers (pass text) ≤ markers text ∧
    (markers text ≠ 0 → markers (pass text) < markers text) := by
  induction text using pass_induction with
  | nil => simp [markers, pass]
  | doubled rest ih =>
    have h : ∀ t, marker <+: '\r' :: '\n' :: t ↔ ['.', '\r', '\n'] <+: t := by simp [marker]
    have hp : marker <+: '\r' :: '\n' :: pass rest ↔ marker <+: '\r' :: '\n' :: rest := by
      rw [h, h, prefix_pass_iff rfl]
    have hwas : marker ++ rest = '\r' :: '\n' :: '.' :: '\r' :: '\n' :: rest := rfl
    rw [pass_marker_append, toList_endOfDataEscaped, hwas]
    simp only [List.cons_append, List.nil_append, markers, hp]
    simp [marker]
    omega
  | kept c rest hfront ih =>
    have hback : ¬ marker <+: c :: pass rest := fun h => hfront (marker_prefix_of_pass h)
    rw [pass_cons hfront]
    simpa only [markers, hfront, hback, if_false, Nat.zero_add] using ih

/-- A pass over a text with a marker leaves fewer markers. -/
theorem markers_pass_lt {text : List Char} (h : markers text ≠ 0) :
    markers (pass text) < markers text :=
  (markers_pass text).2 h

/-- Counting finds a marker exactly where there is one. -/
theorem markers_eq_zero_iff (text : List Char) : markers text = 0 ↔ ¬ marker <:+: text := by
  induction text with
  | nil => simp [markers, marker]
  | cons c rest ih =>
    rw [markers, List.infix_cons_iff, Nat.add_eq_zero_iff, ih]
    by_cases h : marker <+: c :: rest <;> simp [h]

/-! ### The block -/

/-- Passes until no marker is left. -/
def settle (text : List Char) : List Char :=
  if markers text = 0 then text else settle (pass text)
termination_by markers text
decreasing_by exact markers_pass_lt ‹_›

/-- Doubles a dot alone on the last line. -/
def closeTail (text : List Char) : List Char :=
  if ['\r', '\n', '.'] <:+ text then text ++ ['.'] else text

/-- The payload in the form it is sent in. -/
def escape (payload : String) : String := String.ofList (closeTail (settle payload.toList))

/-- The bytes of the whole block: the escaped payload and the end of data. -/
def encode (payload : String) : List UInt8 :=
  Utf8.encode (escape payload) ++ Utf8.encode endOfData

end Block
end SpeechWire
