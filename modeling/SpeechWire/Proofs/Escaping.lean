/-
# Escaping works line by line

The passes over a payload and the doubling at its end (`Block.escape`) look
for a dot between two line ends and for one after the last. Told in lines:
every dot alone on its line is doubled, the last line included and the first
left out, and nothing else is touched (`split_escape`).

The argument does not follow the passes. A pass may change lines only in a way
that doubling does not see (`doubleLater_split_pass`), so the doubled lines are
the same before and after all of them; and when the passes and the tail are
done no line but the first is a dot alone, so the lines are their own doubling.

Key definitions: `Block.double`, `Block.doubleLater`.
Key theorems: `Block.split_escape`, `Block.marker_infix_iff`, `Block.dot_mem_tail_iff`.
-/
import SpeechWire.Block
import SpeechWire.Proofs.Lines

namespace SpeechWire
namespace Block

open Lines

/-- A line as it is sent: a dot alone is doubled. -/
def double (line : List Char) : List Char := if line = ['.'] then ['.', '.'] else line

/-- The lines of a payload as they are sent: the first as it is, the later
ones doubled. -/
def doubleLater : List (List Char) → List (List Char)
  | [] => []
  | first :: later => first :: later.map double

theorem double_of_ne {line : List Char} (h : line ≠ ['.']) : double line = line := if_neg h

theorem double_ne_dot (line : List Char) : double line ≠ ['.'] := by
  unfold double
  split
  · decide
  · assumption

theorem dot_not_mem_map_double (lines : List (List Char)) : ['.'] ∉ lines.map double := by
  intro hm
  obtain ⟨line, -, hl⟩ := List.mem_map.1 hm
  exact double_ne_dot line hl

theorem map_double_of_not_mem {lines : List (List Char)} (h : ['.'] ∉ lines) :
    lines.map double = lines := by
  induction lines with
  | nil => rfl
  | cons line lines ih =>
    have hne : line ≠ ['.'] := fun e => h (e ▸ List.mem_cons_self)
    rw [List.map_cons, double_of_ne hne, ih fun hm => h (List.mem_cons_of_mem _ hm)]

/-! ### Lines that are doubled to the same -/

theorem exists_of_doubleLater_eq {first : List Char} {later b : List (List Char)}
    (h : doubleLater (first :: later) = doubleLater b) :
    ∃ later', b = first :: later' ∧ later.map double = later'.map double := by
  cases b with
  | nil => cases h
  | cons first' later' =>
    obtain ⟨rfl, hl⟩ := List.cons.inj h
    exact ⟨later', rfl, hl⟩

theorem map_double_eq_of_doubleLater_eq {a b : List (List Char)}
    (h : doubleLater a = doubleLater b) : a.map double = b.map double := by
  cases a with
  | nil =>
    cases b with
    | nil => rfl
    | cons first later => cases h
  | cons first later =>
    obtain ⟨later', rfl, hl⟩ := exists_of_doubleLater_eq h
    rw [List.map_cons, List.map_cons, hl]

theorem doubleLater_place (c : Char) {a b : List (List Char)}
    (h : doubleLater a = doubleLater b) (hne : a ≠ []) :
    doubleLater (place c a) = doubleLater (place c b) := by
  obtain ⟨first, later, rfl⟩ := List.exists_cons_of_ne_nil hne
  obtain ⟨later', rfl, hl⟩ := exists_of_doubleLater_eq h
  cases first with
  | nil => simp only [place, doubleLater, hl]
  | cons d first =>
    simp only [place]
    split
    · simp only [doubleLater, List.map_cons, hl]
    · simp only [doubleLater, hl]

/-! ### Marks and lines -/

theorem marker_eq : marker = crlf ++ ['.'] ++ crlf := rfl

/-- **A marker is a dot alone on a line that is neither the first nor the last.** -/
theorem marker_infix_iff (text : List Char) :
    marker <:+: text ↔ ∃ a b, a ≠ [] ∧ b ≠ [] ∧ split text = a ++ ['.'] :: b := by
  constructor
  · rintro ⟨s, t, rfl⟩
    refine ⟨split s, split t, split_ne_nil s, split_ne_nil t, ?_⟩
    have hdot : Unbroken ['.'] := by decide
    have e : s ++ marker ++ t = s ++ crlf ++ (['.'] ++ crlf ++ t) := by
      rw [marker_eq]
      simp only [List.append_assoc]
    rw [e, split_append_crlf, split_line_append _ _ hdot]
  · rintro ⟨a, b, ha, hb, h⟩
    obtain ⟨x, y, rfl, -, hy⟩ := (split_eq_append_iff ha (List.cons_ne_nil _ b)).1 h
    obtain ⟨u, v, rfl, hu, -⟩ := (split_eq_append_iff (List.cons_ne_nil ['.'] []) hb).1 hy
    have hdot : u = ['.'] := split_inj.1 (hu.trans (split_of_unbroken ['.'] (by decide)).symm)
    refine ⟨x, v, ?_⟩
    rw [hdot, marker_eq]
    simp only [List.append_assoc]

/-- A text closes with a dot alone on a line of its own, not the first. -/
theorem dot_suffix_iff (text : List Char) :
    ['\r', '\n', '.'] <:+ text ↔ ∃ x, text = x ++ crlf ++ ['.'] := by
  constructor
  · rintro ⟨x, rfl⟩
    exact ⟨x, (List.append_assoc x crlf ['.']).symm⟩
  · rintro ⟨x, rfl⟩
    exact ⟨x, List.append_assoc x crlf ['.'] ▸ rfl⟩

/-- **A dot alone on a line after the first** shows as a marker, or at the very
end. -/
theorem dot_mem_tail_iff (text : List Char) : ['.'] ∈ (split text).tail ↔
    marker <:+: text ∨ ['\r', '\n', '.'] <:+ text := by
  rw [marker_infix_iff, dot_suffix_iff]
  constructor
  · obtain ⟨first, later, hs⟩ := List.exists_cons_of_ne_nil (split_ne_nil text)
    rw [hs, List.tail_cons]
    intro hm
    obtain ⟨p, q, rfl⟩ := List.append_of_mem hm
    by_cases hq : q = []
    · subst hq
      obtain ⟨x, y, rfl, -, hy⟩ :=
        (split_eq_append_iff (List.cons_ne_nil first p) (List.cons_ne_nil ['.'] [])).1 hs
      have hdot : y = ['.'] := split_inj.1 (hy.trans (split_of_unbroken ['.'] (by decide)).symm)
      exact .inr ⟨x, by rw [hdot]⟩
    · exact .inl ⟨first :: p, q, List.cons_ne_nil _ _, hq, rfl⟩
  · rintro (⟨a, b, ha, -, hs⟩ | ⟨x, rfl⟩)
    · obtain ⟨first, before, rfl⟩ := List.exists_cons_of_ne_nil ha
      rw [hs]
      simp
    · obtain ⟨first, before, hx⟩ := List.exists_cons_of_ne_nil (split_ne_nil x)
      rw [split_append_crlf, hx, split_of_unbroken ['.'] (by decide)]
      simp

/-! ### What the passes keep and what they reach -/

/-- A pass changes lines only where doubling does not see it. -/
theorem doubleLater_split_pass (text : List Char) :
    doubleLater (split (pass text)) = doubleLater (split text) := by
  fun_induction pass text with
  | case1 rest ih =>
    have hsent : split ('\r' :: '\n' :: '.' :: '.' :: '\r' :: '\n' :: pass rest) =
        [] :: ['.', '.'] :: split (pass rest) :=
      (split_crlf_append (['.', '.'] ++ crlf ++ pass rest)).trans
        (congrArg _ (split_line_append _ _ (by decide)))
    have hwas : split ('\r' :: '\n' :: '.' :: '\r' :: '\n' :: rest) = [] :: ['.'] :: split rest :=
      (split_crlf_append (['.'] ++ crlf ++ rest)).trans
        (congrArg _ (split_line_append _ _ (by decide)))
    rw [hsent, hwas, doubleLater, doubleLater, List.map_cons, List.map_cons,
      map_double_eq_of_doubleLater_eq ih]
    rfl
  | case2 c rest _ ih =>
    rw [split_cons, split_cons]
    exact doubleLater_place c ih (split_ne_nil _)
  | case3 => rfl

theorem doubleLater_split_settle (text : List Char) :
    doubleLater (split (settle text)) = doubleLater (split text) := by
  fun_induction settle text with
  | case1 => rfl
  | case2 text _ ih => exact ih.trans (doubleLater_split_pass text)

theorem not_marker_infix_settle (text : List Char) : ¬ marker <:+: settle text := by
  fun_induction settle text with
  | case1 text h => exact (markers_eq_zero_iff text).1 h
  | case2 text _ ih => exact ih

/-- In a text without markers only the first line and the last can be a dot. -/
theorem not_mem_of_not_marker {text first : List Char} {later back : List (List Char)}
    (h : ¬ marker <:+: text) (hs : split text = first :: later ++ back) (hb : back ≠ []) :
    ['.'] ∉ later := by
  intro hm
  obtain ⟨p, q, rfl⟩ := List.append_of_mem hm
  refine h ((marker_infix_iff text).2 ⟨first :: p, q ++ back, List.cons_ne_nil _ _, ?_, ?_⟩)
  · simp [hb]
  · rw [hs]
    simp

theorem split_closeTail {text : List Char} (h : ¬ marker <:+: text) :
    split (closeTail text) = doubleLater (split text) := by
  unfold closeTail
  split
  · next htail =>
    obtain ⟨x, rfl⟩ := (dot_suffix_iff text).1 htail
    obtain ⟨first, later, hx⟩ := List.exists_cons_of_ne_nil (split_ne_nil x)
    have hdot : split (x ++ crlf ++ ['.']) = first :: later ++ [['.']] := by
      rw [split_append_crlf, hx, split_of_unbroken ['.'] (by decide)]
    have hlater := not_mem_of_not_marker h hdot (List.cons_ne_nil _ _)
    rw [List.append_assoc (x ++ crlf), List.singleton_append, split_append_crlf, hx,
      split_of_unbroken ['.', '.'] (by decide), hdot, List.cons_append, List.cons_append, doubleLater,
      List.map_append, map_double_of_not_mem hlater]
    rfl
  · next htail =>
    obtain ⟨first, later, hs⟩ := List.exists_cons_of_ne_nil (split_ne_nil text)
    have hlater : ['.'] ∉ later := by
      have hnone := mt (dot_mem_tail_iff text).1 (not_or.2 ⟨h, htail⟩)
      rwa [hs, List.tail_cons] at hnone
    rw [hs, doubleLater, map_double_of_not_mem hlater]

/-- **Escaping doubles each dot alone on its line, but for the first line.** -/
theorem split_escape (payload : String) :
    split (escape payload).toList = doubleLater (split payload.toList) := by
  rw [escape, String.toList_ofList, split_closeTail (not_marker_infix_settle _),
    doubleLater_split_settle]

end Block
end SpeechWire
