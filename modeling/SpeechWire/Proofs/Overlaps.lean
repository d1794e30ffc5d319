/-
# Markers that share a line end

A pass goes over a text from the left. It doubles each marker it meets and
goes on behind the line end that closes it, so of two markers that share a
line end (`chain`) it doubles the first and leaves the second. No others are
left: a marker comes out of a pass exactly if a chain went in
(`marker_infix_pass_iff`). And no chain comes out, for behind a marker that is
left the pass meets the next one like any other and doubles it. So a second
pass leaves no marker at all.

A pass makes no marker either. A marker that comes out parts the text in two
that the pass has gone over one by one, and between them the marker stood
before (`exists_marker_of_pass_eq`).

Key definitions: `Block.chain`.
Key theorems: `Block.marker_infix_pass_iff`, `Block.exists_marker_of_pass_eq`,
`Block.not_marker_infix_pass_pass`, `Block.two_passes_suffice`.
-/
import Mathlib.Logic.Function.Iterate
import SpeechWire.Proofs.Escaping

namespace SpeechWire
namespace Block

open Lines

/-- Two markers that share the line end between them. -/
def chain : List Char := ['\r', '\n', '.', '\r', '\n', '.', '\r', '\n']

theorem marker_prefix_chain : marker <+: chain := by decide

theorem pass_doubled (rest : List Char) :
    pass (marker ++ rest) = crlf ++ ['.', '.'] ++ crlf ++ pass rest := by
  rw [pass_marker_append, toList_endOfDataEscaped]
  rfl

/-! ### What comes out at the front -/

theorem not_marker_prefix_pass (text : List Char) : ¬ marker <+: pass text := by
  induction text using pass_induction with
  | nil => simp [pass, marker]
  | doubled rest =>
    rw [pass_marker_append, toList_endOfDataEscaped]
    simp [marker]
  | kept c rest h =>
    rw [pass_cons h]
    exact fun hmarker => h (marker_prefix_of_pass hmarker)

theorem not_dot_marker_prefix_pass (text : List Char) : ¬ '.' :: marker <+: pass text := by
  induction text using pass_induction with
  | nil => simp [pass]
  | doubled rest =>
    rw [pass_marker_append, toList_endOfDataEscaped]
    simp
  | kept c rest h =>
    rw [pass_cons h, List.cons_prefix_cons]
    exact fun hmarker => not_marker_prefix_pass rest hmarker.2

/-! ### Which markers are left -/

/-- A text that starts with a doubled dot holds a marker if a dot alone on its line
comes next, or there is one further on. -/
theorem marker_infix_doubled_iff (rest : List Char) :
    marker <:+: crlf ++ ['.', '.'] ++ crlf ++ rest ↔
      ['.', '\r', '\n'] <+: rest ∨ marker <:+: rest := by
  simp [marker, crlf, Newline.cr, Newline.lf, List.infix_cons_iff]

theorem chain_infix_doubled_iff (rest : List Char) :
    chain <:+: crlf ++ ['.', '.'] ++ crlf ++ rest ↔ '.' :: marker <+: rest ∨ chain <:+: rest := by
  simp [chain, marker, crlf, Newline.cr, Newline.lf, List.infix_cons_iff]

theorem chain_infix_marker_append_iff (rest : List Char) :
    chain <:+: marker ++ rest ↔ ['.', '\r', '\n'] <+: rest ∨ chain <:+: rest := by
  have hnext : ['.', '\r', '\n', '.', '\r', '\n'] <+: rest → ['.', '\r', '\n'] <+: rest :=
    (List.prefix_append ['.', '\r', '\n'] ['.', '\r', '\n']).trans
  have hplaces : chain <:+: marker ++ rest ↔
      (['.', '\r', '\n'] <+: rest ∨ ['.', '\r', '\n', '.', '\r', '\n'] <+: rest) ∨
        chain <:+: rest := by
    simp [chain, marker, List.infix_cons_iff, or_assoc]
  rw [hplaces, or_iff_left_of_imp hnext]

/-- **A pass leaves a marker exactly where two shared a line end.** -/
theorem marker_infix_pass_iff (text : List Char) : marker <:+: pass text ↔ chain <:+: text := by
  induction text using pass_induction with
  | nil => simp [pass, marker, chain]
  | doubled rest ih =>
    rw [pass_doubled, marker_infix_doubled_iff, prefix_pass_iff rfl, ih,
      chain_infix_marker_append_iff]
  | kept c rest h ih =>
    have hmarker : ¬ marker <+: c :: pass rest := fun hm => h (marker_prefix_of_pass hm)
    have hchain : ¬ chain <+: c :: rest := fun hc => h (marker_prefix_chain.trans hc)
    rw [pass_cons h, List.infix_cons_iff, List.infix_cons_iff, ih, or_iff_right hmarker,
      or_iff_right hchain]

/-- No two markers that are left share a line end. -/
theorem not_chain_infix_pass (text : List Char) : ¬ chain <:+: pass text := by
  induction text using pass_induction with
  | nil => simp [pass, chain]
  | doubled rest ih =>
    rw [pass_doubled, chain_infix_doubled_iff]
    exact not_or.2 ⟨not_dot_marker_prefix_pass rest, ih⟩
  | kept c rest h ih =>
    have hchain : ¬ chain <+: c :: pass rest := fun hc =>
      h (marker_prefix_of_pass (marker_prefix_chain.trans hc))
    rw [pass_cons h, List.infix_cons_iff, or_iff_right hchain]
    exact ih

/-- **Two passes leave no marker.** -/
theorem not_marker_infix_pass_pass (text : List Char) : ¬ marker <:+: pass (pass text) := by
  rw [marker_infix_pass_iff]
  exact not_chain_infix_pass text

/-! ### Where the markers that are left stood -/

/-- A marker in a text that starts with a doubled dot starts with the line end
behind the dots, or past it. -/
theorem eq_of_doubled_eq {rest x y : List Char}
    (h : crlf ++ ['.', '.'] ++ crlf ++ rest = x ++ marker ++ y) :
    x = crlf ++ ['.', '.'] ∧ rest = ['.'] ++ crlf ++ y ∨
      ∃ back, x = crlf ++ ['.', '.'] ++ crlf ++ back ∧ rest = back ++ marker ++ y := by
  match x with
  | [] | [_] | [_, _] | [_, _, _] | [_, _, _, _, _] =>
    simp [marker, crlf, Newline.cr, Newline.lf] at h
  | [_, _, _, _] =>
    simp only [marker, crlf, Newline.cr, Newline.lf, List.cons_append, List.nil_append,
      List.cons.injEq] at h
    obtain ⟨rfl, rfl, rfl, rfl, -, -, hrest⟩ := h
    exact .inl ⟨rfl, hrest⟩
  | _ :: _ :: _ :: _ :: _ :: _ :: back =>
    simp only [crlf, Newline.cr, Newline.lf, List.cons_append, List.nil_append,
      List.cons.injEq] at h
    obtain ⟨rfl, rfl, rfl, rfl, rfl, rfl, hrest⟩ := h
    exact .inr ⟨back, rfl, hrest⟩

/-- **A marker that comes out of a pass was there before.** The text before it and
the text after it, each with the line end it shares with the marker, come out
as if the pass had gone over them alone; so what comes out at different places
stood at different places. -/
theorem exists_marker_of_pass_eq {text x y : List Char} (h : pass text = x ++ marker ++ y) :
    ∃ x' y', text = x' ++ marker ++ y' ∧ pass (x' ++ crlf) = x ++ crlf ∧
      pass (crlf ++ y') = crlf ++ y := by
  induction text using pass_induction generalizing x with
  | nil => simp [pass, marker] at h
  | doubled rest ih =>
    rcases eq_of_doubled_eq (pass_doubled rest ▸ h) with ⟨rfl, hrest⟩ | ⟨back, rfl, hrest⟩
    · -- the marker that is left shares the line end of the one that was doubled
      have hdot : ['.', '\r', '\n'] <+: rest := by
        rw [← prefix_pass_iff rfl, hrest]
        exact List.prefix_append _ y
      obtain ⟨y', rfl⟩ := hdot
      have hkept : pass ('.' :: (crlf ++ y')) = '.' :: pass (crlf ++ y') :=
        pass_cons (by simp [marker])
      exact ⟨crlf ++ ['.'], y', rfl, rfl, (List.cons.inj (hkept.symm.trans hrest)).2⟩
    · obtain ⟨x', y', rfl, hx, hy⟩ := ih hrest
      refine ⟨marker ++ x', y', by simp only [List.append_assoc], ?_, hy⟩
      rw [List.append_assoc marker, pass_doubled, hx, ← List.append_assoc]
  | kept c rest hne ih =>
    rw [pass_cons hne] at h
    cases x with
    | nil =>
      have hfront : marker <+: c :: pass rest := ⟨y, h.symm⟩
      exact absurd (marker_prefix_of_pass hfront) hne
    | cons d x =>
      obtain ⟨rfl, hrest⟩ := List.cons.inj h
      obtain ⟨x', y', rfl, hx, hy⟩ := ih hrest
      refine ⟨c :: x', y', rfl, ?_, hy⟩
      have hback : ¬ marker <+: c :: (x' ++ crlf) := by
        intro hm
        refine hne (hm.trans ?_)
        simp [marker_eq]
      rw [List.cons_append, pass_cons hback, hx]
      rfl

/-! ### How often passes are made -/

theorem pass_of_not_marker {text : List Char} (h : ¬ marker <:+: text) : pass text = text := by
  induction text with
  | nil => rfl
  | cons c rest ih =>
    rw [List.infix_cons_iff, not_or] at h
    rw [pass_cons h.1, ih h.2]

theorem settle_of_not_marker {text : List Char} (h : ¬ marker <:+: text) : settle text = text := by
  rw [settle, if_pos ((markers_eq_zero_iff text).2 h)]

/-- A first pass can be made without a look at the text: where there is no
marker it changes nothing. -/
theorem settle_pass (text : List Char) : settle (pass text) = settle text := by
  by_cases h : marker <:+: text
  · rw [settle.eq_def text, if_neg fun hzero => (markers_eq_zero_iff text).1 hzero h]
  · rw [pass_of_not_marker h]

/-- After the first pass one more is made if a marker is left, and that is all. -/
theorem settle_eq_iterate (text : List Char) : ∃ n ≤ 1,
    (∀ i < n, marker <:+: pass^[i] (pass text)) ∧ ¬ marker <:+: pass^[n] (pass text) ∧
      settle text = pass^[n] (pass text) ∧ (n = 1 ↔ chain <:+: text) := by
  have hlast := not_marker_infix_pass_pass text
  rw [← settle_pass, ← marker_infix_pass_iff]
  by_cases h : marker <:+: pass text
  · refine ⟨1, Nat.le_refl 1, ?_, hlast, ?_, by simp [h]⟩
    · intro i hi
      obtain rfl := Nat.lt_one_iff.1 hi
      exact h
    · rw [← settle_pass]
      exact settle_of_not_marker hlast
  · exact ⟨0, Nat.zero_le 1, nofun, h, settle_of_not_marker h, by simp [h]⟩

/-- **Two passes are enough.** A pass over a text with markers leaves fewer of
them, overlaps counted, and every marker that it leaves stood in the text
before, at the place that the pass has moved. Two passes leave none. So after
the first pass over a payload there is at most one more that finds a marker,
and there is one just if two markers of the payload share a line end; what
these passes give is escaped but for the tail. -/
theorem two_passes_suffice (payload : String) (text : List Char) :
    (marker <:+: text → markers (pass text) < markers text) ∧
    (∀ x y, pass text = x ++ marker ++ y → ∃ x' y', text = x' ++ marker ++ y' ∧
      pass (x' ++ crlf) = x ++ crlf ∧ pass (crlf ++ y') = crlf ++ y) ∧
    ¬ marker <:+: pass (pass text) ∧
    ∃ n ≤ 1, (∀ i < n, marker <:+: pass^[i] (pass payload.toList)) ∧
      ¬ marker <:+: pass^[n] (pass payload.toList) ∧
      escape payload = .ofList (closeTail (pass^[n] (pass payload.toList))) ∧
      (n = 1 ↔ chain <:+: payload.toList) := by
  refine ⟨?_, fun x y => exists_marker_of_pass_eq, not_marker_infix_pass_pass text, ?_⟩
  · intro h
    exact markers_pass_lt fun hzero => (markers_eq_zero_iff text).1 hzero h
  · obtain ⟨n, hn, hbefore, hlast, hsettle, hchain⟩ := settle_eq_iterate payload.toList
    exact ⟨n, hn, hbefore, hlast, by rw [escape, hsettle], hchain⟩

/-- Three dots in a row, each alone on its line: the first pass leaves the one in
the middle. -/
example : pass ['\r', '\n', '.', '\r', '\n', '.', '\r', '\n', '.', '\r', '\n'] =
    ['\r', '\n', '.', '.', '\r', '\n', '.', '\r', '\n', '.', '.', '\r', '\n'] := by decide

end Block
end SpeechWire
