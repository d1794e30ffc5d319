/-
# Cutting a text into lines

`split` and `join` are inverse to each other between texts and non-empty lists
of lines without a line end. So cutting a text in two at a line end and
cutting its list of lines in two come to the same (`split_eq_append_iff`),
which is how everything about where a line end stands is settled here: by
looking at the list of lines.

Key theorems: `Lines.split_join`, `Lines.unbroken_of_mem_split`,
`Lines.split_eq_append_iff`, `Lines.split_starts_iff`, `Lines.body?_eq_some_iff`.
-/
import SpeechWire.Lines

namespace SpeechWire
namespace Lines

open Newline

variable {α : Type} [Newline α]

/-! ### Lines without a line end -/

/-- A line end takes two units. -/
theorem unbroken_of_length_lt {line : List α} (h : line.length < 2) : Unbroken line := by
  intro hi
  have hlen : 2 ≤ line.length := hi.length_le
  omega

theorem unbroken_nil : Unbroken ([] : List α) := unbroken_of_length_lt Nat.two_pos

theorem unbroken_cons_iff {a : α} (h : a ≠ cr) (line : List α) :
    Unbroken (a :: line) ↔ Unbroken line := by
  refine ⟨unbroken_tail, fun hl hi => ?_⟩
  rcases List.infix_cons_iff.1 hi with hp | hi
  · exact h (List.cons_prefix_cons.1 hp).1.symm
  · exact hl hi

theorem unbroken_append_iff : ∀ {front : List α}, (∀ a ∈ front, a ≠ cr) → ∀ line : List α,
    Unbroken (front ++ line) ↔ Unbroken line
  | [], _, _ => Iff.rfl
  | a :: front, h, line => by
    rw [List.cons_append, unbroken_cons_iff (h a List.mem_cons_self)]
    exact unbroken_append_iff (fun b hb => h b (List.mem_cons_of_mem _ hb)) line

/-! ### Joining -/

theorem join_singleton (line : List α) : join [line] = line := by
  simp [join, List.intercalate, List.intersperse]

theorem join_append {a : List (List α)} (ha : a ≠ []) {b : List (List α)} (hb : b ≠ []) :
    join (a ++ b) = join a ++ crlf ++ join b := by
  induction a with
  | nil => exact absurd rfl ha
  | cons line lines ih =>
    by_cases hl : lines = []
    · subst hl
      rw [join_singleton, List.singleton_append, join_cons line hb]
    · rw [List.cons_append, join_cons line (by simp [hb]), ih hl, join_cons line hl]
      simp only [List.append_assoc]

theorem flatMap_append_crlf {lines : List (List α)} (h : lines ≠ []) :
    lines.flatMap (· ++ crlf) = join lines ++ crlf := by
  induction lines with
  | nil => exact absurd rfl h
  | cons line lines ih =>
    by_cases hl : lines = []
    · subst hl
      simp [join_singleton]
    · rw [List.flatMap_cons, ih hl, join_cons line hl, List.append_assoc (line ++ crlf)]

/-- Joining adds two units between neighbours. -/
theorem length_join (lines : List (List α)) :
    (join lines).length = lines.flatten.length + 2 * (lines.length - 1) := by
  induction lines with
  | nil => simp [join, List.intercalate]
  | cons line lines ih =>
    by_cases hl : lines = []
    · subst hl
      simp [join_singleton]
    · have hpos := List.length_pos_iff.2 hl
      rw [join_cons line hl, List.flatten_cons]
      simp only [List.length_append, ih, crlf, List.length_cons, List.length_nil]
      omega

variable [DecidableEq α]

/-! ### Splitting -/

theorem place_of_ne_cr {a : α} (h : a ≠ cr) (line : List α) (lines : List (List α)) :
    place a (line :: lines) = (a :: line) :: lines := by
  cases line with
  | nil => rfl
  | cons b line => simp [place, h]

theorem unbroken_of_mem_place {a : α} {lines : List (List α)} (h : ∀ line ∈ lines, Unbroken line) :
    ∀ line ∈ place a lines, Unbroken line := by
  have hone : Unbroken [a] := unbroken_of_length_lt Nat.one_lt_two
  unfold place
  split
  · simpa using hone
  · next lines =>
    intro line hl
    rcases List.mem_cons.1 hl with rfl | hl
    · exact hone
    · exact h line (List.mem_cons_of_mem _ hl)
  · next b front lines =>
    have hfront : Unbroken (b :: front) := h _ List.mem_cons_self
    have hrest : ∀ line ∈ lines, Unbroken line := fun line hl => h line (List.mem_cons_of_mem _ hl)
    split
    · rintro line (_ | ⟨_, _ | ⟨_, hl⟩⟩)
      · exact unbroken_nil
      · exact unbroken_tail hfront
      · exact hrest line hl
    · next hab =>
      rintro line (_ | ⟨_, hl⟩)
      · intro hi
        rcases List.infix_cons_iff.1 hi with hp | hi
        · obtain ⟨h1, h2⟩ := List.cons_prefix_cons.1 hp
          exact hab ⟨h1.symm, (List.cons_prefix_cons.1 h2).1.symm⟩
        · exact hfront hi
      · exact hrest line hl

theorem unbroken_of_mem_split : ∀ {units line : List α}, line ∈ split units → Unbroken line
  | [], line, h => by
    rw [split_nil, List.mem_singleton] at h
    exact h ▸ unbroken_nil
  | a :: units, line, h =>
    unbroken_of_mem_place (fun l (hl : l ∈ split units) => unbroken_of_mem_split hl) line h

/-- Lines without a line end come back from the text they are joined to. -/
theorem split_join {lines : List (List α)} (hne : lines ≠ []) (h : ∀ line ∈ lines, Unbroken line) :
    split (join lines) = lines := by
  induction lines with
  | nil => exact absurd rfl hne
  | cons line lines ih =>
    have hline : Unbroken line := h line List.mem_cons_self
    by_cases hl : lines = []
    · subst hl
      rw [join_singleton, split_of_unbroken line hline]
    · rw [join_cons line hl, split_line_append line _ hline,
        ih hl fun l hm => h l (List.mem_cons_of_mem _ hm)]

theorem split_inj {x y : List α} : split x = split y ↔ x = y :=
  ⟨fun h => by rw [← join_split x, h, join_split], fun h => h ▸ rfl⟩

/-- **Cutting a text at a line end is cutting its list of lines.** -/
theorem split_eq_append_iff {units : List α} {a b : List (List α)} (ha : a ≠ []) (hb : b ≠ []) :
    split units = a ++ b ↔ ∃ x y, units = x ++ crlf ++ y ∧ split x = a ∧ split y = b := by
  constructor
  · intro h
    have hun : ∀ line ∈ split units, Unbroken line := fun line hl => unbroken_of_mem_split hl
    rw [h] at hun
    refine ⟨join a, join b, ?_, split_join ha fun l hl => hun l (List.mem_append_left _ hl),
      split_join hb fun l hl => hun l (List.mem_append_right _ hl)⟩
    rw [← join_append ha hb, ← h, join_split]
  · rintro ⟨x, y, rfl, rfl, rfl⟩
    exact split_append_crlf x y

theorem split_append_crlf_self (units : List α) : split (units ++ crlf) = split units ++ [[]] := by
  have h := split_append_crlf units []
  rwa [List.append_nil] at h

theorem split_eq_singleton_nil_iff {units : List α} : split units = [[]] ↔ units = [] := by
  rw [← split_nil, split_inj]

theorem split_eq_iff {units : List α} {lines : List (List α)} (hne : lines ≠ []) :
    split units = lines ↔ units = join lines ∧ ∀ line ∈ lines, Unbroken line := by
  constructor
  · rintro rfl
    exact ⟨(join_split units).symm, fun line hl => unbroken_of_mem_split hl⟩
  · rintro ⟨rfl, h⟩
    exact split_join hne h

/-! ### The line end that closes a text -/

theorem body?_eq_some_iff {units body : List α} : body? units = some body ↔ units = body ++ crlf := by
  unfold body?
  constructor
  · intro h
    split at h
    · next hs =>
      obtain ⟨front, rfl⟩ := hs
      simp [crlf] at h
      rw [h]
    · cases h
  · rintro rfl
    rw [if_pos (List.suffix_append _ _)]
    simp [crlf]

theorem body?_append_crlf (body : List α) : body? (body ++ crlf) = some body :=
  body?_eq_some_iff.2 rfl

/-- A text closes with a line end if its last line is empty and not its only one. -/
theorem crlf_suffix_iff {units : List α} :
    crlf <:+ units ↔ ∃ lines, lines ≠ [] ∧ split units = lines ++ [[]] := by
  constructor
  · rintro ⟨front, rfl⟩
    exact ⟨split front, split_ne_nil front, split_append_crlf_self front⟩
  · rintro ⟨lines, hne, h⟩
    obtain ⟨x, y, rfl, -, hy⟩ := (split_eq_append_iff hne (List.cons_ne_nil _ _)).1 h
    rw [split_eq_singleton_nil_iff] at hy
    subst hy
    exact ⟨x, (List.append_nil _).symm⟩

/-- **The first lines of a text that a line end closes.** They are `lines` if the
text starts with these, each with its line end, and what remains is nothing or
closes with a line end itself. -/
theorem split_starts_iff {body : List α} {lines : List (List α)} (hne : lines ≠ []) :
    (∃ rest, split body = lines ++ rest) ↔ (∀ line ∈ lines, Unbroken line) ∧
      ∃ tail, body ++ crlf = lines.flatMap (· ++ crlf) ++ tail ∧ (tail = [] ∨ crlf <:+ tail) := by
  rw [flatMap_append_crlf hne]
  constructor
  · rintro ⟨rest, h⟩
    by_cases hr : rest = []
    · subst hr
      rw [List.append_nil, split_eq_iff hne] at h
      exact ⟨h.2, [], by rw [h.1, List.append_nil], .inl rfl⟩
    · obtain ⟨x, y, rfl, hx, -⟩ := (split_eq_append_iff hne hr).1 h
      rw [split_eq_iff hne] at hx
      refine ⟨hx.2, y ++ crlf, ?_, .inr (List.suffix_append _ _)⟩
      rw [hx.1, List.append_assoc _ y]
  · rintro ⟨hun, tail, h, rfl | ⟨y, rfl⟩⟩
    · rw [List.append_nil, List.append_left_inj] at h
      exact ⟨[], by rw [h, split_join hne hun, List.append_nil]⟩
    · rw [← List.append_assoc, List.append_left_inj] at h
      exact ⟨split y, by rw [h, split_append_crlf, split_join hne hun]⟩

end Lines
end SpeechWire
