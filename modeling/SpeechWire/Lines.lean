/-
# Lines that end in CRLF

Everything on the wire is cut into lines by the pair CR LF; a CR or an LF
alone is ordinary text. Framing cuts bytes and parsing cuts characters, so
lines are taken over any alphabet with the two marks (`Newline`).

`split` reads from the right: two CRLFs never overlap, so each CR that stands
before an LF ends a line, whichever end the reading starts from
(`split_line_append` is the reading from the left).

Key definitions: `Newline`, `Lines.split`, `Lines.join`, `Lines.body?`,
`Lines.latest`.
Key theorems: `Lines.split_append_crlf`, `Lines.split_line_append`,
`Lines.join_split`, `Lines.latest_reverse`.
-/
namespace SpeechWire

/-- An alphabet that has the two marks of a line end. -/
class Newline (α : Type) where
  cr : α
  lf : α
  cr_ne_lf : cr ≠ lf

instance : Newline Char := ⟨'\r', '\n', by decide⟩

instance : Newline UInt8 := ⟨13, 10, by decide⟩

namespace Lines

open Newline

variable {α : Type} [Newline α]

/-- The end of a line. -/
def crlf : List α := [cr, lf]

/-- Holds no line end. -/
def Unbroken (units : List α) : Prop := ¬ crlf <:+: units

instance [DecidableEq α] (units : List α) : Decidable (Unbroken units) :=
  inferInstanceAs (Decidable (¬ _))

/-- The lines, with a line end between neighbours. -/
def join (lines : List (List α)) : List α := crlf.intercalate lines

theorem unbroken_tail {a : α} {units : List α} (h : Unbroken (a :: units)) : Unbroken units :=
  fun hc => h (hc.trans (List.suffix_cons a units).isInfix)

theorem join_cons (line : List α) {lines : List (List α)} (h : lines ≠ []) :
    join (line :: lines) = line ++ crlf ++ join lines := by
  cases lines with
  | nil => exact absurd rfl h
  | cons l ls => simp [join, List.intercalate, List.intersperse]

variable [DecidableEq α]

/-- Sets one unit before lines already split: it joins the first of them, but
a CR before an LF takes that LF away and opens a line of its own. -/
def place (a : α) : List (List α) → List (List α)
  | [] => [[a]]
  | [] :: lines => [a] :: lines
  | (b :: line) :: lines =>
    if a = cr ∧ b = lf then [] :: line :: lines else (a :: b :: line) :: lines

/-- The lines of a text, the line ends between them left out. -/
def split (units : List α) : List (List α) := units.foldr place [[]]

/-- What stands before the line end that closes the text, if one does. -/
def body? (units : List α) : Option (List α) :=
  if crlf <:+ units then some (units.take (units.length - 2)) else none

/-- The last line of a text that is given newest unit first; `line` is what of
it has been read already. -/
def latest (line : List α) : List α → List α
  | [] => line
  | a :: older =>
    if a = lf ∧ older.head? = some cr then line else latest (a :: line) older

/-! ### Reading from the left -/

@[simp] theorem split_nil : split ([] : List α) = [[]] := rfl

@[simp] theorem split_cons (a : α) (units : List α) : split (a :: units) = place a (split units) :=
  rfl

theorem place_ne_nil (a : α) (lines : List (List α)) : place a lines ≠ [] := by
  unfold place
  split
  · simp
  · simp
  · split <;> simp

theorem split_ne_nil : ∀ units : List α, split units ≠ []
  | [] => by simp
  | a :: units => place_ne_nil a (split units)

theorem split_crlf_append (rest : List α) : split (crlf ++ rest) = [] :: split rest := by
  show place cr (place lf (split rest)) = _
  cases h : split rest with
  | nil => exact absurd h (split_ne_nil rest)
  | cons line lines => cases line <;> simp [place, (cr_ne_lf (α := α)).symm]

theorem place_append (a : α) {lines : List (List α)} (h : lines ≠ []) (more : List (List α)) :
    place a (lines ++ more) = place a lines ++ more := by
  cases lines with
  | nil => exact absurd rfl h
  | cons line lines =>
    cases line with
    | nil => rfl
    | cons b line =>
      rw [List.cons_append, place, place]
      split <;> rfl

/-- A line end parts a text: the lines before it and the lines after it are
split by themselves. -/
theorem split_append_crlf (units rest : List α) :
    split (units ++ crlf ++ rest) = split units ++ split rest := by
  induction units with
  | nil => exact split_crlf_append rest
  | cons a units ih =>
    rw [List.cons_append, List.cons_append, split_cons, ih,
      place_append a (split_ne_nil units), split_cons]

/-- A text without a line end is one line. -/
theorem split_of_unbroken (line : List α) (h : Unbroken line) : split line = [line] := by
  induction line with
  | nil => rfl
  | cons a line ih =>
    rw [split_cons, ih (unbroken_tail h)]
    cases line with
    | nil => rfl
    | cons b line =>
      have hab : ¬ (a = cr ∧ b = lf) := by
        rintro ⟨rfl, rfl⟩
        exact h ⟨[], line, rfl⟩
      simp [place, hab]

/-- A line end first closes the line before it. -/
theorem split_line_append (line rest : List α) (h : Unbroken line) :
    split (line ++ crlf ++ rest) = line :: split rest := by
  rw [split_append_crlf, split_of_unbroken line h, List.singleton_append]

theorem join_place (a : α) (lines : List (List α)) : join (place a lines) = a :: join lines := by
  cases lines with
  | nil => simp [place, join, List.intercalate, List.intersperse]
  | cons line lines =>
    cases line with
    | nil =>
      cases lines with
      | nil => simp [place, join, List.intercalate, List.intersperse]
      | cons l ls => simp [place, join, List.intercalate, List.intersperse]
    | cons b line =>
      by_cases hab : a = cr ∧ b = lf
      · obtain ⟨rfl, rfl⟩ := hab
        cases lines <;> simp [place, join, crlf, List.intercalate, List.intersperse]
      · cases lines <;> simp [place, hab, join, List.intercalate, List.intersperse]

/-- Splitting loses nothing but the line ends that joining puts back. -/
theorem join_split : ∀ units : List α, join (split units) = units
  | [] => by simp [join, List.intercalate]
  | a :: units => by rw [split_cons, join_place, join_split units]

/-! ### Reading from the right -/

/-- A text is one line, or some text, a line end and one line. -/
theorem unbroken_or_append (units : List α) :
    Unbroken units ∨ ∃ front line, Unbroken line ∧ units = front ++ crlf ++ line := by
  induction units with
  | nil => exact .inl (by simp [Unbroken, crlf])
  | cons a units ih =>
    rcases ih with h | ⟨front, line, hl, rfl⟩
    · by_cases hc : crlf <+: a :: units
      · obtain ⟨line, hline⟩ := hc
        refine .inr ⟨[], line, fun hi => h ?_, hline.symm⟩
        have e : lf :: line = units := (List.cons.inj hline).2
        exact e ▸ hi.trans (List.suffix_cons lf line).isInfix
      · exact .inl fun hi => (List.infix_cons_iff.1 hi).elim hc h
    · exact .inr ⟨a :: front, line, hl, rfl⟩

/-- Reading back over a line comes to a stop at the line end before it. -/
theorem latest_append (line back : List α) (older : List α) (h : Unbroken back.reverse)
    (hold : older = [] ∨ ∃ rest, older = lf :: cr :: rest) :
    latest line (back ++ older) = back.reverse ++ line := by
  induction back generalizing line with
  | nil =>
    rcases hold with rfl | ⟨rest, rfl⟩
    · rfl
    · simp [latest]
  | cons a back ih =>
    have hback : Unbroken back.reverse := fun hi =>
      h (hi.trans (by rw [List.reverse_cons]; exact (List.prefix_append _ _).isInfix))
    have hstop : ¬ (a = lf ∧ (back ++ older).head? = some cr) := by
      rintro ⟨rfl, hcr⟩
      cases back with
      | nil =>
        rcases hold with rfl | ⟨rest, rfl⟩
        · cases hcr
        · exact cr_ne_lf (Option.some.inj hcr).symm
      | cons b back =>
        obtain rfl : b = cr := Option.some.inj hcr
        refine h ⟨back.reverse, [], ?_⟩
        simp [crlf]
    rw [List.cons_append, latest, if_neg hstop, ih (a :: line) hback, List.reverse_cons,
      List.append_assoc, List.singleton_append]

/-- The last line read from the right is the last one read from the left. -/
theorem latest_reverse (units : List α) :
    latest [] units.reverse = (split units).getLast (split_ne_nil units) := by
  rcases unbroken_or_append units with h | ⟨front, line, h, rfl⟩
  · have e := latest_append [] units.reverse [] (by rwa [List.reverse_reverse]) (.inl rfl)
    simp only [List.append_nil, List.reverse_reverse] at e
    simp [e, split_of_unbroken units h]
  · have hrev : (front ++ crlf ++ line).reverse = line.reverse ++ lf :: cr :: front.reverse := by
      simp [crlf]
    have hlast : (split (front ++ crlf ++ line)).getLast (split_ne_nil _) = line := by
      simp only [split_append_crlf, split_of_unbroken line h]
      exact List.getLast_concat
    rw [hrev, hlast, latest_append [] _ _ (by rwa [List.reverse_reverse]) (.inr ⟨_, rfl⟩),
      List.reverse_reverse, List.append_nil]

end Lines
end SpeechWire
