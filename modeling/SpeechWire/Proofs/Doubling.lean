/-
# What escaping does to a payload, and what it forgets

Told in lines, escaping is one pass: the line at each place is sent by itself
(`asSent`), which doubles a dot alone everywhere but at the first place, and
the sent lines are joined again (`escape_eq_join_mapIdx`). So it adds one
character for each line that it doubles and nothing else.

A doubled dot is sent like a dot that the payload had doubled itself. Escaping
is therefore a normal form: what is escaped stays as it is, and two payloads
come to the same where their lines differ only in that (`SentAlike`).

Key definitions: `Block.asSent`, `Block.SentAlike`.
Key theorems: `Block.escape_eq_join_mapIdx`, `Block.escape_eq_iff`,
`Block.escape_normalizes`.
-/
import SpeechWire.Proofs.Escaping

namespace SpeechWire
namespace Block

open Lines

/-- The line at place `i` as it is sent: a dot alone is doubled, but not on the
first line. -/
def asSent (i : Nat) (line : List Char) : List Char :=
  if 1 ≤ i ∧ line = ['.'] then ['.', '.'] else line

/-- Whether two lines at place `i` are told apart no more once they are sent:
they are the same, or past the first place one is a dot alone and the other
is that dot doubled. -/
def SentAlike (i : Nat) (x y : List Char) : Prop :=
  x = y ∨ 1 ≤ i ∧ (x = ['.'] ∧ y = ['.', '.'] ∨ x = ['.', '.'] ∧ y = ['.'])

instance (i : Nat) (x y : List Char) : Decidable (SentAlike i x y) :=
  inferInstanceAs (Decidable (_ ∨ _))

/-! ### One line -/

theorem asSent_zero (line : List Char) : asSent 0 line = line := if_neg (by simp)

theorem asSent_succ (i : Nat) (line : List Char) : asSent (i + 1) line = double line := by
  simp [asSent, double]

theorem asSent_asSent (i : Nat) (line : List Char) : asSent i (asSent i line) = asSent i line := by
  unfold asSent
  split
  · rw [if_neg (by simp)]
  · rfl

theorem asSent_eq_asSent_iff (i : Nat) (x y : List Char) :
    asSent i x = asSent i y ↔ SentAlike i x y := by
  unfold asSent SentAlike
  by_cases hi : 1 ≤ i
  · by_cases hx : x = ['.'] <;> by_cases hy : y = ['.'] <;> simp [hi, hx, hy, eq_comm]
  · simp [hi]

example : SentAlike 1 ['.'] ['.', '.'] ∧ ¬ SentAlike 0 ['.'] ['.', '.'] := by decide

/-! ### All lines -/

theorem doubleLater_eq_mapIdx (lines : List (List Char)) : doubleLater lines = lines.mapIdx asSent := by
  cases lines with
  | nil => rfl
  | cons first later =>
    have hlater : later.mapIdx (fun i => asSent (i + 1)) = later.map double := by
      apply List.ext_getElem
      · simp
      · intro i _ _
        simp [asSent_succ]
    rw [List.mapIdx_cons, asSent_zero, hlater, doubleLater]

/-- Each dot alone that is doubled makes its line one longer. -/
theorem length_flatten_map_double (lines : List (List Char)) :
    (lines.map double).flatten.length = lines.flatten.length + lines.count ['.'] := by
  induction lines with
  | nil => rfl
  | cons line lines ih =>
    simp only [List.map_cons, List.flatten_cons, List.length_append, ih, List.count_cons]
    by_cases h : line = ['.']
    · subst h
      simp only [double, if_true, List.length_cons, List.length_nil, beq_self_eq_true]
      omega
    · simp only [double_of_ne h, beq_iff_eq, h, if_false]
      omega

theorem length_join_doubleLater (lines : List (List Char)) :
    (join (doubleLater lines)).length = (join lines).length + lines.tail.count ['.'] := by
  cases lines with
  | nil => rfl
  | cons first later =>
    have hlater := length_flatten_map_double later
    simp only [doubleLater, length_join, List.flatten_cons, List.length_append, List.length_cons,
      List.length_map, List.tail_cons]
    omega

/-- Doubling leaves lines as they are if none after the first is a dot alone. -/
theorem doubleLater_eq_self_iff (lines : List (List Char)) :
    doubleLater lines = lines ↔ ['.'] ∉ lines.tail := by
  cases lines with
  | nil => simp [doubleLater]
  | cons first later =>
    rw [doubleLater, List.cons.injEq, List.tail_cons]
    constructor
    · rintro ⟨-, hsame⟩
      rw [← hsame]
      exact dot_not_mem_map_double later
    · exact fun h => ⟨rfl, map_double_of_not_mem h⟩

/-! ### The payload -/

/-- **Escaping is one pass over the lines.** The escaped payload is joined from
the lines of the payload, each as it is sent at its place; these are its
lines, as many as before, and it is longer by one character for each dot
alone on a line after the first. -/
theorem escape_eq_join_mapIdx (payload : String) :
    (escape payload).toList = join ((split payload.toList).mapIdx asSent) ∧
      split (escape payload).toList = (split payload.toList).mapIdx asSent ∧
      (escape payload).length = payload.length + (split payload.toList).tail.count ['.'] := by
  have hsplit := split_escape payload
  have hjoin : (escape payload).toList = join (doubleLater (split payload.toList)) := by
    rw [← hsplit, join_split]
  refine ⟨?_, ?_, ?_⟩
  · rw [hjoin, doubleLater_eq_mapIdx]
  · rw [hsplit, doubleLater_eq_mapIdx]
  · rw [← String.length_toList, hjoin, length_join_doubleLater, join_split, String.length_toList]

theorem escape_eq_iff (payload text : String) :
    escape payload = text ↔ (split payload.toList).mapIdx asSent = split text.toList := by
  rw [← String.toList_inj, ← split_inj, split_escape, doubleLater_eq_mapIdx]

theorem escape_escape (payload : String) : escape (escape payload) = escape payload := by
  rw [escape_eq_iff, split_escape, doubleLater_eq_mapIdx, List.mapIdx_mapIdx]
  have hline : (fun i => asSent i ∘ asSent i) = asSent := by
    funext i line
    exact asSent_asSent i line
  rw [hline]

/-- A payload is sent as it is if no line of it after the first is a dot alone. -/
theorem escape_eq_self_iff (payload : String) :
    escape payload = payload ↔ ['.'] ∉ (split payload.toList).tail := by
  rw [escape_eq_iff, ← doubleLater_eq_mapIdx, doubleLater_eq_self_iff]

theorem escape_eq_escape_iff (p q : String) : escape p = escape q ↔
    (split p.toList).length = (split q.toList).length ∧
      ∀ (i : Nat) (hp : i < (split p.toList).length) (hq : i < (split q.toList).length),
        SentAlike i (split p.toList)[i] (split q.toList)[i] := by
  rw [escape_eq_iff, split_escape, doubleLater_eq_mapIdx, List.ext_getElem_iff]
  simp only [List.length_mapIdx, List.getElem_mapIdx, asSent_eq_asSent_iff]

/-- **Escaping is a normal form.** What is escaped stays as it is; left as they
are from the first are the payloads that neither hold the end of data nor
close with a dot alone on a line after the first; and two payloads are sent
as the same exactly if they have as many lines and these are the same, but
for a dot alone in the one where the other has it doubled, on a line after
the first. -/
theorem escape_normalizes (p q : String) :
    escape (escape p) = escape p ∧
    (escape p = p ↔ ¬ endOfData.toList <:+: p.toList ∧ ¬ crlf ++ ['.'] <:+ p.toList) ∧
    (escape p = escape q ↔ (split p.toList).length = (split q.toList).length ∧
      ∀ (i : Nat) (hp : i < (split p.toList).length) (hq : i < (split q.toList).length),
        SentAlike i (split p.toList)[i] (split q.toList)[i]) := by
  refine ⟨escape_escape p, ?_, escape_eq_escape_iff p q⟩
  rw [escape_eq_self_iff, dot_mem_tail_iff, not_or, toList_endOfData]
  rfl

end Block
end SpeechWire
