/-
# Sets of characters given by ranges

A property of characters that comes from a standard is a table: ranges of
code points, both ends included, none empty, each after the one before it.
Because the ranges ascend, a code point below a range is in no later one
either, and the look-up stops there (`covers_eq_true_iff`).

Key definitions: `Ranges`, `Ranges.covers`.
Key theorems: `Ranges.covers_eq_true_iff`.
-/
namespace SpeechWire

/-- Whether the ranges are in order, the first starting at `bound` or later. -/
def Ranges.ascend (bound : Nat) : List (Nat × Nat) → Bool
  | [] => true
  | (first, last) :: rest => bound ≤ first && first ≤ last && ascend (last + 1) rest

/-- Ranges of code points in order, both ends included. -/
structure Ranges where
  list : List (Nat × Nat)
  ascending : Ranges.ascend 0 list = true := by decide +kernel

namespace Ranges

/-- Whether one of the ascending ranges holds `n`. -/
def search (n : Nat) : List (Nat × Nat) → Bool
  | [] => false
  | (first, last) :: rest => if n < first then false else n ≤ last || search n rest

/-- Whether the character is in the set. -/
def covers (ranges : Ranges) (c : Char) : Bool := search c.toNat ranges.list

/-- No range starts below the bound. -/
theorem le_of_ascend : ∀ {bound : Nat} {ranges : List (Nat × Nat)}, ascend bound ranges = true →
    ∀ r ∈ ranges, bound ≤ r.1
  | _, [], _, _, hr => by cases hr
  | bound, (first, last) :: rest, h, r, hr => by
    simp only [ascend, Bool.and_eq_true, decide_eq_true_eq] at h
    rcases List.mem_cons.1 hr with rfl | hr
    · exact h.1.1
    · have := le_of_ascend h.2 r hr
      omega

/-- Over ascending ranges the look-up misses nothing by stopping early. -/
theorem search_eq_true_iff {n : Nat} : ∀ {bound : Nat} {ranges : List (Nat × Nat)},
    ascend bound ranges = true → (search n ranges = true ↔ ∃ r ∈ ranges, r.1 ≤ n ∧ n ≤ r.2)
  | _, [], _ => by simp [search]
  | bound, (first, last) :: rest, h => by
    simp only [ascend, Bool.and_eq_true, decide_eq_true_eq] at h
    have hrest := search_eq_true_iff (n := n) h.2
    rw [search]
    by_cases hn : n < first
    · rw [if_pos hn]
      refine ⟨fun hf => absurd hf Bool.false_ne_true, ?_⟩
      rintro ⟨r, hr, hle, -⟩
      rcases List.mem_cons.1 hr with rfl | hr
      · exact absurd hle (Nat.not_le.2 hn)
      · have := le_of_ascend h.2 r hr
        omega
    · rw [if_neg hn, Bool.or_eq_true, decide_eq_true_eq, hrest]
      constructor
      · rintro (hl | ⟨r, hr, h⟩)
        · exact ⟨(first, last), List.mem_cons_self, Nat.not_lt.1 hn, hl⟩
        · exact ⟨r, List.mem_cons_of_mem _ hr, h⟩
      · rintro ⟨r, hr, h⟩
        rcases List.mem_cons.1 hr with rfl | hr
        · exact .inl h.2
        · exact .inr ⟨r, hr, h⟩

/-- The look-up finds what the ranges hold. -/
theorem covers_eq_true_iff (ranges : Ranges) (c : Char) :
    ranges.covers c = true ↔ ∃ r ∈ ranges.list, r.1 ≤ c.toNat ∧ c.toNat ≤ r.2 :=
  search_eq_true_iff ranges.ascending

end Ranges
end SpeechWire
