/-
# White space

The characters with the property White_Space, 25 in all. A name that is to
be one word of a line must hold none of them.

Key definitions: `Blank.ranges`, `isBlank`.
Key theorems: `isBlank_iff`.
-/
import SpeechWire.Text.Ranges

namespace SpeechWire

/-- The code points with the property White_Space. -/
def Blank.ranges : Ranges where
  list := [
    (0x9, 0xd), (0x20, 0x20), (0x85, 0x85), (0xa0, 0xa0), (0x1680, 0x1680), (0x2000, 0x200a),
    (0x2028, 0x2029), (0x202f, 0x202f), (0x205f, 0x205f), (0x3000, 0x3000)]

/-- Whether the character is white space. -/
def isBlank (c : Char) : Bool := Blank.ranges.covers c

theorem isBlank_iff (c : Char) :
    isBlank c = true ↔ ∃ r ∈ Blank.ranges.list, r.1 ≤ c.toNat ∧ c.toNat ≤ r.2 :=
  Blank.ranges.covers_eq_true_iff c

end SpeechWire
