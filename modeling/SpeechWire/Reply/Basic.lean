/-
# Replies

A reply is one or more lines with the same status code. Every line but the
last carries a hyphen after the code and holds one piece of data; the last
carries a space and holds the message. Of the code only its class, the
hundreds, is ever looked at: class 2 is success.

Key definitions: `Separator`, `StatusClass`, `Reply.Line`, `Reply`.
-/
import SpeechWire.Version

namespace SpeechWire

/-- What stands between the status code and the text of a line. -/
inductive Separator where
  /-- More lines follow. -/
  | continuation
  /-- This is the last line. -/
  | final
deriving Repr, DecidableEq

namespace Separator

/-- The separator as it is written. -/
def toChar : Separator → Char
  | .continuation => '-'
  | .final => ' '

/-- The separator that is written so. -/
def ofChar? (c : Char) : Option Separator :=
  if c = '-' then some .continuation else if c = ' ' then some .final else none

theorem ofChar?_eq_some_iff {c : Char} {s : Separator} : ofChar? c = some s ↔ c = s.toChar := by
  unfold ofChar?
  split
  · subst c; cases s <;> decide
  · split
    · subst c; cases s <;> decide
    · cases s <;> simp_all [toChar]

end Separator

/-- The hundreds of a status code. -/
structure StatusClass where
  hundreds : Nat
deriving Repr, DecidableEq

namespace StatusClass

/-- The class of a status code. -/
def ofCode (code : Nat) : StatusClass := ⟨code / 100⟩

/-- Whether the class tells of success. -/
def isSuccess (c : StatusClass) : Bool := c.hundreds == 2

theorem isSuccess_ofCode_iff {code : Nat} :
    (ofCode code).isSuccess = true ↔ 200 ≤ code ∧ code ≤ 299 := by
  simp only [isSuccess, ofCode, beq_iff_eq]
  omega

end StatusClass

/-- One line of a reply, without its line end. -/
structure Reply.Line where
  code : Nat
  separator : Separator
  text : String
deriving Repr, DecidableEq

/-- Whether no line follows this one. -/
def Reply.Line.isFinal (line : Reply.Line) : Bool := line.separator == .final

/-- A whole reply: the code all its lines carry, the text of the last line,
and the texts of the lines before it. -/
structure Reply where
  code : Nat
  message : String
  data : List String
deriving Repr, DecidableEq

namespace Reply

/-- The class of the reply's code. -/
def statusClass (reply : Reply) : StatusClass := .ofCode reply.code

/-- Whether the reply tells of success. -/
def isSuccess (reply : Reply) : Bool := reply.statusClass.isSuccess

end Reply
end SpeechWire
