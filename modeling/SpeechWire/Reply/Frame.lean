/-
# Where the bytes of a reply end

A frame is the bytes of one whole reply. Bytes are complete when they close
with a line end and the line it ends does not announce another, which shows
in its fourth byte alone: a hyphen there means more to come. A line too short
for a fourth byte, or with any other byte there, completes the frame too, so
that reading fails on it instead of waiting for bytes that never come.

Bytes arrive at the end, so completeness is decided from there
(`endsFrame`), and `Buffer` keeps the newest byte in front.

Key definitions: `Frame.isComplete`, `Frame.IsFirst`, `Frame.Buffer`.
Key theorems: `Frame.Buffer.toList_append`, `Frame.Buffer.isComplete_eq`.
-/
import SpeechWire.Lines
import SpeechWire.Reply.Basic

namespace SpeechWire
namespace Frame

/-- The byte that announces another line. -/
def hyphen : UInt8 := 0x2d

/-- Whether bytes given newest first are a complete frame. -/
def endsFrame : List UInt8 → Bool
  | last :: secondLast :: older =>
    last == Newline.lf && secondLast == Newline.cr &&
      (Lines.latest [] older)[codeWidth]? != some hyphen
  | _ => false

/-- Whether the bytes are a complete frame. -/
def isComplete (bytes : List UInt8) : Bool := endsFrame bytes.reverse

/-- The lengths at which the bytes could be cut off as a complete frame. -/
def completePrefixes (bytes : List UInt8) : List Nat :=
  (List.range (bytes.length + 1)).filter fun n => isComplete (bytes.take n)

/-- Complete, and complete nowhere before the end. -/
def IsFirst (bytes : List UInt8) : Prop := completePrefixes bytes = [bytes.length]

instance (bytes : List UInt8) : Decidable (IsFirst bytes) := inferInstanceAs (Decidable (_ = _))

/-! ### The bytes of a frame in progress -/

/-- The bytes received so far, newest first, and how many they are. -/
structure Buffer where
  newestFirst : List UInt8 := []
  size : Nat := 0
  size_eq : size = newestFirst.length := by rfl

namespace Buffer

/-- Nothing received. -/
def empty : Buffer := {}

/-- The bytes in the order they came. -/
def toList (buffer : Buffer) : List UInt8 := buffer.newestFirst.reverse

/-- The bytes of one more read. -/
def append (buffer : Buffer) (bytes : List UInt8) : Buffer where
  newestFirst := bytes.reverseAux buffer.newestFirst
  size := buffer.size + bytes.length
  size_eq := by simp [List.reverseAux_eq, buffer.size_eq, Nat.add_comm]

/-- Whether the buffer holds a complete frame. -/
def isComplete (buffer : Buffer) : Bool := endsFrame buffer.newestFirst

@[simp] theorem toList_empty : empty.toList = [] := rfl

@[simp] theorem toList_append (buffer : Buffer) (bytes : List UInt8) :
    (buffer.append bytes).toList = buffer.toList ++ bytes := by
  simp [toList, append, List.reverseAux_eq]

theorem size_eq_length (buffer : Buffer) : buffer.size = buffer.toList.length := by
  simp [toList, buffer.size_eq]

/-- The buffer decides as its bytes do. -/
theorem isComplete_eq (buffer : Buffer) : buffer.isComplete = Frame.isComplete buffer.toList := by
  simp [isComplete, Frame.isComplete, toList]

end Buffer
end Frame
end SpeechWire
