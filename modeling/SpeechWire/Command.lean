/-
# Command lines

A command is a verb and its arguments in order, one space before each, and a
line end after the last. Nothing is quoted, so an argument with a line end in
it would be read as two lines. `text` is the command as a log shows it,
without the line end; `encode` is the line as it is sent.

Key definitions: `Argument`, `Command`, `Command.text`, `Command.encode`,
`encodeCommand`.
Key theorems: `Command.encode_eq`.
-/
import SpeechWire.Version

namespace SpeechWire

/-- A value that can stand as an argument. -/
inductive Argument where
  | word (text : String)
  | number (value : Int)
  | flag (value : Bool)

/-- The argument as it stands on the line: text as it is, a number in plain
decimal, a flag as `true` or `false`. -/
def Argument.text : Argument → String
  | .word text => text
  | .number (.ofNat n) => n.repr
  | .number (.negSucc n) => "-" ++ (n + 1).repr
  | .flag true => "true"
  | .flag false => "false"

/-- A verb and its arguments, in the form they are sent in. -/
structure Command where
  verb : String
  arguments : List String := []
deriving Repr, DecidableEq

namespace Command

/-- One argument more. -/
def arg (argument : Argument) (command : Command) : Command :=
  { command with arguments := command.arguments ++ [argument.text] }

/-- Several arguments more, in order. -/
def args (arguments : List Argument) (command : Command) : Command :=
  { command with arguments := command.arguments ++ arguments.map Argument.text }

/-- The words of the command with a space between neighbours. -/
def text (command : Command) : String := " ".intercalate (command.verb :: command.arguments)

/-- The line as it is sent. -/
def encode (command : Command) : String :=
  command.arguments.foldl (fun line argument => line ++ " " ++ argument) command.verb ++ newline

theorem foldl_eq_intercalate (arguments : List String) : ∀ line : String,
    arguments.foldl (fun line argument => line ++ " " ++ argument) line =
      " ".intercalate (line :: arguments) := by
  induction arguments with
  | nil => intro line; simp
  | cons argument arguments ih =>
    intro line
    rw [List.foldl_cons, ih, String.intercalate_cons_append, String.intercalate_cons_cons]

/-- A command is sent as its text and a line end. -/
theorem encode_eq (c : Command) : c.encode = c.text ++ newline := by
  rw [encode, foldl_eq_intercalate, text]

end Command

/-- The line of a verb and its arguments. -/
def encodeCommand (verb : String) (arguments : List Argument) : String :=
  (Command.args arguments ⟨verb, []⟩).encode

end SpeechWire
