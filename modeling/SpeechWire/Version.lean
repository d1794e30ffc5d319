/-
# The version of the library and the marks of its protocol

What both ends of a conversation rely on: how a line ends, how a data block
ends and what a payload's own end of data is sent as, and how many digits a
reply's code has.

Key definitions: `version`, `newline`, `Block.endOfData`,
`Block.endOfDataEscaped`, `codeWidth`.
-/
import SpeechWire.Lines

namespace SpeechWire

/-- The version of the library. -/
def version : String := "0.1.0"

/-- The line end as text. -/
def newline : String := String.ofList Lines.crlf

/-- The end of a block. -/
def Block.endOfData : String := "\r\n.\r\n"

/-- What a payload's own end of data is sent as. -/
def Block.endOfDataEscaped : String := "\r\n..\r\n"

/-- How many digits a code has. -/
def codeWidth : Nat := 3

theorem newline_eq : newline = "\r\n" := by decide

end SpeechWire
