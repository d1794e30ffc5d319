/-
# Writing a reply

The server's side of the format: each line is the code in three digits, the
separator, the text and a line end, data lines first and the message last.

Key definitions: `Reply.threeDigits`, `Reply.Line.render`, `Reply.lines`,
`Reply.render`.
-/
import SpeechWire.Lines
import SpeechWire.Reply.Basic
import SpeechWire.Text.Utf8

namespace SpeechWire
namespace Reply

/-- A number below 1000 in three decimal digits. -/
def threeDigits (n : Nat) : List Char :=
  [(n / 100).digitChar, (n / 10 % 10).digitChar, (n % 10).digitChar]

/-- A line without its line end. -/
def Line.render (line : Line) : List Char :=
  threeDigits line.code ++ line.separator.toChar :: line.text.toList

/-- The lines of a reply in order. -/
def lines (reply : Reply) : List Line :=
  reply.data.map (⟨reply.code, .continuation, ·⟩) ++ [⟨reply.code, .final, reply.message⟩]

/-- The bytes of the whole reply. -/
def render (reply : Reply) : List UInt8 :=
  Utf8.encode (String.ofList (reply.lines.flatMap fun line => line.render ++ Lines.crlf))

end Reply
end SpeechWire
