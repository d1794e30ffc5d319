/-
# Reading a reply

`Line.parse` reads one line: three bytes of status code, one character of
separator, and the text. `Reply.parse` reads a frame, the bytes of a whole
reply with the last line end included: it takes lines as data as long as they
announce another, and is done at the first that does not. Whatever follows
that line is left unread.

The first failing check decides: the bytes must be text, then close with a
line end; after that the lines are judged in order, each by itself before its
code is held against the first line's.

Key definitions: `Reply.cut?`, `Reply.Line.parse`, `Reply.ofLines`,
`Reply.parse`.
-/
import SpeechWire.Lines
import SpeechWire.Reply.Basic
import SpeechWire.Reply.Malformation

namespace SpeechWire
namespace Reply

/-- Cuts a text after its first `n` bytes. There is no such cut if the text is
shorter, or if a character lies across that place. -/
def cut? : Nat → List Char → Option (List Char × List Char)
  | 0, text => some ([], text)
  | _ + 1, [] => none
  | n + 1, c :: text =>
    if c.utf8Size ≤ n + 1 then
      (cut? (n + 1 - c.utf8Size) text).map fun (front, back) => (c :: front, back)
    else none

/-- Reads what follows the code: the separator and the text of `line`. -/
def Line.afterCode (line : String) (code : Nat) : List Char → Except Malformation Line
  | [] => .error (.badSeparator line)
  | c :: text =>
    match Separator.ofChar? c with
    | none => .error (.badSeparator line)
    | some separator => .ok ⟨code, separator, String.ofList text⟩

/-- Reads one line of a reply, without its line end. -/
def Line.parse (line : String) : Except Malformation Line :=
  if line.utf8ByteSize ≤ codeWidth then .error (.shortLine line)
  else
    match cut? codeWidth line.toList with
    | none => .error (.badCode line)
    | some (code, rest) =>
      if !code.all Char.isAlphanum then .error (.badCode line)
      else if !code.all Char.isDigit then .error (.wordCode (String.ofList code))
      else Line.afterCode line (Nat.ofDigitChars 10 code 0) rest

/-- Reads the lines of a reply; `expected` is the code of the lines read so
far, `data` their texts, newest first. -/
def ofLines (expected : Option Nat) (data : List String) :
    List (List Char) → Except Malformation Reply
  | [] => .error .noFinalLine
  | raw :: rest =>
    match Line.parse (String.ofList raw) with
    | .error why => .error why
    | .ok line =>
      match expected.filter (· != line.code) with
      | some code => .error (.codeChanged code line.code)
      | none =>
        match line.separator with
        | .continuation => ofLines (some line.code) (line.text :: data) rest
        | .final => .ok ⟨line.code, line.text, data.reverse⟩

/-- Reads the bytes of a whole reply. -/
def parse (frame : List UInt8) : Except Malformation Reply :=
  match Utf8.decode frame with
  | .error flaw => .error (.notText flaw)
  | .ok text =>
    match Lines.body? text.toList with
    | none => .error .unterminated
    | some body => ofLines none [] (Lines.split body)

end Reply
end SpeechWire
