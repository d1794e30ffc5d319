/-
# What can be wrong with the bytes of a reply

Each way in which received bytes fail to be a reply, with what the message
about it shows. The texts of offending lines are quoted, since they are
foreign and may hold anything.

Key definitions: `Malformation`, `Malformation.reason`.
-/
import SpeechWire.Text.Quoted
import SpeechWire.Text.Utf8

namespace SpeechWire

/-- Why received bytes are no reply. -/
inductive Malformation where
  /-- A line has no room for a code and a separator. -/
  | shortLine (line : String)
  /-- A line does not start with three letters or digits. -/
  | badCode (line : String)
  /-- The three are not all digits. -/
  | wordCode (code : String)
  /-- Neither a hyphen nor a space follows the code. -/
  | badSeparator (line : String)
  /-- The bytes are no text. -/
  | notText (flaw : Utf8.Flaw)
  /-- The bytes do not close with a line end. -/
  | unterminated
  /-- Two lines carry different codes. -/
  | codeChanged (expected got : Nat)
  /-- Every line announces another one. -/
  | noFinalLine
  /-- More bytes came than a reply may have. -/
  | tooLong (limit : Nat)
deriving Repr, DecidableEq

/-- The cause in words. -/
def Malformation.reason : Malformation → String
  | .shortLine line => "line too short: " ++ quoted line
  | .badCode line => "invalid status code in line: " ++ quoted line
  | .wordCode code => "non-numeric status code: " ++ quoted code
  | .badSeparator line => "invalid separator in line: " ++ quoted line
  | .notText flaw => "response is not UTF-8: " ++ flaw.text
  | .unterminated => "response frame is not terminated by CRLF"
  | .codeChanged expected got =>
    s!"status code changed within one response: expected {expected}, got {got}"
  | .noFinalLine => "response frame has no final line"
  | .tooLong limit => s!"response exceeds {limit} bytes"

end SpeechWire
