/-
# Quoted text

How a message shows a piece of foreign text: between double quotes, with a
backslash form for what would not be seen or would be misread. Five
characters and NUL have short forms (`shortForm?`); a character that extends
its neighbour or leaves no mark is written as its code point in lower-case
hexadecimal; all else stands for itself.

Key definitions: `Quoted.shortForm?`, `Quoted.char`, `quoted`.
-/
import SpeechWire.Text.Extender
import SpeechWire.Text.Unprintable

namespace SpeechWire
namespace Quoted

/-- The letter after the backslash, for the characters that have a short form. -/
def shortForm? : Char → Option Char
  | '\x00' => some '0'
  | '\t' => some 't'
  | '\n' => some 'n'
  | '\r' => some 'r'
  | '"' => some '"'
  | '\\' => some '\\'
  | _ => none

/-- The code point between braces. -/
def codePoint (c : Char) : List Char :=
  '\\' :: 'u' :: '\x7b' :: Nat.toDigits 16 c.toNat ++ ['\x7d']

/-- One character as it is shown between quotes. -/
def char (c : Char) : List Char :=
  match shortForm? c with
  | some letter => ['\\', letter]
  | none => if isExtender c || isUnprintable c then codePoint c else [c]

end Quoted

/-- The text between quotes. -/
def quoted (text : String) : String :=
  String.ofList ('"' :: text.toList.flatMap Quoted.char ++ ['"'])

end SpeechWire
