/-
# Requests

What a client sends in one go: a command line or a data block. `Receiver` is
the other end: knowing only which kinds come in which order, it takes a
command up to the first line end and a block up to the first end of data.

Key definitions: `Request`, `Request.wire`, `Receiver.split?`.
-/
import SpeechWire.Block
import SpeechWire.Command
import SpeechWire.Reply.Verdict

namespace SpeechWire

/-- One thing to send. -/
inductive Request where
  | command (c : Command)
  | data (payload : String)
deriving Repr, DecidableEq

namespace Request

/-- The bytes of the request. -/
def wire : Request → List UInt8
  | .command c => Utf8.encode c.encode
  | .data payload => Block.encode payload

/-- The request as a refusal of it reports it. -/
def origin : Request → Origin
  | .command c => .command c.encode
  | .data payload => .data (Block.escape payload)

end Request

/-! ### The receiving end -/

namespace Receiver

/-- The kinds of request. -/
inductive Kind where
  | command
  | data
deriving Repr, DecidableEq

/-- The bytes that close a request of this kind. -/
def Kind.closing : Kind → List UInt8
  | .command => Utf8.encode newline
  | .data => Utf8.encode Block.endOfData

/-- Cuts a stream at the first place where `mark` stands: what comes before
the mark and what comes after it. -/
def cutAt? (mark : List UInt8) : List UInt8 → Option (List UInt8 × List UInt8)
  | [] => if mark = [] then some ([], []) else none
  | byte :: rest =>
    if mark <+: byte :: rest then some ([], (byte :: rest).drop mark.length)
    else (cutAt? mark rest).map fun (before, after) => (byte :: before, after)

/-- Takes requests of the given kinds off a stream: their bytes without the
closing marks, and what is left of the stream. -/
def split? : List Kind → List UInt8 → Option (List (List UInt8) × List UInt8)
  | [], stream => some ([], stream)
  | kind :: kinds, stream =>
    match cutAt? kind.closing stream with
    | none => none
    | some (content, rest) =>
      (split? kinds rest).map fun (contents, left) => (content :: contents, left)

end Receiver
end SpeechWire
