/-
# What a reply means for what was sent

A reply of class 2 is passed on; any other is a refusal of the command line
or of the data it answers, and keeps that.

Key definitions: `Origin`, `Reply.classify`.
-/
import SpeechWire.Fault
import SpeechWire.Reply.Basic

namespace SpeechWire

/-- What a reply answers, as it was sent. -/
inductive Origin where
  /-- A command line with its line end. -/
  | command (line : String)
  /-- An escaped payload without the end of data. -/
  | data (escaped : String)
deriving Repr, DecidableEq

/-- The refusal of what was sent. -/
def Origin.rejection (origin : Origin) (code : Nat) (message : String) : Fault :=
  match origin with
  | .command line => .commandRejected code message line
  | .data escaped => .dataRejected code message escaped

/-- The reply if it tells of success, else the refusal it stands for. -/
def Reply.classify (origin : Origin) (reply : Reply) : Except Fault Reply :=
  if reply.isSuccess then .ok reply else .error (origin.rejection reply.code reply.message)

end SpeechWire
