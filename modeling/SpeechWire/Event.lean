/-
# Events for the log

What happens in an exchange is recorded as events, in order. An event holds
what it reports; its level and its words follow from it.

Key definitions: `Event`, `Event.level`, `Event.text`.
-/
import SpeechWire.Fault

namespace SpeechWire

/-- How much an event matters. -/
inductive Event.Level where
  | trace
  | debug
  | warn
deriving Repr, DecidableEq

/-- Something that happened in an exchange. -/
inductive Event where
  /-- A command is about to be written; `text` has no line end. -/
  | sendingCommand (text : String)
  /-- A block of so many bytes is about to be written. -/
  | sendingBlock (size : Nat)
  /-- The transport ended with so many bytes of a frame received. -/
  | endedInFrame (size : Nat)
  /-- A frame of so many bytes is whole. -/
  | frameReceived (size : Nat)
  /-- A frame was read as a reply. -/
  | replyReceived (code : Nat) (message : String)
  /-- A frame is no reply. -/
  | malformedReply (why : Malformation)
  /-- The server refused a command. -/
  | commandRejected (text : String) (fault : Fault)
  /-- The server refused a block. -/
  | blockRejected (fault : Fault)
  /-- A connection introduced itself. -/
  | opened (identity : String)
  /-- A connection was closed. -/
  | closed (identity : String)
deriving Repr, DecidableEq

namespace Event

/-- How much the event matters. -/
def level : Event → Level
  | .sendingCommand _ | .sendingBlock _ | .frameReceived _ | .replyReceived _ _ => .trace
  | .endedInFrame _ | .commandRejected _ _ | .blockRejected _ | .opened _ | .closed _ => .debug
  | .malformedReply _ => .warn

/-- The event in words. -/
def text : Event → String
  | .sendingCommand text => "Sending command: " ++ text
  | .sendingBlock size => s!"Sending data block of {size} bytes"
  | .endedInFrame size => s!"Transport closed with {size} bytes of partial frame"
  | .frameReceived size => s!"Received frame of {size} bytes"
  | .replyReceived code message => s!"Received response: {code} {message}"
  | .malformedReply why => "Malformed response from server: " ++ why.reason
  | .commandRejected text fault => "Command " ++ text ++ " rejected: " ++ fault.message
  | .blockRejected fault => "Data block rejected: " ++ fault.message
  | .opened identity => "Connection opened as " ++ identity
  | .closed identity => "Connection " ++ identity ++ " closed"

end Event
end SpeechWire
