/-
# Faults

Everything that can go wrong in an exchange, as a cause: the transport
failed or was closed, what came was no reply, the server answered with a
refusal, or the settings cannot be used. A refusal keeps what was refused,
in the form it was sent in.

Key definitions: `IoFailure`, `Fault`, `Fault.message`.
-/
import SpeechWire.Reply.Malformation
import SpeechWire.Settings

namespace SpeechWire

/-- The kinds of failure of a byte stream. -/
inductive IoFailure.Kind where
  | notFound | permissionDenied | connectionRefused | connectionReset | hostUnreachable
  | networkUnreachable | connectionAborted | notConnected | addrInUse | addrNotAvailable
  | networkDown | brokenPipe | alreadyExists | wouldBlock | notADirectory | isADirectory
  | directoryNotEmpty | readOnlyFilesystem | staleNetworkFileHandle | invalidInput | invalidData
  | timedOut | writeZero | storageFull | notSeekable | quotaExceeded | fileTooLarge
  | resourceBusy | executableFileBusy | deadlock | crossesDevices | tooManyLinks
  | invalidFilename | argumentListTooLong | interrupted | unsupported | unexpectedEof
  | outOfMemory | other
deriving Repr, DecidableEq

/-- A failure of a byte stream and its own words for it. -/
structure IoFailure where
  kind : IoFailure.Kind
  message : String
deriving Repr, DecidableEq

namespace IoFailure

/-- Whether the call may simply be made again. -/
def isInterrupted (failure : IoFailure) : Bool := failure.kind == .interrupted

/-- A stream that takes no more bytes. -/
def writeZero : IoFailure := ⟨.writeZero, "failed to write whole buffer"⟩

end IoFailure

/-- What went wrong. -/
inductive Fault where
  /-- The transport failed. -/
  | io (failure : IoFailure)
  /-- The transport ended before a whole reply had come. -/
  | closed
  /-- What came is no reply. -/
  | malformed (why : Malformation)
  /-- The server refused a command; `line` is the line as sent. -/
  | commandRejected (code : Nat) (message line : String)
  /-- The server refused data; `escaped` is the payload as sent. -/
  | dataRejected (code : Nat) (message escaped : String)
  /-- The settings cannot be used. -/
  | settings (issue : Settings.Issue)
deriving Repr, DecidableEq

namespace Fault

/-- The fault in words. -/
def message : Fault → String
  | .io failure => "IO error: " ++ failure.message
  | .closed => "Connection closed before a complete response arrived"
  | .malformed why => "Malformed response: " ++ why.reason
  | .commandRejected code message _ => s!"{code}: {message}"
  | .dataRejected code message _ => s!"{code}: {message}"
  | .settings issue => "Configuration error: " ++ issue.reason

/-- The status code of a refusal. -/
def code? : Fault → Option Nat
  | .commandRejected code _ _ | .dataRejected code _ _ => some code
  | _ => none

/-- The server's own words in a refusal. -/
def serverMessage? : Fault → Option String
  | .commandRejected _ message _ | .dataRejected _ message _ => some message
  | _ => none

/-- Whether the server answered, and refused. -/
def isRejection (fault : Fault) : Bool := fault.code?.isSome

/-- Whether no reply could be made of what came. A transport that ends inside
a reply counts, since that reply never became whole. -/
def isMalformed : Fault → Bool
  | .malformed _ | .closed => true
  | _ => false

end Fault
end SpeechWire
