/-
# Settings of a connection

How much is asked of the transport at a time, how long a reply may grow, the
two names that make up the client's identity, and whether a connection says
goodbye. Settings are made by a list of choices put over the defaults, each
replacing what was chosen before for the same thing, and judged once at the
end; the first of three conditions that fails is the issue.

Key definitions: `Settings`, `Settings.Choice`, `Settings.build`,
`Settings.identity`.
-/
import SpeechWire.Text.Blank
import SpeechWire.Text.Quoted

namespace SpeechWire

/-- What a connection is set up with. -/
structure Settings where
  /-- The most bytes asked of the transport by one read. -/
  bufferSize : Nat := 1024
  /-- The most bytes one reply may have. -/
  replyLimit : Nat := 1024 * 1024
  /-- The first half of the identity. -/
  clientName : String := "rust"
  /-- The second half of the identity. -/
  connectionName : String := "001"
  /-- Whether a goodbye is sent before closing. -/
  politeClose : Bool := false
deriving Repr, DecidableEq

namespace Settings

/-- The name under which the client makes itself known. -/
def identity (settings : Settings) : String :=
  settings.clientName ++ ":" ++ settings.connectionName

/-- A value chosen for one of the settings. -/
inductive Choice where
  | bufferSize (size : Nat)
  | replyLimit (size : Nat)
  | clientName (name : String)
  | connectionName (name : String)
  | politeClose (enabled : Bool)
deriving Repr, DecidableEq

/-- Puts a choice in place of what was there. -/
def choose (settings : Settings) : Choice → Settings
  | .bufferSize size => { settings with bufferSize := size }
  | .replyLimit size => { settings with replyLimit := size }
  | .clientName name => { settings with clientName := name }
  | .connectionName name => { settings with connectionName := name }
  | .politeClose enabled => { settings with politeClose := enabled }

/-- Why settings cannot be used. -/
inductive Issue where
  /-- A read would ask for nothing. -/
  | emptyBuffer
  /-- A reply could not be as long as one read. -/
  | limitBelowBuffer (limit size : Nat)
  /-- The identity would be more than one word. -/
  | blankInIdentity (identity : String)
deriving Repr, DecidableEq

/-- The issue in words. -/
def Issue.reason : Issue → String
  | .emptyBuffer => "recv_buffer_size must be greater than zero"
  | .limitBelowBuffer limit size =>
    s!"max_response_size ({limit}) is smaller than recv_buffer_size ({size})"
  | .blankInIdentity identity => "client identity must not contain whitespace: " ++ quoted identity

/-- The first issue of the settings, if there is one. -/
def issue? (settings : Settings) : Option Issue :=
  if settings.bufferSize = 0 then some .emptyBuffer
  else if settings.replyLimit < settings.bufferSize then
    some (.limitBelowBuffer settings.replyLimit settings.bufferSize)
  else if settings.identity.toList.any isBlank then some (.blankInIdentity settings.identity)
  else none

/-- The settings that a list of choices makes, if they can be used. -/
def build (choices : List Choice) : Except Issue Settings :=
  let settings := choices.foldl choose {}
  match settings.issue? with
  | some issue => .error issue
  | none => .ok settings

end Settings
end SpeechWire
