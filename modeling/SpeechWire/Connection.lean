/-
# Connections

A connection sends a request and reads the one reply to it before the next,
so at most one request is under way. A request goes through four stages, and
the first that fails decides: all its bytes are written and flushed, one frame
is read, the frame is read as a reply, and the reply is judged.

A connection does not keep its transport: each operation is lent it and hands
it back. What the connection itself keeps is its settings and an assembler
that is empty between operations.

Key definitions: `Connection`, `Connection.send`, `Connection.identify`,
`Connection.establish`, `Connection.close`.
Key theorems: `Connection.state_send_new`.
-/
import SpeechWire.Assembler
import SpeechWire.Reply.Parse
import SpeechWire.Request

namespace SpeechWire

/-- A client's end of the conversation. -/
structure Connection where
  settings : Settings
  assembler : Assembler

/-- The event that tells of a request about to be sent. -/
def Request.announcement : Request → Event
  | .command c => .sendingCommand c.text
  | .data payload => .sendingBlock (Block.encode payload).length

/-- The event that tells of a refusal of the request. -/
def Request.refusal : Request → Fault → Event
  | .command c, fault => .commandRejected c.text fault
  | .data _, fault => .blockRejected fault

namespace Connection

/-- A connection that has sent nothing yet. -/
def new (settings : Settings) : Connection where
  settings := settings
  assembler := { chunkSize := settings.bufferSize, limit := settings.replyLimit }

/-- Writes bytes and has them passed on. -/
def transmit (bytes : List UInt8) (transport : Transport) : Except IoFailure Unit × Transport :=
  match transport.writeAll bytes with
  | (.error failure, after) => (.error failure, after)
  | (.ok (), after) => after.flush

/-- Reads one frame into the connection's assembler. -/
def readFrame (connection : Connection) (transport : Transport) :
    Outcome Connection (Except Fault (List UInt8)) :=
  (connection.assembler.readFrame transport).mapState fun assembler =>
    { connection with assembler }

/-- Reads a frame as a reply, if one came. -/
def interpret (frame : Outcome Connection (Except Fault (List UInt8))) :
    Outcome Connection (Except Fault Reply) :=
  match frame.result with
  | .error fault => frame.give (.error fault)
  | .ok bytes =>
    match Reply.parse bytes with
    | .error why => (frame.give (.error (.malformed why))).note (.malformedReply why)
    | .ok reply => (frame.give (.ok reply)).note (.replyReceived reply.code reply.message)

/-- Reads one reply. -/
def receive (connection : Connection) (transport : Transport) :
    Outcome Connection (Except Fault Reply) :=
  interpret (connection.readFrame transport)

/-- Judges the reply to a request, if one came. -/
def judge (request : Request) (received : Outcome Connection (Except Fault Reply)) :
    Outcome Connection (Except Fault Reply) :=
  match received.result with
  | .error _ => received
  | .ok reply =>
    match reply.classify request.origin with
    | .error fault => (received.give (.error fault)).note (request.refusal fault)
    | .ok reply => received.give (.ok reply)

/-- Sends a request and reads its reply. -/
def send (request : Request) (connection : Connection) (transport : Transport) :
    Outcome Connection (Except Fault Reply) :=
  match transmit request.wire transport with
  | (.error failure, after) => ⟨.error (.io failure), connection, after, [request.announcement]⟩
  | (.ok (), after) => (judge request (connection.receive after)).after [request.announcement]

/-! ### A connection keeps nothing from one request to the next -/

theorem state_interpret (frame : Outcome Connection (Except Fault (List UInt8))) :
    (interpret frame).state = frame.state := by
  unfold interpret
  split
  · rfl
  · split <;> rfl

theorem state_judge (request : Request) (received : Outcome Connection (Except Fault Reply)) :
    (judge request received).state = received.state := by
  unfold judge
  split
  · rfl
  · split <;> rfl

theorem state_readFrame_new (settings : Settings) (transport : Transport) :
    ((new settings).readFrame transport).state = new settings :=
  congrArg (Connection.mk settings) (Assembler.state_readFrame _ transport)

/-- A new connection is as new after any request. -/
theorem state_send_new (settings : Settings) (request : Request) (transport : Transport) :
    ((new settings).send request transport).state = new settings := by
  unfold send
  split
  · rfl
  · exact (state_judge _ _).trans ((state_interpret _).trans (state_readFrame_new settings _))

/-! ### Opening and closing -/

/-- The command by which a client makes itself known. -/
def introduction (settings : Settings) : Command :=
  ⟨"SET", []⟩ |> Command.arg (.word "CLIENT_NAME") |> Command.arg (.word settings.identity)

/-- Makes the client known to the server. -/
def identify (connection : Connection) (transport : Transport) :
    Outcome Connection (Except Fault Reply) :=
  connection.send (.command (introduction connection.settings)) transport

/-- Keeps a connection whose introduction was accepted. -/
def welcome (greeting : Outcome Connection (Except Fault Reply)) :
    Outcome (Option Connection) (Except Fault Unit) :=
  match greeting.result with
  | .error fault => (greeting.give (.error fault)).leave none
  | .ok _ =>
    ((greeting.give (.ok ())).mapState some).note (.opened greeting.state.settings.identity)

/-- A new connection that has made itself known, or none if that failed. -/
def establish (settings : Settings) (transport : Transport) :
    Outcome (Option Connection) (Except Fault Unit) :=
  welcome (identify (new settings) transport)

/-- Says goodbye, if the settings ask for it. -/
def farewell (connection : Connection) (transport : Transport) :
    Outcome Connection (Except Fault Unit) :=
  if connection.settings.politeClose then
    (connection.send (.command ⟨"BYE", []⟩) transport).mapResult (·.map fun _ => ())
  else ⟨.ok (), connection, transport, []⟩

/-- Has the transport pass everything on after a goodbye, if that went well. -/
def depart (parting : Outcome Connection (Except Fault Unit)) :
    Outcome Unit (Except Fault Unit) :=
  match parting.result with
  | .error _ => parting.leave ()
  | .ok () =>
    match parting.transport.flush with
    | (.error failure, after) => ⟨.error (.io failure), (), after, parting.events⟩
    | (.ok (), after) =>
      ⟨.ok (), (), after, parting.events ++ [.closed parting.state.settings.identity]⟩

/-- Gives the connection up: a goodbye if asked for, then a last flush. It is
gone afterwards even if one of them failed. -/
def close (connection : Connection) (transport : Transport) : Outcome Unit (Except Fault Unit) :=
  depart (connection.farewell transport)

end Connection
end SpeechWire
