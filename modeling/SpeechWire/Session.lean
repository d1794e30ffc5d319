/-
# Sessions

A session plays steps against one transport. At any time there is one
connection on it or none; a step that needs a connection and finds none does
nothing and says so. What is planned on the transport and not yet used lives
on from one connection to the next.

Key definitions: `Action`, `Action.run`, `Session.Step`, `Session.step`,
`Session.run`.
Key theorems: `Action.state_runAll_new`.
-/
import SpeechWire.Connection

namespace SpeechWire

/-- What a step answers. -/
inductive Answer where
  /-- Done, with nothing to say. -/
  | done
  | reply (reply : Reply)
  | fault (fault : Fault)
  /-- The bytes that still wait on a transport taken back. -/
  | unread (count : Nat)
  /-- How many bytes a single write took. -/
  | accepted (count : Nat)
  /-- What a single read brought. -/
  | content (bytes : List UInt8)
  /-- How a single read or write failed. -/
  | failure (failure : IoFailure)
  /-- The settings of the connection and the bytes that wait. -/
  | info (settings : Settings) (unread : Nat)
  /-- The number of a handle. -/
  | handle (index : Nat)
  | noConnection
deriving Repr, DecidableEq

namespace Answer

/-- The answer of a step that ends in a reply or a fault. -/
def ofReply : Except Fault Reply → Answer
  | .ok r => .reply r
  | .error f => .fault f

/-- The answer of a step that ends well or in a fault. -/
def ofDone : Except Fault Unit → Answer
  | .ok () => .done
  | .error f => .fault f

end Answer

/-- What can be done with a connection without giving it up. -/
inductive Action where
  | identify
  | send (request : Request)
  /-- Plans more on the transport. -/
  | push (more : Script)
  /-- One write on the transport, past the connection. -/
  | rawWrite (bytes : List UInt8)
  /-- One read of the transport, past the connection. -/
  | rawRead (room : Nat)
  | info

namespace Action

/-- The outcome of a single call on the transport, past the connection. -/
def past {τ : Type} (answer : τ → Answer) (connection : Connection) :
    Except IoFailure τ × Transport → Outcome Connection Answer
  | (.ok found, after) => ⟨answer found, connection, after, []⟩
  | (.error failure, after) => ⟨.failure failure, connection, after, []⟩

/-- Carries out an action. -/
def run (action : Action) (connection : Connection) (transport : Transport) :
    Outcome Connection Answer :=
  match action with
  | .identify => (connection.identify transport).mapResult .ofReply
  | .send request => (connection.send request transport).mapResult .ofReply
  | .push more => ⟨.done, connection, transport.push more, []⟩
  | .rawWrite bytes => past .accepted connection (transport.write bytes)
  | .rawRead room => past .content connection (transport.read room)
  | .info => ⟨.info connection.settings transport.unread, connection, transport, []⟩

/-- Carries out actions one after another. -/
def runAll : List Action → Connection → Transport → Outcome Connection (List Answer) :=
  Outcome.each run

theorem state_past {τ : Type} (answer : τ → Answer) (connection : Connection) :
    ∀ call : Except IoFailure τ × Transport, (past answer connection call).state = connection
  | (.ok _, _) => rfl
  | (.error _, _) => rfl

/-- A new connection is as new after any action. -/
theorem state_run_new (action : Action) (settings : Settings) (transport : Transport) :
    (action.run (.new settings) transport).state = .new settings := by
  cases action with
  | identify => exact Connection.state_send_new settings _ transport
  | send request => exact Connection.state_send_new settings request transport
  | push more => rfl
  | rawWrite bytes => exact state_past _ _ _
  | rawRead room => exact state_past _ _ _
  | info => rfl

theorem state_runAll_new (actions : List Action) (settings : Settings) (transport : Transport) :
    (runAll actions (.new settings) transport).state = .new settings := by
  induction actions generalizing transport with
  | nil => rfl
  | cons action rest ih =>
    show (runAll rest (action.run (.new settings) transport).state _).state = _
    rw [state_run_new]
    exact ih _

end Action

namespace Session

/-- A step of a session. -/
inductive Step where
  /-- Puts a new connection in place of any there is. -/
  | new
  /-- The same, and has it make itself known. -/
  | establish
  | close
  /-- Gives the connection up and takes the transport back. -/
  | takeBack
  | act (action : Action)

/-- Carries out a step, with the connection there is. -/
def step (settings : Settings) (step : Step) (connection : Option Connection)
    (transport : Transport) : Outcome (Option Connection) Answer :=
  match step, connection with
  | .new, _ => ⟨.done, some (.new settings), transport, []⟩
  | .establish, _ => (Connection.establish settings transport).mapResult .ofDone
  | .close, some connection =>
    ((connection.close transport).mapResult .ofDone).leave none
  | .takeBack, some _ => ⟨.unread transport.unread, none, transport, []⟩
  | .act action, some connection => (action.run connection transport).mapState some
  | _, none => ⟨.noConnection, none, transport, []⟩

/-- The reports of a session that starts without a connection. -/
def run (settings : Settings) (steps : List Step) (transport : Transport) : List (Report Answer) :=
  reports (step settings) steps none transport

end Session
end SpeechWire
