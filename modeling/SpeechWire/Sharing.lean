/-
# Shared connections

Several handles to one connection. Every exchange on a handle is a whole round
trip, and holding the connection for a block of actions is one step, so what
the handles do is what one connection does with the same actions in the same
order. A connection is recovered by the last of its handles; it may then be
shared again, closed or dropped.

Key definitions: `Sharing.Move`, `Sharing.Step`, `Sharing.step`, `Sharing.run`.
-/
import SpeechWire.Pool
import SpeechWire.Session

namespace SpeechWire
namespace Sharing

/-- What is done in the end with a connection recovered. -/
inductive Ending where
  | share
  | close
  | discard
deriving Repr, DecidableEq

/-- What is done with a handle. -/
inductive Move where
  /-- Makes a further handle. -/
  | clone
  /-- Gives the handle up. -/
  | drop
  | send (request : Request)
  /-- Holds the connection for a block of actions. -/
  | hold (actions : List Action)
  /-- Gives the handle up for the connection. -/
  | recover (actions : List Action) (ending : Ending)

/-- A move on a handle. -/
structure Step where
  handle : Nat
  move : Move

/-- What a step answers. -/
inductive Result where
  | plain (answer : Answer)
  /-- The answers of a block of actions. -/
  | each (answers : List Answer)
  /-- Another handle still stands for the connection. -/
  | refused
  /-- The answers of the actions on the recovered connection, and of the end. -/
  | recovered (answers : List Answer) (ending : Answer)
deriving Repr, DecidableEq

/-- What becomes of a recovered connection. -/
def finish (ending : Ending) (pool : Pool Connection) (connection : Connection)
    (transport : Transport) : Outcome (Pool Connection) Answer :=
  match ending with
  | .share =>
    let shared := pool.share connection
    ⟨.handle shared.1, shared.2, transport, []⟩
  | .close => ((connection.close transport).mapResult .ofDone).leave pool
  | .discard => ⟨.done, pool, transport, []⟩

/-- Gives a handle up and, if the connection comes out, acts on it. -/
def recover (handle : Nat) (actions : List Action) (ending : Ending) (pool : Pool Connection)
    (transport : Transport) : Outcome (Pool Connection) Result :=
  match pool.release handle with
  | (none, pool) => ⟨.refused, pool, transport, []⟩
  | (some connection, pool) =>
    let acted := Action.runAll actions connection transport
    let finished := finish ending pool acted.state acted.transport
    (finished.mapResult (.recovered acted.result ·)).after acted.events

/-- Carries out a step. On a handle that is not live it does nothing. -/
def step (step : Step) (pool : Pool Connection) (transport : Transport) :
    Outcome (Pool Connection) Result :=
  match pool.get? step.handle with
  | none => ⟨.plain .noConnection, pool, transport, []⟩
  | some connection =>
    match step.move with
    | .clone =>
      let cloned := pool.clone step.handle
      ⟨.plain (.handle cloned.1), cloned.2, transport, []⟩
    | .drop => ⟨.plain .done, (pool.release step.handle).2, transport, []⟩
    | .send request =>
      ((connection.send request transport).mapResult (.plain ∘ .ofReply)).mapState
        (pool.put step.handle)
    | .hold actions =>
      ((Action.runAll actions connection transport).mapResult .each).mapState
        (pool.put step.handle)
    | .recover actions ending => recover step.handle actions ending pool transport

/-- The reports of steps on a connection that is shared from the start by one
handle. -/
def run (settings : Settings) (steps : List Step) (transport : Transport) :
    List (Report Result) :=
  reports step steps (Pool.share {} (Connection.new settings)).2 transport

end Sharing
end SpeechWire
