/-
# Outcomes and reports

Every operation of a connection works over a transport that it is lent: it
takes a state and the transport, and its outcome holds the result, both of
them as they are afterwards, and the events in order. A report is what an
onlooker sees of one outcome: the result, and what moved on the transport
since the outcome before.

Key definitions: `Outcome`, `Report`, `Outcome.report`, `Outcome.each`,
`reports`.
-/
import SpeechWire.Event
import SpeechWire.Transport

namespace SpeechWire

/-- What an operation gives, leaves behind and records. -/
structure Outcome (σ ρ : Type) where
  result : ρ
  state : σ
  transport : Transport
  events : List Event := []

/-- What an onlooker sees of one operation. -/
structure Report (ρ : Type) where
  result : ρ
  /-- The bytes the transport took during it. -/
  written : List UInt8
  /-- How often the transport was read during it. -/
  reads : Nat
  /-- How often the transport was flushed during it. -/
  flushes : Nat
  /-- The bytes waiting to be read after it. -/
  unread : Nat
  /-- The events during it. -/
  events : List Event

variable {ι σ ρ τ : Type}

namespace Outcome

/-- The outcome with its result seen in another way. -/
def mapResult (f : ρ → τ) (outcome : Outcome σ ρ) : Outcome σ τ :=
  ⟨f outcome.result, outcome.state, outcome.transport, outcome.events⟩

/-- The outcome with its state put into another. -/
def mapState (f : σ → τ) (outcome : Outcome σ ρ) : Outcome τ ρ :=
  ⟨outcome.result, f outcome.state, outcome.transport, outcome.events⟩

/-- The same course of events with another result. -/
def give (outcome : Outcome σ ρ) (result : τ) : Outcome σ τ := outcome.mapResult fun _ => result

/-- The same course of events that leaves another state. -/
def leave (outcome : Outcome σ ρ) (state : τ) : Outcome τ ρ := outcome.mapState fun _ => state

/-- The outcome with one event more at the end. -/
def note (outcome : Outcome σ ρ) (event : Event) : Outcome σ ρ :=
  { outcome with events := outcome.events ++ [event] }

/-- The outcome after earlier events. -/
def after (events : List Event) (outcome : Outcome σ ρ) : Outcome σ ρ :=
  { outcome with events := events ++ outcome.events }

/-- What an onlooker sees who saw the transport `before`. -/
def report (before : Transport) (outcome : Outcome σ ρ) : Report ρ where
  result := outcome.result
  written := outcome.transport.written.drop before.written.length
  reads := outcome.transport.readCalls - before.readCalls
  flushes := outcome.transport.flushCalls - before.flushCalls
  unread := outcome.transport.unread
  events := outcome.events

/-- Several operations one after another, as one with all the results. -/
def each (step : ι → σ → Transport → Outcome σ ρ) :
    List ι → σ → Transport → Outcome σ (List ρ)
  | [], state, transport => ⟨[], state, transport, []⟩
  | i :: rest, state, transport =>
    let first := step i state transport
    ((each step rest first.state first.transport).mapResult (first.result :: ·)).after first.events

end Outcome

/-- Several operations one after another, each with its report. -/
def reports (step : ι → σ → Transport → Outcome σ ρ) :
    List ι → σ → Transport → List (Report ρ)
  | [], _, _ => []
  | i :: rest, state, transport =>
    let first := step i state transport
    first.report transport :: reports step rest first.state first.transport

end SpeechWire
