/-
# The transport

A byte stream in both directions whose behaviour is written down in advance:
what each read brings, how much each write takes, how each flush ends. Beside
what is still to come it keeps a record: the bytes it has taken and how often
it was read and flushed.

A read never joins two arrivals, and what does not fit stays in front. A write
may take less than it is offered. `writeAll` goes on until everything is
taken: an interrupted write is made again, and a write that takes nothing ends
it. Each of its rounds uses up a planned write or takes a byte, so it ends;
likewise `backlog` falls with every read that does not find the end of the
stream (`backlog_read_lt`).

Key definitions: `Script`, `Transport`, `Transport.read`, `Transport.write`,
`Transport.flush`, `Transport.writeAll`, `Transport.backlog`.
Key theorems: `Transport.backlog_read_lt`.
-/
import SpeechWire.Fault

namespace SpeechWire

/-- What a read finds. -/
inductive Arrival where
  /-- Bytes; none at all means that the stream ends here. -/
  | bytes (content : List UInt8)
  | failure (failure : IoFailure)
deriving Repr, DecidableEq

namespace Arrival

/-- How many bytes wait in the arrival. -/
def unread : Arrival → Nat
  | .bytes content => content.length
  | .failure _ => 0

/-- A size summed over arrivals. -/
def total (size : Arrival → Nat) : List Arrival → Nat
  | [] => 0
  | arrival :: rest => size arrival + total size rest

theorem total_append (size : Arrival → Nat) : ∀ a b : List Arrival,
    total size (a ++ b) = total size a + total size b
  | [], b => (Nat.zero_add _).symm
  | arrival :: rest, b => by
    rw [List.cons_append, total, total, total_append size rest b, Nat.add_assoc]

end Arrival

/-- How a write ends. -/
inductive Acceptance where
  /-- It takes up to so many bytes. -/
  | upTo (limit : Nat)
  | failure (failure : IoFailure)
deriving Repr, DecidableEq

/-- What a stream will do. With nothing planned, reads find the end of the
stream, writes take everything and flushes succeed. -/
structure Script where
  reads : List Arrival := []
  writes : List Acceptance := []
  flushes : List (Option IoFailure) := []
deriving Repr, DecidableEq

/-- A stream: what it will do, and the record of what it did. -/
structure Transport extends Script where
  written : List UInt8 := []
  readCalls : Nat := 0
  flushCalls : Nat := 0
deriving Repr, DecidableEq

namespace Transport

/-- A stream that has done nothing yet. -/
def ofScript (script : Script) : Transport := { toScript := script }

/-- Plans more, after everything planned before. -/
def push (transport : Transport) (more : Script) : Transport :=
  { transport with
    reads := transport.reads ++ more.reads
    writes := transport.writes ++ more.writes
    flushes := transport.flushes ++ more.flushes }

/-- The bytes that wait to be read. -/
def unread (transport : Transport) : Nat := Arrival.total Arrival.unread transport.reads

/-- What is left of an arrival after `room` bytes were taken from it. -/
def leftover (room : Nat) (content : List UInt8) : List Arrival :=
  if content.drop room = [] then [] else [.bytes (content.drop room)]

/-- Takes up to `room` bytes of what arrives next. -/
def read (room : Nat) (transport : Transport) : Except IoFailure (List UInt8) × Transport :=
  let called := { transport with readCalls := transport.readCalls + 1 }
  match transport.reads with
  | [] => (.ok [], called)
  | .failure failure :: rest => (.error failure, { called with reads := rest })
  | .bytes content :: rest =>
    (.ok (content.take room), { called with reads := leftover room content ++ rest })

/-- Offers bytes; the answer is how many were taken. -/
def write (bytes : List UInt8) (transport : Transport) : Except IoFailure Nat × Transport :=
  match transport.writes with
  | [] => (.ok bytes.length, { transport with written := transport.written ++ bytes })
  | .failure failure :: rest => (.error failure, { transport with writes := rest })
  | .upTo limit :: rest =>
    (.ok (min limit bytes.length),
      { transport with writes := rest, written := transport.written ++ bytes.take limit })

/-- Has everything taken so far passed on. -/
def flush (transport : Transport) : Except IoFailure Unit × Transport :=
  let called := { transport with flushCalls := transport.flushCalls + 1 }
  match transport.flushes with
  | [] => (.ok (), called)
  | some failure :: rest => (.error failure, { called with flushes := rest })
  | none :: rest => (.ok (), { called with flushes := rest })

/-! ### Writing everything -/

theorem writes_length_of_write_error {bytes : List UInt8} {t t' : Transport} {failure : IoFailure}
    (h : t.write bytes = (.error failure, t')) : t'.writes.length < t.writes.length := by
  unfold write at h
  split at h
  · cases h
  · next hw =>
    cases h
    rw [hw]
    exact Nat.lt_succ_self _
  · cases h

theorem writes_length_of_write_ok {bytes : List UInt8} {t t' : Transport} {n : Nat}
    (h : t.write bytes = (.ok n, t')) :
    t'.writes.length ≤ t.writes.length ∧ n ≤ bytes.length := by
  unfold write at h
  split at h
  · cases h
    exact ⟨Nat.le_refl _, Nat.le_refl _⟩
  · cases h
  · next hw =>
    cases h
    rw [hw]
    exact ⟨Nat.le_succ _, Nat.min_le_right _ _⟩

/-- Writes until all bytes are taken. -/
def writeAll (bytes : List UInt8) (transport : Transport) : Except IoFailure Unit × Transport :=
  if bytes = [] then (.ok (), transport)
  else
    match h : transport.write bytes with
    | (.error failure, after) =>
      if failure.isInterrupted then writeAll bytes after else (.error failure, after)
    | (.ok 0, after) => (.error .writeZero, after)
    | (.ok (n + 1), after) => writeAll (bytes.drop (n + 1)) after
termination_by bytes.length + transport.writes.length
decreasing_by
  · have := writes_length_of_write_error h
    omega
  · have := writes_length_of_write_ok h
    simp only [List.length_drop]
    omega

/-! ### Reading comes to an end -/

/-- How much reading is left: every byte and every arrival counts. -/
def backlog (transport : Transport) : Nat :=
  Arrival.total (fun arrival => arrival.unread + 1) transport.reads

theorem length_drop_lt {room : Nat} {content : List UInt8} (h : content.take room ≠ []) :
    (content.drop room).length < content.length := by
  rw [List.length_drop]
  refine Nat.sub_lt (List.length_pos_iff.2 ?_) (Nat.pos_of_ne_zero ?_)
  · rintro rfl
    exact h List.take_nil
  · rintro rfl
    exact h List.take_zero

/-- A read that finds a failure or brings bytes leaves less to read. -/
theorem backlog_read_lt {room : Nat} {t t' : Transport} {found : Except IoFailure (List UInt8)}
    (h : t.read room = (found, t')) (hne : found ≠ .ok []) : t'.backlog < t.backlog := by
  unfold read at h
  split at h
  · cases h
    exact absurd rfl hne
  · next hr =>
    cases h
    simp only [backlog, hr, Arrival.total, Arrival.unread]
    omega
  · next content rest hr =>
    cases h
    have hlt : (content.drop room).length < content.length :=
      length_drop_lt fun h => hne (congrArg Except.ok h)
    simp only [backlog, hr, leftover, Arrival.total_append, Arrival.total, Arrival.unread]
    split <;> simp only [Arrival.total] <;> omega

end Transport
end SpeechWire
