/-
# Assembling frames

An assembler reads a transport piece by piece until the bytes it holds are a
complete frame. It gives up when the stream ends, when a read fails for good,
or when a piece would make the frame longer than the limit; that check comes
before completeness. Whatever happens, it holds nothing afterwards.

What one read makes of the frame in progress is decided in one place
(`absorb`). A round is one read and this decision, and gathering goes from
round to round; it ends because every round but the last leaves less to read
(`Transport.backlog_read_lt`).

Key definitions: `Assembler`, `Assembler.absorb`, `Assembler.round`,
`Assembler.readFrame`.
Key theorems: `Assembler.state_readFrame`, `Assembler.buffered_readFrame`.
-/
import SpeechWire.Outcome
import SpeechWire.Reply.Frame

namespace SpeechWire

/-- The bytes of a frame in progress and the bounds it is read under. -/
structure Assembler where
  /-- The most bytes asked for by one read; none stands for one. -/
  chunkSize : Nat
  /-- The most bytes a frame may have. -/
  limit : Nat
  /-- The bytes received of the frame in progress. -/
  buffer : Frame.Buffer := .empty

namespace Assembler

/-- How many bytes one read asks for. -/
def room (assembler : Assembler) : Nat := max assembler.chunkSize 1

/-- How many bytes of an unfinished frame are held. -/
def buffered (assembler : Assembler) : Nat := assembler.buffer.size

/-- The assembler with nothing held. -/
def clear (assembler : Assembler) : Assembler := { assembler with buffer := .empty }

/-- How a frame in progress stands after a read. -/
inductive Standing where
  /-- It has come to an end, and this is given and recorded for it. -/
  | finished (result : Except Fault (List UInt8)) (events : List Event)
  /-- It goes on, with these bytes held. -/
  | underway (buffer : Frame.Buffer)

/-- What a read makes of a frame in progress, by what it found. -/
def absorb (limit : Nat) (buffer : Frame.Buffer) : Except IoFailure (List UInt8) → Standing
  | .error failure =>
    if failure.isInterrupted then .underway buffer else .finished (.error (.io failure)) []
  | .ok [] => .finished (.error .closed) [.endedInFrame buffer.size]
  | .ok (byte :: bytes) =>
    let buffer := buffer.append (byte :: bytes)
    if limit < buffer.size then .finished (.error (.malformed (.tooLong limit))) []
    else if buffer.isComplete then .finished (.ok buffer.toList) [.frameReceived buffer.size]
    else .underway buffer

/-- A frame does not go on after the end of the stream. -/
theorem ne_nil_of_absorb {limit : Nat} {buffer next : Frame.Buffer}
    {found : Except IoFailure (List UInt8)} (h : absorb limit buffer found = .underway next) :
    found ≠ .ok [] := by
  rintro rfl
  cases h

/-- One round of reading: how it ends the call, or the assembler and the
transport of the next round. -/
def round (assembler : Assembler) (transport : Transport) :
    Outcome Assembler (Except Fault (List UInt8)) ⊕ Assembler × Transport :=
  let (found, after) := transport.read assembler.room
  match absorb assembler.limit assembler.buffer found with
  | .finished result events => .inl ⟨result, assembler.clear, after, events⟩
  | .underway buffer => .inr ({ assembler with buffer }, after)

section
variable {assembler next : Assembler} {transport after : Transport}

theorem round_eq_inl {outcome : Outcome Assembler (Except Fault (List UInt8))}
    (h : assembler.round transport = .inl outcome) : ∃ found after result events,
      transport.read assembler.room = (found, after) ∧
      absorb assembler.limit assembler.buffer found = .finished result events ∧
      outcome = ⟨result, assembler.clear, after, events⟩ := by
  cases hread : transport.read assembler.room with
  | mk found after =>
    rw [round, hread] at h
    dsimp only at h
    split at h
    · next result events habsorb =>
      exact ⟨found, after, result, events, rfl, habsorb, (Sum.inl.inj h).symm⟩
    · cases h

theorem round_eq_inr (h : assembler.round transport = .inr (next, after)) : ∃ found buffer,
    transport.read assembler.room = (found, after) ∧
      absorb assembler.limit assembler.buffer found = .underway buffer ∧
      next = { assembler with buffer } := by
  cases hread : transport.read assembler.room with
  | mk found left =>
    rw [round, hread] at h
    dsimp only at h
    split at h
    · cases h
    · next buffer habsorb =>
      obtain ⟨rfl, rfl⟩ := Prod.mk.inj (Sum.inr.inj h)
      exact ⟨found, buffer, rfl, habsorb, rfl⟩

theorem clear_of_round (h : assembler.round transport = .inr (next, after)) :
    next.clear = assembler.clear := by
  obtain ⟨_, buffer, -, -, rfl⟩ := round_eq_inr h
  rfl

theorem backlog_round_lt (h : assembler.round transport = .inr (next, after)) :
    after.backlog < transport.backlog := by
  obtain ⟨found, buffer, hread, habsorb, -⟩ := round_eq_inr h
  exact Transport.backlog_read_lt hread (ne_nil_of_absorb habsorb)

end

/-- Reads on until a frame is complete or cannot be completed. -/
def gather (assembler : Assembler) (transport : Transport) :
    Outcome Assembler (Except Fault (List UInt8)) :=
  match _ : assembler.round transport with
  | .inl outcome => outcome
  | .inr (next, after) => gather next after
termination_by transport.backlog
decreasing_by exact backlog_round_lt ‹_›

theorem gather_eq (assembler : Assembler) (transport : Transport) :
    assembler.gather transport =
      match assembler.round transport with
      | .inl outcome => outcome
      | .inr (next, after) => gather next after := by
  rw [gather]
  split <;> next hround => rw [hround]

section
variable {assembler : Assembler} {transport after : Transport}
  {found : Except IoFailure (List UInt8)}

theorem gather_of_finished {result : Except Fault (List UInt8)} {events : List Event}
    (hread : transport.read assembler.room = (found, after))
    (habsorb : absorb assembler.limit assembler.buffer found = .finished result events) :
    assembler.gather transport = ⟨result, assembler.clear, after, events⟩ := by
  rw [gather_eq, round, hread]
  simp only [habsorb]

theorem gather_of_underway {buffer : Frame.Buffer}
    (hread : transport.read assembler.room = (found, after))
    (habsorb : absorb assembler.limit assembler.buffer found = .underway buffer) :
    assembler.gather transport = gather { assembler with buffer } after := by
  rw [gather_eq, round, hread]
  simp only [habsorb]

end

/-- Reads one frame. -/
def readFrame (assembler : Assembler) (transport : Transport) :
    Outcome Assembler (Except Fault (List UInt8)) :=
  gather assembler.clear transport

/-! ### Nothing is held between frames -/

/-- However gathering ends, the assembler is left as it was, but empty. -/
theorem state_gather (assembler : Assembler) (transport : Transport) :
    (assembler.gather transport).state = assembler.clear := by
  fun_induction gather assembler transport with
  | case1 assembler transport outcome hround =>
    obtain ⟨_, _, _, _, -, -, rfl⟩ := round_eq_inl hround
    rfl
  | case2 assembler transport next after hround ih => exact ih.trans (clear_of_round hround)

theorem state_readFrame (assembler : Assembler) (transport : Transport) :
    (assembler.readFrame transport).state = assembler.clear :=
  state_gather assembler.clear transport

/-- After a frame or a failure no bytes are held. -/
theorem buffered_readFrame (assembler : Assembler) (transport : Transport) :
    (assembler.readFrame transport).state.buffered = 0 := by
  rw [state_readFrame]
  rfl

/-! ### Several frames -/

/-- One frame, or why there is none, and how many bytes are held afterwards. -/
def readAndCount (assembler : Assembler) (transport : Transport) :
    Outcome Assembler (Except Fault (List UInt8) × Nat) :=
  let outcome := assembler.readFrame transport
  outcome.mapResult (·, outcome.state.buffered)

/-- The reports of so many frames read one after another. -/
def readMany (calls : Nat) (assembler : Assembler) (transport : Transport) :
    List (Report (Except Fault (List UInt8) × Nat)) :=
  reports (fun () => readAndCount) (List.replicate calls ()) assembler transport

end Assembler
end SpeechWire
