/-
# A frame read from pieces

What a server sends reaches the reader in pieces that have nothing to do with
where its frames end, and reads may be interrupted in between. A piece longer
than one read asks for is handed out over several. None of this shows in what
is read: if the bytes of the pieces are complete at their end and nowhere
before, reading gives exactly them, and the pieces that follow stay in the
transport; only a frame above the limit is refused (`readFrame_pieces`).

What a read makes of the frame in progress is told by the bytes held
(`Assembler.Absorbs`), and gathering by its rounds (`Assembler.Gathers`); what
is shown of gathering is shown by induction on them.

Key definitions: `Piece`, `Piece.contents`, `Piece.arrivals`,
`Transport.SameWrites`, `Assembler.Absorbs`, `Assembler.Gathers`.
Key theorems: `Transport.read_pieces`, `Assembler.absorbs`, `Assembler.gathers`,
`Assembler.readFrame_pieces`, `Assembler.sameWrites_readFrame`,
`Assembler.readFrame_isFirst`.
-/
import Mathlib.Data.List.Basic
import SpeechWire.Assembler
import SpeechWire.Proofs.Framing

namespace SpeechWire

/-! ### Pieces -/

/-- Bytes that arrive together, and the interruptions before them. -/
structure Piece where
  /-- What the interruptions say. -/
  interruptions : List String := []
  bytes : List UInt8
  bytes_ne_nil : bytes ≠ []

namespace Piece

/-- An interrupted call. -/
def interruption (message : String) : IoFailure := ⟨.interrupted, message⟩

/-- What reads find of the piece. -/
def found (piece : Piece) : List Arrival :=
  piece.interruptions.map (fun message => .failure (interruption message)) ++ [.bytes piece.bytes]

/-- The bytes of pieces in a row. -/
def contents (pieces : List Piece) : List UInt8 := pieces.flatMap bytes

/-- What reads find of pieces in a row. -/
def arrivals (pieces : List Piece) : List Arrival := pieces.flatMap found

@[simp] theorem contents_nil : contents [] = [] := rfl

@[simp] theorem contents_cons (piece : Piece) (pieces : List Piece) :
    contents (piece :: pieces) = piece.bytes ++ contents pieces := List.flatMap_cons

@[simp] theorem arrivals_nil : arrivals [] = [] := rfl

theorem contents_eq_nil_iff {pieces : List Piece} : contents pieces = [] ↔ pieces = [] := by
  cases pieces with
  | nil => simp
  | cons piece pieces => simp [piece.bytes_ne_nil]

end Piece

namespace Transport

open Piece

/-! ### What a read leaves alone -/

/-- Everything but the reading side is the same. -/
structure SameWrites (t t' : Transport) : Prop where
  writes : t'.writes = t.writes
  written : t'.written = t.written
  flushes : t'.flushes = t.flushes
  flushCalls : t'.flushCalls = t.flushCalls

theorem SameWrites.trans {t t' t'' : Transport} (h : SameWrites t t') (h' : SameWrites t' t'') :
    SameWrites t t'' :=
  ⟨h'.writes.trans h.writes, h'.written.trans h.written, h'.flushes.trans h.flushes,
    h'.flushCalls.trans h.flushCalls⟩

theorem sameWrites_read (room : Nat) (t : Transport) : SameWrites t (t.read room).2 := by
  unfold read
  split <;> exact ⟨rfl, rfl, rfl, rfl⟩

theorem readCalls_read (room : Nat) (t : Transport) :
    (t.read room).2.readCalls = t.readCalls + 1 := by
  unfold read
  split <;> rfl

theorem length_le_of_read {t after : Transport} {room : Nat} {bytes : List UInt8}
    (h : t.read room = (.ok bytes, after)) : bytes.length ≤ room := by
  unfold read at h
  split at h
  · cases h
    exact Nat.zero_le _
  · cases h
  · cases h
    exact List.length_take_le _ _

/-! ### One read of pieces -/

theorem read_of_failure {t : Transport} {failure : IoFailure} {rest : List Arrival}
    (h : t.reads = .failure failure :: rest) (room : Nat) :
    t.read room = (.error failure, { t with reads := rest, readCalls := t.readCalls + 1 }) := by
  rw [read, h]

theorem read_of_bytes {t : Transport} {content : List UInt8} {rest : List Arrival}
    (h : t.reads = .bytes content :: rest) (room : Nat) :
    t.read room = (.ok (content.take room),
      { t with reads := leftover room content ++ rest, readCalls := t.readCalls + 1 }) := by
  rw [read, h]

/-- A read of pieces is interrupted, or brings the next of their bytes; what it
leaves is pieces again. -/
theorem read_pieces {room : Nat} (hroom : 0 < room) {pieces : List Piece} (hp : pieces ≠ [])
    {later : List Arrival} {t : Transport} (ht : t.reads = arrivals pieces ++ later) :
    ∃ rest, (t.read room).2.reads = arrivals rest ++ later ∧
      ((∃ failure, (t.read room).1 = .error failure ∧ failure.isInterrupted = true ∧
          contents rest = contents pieces) ∨
        ∃ bytes, (t.read room).1 = .ok bytes ∧ bytes ≠ [] ∧
          contents pieces = bytes ++ contents rest) := by
  obtain ⟨⟨interruptions, bytes, hbytes⟩, pieces, rfl⟩ := List.exists_cons_of_ne_nil hp
  cases interruptions with
  | cons message messages =>
    rw [read_of_failure ht]
    exact ⟨⟨messages, bytes, hbytes⟩ :: pieces, rfl, .inl ⟨_, rfl, rfl, rfl⟩⟩
  | nil =>
    have hfront : t.reads = .bytes bytes :: (arrivals pieces ++ later) := ht
    rw [read_of_bytes hfront]
    have htake : bytes.take room ≠ [] := by
      intro h
      rcases List.take_eq_nil_iff.1 h with h | h
      · omega
      · exact hbytes h
    by_cases hdrop : bytes.drop room = []
    · have hall : bytes.take room = bytes := by
        have h := List.take_append_drop room bytes
        rwa [hdrop, List.append_nil] at h
      refine ⟨pieces, ?_, .inr ⟨_, rfl, htake, ?_⟩⟩
      · simp only [leftover, if_pos hdrop, List.nil_append]
      · rw [contents_cons, hall]
    · -- what did not fit is the first piece of the rest
      refine ⟨⟨[], bytes.drop room, hdrop⟩ :: pieces, ?_, .inr ⟨_, rfl, htake, ?_⟩⟩
      · simp only [leftover, if_neg hdrop]
        rfl
      · rw [contents_cons, contents_cons, ← List.append_assoc, List.take_append_drop]

end Transport

namespace Assembler

open Piece SpeechWire.Frame

theorem room_pos (assembler : Assembler) : 0 < assembler.room := by
  unfold room
  omega

/-- The bytes of the frame in progress. -/
def held (assembler : Assembler) : List UInt8 := assembler.buffer.toList

/-- The assembler with more bytes of the frame in progress. -/
def hold (assembler : Assembler) (bytes : List UInt8) : Assembler :=
  { assembler with buffer := assembler.buffer.append bytes }

@[simp] theorem held_hold (assembler : Assembler) (bytes : List UInt8) :
    (assembler.hold bytes).held = assembler.held ++ bytes := Buffer.toList_append _ _

theorem buffered_eq_length (assembler : Assembler) : assembler.buffered = assembler.held.length :=
  assembler.buffer.size_eq_length

/-! ### The rounds of reading -/

/-- What a read can make of a frame in progress, told by the bytes held. -/
inductive Absorbs (limit : Nat) (buffer : Buffer) : Except IoFailure (List UInt8) → Standing → Prop
  | interrupted {failure : IoFailure} (hf : failure.isInterrupted = true) :
    Absorbs limit buffer (.error failure) (.underway buffer)
  | failed {failure : IoFailure} (hf : ¬ failure.isInterrupted = true) :
    Absorbs limit buffer (.error failure) (.finished (.error (.io failure)) [])
  | ended : Absorbs limit buffer (.ok [])
    (.finished (.error .closed) [.endedInFrame buffer.toList.length])
  | tooLong {bytes : List UInt8} (hne : bytes ≠ [])
    (hlong : limit < (buffer.toList ++ bytes).length) :
    Absorbs limit buffer (.ok bytes) (.finished (.error (.malformed (.tooLong limit))) [])
  | whole {bytes : List UInt8} (hne : bytes ≠ [])
    (hfits : ¬ limit < (buffer.toList ++ bytes).length)
    (hcomplete : Frame.isComplete (buffer.toList ++ bytes) = true) :
    Absorbs limit buffer (.ok bytes) (.finished (.ok (buffer.toList ++ bytes))
      [.frameReceived (buffer.toList ++ bytes).length])
  | more {bytes : List UInt8} (hne : bytes ≠ [])
    (hfits : ¬ limit < (buffer.toList ++ bytes).length)
    (hopen : ¬ Frame.isComplete (buffer.toList ++ bytes) = true) :
    Absorbs limit buffer (.ok bytes) (.underway (buffer.append bytes))

/-- **A read is absorbed in one of these ways.** -/
theorem absorbs {limit : Nat} {buffer : Buffer} {found : Except IoFailure (List UInt8)}
    {standing : Standing} (h : absorb limit buffer found = standing) :
    Absorbs limit buffer found standing := by
  subst h
  match found with
  | .error failure =>
    rw [absorb]
    split
    · next hf => exact .interrupted hf
    · next hf => exact .failed hf
  | .ok [] =>
    rw [absorb, buffer.size_eq_length]
    exact .ended
  | .ok (byte :: bytes) =>
    have hne : byte :: bytes ≠ [] := List.cons_ne_nil _ _
    rw [absorb, Buffer.size_eq_length, Buffer.isComplete_eq, Buffer.toList_append]
    split
    · next hlong => exact .tooLong hne hlong
    · next hfits =>
      split
      · next hcomplete => exact .whole hne hfits hcomplete
      · next hopen => exact .more hne hfits hopen

/-- The rounds of gathering, from the last one back. -/
inductive Gathers : Assembler → Transport → Outcome Assembler (Except Fault (List UInt8)) → Prop
  | last {assembler : Assembler} {t after : Transport} {found : Except IoFailure (List UInt8)}
    {result : Except Fault (List UInt8)} {events : List Event}
    (hread : t.read assembler.room = (found, after))
    (habsorb : absorb assembler.limit assembler.buffer found = .finished result events) :
    Gathers assembler t ⟨result, assembler.clear, after, events⟩
  | next {assembler : Assembler} {t after : Transport} {found : Except IoFailure (List UInt8)}
    {buffer : Buffer} {outcome : Outcome Assembler (Except Fault (List UInt8))}
    (hread : t.read assembler.room = (found, after))
    (habsorb : absorb assembler.limit assembler.buffer found = .underway buffer)
    (hnext : Gathers { assembler with buffer } after outcome) : Gathers assembler t outcome

/-- **Gathering goes through such rounds.** -/
theorem gathers (assembler : Assembler) (t : Transport) :
    Gathers assembler t (assembler.gather t) := by
  fun_induction gather assembler t with
  | case1 assembler t outcome hround =>
    obtain ⟨found, after, result, events, hread, habsorb, rfl⟩ := round_eq_inl hround
    exact .last hread habsorb
  | case2 assembler t next after hround ih =>
    obtain ⟨found, buffer, hread, habsorb, rfl⟩ := round_eq_inr hround
    exact .next hread habsorb ih

/-- What holds from a transport to what a read leaves of it, and passes on from
read to read, holds from a transport to what gathering leaves of it. -/
theorem gather_relates (R : Transport → Transport → Prop)
    (htrans : ∀ {a b c : Transport}, R a b → R b c → R a c)
    (hread : ∀ (room : Nat) (t : Transport), R t (t.read room).2) (assembler : Assembler)
    (t : Transport) : R t (assembler.gather t).transport := by
  have hstep : ∀ {room : Nat} {t after : Transport} {found : Except IoFailure (List UInt8)},
      t.read room = (found, after) → R t after := by
    intro room t after found h
    have := hread room t
    rwa [h] at this
  have h := gathers assembler t
  generalize assembler.gather t = outcome at h ⊢
  induction h with
  | last hfound => exact hstep hfound
  | next hfound _ _ ih => exact htrans (hstep hfound) ih

theorem sameWrites_gather (assembler : Assembler) (t : Transport) :
    t.SameWrites (assembler.gather t).transport :=
  gather_relates Transport.SameWrites .trans Transport.sameWrites_read assembler t

theorem sameWrites_readFrame (assembler : Assembler) (t : Transport) :
    t.SameWrites (assembler.readFrame t).transport :=
  sameWrites_gather assembler.clear t

theorem readCalls_lt_readFrame (assembler : Assembler) (t : Transport) :
    t.readCalls < (assembler.readFrame t).transport.readCalls :=
  gather_relates (fun t t' => t.readCalls < t'.readCalls) Nat.lt_trans
    (fun room t => Transport.readCalls_read room t ▸ Nat.lt_succ_self _) assembler.clear t

/-! ### Reading pieces to their end -/

/-- Reading on from the bytes held, over pieces that complete the frame at
their end and nowhere before. -/
theorem gather_pieces (assembler : Assembler) {pieces : List Piece} {later : List Arrival}
    {t : Transport} (ht : t.reads = arrivals pieces ++ later) (hp : pieces ≠ [])
    (hfirst : IsFirst (assembler.held ++ contents pieces)) :
    ((assembler.held ++ contents pieces).length ≤ assembler.limit →
      (assembler.gather t).result = .ok (assembler.held ++ contents pieces) ∧
        (assembler.gather t).transport.reads = later) ∧
    (assembler.limit < (assembler.held ++ contents pieces).length →
      (assembler.gather t).result = .error (.malformed (.tooLong assembler.limit))) := by
  have h := gathers assembler t
  generalize assembler.gather t = outcome at h ⊢
  induction h generalizing pieces with
  | @last assembler t after found result events hread habsorb =>
    obtain ⟨rest, hrest, hfound⟩ := Transport.read_pieces assembler.room_pos hp ht
    rw [hread] at hrest hfound
    rcases hfound with ⟨failure, hfound, hint, -⟩ | ⟨bytes, hfound, hne, hc⟩
    · obtain rfl : found = .error failure := hfound
      cases absorbs habsorb with
      | failed hf => exact absurd hint hf
    · obtain rfl : found = .ok bytes := hfound
      rw [hc, ← List.append_assoc] at hfirst ⊢
      cases absorbs habsorb with
      | ended => exact absurd rfl hne
      | tooLong _ hlong =>
        have hle : (assembler.held ++ bytes).length ≤
            (assembler.held ++ bytes ++ contents rest).length :=
          (List.prefix_append _ _).length_le
        exact ⟨fun h => absurd hlong (Nat.not_lt.2 (Nat.le_trans hle h)), fun _ => rfl⟩
      | whole _ hfits hcomplete =>
        -- the frame is complete nowhere before its end, so there are no more pieces
        have hend := hfirst.isComplete_front_iff.1 hcomplete
        rw [contents_eq_nil_iff.1 hend, arrivals_nil, List.nil_append] at hrest
        rw [hend, List.append_nil]
        exact ⟨fun _ => ⟨rfl, hrest⟩, fun h => absurd h hfits⟩
  | @next assembler t after found buffer outcome hread habsorb _ ih =>
    obtain ⟨rest, hrest, hfound⟩ := Transport.read_pieces assembler.room_pos hp ht
    rw [hread] at hrest hfound
    rcases hfound with ⟨failure, hfound, -, hc⟩ | ⟨bytes, hfound, hne, hc⟩
    · -- an interruption: the same bytes are still to come
      obtain rfl : found = .error failure := hfound
      have hp' : rest ≠ [] := by rwa [ne_eq, ← contents_eq_nil_iff, hc, contents_eq_nil_iff]
      cases absorbs habsorb with
      | interrupted =>
        rw [← hc] at hfirst ⊢
        exact ih hrest hp' hfirst
    · obtain rfl : found = .ok bytes := hfound
      rw [hc, ← List.append_assoc] at hfirst ⊢
      cases absorbs habsorb with
      | more _ hfits hopen =>
        have hmore : contents rest ≠ [] := mt hfirst.isComplete_front_iff.2 hopen
        rw [← held_hold] at hfirst ⊢
        exact ih hrest (mt contents_eq_nil_iff.2 hmore) hfirst

/-- **A frame that comes in pieces is read whole, or refused if it is above the
limit.** -/
theorem readFrame_pieces (assembler : Assembler) {pieces : List Piece} {later : List Arrival}
    {t : Transport} (ht : t.reads = arrivals pieces ++ later) (hfirst : IsFirst (contents pieces)) :
    ((contents pieces).length ≤ assembler.limit →
      (assembler.readFrame t).result = .ok (contents pieces) ∧
        (assembler.readFrame t).transport.reads = later) ∧
    (assembler.limit < (contents pieces).length →
      (assembler.readFrame t).result = .error (.malformed (.tooLong assembler.limit))) := by
  have hp : pieces ≠ [] := by
    rintro rfl
    exact absurd hfirst.isComplete (by decide)
  exact gather_pieces assembler.clear ht hp hfirst

/-- **Reading does not depend on how a frame arrives.** A frame that is
complete at its end and nowhere before is read as it is from any pieces, with
any interruptions and any size of read, and what follows it is left; above the
limit it is refused. Every well-formed frame is such a frame. -/
theorem readFrame_isFirst {frame : List UInt8} (hfirst : IsFirst frame) (assembler : Assembler)
    {pieces : List Piece} (hp : contents pieces = frame) {later : List Arrival} {t : Transport}
    (ht : t.reads = arrivals pieces ++ later) :
    (if frame.length ≤ assembler.limit then
      (assembler.readFrame t).result = .ok frame ∧ (assembler.readFrame t).transport.reads = later
    else (assembler.readFrame t).result = .error (.malformed (.tooLong assembler.limit))) ∧
    ∀ whole : WellFormed, IsFirst whole.bytes := by
  subst hp
  obtain ⟨hok, hlong⟩ := readFrame_pieces assembler ht hfirst
  refine ⟨?_, WellFormed.isFirst_bytes⟩
  split
  · next hle => exact hok hle
  · next hlt => exact hlong (Nat.not_le.1 hlt)

/-- Two lines in pieces cut inside the code and inside a line end, with an
interruption. -/
def twoLinesCut : List Piece :=
  [⟨[], [50, 53], by decide⟩, ⟨[], [48, 45, 13], by decide⟩,
    ⟨["again"], [10, 50, 53, 48, 32, 13, 10], by decide⟩]

/-- They are read byte by byte, and the bytes after them stay. -/
theorem readFrame_isFirst_twoLinesCut :
    IsFirst [50, 53, 48, 45, 13, 10, 50, 53, 48, 32, 13, 10] ∧
    contents twoLinesCut = [50, 53, 48, 45, 13, 10, 50, 53, 48, 32, 13, 10] ∧
    (readFrame ⟨0, 12, .empty⟩
      (.ofScript { reads := arrivals twoLinesCut ++ [.bytes [50]] })).result =
        .ok [50, 53, 48, 45, 13, 10, 50, 53, 48, 32, 13, 10] ∧
    (readFrame ⟨0, 12, .empty⟩
      (.ofScript { reads := arrivals twoLinesCut ++ [.bytes [50]] })).transport.reads =
        [.bytes [50]] := by
  have hfirst : IsFirst [50, 53, 48, 45, 13, 10, 50, 53, 48, 32, 13, 10] := by decide +kernel
  have hp : contents twoLinesCut = [50, 53, 48, 45, 13, 10, 50, 53, 48, 32, 13, 10] := rfl
  exact ⟨hfirst, hp, (readFrame_isFirst hfirst ⟨0, 12, .empty⟩ hp rfl).1⟩

end Assembler
end SpeechWire
