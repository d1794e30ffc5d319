/-
# Reading as a pass over what the reads find

What a transport holds for reading decides, together with how many bytes one
read asks for, what the reads find one after another: an arrival longer than
one read is handed out in portions, and an interruption is passed over. These
are the rounds of reading (`Transport.rounds`).

Gathering a frame sees nothing else. It is a pass over the rounds (`collect`)
that absorbs one after another up to the first that brings the frame to an
end, and it leaves the rounds after that one (`gather_eq_collect`). So what is read from any transport, and what is left
of it, can be settled on lists.

Key definitions: `Arrival.portions`, `Transport.rounds`, `Transport.incoming`,
`Assembler.collect`.
Key theorems: `Assembler.gather_eq_collect`, `Assembler.collect_eq_ok`,
`Assembler.collect_portions`.
-/
import SpeechWire.Proofs.Reading

namespace SpeechWire

/-! ### Portions -/

namespace Arrival

/-- The bytes of `content` that reads of at most `room` bytes bring, read by
read. -/
def portions (room : Nat) (content : List UInt8) : List (List UInt8) :=
  if content.take room = [] then [] else content.take room :: portions room (content.drop room)
termination_by content.length
decreasing_by exact Transport.length_drop_lt ‹_›

variable {room : Nat}

theorem portions_nil : portions room [] = [] := by
  rw [portions, List.take_nil, if_pos rfl]

theorem portions_of_ne_nil (hroom : 0 < room) {content : List UInt8} (h : content ≠ []) :
    portions room content = content.take room :: portions room (content.drop room) := by
  have htake : content.take room ≠ [] := by
    intro hnil
    rcases List.take_eq_nil_iff.1 hnil with hzero | hnil
    · omega
    · exact h hnil
  rw [portions, if_neg htake]

theorem ne_nil_of_mem_portions {content : List UInt8} :
    ∀ portion ∈ portions room content, portion ≠ [] := by
  fun_induction portions room content with
  | case1 => simp
  | case2 content htake ih =>
    intro portion hp
    rcases List.mem_cons.1 hp with rfl | hp
    · exact htake
    · exact ih portion hp

theorem flatten_portions (hroom : 0 < room) (content : List UInt8) :
    (portions room content).flatten = content := by
  fun_induction portions room content with
  | case1 content htake =>
    rcases List.take_eq_nil_iff.1 htake with hzero | rfl
    · omega
    · rfl
  | case2 content htake ih => rw [List.flatten_cons, ih, List.take_append_drop]

/-! ### Rounds -/

/-- What the rounds of reading find of an arrival, one after another: an
interruption is passed over. -/
def rounds (room : Nat) : Arrival → List Arrival
  | .failure cause => if cause.isInterrupted then [] else [.failure cause]
  | .bytes content => if content = [] then [.bytes []] else (portions room content).map .bytes

/-- The bytes of an arrival. -/
def content : Arrival → List UInt8
  | .bytes content => content
  | .failure _ => []

/-- The bytes of arrivals in a row. -/
def contents (arrivals : List Arrival) : List UInt8 := arrivals.flatMap content

@[simp] theorem contents_nil : contents [] = [] := rfl

@[simp] theorem contents_cons (arrival : Arrival) (arrivals : List Arrival) :
    contents (arrival :: arrivals) = arrival.content ++ contents arrivals := List.flatMap_cons

@[simp] theorem contents_append (a b : List Arrival) :
    contents (a ++ b) = contents a ++ contents b := List.flatMap_append

@[simp] theorem contents_map_bytes (portions : List (List UInt8)) :
    contents (portions.map .bytes) = portions.flatten := by
  induction portions with
  | nil => rfl
  | cons portion portions ih => rw [List.map_cons, contents_cons, ih, List.flatten_cons, content]

theorem contents_rounds (hroom : 0 < room) (arrival : Arrival) :
    contents (arrival.rounds room) = arrival.content := by
  cases arrival with
  | failure cause =>
    rw [rounds]
    split <;> rfl
  | bytes content =>
    rw [rounds]
    split
    · next h => rw [h]; rfl
    · rw [contents_map_bytes, flatten_portions hroom, Arrival.content]

theorem contents_flatMap_rounds (hroom : 0 < room) (arrivals : List Arrival) :
    contents (arrivals.flatMap (rounds room)) = contents arrivals := by
  induction arrivals with
  | nil => rfl
  | cons arrival rest ih =>
    rw [List.flatMap_cons, contents_append, ih, contents_rounds hroom, contents_cons]

end Arrival

namespace Transport

open Arrival (portions portions_nil portions_of_ne_nil contents)

variable {room : Nat} {t after : Transport}

/-- What the rounds of reading the transport find, one after another. -/
def rounds (room : Nat) (t : Transport) : List Arrival := t.reads.flatMap (Arrival.rounds room)

/-- The bytes that wait to be read. -/
def incoming (t : Transport) : List UInt8 := contents t.reads

theorem contents_rounds (hroom : 0 < room) (t : Transport) :
    contents (t.rounds room) = t.incoming :=
  Arrival.contents_flatMap_rounds hroom t.reads

theorem rounds_of_reads_eq {t u : Transport} (h : t.reads = u.reads) (room : Nat) :
    t.rounds room = u.rounds room := by
  rw [rounds, h, rounds]

theorem rounds_of_reads_append {a b : List Arrival} (h : t.reads = a ++ b) :
    t.rounds room = a.flatMap (Arrival.rounds room) ++ b.flatMap (Arrival.rounds room) := by
  rw [rounds, h, List.flatMap_append]

/-- A read that fails takes one round, or none if it was interrupted. -/
theorem rounds_of_read_error {failure : IoFailure} (h : t.read room = (.error failure, after)) :
    t.rounds room =
      if failure.isInterrupted then after.rounds room
      else .failure failure :: after.rounds room := by
  unfold read at h
  split at h
  · cases h
  · next hr =>
    cases h
    rw [rounds, hr, List.flatMap_cons, Arrival.rounds]
    split <;> rfl
  · cases h

theorem flatMap_rounds_leftover (content : List UInt8) :
    (leftover room content).flatMap (Arrival.rounds room) =
      (portions room (content.drop room)).map .bytes := by
  unfold leftover
  split
  · next h => rw [h, portions_nil]; rfl
  · next h => rw [List.flatMap_cons, Arrival.rounds, if_neg h, List.flatMap_nil, List.append_nil]

theorem rounds_of_read_bytes {bytes : List UInt8} (h : t.read room = (.ok bytes, after))
    (hne : bytes ≠ []) : t.rounds room = .bytes bytes :: after.rounds room := by
  unfold read at h
  split at h
  · cases h
    exact absurd rfl hne
  · cases h
  · next content rest hr =>
    cases h
    have hroom : 0 < room := by
      rcases Nat.eq_zero_or_pos room with rfl | hpos
      · exact absurd List.take_zero hne
      · exact hpos
    have hcontent : content ≠ [] := by
      rintro rfl
      exact hne List.take_nil
    rw [rounds, hr, List.flatMap_cons, Arrival.rounds, if_neg hcontent,
      portions_of_ne_nil hroom hcontent, rounds, List.flatMap_append, flatMap_rounds_leftover]
    rfl

/-- A read that brings nothing finds the end of the stream: there are no
rounds, or it takes an empty one. -/
theorem rounds_of_read_nil (hroom : 0 < room) (h : t.read room = (.ok [], after)) :
    (t.rounds room = [] ∧ after.rounds room = []) ∨
      t.rounds room = .bytes [] :: after.rounds room := by
  unfold read at h
  split at h
  · next hr =>
    cases h
    exact .inl ⟨by rw [rounds, hr]; rfl, by rw [rounds, hr]; rfl⟩
  · cases h
  · next content rest hr =>
    obtain ⟨htake, rfl⟩ := Prod.mk.inj h
    have hcontent : content = [] := by
      rcases List.take_eq_nil_iff.1 (Except.ok.inj htake) with hzero | hnil
      · omega
      · exact hnil
    subst hcontent
    refine .inr ?_
    rw [rounds, hr, List.flatMap_cons, rounds, List.flatMap_append, flatMap_rounds_leftover,
      List.drop_nil, portions_nil]
    rfl

/-! ### What a read takes away -/

theorem contents_leftover (room : Nat) (content : List UInt8) :
    contents (leftover room content) = content.drop room := by
  unfold leftover
  split
  · next h => rw [h]; rfl
  · exact List.append_nil _

theorem incoming_of_read_ok {bytes : List UInt8} (h : t.read room = (.ok bytes, after)) :
    t.incoming = bytes ++ after.incoming := by
  unfold read at h
  split at h
  · next hr =>
    cases h
    rfl
  · cases h
  · next content rest hr =>
    cases h
    rw [incoming, hr, incoming, Arrival.contents_cons, Arrival.contents_append, contents_leftover,
      ← List.append_assoc, List.take_append_drop, Arrival.content]

theorem incoming_of_read_error {failure : IoFailure} (h : t.read room = (.error failure, after)) :
    t.incoming = after.incoming := by
  unfold read at h
  split at h
  · cases h
  · next hr =>
    cases h
    rw [incoming, hr]
    rfl
  · cases h

end Transport

namespace Assembler

open Transport SpeechWire.Frame
open Arrival (contents contents_append contents_map_bytes)

/-! ### Gathering as a pass -/

/-- One pass over the rounds: what comes of it with `buffer` received before, and
the rounds it leaves. -/
def collect (limit : Nat) (buffer : Buffer) :
    List Arrival → Except Fault (List UInt8) × List Arrival
  | [] => (.error .closed, [])
  | .failure failure :: later => (.error (.io failure), later)
  | .bytes bytes :: later =>
    match absorb limit buffer (.ok bytes) with
    | .finished result _ => (result, later)
    | .underway buffer => collect limit buffer later

theorem collect_of_finished {limit : Nat} {buffer : Buffer} {bytes : List UInt8}
    {result : Except Fault (List UInt8)} {events : List Event}
    (h : absorb limit buffer (.ok bytes) = .finished result events) (later : List Arrival) :
    collect limit buffer (.bytes bytes :: later) = (result, later) := by
  rw [collect, h]

theorem collect_of_underway {limit : Nat} {buffer next : Buffer} {bytes : List UInt8}
    (h : absorb limit buffer (.ok bytes) = .underway next) (later : List Arrival) :
    collect limit buffer (.bytes bytes :: later) = collect limit next later := by
  rw [collect, h]

/-- **Gathering is a pass over the rounds of the transport**, and what it leaves
on the transport is the rounds that the pass leaves. -/
theorem gather_eq_collect (assembler : Assembler) (t : Transport) :
    ((assembler.gather t).result, (assembler.gather t).transport.rounds assembler.room) =
      collect assembler.limit assembler.buffer (t.rounds assembler.room) := by
  have h := gathers assembler t
  generalize assembler.gather t = outcome at h ⊢
  induction h with
  | @last assembler t after found result events hread habsorb =>
    cases absorbs habsorb with
    | failed hf => rw [rounds_of_read_error hread, if_neg hf, collect]
    | ended =>
      rcases rounds_of_read_nil assembler.room_pos hread with ⟨hnone, hafter⟩ | hround
      · rw [hnone, collect, hafter]
      · rw [hround, collect_of_finished habsorb]
    | tooLong hne | whole hne => rw [rounds_of_read_bytes hread hne, collect_of_finished habsorb]
  | next hread habsorb _ ih =>
    cases absorbs habsorb with
    | interrupted hf =>
      rw [rounds_of_read_error hread, if_pos hf]
      exact ih
    | more hne =>
      rw [rounds_of_read_bytes hread hne, collect_of_underway habsorb]
      exact ih

theorem readFrame_eq_collect (assembler : Assembler) (t : Transport) :
    ((assembler.readFrame t).result, (assembler.readFrame t).transport.rounds assembler.room) =
      collect assembler.limit .empty (t.rounds assembler.room) :=
  gather_eq_collect assembler.clear t

/-! ### Frames that a pass gives -/

/-- **A pass that gives a frame** has taken rounds of bytes, and the frame is
what was held and these bytes. -/
theorem collect_eq_ok {limit : Nat} {buffer : Buffer} {frame : List UInt8}
    {rounds later : List Arrival} (h : collect limit buffer rounds = (.ok frame, later)) :
    ∃ used : List (List UInt8), rounds = used.map .bytes ++ later ∧
      frame = buffer.toList ++ used.flatten ∧ Frame.isComplete frame = true := by
  fun_induction collect limit buffer rounds with
  | case1 | case2 => cases h
  | case3 buffer bytes rest result events habsorb =>
    obtain ⟨rfl, rfl⟩ := Prod.mk.inj h
    cases absorbs habsorb with
    | whole hne hfits hcomplete => exact ⟨[bytes], rfl, by simp, hcomplete⟩
  | case4 buffer bytes rest next habsorb ih =>
    obtain ⟨used, rfl, rfl, hframe⟩ := ih h
    cases absorbs habsorb with
    | more => exact ⟨bytes :: used, rfl, by simp, hframe⟩

/-- Portions that complete the frame at their end and nowhere before are taken
all, and no round after them. -/
theorem collect_portions {limit : Nat} (later : List Arrival) :
    ∀ {portions : List (List UInt8)} {buffer : Buffer}, portions ≠ [] →
      (∀ portion ∈ portions, portion ≠ []) → IsFirst (buffer.toList ++ portions.flatten) →
      (buffer.toList ++ portions.flatten).length ≤ limit →
      collect limit buffer (portions.map .bytes ++ later) =
        (.ok (buffer.toList ++ portions.flatten), later)
  | [], _, hne, _, _, _ => absurd rfl hne
  | portion :: portions, buffer, _, hparts, hfirst, hlimit => by
    have hportion : portion ≠ [] := hparts portion List.mem_cons_self
    rw [List.flatten_cons, ← List.append_assoc] at hfirst hlimit ⊢
    have hfits : ¬ limit < (buffer.toList ++ portion).length := by
      rw [List.length_append] at hlimit
      omega
    have hrest : ∀ p ∈ portions, p ≠ [] := fun p hp => hparts p (List.mem_cons_of_mem _ hp)
    rw [List.map_cons, List.cons_append]
    cases habsorb : absorb limit buffer (.ok portion) with
    | finished result events =>
      rw [collect_of_finished habsorb]
      cases absorbs habsorb with
      | ended => exact absurd rfl hportion
      | tooLong _ hlong => exact absurd hlong hfits
      | whole _ _ hcomplete =>
        -- the frame is complete nowhere before its end, so this portion is the last
        have hlast := hfirst.isComplete_front_iff.1 hcomplete
        have hnone : portions = [] := by
          by_contra hmore
          obtain ⟨next, more, rfl⟩ := List.exists_cons_of_ne_nil hmore
          exact hrest next List.mem_cons_self (List.append_eq_nil_iff.1 hlast).1
        rw [hlast, hnone, List.append_nil]
        rfl
    | underway next =>
      rw [collect_of_underway habsorb]
      cases absorbs habsorb with
      | more _ _ hopen =>
        have hmore : portions ≠ [] := by
          rintro rfl
          rw [List.flatten_nil, List.append_nil] at hfirst
          exact hopen hfirst.isComplete
        rw [← Buffer.toList_append] at hfirst hlimit ⊢
        exact collect_portions later hmore hrest hfirst hlimit

/-- A frame that is read stood at the front of the bytes that waited. -/
theorem readFrame_prefix {assembler : Assembler} {t : Transport} {frame : List UInt8}
    (h : (assembler.readFrame t).result = .ok frame) :
    t.incoming = frame ++ (assembler.readFrame t).transport.incoming ∧
      Frame.isComplete frame = true := by
  have hpass := readFrame_eq_collect assembler t
  rw [h] at hpass
  obtain ⟨used, hrounds, hframe, hcomplete⟩ := collect_eq_ok hpass.symm
  have hcontents := congrArg contents hrounds
  rw [Transport.contents_rounds assembler.room_pos, contents_append, contents_map_bytes,
    Transport.contents_rounds assembler.room_pos] at hcontents
  rw [Buffer.toList_empty, List.nil_append] at hframe
  exact ⟨hframe ▸ hcontents, hcomplete⟩

end Assembler
end SpeechWire
