/-
# Reading comes to an end and repeats nothing

A call that reads a frame goes on only after a read that was interrupted or
brought bytes (`Arrival.GoesOn`). Each of these takes an interruption or a
byte out of the transport, so there cannot be more of them than there are
interruptions and bytes in it; one read more ends the call
(`Transport.pending_read_lt`, `Assembler.gather_reads`).

The reads of all calls on one reader are the reads of the transport one after
another (`Transport.afterReads`). What they hand out, byte by byte and
failure by failure, is what waited at the start, from the front
(`Transport.waiting_eq`); so nothing is handed out again, by whichever call.

How much one read asks for is at least one byte. A reader that was given none
as its chunk size therefore reads as one that was given one, and a read brings
nothing only at the end of the stream (`Transport.read_eq_nil_iff`).

Key definitions: `Arrival.items`, `Arrival.GoesOn`, `Transport.afterReads`,
`Transport.found`, `Transport.waiting`, `Transport.AtEnd`.
Key theorems: `Assembler.gather_reads`, `Transport.waiting_eq`,
`Assembler.readMany_congr`, `Assembler.calls_end_and_repeat_nothing`.
-/
import Mathlib.Logic.Function.Iterate
import SpeechWire.Proofs.Bounds

namespace SpeechWire

/-! ### What a read can bring -/

namespace Arrival

/-- A read seen as what it found. -/
def ofRead : Except IoFailure (List UInt8) → Arrival
  | .ok content => .bytes content
  | .error cause => .failure cause

theorem ofRead_eq_nil_iff {found : Except IoFailure (List UInt8)} :
    ofRead found = .bytes [] ↔ found = .ok [] := by
  cases found <;> simp [ofRead]

/-- The bytes of an arrival one by one, or its failure. -/
def items : Arrival → List (UInt8 ⊕ IoFailure)
  | .bytes content => content.map .inl
  | .failure cause => [.inr cause]

/-- How many interruptions an arrival is. -/
def interruptions : Arrival → Nat
  | .bytes _ => 0
  | .failure cause => if cause.isInterrupted then 1 else 0

/-- Whether a call that finds this may read again: it was interrupted, or it has
got bytes. -/
def GoesOn : Arrival → Prop
  | .bytes content => content ≠ []
  | .failure cause => cause.isInterrupted = true

end Arrival

namespace Transport

/-- The interruptions that wait to be found. -/
def interruptions (t : Transport) : Nat := Arrival.total Arrival.interruptions t.reads

/-- The bytes and the failures that wait to be found, in order. -/
def waiting (t : Transport) : List (UInt8 ⊕ IoFailure) := t.reads.flatMap Arrival.items

/-- The stream ends here: nothing waits, or an arrival without bytes. -/
def AtEnd (t : Transport) : Prop := t.reads = [] ∨ ∃ later, t.reads = .bytes [] :: later

/-- The transport after `k` reads. -/
def afterReads (room : Nat) (t : Transport) (k : Nat) : Transport :=
  (fun u => (u.read room).2)^[k] t

/-- What the read finds that comes after `k` others. -/
def found (room : Nat) (t : Transport) (k : Nat) : Arrival :=
  .ofRead ((t.afterReads room k).read room).1

/-! ### One read -/

variable {room : Nat}

theorem items_leftover (content : List UInt8) :
    (leftover room content).flatMap Arrival.items = (content.drop room).map .inl := by
  unfold leftover
  split
  · next h => rw [h]; rfl
  · exact List.append_nil _

theorem unread_leftover (content : List UInt8) :
    Arrival.total Arrival.unread (leftover room content) = (content.drop room).length := by
  unfold leftover
  split
  · next h => rw [h]; rfl
  · rfl

theorem interruptions_leftover (content : List UInt8) :
    Arrival.total Arrival.interruptions (leftover room content) = 0 := by
  unfold leftover
  split <;> rfl

theorem waiting_read (room : Nat) (t : Transport) :
    t.waiting = (Arrival.ofRead (t.read room).1).items ++ (t.read room).2.waiting := by
  unfold read
  split
  · next hr => simp [waiting, hr, Arrival.ofRead, Arrival.items]
  · next hr => simp [waiting, hr, Arrival.ofRead, Arrival.items]
  · next content rest hr =>
    rw [waiting, hr, List.flatMap_cons]
    simp only [Arrival.ofRead, Arrival.items, waiting, List.flatMap_append, items_leftover]
    rw [← List.append_assoc, ← List.map_append, List.take_append_drop]

/-- A read after which a call can go on leaves a byte or an interruption less. -/
theorem pending_read_lt {t : Transport} (h : (Arrival.ofRead (t.read room).1).GoesOn) :
    (t.read room).2.unread + (t.read room).2.interruptions < t.unread + t.interruptions := by
  unfold read at h ⊢
  split at h
  · exact absurd rfl h
  · next failure rest hr =>
    have hint : failure.isInterrupted = true := h
    simp only [unread, interruptions, hr, Arrival.total, Arrival.unread, Arrival.interruptions,
      hint, if_true]
    omega
  · next content rest hr =>
    have hlt : (content.drop room).length < content.length := length_drop_lt h
    simp only [unread, interruptions, hr, Arrival.total, Arrival.unread, Arrival.interruptions,
      Arrival.total_append, unread_leftover, interruptions_leftover]
    omega

/-- **A read that asks for something brings nothing only at the end of the stream.** -/
theorem read_eq_nil_iff (hroom : 0 < room) (t : Transport) :
    (t.read room).1 = .ok [] ↔ t.AtEnd := by
  unfold read AtEnd
  split
  · next hr => simp [hr]
  · next hr => simp [hr]
  · next content rest hr =>
    have htake : content.take room = [] ↔ content = [] := by
      rw [List.take_eq_nil_iff, or_iff_right (Nat.ne_of_gt hroom)]
    simp [hr, htake]

/-! ### Reads one after another -/

theorem afterReads_succ (room : Nat) (t : Transport) (k : Nat) :
    t.afterReads room (k + 1) = (t.read room).2.afterReads room k :=
  Function.iterate_succ_apply _ k t

theorem afterReads_succ' (room : Nat) (t : Transport) (k : Nat) :
    t.afterReads room (k + 1) = ((t.afterReads room k).read room).2 :=
  Function.iterate_succ_apply' _ k t

theorem afterReads_add (room : Nat) (t : Transport) (n k : Nat) :
    t.afterReads room (n + k) = (t.afterReads room n).afterReads room k := by
  unfold afterReads
  rw [Nat.add_comm, Function.iterate_add_apply]

theorem found_zero {t after : Transport} {answer : Except IoFailure (List UInt8)}
    (hread : t.read room = (answer, after)) : t.found room 0 = .ofRead answer := by
  have hfirst : (t.read room).1 = answer := congrArg Prod.fst hread
  exact congrArg Arrival.ofRead hfirst

theorem found_succ (room : Nat) (t : Transport) (k : Nat) :
    t.found room (k + 1) = (t.read room).2.found room k := by
  rw [found, afterReads_succ, found]

theorem readCalls_afterReads (room : Nat) (t : Transport) (k : Nat) :
    (t.afterReads room k).readCalls = t.readCalls + k := by
  induction k with
  | zero => rfl
  | succ k ih => rw [afterReads_succ', readCalls_read, ih, Nat.add_assoc]

/-- **What the reads have found and what still waits is what waited at first.** -/
theorem waiting_eq (room : Nat) (t : Transport) (k : Nat) :
    t.waiting = (List.range k).flatMap (fun i => (t.found room i).items) ++
      (t.afterReads room k).waiting := by
  induction k with
  | zero => rfl
  | succ k ih =>
    rw [afterReads_succ', List.range_succ, List.flatMap_append, List.flatMap_singleton,
      List.append_assoc, found, ← waiting_read]
    exact ih

/-- Reads after which a call can go on are no more than the bytes and the
interruptions that they take away. -/
theorem pending_afterReads_le {t : Transport} {k : Nat} (h : ∀ i < k, (t.found room i).GoesOn) :
    (t.afterReads room k).unread + (t.afterReads room k).interruptions + k ≤
      t.unread + t.interruptions := by
  induction k with
  | zero => exact Nat.le_refl _
  | succ k ih =>
    have hbefore := ih fun i hi => h i (Nat.lt_succ_of_lt hi)
    have hlast := pending_read_lt (h k (Nat.lt_succ_self k))
    rw [afterReads_succ']
    omega

end Transport

namespace Assembler

open Transport SpeechWire.Frame

/-! ### The reads of a call -/

/-- The reads that a call makes from `t` on, with its `result`: any number after
which it can go on, and one more, which leaves `left`. It takes the stream for
closed just if that one brings nothing. -/
def Reads (room : Nat) (t : Transport) (result : Except Fault (List UInt8)) (left : Transport) :
    Prop :=
  ∃ k, left = t.afterReads room (k + 1) ∧ (∀ i < k, (t.found room i).GoesOn) ∧
    (result = .error .closed ↔ t.found room k = .bytes [])

namespace Reads

variable {room : Nat} {t after left : Transport} {answer : Except IoFailure (List UInt8)}
  {result : Except Fault (List UInt8)}

theorem now (hread : t.read room = (answer, after))
    (hresult : result = .error .closed ↔ answer = .ok []) : Reads room t result after := by
  refine ⟨0, ?_, nofun, ?_⟩
  · rw [afterReads_succ, hread]
    rfl
  · rw [found_zero hread, Arrival.ofRead_eq_nil_iff]
    exact hresult

theorem later (hread : t.read room = (answer, after)) (hon : (Arrival.ofRead answer).GoesOn)
    (h : Reads room after result left) : Reads room t result left := by
  obtain ⟨k, hleft, hbefore, hresult⟩ := h
  have hsucc : ∀ i, t.found room (i + 1) = after.found room i := by
    intro i
    rw [found_succ, hread]
  refine ⟨k + 1, ?_, ?_, ?_⟩
  · rw [hleft, afterReads_succ room t, hread]
  · intro i hi
    cases i with
    | zero =>
      rw [found_zero hread]
      exact hon
    | succ i =>
      rw [hsucc]
      exact hbefore i (Nat.lt_of_succ_lt_succ hi)
  · rw [hsucc]
    exact hresult

end Reads

/-- **Each round of a call is one of its reads.** -/
theorem gather_reads (assembler : Assembler) (t : Transport) :
    Reads assembler.room t (assembler.gather t).result (assembler.gather t).transport := by
  have h := gathers assembler t
  generalize assembler.gather t = outcome at h ⊢
  induction h with
  | last hread habsorb =>
    refine .now hread ?_
    cases absorbs habsorb with
    | failed hf => simp
    | ended => simp
    | tooLong hne | whole hne => simp [hne]
  | next hread habsorb _ ih =>
    cases absorbs habsorb with
    | interrupted hf => exact .later hread hf ih
    | more hne => exact .later hread hne ih

/-! ### What the size of a read decides -/

section
variable {a b : Assembler}

/-- Readers under the same limit that ask for as much and hold the same read the
same. -/
theorem gather_congr (hroom : b.room = a.room) (hlimit : b.limit = a.limit)
    (hbuffer : b.buffer = a.buffer) (t : Transport) :
    (b.gather t).leave () = (a.gather t).leave () := by
  have h := gathers a t
  generalize a.gather t = outcome at h ⊢
  induction h generalizing b with
  | last hread habsorb =>
    rw [← hroom] at hread
    rw [← hlimit, ← hbuffer] at habsorb
    rw [gather_of_finished hread habsorb]
    rfl
  | next hread habsorb _ ih =>
    rw [← hroom] at hread
    rw [← hlimit, ← hbuffer] at habsorb
    rw [gather_of_underway hread habsorb]
    exact ih hroom hlimit rfl

theorem readFrame_congr (hroom : b.room = a.room) (hlimit : b.limit = a.limit) (t : Transport) :
    (b.readFrame t).leave () = (a.readFrame t).leave () :=
  gather_congr (a := a.clear) (b := b.clear) hroom hlimit rfl t

theorem readMany_congr (hroom : b.room = a.room) (hlimit : b.limit = a.limit) (calls : Nat)
    (t : Transport) : readMany calls b t = readMany calls a t := by
  induction calls generalizing a b t with
  | zero => rfl
  | succ calls ih =>
    have hleave := readFrame_congr hroom hlimit t
    have hresult := congrArg Outcome.result hleave
    have htransport := congrArg Outcome.transport hleave
    have hevents := congrArg Outcome.events hleave
    simp only [Outcome.leave, Outcome.mapState] at hresult htransport hevents
    have hreport : (b.readAndCount t).report t = (a.readAndCount t).report t := by
      simp only [Outcome.report, readAndCount, Outcome.mapResult, buffered_readFrame, hresult,
        htransport, hevents]
    have hlater : readMany calls (b.readFrame t).state (b.readFrame t).transport =
        readMany calls (a.readFrame t).state (a.readFrame t).transport := by
      rw [state_readFrame, state_readFrame, htransport]
      exact ih (a := a.clear) (b := b.clear) hroom hlimit _
    exact congrArg₂ List.cons hreport hlater

theorem afterCalls_congr (hroom : b.room = a.room) (hlimit : b.limit = a.limit) (calls : Nat)
    (t : Transport) : (afterCalls b t calls).2 = (afterCalls a t calls).2 := by
  induction calls with
  | zero => rfl
  | succ calls ih =>
    have hleave := readFrame_congr hroom hlimit (afterCalls a t calls).2
    have htransport := congrArg Outcome.transport hleave
    simp only [afterCalls, readFrame_afterCalls, ih]
    exact htransport

end

/-! ### Several calls -/

/-- What calls leave is what reads leave. -/
theorem exists_afterReads_eq_afterCalls (assembler : Assembler) (t : Transport) (calls : Nat) :
    ∃ n, (afterCalls assembler t calls).2 = t.afterReads assembler.room n := by
  induction calls with
  | zero => exact ⟨0, rfl⟩
  | succ calls ih =>
    obtain ⟨n, hn⟩ := ih
    obtain ⟨k, hk, -⟩ := gather_reads assembler.clear (afterCalls assembler t calls).2
    refine ⟨n + (k + 1), ?_⟩
    rw [afterReads_add, ← hn, afterCalls, readFrame_afterCalls]
    exact hk

/-- **Reading ends, and it repeats nothing.** Whatever calls were made before, the
next one reads at most once for each byte and each interruption that waits,
and once more; and it is closed exactly if its last read finds the end of the
stream. All the reads of all these calls are reads of the transport one after
another, and what they hand out, byte by byte and failure by failure, is what
waited at first, up to what is left. None as a chunk size is the same as one,
in every report and for the transport. -/
theorem calls_end_and_repeat_nothing (assembler : Assembler) (t : Transport) (calls : Nat) :
    let before := (afterCalls assembler t calls).2
    let outcome := (afterCalls assembler t calls).1.readFrame before
    (∃ n k, before = t.afterReads assembler.room n ∧
      outcome.transport = t.afterReads assembler.room (n + (k + 1)) ∧
      outcome.transport.readCalls = before.readCalls + (k + 1) ∧
      k + 1 ≤ before.unread + before.interruptions + 1 ∧
      (outcome.result = .error .closed ↔ (t.afterReads assembler.room (n + k)).AtEnd) ∧
      t.waiting = (List.range (n + (k + 1))).flatMap (fun i => (t.found assembler.room i).items) ++
        outcome.transport.waiting) ∧
    readMany calls { assembler with chunkSize := 0 } t =
      readMany calls { assembler with chunkSize := 1 } t ∧
    (afterCalls { assembler with chunkSize := 0 } t calls).2 =
      (afterCalls { assembler with chunkSize := 1 } t calls).2 := by
  intro before outcome
  have hroom : Assembler.room { assembler with chunkSize := 0 } =
    Assembler.room { assembler with chunkSize := 1 } := rfl
  refine ⟨?_, readMany_congr hroom rfl calls t, afterCalls_congr hroom rfl calls t⟩
  obtain ⟨n, hn⟩ := exists_afterReads_eq_afterCalls assembler t calls
  obtain ⟨k, hleft, hbefore, hclosed⟩ := gather_reads assembler.clear before
  have houtcome : outcome = assembler.readFrame before := readFrame_afterCalls _ _ _ _
  have htransport : outcome.transport = before.afterReads assembler.room (k + 1) := by
    rw [houtcome]
    exact hleft
  have hreads : outcome.transport = t.afterReads assembler.room (n + (k + 1)) := by
    rw [htransport, afterReads_add _ t, ← hn]
  refine ⟨n, k, hn, hreads, ?_, ?_, ?_, ?_⟩
  · rw [htransport, readCalls_afterReads]
  · have hle := pending_afterReads_le hbefore
    omega
  · have hend : (t.afterReads assembler.room (n + k)).AtEnd ↔
        before.found assembler.room k = .bytes [] := by
      rw [afterReads_add, ← hn, ← read_eq_nil_iff assembler.room_pos, found]
      exact Arrival.ofRead_eq_nil_iff.symm
    rw [houtcome, hend]
    exact hclosed
  · rw [hreads]
    exact waiting_eq _ t _

end Assembler
end SpeechWire
