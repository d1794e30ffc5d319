/-
# How much a reader holds and takes

One round of reading asks the transport once. It ends the call or leads to the
next round, and a call is such rounds up to the first that ends it
(`Assembler.exists_last_round`). From round to round the bytes held
grow by those that were taken from the transport, and as the limit is judged
before bytes are held, they never get more than the limit
(`Assembler.Advances`). So what a call takes is known from its last round: the
frame it gives is just what was taken, and a call that gives none has taken
what it held, at most the limit, and one read more.

Each call leaves the reader as it found it but empty, so all this holds of any
call of a run.

Key definitions: `Assembler.Passes`, `Assembler.Advances`,
`Assembler.afterCalls`.
Key theorems: `Assembler.exists_last_round`, `Assembler.Passes.advances`,
`Assembler.afterCalls_reader`, `Assembler.calls_bounded`.
-/
import Mathlib.Logic.Relation
import SpeechWire.Proofs.Rounds

namespace SpeechWire
namespace Assembler

open Transport SpeechWire.Frame

/-! ### The rounds of a call -/

/-- The rounds of a call, from one to a later one. -/
def Passes (assembler : Assembler) (t : Transport) (later : Assembler) (u : Transport) : Prop :=
  Relation.ReflTransGen (fun point next : Assembler × Transport =>
    point.1.round point.2 = .inr next) (assembler, t) (later, u)

/-- **A call is rounds up to the first that ends it.** -/
theorem exists_last_round (assembler : Assembler) (t : Transport) :
    ∃ last u, Passes assembler t last u ∧ last.round u = .inl (assembler.gather t) := by
  fun_induction gather assembler t with
  | case1 assembler t outcome hround => exact ⟨assembler, t, .refl, hround⟩
  | case2 assembler t next after hround ih =>
    obtain ⟨last, u, hpasses, hlast⟩ := ih
    exact ⟨last, u, .head hround hpasses, hlast⟩

/-! ### From round to round -/

/-- From one point of a call to a later one: under the same bounds, the bytes
taken in between are held in addition, and within the limit. -/
structure Advances (assembler : Assembler) (t : Transport) (later : Assembler) (u : Transport) :
    Prop where
  chunkSize : later.chunkSize = assembler.chunkSize
  limit : later.limit = assembler.limit
  taken : ∃ taken, t.incoming = taken ++ u.incoming ∧ later.held = assembler.held ++ taken
  fits : assembler.buffered ≤ assembler.limit → later.buffered ≤ later.limit

namespace Advances

variable {a b c : Assembler} {t u v : Transport}

theorem refl (a : Assembler) (t : Transport) : Advances a t a t :=
  ⟨rfl, rfl, ⟨[], rfl, (List.append_nil _).symm⟩, id⟩

theorem trans (h : Advances a t b u) (h' : Advances b u c v) : Advances a t c v := by
  obtain ⟨taken, hincoming, hheld⟩ := h.taken
  obtain ⟨more, hincoming', hheld'⟩ := h'.taken
  refine ⟨h'.chunkSize.trans h.chunkSize, h'.limit.trans h.limit, ⟨taken ++ more, ?_, ?_⟩,
    fun hfits => h'.fits (h.fits hfits)⟩
  · rw [hincoming, hincoming', List.append_assoc]
  · rw [hheld', hheld, List.append_assoc]

end Advances

/-- A round that leads to another takes what it holds in addition. -/
theorem advances_of_round {assembler later : Assembler} {t u : Transport}
    (h : assembler.round t = .inr (later, u)) : Advances assembler t later u := by
  obtain ⟨found, buffer, hread, habsorb, rfl⟩ := round_eq_inr h
  cases absorbs habsorb with
  | interrupted =>
    exact ⟨rfl, rfl, ⟨[], incoming_of_read_error hread, (List.append_nil _).symm⟩, id⟩
  | @more bytes _ hfits =>
    refine ⟨rfl, rfl, ⟨bytes, incoming_of_read_ok hread, held_hold _ _⟩, fun _ => ?_⟩
    rw [buffered_eq_length]
    exact (held_hold assembler bytes).symm ▸ Nat.not_lt.1 hfits

/-- **What a round keeps holds over all rounds of a call.** -/
theorem Passes.advances {assembler later : Assembler} {t u : Transport}
    (h : Passes assembler t later u) : Advances assembler t later u := by
  unfold Passes at h
  generalize hpoint : (later, u) = point at h
  induction h generalizing later u with
  | refl =>
    cases hpoint
    exact .refl _ _
  | @tail before _ _ hround ih =>
    subst hpoint
    exact (ih rfl).trans (advances_of_round hround)

/-- What the round that ends a call adds: one read at most, and a frame is what
was held and this read. -/
theorem last_of_round {assembler : Assembler} {t : Transport}
    {outcome : Outcome Assembler (Except Fault (List UInt8))}
    (h : assembler.round t = .inl outcome) : ∃ piece,
      t.incoming = piece ++ outcome.transport.incoming ∧ piece.length ≤ assembler.room ∧
      ∀ frame, outcome.result = .ok frame → frame = assembler.held ++ piece ∧
        Frame.isComplete frame = true ∧ frame.length ≤ assembler.limit := by
  obtain ⟨found, after, result, events, hread, habsorb, rfl⟩ := round_eq_inl h
  cases absorbs habsorb with
  | failed => exact ⟨[], incoming_of_read_error hread, Nat.zero_le _, nofun⟩
  | ended => exact ⟨[], incoming_of_read_ok hread, Nat.zero_le _, nofun⟩
  | tooLong => exact ⟨_, incoming_of_read_ok hread, length_le_of_read hread, nofun⟩
  | whole _ hfits hcomplete =>
    refine ⟨_, incoming_of_read_ok hread, length_le_of_read hread, ?_⟩
    rintro frame ⟨⟩
    exact ⟨rfl, hcomplete, Nat.not_lt.1 hfits⟩

/-! ### One call -/

theorem Passes.buffered_le {assembler later : Assembler} {t u : Transport}
    (h : Passes assembler.clear t later u) : later.buffered ≤ assembler.limit := by
  have hadvances := h.advances
  have hempty : assembler.clear.buffered ≤ assembler.clear.limit := Nat.zero_le _
  have hle := hadvances.fits hempty
  rwa [hadvances.limit] at hle

/-- What one call gives and takes: a frame is all that was taken, whole and
within the limit; without one no more was taken than the limit and one read. -/
theorem readFrame_takes (assembler : Assembler) (t : Transport) : ∃ taken,
    t.incoming = taken ++ (assembler.readFrame t).transport.incoming ∧
    match (assembler.readFrame t).result with
    | .ok frame => frame = taken ∧ Frame.isComplete frame = true ∧ frame.length ≤ assembler.limit
    | .error _ => taken.length ≤ assembler.limit + max assembler.chunkSize 1 := by
  obtain ⟨last, u, hpasses, hlast⟩ := exists_last_round assembler.clear t
  obtain ⟨hchunk, hlimit, ⟨taken, hincoming, hheld⟩, -⟩ := hpasses.advances
  obtain ⟨piece, hpiece, hroom, hframe⟩ := last_of_round hlast
  have hholds : last.held = taken := hheld
  refine ⟨taken ++ piece, by rw [hincoming, hpiece, List.append_assoc]; rfl, ?_⟩
  split
  · next frame hresult =>
    obtain ⟨rfl, hcomplete, hlength⟩ := hframe frame hresult
    rw [hlimit] at hlength
    exact ⟨by rw [hholds], hcomplete, hlength⟩
  · have hbuffered : taken.length ≤ assembler.limit := by
      rw [← hholds, ← buffered_eq_length]
      exact hpasses.buffered_le
    have hone : piece.length ≤ max assembler.chunkSize 1 := by
      rwa [room, hchunk] at hroom
    rw [List.length_append]
    exact Nat.add_le_add hbuffered hone

/-! ### Several calls -/

/-- The reader and the transport after so many calls. -/
def afterCalls (assembler : Assembler) (t : Transport) : Nat → Assembler × Transport
  | 0 => (assembler, t)
  | calls + 1 =>
    let before := afterCalls assembler t calls
    ((before.1.readFrame before.2).state, (before.1.readFrame before.2).transport)

theorem afterCalls_reader (assembler : Assembler) (t : Transport) (calls : Nat) :
    (afterCalls assembler t calls).1.clear = assembler.clear := by
  induction calls with
  | zero => rfl
  | succ calls ih =>
    rw [afterCalls, state_readFrame, ih]
    rfl

theorem readFrame_afterCalls (assembler : Assembler) (t u : Transport) (calls : Nat) :
    (afterCalls assembler t calls).1.readFrame u = assembler.readFrame u := by
  rw [readFrame, afterCalls_reader, ← readFrame]

/-- **The bounds of a reader hold over any number of calls.** Whatever the next
call gives, nothing is held after it. At each of its rounds, of which the last
one ends it, no more is held than the limit. A frame that it gives is not
empty, is complete and within the limit, and is just what it took from the
transport; if it gives none, it took no more than the limit and one read. -/
theorem calls_bounded (assembler : Assembler) (t : Transport) (calls : Nat) :
    let before := afterCalls assembler t calls
    let outcome := before.1.readFrame before.2
    outcome.state.buffered = 0 ∧
    (∀ later u, Passes before.1.clear before.2 later u → later.buffered ≤ assembler.limit) ∧
    (∃ last u, Passes before.1.clear before.2 last u ∧ last.round u = .inl outcome) ∧
    match outcome.result with
    | .ok frame => frame ≠ [] ∧ Frame.isComplete frame = true ∧ frame.length ≤ assembler.limit ∧
        before.2.incoming = frame ++ outcome.transport.incoming
    | .error _ => ∃ taken, before.2.incoming = taken ++ outcome.transport.incoming ∧
        taken.length ≤ assembler.limit + max assembler.chunkSize 1 := by
  intro before outcome
  have hreader : before.1.clear = assembler.clear := afterCalls_reader assembler t calls
  have hlimit : before.1.limit = assembler.limit :=
    (congrArg limit hreader : before.1.clear.limit = assembler.clear.limit)
  have hchunk : before.1.chunkSize = assembler.chunkSize :=
    (congrArg chunkSize hreader : before.1.clear.chunkSize = assembler.clear.chunkSize)
  refine ⟨buffered_readFrame _ _, ?_, exists_last_round _ _, ?_⟩
  · intro later u hpasses
    rw [← hlimit]
    exact hpasses.buffered_le
  · obtain ⟨taken, hincoming, htakes⟩ := readFrame_takes before.1 before.2
    rw [hlimit, hchunk] at htakes
    split at htakes
    · next frame hresult =>
      obtain ⟨rfl, hcomplete, hlength⟩ := htakes
      simp only [outcome, hresult]
      exact ⟨ne_nil_of_isComplete hcomplete, hcomplete, hlength, hincoming⟩
    · next fault hresult =>
      simp only [outcome, hresult]
      exact ⟨taken, hincoming, htakes⟩

end Assembler
end SpeechWire
