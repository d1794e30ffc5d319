/-
# Several frames on one stream

A reader keeps nothing from one frame to the next. So a read that brings the
end of one frame and the start of the next gives both to the first: frames
that follow each other on a stream come back one by one exactly if each of
them ends where a read ends (`Aligned`), however the reads cut them otherwise.
A read ends where an arrival ends, or where the bytes asked for are reached.

The list of portions that the reads bring is all that matters. One call takes
portions off its front until they complete a frame; the theorem is an
induction on the frames.

Key definitions: `Piece.portions`, `Assembler.Aligned`.
Key theorems: `Assembler.readFrame_portions`, `Assembler.results_readMany_iff`,
`Assembler.readMany_eq_frames_iff`.
-/
import SpeechWire.Proofs.Rounds

namespace SpeechWire

namespace Piece

/-- The bytes that reads of at most `room` bytes bring of pieces, read by read. -/
def portions (room : Nat) (pieces : List Piece) : List (List UInt8) :=
  pieces.flatMap fun piece => Arrival.portions room piece.bytes

theorem ne_nil_of_mem_portions {room : Nat} {pieces : List Piece} :
    ∀ portion ∈ portions room pieces, portion ≠ [] := by
  intro portion hp
  obtain ⟨piece, -, hp⟩ := List.mem_flatMap.1 hp
  exact Arrival.ne_nil_of_mem_portions portion hp

theorem rounds_arrivals (room : Nat) (pieces : List Piece) :
    (arrivals pieces).flatMap (Arrival.rounds room) = (portions room pieces).map .bytes := by
  induction pieces with
  | nil => rfl
  | cons piece pieces ih =>
    have hpassed : (piece.interruptions.map fun message =>
        Arrival.failure (interruption message)).flatMap (Arrival.rounds room) = [] := by
      rw [List.flatMap_eq_nil_iff]
      intro arrival ha
      obtain ⟨message, -, rfl⟩ := List.mem_map.1 ha
      rfl
    have hfound : piece.found.flatMap (Arrival.rounds room) =
        (Arrival.portions room piece.bytes).map .bytes := by
      rw [found, List.flatMap_append, hpassed, List.nil_append, List.flatMap_cons, List.flatMap_nil,
        List.append_nil, Arrival.rounds, if_neg piece.bytes_ne_nil]
    calc (arrivals (piece :: pieces)).flatMap (Arrival.rounds room)
        = piece.found.flatMap (Arrival.rounds room) ++
            (arrivals pieces).flatMap (Arrival.rounds room) := by
          rw [arrivals, List.flatMap_cons, List.flatMap_append, ← arrivals]
      _ = (Arrival.portions room piece.bytes ++ portions room pieces).map .bytes := by
          rw [hfound, ih, List.map_append]
      _ = (portions room (piece :: pieces)).map .bytes := by
          rw [portions, portions, List.flatMap_cons]

theorem flatten_portions {room : Nat} (hroom : 0 < room) (pieces : List Piece) :
    (portions room pieces).flatten = contents pieces := by
  induction pieces with
  | nil => rfl
  | cons piece pieces ih =>
    rw [portions, List.flatMap_cons, List.flatten_append, Arrival.flatten_portions hroom,
      ← portions, ih, contents_cons]

end Piece

namespace Assembler

open Transport SpeechWire.Frame

/-- Whether each frame ends where a read ends: the portions that the reads
bring fall into groups, one for each frame and in their order, and each group
brings just that frame. -/
def Aligned (portions frames : List (List UInt8)) : Prop :=
  ∃ groups : List (List (List UInt8)), groups.flatten = portions ∧ groups.map List.flatten = frames

theorem map_bytes_inj {a b : List (List UInt8)} :
    a.map Arrival.bytes = b.map Arrival.bytes ↔ a = b :=
  List.map_inj_right fun _ _ h => Arrival.bytes.inj h

/-- **One frame off the front.** Portions that are a frame make one call give
it, and the call leaves the portions behind them. -/
theorem readFrame_portions {assembler : Assembler} {t : Transport} {used rest : List (List UInt8)}
    (ht : t.rounds assembler.room = (used ++ rest).map .bytes)
    (hparts : ∀ portion ∈ used, portion ≠ []) (hfirst : IsFirst used.flatten)
    (hlimit : used.flatten.length ≤ assembler.limit) :
    (assembler.readFrame t).result = .ok used.flatten ∧
      (assembler.readFrame t).transport.rounds assembler.room = rest.map .bytes := by
  have hne : used ≠ [] := by
    rintro rfl
    exact absurd hfirst.isComplete (by decide)
  have hcollect : collect assembler.limit .empty (used.map .bytes ++ rest.map .bytes) =
      (.ok used.flatten, rest.map .bytes) := collect_portions _ hne hparts hfirst hlimit
  rw [← List.map_append, ← ht, ← readFrame_eq_collect] at hcollect
  exact Prod.mk.inj hcollect

/-- A frame that a call gives is made of the portions at the front. -/
theorem exists_portions_of_readFrame {assembler : Assembler} {t : Transport}
    {portions : List (List UInt8)} (ht : t.rounds assembler.room = portions.map .bytes)
    {frame : List UInt8} (h : (assembler.readFrame t).result = .ok frame) :
    ∃ used rest, portions = used ++ rest ∧ used.flatten = frame ∧
      (assembler.readFrame t).transport.rounds assembler.room = rest.map .bytes := by
  have hpass := readFrame_eq_collect assembler t
  rw [h, ht] at hpass
  obtain ⟨front, hrounds, hframe, -⟩ := collect_eq_ok hpass.symm
  obtain ⟨used, rest, rfl, hused, hrest⟩ := List.map_eq_append_iff.1 hrounds
  obtain rfl := map_bytes_inj.1 hused
  exact ⟨used, rest, rfl, hframe.symm, hrest.symm⟩

theorem results_readMany_succ (calls : Nat) (assembler : Assembler) (t : Transport) :
    (readMany (calls + 1) assembler t).map (·.result.1) = (assembler.readFrame t).result ::
      (readMany calls assembler.clear (assembler.readFrame t).transport).map (·.result.1) := by
  rw [← state_readFrame assembler t]
  rfl

/-- **Frames come back one by one exactly if they are aligned with the reads.** -/
theorem results_readMany_iff {frames : List (List UInt8)} : ∀ {assembler : Assembler}
    {t : Transport} {portions : List (List UInt8)},
    (∀ frame ∈ frames, IsFirst frame ∧ frame.length ≤ assembler.limit) →
    t.rounds assembler.room = portions.map .bytes → (∀ portion ∈ portions, portion ≠ []) →
    portions.flatten = frames.flatten →
    ((readMany frames.length assembler t).map (·.result.1) = frames.map .ok ↔
      Aligned portions frames) := by
  induction frames with
  | nil =>
    intro assembler t portions _ _ hparts hflat
    have hnone : portions = [] := by
      cases portions with
      | nil => rfl
      | cons portion portions =>
        obtain ⟨hportion, -⟩ := List.append_eq_nil_iff.1 (List.flatten_cons.symm.trans hflat)
        exact absurd hportion (hparts portion List.mem_cons_self)
    exact iff_of_true rfl ⟨[], hnone.symm, rfl⟩
  | cons frame frames ih =>
    intro assembler t portions hframes ht hparts hflat
    obtain ⟨hfirst, hlimit⟩ := hframes frame List.mem_cons_self
    have hlater := fun f (hf : f ∈ frames) => hframes f (List.mem_cons_of_mem frame hf)
    -- what is left after the first frame is aligned with the later ones, or neither is
    have hnext : ∀ {used rest : List (List UInt8)}, portions = used ++ rest → used.flatten = frame →
        (assembler.readFrame t).transport.rounds assembler.room = rest.map .bytes →
        ((readMany frames.length assembler.clear (assembler.readFrame t).transport).map
          (·.result.1) = frames.map .ok ↔ Aligned rest frames) := by
      rintro used rest rfl rfl hrest
      rw [List.flatten_append, List.flatten_cons] at hflat
      have hcleared : (assembler.readFrame t).transport.rounds assembler.clear.room =
          rest.map .bytes := hrest
      exact ih hlater hcleared (fun portion hp => hparts portion (List.mem_append_right used hp))
        (List.append_cancel_left hflat)
    rw [List.length_cons, results_readMany_succ, List.map_cons, List.cons.injEq]
    constructor
    · rintro ⟨hresult, hresults⟩
      obtain ⟨used, rest, rfl, hused, hrest⟩ := exists_portions_of_readFrame ht hresult
      obtain ⟨groups, rfl, hgroups⟩ := (hnext rfl hused hrest).1 hresults
      exact ⟨used :: groups, rfl, by rw [List.map_cons, hgroups, hused]⟩
    · rintro ⟨groups, rfl, hgroups⟩
      obtain ⟨used, groups, rfl⟩ : ∃ used rest, groups = used :: rest := by
        cases groups with
        | nil => cases hgroups
        | cons used rest => exact ⟨used, rest, rfl⟩
      obtain ⟨rfl, hothers⟩ := List.cons.inj hgroups
      obtain ⟨hresult, hrest⟩ := readFrame_portions ht
        (fun portion hp => hparts portion (List.mem_append_left _ hp)) hfirst hlimit
      exact ⟨hresult, (hnext rfl rfl hrest).2 ⟨groups, rfl, hothers⟩⟩

/-- **Well-formed frames on one stream.** Successive calls give back just these
frames, one each and in order, if and only if each of them ends where a read
ends. Otherwise a read that holds the end of one and the start of the next
merges, cuts or loses some of them. -/
theorem readMany_eq_frames_iff (assembler : Assembler) (frames : List WellFormed)
    (hlimit : ∀ frame ∈ frames, frame.bytes.length ≤ assembler.limit) {pieces : List Piece}
    (hpieces : Piece.contents pieces = frames.flatMap WellFormed.bytes) {t : Transport}
    (ht : t.reads = Piece.arrivals pieces) :
    (readMany frames.length assembler t).map (·.result.1) =
        frames.map (fun frame => .ok frame.bytes) ↔
      Aligned (Piece.portions assembler.room pieces) (frames.map WellFormed.bytes) := by
  have hframes : ∀ frame ∈ frames.map WellFormed.bytes,
      IsFirst frame ∧ frame.length ≤ assembler.limit := by
    intro frame hf
    obtain ⟨whole, hw, rfl⟩ := List.mem_map.1 hf
    exact ⟨whole.isFirst_bytes, hlimit whole hw⟩
  have hrounds : t.rounds assembler.room =
      (Piece.portions assembler.room pieces).map .bytes := by
    rw [rounds, ht, Piece.rounds_arrivals]
  have hflat : (Piece.portions assembler.room pieces).flatten =
      (frames.map WellFormed.bytes).flatten := by
    rw [Piece.flatten_portions assembler.room_pos, hpieces, List.flatMap_def]
  have hiff := results_readMany_iff hframes hrounds Piece.ne_nil_of_mem_portions hflat
  rwa [List.length_map, List.map_map] at hiff

/-- Two frames of seven bytes that arrive together. -/
def twoTogether : List WellFormed := [.oneLine [65] (by decide), .oneLine [66] (by decide)]

/-- What arrives. -/
def oneArrival : List Piece := [⟨[], twoTogether.flatMap WellFormed.bytes, by decide⟩]

/-- Reads of seven bytes end where the frames do: they come back one by one. -/
theorem readMany_eq_frames_iff_twoTogether :
    (∀ frame ∈ twoTogether, frame.bytes.length ≤ 64) ∧
    Piece.contents oneArrival = twoTogether.flatMap WellFormed.bytes ∧
    (readMany 2 ⟨7, 64, .empty⟩ (.ofScript { reads := Piece.arrivals oneArrival })).map
      (·.result.1) = twoTogether.map (fun frame => .ok frame.bytes) := by
  have hlimit : ∀ frame ∈ twoTogether, frame.bytes.length ≤ 64 := by decide
  have hpieces : Piece.contents oneArrival = twoTogether.flatMap WellFormed.bytes := by decide
  have haligned : Aligned (Piece.portions 7 oneArrival) (twoTogether.map WellFormed.bytes) :=
    ⟨[[[50, 53, 48, 32, 65, 13, 10]], [[50, 53, 48, 32, 66, 13, 10]]], by decide +kernel, by decide⟩
  have hiff := readMany_eq_frames_iff ⟨7, 64, .empty⟩ twoTogether hlimit hpieces
    (t := .ofScript { reads := Piece.arrivals oneArrival }) rfl
  exact ⟨hlimit, hpieces, hiff.2 haligned⟩

/-- A read that brings both gives both to the first call, and the second finds
the end of the stream. -/
theorem readMany_merges_twoTogether :
    (readMany 2 ⟨64, 64, .empty⟩ (.ofScript { reads := Piece.arrivals oneArrival })).map
      (·.result.1) = [.ok (twoTogether.flatMap WellFormed.bytes), .error .closed] ∧
    ¬ ∀ (assembler : Assembler) (frames : List WellFormed) (pieces : List Piece),
      (∀ frame ∈ frames, frame.bytes.length ≤ assembler.limit) →
      Piece.contents pieces = frames.flatMap WellFormed.bytes →
      (readMany frames.length assembler (.ofScript { reads := Piece.arrivals pieces })).map
        (·.result.1) = frames.map (fun frame => .ok frame.bytes) := by
  have hmerged : (readMany 2 ⟨64, 64, .empty⟩
      (.ofScript { reads := Piece.arrivals oneArrival })).map (·.result.1) =
        [.ok (twoTogether.flatMap WellFormed.bytes), .error .closed] := by decide +kernel
  refine ⟨hmerged, fun hall => ?_⟩
  have hone := hall ⟨64, 64, .empty⟩ twoTogether oneArrival (by decide) (by decide)
  have hboth := hmerged.symm.trans hone
  revert hboth
  decide

end Assembler
end SpeechWire
