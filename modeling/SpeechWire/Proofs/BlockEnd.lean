/-
# Where a data block ends

A receiver takes a block line by line, up to the first line that is one dot
(`Receiver.readBlock?`). A block follows a command line, so a line end stands
before it, and the end of data must not stand anywhere in it but at its end.

Escaping doubles a dot alone on any line but the first (`split_escape`), so
that is so for every payload but those whose first line is a dot alone
(`OpensWithDot`). Such a payload is sent with that line as it is, and the
receiver takes it for the end: what is left of the payload is read as
commands.

Key definitions: `Receiver.readBlock?`, `Block.OpensWithDot`.
Key theorems: `Receiver.cutAt?_eq_some_iff`, `Receiver.readBlock?_lines`,
`Block.ends_only_at_end_iff`.
-/
import Mathlib.Data.List.Basic
import SpeechWire.Proofs.Bytes
import SpeechWire.Proofs.Escaping
import SpeechWire.Request

namespace SpeechWire
namespace Receiver

open Lines

/-! ### Cutting at the first mark -/

/-- A cut is made at the first place where the mark stands. -/
theorem cutAt?_eq_some_iff {mark : List UInt8} (hm : mark ≠ []) :
    ∀ {stream before after : List UInt8}, cutAt? mark stream = some (before, after) ↔
      stream = before ++ mark ++ after ∧ ∀ i < before.length, ¬ mark <+: stream.drop i
  | [], before, after => by simp [cutAt?, hm]
  | b :: stream, before, after => by
    rw [cutAt?]
    by_cases hp : mark <+: b :: stream
    · rw [if_pos hp]
      have hdrop : b :: stream = mark ++ (b :: stream).drop mark.length :=
        List.prefix_iff_eq_append.1 hp |>.symm
      constructor
      · intro h
        obtain ⟨rfl, rfl⟩ := Prod.mk.inj (Option.some.inj h)
        exact ⟨hdrop, fun i hi => absurd hi (Nat.not_lt_zero i)⟩
      · rintro ⟨hs, hfirst⟩
        cases before with
        | nil => rw [hs, List.nil_append, List.drop_left]
        | cons c before => exact absurd hp (hfirst 0 (Nat.succ_pos _))
    · rw [if_neg hp]
      constructor
      · intro h
        obtain ⟨⟨front, back⟩, hcut, he⟩ := Option.map_eq_some_iff.1 h
        obtain ⟨rfl, rfl⟩ := Prod.mk.inj he
        obtain ⟨hs, hfirst⟩ := (cutAt?_eq_some_iff hm).1 hcut
        refine ⟨by rw [hs]; rfl, fun i hi => ?_⟩
        cases i with
        | zero => exact hp
        | succ i => exact hfirst i (Nat.lt_of_succ_lt_succ hi)
      · rintro ⟨hs, hfirst⟩
        cases before with
        | nil => exact absurd ⟨after, hs.symm⟩ hp
        | cons c before =>
          obtain ⟨rfl, hstream⟩ := List.cons.inj hs
          have hcut : cutAt? mark stream = some (before, after) :=
            (cutAt?_eq_some_iff hm).2 ⟨hstream, fun i hi => hfirst (i + 1) (Nat.succ_lt_succ hi)⟩
          rw [hcut]
          rfl

theorem crlf_ne_nil : (crlf : List UInt8) ≠ [] := List.cons_ne_nil _ _

theorem cutAt?_line {line : List UInt8} (h : Unbroken line) (rest : List UInt8) :
    cutAt? crlf (line ++ crlf ++ rest) = some (line, rest) := by
  refine (cutAt?_eq_some_iff crlf_ne_nil).2 ⟨rfl, fun i hi hp => ?_⟩
  obtain ⟨z, hz⟩ := hp
  have htake : (line ++ crlf ++ rest).take i = line.take i := by
    rw [List.append_assoc, List.take_append_of_le_length (Nat.le_of_lt hi)]
  have hcut : line ++ crlf ++ rest = line.take i ++ crlf ++ z := by
    rw [List.append_assoc (line.take i), hz, ← htake, List.take_append_drop]
  have hfront : Unbroken (line.take i) := fun hc => h (hc.trans (List.take_prefix i line).isInfix)
  have hsplit := congrArg split hcut
  rw [split_line_append _ _ h, split_line_append _ _ hfront] at hsplit
  have hlen := congrArg List.length (List.cons.inj hsplit).1
  rw [List.length_take] at hlen
  omega

theorem unbroken_of_cutAt? {stream line rest : List UInt8}
    (h : cutAt? crlf stream = some (line, rest)) :
    stream = line ++ crlf ++ rest ∧ Unbroken line := by
  obtain ⟨hstream, hfirst⟩ := (cutAt?_eq_some_iff crlf_ne_nil).1 h
  refine ⟨hstream, ?_⟩
  rintro ⟨front, back, rfl⟩
  -- the cut would have been made after `front` already
  have hlt : front.length < (front ++ crlf ++ back).length := by
    simp only [List.length_append, crlf, List.length_cons]
    omega
  refine hfirst front.length hlt ⟨back ++ crlf ++ rest, ?_⟩
  have hfront : stream = front ++ (crlf ++ (back ++ crlf ++ rest)) := by
    rw [hstream]
    simp only [List.append_assoc]
  rw [hfront, List.drop_left]

theorem length_lt_of_cutAt? {stream line rest : List UInt8}
    (h : cutAt? crlf stream = some (line, rest)) : rest.length < stream.length := by
  rw [(unbroken_of_cutAt? h).1]
  simp only [List.length_append, crlf, List.length_cons]
  omega

/-! ### A block taken line by line -/

/-- The line that ends a block. -/
def dot : List UInt8 := [0x2e]

/-- Takes a block off a stream line by line, up to the first line that is one
dot: the lines before that one, and what follows it. -/
def readBlock? (stream : List UInt8) : Option (List (List UInt8) × List UInt8) :=
  match _ : cutAt? crlf stream with
  | none => none
  | some (line, rest) =>
    if line = dot then some ([], rest)
    else (readBlock? rest).map fun (lines, left) => (line :: lines, left)
termination_by stream.length
decreasing_by exact length_lt_of_cutAt? ‹_›

/-- The line that is cut off decides. -/
theorem readBlock?_of_cutAt? {stream line rest : List UInt8}
    (h : cutAt? crlf stream = some (line, rest)) : readBlock? stream =
      if line = dot then some ([], rest)
      else (readBlock? rest).map fun (lines, left) => (line :: lines, left) := by
  rw [readBlock?]
  split
  · next hn => rw [hn] at h; cases h
  · next hs =>
    obtain ⟨rfl, rfl⟩ := Prod.mk.inj (Option.some.inj (h.symm.trans hs))
    rfl

theorem readBlock?_dot (rest : List UInt8) : readBlock? (dot ++ crlf ++ rest) = some ([], rest) := by
  rw [readBlock?_of_cutAt? (cutAt?_line (by decide) rest), if_pos rfl]

theorem readBlock?_line {line : List UInt8} (h : Unbroken line) (hd : line ≠ dot)
    (rest : List UInt8) : readBlock? (line ++ crlf ++ rest) =
      (readBlock? rest).map fun (lines, left) => (line :: lines, left) := by
  rw [readBlock?_of_cutAt? (cutAt?_line h rest), if_neg hd]

/-- **Lines that are no dot alone are taken, with the dot after them and no
more.** -/
theorem readBlock?_lines : ∀ {lines : List (List UInt8)}, (∀ line ∈ lines, Unbroken line) →
    dot ∉ lines → ∀ rest : List UInt8,
      readBlock? (lines.flatMap (· ++ crlf) ++ (dot ++ crlf ++ rest)) = some (lines, rest)
  | [], _, _, rest => readBlock?_dot rest
  | line :: lines, h, hd, rest => by
    have hne : line ≠ dot := fun e => hd (e ▸ List.mem_cons_self)
    have ih := readBlock?_lines (fun l hl => h l (List.mem_cons_of_mem _ hl))
      (fun hm => hd (List.mem_cons_of_mem _ hm)) rest
    rw [List.flatMap_cons, List.append_assoc (line ++ crlf),
      readBlock?_line (h line List.mem_cons_self) hne, ih]
    rfl

end Receiver

namespace Block

open Lines Receiver

/-- Whether the first line of the payload is a dot alone. -/
def OpensWithDot (payload : String) : Prop := (split payload.toList).head? = some ['.']

instance (payload : String) : Decidable (OpensWithDot payload) :=
  inferInstanceAs (Decidable (_ = _))

/-- Such a payload is one dot, or starts with a dot and a line end. -/
theorem opensWithDot_iff (payload : String) :
    OpensWithDot payload ↔ payload.toList = ['.'] ∨ ∃ rest, payload.toList = ['.'] ++ crlf ++ rest := by
  unfold OpensWithDot
  constructor
  · intro h
    obtain ⟨later, hs⟩ := List.head?_eq_some_iff.1 h
    by_cases hl : later = []
    · subst hl
      exact .inl (split_inj.1 (hs.trans (split_of_unbroken ['.'] (by decide)).symm))
    · obtain ⟨x, y, hxy, hx, -⟩ := (split_eq_append_iff (List.cons_ne_nil ['.'] []) hl).1 hs
      obtain rfl : x = ['.'] := split_inj.1 (hx.trans (split_of_unbroken ['.'] (by decide)).symm)
      exact .inr ⟨y, hxy⟩
  · rintro (h | ⟨rest, h⟩)
    · rw [h]
      rfl
    · rw [h, split_line_append _ _ (by decide)]
      rfl

/-! ### The bytes of a block -/

/-- The escaped payload as bytes. -/
def content (payload : String) : List UInt8 := Utf8.encode (escape payload)

theorem encode_endOfData : Utf8.encode endOfData = crlf ++ dot ++ crlf := by
  rw [Utf8.encode_eq_bytes, toList_endOfData]
  decide

theorem encode_eq (payload : String) : encode payload = content payload ++ (crlf ++ dot ++ crlf) := by
  rw [encode, encode_endOfData]
  rfl

theorem encode_eq_lines (payload : String) : encode payload =
    (split (content payload)).flatMap (· ++ crlf) ++ (dot ++ crlf) := by
  rw [flatMap_append_crlf (split_ne_nil _), join_split, encode_eq]
  simp only [List.append_assoc]

/-- The escaped payload has a dot alone on a line only where the payload
opens with one. -/
theorem dot_mem_split_content_iff (payload : String) :
    dot ∈ split (content payload) ↔ OpensWithDot payload := by
  obtain ⟨first, later, hs⟩ := List.exists_cons_of_ne_nil (split_ne_nil payload.toList)
  have hdot : Utf8.bytes ['.'] = dot := by decide
  rw [content, Utf8.encode_eq_bytes, Utf8.split_bytes, split_escape, OpensWithDot, hs, doubleLater,
    List.head?_cons, Option.some_inj, ← hdot, List.mem_map_of_injective fun _ _ => Utf8.bytes_injective,
    List.mem_cons, or_iff_left (dot_not_mem_map_double later), eq_comm]

theorem content_of_opensWithDot {payload : String} (h : OpensWithDot payload) :
    ∃ later, split (content payload) = dot :: later := by
  obtain ⟨later, hs⟩ := List.head?_eq_some_iff.1 h
  rw [content, Utf8.encode_eq_bytes, Utf8.split_bytes, split_escape, hs]
  exact ⟨_, rfl⟩

/-! ### Payloads that do not open with a dot -/

/-- A block after a line end, in lines: the dot that closes it stands between
the lines of the payload and an empty rest. -/
theorem split_crlf_encode (payload : String) : split (crlf ++ encode payload) =
    ([] :: split (content payload)) ++ dot :: [[]] := by
  have hassoc : content payload ++ (crlf ++ dot ++ crlf) =
      content payload ++ crlf ++ (dot ++ crlf) := by simp only [List.append_assoc]
  rw [split_crlf_append, encode_eq, hassoc, split_append_crlf, split_append_crlf_self,
    split_of_unbroken dot (by decide)]
  rfl

/-- **The end of data stands in the block at its end and nowhere before.** -/
theorem endOfData_prefix_drop_iff {payload : String} (h : ¬ OpensWithDot payload) (i : Nat) :
    Utf8.encode endOfData <+: (crlf ++ encode payload).drop i ↔
      i + (Utf8.encode endOfData).length = (crlf ++ encode payload).length := by
  constructor
  · rintro ⟨z, hz⟩
    have hcut : crlf ++ encode payload =
        (crlf ++ encode payload).take i ++ crlf ++ (dot ++ crlf ++ z) := by
      conv => lhs; rw [← List.take_append_drop i (crlf ++ encode payload), ← hz, encode_endOfData]
      simp only [List.append_assoc]
    have hmem : dot ∉ ([] :: split (content payload) : List (List UInt8)) := by
      rw [List.mem_cons, not_or]
      exact ⟨by decide, fun hm => h ((dot_mem_split_content_iff payload).1 hm)⟩
    -- the dot of this mark and the dot that closes the block are the same line
    have hsplit := split_crlf_encode payload
    rw [hcut, split_append_crlf, split_line_append dot z (by decide)] at hsplit
    obtain ⟨-, -, hrest⟩ := (List.append_cons_inj_of_notMem hmem (by decide)).1 hsplit.symm
    obtain rfl := split_eq_singleton_nil_iff.1 hrest.symm
    have hlen := congrArg List.length hz
    have hpos : 0 < (Utf8.encode endOfData).length := by
      rw [encode_endOfData]
      decide
    rw [List.append_nil, List.length_drop] at hlen
    omega
  · intro hi
    have hfront : crlf ++ encode payload = crlf ++ content payload ++ Utf8.encode endOfData := by
      rw [encode_eq, encode_endOfData]
      simp only [List.append_assoc]
    have hlen : i = (crlf ++ content payload).length := by
      rw [hfront, List.length_append] at hi
      omega
    rw [hfront, hlen]
    exact ⟨[], by rw [List.drop_left, List.append_nil]⟩

/-- A receiver takes the whole block and nothing that follows it. -/
theorem readBlock?_encode {payload : String} (h : ¬ OpensWithDot payload) (rest : List UInt8) :
    readBlock? (encode payload ++ rest) = some (split (content payload), rest) := by
  rw [encode_eq_lines, List.append_assoc]
  exact readBlock?_lines (fun line hl => unbroken_of_mem_split hl)
    (fun hm => h ((dot_mem_split_content_iff payload).1 hm)) rest

/-! ### Payloads that do -/

/-- The dot ends the block, and the other lines are left in the stream. -/
theorem encode_of_opensWithDot {payload : String} (h : OpensWithDot payload) :
    ∃ left, encode payload = dot ++ crlf ++ left := by
  obtain ⟨later, hs⟩ := content_of_opensWithDot h
  refine ⟨later.flatMap (· ++ crlf) ++ (dot ++ crlf), ?_⟩
  rw [encode_eq_lines, hs, List.flatMap_cons, List.append_assoc]

theorem endOfData_prefix_of_opensWithDot {payload : String} (h : OpensWithDot payload) :
    Utf8.encode endOfData <+: crlf ++ encode payload := by
  obtain ⟨left, hl⟩ := encode_of_opensWithDot h
  refine ⟨left, ?_⟩
  rw [encode_endOfData, hl]
  simp only [List.append_assoc]

theorem readBlock?_of_opensWithDot {payload : String} (h : OpensWithDot payload)
    (rest : List UInt8) : ∃ left, readBlock? (encode payload ++ rest) = some ([], left) := by
  obtain ⟨left, hl⟩ := encode_of_opensWithDot h
  refine ⟨left ++ rest, ?_⟩
  rw [hl, List.append_assoc (dot ++ crlf), readBlock?_dot]

/-! ### The two together -/

/-- **A block ends once, unless its payload opens with a dot alone on a line.**
Sent after a line end, it holds the end of data at its own end and nowhere
before, and a receiver takes its lines and leaves what follows it, for exactly
the payloads whose first line is no dot alone: those that are not one dot and
do not start with a dot and a line end. -/
theorem ends_only_at_end_iff (payload : String) :
    ((∀ i, Utf8.encode endOfData <+: (crlf ++ encode payload).drop i ↔
        i + (Utf8.encode endOfData).length = (crlf ++ encode payload).length) ↔
      ¬ OpensWithDot payload) ∧
    ((∀ rest, readBlock? (encode payload ++ rest) = some (split (content payload), rest)) ↔
      ¬ OpensWithDot payload) ∧
    (OpensWithDot payload ↔
      payload.toList = ['.'] ∨ ∃ rest, payload.toList = ['.'] ++ crlf ++ rest) := by
  refine ⟨⟨fun hall hdot => ?_, endOfData_prefix_drop_iff⟩,
    ⟨fun hall hdot => ?_, readBlock?_encode⟩, opensWithDot_iff payload⟩
  · -- the mark at the front would have to be the one at the end
    have hlen := (hall 0).1 (endOfData_prefix_of_opensWithDot hdot)
    rw [encode_eq, encode_endOfData] at hlen
    simp only [List.length_append, crlf, List.length_cons, List.length_nil] at hlen
    omega
  · obtain ⟨left, hl⟩ := readBlock?_of_opensWithDot hdot []
    have e := Option.some.inj (hl.symm.trans (hall []))
    exact split_ne_nil _ (Prod.mk.inj e).1.symm

/-- A payload that opens with a dot: the line after it reaches the receiver as
a command. -/
theorem opening_dot_ends_early : ¬ ∀ i, Utf8.encode endOfData <+: (crlf ++ encode ".\r\nBYE").drop i ↔
    i + (Utf8.encode endOfData).length = (crlf ++ encode ".\r\nBYE").length := by
  intro hall
  have hdot : OpensWithDot ".\r\nBYE" := by decide +kernel
  have hlen := (hall 0).1 (endOfData_prefix_of_opensWithDot hdot)
  rw [encode_eq, encode_endOfData] at hlen
  simp only [List.length_append, crlf, List.length_cons, List.length_nil] at hlen
  omega

end Block
end SpeechWire
