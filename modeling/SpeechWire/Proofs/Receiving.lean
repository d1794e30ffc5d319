/-
# A stream of requests is cut where its requests end

A receiver that knows which kinds of request come in which order cuts a
command off at the first line end of what remains and a block at the first
end of data (`Receiver.split?`). On the stream of any requests these are the
ends of the requests themselves, if no word of a command holds a line end;
payloads may hold anything.

For a block this needs less than a server that reads line by line asks for:
the receiver starts after the line end of the command before it, so a dot
alone on the first line of a payload, which escaping leaves as it is, makes
no end of data. Of the other lines none is a dot alone (`dot_not_mem_tail`),
so an end of data closes the payload or stands behind it.

Key definitions: `Command.IsOneLine`, `Request.kind`, `Request.content`.
Key theorems: `Block.not_endOfData_prefix_drop`, `Receiver.cutAt?_wire`,
`Receiver.split?_wire`.
-/
import SpeechWire.Proofs.BlockEnd

namespace SpeechWire

namespace Lines

variable {α : Type} [Newline α]

open Newline

/-- Lines with a unit between them that is neither mark are one line. -/
theorem unbroken_append_cons {c : α} (hcr : c ≠ cr) (hlf : c ≠ lf) {back : List α}
    (hback : Unbroken back) : ∀ {front : List α}, Unbroken front → Unbroken (front ++ c :: back)
  | [], _ => (unbroken_cons_iff hcr back).2 hback
  | a :: front, hfront => by
    have ih := unbroken_append_cons hcr hlf hback (unbroken_tail hfront)
    intro hi
    rcases List.infix_cons_iff.1 hi with hp | hi
    · -- the line end would stand at the front, and its LF in `front` or at `c`
      obtain ⟨rfl, hnext⟩ := List.cons_prefix_cons.1 hp
      cases front with
      | nil => exact hlf (List.cons_prefix_cons.1 hnext).1.symm
      | cons b front =>
        obtain ⟨rfl, -⟩ := List.cons_prefix_cons.1 hnext
        exact hfront ⟨[], front, rfl⟩
    · exact ih hi

variable [DecidableEq α]

/-- A text starts with another if its lines start with those of the other. -/
theorem isPrefix_of_split {x y : List α} (h : split x <+: split y) : x <+: y := by
  obtain ⟨later, hs⟩ := h
  by_cases hl : later = []
  · rw [hl, List.append_nil, split_inj] at hs
    exact hs ▸ List.prefix_refl x
  · obtain ⟨u, v, rfl, hu, -⟩ := (split_eq_append_iff (split_ne_nil x) hl).1 hs.symm
    obtain rfl := split_inj.1 hu
    exact ⟨crlf ++ v, (List.append_assoc u crlf v).symm⟩

end Lines

theorem Utf8.unbroken_bytes {chars : List Char} (h : Lines.Unbroken chars) :
    Lines.Unbroken (bytes chars) := by
  have hsplit : Lines.split (bytes chars) = [bytes chars] := by
    rw [split_bytes, Lines.split_of_unbroken chars h, List.map_singleton]
  have hmem : bytes chars ∈ Lines.split (bytes chars) := by
    rw [hsplit]
    exact List.mem_singleton_self _
  exact Lines.unbroken_of_mem_split hmem

/-! ### Commands -/

namespace Command

open Lines

/-- Whether the command is read as one line: none of its words holds a line end. -/
def IsOneLine (c : Command) : Prop := ∀ word ∈ c.verb :: c.arguments, Unbroken word.toList

instance (c : Command) : Decidable c.IsOneLine :=
  inferInstanceAs (Decidable (∀ word ∈ c.verb :: c.arguments, Unbroken word.toList))

theorem unbroken_intercalate : ∀ {words : List String}, (∀ word ∈ words, Unbroken word.toList) →
    Unbroken (" ".intercalate words).toList
  | [], _ => by simp [unbroken_nil]
  | [word], h => by simpa using h
  | word :: next :: words, h => by
    have ih := unbroken_intercalate fun w hw => h w (List.mem_cons_of_mem word hw)
    have hspace : (word ++ " " ++ " ".intercalate (next :: words)).toList =
        word.toList ++ ' ' :: (" ".intercalate (next :: words)).toList := by simp
    rw [String.intercalate_cons_cons, hspace]
    exact unbroken_append_cons (by decide) (by decide) ih (h word List.mem_cons_self)

theorem IsOneLine.unbroken_text {c : Command} (h : c.IsOneLine) : Unbroken c.text.toList :=
  unbroken_intercalate h

end Command

/-! ### Blocks -/

namespace Block

open Lines Receiver

/-- Of the lines of an escaped payload only the first can be a dot alone. -/
theorem dot_not_mem_tail (payload : String) : dot ∉ (split (content payload)).tail := by
  obtain ⟨first, later, hs⟩ := List.exists_cons_of_ne_nil (split_ne_nil payload.toList)
  have hdot : Utf8.bytes ['.'] = dot := by decide
  rw [content, Utf8.encode_eq_bytes, Utf8.split_bytes, split_escape, hs, doubleLater, List.map_cons,
    List.tail_cons, ← hdot, List.mem_map_of_injective fun _ _ => Utf8.bytes_injective]
  exact dot_not_mem_map_double later

/-- **No end of data stands in a block before its own**, whatever follows the
block. -/
theorem not_endOfData_prefix_drop (payload : String) (rest : List UInt8) {i : Nat}
    (hi : i < (content payload).length) :
    ¬ Utf8.encode endOfData <+: (encode payload ++ rest).drop i := by
  rintro ⟨z, hz⟩
  set front := (content payload).take i with hfront
  have hwhole : encode payload ++ rest = content payload ++ crlf ++ (dot ++ crlf ++ rest) := by
    rw [encode_eq]
    simp only [List.append_assoc]
  have hcut : content payload ++ crlf ++ (dot ++ crlf ++ rest) =
      front ++ crlf ++ (dot ++ crlf ++ z) := by
    calc content payload ++ crlf ++ (dot ++ crlf ++ rest)
        = (encode payload ++ rest).take i ++ (encode payload ++ rest).drop i := by
          rw [List.take_append_drop, hwhole]
      _ = front ++ (Utf8.encode endOfData ++ z) := by
          rw [← hz, hwhole, List.append_assoc (content payload),
            List.take_append_of_le_length (Nat.le_of_lt hi)]
      _ = front ++ crlf ++ (dot ++ crlf ++ z) := by
          rw [encode_endOfData]
          simp only [List.append_assoc]
  have hdot : Unbroken dot := by decide
  have hsplit := congrArg split hcut
  rw [split_append_crlf, split_line_append dot rest hdot, split_append_crlf,
    split_line_append dot z hdot] at hsplit
  have hshort : ¬ split (content payload) <+: split front := by
    intro hp
    have hle := (isPrefix_of_split hp).length_le
    rw [hfront, List.length_take] at hle
    omega
  -- the dot of this mark would be a later line of the payload
  rcases List.append_eq_append_iff.1 hsplit with ⟨later, hlines, -⟩ | ⟨later, hlines, hrest⟩
  · exact hshort ⟨later, hlines.symm⟩
  · cases later with
    | nil =>
      rw [List.append_nil] at hlines
      exact hshort (hlines ▸ List.prefix_refl _)
    | cons line later =>
      obtain ⟨rfl, -⟩ := List.cons.inj hrest
      refine dot_not_mem_tail payload ?_
      obtain ⟨first, lines, hf⟩ := List.exists_cons_of_ne_nil (split_ne_nil front)
      rw [hlines, hf]
      simp

theorem endOfData_prefix_drop_encode_iff (payload : String) (i : Nat) :
    Utf8.encode endOfData <+: (encode payload).drop i ↔
      i + (Utf8.encode endOfData).length = (encode payload).length := by
  have hlen : (encode payload).length =
      (content payload).length + (Utf8.encode endOfData).length := by
    rw [encode, List.length_append]
    rfl
  have hpos : 0 < (Utf8.encode endOfData).length := by
    rw [encode_endOfData]
    decide
  constructor
  · intro hp
    have hle := hp.length_le
    rw [List.length_drop] at hle
    by_contra hne
    refine not_endOfData_prefix_drop payload [] (i := i) (by omega) ?_
    rwa [List.append_nil]
  · intro hi
    obtain rfl : i = (content payload).length := by omega
    exact ⟨[], by rw [List.append_nil, encode_eq, List.drop_left, encode_endOfData]⟩

end Block

/-! ### Requests -/

namespace Request

/-- The kind of the request. -/
def kind : Request → Receiver.Kind
  | .command _ => .command
  | .data _ => .data

/-- The bytes of the request without the mark that closes it: the text of a
command, the escaped payload of a block. -/
def content : Request → List UInt8
  | .command c => Utf8.encode c.text
  | .data payload => Utf8.encode (Block.escape payload)

/-- Whether a command is one line; a payload may hold any lines. -/
def IsWhole : Request → Prop
  | .command c => c.IsOneLine
  | .data _ => True

instance : (request : Request) → Decidable request.IsWhole
  | .command c => inferInstanceAs (Decidable c.IsOneLine)
  | .data _ => inferInstanceAs (Decidable True)

end Request

namespace Receiver

open Lines

theorem encode_newline : Utf8.encode newline = crlf := by
  rw [newline, Utf8.encode_ofList, Utf8.bytes_crlf]

theorem wire_command (c : Command) :
    (Request.command c).wire = Utf8.encode c.text ++ crlf := by
  rw [Request.wire, c.encode_eq, Utf8.encode_eq_bytes, String.toList_append, Utf8.bytes_append,
    ← Utf8.encode_eq_bytes, ← Utf8.encode_eq_bytes, encode_newline]

/-- **Each request is cut off whole**, and what follows it is left. -/
theorem cutAt?_wire {request : Request} (h : request.IsWhole) (rest : List UInt8) :
    cutAt? request.kind.closing (request.wire ++ rest) = some (request.content, rest) := by
  cases request with
  | command c =>
    have hline : Unbroken (Utf8.encode c.text) := by
      rw [Utf8.encode_eq_bytes]
      exact Utf8.unbroken_bytes (Command.IsOneLine.unbroken_text h)
    rw [wire_command, Request.kind, Kind.closing, encode_newline]
    exact cutAt?_line hline rest
  | data payload =>
    have hmark : Kind.closing .data ≠ [] := by
      rw [Kind.closing, Block.encode_endOfData]
      exact List.append_ne_nil_of_right_ne_nil _ crlf_ne_nil
    exact (cutAt?_eq_some_iff hmark).2
      ⟨rfl, fun i hi => Block.not_endOfData_prefix_drop payload rest hi⟩

/-- **A stream of requests is read in one way.** Knowing only the kinds, a
receiver gets back the text of each command and each escaped payload, in
order, and leaves just what follows the last request; for it finds the end of
data in a block at its end and nowhere else. -/
theorem split?_wire (requests : List Request) (h : ∀ request ∈ requests, request.IsWhole)
    (rest : List UInt8) :
    split? (requests.map Request.kind) (requests.flatMap Request.wire ++ rest) =
        some (requests.map Request.content, rest) ∧
      ∀ (payload : String) (i : Nat),
        Utf8.encode Block.endOfData <+: (Block.encode payload).drop i ↔
          i + (Utf8.encode Block.endOfData).length = (Block.encode payload).length := by
  refine ⟨?_, Block.endOfData_prefix_drop_encode_iff⟩
  induction requests with
  | nil => rfl
  | cons request requests ih =>
    have hcut := cutAt?_wire (h request List.mem_cons_self)
      (requests.flatMap Request.wire ++ rest)
    rw [List.map_cons, List.flatMap_cons, List.append_assoc, split?, hcut]
    simp only [ih fun r hr => h r (List.mem_cons_of_mem request hr), Option.map_some, List.map_cons]

/-- A block between two commands: a dot alone on its first line and on its
last, and a CR and an LF of a command with a space between them. -/
def dottedRequests : List Request :=
  [.command ⟨"SPEAK", []⟩, .data ".\r\n.", .command ⟨"SET\r", ["\nX"]⟩]

/-- They are told apart, and the byte after them is left. -/
theorem split?_wire_dottedRequests :
    (∀ request ∈ dottedRequests, request.IsWhole) ∧
    split? [.command, .data, .command] (dottedRequests.flatMap Request.wire ++ [0x42]) =
      some ([Utf8.encode "SPEAK", Utf8.encode ".\r\n..", Utf8.encode "SET\r \nX"], [0x42]) := by
  have hwhole : ∀ request ∈ dottedRequests, request.IsWhole := by decide
  have hcontents : dottedRequests.map Request.content =
      [Utf8.encode "SPEAK", Utf8.encode ".\r\n..", Utf8.encode "SET\r \nX"] := by decide +kernel
  have hsplit := (split?_wire dottedRequests hwhole [0x42]).1
  rw [hcontents] at hsplit
  exact ⟨hwhole, hsplit⟩

end Receiver
end SpeechWire
