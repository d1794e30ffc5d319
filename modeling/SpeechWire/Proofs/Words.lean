/-
# The words of a command line

A command is a verb and the arguments that were appended to it, and nothing in
it is quoted. Its bytes are its text and a line end, however it is written
down. Whether they say what was meant depends on the words alone: neither the
spaces between them nor the line end after them can complete a line end that a
word holds half of, so one stands inside the line only where it stands inside
a word (`unbroken_text_iff`); and a receiver gets the words back just where
none of them holds a line end or a space (`readCommand?_encode_iff`). A CR or
an LF alone and an empty word do no harm.

Key definitions: `Argument.spelled`, `Command.Appending`, `Command.built`,
`Receiver.words`, `Receiver.readCommand?`.
Key theorems: `Command.built_eq`, `Command.unbroken_text_iff`,
`Lines.closesOnce_append_crlf_iff`, `Receiver.words_eq_iff`,
`Command.line_reads_back`.
-/
import SpeechWire.Proofs.Introduction

namespace SpeechWire

open Lines

/-! ### Where a line end can stand -/

theorem Utf8.unbroken_bytes_iff {chars : List Char} : Unbroken (bytes chars) ↔ Unbroken chars := by
  refine ⟨fun h hi => h ?_, unbroken_bytes⟩
  obtain ⟨front, back, rfl⟩ := hi
  rw [bytes_append, bytes_append, bytes_crlf]
  exact List.infix_append (bytes front) crlf (bytes back)

/-- The line end after a line is the only one if the line holds none. -/
theorem Lines.closesOnce_append_crlf_iff {line : List UInt8} :
    ClosesOnce (line ++ crlf) ↔ Unbroken line := by
  refine ⟨fun h => ?_, closesOnce_append_crlf⟩
  have hcut : Receiver.cutAt? crlf (line ++ crlf) = some (line, []) := by
    refine (Receiver.cutAt?_eq_some_iff Receiver.crlf_ne_nil).2 ⟨?_, fun i hi hp => ?_⟩
    · rw [List.append_nil]
    · have hend := (h i).1 hp
      rw [List.length_append, crlf, List.length_cons, List.length_singleton] at hend
      omega
  exact (Receiver.unbroken_of_cutAt? hcut).2

/-! ### Words between spaces -/

namespace Receiver

theorem not_mem_of_mem_splitOn {α : Type} [DecidableEq α] {a : α} :
    ∀ {units piece : List α}, piece ∈ units.splitOn a → a ∉ piece
  | [], piece, h => by
    obtain rfl : piece = [] := by simpa using h
    exact List.not_mem_nil
  | b :: units, piece, h => by
    obtain ⟨first, later, hs⟩ := List.exists_cons_of_ne_nil (List.splitOn_ne_nil a units)
    have ih : ∀ p ∈ first :: later, a ∉ p := fun p hp => not_mem_of_mem_splitOn (hs ▸ hp)
    rw [List.splitOn_cons_eq_if_modifyHead, hs] at h
    by_cases hb : b = a
    · rw [if_pos (beq_iff_eq.2 hb)] at h
      rcases List.mem_cons.1 h with rfl | h
      · exact List.not_mem_nil
      · exact ih piece h
    · rw [if_neg fun he => hb (beq_iff_eq.1 he), List.modifyHead_cons] at h
      rcases List.mem_cons.1 h with rfl | h
      · exact List.not_mem_cons_of_ne_of_not_mem (Ne.symm hb) (ih first List.mem_cons_self)
      · exact ih piece (List.mem_cons_of_mem first h)

/-- The words of a line, cut at each space. -/
def words (line : String) : List String := (line.toList.splitOn ' ').map String.ofList

/-- **Words are read from their own line.** The words of a line are the ones
that make it when put together, if none of them holds a space. -/
theorem words_eq_iff {line : String} {pieces : List String} :
    words line = pieces ↔
      pieces ≠ [] ∧ line = " ".intercalate pieces ∧ ∀ word ∈ pieces, ' ' ∉ word.toList := by
  constructor
  · rintro rfl
    refine ⟨?_, ?_, ?_⟩
    · simp [words, List.splitOn_ne_nil]
    · apply String.toList_inj.1
      have hlists : (words line).map String.toList = line.toList.splitOn ' ' := by
        simp [words]
      rw [String.toList_intercalate, hlists]
      exact List.intercalate_splitOn ' ' |>.symm
    · intro word hmem
      obtain ⟨piece, hpiece, rfl⟩ := List.mem_map.1 hmem
      rw [String.toList_ofList]
      exact not_mem_of_mem_splitOn hpiece
  · rintro ⟨hne, rfl, hspace⟩
    have hsplit : (" ".intercalate pieces).toList.splitOn ' ' = pieces.map String.toList := by
      rw [String.toList_intercalate]
      refine List.splitOn_intercalate ' ' (fun piece hmem => ?_) (by simpa using hne)
      obtain ⟨word, hword, rfl⟩ := List.mem_map.1 hmem
      exact hspace word hword
    rw [words, hsplit]
    simp

/-- Takes a command off a stream: the words of the line before the first line
end, if it is text, and what follows that line end. -/
def readCommand? (stream : List UInt8) :
    Option (Except Utf8.Flaw (List String) × List UInt8) :=
  (cutAt? crlf stream).map fun (line, rest) => ((Utf8.decode line).map words, rest)

theorem readCommand?_eq_ok_iff {stream rest : List UInt8} {pieces : List String} :
    readCommand? stream = some (.ok pieces, rest) ↔
      ∃ line, cutAt? crlf stream = some (Utf8.encode line, rest) ∧ words line = pieces := by
  constructor
  · intro h
    obtain ⟨⟨front, left⟩, hcut, hread⟩ := Option.map_eq_some_iff.1 h
    obtain ⟨hwords, rfl⟩ := Prod.mk.inj hread
    cases hd : Utf8.decode front with
    | error flaw =>
      rw [hd] at hwords
      cases hwords
    | ok line =>
      rw [hd] at hwords
      obtain rfl := Utf8.decode_eq_ok_iff.1 hd
      exact ⟨line, hcut, Except.ok.inj hwords⟩
  · rintro ⟨line, hcut, rfl⟩
    rw [readCommand?, hcut, Option.map_some]
    dsimp only
    rw [Utf8.decode_encode]
    rfl

end Receiver

/-! ### Commands -/

/-- The word that an argument should stand as: a text is the word itself, a number
is written in decimal and a flag as one of two words. -/
def Argument.spelled : Argument → String
  | .word text => text
  | .number value => toString value
  | .flag value => if value then "true" else "false"

theorem Argument.text_eq_spelled (argument : Argument) : argument.text = argument.spelled := by
  cases argument with
  | word text => rfl
  | number value => cases value <;> rfl
  | flag value => cases value <;> rfl

namespace Command

/-- A way to append to a command. -/
inductive Appending where
  | one (argument : Argument)
  | several (arguments : List Argument)

/-- The command with what is appended. -/
def Appending.apply : Appending → Command → Command
  | .one argument => arg argument
  | .several arguments => args arguments

/-- The words that are appended, in order. -/
def Appending.words : Appending → List String
  | .one argument => [argument.spelled]
  | .several arguments => arguments.map Argument.spelled

/-- The command made of a verb by appending to it step by step. -/
def built (verb : String) (steps : List Appending) : Command :=
  steps.foldl (fun command step => step.apply command) ⟨verb, []⟩

/-- Appending puts words behind those that are there and changes nothing else. -/
theorem apply_eq (step : Appending) (c : Command) :
    step.apply c = { c with arguments := c.arguments ++ step.words } := by
  cases step with
  | one argument => rw [Appending.apply, arg, argument.text_eq_spelled, Appending.words]
  | several arguments =>
    rw [Appending.apply, args, funext Argument.text_eq_spelled, Appending.words]

theorem foldl_apply (steps : List Appending) : ∀ c : Command,
    steps.foldl (fun command step => step.apply command) c =
      { c with arguments := c.arguments ++ steps.flatMap Appending.words } := by
  induction steps with
  | nil => intro c; simp
  | cons step steps ih =>
    intro c
    rw [List.foldl_cons, ih, apply_eq, List.flatMap_cons]
    simp only [List.append_assoc]

/-- **The arguments are the words appended, in the order of the steps.** -/
theorem built_eq (verb : String) (steps : List Appending) :
    built verb steps = ⟨verb, steps.flatMap Appending.words⟩ := by
  rw [built, foldl_apply, List.nil_append]

theorem encodeCommand_arguments (c : Command) :
    encodeCommand c.verb (c.arguments.map .word) = c.encode := by
  have hwords : (c.arguments.map Argument.word).map Argument.text = c.arguments := by
    rw [List.map_map]
    exact List.map_id _
  rw [encodeCommand, args, hwords, List.nil_append]

theorem isInfix_intercalate {words : List String} {word : String} (h : word ∈ words) :
    word.toList <:+: (" ".intercalate words).toList := by
  induction words with
  | nil => cases h
  | cons first later ih =>
    cases later with
    | nil =>
      obtain rfl := List.mem_singleton.1 h
      simp
    | cons next later =>
      rw [String.intercalate_cons_cons, String.toList_append, String.toList_append]
      rcases List.mem_cons.1 h with rfl | h
      · rw [List.append_assoc]
        exact (List.prefix_append _ _).isInfix
      · exact (ih h).trans (List.suffix_append _ _).isInfix

/-- **No line end comes about by writing words side by side.** -/
theorem unbroken_text_iff {c : Command} : Unbroken c.text.toList ↔ c.IsOneLine :=
  ⟨fun h _ hmem hi => h (hi.trans (isInfix_intercalate hmem)), IsOneLine.unbroken_text⟩

theorem encode_bytes (c : Command) :
    Utf8.encode c.encode = Utf8.encode c.text ++ crlf := Receiver.wire_command c

theorem unbroken_encode_text_iff {c : Command} :
    Unbroken (Utf8.encode c.text) ↔ c.IsOneLine := by
  rw [Utf8.encode_eq_bytes, Utf8.unbroken_bytes_iff, unbroken_text_iff]

/-- **A receiver gets the words of a command back** if none of them holds a
line end or a space, and only then. -/
theorem readCommand?_encode_iff (c : Command) (rest : List UInt8) :
    Receiver.readCommand? (Utf8.encode c.encode ++ rest) = some (.ok (c.verb :: c.arguments), rest) ↔
      ∀ word ∈ c.verb :: c.arguments, Unbroken word.toList ∧ ' ' ∉ word.toList := by
  rw [encode_bytes, Receiver.readCommand?_eq_ok_iff]
  constructor
  · rintro ⟨line, hcut, hwords⟩
    obtain ⟨-, rfl, hspace⟩ := Receiver.words_eq_iff.1 hwords
    have hone : c.IsOneLine := unbroken_encode_text_iff.1 (Receiver.unbroken_of_cutAt? hcut).2
    exact fun word hmem => ⟨hone word hmem, hspace word hmem⟩
  · intro h
    have hone : c.IsOneLine := fun word hmem => (h word hmem).1
    refine ⟨c.text, Receiver.cutAt?_line (unbroken_encode_text_iff.2 hone) rest, ?_⟩
    exact Receiver.words_eq_iff.2
      ⟨List.cons_ne_nil _ _, rfl, fun word hmem => (h word hmem).2⟩

/-- A CR and an LF with only a space between them, a word of nothing, and a CR
before the line end. -/
example :
    Receiver.readCommand? (Utf8.encode (mk "SET\r" ["\nX", "", "Y\r"]).encode ++ [0x42]) =
      some (.ok ["SET\r", "\nX", "", "Y\r"], [0x42]) := by decide +kernel

/-- **A command line is read back.** However a command was made, it has the
arguments appended in order; it is sent as its text and a line end, and as its
verb and its arguments are; that line end is the only one on the line if no
word holds one; and if no word holds a space either, the words of the line up
to its first line end are the verb and the arguments. -/
theorem line_reads_back (verb : String) (steps : List Appending) :
    (built verb steps).arguments = steps.flatMap Appending.words ∧
    (built verb steps).encode = (built verb steps).text ++ newline ∧
    encodeCommand verb ((built verb steps).arguments.map .word) = (built verb steps).encode ∧
    (ClosesOnce (Utf8.encode (built verb steps).encode) ↔
      ∀ word ∈ verb :: steps.flatMap Appending.words, Unbroken word.toList) ∧
    ∀ rest : List UInt8,
      Receiver.readCommand? (Utf8.encode (built verb steps).encode ++ rest) =
          some (.ok (verb :: steps.flatMap Appending.words), rest) ↔
        ∀ word ∈ verb :: steps.flatMap Appending.words,
          Unbroken word.toList ∧ ' ' ∉ word.toList := by
  rw [built_eq]
  refine ⟨rfl, encode_eq _, encodeCommand_arguments _, ?_, readCommand?_encode_iff _⟩
  rw [encode_bytes, closesOnce_append_crlf_iff, unbroken_encode_text_iff]
  exact Iff.rfl

end Command
end SpeechWire
