/-
# A line read by its byte offsets

The code of a line is its first three bytes, the separator is the character
behind them, and the text is what follows the fourth byte. A place that is
given in bytes can lie behind the end of a text or inside a character, and a
text cannot be cut there. Only the first of the three cuts is made with care;
the other two are made where the checks before them leave no doubt. For three
letters or digits of ASCII are three bytes, and a separator is one
(`Line.parseByOffsets_eq`).

Four checks are made in a fixed order, each of which says something about the
bytes of the line by itself (`Check.passes`). The first that fails decides
what the complaint is, and a line that passes them all is read. That letters
and signs are kept out by a check of their own matters: a number by itself may
open with a plus sign (`wholeNumber?`).

Key definitions: `upTo?`, `startingAt?`, `wholeNumber?`,
`Line.parseByOffsets`, `Check`, `Check.firstFailing?`.
Key theorems: `exists_cut_of_ascii`, `slices_of_cut`,
`Line.parseByOffsets_eq`, `Check.parse_judged`, `Line.parse_exact_and_safe`.
-/
import SpeechWire.Proofs.Grammar

namespace SpeechWire

namespace Reply

open Utf8

theorem lt_of_isAlphanum {c : Char} (h : c.isAlphanum = true) : c.toNat < 128 := by
  have hZ : 'Z'.val.toNat = 90 := rfl
  have hz : 'z'.val.toNat = 122 := rfl
  have hv : c.toNat = c.val.toNat := rfl
  rcases Bool.or_eq_true_iff.1 h with hletter | hdigit
  · rcases Bool.or_eq_true_iff.1 hletter with hupper | hlower
    · have hle : c.val ≤ 'Z'.val := (of_decide_eq_true hupper).2
      rw [UInt32.le_iff_toNat_le] at hle
      omega
    · have hle : c.val ≤ 'z'.val := of_decide_eq_true (Bool.and_eq_true_iff.1 hlower).2
      rw [UInt32.le_iff_toNat_le] at hle
      omega
  · exact lt_of_isDigit hdigit

/-- Between bytes of ASCII a text can be cut everywhere. -/
theorem exists_cut_of_ascii : ∀ {n : Nat} {chars : List Char}, n ≤ (bytes chars).length →
    (∀ b ∈ (bytes chars).take n, b.toNat < 128) → ∃ front back, cut? n chars = some (front, back)
  | 0, chars, _, _ => ⟨[], chars, by rw [cut?]⟩
  | n + 1, [], hn, _ => by simp at hn
  | n + 1, c :: chars, hn, hascii => by
    obtain ⟨b, rest, hb⟩ := List.exists_cons_of_ne_nil (String.utf8EncodeChar_ne_nil (c := c))
    have hlow : b.toNat < 128 := hascii b (by simp [hb])
    have hmem : b ∈ String.utf8EncodeChar c := by simp [hb]
    have hsingle := (eq_singleton_of_mem hlow hmem).2
    have hsize : c.utf8Size = 1 := by rw [← String.length_utf8EncodeChar, hsingle]; rfl
    rw [bytes_cons, hsingle, List.singleton_append] at hn hascii
    have hroom : n ≤ (bytes chars).length := Nat.le_of_succ_le_succ hn
    obtain ⟨front, back, hcut⟩ :=
      exists_cut_of_ascii hroom fun d hd => hascii d (List.mem_cons_of_mem _ hd)
    exact ⟨c :: front, back, by simp [cut?, hsize, hcut]⟩

/-! ### Cuts at a place in bytes -/

/-- The text up to byte `n`, if it can be cut there. -/
def upTo? (n : Nat) (text : String) : Option String :=
  if h : (⟨n⟩ : String.Pos.Raw).IsValid text then some (text.sliceTo (text.pos ⟨n⟩ h)).copy
  else none

/-- The text from byte `n` on, if it can be cut there. -/
def startingAt? (n : Nat) (text : String) : Option String :=
  if h : (⟨n⟩ : String.Pos.Raw).IsValid text then some (text.sliceFrom (text.pos ⟨n⟩ h)).copy
  else none

theorem slices_append (front back : String) :
    upTo? front.utf8ByteSize (front ++ back) = some front ∧
      startingAt? front.utf8ByteSize (front ++ back) = some back := by
  have hvalid : (⟨front.utf8ByteSize⟩ : String.Pos.Raw).IsValid (front ++ back) :=
    String.Pos.Raw.isValid_iff_exists_append.2 ⟨front, back, rfl, rfl⟩
  have hsplits : ((front ++ back).pos _ hvalid).Splits front back := ⟨rfl, String.offset_pos⟩
  rw [upTo?, startingAt?, dif_pos hvalid, dif_pos hvalid, hsplits.copy_sliceTo_eq,
    hsplits.copy_sliceFrom_eq]
  exact ⟨rfl, rfl⟩

theorem slices_of_cut {n : Nat} {text : String} {front back : List Char}
    (h : cut? n text.toList = some (front, back)) :
    upTo? n text = some (String.ofList front) ∧ startingAt? n text = some (String.ofList back) := by
  obtain ⟨htext, rfl⟩ := cut?_eq_some_iff.1 h
  have hwhole : text = String.ofList front ++ String.ofList back := by
    rw [← String.ofList_append, ← htext, String.ofList_toList]
  have hsize : (bytes front).length = (String.ofList front).utf8ByteSize := by
    rw [utf8ByteSize_eq, String.toList_ofList]
  rw [hwhole, hsize]
  exact slices_append _ _

theorem upTo?_of_cut_eq_none {n : Nat} {text : String} (h : cut? n text.toList = none) :
    upTo? n text = none := by
  refine dif_neg fun hvalid => ?_
  obtain ⟨front, back, rfl, hn⟩ := String.Pos.Raw.isValid_iff_exists_append.1 hvalid
  have hsize : (bytes front.toList).length = n := by
    rw [← utf8ByteSize_eq]
    exact (congrArg String.Pos.Raw.byteIdx hn).symm
  rw [cut?_eq_some_iff.2 ⟨String.toList_append, hsize⟩] at h
  cases h

/-! ### Reading by offsets -/

/-- A number of at most 16 bits in decimal digits; a plus sign may stand before
them. -/
def wholeNumber? (chars : List Char) : Option Nat :=
  let digits := if chars.head? = some '+' then chars.tail else chars
  if digits ≠ [] ∧ digits.all Char.isDigit ∧ Nat.ofDigitChars 10 digits 0 ≤ 0xffff then
    some (Nat.ofDigitChars 10 digits 0)
  else none

/-- Reads one line by its byte offsets; without an answer if a cut behind the
code or behind the separator is made where the line cannot be cut. -/
def Line.parseByOffsets (line : String) : Option (Except Malformation Line) :=
  if line.utf8ByteSize < codeWidth + 1 then some (.error (.shortLine line))
  else
    match (upTo? codeWidth line).filter (·.toList.all Char.isAlphanum) with
    | none => some (.error (.badCode line))
    | some code =>
      match wholeNumber? code.toList with
      | none => some (.error (.wordCode code))
      | some number =>
        match startingAt? codeWidth line with
        | none => none
        | some rest =>
          match rest.toList.head?.bind Separator.ofChar? with
          | none => some (.error (.badSeparator line))
          | some separator =>
            (startingAt? (codeWidth + 1) line).map fun text => .ok ⟨number, separator, text⟩

/-- Of three letters or digits only three digits are a number. -/
theorem wholeNumber?_of_isAlphanum {code : List Char} (hlen : (bytes code).length = codeWidth)
    (halnum : code.all Char.isAlphanum = true) : wholeNumber? code =
      if code.all Char.isDigit then some (Nat.ofDigitChars 10 code 0) else none := by
  rw [List.all_eq_true] at halnum
  have hplus : ¬ code.head? = some '+' := by
    intro h
    exact absurd (halnum '+' (List.mem_of_head? h)) (by decide)
  have hne : code ≠ [] := by
    rintro rfl
    cases hlen
  by_cases hdigits : code.all Char.isDigit = true
  · have hsmall := (eq_threeDigits_iff.2 ⟨hlen, List.all_eq_true.1 hdigits, rfl⟩).1
    have hfits : Nat.ofDigitChars 10 code 0 ≤ 0xffff := by omega
    simp only [wholeNumber?, if_neg hplus]
    rw [if_pos ⟨hne, hdigits, hfits⟩, if_pos hdigits]
  · simp only [wholeNumber?, if_neg hplus]
    rw [if_neg fun h => hdigits h.2.1, if_neg hdigits]

/-- A separator is one byte, so a line can be cut behind it. -/
theorem startingAt?_of_separator {line : String} {code text : List Char} {c : Char}
    {separator : Separator} (hcut : cut? codeWidth line.toList = some (code, c :: text))
    (hs : Separator.ofChar? c = some separator) :
    startingAt? (codeWidth + 1) line = some (String.ofList text) := by
  obtain ⟨hline, hlen⟩ := cut?_eq_some_iff.1 hcut
  obtain rfl := Separator.ofChar?_eq_some_iff.1 hs
  have hone : (String.utf8EncodeChar separator.toChar).length = 1 := by
    cases separator <;> decide
  have hbehind : cut? (codeWidth + 1) line.toList = some (code ++ [separator.toChar], text) := by
    refine cut?_eq_some_iff.2 ⟨by simp [hline], ?_⟩
    simp [hlen, hone]
  exact (slices_of_cut hbehind).2

/-- **No cut is made where the line cannot be cut**, and what is read by offsets
is the line. -/
theorem Line.parseByOffsets_eq (line : String) :
    Line.parseByOffsets line = some (Line.parse line) := by
  unfold parseByOffsets parse
  by_cases hshort : line.utf8ByteSize ≤ codeWidth
  · rw [if_pos (Nat.lt_succ_of_le hshort), if_pos hshort]
  rw [if_neg fun h => hshort (Nat.le_of_lt_succ h), if_neg hshort]
  cases hcut : cut? codeWidth line.toList with
  | none => rw [upTo?_of_cut_eq_none hcut, Option.filter_none]
  | some parts =>
    obtain ⟨code, rest⟩ := parts
    obtain ⟨hfront, hback⟩ := slices_of_cut hcut
    obtain ⟨-, hlen⟩ := cut?_eq_some_iff.1 hcut
    rw [hfront]
    by_cases halnum : code.all Char.isAlphanum = true
    · have hnumber := wholeNumber?_of_isAlphanum hlen halnum
      simp only [Option.filter, String.toList_ofList, halnum, if_true, hnumber, Bool.not_true,
        Bool.false_eq_true, if_false]
      by_cases hdigits : code.all Char.isDigit = true
      · simp only [hdigits, if_true, hback, String.toList_ofList, Bool.not_true,
          Bool.false_eq_true, if_false]
        cases rest with
        | nil => rfl
        | cons c text =>
          cases hs : Separator.ofChar? c with
          | none => simp [Line.afterCode, hs]
          | some separator =>
            simp [Line.afterCode, hs, startingAt?_of_separator hcut hs]
      · simp [hdigits]
    · simp [Option.filter, halnum]

/-! ### The checks in order -/

/-- What is asked of a line before it is read. -/
inductive Check where
  /-- There is room for a code and a separator. -/
  | length
  /-- The code is letters and digits. -/
  | alphanumeric
  /-- The code is digits. -/
  | digits
  /-- A separator follows the code. -/
  | separator
deriving Repr, DecidableEq

namespace Check

/-- The checks in the order in which they are made. -/
def order : List Check := [.length, .alphanumeric, .digits, .separator]

/-- Whether the line passes the check, told from its bytes; behind a code of
ASCII the next character is the fourth. -/
def passes (line : String) : Check → Bool
  | .length => codeWidth + 1 ≤ line.utf8ByteSize
  | .alphanumeric => ((encode line).take codeWidth).all fun b => (Char.ofUInt8 b).isAlphanum
  | .digits => ((encode line).take codeWidth).all fun b => (Char.ofUInt8 b).isDigit
  | .separator => line.toList[codeWidth]?.any fun c => (Separator.ofChar? c).isSome

/-- The complaint about a line that fails the check. -/
def complaint (line : String) : Check → Malformation
  | .length => .shortLine line
  | .alphanumeric => .badCode line
  | .digits => .wordCode (String.ofList (line.toList.take codeWidth))
  | .separator => .badSeparator line

/-- The first check that the line fails. -/
def firstFailing? (line : String) : Option Check := order.find? fun check => !check.passes line

variable {line : String}

theorem passes_of_cut {code rest : List Char}
    (hcut : cut? codeWidth line.toList = some (code, rest)) :
    alphanumeric.passes line = code.all Char.isAlphanum ∧
      digits.passes line = code.all Char.isDigit := by
  obtain ⟨hline, hlen⟩ := cut?_eq_some_iff.1 hcut
  have hcode : (encode line).take codeWidth = bytes code := by
    rw [encode_eq_bytes, hline, bytes_append, ← hlen, List.take_left]
  rw [passes, passes, hcode]
  exact ⟨all_bytes (fun _ => lt_of_isAlphanum) code, all_bytes (fun _ => lt_of_isDigit) code⟩

/-- A line with room for a code can be cut behind three letters or digits. -/
theorem exists_cut_of_passes (hlength : length.passes line = true)
    (halnum : alphanumeric.passes line = true) :
    ∃ code rest, cut? codeWidth line.toList = some (code, rest) := by
  have hroom : codeWidth ≤ (bytes line.toList).length := by
    rw [passes, decide_eq_true_iff, utf8ByteSize_eq] at hlength
    omega
  refine exists_cut_of_ascii hroom fun b hb => ?_
  rw [passes, encode_eq_bytes, List.all_eq_true] at halnum
  have hlow := lt_of_isAlphanum (halnum b hb)
  rwa [toNat_ofUInt8] at hlow

theorem chars_of_cut {code rest : List Char}
    (hcut : cut? codeWidth line.toList = some (code, rest))
    (halnum : code.all Char.isAlphanum = true) :
    line.toList.take codeWidth = code ∧ line.toList[codeWidth]? = rest.head? := by
  obtain ⟨hline, hlen⟩ := cut?_eq_some_iff.1 hcut
  have hascii : ∀ c ∈ code, c.toNat < 128 := fun c hc =>
    lt_of_isAlphanum (List.all_eq_true.1 halnum c hc)
  rw [length_bytes_of_lt hascii] at hlen
  rw [hline, ← hlen]
  rw [List.take_left, List.getElem?_append_right (Nat.le_refl _), Nat.sub_self,
    List.head?_eq_getElem?]
  exact ⟨rfl, rfl⟩

theorem firstFailing?_eq (line : String) : firstFailing? line =
    if length.passes line then
      if alphanumeric.passes line then
        if digits.passes line then
          if separator.passes line then none else some .separator
        else some .digits
      else some .alphanumeric
    else some .length := by
  rw [firstFailing?, order]
  cases hl : length.passes line <;> cases ha : alphanumeric.passes line <;>
    cases hd : digits.passes line <;> cases hs : separator.passes line <;>
    simp [List.find?, hl, ha, hd, hs]

/-- **The first check that fails decides the complaint**, and a line that passes
all of them is read. -/
theorem parse_judged (line : String) :
    match firstFailing? line with
    | some check => Line.parse line = .error (check.complaint line)
    | none => ∃ read, Line.parse line = .ok read := by
  have hroom : length.passes line = true ↔ ¬ line.utf8ByteSize ≤ codeWidth := by
    rw [passes, decide_eq_true_iff]
    omega
  rw [firstFailing?_eq]
  by_cases hlength : length.passes line = true
  swap
  · have hshort : line.utf8ByteSize ≤ codeWidth := not_not.1 fun h => hlength (hroom.2 h)
    rw [if_neg hlength, Line.parse, if_pos hshort]
    rfl
  rw [if_pos hlength, Line.parse, if_neg (hroom.1 hlength)]
  cases hcut : cut? codeWidth line.toList with
  | none =>
    have hfails : ¬ alphanumeric.passes line = true := by
      intro halnum
      obtain ⟨code, rest, h⟩ := exists_cut_of_passes hlength halnum
      rw [hcut] at h
      cases h
    rw [if_neg hfails]
    rfl
  | some parts =>
    obtain ⟨code, rest⟩ := parts
    obtain ⟨halnum, hdigits⟩ := passes_of_cut hcut
    rw [halnum, hdigits]
    by_cases ha : code.all Char.isAlphanum = true
    swap
    · simp [ha, complaint]
    obtain ⟨htake, hnext⟩ := chars_of_cut hcut ha
    by_cases hd : code.all Char.isDigit = true
    swap
    · simp [ha, hd, complaint, htake]
    have hseparator : separator.passes line =
        rest.head?.any fun c => (Separator.ofChar? c).isSome := by
      rw [passes, hnext]
    rw [hseparator]
    cases rest with
    | nil => simp [ha, hd, Line.afterCode, complaint]
    | cons c text =>
      cases hs : Separator.ofChar? c with
      | none => simp [ha, hd, hs, Line.afterCode, complaint]
      | some separator => simp [ha, hd, hs, Line.afterCode]

end Check

/-- **A line is read just as its grammar says, and reading it is safe.** Read by
byte offsets it is never cut where it cannot be, and read the same. It is read
if and only if it is a code of three digits, a separator and the text; and any
other line is complained of for the first of the checks that it fails. -/
theorem Line.parse_exact_and_safe (line : String) :
    Line.parseByOffsets line = some (Line.parse line) ∧
    (∀ code separator text, Line.parse line = .ok ⟨code, separator, text⟩ ↔
      code ≤ 999 ∧ line.toList = threeDigits code ++ separator.toChar :: text.toList) ∧
    ∀ why, Line.parse line = .error why ↔
      ∃ check, Check.firstFailing? line = some check ∧ why = check.complaint line := by
  refine ⟨Line.parseByOffsets_eq line, fun code separator text => Line.parse_eq_ok_iff, ?_⟩
  intro why
  have hjudged := Check.parse_judged line
  cases hfirst : Check.firstFailing? line with
  | none =>
    rw [hfirst] at hjudged
    obtain ⟨read, hread⟩ := hjudged
    rw [hread]
    exact iff_of_false nofun fun ⟨_, h, _⟩ => nomatch h
  | some check =>
    rw [hfirst] at hjudged
    rw [hjudged, Except.error.injEq]
    constructor
    · rintro rfl
      exact ⟨check, rfl, rfl⟩
    · rintro ⟨other, hother, rfl⟩
      rw [Option.some.inj hother]

end Reply
end SpeechWire
