/-
# The texts that are replies

A line is read just when it is the rendering of a line with a code of at most
three digits (`Line.parse_eq_ok_iff`). A list of lines is read as a reply just
when it starts with the renderings of the reply's lines (`ofLines_eq_ok_iff`);
here the induction is on the lines, and what has been read so far only puts
its texts in front. Together with how a text is cut into lines this gives the
grammar of frames, and that parsing and rendering are inverse to each other.

Key definitions: `Reply.IsWritable`.
Key theorems: `Reply.Line.parse_eq_ok_iff`, `Reply.ofLines_eq_ok_iff`,
`Reply.parse_eq_ok_iff_render`.
-/
import Mathlib.Data.List.Basic
import SpeechWire.Proofs.Bytes
import SpeechWire.Reply.Parse
import SpeechWire.Reply.Render

namespace SpeechWire
namespace Reply

open Utf8 Lines

/-! ### Status codes -/

theorem isDigit_of_mem_threeDigits {n : Nat} (hn : n ≤ 999) :
    ∀ c ∈ threeDigits n, c.isDigit = true := by
  intro c hc
  unfold threeDigits at hc
  simp only [List.mem_cons, List.not_mem_nil, or_false] at hc
  rcases hc with rfl | rfl | rfl <;> rw [Nat.isDigit_digitChar, decide_eq_true_iff] <;> omega

theorem ofDigitChars_threeDigits {n : Nat} (hn : n ≤ 999) :
    Nat.ofDigitChars 10 (threeDigits n) 0 = n := by
  have h1 : n / 100 < 10 := by omega
  have h2 : n / 10 % 10 < 10 := by omega
  have h3 : n % 10 < 10 := by omega
  rw [threeDigits, Nat.ofDigitChars_cons_digitChar_of_lt_ten h1,
    Nat.ofDigitChars_cons_digitChar_of_lt_ten h2, Nat.ofDigitChars_cons_digitChar_of_lt_ten h3,
    Nat.ofDigitChars_nil]
  omega

theorem exists_digitChar {c : Char} (h : c.isDigit = true) : ∃ d < 10, c = Nat.digitChar d := by
  have hc := Char.isDigit_iff_toNat.1 h
  have h0 : '0'.toNat = 48 := rfl
  have h9 : '9'.toNat = 57 := rfl
  have hd : c.toNat - 48 < 10 := by omega
  refine ⟨c.toNat - 48, hd, Char.toNat_inj.1 ?_⟩
  rw [Nat.toNat_digitChar_of_lt_ten hd]
  omega

theorem lt_of_isDigit {c : Char} (h : c.isDigit = true) : c.toNat < 128 := by
  have hc := Char.isDigit_iff_toNat.1 h
  have h9 : '9'.toNat = 57 := rfl
  omega

theorem length_bytes_of_isDigit {code : List Char} (h : ∀ c ∈ code, c.isDigit = true) :
    (bytes code).length = code.length :=
  length_bytes_of_lt fun c hc => lt_of_isDigit (h c hc)

/-- **The codes on the wire.** Three bytes of digits are a number below 1000 with
its leading zeros, and no other. -/
theorem eq_threeDigits_iff {code : List Char} {n : Nat} :
    n ≤ 999 ∧ code = threeDigits n ↔ (bytes code).length = codeWidth ∧
      (∀ c ∈ code, c.isDigit = true) ∧ Nat.ofDigitChars 10 code 0 = n := by
  constructor
  · rintro ⟨hn, rfl⟩
    have hd := isDigit_of_mem_threeDigits hn
    exact ⟨length_bytes_of_isDigit hd, hd, ofDigitChars_threeDigits hn⟩
  · rintro ⟨hlen, hd, hn⟩
    rw [length_bytes_of_isDigit hd] at hlen
    obtain ⟨a, b, c, rfl⟩ := List.length_eq_three.1 hlen
    obtain ⟨x, hx, rfl⟩ := exists_digitChar (hd a (by simp))
    obtain ⟨y, hy, rfl⟩ := exists_digitChar (hd b (by simp))
    obtain ⟨z, hz, rfl⟩ := exists_digitChar (hd c (by simp))
    rw [Nat.ofDigitChars_cons_digitChar_of_lt_ten hx, Nat.ofDigitChars_cons_digitChar_of_lt_ten hy,
      Nat.ofDigitChars_cons_digitChar_of_lt_ten hz, Nat.ofDigitChars_nil] at hn
    have e1 : n / 100 = x := by omega
    have e2 : n / 10 % 10 = y := by omega
    have e3 : n % 10 = z := by omega
    refine ⟨by omega, ?_⟩
    rw [threeDigits, e1, e2, e3]

/-! ### Lines -/

theorem cut?_eq_some_iff : ∀ {n : Nat} {text front back : List Char},
    cut? n text = some (front, back) ↔ text = front ++ back ∧ (bytes front).length = n
  | 0, text, front, back => by
    rw [cut?, List.length_eq_zero_iff, bytes_eq_nil_iff, Option.some_inj, Prod.mk.injEq]
    constructor
    · rintro ⟨rfl, rfl⟩
      exact ⟨rfl, rfl⟩
    · rintro ⟨rfl, rfl⟩
      exact ⟨rfl, rfl⟩
  | n + 1, [], front, back => by
    refine iff_of_false (fun h => by cases h) ?_
    rintro ⟨h, hlen⟩
    obtain ⟨rfl, -⟩ := List.append_eq_nil_iff.1 h.symm
    cases hlen
  | n + 1, c :: text, front, back => by
    have hpos := c.utf8Size_pos
    have hsize := String.length_utf8EncodeChar c
    rw [cut?]
    split
    · next hle =>
      rw [Option.map_eq_some_iff]
      constructor
      · rintro ⟨⟨f, b⟩, h, hf⟩
        obtain ⟨rfl, hlen⟩ := cut?_eq_some_iff.1 h
        obtain ⟨rfl, rfl⟩ := Prod.mk.inj hf
        refine ⟨rfl, ?_⟩
        rw [bytes_cons, List.length_append, hsize, hlen]
        omega
      · rintro ⟨h, hlen⟩
        cases front with
        | nil => cases hlen
        | cons d front =>
          obtain ⟨rfl, rfl⟩ := List.cons.inj h
          rw [bytes_cons, List.length_append, hsize] at hlen
          exact ⟨(front, back), cut?_eq_some_iff.2 ⟨rfl, by omega⟩, rfl⟩
    · next hlt =>
      refine iff_of_false (fun h => by cases h) ?_
      rintro ⟨h, hlen⟩
      cases front with
      | nil => cases hlen
      | cons d front =>
        obtain ⟨rfl, rfl⟩ := List.cons.inj h
        rw [bytes_cons, List.length_append, hsize] at hlen
        omega
termination_by n => n

theorem Line.afterCode_eq_ok_iff {raw : String} {code : Nat} {rest : List Char} {line : Line} :
    Line.afterCode raw code rest = .ok line ↔
      code = line.code ∧ rest = line.separator.toChar :: line.text.toList := by
  cases rest with
  | nil => exact iff_of_false (fun h => by cases h) fun h => by cases h.2
  | cons c text =>
    cases hs : Separator.ofChar? c with
    | none =>
      simp only [afterCode, hs]
      refine iff_of_false (fun h => by cases h) ?_
      rintro ⟨-, h⟩
      obtain ⟨rfl, -⟩ := List.cons.inj h
      rw [Separator.ofChar?_eq_some_iff.2 rfl] at hs
      cases hs
    | some separator =>
      simp only [afterCode, hs]
      obtain rfl := Separator.ofChar?_eq_some_iff.1 hs
      constructor
      · intro h
        cases h
        rw [String.toList_ofList]
        exact ⟨rfl, rfl⟩
      · rintro ⟨rfl, h⟩
        obtain ⟨hc, rfl⟩ := List.cons.inj h
        rw [hc, Separator.ofChar?_eq_some_iff.2 rfl] at hs
        obtain rfl := Option.some.inj hs
        rw [String.ofList_toList]

/-- **The lines that can be read are the renderings of lines.** -/
theorem Line.parse_eq_ok_iff {raw : String} {line : Line} :
    Line.parse raw = .ok line ↔ line.code ≤ 999 ∧ raw.toList = line.render := by
  unfold parse
  constructor
  · intro h
    split at h
    · cases h
    split at h
    · cases h
    · next code rest hcut =>
      split at h
      · cases h
      split at h
      · cases h
      · next hdigits =>
        obtain ⟨hraw, hlen⟩ := cut?_eq_some_iff.1 hcut
        obtain ⟨hcode, hrest⟩ := Line.afterCode_eq_ok_iff.1 h
        simp only [Bool.not_eq_true', Bool.not_eq_false, List.all_eq_true] at hdigits
        obtain ⟨hle, rfl⟩ := eq_threeDigits_iff.2 ⟨hlen, hdigits, hcode⟩
        exact ⟨hle, by rw [hraw, hrest, render]⟩
  · rintro ⟨hle, hraw⟩
    obtain ⟨hlen, hdigits, hcode⟩ := eq_threeDigits_iff.1 ⟨hle, rfl⟩
    rw [render] at hraw
    have hlong : ¬ raw.utf8ByteSize ≤ codeWidth := by
      have hsep := List.length_pos_iff.2 (String.utf8EncodeChar_ne_nil (c := line.separator.toChar))
      rw [utf8ByteSize_eq, hraw, bytes_append, bytes_cons, List.length_append, List.length_append, hlen]
      omega
    have hcut := cut?_eq_some_iff.2 ⟨hraw, hlen⟩
    have hall : (threeDigits line.code).all Char.isDigit = true := List.all_eq_true.2 hdigits
    have halnum : (threeDigits line.code).all Char.isAlphanum = true := by
      refine List.all_eq_true.2 fun c hc => ?_
      rw [Char.isAlphanum, hdigits c hc, Bool.or_true]
    rw [if_neg hlong, hcut]
    simp only [hall, halnum, Bool.not_true, Bool.false_eq_true, if_false]
    exact Line.afterCode_eq_ok_iff.2 ⟨hcode, rfl⟩

/-- A line holds a line end just when its text does. -/
theorem Line.unbroken_render_iff (line : Line) :
    Unbroken line.render ↔ Unbroken line.text.toList := by
  have hdigit : ∀ n : Nat, n.digitChar ≠ Newline.cr := fun n => Nat.digitChar_ne '\r' (by decide)
  have hcode : ∀ c ∈ threeDigits line.code, c ≠ Newline.cr := by
    intro c hc
    unfold threeDigits at hc
    simp only [List.mem_cons, List.not_mem_nil, or_false] at hc
    rcases hc with rfl | rfl | rfl <;> exact hdigit _
  have hsep : line.separator.toChar ≠ Newline.cr := by
    cases line.separator <;> decide
  rw [render, unbroken_append_iff hcode, unbroken_cons_iff hsep]

/-! ### Replies -/

/-- Reading one line more: its code must be the one expected, and its separator
decides whether the rest is read. -/
theorem ofLines_cons_eq_ok_iff {expected : Option Nat} {data : List String} {raw : List Char}
    {rest : List (List Char)} {reply : Reply} :
    ofLines expected data (raw :: rest) = .ok reply ↔
      ∃ line : Line, line.code ≤ 999 ∧ raw = line.render ∧ (∀ code ∈ expected, code = line.code) ∧
        match line.separator with
        | .continuation => ofLines (some line.code) (line.text :: data) rest = .ok reply
        | .final => reply = ⟨line.code, line.text, data.reverse⟩ := by
  have hfilter : ∀ code : Nat,
      expected.filter (· != code) = none ↔ ∀ other ∈ expected, other = code := by
    intro code
    rw [Option.filter_eq_none_iff]
    simp
  rw [ofLines]
  cases hp : Line.parse (String.ofList raw) with
  | error why =>
    refine iff_of_false (fun h => by cases h) ?_
    rintro ⟨line, hle, rfl, -⟩
    rw [Line.parse_eq_ok_iff.2 ⟨hle, String.toList_ofList⟩] at hp
    cases hp
  | ok line =>
    have hl := Line.parse_eq_ok_iff.1 hp
    rw [String.toList_ofList] at hl
    have hunique : ∀ other : Line, other.code ≤ 999 → raw = other.render → other = line := by
      intro other hle hraw
      have ho := Line.parse_eq_ok_iff.2 ⟨hle, String.toList_ofList.trans hraw⟩
      exact Except.ok.inj (ho.symm.trans hp)
    cases hf : expected.filter (· != line.code) with
    | some code =>
      refine iff_of_false (fun h => by simp only [hf] at h; cases h) ?_
      rintro ⟨other, hle, hraw, hcode, -⟩
      obtain rfl := hunique other hle hraw
      rw [(hfilter _).2 hcode] at hf
      cases hf
    | none =>
      simp only [hf]
      constructor
      · intro h
        refine ⟨line, hl.1, hl.2, (hfilter _).1 hf, ?_⟩
        cases hs : line.separator with
        | continuation =>
          rw [hs] at h
          exact h
        | final =>
          rw [hs] at h
          exact (Except.ok.inj h).symm
      · rintro ⟨other, hle, hraw, -, h⟩
        obtain rfl := hunique other hle hraw
        cases hs : other.separator with
        | continuation =>
          rw [hs] at h
          exact h
        | final =>
          rw [hs] at h
          exact congrArg Except.ok h.symm

/-- **The lists of lines that are read as a reply.** They start with the
renderings of its lines; those read before have put their texts in front. -/
theorem ofLines_eq_ok_iff {raws : List (List Char)} : ∀ {expected : Option Nat}
    {data : List String} {reply : Reply}, ofLines expected data raws = .ok reply ↔
      reply.code ≤ 999 ∧ (∀ code ∈ expected, code = reply.code) ∧
        ∃ (later : List String) (rest : List (List Char)), reply.data = data.reverse ++ later ∧
          raws = (lines { reply with data := later }).map Line.render ++ rest := by
  induction raws with
  | nil =>
    intro expected data reply
    refine iff_of_false (fun h => by cases h) ?_
    rintro ⟨-, -, later, rest, -, h⟩
    simp [lines] at h
  | cons raw raws ih =>
    intro expected data reply
    rw [ofLines_cons_eq_ok_iff]
    constructor
    · rintro ⟨⟨code, separator, text⟩, hle, rfl, hcode, h⟩
      cases separator with
      | continuation =>
        obtain ⟨-, hsame, later, rest, hdata, rfl⟩ := ih.1 h
        obtain rfl : code = reply.code := hsame code rfl
        refine ⟨hle, hcode, text :: later, rest, ?_, rfl⟩
        rw [hdata, List.reverse_cons, List.append_assoc, List.singleton_append]
      | final =>
        obtain rfl : reply = ⟨code, text, data.reverse⟩ := h
        exact ⟨hle, hcode, [], raws, (List.append_nil _).symm, rfl⟩
    · rintro ⟨hle, hcode, later, rest, hdata, h⟩
      cases later with
      | nil =>
        obtain ⟨rfl, rfl⟩ := List.cons.inj h
        refine ⟨⟨reply.code, .final, reply.message⟩, hle, rfl, hcode, ?_⟩
        rw [List.append_nil] at hdata
        show reply = ⟨reply.code, reply.message, data.reverse⟩
        rw [← hdata]
      | cons text later =>
        obtain ⟨rfl, rfl⟩ := List.cons.inj h
        refine ⟨⟨reply.code, .continuation, text⟩, hle, rfl, hcode, ih.2 ?_⟩
        refine ⟨hle, fun code hc => (Option.some.inj hc).symm, later, rest, ?_, rfl⟩
        rw [hdata, List.reverse_cons, List.append_assoc, List.singleton_append]

/-- What can be written so that it is read again: the code has at most three
digits and no text holds a line end. -/
structure IsWritable (reply : Reply) : Prop where
  code_le : reply.code ≤ 999
  message : Unbroken reply.message.toList
  data : ∀ text ∈ reply.data, Unbroken text.toList

instance (reply : Reply) : Decidable reply.IsWritable :=
  decidable_of_iff (reply.code ≤ 999 ∧ Unbroken reply.message.toList ∧
      ∀ text ∈ reply.data, Unbroken text.toList)
    ⟨fun ⟨h1, h2, h3⟩ => ⟨h1, h2, h3⟩, fun ⟨h1, h2, h3⟩ => ⟨h1, h2, h3⟩⟩

/-- A CR or an LF alone breaks no text. -/
example : IsWritable ⟨7, "a\rb\nc", ["-d", ""]⟩ := by decide

/-- The characters of a whole reply. -/
def text (reply : Reply) : List Char := (reply.lines.map Line.render).flatMap (· ++ crlf)

theorem render_eq_bytes (reply : Reply) : reply.render = bytes reply.text := by
  rw [render, encode_ofList, text, List.flatMap_map]

/-- Line by line: a hyphen before each piece of data, a space before the message. -/
theorem text_eq (reply : Reply) : reply.text =
    (reply.data.flatMap fun d => threeDigits reply.code ++ '-' :: d.toList ++ crlf) ++
      (threeDigits reply.code ++ ' ' :: reply.message.toList ++ crlf) := by
  rw [text, lines, List.map_append, List.flatMap_append, List.map_map, List.flatMap_map]
  simp only [List.map_cons, List.map_nil, List.flatMap_cons, List.flatMap_nil, List.append_nil]
  rfl

theorem isWritable_iff (reply : Reply) : reply.IsWritable ↔
    reply.code ≤ 999 ∧ ∀ line ∈ reply.lines.map Line.render, Unbroken line := by
  have hlines : (∀ line ∈ reply.lines.map Line.render, Unbroken line) ↔
      (∀ text ∈ reply.data, Unbroken text.toList) ∧ Unbroken reply.message.toList := by
    simp [lines, Line.unbroken_render_iff, or_imp, forall_and]
  rw [hlines]
  exact ⟨fun ⟨h1, h2, h3⟩ => ⟨h1, h3, h2⟩, fun ⟨h1, h3, h2⟩ => ⟨h1, h2, h3⟩⟩

theorem ofLines_split_eq_ok_iff {body : List Char} {reply : Reply} :
    ofLines none [] (split body) = .ok reply ↔ reply.IsWritable ∧
      ∃ tail, body ++ crlf = reply.text ++ tail ∧ (tail = [] ∨ crlf <:+ tail) := by
  have hne : reply.lines.map Line.render ≠ [] := by simp [lines]
  have hsame : ofLines none [] (split body) = .ok reply ↔
      reply.code ≤ 999 ∧ ∃ rest, split body = reply.lines.map Line.render ++ rest := by
    rw [ofLines_eq_ok_iff]
    constructor
    · rintro ⟨hle, -, later, rest, rfl, h⟩
      exact ⟨hle, rest, h⟩
    · rintro ⟨hle, rest, h⟩
      exact ⟨hle, fun code hc => (Option.not_mem_none code hc).elim, reply.data, rest, rfl, h⟩
  rw [hsame, split_starts_iff hne, isWritable_iff, and_assoc, text]

theorem isValidUTF8_of_parse {frame : List UInt8} {reply : Reply} (h : parse frame = .ok reply) :
    frame.toByteArray.IsValidUTF8 := by
  unfold parse at h
  split at h
  · cases h
  · next hd => exact isValidUTF8_iff.2 ⟨_, (encode_eq_bytes _).symm.trans (decode_eq_ok_iff.1 hd)⟩

theorem parse_bytes_eq_ok_iff {chars : List Char} {reply : Reply} :
    parse (bytes chars) = .ok reply ↔ reply.IsWritable ∧
      ∃ tail, chars = reply.text ++ tail ∧ (tail = [] ∨ crlf <:+ tail) := by
  have hdecode : decode (bytes chars) = .ok (String.ofList chars) :=
    decode_eq_ok_iff.2 (encode_ofList chars)
  rw [parse, hdecode]
  simp only [String.toList_ofList]
  cases hb : body? chars with
  | none =>
    refine iff_of_false (fun h => by cases h) ?_
    rintro ⟨-, tail, rfl, htail⟩
    -- the text of a reply closes with a line end, and so does a tail
    have hends : ∃ body, reply.text ++ tail = body ++ crlf := by
      rcases htail with rfl | ⟨front, rfl⟩
      · refine ⟨join (reply.lines.map Line.render), ?_⟩
        rw [List.append_nil, text, flatMap_append_crlf (by simp [lines])]
      · exact ⟨reply.text ++ front, (List.append_assoc _ _ _).symm⟩
    obtain ⟨body, hbody⟩ := hends
    rw [hbody, body?_append_crlf] at hb
    cases hb
  | some body =>
    obtain rfl := body?_eq_some_iff.1 hb
    exact ofLines_split_eq_ok_iff

/-- **The frames that are read as a reply.** These are the bytes of valid text
that start with the reply as it is written, followed by nothing or by anything
that closes with a line end; and the reply must be one that can be written. So
a reply that can be written is read back from what is written for it, and what
is read is written with the bytes it was read from. What is written is a line
for each piece of data and one for the message, all with the same three digits. -/
theorem parse_eq_ok_iff_render (frame : List UInt8) (reply : Reply) :
    (parse frame = .ok reply ↔ reply.IsWritable ∧ frame.toByteArray.IsValidUTF8 ∧
      ∃ tail : List UInt8, frame = reply.render ++ tail ∧ (tail = [] ∨ crlf <:+ tail)) ∧
    (parse reply.render = .ok reply ↔ reply.IsWritable) ∧
    reply.render = Utf8.encode (String.ofList
      ((reply.data.flatMap fun d => threeDigits reply.code ++ '-' :: d.toList ++ crlf) ++
        (threeDigits reply.code ++ ' ' :: reply.message.toList ++ crlf))) := by
  refine ⟨⟨fun h => ?_, ?_⟩, ?_, ?_⟩
  · obtain ⟨chars, rfl⟩ := isValidUTF8_iff.1 (isValidUTF8_of_parse h)
    obtain ⟨hw, tail, rfl, htail⟩ := parse_bytes_eq_ok_iff.1 h
    refine ⟨hw, isValidUTF8_of_parse h, bytes tail, ?_, ?_⟩
    · rw [render_eq_bytes, bytes_append]
    · rwa [bytes_eq_nil_iff, crlf_suffix_bytes_iff]
  · rintro ⟨hw, hvalid, tail, hframe, htail⟩
    obtain ⟨chars, rfl⟩ := isValidUTF8_iff.1 hvalid
    rw [render_eq_bytes] at hframe
    obtain ⟨back, rfl, rfl⟩ := eq_append_of_bytes_eq hframe
    rw [bytes_eq_nil_iff, crlf_suffix_bytes_iff] at htail
    exact parse_bytes_eq_ok_iff.2 ⟨hw, back, rfl, htail⟩
  · rw [render_eq_bytes, parse_bytes_eq_ok_iff]
    exact ⟨And.left, fun hw => ⟨hw, [], (List.append_nil _).symm, .inl rfl⟩⟩
  · rw [render_eq_bytes, text_eq, encode_ofList]

end Reply
end SpeechWire
