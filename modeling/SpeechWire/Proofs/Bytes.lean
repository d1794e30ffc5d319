/-
# The lines of a text and the lines of its bytes

Framing and sending work on bytes, parsing and escaping on characters. In
UTF-8 a byte below 0x80 is a character by itself and is part of no other, so
the bytes of a text are cut into lines where the text is (`split_bytes`); and
no character's bytes start those of another, so a text is known from its
bytes, also where more bytes follow (`eq_append_of_bytes_eq`). What is asked of
ASCII can be asked of the bytes or of the characters (`all_bytes`).

Key definitions: `Utf8.bytes`.
Key theorems: `Utf8.split_bytes`, `Utf8.all_bytes`,
`Utf8.eq_append_of_bytes_eq`, `Utf8.bytes_injective`.
-/
import SpeechWire.Proofs.Lines
import SpeechWire.Text.Utf8

namespace SpeechWire
namespace Utf8

/-- The bytes of characters in a row. -/
def bytes (chars : List Char) : List UInt8 := chars.flatMap String.utf8EncodeChar

theorem encode_eq_bytes (text : String) : encode text = bytes text.toList := encode_eq_flatMap text

theorem encode_ofList (chars : List Char) : encode (String.ofList chars) = bytes chars := by
  rw [encode_eq_bytes, String.toList_ofList]

@[simp] theorem bytes_nil : bytes [] = [] := rfl

@[simp] theorem bytes_cons (c : Char) (chars : List Char) :
    bytes (c :: chars) = String.utf8EncodeChar c ++ bytes chars := List.flatMap_cons

@[simp] theorem bytes_append (a b : List Char) : bytes (a ++ b) = bytes a ++ bytes b :=
  List.flatMap_append

theorem utf8ByteSize_eq (text : String) : text.utf8ByteSize = (bytes text.toList).length := by
  rw [← encode_eq_bytes, ← String.size_toByteArray]
  rfl

theorem bytes_crlf : bytes Lines.crlf = Lines.crlf := by decide

/-! ### Lines -/

/-- A byte below 0x80 is the whole of the character it belongs to. -/
theorem eq_singleton_of_mem {c : Char} {b : UInt8} (hb : b.toNat < 0x80)
    (h : b ∈ String.utf8EncodeChar c) : c.toNat = b.toNat ∧ String.utf8EncodeChar c = [b] := by
  have hv : c.val.toNat = c.toNat := rfl
  simp only [String.utf8EncodeChar] at h ⊢
  split at h
  · next hc =>
    obtain rfl : b = UInt8.ofNat c.val.toNat := by simpa using h
    refine ⟨?_, by rw [if_pos hc]⟩
    rw [UInt8.toNat_ofNat', hv]
    omega
  · -- every byte of a longer sequence has its highest bit set
    exfalso
    split at h
    · simp only [List.mem_cons, List.not_mem_nil, or_false] at h
      rcases h with rfl | rfl <;> rw [UInt8.toNat_ofNat'] at hb <;> omega
    · split at h
      · simp only [List.mem_cons, List.not_mem_nil, or_false] at h
        rcases h with rfl | rfl | rfl <;> rw [UInt8.toNat_ofNat'] at hb <;> omega
      · simp only [List.mem_cons, List.not_mem_nil, or_false] at h
        rcases h with rfl | rfl | rfl | rfl <;> rw [UInt8.toNat_ofNat'] at hb <;> omega

theorem foldr_place_of_ne_cr {front : List UInt8} (h : ∀ b ∈ front, b ≠ Newline.cr)
    (line : List UInt8) (lines : List (List UInt8)) :
    front.foldr Lines.place (line :: lines) = (front ++ line) :: lines := by
  induction front with
  | nil => rfl
  | cons b front ih =>
    rw [List.foldr_cons, ih fun c hc => h c (List.mem_cons_of_mem _ hc),
      Lines.place_of_ne_cr (h b List.mem_cons_self), List.cons_append]

theorem cr_not_mem {c : Char} (h : c ≠ '\r') : ∀ b ∈ String.utf8EncodeChar c, b ≠ Newline.cr := by
  rintro b hb rfl
  exact h (Char.toNat_inj.1 (eq_singleton_of_mem (by decide) hb).1)

theorem foldr_place_utf8EncodeChar (c : Char) {lines : List (List Char)} (h : lines ≠ []) :
    (String.utf8EncodeChar c).foldr Lines.place (lines.map bytes) =
      (Lines.place c lines).map bytes := by
  obtain ⟨line, lines, rfl⟩ := List.exists_cons_of_ne_nil h
  by_cases hc : c = '\r'
  · subst hc
    show Lines.place Newline.cr (bytes line :: lines.map bytes) = _
    cases line with
    | nil => rfl
    | cons d line =>
      by_cases hd : d = '\n'
      · subst hd
        rfl
      · have hplace : Lines.place '\r' ((d :: line) :: lines) = ('\r' :: d :: line) :: lines := by
          have hnl : ¬ ('\r' = Newline.cr ∧ d = Newline.lf) := fun hn => hd hn.2
          rw [Lines.place, if_neg hnl]
        rw [hplace, bytes_cons]
        obtain ⟨b, rest, hb⟩ := List.exists_cons_of_ne_nil (String.utf8EncodeChar_ne_nil (c := d))
        have hlf : ¬ ((Newline.cr : UInt8) = Newline.cr ∧ b = Newline.lf) := by
          rintro ⟨-, rfl⟩
          have hm : (Newline.lf : UInt8) ∈ String.utf8EncodeChar d := by
            rw [hb]
            exact List.mem_cons_self
          exact hd (Char.toNat_inj.1 (eq_singleton_of_mem (by decide) hm).1)
        rw [hb, List.cons_append, Lines.place, if_neg hlf, List.map_cons, bytes_cons, bytes_cons, hb]
        rfl
  · rw [List.map_cons, foldr_place_of_ne_cr (cr_not_mem hc), Lines.place_of_ne_cr hc, List.map_cons,
      bytes_cons]

/-- **The bytes of a text are cut into lines where the text is.** -/
theorem split_bytes : ∀ chars : List Char,
    Lines.split (bytes chars) = (Lines.split chars).map bytes
  | [] => rfl
  | c :: chars => by
    have ih := split_bytes chars
    rw [Lines.split] at ih
    rw [bytes_cons, Lines.split, List.foldr_append, ih,
      foldr_place_utf8EncodeChar c (Lines.split_ne_nil chars), Lines.split_cons]

/-! ### ASCII -/

theorem utf8EncodeChar_of_lt {c : Char} (h : c.toNat < 128) :
    String.utf8EncodeChar c = [UInt8.ofNat c.toNat] := by
  have hv : c.val.toNat = c.toNat := rfl
  have hle : c.val.toNat ≤ 0x7f := by omega
  rw [String.utf8EncodeChar, if_pos hle, hv]

theorem length_bytes_of_lt {chars : List Char} (h : ∀ c ∈ chars, c.toNat < 128) :
    (bytes chars).length = chars.length := by
  induction chars with
  | nil => rfl
  | cons c chars ih =>
    have hc := utf8EncodeChar_of_lt (h c List.mem_cons_self)
    have hrest := ih fun d hd => h d (List.mem_cons_of_mem _ hd)
    simp [hc, hrest]

theorem toNat_ofUInt8 (b : UInt8) : (Char.ofUInt8 b).toNat = b.toNat := UInt8.toNat_toUInt32 b

/-- What holds of ASCII characters only, holds of the bytes of a text just if it
holds of its characters. -/
theorem all_bytes {p : Char → Bool} (hp : ∀ c, p c = true → c.toNat < 128) (chars : List Char) :
    ((bytes chars).all fun b => p (Char.ofUInt8 b)) = chars.all p := by
  have hone : ∀ c : Char, ((String.utf8EncodeChar c).all fun b => p (Char.ofUInt8 b)) = p c := by
    intro c
    by_cases hc : c.toNat < 128
    · have hsame : Char.ofUInt8 (UInt8.ofNat c.toNat) = c := by
        apply Char.toNat_inj.1
        rw [toNat_ofUInt8, UInt8.toNat_ofNat']
        omega
      simp [utf8EncodeChar_of_lt hc, hsame]
    · have hno : p c = false := Bool.eq_false_iff.2 fun h => hc (hp c h)
      obtain ⟨b, rest, hb⟩ := List.exists_cons_of_ne_nil (String.utf8EncodeChar_ne_nil (c := c))
      have hmem : b ∈ String.utf8EncodeChar c := by simp [hb]
      have hfirst : p (Char.ofUInt8 b) = false := by
        refine Bool.eq_false_iff.2 fun h => hc ?_
        have hlow := hp _ h
        rw [toNat_ofUInt8] at hlow
        rw [(eq_singleton_of_mem hlow hmem).1]
        exact hlow
      rw [hb, List.all_cons, hfirst, hno, Bool.false_and]
  induction chars with
  | nil => rfl
  | cons c chars ih => rw [bytes_cons, List.all_append, hone, ih, List.all_cons]

/-! ### A text is known from its bytes -/

theorem utf8EncodeChar_append_inj {c d : Char} {x y : List UInt8}
    (h : String.utf8EncodeChar c ++ x = String.utf8EncodeChar d ++ y) : c = d := by
  have e : (String.utf8EncodeChar c).toByteArray ++ x.toByteArray =
      (String.utf8EncodeChar d).toByteArray ++ y.toByteArray := by
    rw [← List.toByteArray_append, h, List.toByteArray_append]
  have hc := ByteArray.utf8DecodeChar?_utf8EncodeChar_append (b := x.toByteArray) (c := c)
  rw [e, ByteArray.utf8DecodeChar?_utf8EncodeChar_append] at hc
  exact (Option.some.inj hc).symm

/-- **Bytes of a text that start with those of another.** The other starts the
text, and what follows it is the text of the bytes that follow. -/
theorem eq_append_of_bytes_eq : ∀ {front chars : List Char} {tail : List UInt8},
    bytes chars = bytes front ++ tail → ∃ back, chars = front ++ back ∧ tail = bytes back
  | [], chars, _, h => ⟨chars, rfl, h.symm⟩
  | c :: front, [], tail, h => by
    have hne := String.utf8EncodeChar_ne_nil (c := c)
    simp [hne] at h
  | c :: front, d :: chars, tail, h => by
    rw [bytes_cons, bytes_cons, List.append_assoc] at h
    obtain rfl := utf8EncodeChar_append_inj h
    obtain ⟨back, rfl, rfl⟩ := eq_append_of_bytes_eq (List.append_cancel_left h)
    exact ⟨back, rfl, rfl⟩

theorem bytes_injective {a b : List Char} (h : bytes a = bytes b) : a = b := by
  obtain ⟨back, rfl, hback⟩ := eq_append_of_bytes_eq (h.trans (List.append_nil _).symm)
  cases back with
  | nil => exact List.append_nil b
  | cons c back => simp [String.utf8EncodeChar_ne_nil] at hback

theorem bytes_eq_nil_iff {chars : List Char} : bytes chars = [] ↔ chars = [] :=
  ⟨fun h => bytes_injective (h.trans bytes_nil.symm), fun h => h ▸ bytes_nil⟩

theorem isValidUTF8_iff {frame : List UInt8} :
    frame.toByteArray.IsValidUTF8 ↔ ∃ chars, bytes chars = frame := by
  constructor
  · intro h
    have hd : decode frame = .ok (String.fromUTF8 frame.toByteArray h) := dif_pos h
    exact ⟨_, (encode_eq_bytes _).symm.trans (decode_eq_ok_iff.1 hd)⟩
  · rintro ⟨chars, rfl⟩
    have hd := decode_eq_ok_iff.2 (encode_ofList chars)
    unfold decode at hd
    split at hd
    · next h => exact h
    · cases hd

/-- A text closes with a line end if its bytes do. -/
theorem crlf_suffix_bytes_iff {chars : List Char} :
    Lines.crlf <:+ bytes chars ↔ Lines.crlf <:+ chars := by
  constructor
  · intro h
    obtain ⟨lines, hne, hs⟩ := Lines.crlf_suffix_iff.1 h
    rw [split_bytes, List.map_eq_append_iff] at hs
    obtain ⟨front, back, hs, rfl, hb⟩ := hs
    obtain ⟨last, rfl, hlast⟩ := List.map_eq_singleton_iff.1 hb
    rw [bytes_eq_nil_iff] at hlast
    subst hlast
    exact Lines.crlf_suffix_iff.2 ⟨front, fun hf => hne (by rw [hf, List.map_nil]), hs⟩
  · rintro ⟨front, rfl⟩
    rw [bytes_append, bytes_crlf]
    exact List.suffix_append _ _

end Utf8
end SpeechWire
