/-
# Text as UTF-8 bytes

The wire carries bytes, replies are read as text. `encode` and `decode` are
the two directions; `decode` accepts exactly the bytes that `encode` writes
(`decode_eq_ok_iff`). Bytes that are no text have a first flaw: the sequence
that starts there is either broken by a byte that cannot stand in it, or cut
short by the end of the bytes. Which bytes may follow which lead byte is the
table of well-formed sequences (`followers`).

Key definitions: `Utf8.encode`, `Utf8.decode`, `Utf8.Flaw`, `Utf8.followers`.
Key theorems: `Utf8.decode_eq_ok_iff`, `Utf8.encode_eq_flatMap`.
-/
namespace SpeechWire
namespace Utf8

/-- The bytes of a text. -/
def encode (text : String) : List UInt8 := text.toUTF8.data.toList

/-- The first place where bytes stop being text. -/
inductive Flaw where
  /-- The sequence at `index` is broken after `length` bytes. -/
  | broken (index length : Nat)
  /-- The bytes end inside the sequence at `index`. -/
  | cutShort (index : Nat)
deriving Repr, DecidableEq

/-- The flaw in words. -/
def Flaw.text : Flaw → String
  | .broken index length => s!"invalid utf-8 sequence of {length} bytes from index {index}"
  | .cutShort index => s!"incomplete utf-8 byte sequence from index {index}"

/-- The ranges of the bytes that follow a lead byte, in order; none if the
byte leads no sequence. The first range is narrowed after four lead bytes:
no overlong forms, no surrogates, nothing above U+10FFFF. -/
def followers (lead : UInt8) : Option (List (UInt8 × UInt8)) :=
  if lead < 0x80 then some []
  else if lead < 0xC2 then none
  else if lead < 0xE0 then some [(0x80, 0xBF)]
  else if lead = 0xE0 then some [(0xA0, 0xBF), (0x80, 0xBF)]
  else if lead = 0xED then some [(0x80, 0x9F), (0x80, 0xBF)]
  else if lead < 0xF0 then some [(0x80, 0xBF), (0x80, 0xBF)]
  else if lead = 0xF0 then some [(0x90, 0xBF), (0x80, 0xBF), (0x80, 0xBF)]
  else if lead < 0xF4 then some [(0x80, 0xBF), (0x80, 0xBF), (0x80, 0xBF)]
  else if lead = 0xF4 then some [(0x80, 0x8F), (0x80, 0xBF), (0x80, 0xBF)]
  else none

/-- The flaw met first from inside a sequence that started at `index`, of
which `seen` bytes have been read and bytes in the ranges `due` must follow. -/
def flawFrom (index seen : Nat) : List (UInt8 × UInt8) → List UInt8 → Flaw
  | _, [] => .cutShort index
  | [], lead :: rest =>
    match followers lead with
    | none => .broken (index + seen) 1
    | some due => flawFrom (index + seen) 1 due rest
  | (low, high) :: due, byte :: rest =>
    if low ≤ byte ∧ byte ≤ high then flawFrom index (seen + 1) due rest
    else .broken index seen

/-- The first flaw of bytes that are no text. -/
def flaw (bytes : List UInt8) : Flaw := flawFrom 0 0 [] bytes

/-- Reads bytes as text. -/
def decode (bytes : List UInt8) : Except Flaw String :=
  if h : bytes.toByteArray.IsValidUTF8 then .ok (String.fromUTF8 bytes.toByteArray h)
  else .error (flaw bytes)

theorem encode_eq_flatMap (text : String) :
    encode text = text.toList.flatMap String.utf8EncodeChar := by
  rw [encode, String.toUTF8_eq_toByteArray, ← String.utf8Encode_toList, List.utf8Encode,
    List.toList_data_toByteArray]

/-- A text is read from its own bytes and from no others. -/
theorem decode_eq_ok_iff {bytes : List UInt8} {text : String} :
    decode bytes = .ok text ↔ encode text = bytes := by
  have back : ∀ b : ByteArray, b.data.toList.toByteArray = b := fun b =>
    ByteArray.ext (by simp)
  constructor
  · intro h
    unfold decode at h
    split at h
    · cases h
      exact List.toList_data_toByteArray
    · cases h
  · rintro rfl
    have e : (encode text).toByteArray = text.toByteArray := back _
    unfold decode
    split
    · next h =>
      congr 1
      exact String.toByteArray_inj.1 e
    · next h => exact absurd (e ▸ text.isValidUTF8) h

theorem decode_encode (text : String) : decode (encode text) = .ok text :=
  decode_eq_ok_iff.2 rfl

end Utf8
end SpeechWire
