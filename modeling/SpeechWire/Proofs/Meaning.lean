/-
# What a reply means does not depend on how it arrives

Where a frame is cut off a stream depends on the reads: a read that brings
more than one line end can carry the frame past the first place where it is
complete. So two readers of the same stream can be given frames of different
lengths. They are given the same reply all the same, or the same complaint.

The line at which a frame is complete for the first time does not announce
another, so reading the lines of the shorter frame does not run out of them
(`ofLines_ne_noFinalLine`): it ends in a reply or a complaint at that line at
the latest, and the lines that the longer frame has behind it are never looked
at (`ofLines_append`).

Key theorems: `Utf8.exists_of_isComplete_prefix`, `Reply.ofLines_append`,
`Reply.parse_of_isComplete_prefix`, `Assembler.parse_readFrame_eq`.
-/
import SpeechWire.Proofs.Grammar
import SpeechWire.Proofs.Rounds

namespace SpeechWire

open Lines

/-! ### Cutting at a line end -/

namespace Lines

variable {α : Type} [Newline α]

/-- A text that closes with a line end and is cut at another: what stands
behind the cut is nothing or closes with a line end. -/
theorem crlf_suffix_of_append {front back : List α} (h : crlf <:+ front ++ crlf ++ back) :
    back = [] ∨ crlf <:+ back := by
  have hback : back <:+ front ++ crlf ++ back := List.suffix_append _ _
  rcases Nat.lt_or_ge back.length 2 with hshort | hlong
  · cases back with
    | nil => exact .inl rfl
    | cons a back =>
      -- one unit behind the cut would be LF, and before it stands LF, not CR
      obtain rfl : back = [] := by
        rw [List.length_cons] at hshort
        exact List.length_eq_zero_iff.1 (by omega)
      obtain ⟨x, hx⟩ := h
      have hcut : x ++ [Newline.cr] ++ [Newline.lf] =
          front ++ [Newline.cr] ++ [Newline.lf] ++ [a] := by
        simpa [crlf] using hx
      obtain ⟨hcut, -⟩ := List.append_singleton_inj.1 hcut
      obtain ⟨-, hmark⟩ := List.append_singleton_inj.1 hcut
      exact absurd hmark Newline.cr_ne_lf
  · exact .inr (List.suffix_of_suffix_length_le h hback hlong)

end Lines

namespace Utf8

theorem exists_of_bytes_eq_append_crlf {chars : List Char} {front back : List UInt8}
    (h : bytes chars = front ++ crlf ++ back) :
    ∃ x y, chars = x ++ crlf ++ y ∧ front = bytes x := by
  have hsplit := split_bytes chars
  rw [h, split_append_crlf] at hsplit
  obtain ⟨a, b, hlines, ha, hb⟩ := List.map_eq_append_iff.1 hsplit.symm
  have hne : a ≠ [] := by
    rintro rfl
    exact split_ne_nil front ha.symm
  have hne' : b ≠ [] := by
    rintro rfl
    exact split_ne_nil back hb.symm
  obtain ⟨x, y, rfl, rfl, -⟩ := (split_eq_append_iff hne hne').1 hlines
  refine ⟨x, y, rfl, split_inj.1 ?_⟩
  rw [split_bytes, ha]

/-- A complete frame at the front of a text is a text that closes with a line
end, and the last of its lines does not announce another. -/
theorem exists_of_isComplete_prefix {chars : List Char} {frame : List UInt8}
    (hp : frame <+: bytes chars) (hc : Frame.isComplete frame = true) :
    ∃ body, frame = bytes (body ++ crlf) ∧ ∃ line ∈ split body, ¬ Frame.Announces (bytes line) := by
  obtain ⟨front, rfl, hlast⟩ := (Frame.isComplete_iff frame).1 hc
  obtain ⟨back, hback⟩ := hp
  obtain ⟨body, -, -, rfl⟩ := exists_of_bytes_eq_append_crlf hback.symm
  refine ⟨body, by rw [bytes_append, bytes_crlf], ?_⟩
  have hmem : Frame.lastLine (bytes body) ∈ (split body).map bytes := by
    rw [← split_bytes]
    exact List.getLast_mem _
  obtain ⟨line, hline, he⟩ := List.mem_map.1 hmem
  exact ⟨line, hline, he ▸ hlast⟩

end Utf8

/-! ### Reading the lines of a frame -/

/-- Whether the complaint is about one line by itself. -/
def Malformation.OfLine : Malformation → Prop
  | .shortLine _ | .badCode _ | .wordCode _ | .badSeparator _ => True
  | _ => False

/-- The byte that a separator is written with. -/
def Separator.toByte : Separator → UInt8
  | .continuation => Frame.hyphen
  | .final => Frame.space

theorem Separator.utf8EncodeChar_toChar (separator : Separator) :
    String.utf8EncodeChar separator.toChar = [separator.toByte] := by
  cases separator <;> decide

namespace Reply

open Utf8 SpeechWire.Frame

/-- A line that is none is complained of by itself: not for what comes before
or after it. -/
theorem Line.ofLine_of_parse {raw : String} {why : Malformation}
    (h : Line.parse raw = .error why) : why.OfLine := by
  unfold Line.parse at h
  split at h
  · exact Except.error.inj h ▸ trivial
  split at h
  · exact Except.error.inj h ▸ trivial
  · next code rest _ =>
    split at h
    · exact Except.error.inj h ▸ trivial
    split at h
    · exact Except.error.inj h ▸ trivial
    · cases rest with
      | nil => exact Except.error.inj h ▸ trivial
      | cons c text =>
        cases hs : Separator.ofChar? c with
        | none =>
          simp only [Line.afterCode, hs] at h
          exact Except.error.inj h ▸ trivial
        | some separator =>
          simp only [Line.afterCode, hs] at h
          cases h

theorem Line.getElem?_bytes_render {line : Line} (hc : line.code ≤ 999) :
    (bytes line.render)[codeWidth]? = some line.separator.toByte := by
  have hlen : (bytes (threeDigits line.code)).length = codeWidth :=
    (eq_threeDigits_iff.1 ⟨hc, rfl⟩).1
  rw [render, bytes_append, bytes_cons, line.separator.utf8EncodeChar_toChar, ← hlen,
    List.getElem?_append_right (Nat.le_refl _), Nat.sub_self]
  rfl

theorem Line.announces_render_iff {line : Line} (hc : line.code ≤ 999) :
    Announces (bytes line.render) ↔ line.separator = .continuation := by
  rw [Announces, Line.getElem?_bytes_render hc, Option.some_inj]
  cases line.separator <;> decide

/-- Reading runs out of lines only if each of them announces another. -/
theorem announces_of_ofLines {raws : List (List Char)} : ∀ {expected : Option Nat}
    {data : List String}, ofLines expected data raws = .error .noFinalLine →
      ∀ raw ∈ raws, Announces (bytes raw) := by
  induction raws with
  | nil => simp
  | cons raw raws ih =>
    intro expected data h
    rw [ofLines] at h
    cases hp : Line.parse (String.ofList raw) with
    | error why =>
      simp only [hp, Except.error.injEq] at h
      have hline : Malformation.noFinalLine.OfLine := Line.ofLine_of_parse (h ▸ hp)
      exact hline.elim
    | ok line =>
      obtain ⟨hcode, hraw⟩ := Line.parse_eq_ok_iff.1 hp
      rw [String.toList_ofList] at hraw
      cases hf : expected.filter (· != line.code) with
      | some code => simp [hp, hf] at h
      | none =>
        cases hs : line.separator with
        | continuation =>
          simp only [hp, hf, hs] at h
          intro other ho
          rcases List.mem_cons.1 ho with rfl | ho
          · exact hraw ▸ (Line.announces_render_iff hcode).2 hs
          · exact ih h other ho
        | final => simp [hp, hf, hs] at h

/-- **Reading lines that do not run out looks at no line behind them.** -/
theorem ofLines_append {raws : List (List Char)} (more : List (List Char)) :
    ∀ {expected : Option Nat} {data : List String},
      ofLines expected data raws ≠ .error .noFinalLine →
        ofLines expected data (raws ++ more) = ofLines expected data raws := by
  induction raws with
  | nil =>
    intro expected data h
    exact absurd rfl h
  | cons raw raws ih =>
    intro expected data h
    rw [List.cons_append, ofLines, ofLines]
    rw [ofLines] at h
    cases hp : Line.parse (String.ofList raw) with
    | error why => rfl
    | ok line =>
      cases hf : expected.filter (· != line.code) with
      | some code => simp only [hf]
      | none =>
        cases hs : line.separator with
        | continuation =>
          simp only [hp, hf, hs] at h ⊢
          exact ih h
        | final => simp only [hf, hs]

theorem ofLines_ne_noFinalLine {raws : List (List Char)}
    (h : ∃ line ∈ raws, ¬ Announces (bytes line)) (expected : Option Nat) (data : List String) :
    ofLines expected data raws ≠ .error .noFinalLine := by
  obtain ⟨line, hline, hlast⟩ := h
  exact fun he => hlast (announces_of_ofLines he line hline)

/-! ### Frames of one stream -/

theorem parse_bytes_append_crlf (body : List Char) :
    parse (bytes (body ++ crlf)) = ofLines none [] (split body) := by
  have hdecode : decode (bytes (body ++ crlf)) = .ok (String.ofList (body ++ crlf)) :=
    decode_eq_ok_iff.2 (encode_ofList _)
  rw [parse, hdecode]
  simp only [String.toList_ofList, body?_append_crlf]

/-- **A longer frame means what a shorter one means**, if both are complete and
stand at the front of the same text. -/
theorem parse_of_isComplete_prefix {chars : List Char} {short long : List UInt8}
    (hp : short <+: long) (hlong : long <+: bytes chars) (hs : Frame.isComplete short = true)
    (hl : Frame.isComplete long = true) : parse long = parse short := by
  obtain ⟨body, rfl, hlast⟩ := exists_of_isComplete_prefix (hp.trans hlong) hs
  obtain ⟨body', rfl, -⟩ := exists_of_isComplete_prefix hlong hl
  obtain ⟨tail, htail⟩ := hp
  obtain ⟨back, hback, -⟩ := eq_append_of_bytes_eq htail.symm
  have hends : back = [] ∨ crlf <:+ back := by
    apply crlf_suffix_of_append
    rw [← hback]
    exact List.suffix_append _ _
  have hlines : ∀ line ∈ split body, Unbroken line := fun line hl => unbroken_of_mem_split hl
  have hfront : body' ++ crlf = (split body).flatMap (· ++ crlf) ++ back := by
    rw [hback, flatMap_append_crlf (split_ne_nil body), join_split]
  obtain ⟨more, hmore⟩ :=
    (split_starts_iff (split_ne_nil body)).2 ⟨hlines, back, hfront, hends⟩
  rw [parse_bytes_append_crlf, parse_bytes_append_crlf, hmore]
  exact ofLines_append more (ofLines_ne_noFinalLine hlast none [])

end Reply

namespace Assembler

/-- **What a reply means does not depend on how it was split.** Two readers that
are given the same text, in any arrivals, with any sizes of read and any
limits, find the same in their first frames, if both are given one: the same
reply, or the same complaint. The frames themselves can differ. -/
theorem parse_readFrame_eq {text : List UInt8} (htext : text.toByteArray.IsValidUTF8)
    {a b : Assembler} {t u : Transport} (ht : t.incoming = text) (hu : u.incoming = text)
    {frame frame' : List UInt8} (hf : (a.readFrame t).result = .ok frame)
    (hf' : (b.readFrame u).result = .ok frame') : Reply.parse frame = Reply.parse frame' := by
  obtain ⟨chars, rfl⟩ := Utf8.isValidUTF8_iff.1 htext
  obtain ⟨hfront, hcomplete⟩ := readFrame_prefix hf
  obtain ⟨hfront', hcomplete'⟩ := readFrame_prefix hf'
  have hp : frame <+: Utf8.bytes chars := ⟨_, hfront.symm.trans ht⟩
  have hp' : frame' <+: Utf8.bytes chars := ⟨_, hfront'.symm.trans hu⟩
  rcases List.prefix_or_prefix_of_prefix hp hp' with hle | hle
  · exact (Reply.parse_of_isComplete_prefix hle hp' hcomplete hcomplete').symm
  · exact Reply.parse_of_isComplete_prefix hle hp hcomplete' hcomplete

/-- A reply and a line that is none behind it. -/
def replyAndMore : List UInt8 := Utf8.encode "250 A\r\nX\r\n"

/-- Read at once the line behind is part of the frame, read byte by byte it is
not; both frames are the reply `A`. -/
theorem parse_readFrame_eq_replyAndMore :
    replyAndMore.toByteArray.IsValidUTF8 ∧
    (readFrame ⟨64, 64, .empty⟩ (.ofScript { reads := [.bytes replyAndMore] })).result =
      .ok replyAndMore ∧
    (readFrame ⟨1, 7, .empty⟩ (.ofScript { reads := [.bytes replyAndMore] })).result =
      .ok (Utf8.encode "250 A\r\n") ∧
    Reply.parse (Utf8.encode "250 A\r\n") = .ok ⟨250, "A", []⟩ ∧
    Reply.parse replyAndMore = .ok ⟨250, "A", []⟩ := by
  have htext : replyAndMore.toByteArray.IsValidUTF8 :=
    Utf8.isValidUTF8_iff.2 ⟨_, (Utf8.encode_eq_bytes _).symm⟩
  have hlong : (readFrame ⟨64, 64, .empty⟩ (.ofScript { reads := [.bytes replyAndMore] })).result =
      .ok replyAndMore := by decide +kernel
  have hshort : (readFrame ⟨1, 7, .empty⟩ (.ofScript { reads := [.bytes replyAndMore] })).result =
      .ok (Utf8.encode "250 A\r\n") := by decide +kernel
  have hincoming : (Transport.ofScript { reads := [.bytes replyAndMore] }).incoming =
      replyAndMore := List.append_nil _
  have hreply : Reply.parse (Utf8.encode "250 A\r\n") = .ok ⟨250, "A", []⟩ := by decide +kernel
  have hsame := parse_readFrame_eq htext hincoming hincoming hlong hshort
  exact ⟨htext, hlong, hshort, hreply, hsame.trans hreply⟩

end Assembler
end SpeechWire
