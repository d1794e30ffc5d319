/-
# Framing and reading agree

Framing looks for the end of a reply from the last byte back, and tests one
byte of the last line; reading goes from the first character on, line by line.
On a complete frame the two agree. Reading finds the line end and the last
line that framing has seen, so it never complains that one of them is missing
(`parse_isComplete`). And a reply that is read ends with the first line that
announces no other: if the bytes are complete nowhere before their end, that is
their last line, and they are nothing but the reply as it is written
(`render_eq_of_parse`).

Complaints are known by their words, since no two kinds start with the same
(`Malformation.heading_eq_of_reason_eq`).

Key definitions: `Malformation.heading`.
Key theorems: `Reply.exists_body`, `Reply.split_of_parse`,
`Reply.render_eq_of_parse`, `Reply.parse_isComplete`.
-/
import SpeechWire.Proofs.Meaning

namespace SpeechWire

/-! ### The words of a complaint -/

namespace Malformation

/-- The words with which the reason starts, whatever it shows. -/
def heading : Malformation → String
  | .shortLine _ => "line too short: "
  | .badCode _ => "invalid status code in line: "
  | .wordCode _ => "non-numeric status code: "
  | .badSeparator _ => "invalid separator in line: "
  | .notText _ => "response is not UTF-8: "
  | .unterminated => "response frame is not terminated by CRLF"
  | .codeChanged _ _ => "status code changed within one response: expected "
  | .noFinalLine => "response frame has no final line"
  | .tooLong _ => "response exceeds "

/-- The headings of all kinds of complaint. -/
def headings : List String :=
  ["line too short: ", "invalid status code in line: ", "non-numeric status code: ",
    "invalid separator in line: ", "response is not UTF-8: ",
    "response frame is not terminated by CRLF",
    "status code changed within one response: expected ", "response frame has no final line",
    "response exceeds "]

theorem heading_mem (why : Malformation) : why.heading ∈ headings := by
  cases why <;> simp [heading, headings]

theorem eq_of_heading_isPrefix :
    ∀ a ∈ headings, ∀ b ∈ headings, a.toList <+: b.toList → a = b := by
  decide +kernel

theorem heading_isPrefix (why : Malformation) : why.heading.toList <+: why.reason.toList := by
  have hdetails : ∃ details, why.reason = why.heading ++ details := by
    cases why with
    | shortLine line | badCode line | wordCode line | badSeparator line => exact ⟨quoted line, rfl⟩
    | notText flaw => exact ⟨flaw.text, rfl⟩
    | unterminated | noFinalLine => exact ⟨"", String.append_empty.symm⟩
    | codeChanged expected got =>
      refine ⟨toString expected ++ (", got " ++ toString got), ?_⟩
      rw [← String.append_assoc, ← String.append_assoc]
      rfl
    | tooLong limit =>
      refine ⟨toString limit ++ " bytes", ?_⟩
      rw [← String.append_assoc]
      rfl
  obtain ⟨details, h⟩ := hdetails
  rw [h, String.toList_append]
  exact List.prefix_append _ _

/-- **Complaints in the same words are of the same kind.** -/
theorem heading_eq_of_reason_eq {a b : Malformation} (h : a.reason = b.reason) :
    a.heading = b.heading := by
  have ha := a.heading_isPrefix
  rw [h] at ha
  rcases List.prefix_or_prefix_of_prefix ha b.heading_isPrefix with hab | hba
  · exact eq_of_heading_isPrefix _ a.heading_mem _ b.heading_mem hab
  · exact (eq_of_heading_isPrefix _ b.heading_mem _ a.heading_mem hba).symm

theorem eq_unterminated_of_reason {why : Malformation}
    (h : why.reason = "response frame is not terminated by CRLF") : why = .unterminated := by
  have hh : why.heading = unterminated.heading := heading_eq_of_reason_eq h
  cases why <;> simp [heading] at hh ⊢

theorem eq_noFinalLine_of_reason {why : Malformation}
    (h : why.reason = "response frame has no final line") : why = .noFinalLine := by
  have hh : why.heading = noFinalLine.heading := heading_eq_of_reason_eq h
  cases why <;> simp [heading] at hh ⊢

end Malformation

namespace Reply

open Lines Utf8 SpeechWire.Frame

/-! ### The lines of a frame that is read -/

theorem exists_body {reply : Reply} (hw : reply.IsWritable) :
    ∃ body, reply.render = body ++ crlf ∧
      split body = reply.lines.map fun line => bytes line.render := by
  have hne : reply.lines.map Line.render ≠ [] := by simp [lines]
  refine ⟨bytes (join (reply.lines.map Line.render)), ?_, ?_⟩
  · rw [render_eq_bytes, text, flatMap_append_crlf hne, bytes_append, bytes_crlf]
  · rw [split_bytes, split_join hne ((isWritable_iff reply).1 hw).2, List.map_map]
    rfl

/-- A frame that is read starts with what is written for the reply. -/
theorem exists_tail_of_parse {frame : List UInt8} {reply : Reply} (h : parse frame = .ok reply) :
    reply.IsWritable ∧ ∃ tail, frame = reply.render ++ tail := by
  obtain ⟨chars, rfl⟩ := isValidUTF8_iff.1 (isValidUTF8_of_parse h)
  obtain ⟨hw, tail, rfl, -⟩ := parse_bytes_eq_ok_iff.1 h
  exact ⟨hw, bytes tail, by rw [render_eq_bytes, bytes_append]⟩

/-- **The first lines of a frame that is read are the lines of the reply.** -/
theorem split_of_parse {frame : List UInt8} {reply : Reply} (h : parse frame = .ok reply) :
    ∃ rest, split frame = (reply.lines.map fun line => bytes line.render) ++ rest := by
  obtain ⟨hw, tail, rfl⟩ := exists_tail_of_parse h
  obtain ⟨body, hbody, hlines⟩ := exists_body hw
  exact ⟨split tail, by rw [hbody, split_append_crlf, hlines]⟩

/-- What is written for a reply is complete: its last line announces no other. -/
theorem isComplete_render {reply : Reply} (hw : reply.IsWritable) :
    isComplete reply.render = true := by
  obtain ⟨body, hbody, hlines⟩ := exists_body hw
  rw [lines, List.map_append, List.map_singleton] at hlines
  rw [hbody, isComplete_append_crlf, lastLine_of_split_eq hlines,
    Line.announces_render_iff hw.code_le]
  exact Separator.noConfusion

/-- **Bytes that are complete nowhere before their end are read whole.** -/
theorem render_eq_of_parse {frame : List UInt8} {reply : Reply}
    (hfront : ∀ n < frame.length, isComplete (frame.take n) = false)
    (h : parse frame = .ok reply) : reply.render = frame := by
  obtain ⟨hw, tail, rfl⟩ := exists_tail_of_parse h
  by_cases htail : tail = []
  · rw [htail, List.append_nil]
  · -- otherwise the reply itself would be complete before the end
    have hlt : reply.render.length < (reply.render ++ tail).length := by
      rw [List.length_append]
      exact Nat.lt_add_of_pos_right (List.length_pos_iff.2 htail)
    have hopen := hfront _ hlt
    rw [List.take_left, isComplete_render hw] at hopen
    cases hopen

/-! ### Complaints about a complete frame -/

theorem ofLines_ne_unterminated {raws : List (List Char)} : ∀ {expected : Option Nat}
    {data : List String}, ofLines expected data raws ≠ .error .unterminated := by
  induction raws with
  | nil => exact fun h => by cases h
  | cons raw raws ih =>
    intro expected data h
    rw [ofLines] at h
    cases hp : Line.parse (String.ofList raw) with
    | error why =>
      simp only [hp, Except.error.injEq] at h
      have hline : Malformation.unterminated.OfLine := Line.ofLine_of_parse (h ▸ hp)
      exact hline.elim
    | ok line =>
      cases hf : expected.filter (· != line.code) with
      | some code => simp [hp, hf] at h
      | none =>
        cases hs : line.separator with
        | continuation =>
          simp only [hp, hf, hs] at h
          exact ih h
        | final => simp [hp, hf, hs] at h

/-- **Reading finds the line end and the last line of a complete frame.** -/
theorem parse_ne_of_isComplete {frame : List UInt8} (hc : isComplete frame = true) :
    parse frame ≠ .error .unterminated ∧ parse frame ≠ .error .noFinalLine := by
  cases hd : decode frame with
  | error flaw =>
    have hp : parse frame = .error (.notText flaw) := by
      rw [parse, hd]
    rw [hp]
    exact ⟨by simp, by simp⟩
  | ok text =>
    obtain rfl := decode_eq_ok_iff.1 hd
    rw [encode_eq_bytes] at hc ⊢
    obtain ⟨body, hbody, hlast⟩ := exists_of_isComplete_prefix List.prefix_rfl hc
    rw [hbody, parse_bytes_append_crlf]
    exact ⟨ofLines_ne_unterminated, ofLines_ne_noFinalLine hlast none []⟩

/-- **Framing and reading agree.** A complete frame is never complained of as
not closed or as without a final line. Bytes that are complete nowhere before
their end and are read as a reply are the bytes of that reply: their lines are
the lines with the data, in order, then the line with the message, and none
after it. -/
theorem parse_isComplete (frame : List UInt8) :
    (isComplete frame = true → ∀ why, parse frame = .error why →
      why.reason ≠ "response frame is not terminated by CRLF" ∧
      why.reason ≠ "response frame has no final line") ∧
    ∀ reply, (∀ n < frame.length, isComplete (frame.take n) = false) → parse frame = .ok reply →
      reply.render = frame ∧
      split frame = (reply.data.map fun text =>
        bytes (Line.render ⟨reply.code, .continuation, text⟩)) ++
          [bytes (Line.render ⟨reply.code, .final, reply.message⟩), []] := by
  refine ⟨fun hc why hwhy => ?_, fun reply hfront h => ?_⟩
  · obtain ⟨hclosed, hfinal⟩ := parse_ne_of_isComplete hc
    refine ⟨fun h => hclosed ?_, fun h => hfinal ?_⟩
    · rw [hwhy, Malformation.eq_unterminated_of_reason h]
    · rw [hwhy, Malformation.eq_noFinalLine_of_reason h]
  · obtain rfl := render_eq_of_parse hfront h
    obtain ⟨body, hbody, hlines⟩ := exists_body (exists_tail_of_parse h).1
    refine ⟨rfl, ?_⟩
    rw [hbody, split_append_crlf_self, hlines, lines, List.map_append, List.map_map,
      List.map_singleton, List.append_assoc, List.singleton_append]
    rfl

/-- A piece of data and a message, with a CR alone and a hyphen in them. -/
def dataAndMessage : List UInt8 := Utf8.encode "042-a\rb\r\n042 é-\r\n"

/-- It is the lines `042-a\rb` and `042 é-`. -/
theorem parse_isComplete_dataAndMessage :
    isComplete dataAndMessage = true ∧
    (∀ n < dataAndMessage.length, isComplete (dataAndMessage.take n) = false) ∧
    parse dataAndMessage = .ok ⟨42, "é-", ["a\rb"]⟩ ∧
    render ⟨42, "é-", ["a\rb"]⟩ = dataAndMessage ∧
    split dataAndMessage = [Utf8.encode "042-a\rb", Utf8.encode "042 é-", []] := by
  have hc : isComplete dataAndMessage = true := by decide +kernel
  have hfront : ∀ n < dataAndMessage.length, isComplete (dataAndMessage.take n) = false := by
    decide +kernel
  have hp : parse dataAndMessage = .ok ⟨42, "é-", ["a\rb"]⟩ := by decide +kernel
  obtain ⟨-, hread⟩ := parse_isComplete dataAndMessage
  obtain ⟨hrender, hsplit⟩ := hread _ hfront hp
  exact ⟨hc, hfront, hp, hrender, hsplit.trans (by decide +kernel)⟩

end Reply
end SpeechWire
