/-
# A client makes itself known on one line

Settings that were judged usable have an identity without white space, and a
space, a CR and an LF are white space. So the command by which a client makes
itself known has just three words, whatever its names are, and no line end
before the one that closes it; the text of a command needs no quoting then,
and none is done.

Key definitions: `Lines.ClosesOnce`.
Key theorems: `Lines.closesOnce_append_crlf`, `Connection.written_of_willing`,
`Connection.introduces_in_three_words`.
-/
import SpeechWire.Proofs.Choices
import SpeechWire.Proofs.Receiving
import SpeechWire.Proofs.Transmission

namespace SpeechWire

/-! ### One line end, at the close -/

namespace Lines

/-- Whether a line end stands at the close of the bytes and nowhere else. -/
def ClosesOnce (bytes : List UInt8) : Prop := ∀ i, crlf <+: bytes.drop i ↔ i + 2 = bytes.length

theorem closesOnce_append_crlf {line : List UInt8} (h : Unbroken line) :
    ClosesOnce (line ++ crlf) := by
  have hcut := Receiver.cutAt?_line h []
  rw [List.append_nil] at hcut
  have hbefore := ((Receiver.cutAt?_eq_some_iff Receiver.crlf_ne_nil).1 hcut).2
  intro i
  have hlen : (line ++ crlf).length = line.length + 2 := List.length_append
  rw [hlen, Nat.add_right_cancel_iff]
  constructor
  · intro hp
    have hroom := hp.length_le
    rw [List.length_drop, hlen] at hroom
    have htwo : (crlf : List UInt8).length = 2 := rfl
    exact Nat.le_antisymm (by omega) (Nat.le_of_not_lt fun hlt => hbefore i hlt hp)
  · rintro rfl
    exact ⟨[], by rw [List.append_nil, List.drop_left]⟩

end Lines

namespace Connection

open Transport Lines

/-- Where every write planned is willing, a request is taken whole. -/
theorem written_of_willing (connection : Connection) (request : Request) {t : Transport}
    (hwrites : ∀ acceptance ∈ t.writes, acceptance.Willing) :
    (connection.send request t).transport.written = t.written ++ request.bytes := by
  obtain ⟨accepted, hcourse⟩ := course_send connection request t
  rw [hcourse.written]
  cases hcourse with
  | refused _ _ hwrote hrefuses =>
    obtain ⟨used, -, hw⟩ := hwrote.used
    refine absurd hrefuses (not_refuses_of_writes fun acceptance hmem => hwrites acceptance ?_)
    rw [hw]
    exact List.mem_append_right used hmem
  | unflushed | passed => rfl

theorem transport_welcome (greeting : Outcome Connection (Except Fault Reply)) :
    (welcome greeting).transport = greeting.transport := by
  unfold welcome
  split <;> rfl

theorem isOneLine_introduction {settings : Settings} (h : '\r' ∉ settings.identity.toList) :
    (introduction settings).IsOneLine := by
  have hcr : ∀ c ∈ settings.identity.toList, c ≠ Newline.cr := by
    rintro c hmem rfl
    exact h hmem
  have hidentity : Unbroken settings.identity.toList := by
    rw [← List.append_nil settings.identity.toList]
    exact (unbroken_append_iff hcr []).2 unbroken_nil
  intro word hmem
  simp only [introduction, Command.arg, Argument.text, List.nil_append, List.singleton_append,
    List.mem_cons, List.not_mem_nil, or_false] at hmem
  rcases hmem with rfl | rfl | rfl
  · decide +kernel
  · decide +kernel
  · exact hidentity

theorem toList_text_introduction (settings : Settings) :
    (introduction settings).text.toList = [' '].intercalate
      ["SET".toList, "CLIENT_NAME".toList,
        (settings.clientName ++ ":" ++ settings.connectionName).toList] := by
  rw [Command.text, String.toList_intercalate]
  rfl

/-- **No name can add a word or a line.** With settings that were built from any
choices, over a transport whose writes are all willing, making the client
known writes one line: its line end closes it and stands nowhere before, and
between spaces there are three words, the last of which is the two names. -/
theorem introduces_in_three_words {choices : List Settings.Choice} {settings : Settings}
    (hbuild : Settings.build choices = .ok settings) {t : Transport}
    (hwrites : ∀ acceptance ∈ t.writes, acceptance.Willing) :
    ∃ line : String,
      (∀ connection : Connection, connection.settings = settings →
        (connection.identify t).transport.written = t.written ++ Utf8.encode (line ++ newline)) ∧
      (establish settings t).transport.written = t.written ++ Utf8.encode (line ++ newline) ∧
      ClosesOnce (Utf8.encode (line ++ newline)) ∧
      line.toList.splitOn ' ' = ["SET".toList, "CLIENT_NAME".toList,
        (settings.clientName ++ ":" ++ settings.connectionName).toList] := by
  have hword : ∀ c ∈ settings.identity.toList, isBlank c = false :=
    Settings.not_blank_of_build hbuild
  have hspace : ' ' ∉ settings.identity.toList := fun hmem => absurd (hword ' ' hmem) (by decide)
  have hcr : '\r' ∉ settings.identity.toList := fun hmem => absurd (hword '\r' hmem) (by decide)
  have hline : (introduction settings).IsOneLine := isOneLine_introduction hcr
  have hwire := Receiver.wire_command (introduction settings)
  have hbytes : Utf8.encode ((introduction settings).text ++ newline) =
      Utf8.encode (introduction settings).text ++ crlf := by
    rw [← hwire, Request.wire, Command.encode_eq]
  have hidentify : ∀ connection : Connection, connection.settings = settings →
      (connection.identify t).transport.written =
        t.written ++ Utf8.encode ((introduction settings).text ++ newline) := by
    rintro connection rfl
    rw [identify, written_of_willing connection _ hwrites, Request.bytes, newline_eq, Command.text]
  refine ⟨(introduction settings).text, hidentify, ?_, ?_, ?_⟩
  · rw [establish, transport_welcome]
    exact hidentify (new settings) rfl
  · rw [hbytes, Utf8.encode_eq_bytes]
    exact closesOnce_append_crlf (Utf8.unbroken_bytes hline.unbroken_text)
  · rw [toList_text_introduction]
    refine List.splitOn_intercalate ' ' ?_ (List.cons_ne_nil _ _)
    intro word hmem
    simp only [List.mem_cons, List.not_mem_nil, or_false] at hmem
    rcases hmem with rfl | rfl | rfl
    · decide +kernel
    · decide +kernel
    · exact hspace

/-- A name that looks like a command, and one with a character that shows as
nothing. -/
def oddNames : List Settings.Choice :=
  [.clientName "SET:BYE", .connectionName "no\u200bbreak"]

/-- A transport that takes two bytes, is interrupted, and then takes the rest. -/
def slowTransport : Transport :=
  .ofScript { writes := [.upTo 2, .failure ⟨.interrupted, "write"⟩] }

theorem introduces_in_three_words_oddNames :
    Settings.build oddNames =
      .ok { clientName := "SET:BYE", connectionName := "no\u200bbreak" } ∧
    (∀ acceptance ∈ slowTransport.writes, acceptance.Willing) ∧
    ∃ line : String,
      (establish { clientName := "SET:BYE", connectionName := "no\u200bbreak" }
        slowTransport).transport.written = Utf8.encode (line ++ newline) ∧
      ClosesOnce (Utf8.encode (line ++ newline)) ∧
      line.toList.splitOn ' ' =
        ["SET".toList, "CLIENT_NAME".toList, "SET:BYE:no\u200bbreak".toList] := by
  have hbuild : Settings.build oddNames =
      .ok { clientName := "SET:BYE", connectionName := "no\u200bbreak" } := by decide +kernel
  have hwrites : ∀ acceptance ∈ slowTransport.writes, acceptance.Willing := by decide
  obtain ⟨line, -, hwritten, hcloses, hwords⟩ := introduces_in_three_words hbuild hwrites
  exact ⟨hbuild, hwrites, line, hwritten, hcloses, hwords⟩

end Connection
end SpeechWire
