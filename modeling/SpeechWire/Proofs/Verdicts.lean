/-
# What a sender is told is true

A sender is told that its request succeeded, that it was refused, or why there
is neither. Three things meet in that: what was encoded, what the transport
took of it, and what the reply said. They agree (`Connection.send_truthful`):
success and refusal are told apart by the class of the code, a refusal shows
the request just as the transport took it, and code and message are those of
the first line with a space after its code among the bytes that were read.

A request that has a frame was taken whole before
(`Connection.send_frameless_or_decodes`), and the lines of a frame in front of
that line carry a hyphen (`Reply.closingLine?_of_parse`).

Key definitions: `Frame.closingLine?`, `Transport.Answered`,
`Connection.Truthful`.
Key theorems: `Reply.closingLine?_of_parse`, `Request.verdict_cases`,
`Connection.send_truthful`.
-/
import SpeechWire.Proofs.Aftermath
import SpeechWire.Proofs.Agreement

namespace SpeechWire

open Lines

/-! ### The line that closes a reply -/

/-- The first line that closes a reply: a space is its fourth byte. -/
def Frame.closingLine? (bytes : List UInt8) : Option (List UInt8) :=
  (split bytes).find? fun piece => piece[codeWidth]? == some space

/-- Whether the bytes read from `t` to `t'` answer with the code and the
message: these make the first line that closes a reply. -/
def Transport.Answered (t t' : Transport) (code : Nat) (message : String) : Prop :=
  ∃ read, t.incoming = read ++ t'.incoming ∧ Frame.closingLine? read =
    some (Utf8.encode (String.ofList (Reply.threeDigits code ++ ' ' :: message.toList)))

namespace Reply

open Utf8 SpeechWire.Frame

/-- **A frame is read up to the first line that closes a reply.** -/
theorem closingLine?_of_parse {frame : List UInt8} {reply : Reply}
    (h : parse frame = .ok reply) : closingLine? frame =
      some (Utf8.encode (String.ofList (threeDigits reply.code ++ ' ' :: reply.message.toList))) := by
  have hcode := (exists_tail_of_parse h).1.code_le
  obtain ⟨rest, hsplit⟩ := split_of_parse h
  rw [lines, List.map_append, List.map_map, List.map_singleton, List.append_assoc] at hsplit
  have hdata : (reply.data.map ((fun line => bytes line.render) ∘
      fun text => (⟨reply.code, .continuation, text⟩ : Line))).find?
        (fun piece => piece[codeWidth]? == some space) = none := by
    rw [List.find?_eq_none]
    intro line hl
    obtain ⟨text, -, rfl⟩ := List.mem_map.1 hl
    show ¬ ((bytes (Line.render ⟨reply.code, .continuation, text⟩))[codeWidth]? == some space) = true
    rw [Line.getElem?_bytes_render hcode]
    show ¬ (some (Separator.toByte .continuation) == some space) = true
    decide
  have hfinal : ((bytes (Line.render ⟨reply.code, .final, reply.message⟩))[codeWidth]? ==
      some space) = true := by
    rw [Line.getElem?_bytes_render hcode]
    rfl
  rw [closingLine?, hsplit, List.find?_append, hdata, Option.none_or, List.singleton_append,
    List.find?_cons_of_pos (p := fun piece => piece[codeWidth]? == some space) hfinal, encode_ofList]
  rfl

end Reply

/-! ### The verdict on a frame -/

/-- A frame that is no reply is complained of; a reply is passed on, or is a
refusal of what was sent. -/
theorem Request.verdict_cases (request : Request) (frame : List UInt8) :
    (∃ why, request.verdict frame = .error (.malformed why)) ∨
      ∃ reply, Reply.parse frame = .ok reply ∧
        (reply.isSuccess = true ∧ request.verdict frame = .ok reply ∨
          ¬ reply.isSuccess = true ∧
            request.verdict frame = .error (request.origin.rejection reply.code reply.message)) := by
  unfold verdict
  cases hp : Reply.parse frame with
  | error why => exact .inl ⟨why, rfl⟩
  | ok reply =>
    refine .inr ⟨reply, rfl, ?_⟩
    by_cases hs : reply.isSuccess = true
    · exact .inl ⟨hs, if_pos hs⟩
    · exact .inr ⟨hs, if_neg hs⟩

theorem Reply.isSuccess_iff (reply : Reply) :
    reply.isSuccess = true ↔ 200 ≤ reply.code ∧ reply.code ≤ 299 :=
  StatusClass.isSuccess_ofCode_iff

namespace Connection

/-- Whether what the sender of a request is told agrees with what the transport
`t` has taken and brought meanwhile. -/
def Truthful (request : Request) (t : Transport) (sent : Outcome Connection (Except Fault Reply)) :
    Prop :=
  match sent.result with
  | .ok reply =>
    200 ≤ reply.code ∧ reply.code ≤ 299 ∧ t.Answered sent.transport reply.code reply.message
  | .error (.commandRejected code message line) =>
    (∃ command, request = .command command) ∧ ¬ (200 ≤ code ∧ code ≤ 299) ∧
      sent.transport.written = t.written ++ Utf8.encode line ∧
      t.Answered sent.transport code message
  | .error (.dataRejected code message escaped) =>
    (∃ payload, request = .data payload) ∧ ¬ (200 ≤ code ∧ code ≤ 299) ∧
      sent.transport.written = t.written ++ (Utf8.encode escaped ++ Utf8.encode Block.endOfData) ∧
      t.Answered sent.transport code message
  | .error (.settings _) => False
  | .error (.io _) | .error .closed | .error (.malformed _) => True

/-- **What a sender is told is true**, whatever the connection and the transport
have been through before. -/
theorem send_truthful (connection : Connection) (request : Request) (t : Transport) :
    Truthful request t (connection.send request t) := by
  obtain ⟨fault, hresult, hfault⟩ | ⟨frame, -, hincoming, hwritten, hresult⟩ :=
    connection.send_frameless_or_decodes request t
  · rw [Truthful, hresult]
    cases fault with
    | io | closed | malformed => trivial
    | commandRejected | dataRejected | settings => exact hfault.elim
  · obtain ⟨why, hverdict⟩ | ⟨reply, hp, ⟨hs, hverdict⟩ | ⟨hs, hverdict⟩⟩ :=
      request.verdict_cases frame
    · rw [Truthful, hresult, hverdict]
      trivial
    · rw [reply.isSuccess_iff] at hs
      rw [Truthful, hresult, hverdict]
      exact ⟨hs.1, hs.2, frame, hincoming, Reply.closingLine?_of_parse hp⟩
    · rw [reply.isSuccess_iff] at hs
      rw [Truthful, hresult, hverdict]
      cases request with
      | command command =>
        exact ⟨⟨command, rfl⟩, hs, hwritten, frame, hincoming, Reply.closingLine?_of_parse hp⟩
      | data payload =>
        exact ⟨⟨payload, rfl⟩, hs, hwritten, frame, hincoming, Reply.closingLine?_of_parse hp⟩

/-- A refused payload is shown with its dots doubled, as it was taken. -/
example : ((Connection.new {}).send (.data "a\r\n.") (.ofScript
    { reads := [.bytes (Utf8.encode "401 no\r\n")] })).result =
    .error (.dataRejected 401 "no" "a\r\n..") := by
  decide +kernel

end Connection
end SpeechWire
