/-
# Requests and their replies in step

A transport is willing if every write takes something or is interrupted and
every flush succeeds. Over a willing transport whatever is sent arrives whole
(`transmit_willing`), and a reply is read to its last byte and no further. So
after each call the transport stands where the next reply begins, whatever
came of the call, and a run of calls gives each call the verdict on its own
reply.

What one call leaves behind is `Turn.run_willing`; a run is an induction on
the turns that are done.

Key definitions: `Transport.Willing`, `Request.bytes`, `Request.verdict`, `Turn`.
Key theorems: `Transport.writeAll_willing`, `Connection.send_willing`,
`Turn.run_willing`, `Action.runAll_turns`.
-/
import Mathlib.Data.List.Basic
import SpeechWire.Proofs.Reading
import SpeechWire.Proofs.Writing
import SpeechWire.Session

namespace SpeechWire

/-! ### Willing transports -/

namespace Transport

/-- Whether all that is planned lets bytes through in the end. -/
structure Willing (t : Transport) : Prop where
  writes : ∀ acceptance ∈ t.writes, acceptance.Willing
  flushes : ∀ flush ∈ t.flushes, flush = none

theorem SameWrites.willing {t t' : Transport} (h : SameWrites t t') (ht : t.Willing) :
    t'.Willing := by
  constructor
  · rw [h.writes]
    exact ht.writes
  · rw [h.flushes]
    exact ht.flushes

/-- From `t` to `t'` the bytes were taken and nothing was read, and `t'` is
willing to go on. -/
structure Took (t : Transport) (bytes : List UInt8) (t' : Transport) : Prop where
  willing : t'.Willing
  reads : t'.reads = t.reads
  written : t'.written = t.written ++ bytes

theorem Took.append {t t' t'' : Transport} {a b : List UInt8} (h : Took t a t')
    (h' : Took t' b t'') : Took t (a ++ b) t'' := by
  refine ⟨h'.willing, h'.reads.trans h.reads, ?_⟩
  rw [h'.written, h.written, List.append_assoc]

theorem Wrote.took {t t' : Transport} {bytes : List UInt8} (h : Wrote t bytes t')
    (ht : t.Willing) : Took t bytes t' := by
  obtain ⟨used, -, hw⟩ := h.used
  refine ⟨⟨fun acceptance ha => ht.writes acceptance ?_, ?_⟩, h.reads, h.written⟩
  · rw [hw]
    exact List.mem_append_right _ ha
  · rw [h.flushes]
    exact ht.flushes

theorem not_refuses_of_writes {t t' : Transport} {cause : IoFailure}
    (hwrites : ∀ acceptance ∈ t.writes, acceptance.Willing) : ¬ Refuses t cause t' := by
  have hfirst : ∀ {first rest}, t.writes = first :: rest → first.Willing :=
    fun hw => hwrites _ (hw ▸ List.mem_cons_self)
  rintro (⟨hw, hcause⟩ | hw)
  · have hi : cause.isInterrupted = true := hfirst hw
    rw [hcause] at hi
    cases hi
  · exact Nat.lt_irrefl 0 (hfirst hw)

/-- **A willing transport takes everything.** -/
theorem writeAll_willing (bytes : List UInt8) {t : Transport} (ht : t.Willing) :
    (t.writeAll bytes).1 = .ok () ∧ Took t bytes (t.writeAll bytes).2 := by
  have hwrites := writes_writeAll bytes t
  generalize (t.writeAll bytes).1 = answer, (t.writeAll bytes).2 = after at hwrites ⊢
  cases hwrites with
  | all hwrote => exact ⟨rfl, hwrote.took ht⟩
  | part _ _ hwrote hrefuses => exact absurd hrefuses (not_refuses_of_writes (hwrote.took ht).willing.writes)

theorem flush_willing {t : Transport} (ht : t.Willing) :
    t.flush.1 = .ok () ∧ Took t [] t.flush.2 := by
  unfold flush
  split
  · exact ⟨rfl, ⟨ht.writes, ht.flushes⟩, rfl, (List.append_nil _).symm⟩
  · next failure rest hf =>
    have h := ht.flushes (some failure) (hf ▸ List.mem_cons_self)
    cases h
  · next rest hf =>
    refine ⟨rfl, ⟨ht.writes, fun flush hm => ht.flushes flush ?_⟩, rfl, (List.append_nil _).symm⟩
    rw [hf]
    exact List.mem_cons_of_mem _ hm

end Transport

/-! ### One request and its reply -/

theorem Command.encode_eq_line (c : Command) :
    c.encode = " ".intercalate (c.verb :: c.arguments) ++ "\r\n" := by
  rw [encode_eq, newline_eq, text]

namespace Request

/-- The bytes of the request spelled out: the words of a command with a space
between neighbours and a line end, an escaped payload and the end of data. -/
def bytes : Request → List UInt8
  | .command c => Utf8.encode (" ".intercalate (c.verb :: c.arguments) ++ "\r\n")
  | .data payload => Utf8.encode (Block.escape payload) ++ Utf8.encode "\r\n.\r\n"

/-- The request as a refusal should report it, spelled out: its line with the
line end, or the escaped payload. -/
def reported : Request → Origin
  | .command c => .command (" ".intercalate (c.verb :: c.arguments) ++ "\r\n")
  | .data payload => .data (Block.escape payload)

/-- What is sent for a request is its bytes. -/
theorem wire_eq_bytes (request : Request) : request.wire = request.bytes := by
  cases request with
  | command c => rw [wire, c.encode_eq_line, bytes]
  | data payload => rfl

theorem origin_eq_reported (request : Request) : request.origin = request.reported := by
  cases request with
  | command c => rw [origin, c.encode_eq_line, reported]
  | data payload => rfl

end Request

/-- What a request comes to if `frame` is what the server sends for it. -/
def Request.verdict (request : Request) (frame : List UInt8) : Except Fault Reply :=
  match Reply.parse frame with
  | .error why => .error (.malformed why)
  | .ok reply => reply.classify request.origin

namespace Connection

open Transport Piece SpeechWire.Frame

theorem transport_interpret (frame : Outcome Connection (Except Fault (List UInt8))) :
    (interpret frame).transport = frame.transport := by
  unfold interpret
  split
  · rfl
  · split <;> rfl

theorem transport_judge (request : Request) (received : Outcome Connection (Except Fault Reply)) :
    (judge request received).transport = received.transport := by
  unfold judge
  split
  · rfl
  · split <;> rfl

theorem result_interpret (frame : Outcome Connection (Except Fault (List UInt8))) :
    (interpret frame).result =
      frame.result.bind fun bytes => (Reply.parse bytes).mapError Fault.malformed := by
  unfold interpret
  split
  · next he => rw [he]; rfl
  · next bytes he =>
    rw [he]
    show _ = (Reply.parse bytes).mapError Fault.malformed
    split <;> next hp => rw [hp]; rfl

theorem result_judge (request : Request) (received : Outcome Connection (Except Fault Reply)) :
    (judge request received).result =
      received.result.bind fun reply => reply.classify request.origin := by
  unfold judge
  split
  · next he => rw [he]; rfl
  · next reply he =>
    rw [he]
    show _ = reply.classify request.origin
    split <;> next hc => rw [hc]; rfl

theorem transmit_of_writeAll_error {bytes : List UInt8} {t : Transport} {failure : IoFailure}
    (h : (t.writeAll bytes).1 = .error failure) :
    transmit bytes t = (.error failure, (t.writeAll bytes).2) := by
  unfold transmit
  split
  · next he =>
    rw [he] at h ⊢
    rw [Except.error.inj h]
  · next he => rw [he] at h; cases h

theorem transmit_of_writeAll_ok {bytes : List UInt8} {t : Transport}
    (h : (t.writeAll bytes).1 = .ok ()) : transmit bytes t = (t.writeAll bytes).2.flush := by
  unfold transmit
  split
  · next he => rw [he] at h; cases h
  · next he => rw [he]

theorem wrote_of_transmit_ok {bytes : List UInt8} {t : Transport}
    (h : (transmit bytes t).1 = .ok ()) :
    ∃ mid, Wrote t bytes mid ∧ mid.flush = (.ok (), (transmit bytes t).2) := by
  have hwrites := writes_writeAll bytes t
  cases hwrite : (t.writeAll bytes).1 with
  | error cause =>
    rw [transmit_of_writeAll_error hwrite] at h
    cases h
  | ok =>
    rw [hwrite] at hwrites
    cases hwrites with
    | all hwrote =>
      refine ⟨_, hwrote, ?_⟩
      rw [← transmit_of_writeAll_ok hwrite, ← h]

theorem send_eq_of_transmit_error (connection : Connection) (request : Request) {t : Transport}
    {failure : IoFailure} (h : (transmit request.wire t).1 = .error failure) :
    connection.send request t =
      ⟨.error (.io failure), connection, (transmit request.wire t).2, [request.announcement]⟩ := by
  unfold send
  split
  · next he =>
    rw [he] at h ⊢
    rw [Except.error.inj h]
  · next he => rw [he] at h; cases h

theorem send_of_transmit_error (connection : Connection) (request : Request) {t : Transport}
    {failure : IoFailure} (h : (transmit request.wire t).1 = .error failure) :
    (connection.send request t).result = .error (.io failure) ∧
      (connection.send request t).transport = (transmit request.wire t).2 := by
  rw [send_eq_of_transmit_error connection request h]
  exact ⟨rfl, rfl⟩

theorem send_eq_of_transmit_ok (connection : Connection) (request : Request) {t : Transport}
    (h : (transmit request.wire t).1 = .ok ()) : connection.send request t =
      (judge request (interpret (connection.readFrame (transmit request.wire t).2))).after
        [request.announcement] := by
  unfold send
  split
  · next he => rw [he] at h; cases h
  · next he => rw [he, receive]

/-- A request that is taken and passed on comes to the verdict on the frame
that is read next, or to the fault for which there is none. -/
theorem send_of_transmit_ok (connection : Connection) (request : Request) {t : Transport}
    (h : (transmit request.wire t).1 = .ok ()) :
    (connection.send request t).result =
        (connection.assembler.readFrame (transmit request.wire t).2).result.bind request.verdict ∧
      (connection.send request t).transport =
        (connection.assembler.readFrame (transmit request.wire t).2).transport := by
  rw [send_eq_of_transmit_ok connection request h]
  refine ⟨?_, (transport_judge _ _).trans (transport_interpret _)⟩
  show (judge request (interpret (connection.readFrame _))).result = _
  rw [result_judge, result_interpret]
  show Except.bind (Except.bind (connection.assembler.readFrame _).result _) _ = _
  cases (connection.assembler.readFrame (transmit request.wire t).2).result with
  | error fault => rfl
  | ok frame =>
    show ((Reply.parse frame).mapError Fault.malformed).bind _ = request.verdict frame
    rw [Request.verdict]
    cases Reply.parse frame <;> rfl

theorem transmit_willing (bytes : List UInt8) {t : Transport} (ht : t.Willing) :
    (transmit bytes t).1 = .ok () ∧ Took t bytes (transmit bytes t).2 := by
  obtain ⟨hok, htook⟩ := writeAll_willing bytes ht
  obtain ⟨hflush, hpassed⟩ := flush_willing htook.willing
  have hall := htook.append hpassed
  rw [List.append_nil] at hall
  rw [transmit_of_writeAll_ok hok]
  exact ⟨hflush, hall⟩

/-- **A request over a willing transport.** It is written whole, the reply to it
is read to its end, and the result is the verdict on that reply. -/
theorem send_willing (settings : Settings) (request : Request) {pieces : List Piece}
    (hfirst : IsFirst (contents pieces)) (hlimit : (contents pieces).length ≤ settings.replyLimit)
    {later : List Arrival} {t : Transport} (ht : t.Willing)
    (hreads : t.reads = arrivals pieces ++ later) :
    ((new settings).send request t).result = request.verdict (contents pieces) ∧
      ((new settings).send request t).transport.Willing ∧
      ((new settings).send request t).transport.reads = later ∧
      ((new settings).send request t).transport.written = t.written ++ request.bytes := by
  obtain ⟨hok, htook⟩ := transmit_willing request.wire ht
  obtain ⟨hresult, htransport⟩ := send_of_transmit_ok (new settings) request hok
  obtain ⟨hread, hrest⟩ := (Assembler.readFrame_pieces (new settings).assembler
    (htook.reads.trans hreads) hfirst).1 hlimit
  have hsame := Assembler.sameWrites_readFrame (new settings).assembler (transmit request.wire t).2
  rw [htransport, hresult, hread, ← request.wire_eq_bytes]
  exact ⟨rfl, hsame.willing htook.willing, hrest, hsame.written.trans htook.written⟩

end Connection

/-! ### Runs of calls -/

/-- The ways to have a request sent. -/
inductive Call where
  | identify
  | send (request : Request)

/-- The call as an action. -/
def Call.action : Call → Action
  | .identify => .identify
  | .send request => .send request

/-- The request that the call has sent. -/
def Call.request (settings : Settings) : Call → Request
  | .identify =>
    .command ⟨"SET", ["CLIENT_NAME", settings.clientName ++ ":" ++ settings.connectionName]⟩
  | .send request => request

theorem Call.run_eq (call : Call) (settings : Settings) (t : Transport) :
    call.action.run (.new settings) t =
      ((Connection.new settings).send (call.request settings) t).mapResult .ofReply := by
  cases call <;> rfl

/-- A call and the reply the server has for it, in the pieces in which it comes.
The reply is complete at its end and nowhere before; it need not be one that
can be read. -/
structure Turn where
  call : Call
  reply : List Piece
  isFirst : Frame.IsFirst (Piece.contents reply)

namespace Turn

open Piece

/-- What the call should answer: why its own reply is none, or the reply as it is
judged for the call's own request. -/
def answer (settings : Settings) (turn : Turn) : Answer :=
  match Reply.parse (contents turn.reply) with
  | .error why => .fault (.malformed why)
  | .ok reply => .ofReply (reply.classify (turn.call.request settings).reported)

theorem answer_eq (settings : Settings) (turn : Turn) : turn.answer settings =
    .ofReply ((turn.call.request settings).verdict (contents turn.reply)) := by
  rw [answer, Request.verdict, Request.origin_eq_reported]
  split <;> rfl

/-- What reads find of the replies of turns in a row. -/
def arrivals (turns : List Turn) : List Arrival := turns.flatMap fun turn => Piece.arrivals turn.reply

/-- What should be written in turns in a row. -/
def bytes (settings : Settings) (turns : List Turn) : List UInt8 :=
  turns.flatMap fun turn => (turn.call.request settings).bytes

/-- One turn takes its own reply and nothing of the next. -/
theorem run_willing (settings : Settings) (turn : Turn)
    (hlimit : (contents turn.reply).length ≤ settings.replyLimit) {later : List Arrival}
    {t : Transport} (ht : t.Willing) (hreads : t.reads = Piece.arrivals turn.reply ++ later) :
    (turn.call.action.run (.new settings) t).result = turn.answer settings ∧
      (turn.call.action.run (.new settings) t).transport.Willing ∧
      (turn.call.action.run (.new settings) t).transport.reads = later ∧
      (turn.call.action.run (.new settings) t).transport.written =
        t.written ++ (turn.call.request settings).bytes := by
  obtain ⟨hresult, hrest⟩ :=
    Connection.send_willing settings (turn.call.request settings) turn.isFirst hlimit ht hreads
  rw [turn.call.run_eq, answer_eq]
  exact ⟨congrArg Answer.ofReply hresult, hrest⟩

end Turn

namespace Action

open Transport

theorem transport_runAll_cons (action : Action) (rest : List Action) (settings : Settings)
    (t : Transport) : (runAll (action :: rest) (.new settings) t).transport =
      (runAll rest (.new settings) (action.run (.new settings) t).transport).transport := by
  show (runAll rest (action.run (.new settings) t).state _).transport = _
  rw [state_run_new]

theorem result_runAll_cons (action : Action) (rest : List Action) (settings : Settings)
    (t : Transport) : (runAll (action :: rest) (.new settings) t).result =
      (action.run (.new settings) t).result ::
        (runAll rest (.new settings) (action.run (.new settings) t).transport).result := by
  show _ :: (runAll rest (action.run (.new settings) t).state _).result = _
  rw [state_run_new]

/-- **Requests and replies stay in step.** After the turns that are done, every
call has answered with the verdict on its own reply, the transport holds just
what the server sends for the later ones, and what was written is the requests
in their order. It does not matter which of the replies are refusals or no
replies at all, nor how replies and requests are cut up on their way. -/
theorem runAll_turns (settings : Settings) (done later : List Turn) (further : List Arrival)
    {t : Transport} (hreads : t.reads = Turn.arrivals (done ++ later) ++ further)
    (hlimit : ∀ turn ∈ done, (Piece.contents turn.reply).length ≤ settings.replyLimit)
    (ht : t.Willing) :
    (runAll (done.map (·.call.action)) (.new settings) t).result = done.map (·.answer settings) ∧
      (runAll (done.map (·.call.action)) (.new settings) t).transport.reads =
        Turn.arrivals later ++ further ∧
      (runAll (done.map (·.call.action)) (.new settings) t).transport.written =
        t.written ++ Turn.bytes settings done := by
  induction done generalizing t with
  | nil => exact ⟨rfl, hreads, (List.append_nil _).symm⟩
  | cons turn done ih =>
    have hfront : t.reads =
        Piece.arrivals turn.reply ++ (Turn.arrivals (done ++ later) ++ further) := by
      rw [hreads, ← List.append_assoc]
      rfl
    obtain ⟨hresult, hwilling, hrest, hwritten⟩ :=
      turn.run_willing settings (hlimit turn List.mem_cons_self) ht hfront
    -- the transport is willing still and stands where the next reply begins
    obtain ⟨hresults, hlast, hall⟩ :=
      ih hrest (fun other ho => hlimit other (List.mem_cons_of_mem _ ho)) hwilling
    rw [List.map_cons, result_runAll_cons, transport_runAll_cons]
    refine ⟨?_, hlast, ?_⟩
    · rw [hresult, hresults, List.map_cons]
    · rw [hall, hwritten, List.append_assoc]
      rfl

/-- Three turns: a reply that is none, in two pieces and with an interruption, a
refusal, and a success for a block whose last line is a dot alone. -/
def threeTurns : List Turn :=
  [⟨.identify, [⟨["again"], [50, 120, 48], by decide⟩, ⟨[], [32, 13, 10], by decide⟩],
      by decide +kernel⟩,
    ⟨.send (.command ⟨"STOP", []⟩), [⟨[], [51, 48, 48, 32, 78, 79, 13, 10], by decide⟩],
      by decide +kernel⟩,
    ⟨.send (.data "a\r\n."), [⟨[], [50, 50, 53, 32, 13, 10], by decide⟩], by decide +kernel⟩]

/-- A turn that is to come after them. -/
def fourthTurn : Turn :=
  ⟨.send (.command ⟨"LIST", []⟩), [⟨[], [50, 53, 48, 32, 13, 10], by decide⟩], by decide +kernel⟩

/-- A transport on which a write is cut short and the next one interrupted. -/
def haltingTransport : Transport :=
  .ofScript
    { reads := Turn.arrivals (threeTurns ++ [fourthTurn])
      writes := [.upTo 3, .failure (Piece.interruption "again")]
      flushes := [none] }

/-- After three of them the fourth reply waits untouched, though the first reply
was none and the second a refusal; what was written is `SET CLIENT_NAME
rust:001`, `STOP`, and the block of the lines `a`, `..` and `.`. -/
theorem runAll_turns_threeTurns :
    (∀ turn ∈ threeTurns, (Piece.contents turn.reply).length ≤ ({} : Settings).replyLimit) ∧
    haltingTransport.Willing ∧
    (runAll [.identify, .send (.command ⟨"STOP", []⟩), .send (.data "a\r\n.")] (.new {})
        haltingTransport).result =
      [.fault (.malformed (.wordCode "2x0")), .fault (.commandRejected 300 "NO" "STOP\r\n"),
        .reply ⟨225, "", []⟩] ∧
    (runAll [.identify, .send (.command ⟨"STOP", []⟩), .send (.data "a\r\n.")] (.new {})
        haltingTransport).transport.reads = [.bytes [50, 53, 48, 32, 13, 10]] ∧
    (runAll [.identify, .send (.command ⟨"STOP", []⟩), .send (.data "a\r\n.")] (.new {})
        haltingTransport).transport.written =
      [83, 69, 84, 32, 67, 76, 73, 69, 78, 84, 95, 78, 65, 77, 69, 32,
        114, 117, 115, 116, 58, 48, 48, 49, 13, 10,
        83, 84, 79, 80, 13, 10,
        97, 13, 10, 46, 46, 13, 10, 46, 13, 10] := by
  have hlimit : ∀ turn ∈ threeTurns,
      (Piece.contents turn.reply).length ≤ ({} : Settings).replyLimit := by decide
  have hwilling : haltingTransport.Willing := ⟨by decide, by decide⟩
  obtain ⟨hresult, hreads, hwritten⟩ :=
    runAll_turns {} threeTurns [fourthTurn] [] (t := haltingTransport) rfl hlimit hwilling
  have hanswers : threeTurns.map (·.answer {}) =
      [.fault (.malformed (.wordCode "2x0")), .fault (.commandRejected 300 "NO" "STOP\r\n"),
        .reply ⟨225, "", []⟩] := by decide +kernel
  have hbytes : Turn.bytes {} threeTurns =
      [83, 69, 84, 32, 67, 76, 73, 69, 78, 84, 95, 78, 65, 77, 69, 32,
        114, 117, 115, 116, 58, 48, 48, 49, 13, 10,
        83, 84, 79, 80, 13, 10,
        97, 13, 10, 46, 46, 13, 10, 46, 13, 10] := by decide +kernel
  exact ⟨hlimit, hwilling, hresult.trans hanswers, hreads, hwritten.trans hbytes⟩

end Action
end SpeechWire
