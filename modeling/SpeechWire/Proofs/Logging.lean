/-
# The log agrees with what happened

Each stage of an exchange records its own events, and each can end the
exchange. What is shown here is that they add up: from the frame that was read
for a request, if there was one, from what the sender is told and from how
many bytes were read, the log of the exchange follows to the letter
(`Connection.send_logged`). Its first entry tells of just the bytes that are
sent (`Connection.send_announced`). Over a session as many warnings are recorded as
calls failed because a frame was no reply (`Session.warnings_each`).

What gathering a frame records is shown round by round
(`Assembler.gathered_gather`); the stages after it only add to that.

Key definitions: `Entry`, `Entry.Announces`, `Assembler.Gathered`,
`Connection.frame?`, `Answer.isUnparsed`.
Key theorems: `Assembler.gathered_gather`, `Connection.send_logged`,
`Session.warnings_each`, `Session.log_agrees`.
-/
import SpeechWire.Proofs.Aftermath
import SpeechWire.Proofs.Receiving
import SpeechWire.Proofs.Renewal
import SpeechWire.Proofs.Transmission

namespace SpeechWire

/-! ### What gathering records -/

namespace Assembler

open SpeechWire.Frame

/-- How the gathering of the bytes `taken` can end, and what is recorded of it. -/
inductive Gathered (taken : List UInt8) : Except Fault (List UInt8) → List Event → Prop
  | whole : Gathered taken (.ok taken) [.frameReceived taken.length]
  | ended : Gathered taken (.error .closed) [.endedInFrame taken.length]
  | failed {fault : Fault} (hfault : fault ≠ .closed) : Gathered taken (.error fault) []

/-- **What gathering records is what it did.** -/
theorem gathered_gather (assembler : Assembler) (t : Transport) : ∃ read,
    t.incoming = read ++ (assembler.gather t).transport.incoming ∧
      Gathered (assembler.held ++ read) (assembler.gather t).result
        (assembler.gather t).events := by
  have h := gathers assembler t
  generalize assembler.gather t = outcome at h ⊢
  induction h with
  | last hread habsorb =>
    cases absorbs habsorb with
    | failed => exact ⟨[], Transport.incoming_of_read_error hread, .failed (by rintro ⟨⟩)⟩
    | ended =>
      refine ⟨[], Transport.incoming_of_read_ok hread, ?_⟩
      rw [List.append_nil]
      exact .ended
    | tooLong => exact ⟨_, Transport.incoming_of_read_ok hread, .failed (by rintro ⟨⟩)⟩
    | whole => exact ⟨_, Transport.incoming_of_read_ok hread, .whole⟩
  | next hread habsorb _ ih =>
    cases absorbs habsorb with
    | interrupted =>
      rw [Transport.incoming_of_read_error hread]
      exact ih
    | @more bytes =>
      obtain ⟨read, hincoming, hgathered⟩ := ih
      refine ⟨bytes ++ read, ?_, ?_⟩
      · rw [Transport.incoming_of_read_ok hread, hincoming, List.append_assoc]
      · rwa [← List.append_assoc, ← held_hold]

theorem gathered_readFrame (assembler : Assembler) (t : Transport) : ∃ read,
    t.incoming = read ++ (assembler.readFrame t).transport.incoming ∧
      Gathered read (assembler.readFrame t).result (assembler.readFrame t).events :=
  gathered_gather assembler.clear t

end Assembler

/-! ### Frames that are no reply -/

namespace Reply

theorem Line.afterCode_ne_tooLong (line : String) (code : Nat) (limit : Nat) (chars : List Char) :
    Line.afterCode line code chars ≠ .error (.tooLong limit) := by
  cases chars with
  | nil => nofun
  | cons c text =>
    rw [Line.afterCode]
    split <;> nofun

theorem Line.parse_ne_tooLong (line : String) (limit : Nat) :
    Line.parse line ≠ .error (.tooLong limit) := by
  unfold Line.parse
  split
  · nofun
  · split
    · nofun
    · split
      · nofun
      · split
        · nofun
        · exact Line.afterCode_ne_tooLong _ _ _ _

theorem ofLines_ne_tooLong (limit : Nat) (lines : List (List Char)) (expected : Option Nat)
    (data : List String) : ofLines expected data lines ≠ .error (.tooLong limit) := by
  fun_induction ofLines expected data lines with
  | case1 => nofun
  | case2 expected data raw rest why hline =>
    rintro ⟨rfl⟩
    exact Line.parse_ne_tooLong _ _ hline
  | case3 => nofun
  | case4 _ _ _ _ _ _ _ _ ih => exact ih
  | case5 => nofun

theorem parse_ne_tooLong (frame : List UInt8) (limit : Nat) :
    parse frame ≠ .error (.tooLong limit) := by
  unfold parse
  split
  · nofun
  · split
    · nofun
    · exact ofLines_ne_tooLong _ _ _ _

end Reply

/-- Whether a frame was received that is no reply. -/
def Fault.isUnparsed : Fault → Bool
  | .malformed (.tooLong _) => false
  | .malformed _ => true
  | _ => false

/-- Whether a call failed for such a frame. -/
def Answer.isUnparsed : Answer → Bool
  | .fault why => why.isUnparsed
  | _ => false

theorem Fault.Frameless.isUnparsed {fault : Fault} (h : fault.Frameless) :
    fault.isUnparsed = false := by
  cases fault with
  | malformed why =>
    cases why with
    | tooLong limit => rfl
    | _ => exact h.elim
  | _ => rfl

theorem Fault.Frameless.not_isRejection {fault : Fault} (h : fault.Frameless) :
    fault.isRejection = false := by
  cases fault with
  | commandRejected | dataRejected => exact h.elim
  | _ => rfl

theorem Fault.isUnparsed_of_parse {frame : List UInt8} {why : Malformation}
    (h : Reply.parse frame = .error why) : (Fault.malformed why).isUnparsed = true := by
  cases why with
  | tooLong limit => exact absurd h (Reply.parse_ne_tooLong frame limit)
  | _ => rfl

theorem Request.verdict_ne_closed (request : Request) (frame : List UInt8) :
    request.verdict frame ≠ .error .closed := by
  unfold verdict
  split
  · nofun
  · unfold Reply.classify
    split
    · nofun
    · cases request <;> nofun

/-! ### The log of an exchange -/

/-- An entry of a log: how much it matters, and its words. -/
abbrev Entry := Event.Level × String

/-- The event as an entry. -/
def Event.entry (event : Event) : Entry := (event.level, event.text)

/-- The line of a command as it is sent, without its line end. -/
def Command.line (c : Command) : String := String.ofList ((Lines.body? c.encode.toList).getD [])

theorem Command.line_eq (c : Command) : c.line = c.text := by
  have hline : c.encode.toList = c.text.toList ++ Lines.crlf := by
    rw [c.encode_eq, String.toList_append, newline, String.toList_ofList]
  rw [line, hline, Lines.body?_append_crlf, Option.getD_some, String.ofList_toList]

namespace Entry

/-- What is sent. -/
def sending : Request → Entry
  | .command c => (.trace, "Sending command: " ++ c.line)
  | .data payload => (.trace, s!"Sending data block of {(Block.encode payload).length} bytes")

/-- That a frame was received, if one was, and how long it is. -/
def received (size : Nat) : Option (List UInt8) → List Entry
  | some _ => [(.trace, s!"Received frame of {size} bytes")]
  | none => []

/-- That the transport ended, if that is why the call failed, and after how many
bytes. -/
def ended (size : Nat) : Except Fault Reply → List Entry
  | .error .closed => [(.debug, s!"Transport closed with {size} bytes of partial frame")]
  | _ => []

/-- The reply in a frame, or why it is none. -/
def parsed (frame : List UInt8) : Entry :=
  match Reply.parse frame with
  | .ok reply => (.trace, s!"Received response: {reply.code} {reply.message}")
  | .error why => (.warn, "Malformed response from server: " ++ why.reason)

/-- That the request was refused, if that is why the call failed. -/
def refused (request : Request) : Except Fault Reply → List Entry
  | .ok _ => []
  | .error fault =>
    if fault.isRejection then
      match request with
      | .command c => [(.debug, "Command " ++ c.line ++ " rejected: " ++ fault.message)]
      | .data _ => [(.debug, "Data block rejected: " ++ fault.message)]
    else []

/-- Whether the entry tells of these bytes as a request of this kind: the line
that they are before the line end, or how many they are. -/
def Announces (bytes : List UInt8) (entry : Entry) : Request → Prop
  | .command _ => ∃ line : String,
    bytes = Utf8.encode (line ++ "\r\n") ∧ entry = (.trace, "Sending command: " ++ line)
  | .data _ => entry = (.trace, s!"Sending data block of {bytes.length} bytes")

theorem announces_sending (request : Request) :
    (sending request).Announces request.bytes request := by
  cases request with
  | command c => exact ⟨c.text, rfl, by rw [sending, c.line_eq]⟩
  | data payload => rfl

theorem entry_announcement (request : Request) : request.announcement.entry = sending request := by
  cases request with
  | command c => rw [sending, c.line_eq]; rfl
  | data payload => rfl

theorem ended_of_ne (size : Nat) {result : Except Fault Reply} (h : result ≠ .error .closed) :
    ended size result = [] := by
  unfold ended
  split
  · exact absurd rfl h
  · rfl

theorem refused_of_not_isRejection (request : Request) {fault : Fault}
    (h : fault.isRejection = false) : refused request (.error fault) = [] := by
  simp [refused, h]

theorem refused_rejection (request : Request) (code : Nat) (message : String) :
    refused request (.error (request.origin.rejection code message)) =
      [(request.refusal (request.origin.rejection code message)).entry] := by
  cases request with
  | command c =>
    show [(_, "Command " ++ c.line ++ " rejected: " ++ _)] = _
    rw [c.line_eq]
    rfl
  | data payload => rfl

end Entry

theorem Assembler.Gathered.entries {taken : List UInt8} {result : Except Fault (List UInt8)}
    {events : List Event} (h : Gathered taken result events) (request : Request) :
    events.map Event.entry = Entry.received taken.length result.toOption ++
      Entry.ended taken.length (result.bind request.verdict) := by
  cases h with
  | whole =>
    show _ = _ ++ Entry.ended _ (request.verdict taken)
    rw [Entry.ended_of_ne _ (request.verdict_ne_closed taken), List.append_nil]
    rfl
  | ended => rfl
  | failed hfault =>
    show _ = _ ++ Entry.ended _ (.error _)
    rw [Entry.ended_of_ne _ fun he => hfault (Except.error.inj he)]
    rfl

namespace Connection

/-- The frame that is read for a request, if one is. -/
def frame? (connection : Connection) (request : Request) (t : Transport) : Option (List UInt8) :=
  match transmit request.wire t with
  | (.error _, _) => none
  | (.ok (), after) => (connection.readFrame after).result.toOption

/-- The log of an exchange that read `size` bytes and came to `result`. -/
def exchangeLog (request : Request) (size : Nat) (frame : Option (List UInt8))
    (result : Except Fault Reply) : List Entry :=
  Entry.sending request :: (Entry.received size frame ++ Entry.ended size result ++
    frame.toList.map Entry.parsed ++ Entry.refused request result)

theorem frame?_of_transmit_error (connection : Connection) {request : Request} {t : Transport}
    {failure : IoFailure} (h : (transmit request.wire t).1 = .error failure) :
    connection.frame? request t = none := by
  unfold frame?
  split
  · rfl
  · next he => rw [he] at h; cases h

theorem frame?_of_transmit_ok (connection : Connection) {request : Request} {t : Transport}
    (h : (transmit request.wire t).1 = .ok ()) : connection.frame? request t =
      (connection.assembler.readFrame (transmit request.wire t).2).result.toOption := by
  unfold frame?
  split
  · next he => rw [he] at h; cases h
  · next he => rw [he]; rfl

/-- Reading a frame as a reply adds the entry that says what came of it. -/
theorem entries_interpret (read : Outcome Connection (Except Fault (List UInt8))) :
    (interpret read).events.map Event.entry =
      read.events.map Event.entry ++ read.result.toOption.toList.map Entry.parsed := by
  unfold interpret
  split
  · next hread =>
    rw [hread]
    exact (List.append_nil _).symm
  · next frame hread =>
    have hone : (Except.toOption (.ok frame : Except Fault (List UInt8))).toList.map Entry.parsed =
        [Entry.parsed frame] := rfl
    rw [hread, hone, Entry.parsed]
    split
    all_goals
      next hparse =>
      rw [hparse]
      exact List.map_append

theorem not_isRejection_interpret {read : Outcome Connection (Except Fault (List UInt8))}
    (hframeless : ∀ fault, read.result = .error fault → fault.Frameless) {fault : Fault}
    (h : (interpret read).result = .error fault) : fault.isRejection = false := by
  rw [result_interpret] at h
  cases hread : read.result with
  | error why =>
    rw [hread] at h
    obtain rfl := Except.error.inj h
    exact (hframeless _ hread).not_isRejection
  | ok frame =>
    rw [hread] at h
    change (Reply.parse frame).mapError Fault.malformed = .error fault at h
    cases hparse : Reply.parse frame with
    | error why =>
      rw [hparse] at h
      obtain rfl := Except.error.inj h
      rfl
    | ok reply =>
      rw [hparse] at h
      cases h

/-- Judging a reply adds an entry if it is a refusal. -/
theorem entries_judge (request : Request) {received : Outcome Connection (Except Fault Reply)}
    (h : ∀ fault, received.result = .error fault → fault.isRejection = false) :
    (judge request received).events.map Event.entry =
      received.events.map Event.entry ++ Entry.refused request (judge request received).result := by
  unfold judge
  split
  · next fault hreceived =>
    rw [hreceived, Entry.refused_of_not_isRejection request (h fault hreceived), List.append_nil]
  · next reply hreceived =>
    unfold Reply.classify
    by_cases hsuccess : reply.isSuccess = true
    · rw [if_pos hsuccess]
      exact (List.append_nil _).symm
    · rw [if_neg hsuccess]
      show (received.events ++ [_]).map Event.entry = _ ++ Entry.refused request (.error _)
      rw [List.map_append, Entry.refused_rejection]
      rfl

/-- **The log of an exchange is what happened.** -/
theorem send_logged (connection : Connection) (request : Request) (t : Transport) : ∃ read,
    t.incoming = read ++ (connection.send request t).transport.incoming ∧
      (connection.send request t).events.map Event.entry =
        exchangeLog request read.length (connection.frame? request t)
          (connection.send request t).result := by
  have hreads : t.incoming = (transmit request.wire t).2.incoming :=
    congrArg Arrival.contents (reads_transmit request.wire t).symm
  cases htransmit : (transmit request.wire t).1 with
  | error failure =>
    rw [send_eq_of_transmit_error connection request htransmit,
      frame?_of_transmit_error connection htransmit]
    refine ⟨[], hreads, ?_⟩
    show [request.announcement.entry] = [Entry.sending request]
    rw [Entry.entry_announcement]
  | ok =>
    obtain ⟨hresult, htransport⟩ := send_of_transmit_ok connection request htransmit
    obtain ⟨read, hincoming, hgathered⟩ :=
      Assembler.gathered_readFrame connection.assembler (transmit request.wire t).2
    refine ⟨read, by rw [hreads, hincoming, htransport], ?_⟩
    have hrejection : ∀ fault, (interpret (connection.readFrame (transmit request.wire t).2)).result =
        .error fault → fault.isRejection = false := fun _ => not_isRejection_interpret fun _ hread =>
      Assembler.frameless_of_readFrame hread
    rw [send_eq_of_transmit_ok connection request htransmit] at hresult ⊢
    rw [frame?_of_transmit_ok connection htransmit, exchangeLog, hresult]
    show request.announcement.entry :: (judge request (interpret _)).events.map Event.entry = _
    rw [Entry.entry_announcement, entries_judge request hrejection, entries_interpret]
    change (judge request (interpret _)).result = _ at hresult
    rw [hresult]
    show _ :: ((connection.assembler.readFrame _).events.map Event.entry ++ _ ++ _) = _
    rw [hgathered.entries request]
    rfl

/-- **The first entry tells of the bytes that are sent.** What the transport took
is the front of them, and all of them unless the sending failed. -/
theorem send_announced (connection : Connection) (request : Request) (t : Transport) :
    ∃ accepted left entry,
      (connection.send request t).transport.written = t.written ++ accepted ∧
      ((connection.send request t).events.map Event.entry).head? = some entry ∧
      entry.Announces (accepted ++ left) request ∧
      (left ≠ [] → ∃ cause, (connection.send request t).result = .error (.io cause)) := by
  obtain ⟨accepted, hcourse⟩ := course_send connection request t
  obtain ⟨left, hbytes⟩ := hcourse.isPrefix
  obtain ⟨read, -, hlog⟩ := connection.send_logged request t
  refine ⟨accepted, left, Entry.sending request, hcourse.written, ?_, ?_, fun hleft => ?_⟩
  · rw [hlog]
    rfl
  · rw [hbytes]
    exact Entry.announces_sending request
  · have hne : accepted ≠ request.bytes := by
      rintro rfl
      exact hleft (List.append_right_eq_self.1 hbytes)
    obtain ⟨cause, -, hresult⟩ := hcourse.result_of_ne hne
    exact ⟨cause, hresult⟩

/-- A frame that is no reply is complained of, and the command not said to be
refused. -/
example : ((Connection.new {}).send (.command ⟨"LIST", []⟩) (.ofScript
    { reads := [.bytes (Utf8.encode "2x0 a\r\n")] })).events.map Event.entry =
    [(.trace, "Sending command: LIST"), (.trace, "Received frame of 7 bytes"),
      (.warn, "Malformed response from server: non-numeric status code: \"2x0\"")] := by
  decide +kernel

theorem send_of_frame? (connection : Connection) (request : Request) (t : Transport) :
    (∀ frame ∈ connection.frame? request t,
        (connection.send request t).result = request.verdict frame) ∧
      (connection.frame? request t = none →
        ∃ fault, (connection.send request t).result = .error fault ∧ fault.Frameless) := by
  cases htransmit : (transmit request.wire t).1 with
  | error failure =>
    rw [send_eq_of_transmit_error connection request htransmit,
      frame?_of_transmit_error connection htransmit]
    exact ⟨nofun, fun _ => ⟨_, rfl, trivial⟩⟩
  | ok =>
    rw [(send_of_transmit_ok connection request htransmit).1,
      frame?_of_transmit_ok connection htransmit]
    cases hread : (connection.assembler.readFrame (transmit request.wire t).2).result with
    | error fault => exact ⟨nofun, fun _ => ⟨fault, rfl, Assembler.frameless_of_readFrame hread⟩⟩
    | ok frame => exact ⟨fun _ hframe => Option.some.inj hframe ▸ rfl, nofun⟩

theorem isUnparsed_send_iff (connection : Connection) (request : Request) (t : Transport) :
    (Answer.ofReply (connection.send request t).result).isUnparsed = true ↔
      ∃ frame ∈ connection.frame? request t, ∃ why, Reply.parse frame = .error why := by
  obtain ⟨hverdict, hnone⟩ := connection.send_of_frame? request t
  cases hframe : connection.frame? request t with
  | none =>
    obtain ⟨fault, hresult, hfault⟩ := hnone hframe
    rw [hresult]
    show fault.isUnparsed = true ↔ _
    simp [hfault.isUnparsed]
  | some frame =>
    rw [hverdict frame hframe, Request.verdict]
    cases hparse : Reply.parse frame with
    | error why =>
      exact iff_of_true (Fault.isUnparsed_of_parse hparse) ⟨frame, rfl, why, hparse⟩
    | ok reply =>
      refine iff_of_false ?_ ?_
      · show ¬ (Answer.ofReply (reply.classify request.origin)).isUnparsed = true
        unfold Reply.classify
        split
        · exact Bool.false_ne_true
        · cases request <;> exact Bool.false_ne_true
      · rintro ⟨other, hother, why, hwhy⟩
        obtain rfl := Option.some.inj hother
        rw [hparse] at hwhy
        cases hwhy

end Connection

/-! ### Warnings -/

/-- Whether the entry is a warning. -/
def Entry.isWarning (entry : Entry) : Bool := entry.1 == .warn

theorem Entry.isWarning_parsed_iff (frame : List UInt8) :
    (Entry.parsed frame).isWarning = true ↔ ∃ why, Reply.parse frame = .error why := by
  unfold Entry.parsed
  cases Reply.parse frame with
  | error why => exact iff_of_true rfl ⟨why, rfl⟩
  | ok reply => exact iff_of_false Bool.false_ne_true nofun

/-- How many of the events are warnings. -/
def warnings (events : List Event) : Nat := (events.map Event.entry).countP Entry.isWarning

theorem warnings_append (a b : List Event) : warnings (a ++ b) = warnings a + warnings b := by
  rw [warnings, List.map_append, List.countP_append, warnings, warnings]

/-- Whether one of the events is a warning if this is the answer of a call that
received a frame that is no reply, and none is if it is not. -/
def Answer.Warned (answer : Answer) (events : List Event) : Prop :=
  warnings events = if answer.isUnparsed then 1 else 0

namespace Connection

/-- Of the entries of an exchange only that for a frame that is no reply is a
warning. -/
theorem countP_exchangeLog (request : Request) (size : Nat) (frame : Option (List UInt8))
    (result : Except Fault Reply) : (exchangeLog request size frame result).countP Entry.isWarning =
      (frame.toList.map Entry.parsed).countP Entry.isWarning := by
  have hsending : (Entry.sending request).isWarning = false := by cases request <;> rfl
  have hreceived : (Entry.received size frame).countP Entry.isWarning = 0 := by
    cases frame <;> rfl
  have hended : (Entry.ended size result).countP Entry.isWarning = 0 := by
    unfold Entry.ended
    split <;> rfl
  have hrefused : (Entry.refused request result).countP Entry.isWarning = 0 := by
    unfold Entry.refused
    split
    · rfl
    · split
      · cases request <;> rfl
      · rfl
  rw [exchangeLog, List.countP_cons_of_neg (by rw [hsending]; exact Bool.false_ne_true),
    List.countP_append, List.countP_append, List.countP_append, hreceived, hended, hrefused]
  omega

/-- **An exchange warns once if a frame was received that is no reply**, and else
not at all. -/
theorem warned_send (connection : Connection) (request : Request) (t : Transport) :
    (Answer.ofReply (connection.send request t).result).Warned
      (connection.send request t).events := by
  obtain ⟨read, -, hlog⟩ := connection.send_logged request t
  have hiff := connection.isUnparsed_send_iff request t
  rw [Answer.Warned, warnings, hlog, countP_exchangeLog]
  cases hframe : connection.frame? request t with
  | none =>
    simp only [hframe, Option.not_mem_none, false_and, exists_false, iff_false] at hiff
    rw [if_neg hiff]
    rfl
  | some frame =>
    have hsame : (Answer.ofReply (connection.send request t).result).isUnparsed =
        (Entry.parsed frame).isWarning := by
      rw [Bool.eq_iff_iff, hiff, Entry.isWarning_parsed_iff, hframe]
      simp
    rw [hsame]
    exact List.countP_singleton

theorem warned_welcome (greeting : Outcome Connection (Except Fault Reply))
    (h : (Answer.ofReply greeting.result).Warned greeting.events) :
    (Answer.ofDone (welcome greeting).result).Warned (welcome greeting).events := by
  cases hresult : greeting.result with
  | error fault =>
    have hwelcome : welcome greeting = (greeting.give (.error fault)).leave none := by
      rw [welcome, hresult]
    rw [hresult] at h
    rw [hwelcome]
    exact h
  | ok reply =>
    have hwelcome : welcome greeting = ((greeting.give (.ok ())).mapState some).note
        (.opened greeting.state.settings.identity) := by
      rw [welcome, hresult]
    rw [hresult] at h
    rw [hwelcome]
    exact (warnings_append _ _).trans h

theorem warned_depart (parting : Outcome Connection (Except Fault Unit))
    (h : (Answer.ofDone parting.result).Warned parting.events) :
    (Answer.ofDone (depart parting).result).Warned (depart parting).events := by
  unfold depart
  split
  · exact h
  · next hresult =>
    rw [hresult] at h
    split
    · exact h
    · exact (warnings_append _ _).trans h

theorem warned_farewell (connection : Connection) (t : Transport) :
    (Answer.ofDone (connection.farewell t).result).Warned (connection.farewell t).events := by
  unfold farewell
  split
  · have hsend := connection.warned_send (.command ⟨"BYE", []⟩) t
    show (Answer.ofDone ((connection.send _ t).result.map _)).Warned (connection.send _ t).events
    cases hresult : (connection.send (.command ⟨"BYE", []⟩) t).result with
    | error fault =>
      rw [hresult] at hsend
      exact hsend
    | ok reply =>
      rw [hresult] at hsend
      exact hsend
  · rfl

end Connection

theorem Action.warned_past {τ : Type} {answer : τ → Answer}
    (h : ∀ found, (answer found).isUnparsed = false) (connection : Connection) :
    ∀ call : Except IoFailure τ × Transport,
      (past answer connection call).result.Warned (past answer connection call).events
  | (.ok found, _) => by
    show (answer found).Warned []
    rw [Answer.Warned, h found]
    rfl
  | (.error _, _) => rfl

theorem Action.warned_run (action : Action) (connection : Connection) (t : Transport) :
    (action.run connection t).result.Warned (action.run connection t).events := by
  cases action with
  | identify => exact connection.warned_send _ t
  | send request => exact connection.warned_send request t
  | push more => rfl
  | rawWrite bytes => exact warned_past (fun _ => rfl) connection _
  | rawRead room => exact warned_past (fun _ => rfl) connection _
  | info => rfl

namespace Session

variable {settings : Settings}

theorem warned_step (s : Step) (connection : Option Connection) (t : Transport) :
    (step settings s connection t).result.Warned (step settings s connection t).events := by
  cases s with
  | new => rfl
  | establish => exact Connection.warned_welcome _ (Connection.warned_send _ _ t)
  | close =>
    cases connection with
    | none => rfl
    | some connection => exact Connection.warned_depart _ (connection.warned_farewell t)
  | takeBack =>
    cases connection with
    | none => rfl
    | some connection => rfl
  | act action =>
    cases connection with
    | none => rfl
    | some connection => exact action.warned_run connection t

/-- **A session records as many warnings as calls failed for a frame that is no
reply.** -/
theorem warnings_each (steps : List Step) (connection : Option Connection) (t : Transport) :
    warnings (Outcome.each (step settings) steps connection t).events =
      (Outcome.each (step settings) steps connection t).result.countP Answer.isUnparsed := by
  induction steps generalizing connection t with
  | nil => rfl
  | cons s steps ih =>
    show warnings ((step settings s connection t).events ++ _) =
      List.countP _ ((step settings s connection t).result :: _)
    rw [warnings_append, warned_step, List.countP_cons]
    exact (congrArg (_ + ·) (ih _ _)).trans (Nat.add_comm _ _)

/-- **The log agrees with what happened.** Of every exchange, on any connection
and any transport: what was read for it went off the front of what waited, and
with the number of these bytes, the frame that was read and what the sender is
told, the log is `Connection.exchangeLog`; the first entry tells of the bytes
that the transport took, and of those that it did not take if the call failed
for that. The sender is told the verdict on the frame, or why there is none;
and a call failed for a frame that is no reply if it received one. Over a
session, as many warnings are recorded as calls failed so. -/
theorem log_agrees :
    (∀ (connection : Connection) (request : Request) (t : Transport),
      (∃ read, t.incoming = read ++ (connection.send request t).transport.incoming ∧
        (connection.send request t).events.map Event.entry =
          Connection.exchangeLog request read.length (connection.frame? request t)
            (connection.send request t).result) ∧
      (∃ accepted left entry,
        (connection.send request t).transport.written = t.written ++ accepted ∧
        ((connection.send request t).events.map Event.entry).head? = some entry ∧
        entry.Announces (accepted ++ left) request ∧
        (left ≠ [] → ∃ cause, (connection.send request t).result = .error (.io cause))) ∧
      (∀ frame ∈ connection.frame? request t,
        (connection.send request t).result = request.verdict frame) ∧
      (connection.frame? request t = none →
        ∃ fault, (connection.send request t).result = .error fault ∧ fault.Frameless) ∧
      ((Answer.ofReply (connection.send request t).result).isUnparsed = true ↔
        ∃ frame ∈ connection.frame? request t, ∃ why, Reply.parse frame = .error why)) ∧
    ∀ settings steps t, warnings (play settings steps t).events =
      (play settings steps t).result.countP Answer.isUnparsed := by
  refine ⟨fun connection request t => ⟨connection.send_logged request t, ?_⟩,
    fun settings steps t => warnings_each steps none t⟩
  obtain ⟨hverdict, hnone⟩ := connection.send_of_frame? request t
  exact ⟨connection.send_announced request t, hverdict, hnone,
    connection.isUnparsed_send_iff request t⟩

end Session
end SpeechWire
