/-
# What a failed call leaves behind

A reply is known as the reply to a request only by its place on the stream.
A call that fails before it has its whole reply does not read the rest of it,
and a connection keeps no record of that. So calls and replies are in step up
to the first call that leaves a part of its reply; what is read after it
starts with that part (`runAll_until_stranded`). If the part is the whole
reply, the next call reports it as its own (`stale_reply_after_failure`).

How one call ends is `Assembler.Ends`: its reply is read whole, the transport
fails with some of it to come, or it is over the limit. What it leaves is in
each case the rest of that reply and the replies after it (`collect_delivers`,
`send_delivers`). A run is an induction on the calls, as far as they leave
nothing.

Key definitions: `Arrival.Delivers`, `Assembler.Ends`, `Exchange`,
`Exchange.InStep`, `Exchange.Strands`.
Key theorems: `Assembler.collect_delivers`, `Connection.send_delivers`,
`Exchange.run_cases`, `Action.runAll_until_stranded`.
-/
import SpeechWire.Proofs.Pairing
import SpeechWire.Proofs.Rounds

namespace SpeechWire

/-- Whether the fault is that no whole frame came: the transport failed or
ended, or the limit was passed. -/
def Fault.Frameless : Fault → Prop
  | .io _ | .closed | .malformed (.tooLong _) => True
  | _ => False

/-! ### Replies with failures in between -/

namespace Arrival

/-- Whether reads bring just these bytes: in pieces that are not empty, with
failures before any of them. -/
inductive Delivers : List UInt8 → List Arrival → Prop
  | nothing : Delivers [] []
  | fails {frame : List UInt8} {later : List Arrival} (cause : IoFailure) (hne : frame ≠ []) :
    Delivers frame later → Delivers frame (.failure cause :: later)
  | brings {piece frame : List UInt8} {later : List Arrival} (hne : piece ≠ []) :
    Delivers frame later → Delivers (piece ++ frame) (.bytes piece :: later)

theorem Delivers.contents_eq {frame : List UInt8} {arrivals : List Arrival}
    (h : Delivers frame arrivals) : contents arrivals = frame := by
  induction h with
  | nothing => rfl
  | fails cause hne _ ih => exact ih
  | brings hne _ ih => rw [contents_cons, ih, content]

theorem Delivers.eq_nil {arrivals : List Arrival} (h : Delivers [] arrivals) : arrivals = [] := by
  generalize hframe : ([] : List UInt8) = frame at h
  cases h with
  | nothing => rfl
  | fails cause hne _ => exact absurd hframe.symm hne
  | brings hne _ => exact absurd (List.append_eq_nil_iff.1 hframe.symm).1 hne

theorem Delivers.single {frame : List UInt8} (hne : frame ≠ []) :
    Delivers frame [.bytes frame] := by
  have h := brings hne .nothing
  rwa [List.append_nil] at h

theorem Delivers.pieces {frame : List UInt8} {later : List Arrival} (h : Delivers frame later) :
    ∀ {pieces : List (List UInt8)}, (∀ piece ∈ pieces, piece ≠ []) →
      Delivers (pieces.flatten ++ frame) (pieces.map .bytes ++ later)
  | [], _ => h
  | piece :: pieces, hp => by
    have ih := h.pieces fun p hm => hp p (List.mem_cons_of_mem piece hm)
    rw [List.flatten_cons, List.append_assoc]
    exact .brings (hp piece List.mem_cons_self) ih

/-- The rounds of reading bring what the arrivals bring. -/
theorem Delivers.rounds {room : Nat} (hroom : 0 < room) {frame : List UInt8}
    {arrivals : List Arrival} (h : Delivers frame arrivals) :
    Delivers frame (arrivals.flatMap (Arrival.rounds room)) := by
  induction h with
  | nothing => exact .nothing
  | fails cause hne _ ih =>
    rw [List.flatMap_cons, Arrival.rounds]
    split
    · exact ih
    · exact .fails cause hne ih
  | @brings piece frame later hne _ ih =>
    rw [List.flatMap_cons, Arrival.rounds, if_neg hne]
    have hportions : ∀ portion ∈ portions room piece, portion ≠ [] := ne_nil_of_mem_portions
    have hpieces := ih.pieces hportions
    rwa [flatten_portions hroom] at hpieces

/-- The rounds fail as the arrivals do, interruptions apart. -/
theorem failure_mem_rounds_iff {room : Nat} {cause : IoFailure} {arrivals : List Arrival} :
    .failure cause ∈ arrivals.flatMap (Arrival.rounds room) ↔
      .failure cause ∈ arrivals ∧ cause.isInterrupted = false := by
  induction arrivals with
  | nil => simp
  | cons arrival arrivals ih =>
    rw [List.flatMap_cons, List.mem_append, ih, List.mem_cons, or_and_right]
    refine or_congr_left ?_
    cases arrival with
    | failure other =>
      rw [Arrival.rounds]
      by_cases hi : other.isInterrupted = true
      · rw [if_pos hi]
        simp only [List.not_mem_nil, failure.injEq, false_iff, not_and, Bool.not_eq_false]
        rintro rfl
        exact hi
      · rw [if_neg hi, List.mem_singleton]
        refine ⟨fun h => ⟨h, ?_⟩, And.left⟩
        obtain rfl := failure.inj h
        exact Bool.eq_false_iff.2 hi
    | bytes content =>
      rw [Arrival.rounds]
      split <;> simp

end Arrival

namespace Assembler

open Arrival SpeechWire.Frame

/-- How reading `frame` under `limit` can end, with `back` of it unread: all of
it was read, the transport failed in a way in which it fails, with some of the
frame to come, or the frame is over the limit. -/
inductive Ends (limit : Nat) (fails : IoFailure → Prop) (frame : List UInt8) :
    Except Fault (List UInt8) → List UInt8 → Prop
  | whole : Ends limit fails frame (.ok frame) []
  | failed {back : List UInt8} {cause : IoFailure} (hfails : fails cause) (hne : back ≠ []) :
    Ends limit fails frame (.error (.io cause)) back
  | tooLong {back : List UInt8} (hlimit : limit < frame.length) :
    Ends limit fails frame (.error (.malformed (.tooLong limit))) back

theorem Ends.mono {limit : Nat} {fails fails' : IoFailure → Prop} {frame back : List UInt8}
    {read : Except Fault (List UInt8)} (h : Ends limit fails frame read back)
    (hle : ∀ cause, fails cause → fails' cause) : Ends limit fails' frame read back := by
  cases h with
  | whole => exact .whole
  | failed hfails hne => exact .failed (hle _ hfails) hne
  | tooLong hlimit => exact .tooLong hlimit

/-- **A pass over a frame that is delivered**, with the start of it held. The
rounds it leaves deliver what is left of the frame. -/
theorem collect_delivers (limit : Nat) {frame : List UInt8} {rounds : List Arrival}
    (h : Delivers frame rounds) (later : List Arrival) : ∀ buffer : Buffer, frame ≠ [] →
      IsFirst (buffer.toList ++ frame) →
      ∃ back rest, (collect limit buffer (rounds ++ later)).2 = rest ++ later ∧
        Delivers back rest ∧ back <:+ frame ∧
        Ends limit (fun cause => .failure cause ∈ rounds) (buffer.toList ++ frame)
          (collect limit buffer (rounds ++ later)).1 back := by
  induction h with
  | nothing => exact fun _ hne _ => absurd rfl hne
  | @fails frame rest cause hne hrest _ =>
    exact fun _ _ _ =>
      ⟨frame, rest, rfl, hrest, List.suffix_rfl, .failed List.mem_cons_self hne⟩
  | @brings piece frame rest hpiece hrest ih =>
    intro buffer _ hfirst
    rw [← List.append_assoc] at hfirst ⊢
    rw [List.cons_append]
    cases habsorb : absorb limit buffer (.ok piece) with
    | finished result events =>
      rw [collect_of_finished habsorb]
      cases absorbs habsorb with
      | ended => exact absurd rfl hpiece
      | tooLong _ hlong =>
        have hlimit : limit < (buffer.toList ++ piece ++ frame).length :=
          Nat.lt_of_lt_of_le hlong (List.prefix_append _ _).length_le
        exact ⟨frame, rest, rfl, hrest, List.suffix_append _ _, .tooLong hlimit⟩
      | whole _ _ hcomplete =>
        -- the last of the bytes: the frame is complete nowhere before
        obtain rfl := hfirst.isComplete_front_iff.1 hcomplete
        rw [List.append_nil, List.append_nil]
        exact ⟨[], rest, rfl, hrest, List.nil_suffix, .whole⟩
    | underway next =>
      rw [collect_of_underway habsorb]
      cases absorbs habsorb with
      | more _ _ hopen =>
        rw [← Buffer.toList_append] at hfirst ⊢
        obtain ⟨back, left, hleft, hback, hsuffix, hends⟩ :=
          ih _ (mt hfirst.isComplete_front_iff.2 (by rwa [Buffer.toList_append])) hfirst
        exact ⟨back, left, hleft, hback, hsuffix.trans (List.suffix_append _ _),
          hends.mono fun _ hc => List.mem_cons_of_mem _ hc⟩

/-- Gathering that gives no frame says why in one of three ways. -/
theorem frameless_of_gather {assembler : Assembler} {t : Transport} {fault : Fault}
    (h : (assembler.gather t).result = .error fault) : fault.Frameless := by
  have hgathers := gathers assembler t
  generalize assembler.gather t = outcome at h hgathers
  induction hgathers with
  | next _ _ _ ih => exact ih h
  | last hread habsorb =>
    cases absorbs habsorb with
    | failed | ended | tooLong =>
      obtain rfl := Except.error.inj h
      trivial
    | whole => cases h

theorem frameless_of_readFrame {assembler : Assembler} {t : Transport} {fault : Fault}
    (h : (assembler.readFrame t).result = .error fault) : fault.Frameless :=
  frameless_of_gather h

end Assembler

/-! ### Writing reads nothing -/

theorem Connection.reads_transmit (bytes : List UInt8) (t : Transport) :
    (transmit bytes t).2.reads = t.reads := by
  have hwrite := t.reads_writeAll bytes
  cases h : (t.writeAll bytes).1 with
  | error failure => rwa [transmit_of_writeAll_error h]
  | ok =>
    rw [transmit_of_writeAll_ok h]
    exact (Transport.reads_flush _).trans hwrite

/-! ### One call -/

/-- Whether a call failed before it had a frame. -/
def Answer.Frameless : Answer → Prop
  | .fault why => why.Frameless
  | _ => False

/-- **What a request decodes stands at the front of the bytes that wait**, if
there is a frame for it at all; and then the request was taken whole. -/
theorem Connection.send_frameless_or_decodes (connection : Connection) (request : Request)
    (t : Transport) :
    (∃ fault, (connection.send request t).result = .error fault ∧ fault.Frameless) ∨
      ∃ frame, Frame.isComplete frame = true ∧
        t.incoming = frame ++ (connection.send request t).transport.incoming ∧
        (connection.send request t).transport.written = t.written ++ request.wire ∧
        (connection.send request t).result = request.verdict frame := by
  cases htransmit : (transmit request.wire t).1 with
  | error cause => exact .inl ⟨_, (send_of_transmit_error connection request htransmit).1, trivial⟩
  | ok =>
    obtain ⟨hresult, htransport⟩ := send_of_transmit_ok connection request htransmit
    rw [hresult, htransport]
    cases hread : (connection.assembler.readFrame (transmit request.wire t).2).result with
    | error fault => exact .inl ⟨fault, rfl, Assembler.frameless_of_readFrame hread⟩
    | ok frame =>
      obtain ⟨hincoming, hcomplete⟩ := Assembler.readFrame_prefix hread
      have hreads : (transmit request.wire t).2.incoming = t.incoming :=
        congrArg Arrival.contents (reads_transmit request.wire t)
      obtain ⟨mid, hwrote, hflush⟩ := wrote_of_transmit_ok htransmit
      refine .inr ⟨frame, hcomplete, hreads.symm.trans hincoming, ?_, rfl⟩
      rw [(Assembler.sameWrites_readFrame _ _).written, Transport.eq_of_flush hflush, hwrote.written]

/-- How many bytes a read on a connection asks for. -/
abbrev Settings.room (settings : Settings) : Nat := (Connection.new settings).assembler.room

theorem Settings.room_pos (settings : Settings) : 0 < settings.room :=
  (Connection.new settings).assembler.room_pos

/-- Whether the transport fails in this way for a request: when it is to be taken
or passed on, or in a read of what arrives for it. -/
def Connection.FailsWith (request : Request) (t : Transport) (arrivals : List Arrival)
    (cause : IoFailure) : Prop :=
  (transmit request.wire t).1 = .error cause ∨
    .failure cause ∈ arrivals ∧ cause.isInterrupted = false

open Arrival in
/-- **A request whose reply is delivered.** It comes to the verdict on the reply,
or to the fault for which there is no reply, and what is left of the reply
waits before the replies after it. -/
theorem Connection.send_delivers (settings : Settings) (request : Request) {reply : List UInt8}
    (hfirst : Frame.IsFirst reply) {arrivals later : List Arrival} (h : Delivers reply arrivals)
    {t : Transport}
    (ht : t.rounds settings.room = arrivals.flatMap (Arrival.rounds settings.room) ++ later) :
    ∃ read back rest, ((new settings).send request t).result = read.bind request.verdict ∧
      ((new settings).send request t).transport.rounds settings.room = rest ++ later ∧
      Delivers back rest ∧ back <:+ reply ∧
      Assembler.Ends settings.replyLimit (FailsWith request t arrivals) reply read back := by
  have hne : reply ≠ [] := Frame.ne_nil_of_isComplete hfirst.isComplete
  have hwhole := h.rounds settings.room_pos
  have hrounds := Transport.rounds_of_reads_eq (reads_transmit request.wire t) settings.room
  rw [ht] at hrounds
  cases htransmit : (transmit request.wire t).1 with
  | error cause =>
    obtain ⟨hresult, htransport⟩ := send_of_transmit_error (new settings) request htransmit
    refine ⟨.error (.io cause), reply, _, hresult, ?_, hwhole, List.suffix_rfl,
      .failed (.inl htransmit) hne⟩
    rw [htransport, hrounds]
  | ok =>
    obtain ⟨hresult, htransport⟩ := send_of_transmit_ok (new settings) request htransmit
    obtain ⟨back, rest, hrest, hback, hsuffix, hends⟩ :=
      Assembler.collect_delivers settings.replyLimit hwhole later .empty hne hfirst
    have hpass := (new settings).assembler.readFrame_eq_collect (transmit request.wire t).2
    rw [hrounds] at hpass
    obtain ⟨hread, hleft⟩ := Prod.mk.inj hpass
    refine ⟨_, back, rest, hresult, ?_, hback, hsuffix, ?_⟩
    · rw [htransport, hleft]
      exact hrest
    · rw [hread]
      exact hends.mono fun _ hc => .inr (failure_mem_rounds_iff.1 hc)

namespace Call

/-- What a call answers on the transport as it stands. -/
def answerOn (settings : Settings) (t : Transport) (call : Call) : Answer :=
  (call.action.run (.new settings) t).result

theorem answerOn_eq (call : Call) (settings : Settings) (t : Transport) :
    call.answerOn settings t =
      .ofReply ((Connection.new settings).send (call.request settings) t).result := by
  rw [answerOn, run_eq]
  rfl

/-- Whether the call, made on `t`, has no frame or decodes one that is taken
from `back`: a start of it, or all of it with what comes after. -/
def TakesFrom (settings : Settings) (t : Transport) (back : List UInt8) (call : Call) : Prop :=
  (call.answerOn settings t).Frameless ∨
    ∃ frame, frame ≠ [] ∧ (frame <+: back ∨ back <+: frame) ∧
      call.answerOn settings t = .ofReply ((call.request settings).verdict frame)

theorem takesFrom_of_incoming (call : Call) (settings : Settings) {t : Transport}
    {back beyond : List UInt8} (ht : t.incoming = back ++ beyond) :
    call.TakesFrom settings t back := by
  rw [TakesFrom, answerOn_eq]
  obtain ⟨fault, hfault, hframeless⟩ | ⟨frame, hcomplete, hincoming, -, hresult⟩ :=
    (Connection.new settings).send_frameless_or_decodes (call.request settings) t
  · left
    rw [hfault]
    exact hframeless
  · right
    have hfront : frame <+: back ++ beyond := ⟨_, hincoming.symm.trans ht⟩
    refine ⟨frame, Frame.ne_nil_of_isComplete hcomplete, ?_, congrArg Answer.ofReply hresult⟩
    exact List.prefix_or_prefix_of_prefix hfront (List.prefix_append back beyond)

end Call

/-! ### Calls and what the server sends for them -/

/-- A call and the reply the server has for it, as reads find it: in pieces, with
failures in between. The reply is complete at its end and nowhere before. -/
structure Exchange where
  call : Call
  reply : List UInt8
  arrivals : List Arrival
  isFirst : Frame.IsFirst reply
  delivers : Arrival.Delivers reply arrivals

namespace Exchange

open Arrival (Delivers contents contents_append)

/-- What the call should answer: the verdict on its own reply. -/
def answer (settings : Settings) (exchange : Exchange) : Answer :=
  .ofReply ((exchange.call.request settings).verdict exchange.reply)

/-- What the call, made on `t`, leaves of it. -/
def transportAfter (settings : Settings) (t : Transport) (exchange : Exchange) : Transport :=
  (exchange.call.action.run (.new settings) t).transport

/-- The calls as actions. -/
def actions (exchanges : List Exchange) : List Action := exchanges.map (·.call.action)

/-- What reads find of all the replies. -/
def found (exchanges : List Exchange) : List Arrival := exchanges.flatMap (·.arrivals)

/-- The bytes of all the replies. -/
def replies (exchanges : List Exchange) : List UInt8 := exchanges.flatMap (·.reply)

theorem contents_found (exchanges : List Exchange) :
    contents (found exchanges) = replies exchanges := by
  induction exchanges with
  | nil => rfl
  | cons exchange exchanges ih =>
    rw [found, List.flatMap_cons, contents_append, exchange.delivers.contents_eq, ← found, ih]
    rfl

/-- Whether the call says that its reply is over the limit, which it is. -/
def OverLimit (settings : Settings) (exchange : Exchange) (answer : Answer) : Prop :=
  settings.replyLimit < exchange.reply.length ∧
    answer = .fault (.malformed (.tooLong settings.replyLimit))

/-- Whether the call answers with the verdict on its own reply, or that this is
over the limit. -/
def InStep (settings : Settings) (exchange : Exchange) (answer : Answer) : Prop :=
  answer = exchange.answer settings ∨ exchange.OverLimit settings answer

instance (settings : Settings) (exchange : Exchange) (answer : Answer) :
    Decidable (exchange.InStep settings answer) :=
  inferInstanceAs (Decidable (_ ∨ _ ∧ _))

/-- Whether the call, made on `t`, fails with `back` of its reply unread and
before what is `beyond`: because the transport fails for it, or because its
reply is over the limit. -/
structure Strands (settings : Settings) (t : Transport) (exchange : Exchange)
    (back beyond : List UInt8) : Prop where
  ne_nil : back ≠ []
  suffix : back <:+ exchange.reply
  fails : (∃ cause, exchange.call.answerOn settings t = .fault (.io cause) ∧
      Connection.FailsWith (exchange.call.request settings) t exchange.arrivals cause) ∨
    exchange.OverLimit settings (exchange.call.answerOn settings t)
  waits : (exchange.transportAfter settings t).incoming = back ++ beyond

/-- **One call.** It is in step and leaves nothing of its reply, or it fails and
leaves a part of it; the replies after it are as they were. -/
theorem run_cases (settings : Settings) (exchange : Exchange) {t : Transport}
    {later : List Arrival} (ht : t.rounds settings.room =
      exchange.arrivals.flatMap (Arrival.rounds settings.room) ++ later) :
    exchange.InStep settings (exchange.call.answerOn settings t) ∧
        (exchange.transportAfter settings t).rounds settings.room = later ∨
      ∃ back, exchange.Strands settings t back (contents later) := by
  obtain ⟨read, back, rest, hresult, hrounds, hback, hsuffix, hends⟩ :=
    Connection.send_delivers settings (exchange.call.request settings) exchange.isFirst
      exchange.delivers ht
  have hanswer : exchange.call.answerOn settings t =
      .ofReply (read.bind (exchange.call.request settings).verdict) := by
    rw [Call.answerOn_eq, hresult]
  have hleft : (exchange.transportAfter settings t).rounds settings.room = rest ++ later := by
    rw [transportAfter, Call.run_eq]
    exact hrounds
  have hwaits : (exchange.transportAfter settings t).incoming = back ++ contents later := by
    rw [← Transport.contents_rounds settings.room_pos, hleft, contents_append, hback.contents_eq]
  by_cases hnone : back = []
  · subst hnone
    rw [hback.eq_nil, List.nil_append] at hleft
    refine .inl ⟨?_, hleft⟩
    cases hends with
    | whole => exact .inl hanswer
    | failed _ hne => exact absurd rfl hne
    | tooLong hlimit => exact .inr ⟨hlimit, hanswer⟩
  · refine .inr ⟨back, hnone, hsuffix, ?_, hwaits⟩
    cases hends with
    | whole => exact absurd rfl hnone
    | failed hfails _ => exact .inl ⟨_, hanswer, hfails⟩
    | tooLong hlimit => exact .inr ⟨hlimit, hanswer⟩

end Exchange

namespace Action

open Arrival (contents contents_nil contents_append)
open Exchange (actions found replies)

/-- A run over rounds, in which what a call leaves is told with no regard to how
the reads cut it. -/
theorem exists_strands_of_rounds (settings : Settings) {later : List Arrival} :
    ∀ {exchanges : List Exchange} {t : Transport},
      t.rounds settings.room =
        (found exchanges).flatMap (Arrival.rounds settings.room) ++ later →
      ∃ done after, exchanges = done ++ after ∧
        List.Forall₂ (Exchange.InStep settings) done
          (runAll (actions done) (.new settings) t).result ∧
        (after = [] ∧
            (runAll (actions done) (.new settings) t).transport.incoming = contents later ∨
          ∃ next rest back, after = next :: rest ∧
            next.Strands settings (runAll (actions done) (.new settings) t).transport back
              (replies rest ++ contents later)) := by
  intro exchanges
  induction exchanges with
  | nil =>
    intro t ht
    refine ⟨[], [], rfl, .nil, .inl ⟨rfl, ?_⟩⟩
    rw [← Transport.contents_rounds settings.room_pos]
    exact congrArg contents ht
  | cons exchange exchanges ih =>
    intro t ht
    rw [found, List.flatMap_cons, ← found, List.flatMap_append, List.append_assoc] at ht
    obtain ⟨hstep, hleft⟩ | ⟨back, hstrands⟩ := exchange.run_cases settings ht
    · obtain ⟨done, after, rfl, hdone, hafter⟩ := ih hleft
      refine ⟨exchange :: done, after, rfl, ?_, ?_⟩
      · rw [actions, List.map_cons, result_runAll_cons]
        exact .cons hstep hdone
      · rw [actions, List.map_cons, transport_runAll_cons]
        exact hafter
    · refine ⟨[], exchange :: exchanges, rfl, .nil, .inr ⟨exchange, exchanges, back, rfl, ?_⟩⟩
      rwa [contents_append, Arrival.contents_flatMap_rounds settings.room_pos,
        Exchange.contents_found] at hstrands

/-- **Calls and replies are in step until a part of a reply is left.** Each call
up to there answers with the verdict on its own reply, or that it is over the
limit. If there is a call that leaves a part of its reply, that call fails, as
the transport fails for it or its reply is over the limit; and whatever is sent
next, what is read for it is taken from that part: a call that has a frame then
decodes the start of it, or all of it and what comes after. -/
theorem runAll_until_stranded (settings : Settings) (exchanges : List Exchange)
    (further : List Arrival) {t : Transport} (hreads : t.reads = found exchanges ++ further) :
    ∃ done after, exchanges = done ++ after ∧
      List.Forall₂ (Exchange.InStep settings) done
        (runAll (actions done) (.new settings) t).result ∧
      (after = [] ∧
          (runAll (actions done) (.new settings) t).transport.incoming = contents further ∨
        ∃ next rest back, after = next :: rest ∧
          next.Strands settings (runAll (actions done) (.new settings) t).transport back
            (replies rest ++ contents further) ∧
          ∀ call : Call, call.TakesFrom settings
            (next.transportAfter settings (runAll (actions done) (.new settings) t).transport)
            back) := by
  obtain ⟨done, after, hsplit, hdone, hafter⟩ :=
    exists_strands_of_rounds settings (Transport.rounds_of_reads_append hreads)
  rw [Arrival.contents_flatMap_rounds settings.room_pos] at hafter
  refine ⟨done, after, hsplit, hdone, ?_⟩
  obtain hnone | ⟨next, rest, back, hnext, hstrands⟩ := hafter
  · exact .inl hnone
  · exact .inr ⟨next, rest, back, hnext, hstrands,
      fun call => call.takesFrom_of_incoming settings hstrands.waits⟩

/-- The bytes of `250 1`. -/
def firstReply : List UInt8 := (Frame.WellFormed.oneLine [49] (by decide)).bytes

/-- The bytes of `250 2`. -/
def secondReply : List UInt8 := (Frame.WellFormed.oneLine [50] (by decide)).bytes

/-- A failure before the first of two replies. -/
def replyAfterFailure : List Exchange :=
  [{ call := .send (.command ⟨"STOP", []⟩)
     reply := firstReply
     arrivals := [.failure ⟨.timedOut, "late"⟩, .bytes firstReply]
     isFirst := Frame.WellFormed.isFirst_bytes _
     delivers := .fails _ (by decide) (.single (by decide)) },
   { call := .send (.command ⟨"LIST", []⟩)
     reply := secondReply
     arrivals := [.bytes secondReply]
     isFirst := Frame.WellFormed.isFirst_bytes _
     delivers := .single (by decide) }]

/-- Here it is the first call that leaves its reply. -/
theorem runAll_until_stranded_replyAfterFailure :
    (Transport.ofScript { reads := found replyAfterFailure }).reads =
      found replyAfterFailure ++ [] ∧
    ∃ next rest back, replyAfterFailure = next :: rest ∧
      next.Strands {} (.ofScript { reads := found replyAfterFailure }) back (replies rest) := by
  have hreads : (Transport.ofScript { reads := found replyAfterFailure }).reads =
      found replyAfterFailure ++ [] := (List.append_nil _).symm
  obtain ⟨done, after, hsplit, hdone, hafter⟩ :=
    runAll_until_stranded {} replyAfterFailure [] hreads
  refine ⟨hreads, ?_⟩
  cases done with
  | nil =>
    obtain ⟨hnone, -⟩ | ⟨next, rest, back, hnext, hstrands, -⟩ := hafter
    · rw [hnone] at hsplit
      cases hsplit
    · rw [contents_nil, List.append_nil] at hstrands
      exact ⟨next, rest, back, hsplit.trans hnext, hstrands⟩
  | cons exchange done =>
    rw [actions, List.map_cons, result_runAll_cons] at hdone
    obtain ⟨rfl, -⟩ := List.cons.inj hsplit
    cases hdone with
    | cons hfirst _ => exact absurd hfirst (by decide +kernel)

/-- **A stale reply is taken for the next.** A call that failed in the transport
leaves its reply, and the next call reports it as its own. -/
theorem stale_reply_after_failure :
    (runAll (actions replyAfterFailure) (.new {})
      (.ofScript { reads := found replyAfterFailure })).result =
        [.fault (.io ⟨.timedOut, "late"⟩), .reply ⟨250, "1", []⟩] ∧
    ¬ ∀ (settings : Settings) (exchanges : List Exchange) (t : Transport), t.Willing →
      (∀ exchange ∈ exchanges, ∃ frame : Frame.WellFormed, frame.bytes = exchange.reply) →
      t.reads = found exchanges →
      List.Forall₂ (fun exchange answer => answer.Frameless ∨ answer = exchange.answer settings)
        exchanges (runAll (actions exchanges) (.new settings) t).result := by
  have hresult : (runAll (actions replyAfterFailure) (.new {})
      (.ofScript { reads := found replyAfterFailure })).result =
        [.fault (.io ⟨.timedOut, "late"⟩), .reply ⟨250, "1", []⟩] := by decide +kernel
  refine ⟨hresult, fun hall => ?_⟩
  have hframes : ∀ exchange ∈ replyAfterFailure,
      ∃ frame : Frame.WellFormed, frame.bytes = exchange.reply := by
    intro exchange he
    rcases List.mem_pair.1 he with rfl | rfl
    · exact ⟨_, rfl⟩
    · exact ⟨_, rfl⟩
  have hown := hall {} replyAfterFailure (.ofScript { reads := found replyAfterFailure })
    ⟨by decide, by decide⟩ hframes rfl
  rw [hresult] at hown
  cases hown with
  | cons _ hlater =>
    cases hlater with
    | cons hsecond _ =>
      rcases hsecond with hframeless | hanswer
      · exact hframeless
      · exact absurd hanswer (by decide +kernel)

end Action
end SpeechWire
