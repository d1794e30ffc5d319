/-
# Requests are sent once and in order

Whatever is planned on the transport, sending a request goes one of three ways
(`Connection.Course`). A write is refused before the end: some of the request
is taken, from its front, and nothing else is done. Or all of it is taken and
the flush fails. Or all of it is taken and passed on, and from there on the
transport is only read. So there is one flush at most, and reading starts
behind it; a write or a flush that fails is what the sender is told, and the
bytes that wait to be read wait as before (`Connection.send_takes_course`).

Key definitions: `Connection.Course`.
Key theorems: `Connection.course_send`, `Connection.send_takes_course`.
-/
import SpeechWire.Proofs.Pairing

namespace SpeechWire

namespace Connection

open Transport

/-- How the sending of a request on `t` can go, with `accepted` the bytes that
the transport takes: a write is refused before the end, or everything is taken
and the flush fails, or everything is taken and passed on, and then nothing is
done but reading. -/
inductive Course (request : Request) (t : Transport) :
    List UInt8 → Outcome Connection (Except Fault Reply) → Prop
  | refused {accepted : List UInt8} {mid : Transport} {cause : IoFailure}
    {sent : Outcome Connection (Except Fault Reply)} (hpart : accepted <+: request.bytes)
    (hne : accepted ≠ request.bytes) (hwrote : Wrote t accepted mid)
    (hrefuses : Refuses mid cause sent.transport) (hresult : sent.result = .error (.io cause)) :
    Course request t accepted sent
  | unflushed {mid : Transport} {cause : IoFailure}
    {sent : Outcome Connection (Except Fault Reply)} (hwrote : Wrote t request.bytes mid)
    (hflush : mid.flush = (.error cause, sent.transport))
    (hresult : sent.result = .error (.io cause)) : Course request t request.bytes sent
  | passed {mid flushed : Transport} {sent : Outcome Connection (Except Fault Reply)}
    (hwrote : Wrote t request.bytes mid) (hflush : mid.flush = (.ok (), flushed))
    (hsame : SameWrites flushed sent.transport)
    (hreads : flushed.readCalls < sent.transport.readCalls) : Course request t request.bytes sent

/-- **Every sending goes one of the three ways.** -/
theorem course_send (connection : Connection) (request : Request) (t : Transport) :
    ∃ accepted, Course request t accepted (connection.send request t) := by
  have hwire := request.wire_eq_bytes
  cases htransmit : (transmit request.wire t).1 with
  | ok =>
    obtain ⟨mid, hwrote, hflush⟩ := wrote_of_transmit_ok htransmit
    rw [hwire] at hwrote
    refine ⟨_, .passed hwrote hflush ?_ ?_⟩
    all_goals rw [(send_of_transmit_ok connection request htransmit).2]
    · exact Assembler.sameWrites_readFrame _ _
    · exact Assembler.readCalls_lt_readFrame _ _
  | error cause =>
    obtain ⟨hresult, htransport⟩ := send_of_transmit_error connection request htransmit
    rw [hwire] at htransmit htransport
    -- the failure is that of the write, or else that of the flush
    have hwrites := writes_writeAll request.bytes t
    cases hwrite : (t.writeAll request.bytes).1 with
    | error cause' =>
      rw [transmit_of_writeAll_error hwrite] at htransmit htransport
      obtain rfl := Except.error.inj htransmit
      rw [hwrite, ← htransport] at hwrites
      cases hwrites with
      | part hpart hne hwrote hrefuses => exact ⟨_, .refused hpart hne hwrote hrefuses hresult⟩
    | ok =>
      rw [transmit_of_writeAll_ok hwrite] at htransmit htransport
      rw [hwrite] at hwrites
      cases hwrites with
      | all hwrote => exact ⟨_, .unflushed hwrote (Prod.ext htransmit htransport.symm) hresult⟩

variable {request : Request} {t : Transport} {accepted : List UInt8}
  {sent : Outcome Connection (Except Fault Reply)}

/-! ### What the ways have in common -/

theorem Course.isPrefix (h : Course request t accepted sent) : accepted <+: request.bytes := by
  cases h with
  | refused hpart => exact hpart
  | unflushed | passed => exact List.prefix_rfl

/-- What was planned for the writes is used up, or refuses; they take the bytes
that are accepted, and no others. -/
theorem Course.written (h : Course request t accepted sent) :
    sent.transport.written = t.written ++ accepted := by
  cases h with
  | refused _ _ hwrote hrefuses _ => rw [hrefuses.eq, hwrote.written]
  | unflushed hwrote hflush _ => rw [eq_of_flush hflush, hwrote.written]
  | passed hwrote hflush hsame _ => rw [hsame.written, eq_of_flush hflush, hwrote.written]

/-- There is one flush, for the whole request, or none. -/
theorem Course.flushCalls (h : Course request t accepted sent) :
    sent.transport.flushCalls = t.flushCalls + if accepted = request.bytes then 1 else 0 := by
  cases h with
  | refused _ hne hwrote hrefuses _ => rw [if_neg hne, Nat.add_zero, hrefuses.eq, hwrote.eq]
  | unflushed hwrote hflush _ => rw [if_pos rfl, eq_of_flush hflush, hwrote.eq]
  | passed hwrote hflush hsame _ => rw [if_pos rfl, hsame.flushCalls, eq_of_flush hflush, hwrote.eq]

/-- The transport is not read, or everything was taken and passed on before. -/
theorem Course.unread_or_flushed (h : Course request t accepted sent) :
    sent.transport.reads = t.reads ∧ sent.transport.readCalls = t.readCalls ∨
      accepted = request.bytes ∧ t.flush.1 = .ok () := by
  cases h with
  | refused _ _ hwrote hrefuses _ => exact .inl (by rw [hrefuses.eq, hwrote.eq]; exact ⟨rfl, rfl⟩)
  | unflushed hwrote hflush _ => exact .inl (by rw [eq_of_flush hflush, hwrote.eq]; exact ⟨rfl, rfl⟩)
  | passed hwrote hflush _ _ =>
    exact .inr ⟨rfl, (flush_answer_eq hwrote.flushes.symm).trans (congrArg Prod.fst hflush)⟩

/-- A request that is not taken whole comes to the failure of the write that was
refused. -/
theorem Course.result_of_ne (h : Course request t accepted sent) (hne : accepted ≠ request.bytes) :
    ∃ cause, cause.isInterrupted = false ∧ sent.result = .error (.io cause) := by
  cases h with
  | refused _ _ _ hrefuses hresult => exact ⟨_, hrefuses.not_interrupted, hresult⟩
  | unflushed | passed => exact absurd rfl hne

/-- A request that is taken whole and not passed on comes to the failure of the
flush. -/
theorem Course.result_of_flush (h : Course request t accepted sent)
    (hall : accepted = request.bytes) {cause : IoFailure} (hfails : t.flush.1 = .error cause) :
    sent.result = .error (.io cause) := by
  cases h with
  | refused _ hne => exact absurd hall hne
  | unflushed hwrote hflush hresult =>
    rw [← flush_answer_eq hwrote.flushes, hflush] at hfails
    rw [hresult, Except.error.inj hfails]
  | passed hwrote hflush _ _ =>
    rw [← flush_answer_eq hwrote.flushes, hflush] at hfails
    cases hfails

/-- **A request is sent once and in order.** Sending goes one of the three
ways, and so: the transport takes a part from the front of the request, each
byte once; it is flushed once if that is all of the request, and else not at
all; it is read only if all was taken and the flush succeeded. If it was not
all, the sender is told why, which is never an interruption; if the flush
failed the sender is told why, which can be one; in both cases what waits to
be read is left as it was. -/
theorem send_takes_course (connection : Connection) (request : Request) (t : Transport) :
    ∃ accepted, Course request t accepted (connection.send request t) ∧
      accepted <+: request.bytes ∧
      (connection.send request t).transport.written = t.written ++ accepted ∧
      (connection.send request t).transport.flushCalls =
        t.flushCalls + (if accepted = request.bytes then 1 else 0) ∧
      ((connection.send request t).transport.readCalls ≠ t.readCalls →
        accepted = request.bytes ∧ t.flush.1 = .ok ()) ∧
      (accepted ≠ request.bytes → ∃ cause, cause.isInterrupted = false ∧
        (connection.send request t).result = .error (.io cause) ∧
        (connection.send request t).transport.reads = t.reads) ∧
      ∀ cause, accepted = request.bytes → t.flush.1 = .error cause →
        (connection.send request t).result = .error (.io cause) ∧
        (connection.send request t).transport.reads = t.reads := by
  obtain ⟨accepted, h⟩ := course_send connection request t
  refine ⟨accepted, h, h.isPrefix, h.written, h.flushCalls, fun hread => ?_, fun hne => ?_,
    fun cause hall hfails => ?_⟩
  · exact h.unread_or_flushed.resolve_left fun hnone => hread hnone.2
  · obtain ⟨cause, hcause, hresult⟩ := h.result_of_ne hne
    have hunread := h.unread_or_flushed.resolve_right fun hall => hne hall.1
    exact ⟨cause, hcause, hresult, hunread.1⟩
  · have hunread := h.unread_or_flushed.resolve_right fun hok => by
      rw [hfails] at hok
      cases hok.2
    exact ⟨h.result_of_flush hall hfails, hunread.1⟩

/-- A write that is interrupted is made again; a flush is not. -/
example : ((Connection.new {}).send (.command ⟨"STOP", []⟩) (.ofScript
    { writes := [.upTo 2, .failure ⟨.interrupted, "write"⟩]
      flushes := [some ⟨.interrupted, "flush"⟩] })).result =
    .error (.io ⟨.interrupted, "flush"⟩) := by
  decide +kernel

end Connection
end SpeechWire
