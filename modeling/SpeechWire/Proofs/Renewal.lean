/-
# A connection keeps nothing between its operations

Between two steps of a session the connection may be given up and a new one put
on its transport, and nothing that comes later can tell
(`Session.run_renewed`): no result, no byte written, no call on the transport
and no event is another.

Two things could tell a connection that was used from a new one. It could hold
bytes of a frame that it did not come to the end of; but however a frame ends
they are dropped, so that at every point of a session the connection there is
a new one (`Session.asNew_play`). And the space that its reads fill could hold
bytes of earlier reads; but no frame has a byte that its own reads did not put
there (`Assembler.gatherThrough_eq`).

Key definitions: `Transport.Filled`, `Assembler.gatherThrough`,
`Session.play`, `Session.AsNew`.
Key theorems: `Assembler.gatherThrough_eq`, `Session.asNew_step`,
`Session.asNew_play`, `Session.run_renewed`.
-/
import SpeechWire.Proofs.Reading
import SpeechWire.Session

namespace SpeechWire

/-! ### A space that reads fill -/

namespace Transport

/-- What one read into a space leaves: how many bytes it brought, the space with
them in front of what was left there, and the transport. -/
structure Filled where
  found : Except IoFailure Nat
  space : List UInt8
  after : Transport

/-- The bytes that were read, copied from the space. -/
def Filled.copied (filled : Filled) : Except IoFailure (List UInt8) :=
  filled.found.map fun n => filled.space.take n

/-- One read into a space that is used again and again. -/
def readInto (space : List UInt8) (t : Transport) : Filled :=
  match t.read space.length with
  | (.error failure, after) => ⟨.error failure, space, after⟩
  | (.ok bytes, after) => ⟨.ok bytes.length, bytes ++ space.drop bytes.length, after⟩

theorem read_of_readInto (space : List UInt8) (t : Transport) :
    t.read space.length = ((t.readInto space).copied, (t.readInto space).after) ∧
      (t.readInto space).space.length = space.length := by
  unfold readInto
  split
  · next hread => exact ⟨hread, rfl⟩
  · next bytes _ hread =>
    have hle := length_le_of_read hread
    refine ⟨?_, ?_⟩
    · rw [hread, Filled.copied, Except.map, List.take_left]
    · rw [List.length_append, List.length_drop]
      omega

end Transport

namespace Assembler

/-- Gathering by reads into one space: the bytes of a read are copied from it
before the next. -/
def gatherThrough (space : List UInt8) (assembler : Assembler) (transport : Transport) :
    Outcome (Assembler × List UInt8) (Except Fault (List UInt8)) :=
  let filled := transport.readInto space
  match _ : absorb assembler.limit assembler.buffer filled.copied with
  | .finished result events => ⟨result, (assembler.clear, filled.space), filled.after, events⟩
  | .underway buffer => gatherThrough filled.space { assembler with buffer } filled.after
termination_by transport.backlog
decreasing_by
  exact Transport.backlog_read_lt (Transport.read_of_readInto space transport).1
    (ne_nil_of_absorb ‹_›)

/-- **No byte but those just read is seen of the space**, whatever it holds. -/
theorem gatherThrough_eq (space : List UInt8) (assembler : Assembler) (t : Transport)
    (hspace : space.length = assembler.room) :
    (gatherThrough space assembler t).mapState Prod.fst = assembler.gather t := by
  fun_induction gatherThrough space assembler t with
  | case1 space assembler t filled result events habsorb =>
    have hread := (Transport.read_of_readInto space t).1
    rw [hspace] at hread
    rw [gather_of_finished hread habsorb]
    rfl
  | case2 space assembler t filled buffer habsorb ih =>
    obtain ⟨hread, hlength⟩ := Transport.read_of_readInto space t
    rw [hspace] at hread
    rw [gather_of_underway hread habsorb]
    exact ih (hlength.trans hspace)

/-- Reads one frame through a space. -/
def readFrameThrough (space : List UInt8) (assembler : Assembler) (transport : Transport) :
    Outcome (Assembler × List UInt8) (Except Fault (List UInt8)) :=
  gatherThrough space assembler.clear transport

end Assembler

/-! ### Runs in two parts -/

section
variable {ι σ ρ : Type} (step : ι → σ → Transport → Outcome σ ρ)

theorem Outcome.each_append (front back : List ι) (state : σ) (t : Transport) :
    Outcome.each step (front ++ back) state t =
      ((Outcome.each step back (Outcome.each step front state t).state
          (Outcome.each step front state t).transport).mapResult
        ((Outcome.each step front state t).result ++ ·)).after
          (Outcome.each step front state t).events := by
  induction front generalizing state t with
  | nil => rfl
  | cons i front ih =>
    rw [List.cons_append, Outcome.each, ih]
    simp only [Outcome.each, mapResult, after, List.cons_append, List.append_assoc]

theorem reports_append (front back : List ι) (state : σ) (t : Transport) :
    reports step (front ++ back) state t =
      reports step front state t ++
        reports step back (Outcome.each step front state t).state
          (Outcome.each step front state t).transport := by
  induction front generalizing state t with
  | nil => rfl
  | cons i front ih => exact congrArg (_ :: ·) (ih _ _)

end

namespace Session

/-- The steps of a session as one. -/
def play (settings : Settings) (steps : List Step) (t : Transport) :
    Outcome (Option Connection) (List Answer) :=
  Outcome.each (step settings) steps none t

variable {settings : Settings}

theorem run_append (settings : Settings) (before later : List Step) (t : Transport) :
    run settings (before ++ later) t = run settings before t ++
      reports (step settings) later (play settings before t).state
        (play settings before t).transport :=
  reports_append _ before later none t

theorem play_append (settings : Settings) (before later : List Step) (t : Transport) :
    (play settings (before ++ later) t).state =
        (Outcome.each (step settings) later (play settings before t).state
          (play settings before t).transport).state ∧
      (play settings (before ++ later) t).transport =
        (Outcome.each (step settings) later (play settings before t).state
          (play settings before t).transport).transport := by
  rw [play, Outcome.each_append]
  exact ⟨rfl, rfl⟩

/-! ### Every connection of a session is as new -/

/-- There is no connection, or it has nothing that a new one has not. -/
def AsNew (settings : Settings) (connection : Option Connection) : Prop :=
  ∀ c ∈ connection, c = .new settings

theorem asNew_none : AsNew settings none := nofun

theorem asNew_new : AsNew settings (some (.new settings)) :=
  fun _ h => (Option.some.inj h).symm

/-- **Whatever a step comes to, it leaves no connection or one as new.** -/
theorem asNew_step {connection : Option Connection} (h : AsNew settings connection) (s : Step)
    (t : Transport) : AsNew settings (step settings s connection t).state := by
  cases s with
  | new => exact asNew_new
  | establish =>
    show AsNew settings (Connection.welcome _).state
    unfold Connection.welcome
    split
    · exact asNew_none
    · exact fun c hc => (Option.some.inj hc).symm.trans (Connection.state_send_new settings _ t)
  | close =>
    cases connection with
    | none => exact asNew_none
    | some connection => exact asNew_none
  | takeBack =>
    cases connection with
    | none => exact asNew_none
    | some connection => exact asNew_none
  | act action =>
    cases connection with
    | none => exact asNew_none
    | some connection =>
      obtain rfl := h connection rfl
      exact fun c hc => (Option.some.inj hc).symm.trans (Action.state_run_new action settings t)

theorem asNew_each (steps : List Step) {connection : Option Connection}
    (h : AsNew settings connection) (t : Transport) :
    AsNew settings (Outcome.each (step settings) steps connection t).state := by
  induction steps generalizing connection t with
  | nil => exact h
  | cons s steps ih => exact ih (asNew_step h s t) _

/-- **At every point of a session the connection there is as new.** -/
theorem asNew_play (settings : Settings) (steps : List Step) (t : Transport) :
    AsNew settings (play settings steps t).state :=
  asNew_each steps asNew_none t

/-! ### A new connection in place of the one there is -/

/-- The connection there is given up, and a new one put on its transport. -/
def renewal : List Step := [.takeBack, .new]

/-- What is seen of a renewal: it does nothing to the transport and records
nothing. -/
def seenOfRenewal (t : Transport) : List (Report Answer) :=
  [⟨.unread t.unread, [], 0, 0, t.unread, []⟩, ⟨.done, [], 0, 0, t.unread, []⟩]

theorem reports_renewal (connection : Connection) (later : List Step) (t : Transport) :
    reports (step settings) (renewal ++ later) (some connection) t =
      seenOfRenewal t ++ reports (step settings) later (some (.new settings)) t := by
  simp [renewal, seenOfRenewal, reports, step, Outcome.report]

theorem each_renewal (connection : Connection) (later : List Step) (t : Transport) :
    (Outcome.each (step settings) (renewal ++ later) (some connection) t).state =
        (Outcome.each (step settings) later (some (.new settings)) t).state ∧
      (Outcome.each (step settings) (renewal ++ later) (some connection) t).transport =
        (Outcome.each (step settings) later (some (.new settings)) t).transport :=
  ⟨rfl, rfl⟩

/-- **A connection keeps nothing between its operations.** After any steps a new
connection may be put on the transport of the one there: the reports of what
was done before and of what is done later are the same, and so is what becomes
of the transport. The space that the reads of the old connection filled is not
missed either: whatever it holds, frames are read as the new one reads them. -/
theorem run_renewed {before : List Step} {t : Transport}
    (there : (play settings before t).state.isSome = true) (later : List Step) :
    (∃ rest, run settings (before ++ later) t = run settings before t ++ rest ∧
      run settings (before ++ (renewal ++ later)) t =
        run settings before t ++
          (seenOfRenewal (play settings before t).transport ++ rest)) ∧
    (play settings (before ++ (renewal ++ later)) t).state =
      (play settings (before ++ later) t).state ∧
    (play settings (before ++ (renewal ++ later)) t).transport =
      (play settings (before ++ later) t).transport ∧
    ∀ connection ∈ (play settings before t).state, ∀ space : List UInt8,
      space.length = connection.assembler.room → ∀ u : Transport,
        (connection.assembler.readFrameThrough space u).mapState Prod.fst =
          (Connection.new settings).assembler.readFrame u := by
  obtain ⟨connection, hc⟩ := Option.isSome_iff_exists.1 there
  obtain rfl := asNew_play settings before t connection hc
  refine ⟨⟨_, run_append settings before later t, ?_⟩, ?_, ?_, ?_⟩
  · rw [run_append, hc, reports_renewal]
  · rw [(play_append settings before _ t).1, (play_append settings before _ t).1, hc]
    exact (each_renewal _ later _).1
  · rw [(play_append settings before _ t).2, (play_append settings before _ t).2, hc]
    exact (each_renewal _ later _).2
  · intro connection hconnection space hspace u
    obtain rfl := asNew_play settings before t connection hconnection
    exact Assembler.gatherThrough_eq space _ u hspace

/-- A new connection and one request. -/
def oneCommand : List Step := [.new, .act (.send (.command ⟨"LIST", []⟩))]

/-- The read for that request fails inside a line that announces another. -/
def cutReply : Transport :=
  .ofScript { reads := [.bytes (Utf8.encode "250-a"), .failure ⟨.timedOut, "late"⟩,
    .bytes (Utf8.encode "250 OK\r\n")] }

/-- No byte of that line is left: what comes next is the same with a new
connection. -/
theorem run_renewed_cutReply :
    (play {} oneCommand cutReply).state.isSome = true ∧
    ∃ rest, rest.map Report.result = [.reply ⟨250, "OK", []⟩] ∧
      run {} (oneCommand ++ (renewal ++ [.act (.send (.command ⟨"STOP", []⟩))])) cutReply =
        run {} oneCommand cutReply ++
          (seenOfRenewal (play {} oneCommand cutReply).transport ++ rest) := by
  have there : (play {} oneCommand cutReply).state.isSome = true := rfl
  obtain ⟨⟨rest, hrun, hrenewed⟩, -⟩ := run_renewed there [.act (.send (.command ⟨"STOP", []⟩))]
  refine ⟨there, rest, ?_, hrenewed⟩
  have hbefore : (run {} oneCommand cutReply).map Report.result =
      [.done, .fault (.io ⟨.timedOut, "late"⟩)] := by decide +kernel
  have hall : (run {} (oneCommand ++ [.act (.send (.command ⟨"STOP", []⟩))]) cutReply).map
      Report.result = [.done, .fault (.io ⟨.timedOut, "late"⟩)] ++ [.reply ⟨250, "OK", []⟩] := by
    decide +kernel
  rw [hrun, List.map_append, hbefore] at hall
  exact List.append_cancel_left hall

end Session
end SpeechWire
