/-
# A shared connection is one connection

As long as all live handles of a pool stand for one connection, it makes no
difference which of them carries a step, only how many there are: the pool
goes the way of a machine that counts its handles (`Counted.step`,
`alike_step`). What that machine does to the connection is what its exchanges
do to a connection that nobody shares, one after another (`counted_each`): a
handle made or given up, an attempt refused, a connection recovered and shared
again leave no trace on it.

Key definitions: `Pool.Shares`, `Counted.step`, `Alike`, `Kept`, `exchanges`.
Key theorems: `alike_step`, `counted_step`, `play_asPlain`.
-/
import SpeechWire.Proofs.Pairing
import SpeechWire.Proofs.Recovery

namespace SpeechWire

/-! ### Actions that only look -/

/-- Whether an action does more than look at the connection. -/
def Action.acts : Action → Bool
  | .info => false
  | _ => true

/-- Whether this is the answer to such an action. -/
def Answer.ofAct : Answer → Bool
  | .info _ _ => false
  | _ => true

namespace Action

theorem ofAct_result_past {τ : Type} {answer : τ → Answer}
    (h : ∀ found, (answer found).ofAct = true) (connection : Connection) :
    ∀ call : Except IoFailure τ × Transport, (past answer connection call).result.ofAct = true
  | (.ok found, _) => h found
  | (.error _, _) => rfl

variable (settings : Settings) (t : Transport)

theorem ofAct_result_run (action : Action) (connection : Connection) :
    (action.run connection t).result.ofAct = action.acts := by
  have hreply : ∀ received : Except Fault Reply, (Answer.ofReply received).ofAct = true := by
    intro received
    cases received <;> rfl
  cases action with
  | identify => exact hreply _
  | send request => exact hreply _
  | push more => rfl
  | rawWrite bytes => exact ofAct_result_past (fun _ => rfl) _ _
  | rawRead room => exact ofAct_result_past (fun _ => rfl) _ _
  | info => rfl

theorem runAll_cons (action : Action) (rest : List Action) :
    runAll (action :: rest) (.new settings) t =
      ((runAll rest (.new settings) (action.run (.new settings) t).transport).mapResult
        ((action.run (.new settings) t).result :: ·)).after
          (action.run (.new settings) t).events := by
  rw [runAll, Outcome.each, state_run_new]

theorem runAll_append (front back : List Action) :
    runAll (front ++ back) (.new settings) t =
      ((runAll back (.new settings) (runAll front (.new settings) t).transport).mapResult
        ((runAll front (.new settings) t).result ++ ·)).after
          (runAll front (.new settings) t).events := by
  have hstate := state_runAll_new front settings t
  rw [runAll] at hstate ⊢
  rw [Outcome.each_append, hstate]

theorem runAll_filter_acts (actions : List Action) :
    runAll (actions.filter acts) (.new settings) t =
      (runAll actions (.new settings) t).mapResult (·.filter Answer.ofAct) := by
  induction actions generalizing t with
  | nil => rfl
  | cons action rest ih =>
    have hanswer := ofAct_result_run t action (.new settings)
    cases hacts : action.acts with
    | true =>
      rw [hacts] at hanswer
      rw [List.filter_cons_of_pos hacts, runAll_cons, runAll_cons, ih]
      simp only [Outcome.after, Outcome.mapResult, List.filter_cons_of_pos hanswer]
    | false =>
      cases action with
      | info => exact ih t
      | identify | send | push | rawWrite | rawRead => cases hacts

end Action

namespace Pool

variable {α : Type} {pool : Pool α} {value handle live : Nat} {a : α}

/-! ### Pools that share one value -/

/-- Whether the live handles of a pool are so many and all stand for the value
`a`, which has the number `value`. -/
structure Shares (pool : Pool α) (value : Nat) (a : α) (live : Nat) : Prop where
  sound : pool.Sound
  only : ∀ handle other, pool.target? handle = some other → other = value
  count : pool.holders value = live
  found : 0 < live → pool.value? value = some a

theorem Shares.target? (h : pool.Shares value a live) (hlive : (pool.get? handle).isSome = true) :
    pool.target? handle = some value := by
  cases hother : pool.target? handle with
  | none =>
    rw [get?_eq, hother] at hlive
    cases hlive
  | some other => rw [h.only handle other hother]

theorem Shares.pos (h : pool.Shares value a live) (hmine : pool.target? handle = some value) :
    0 < live := by
  rw [← h.count, holders_pos_iff]
  exact ⟨handle, hmine⟩

theorem Shares.get? (h : pool.Shares value a live) (hmine : pool.target? handle = some value) :
    pool.get? handle = some a := by
  rw [get?_eq, hmine, Option.bind_some, h.found (h.pos hmine)]

theorem Shares.clone (h : pool.Shares value a live) (hmine : pool.target? handle = some value) :
    (pool.clone handle).2.Shares value a (live + 1) where
  sound := h.sound.clone handle
  only := by
    intro other target hother
    rw [target?_clone] at hother
    split at hother
    · exact h.only handle target hother
    · exact h.only other target hother
  count := by rw [holders_clone, if_pos hmine, h.count]
  found := fun _ => h.found (h.pos hmine)

theorem Shares.put (h : pool.Shares value a live) (hmine : pool.target? handle = some value)
    (b : α) : (pool.put handle b).Shares value b live where
  sound := h.sound.put handle b
  only := by
    intro other target hother
    rw [target?_put] at hother
    exact h.only other target hother
  count := by rw [holders_put, h.count]
  found := by
    intro hpos
    rw [value?_put hmine (by rw [h.found hpos]; rfl), if_pos rfl]

theorem Shares.release (h : pool.Shares value a live) (hmine : pool.target? handle = some value) :
    (pool.release handle).2.Shares value a (live - 1) where
  sound := h.sound.release handle
  only := by
    intro other target hother
    rw [target?_release] at hother
    split at hother
    · cases hother
    · exact h.only other target hother
  count := by rw [holders_release hmine, holders_without hmine, h.count]
  found := by
    intro hpos
    have hleft : (pool.release handle).2.holders value ≠ 0 := by
      rw [holders_release hmine, holders_without hmine, h.count]
      exact Nat.ne_of_gt hpos
    rw [value?_release, if_neg fun hout => hleft hout.2]
    exact h.found (h.pos hmine)

theorem Shares.release_fst (h : pool.Shares value a live)
    (hmine : pool.target? handle = some value) :
    (pool.release handle).1 = if live = 1 then some a else none := by
  have hpos := h.pos hmine
  rw [release_eq hmine, holders_without hmine, h.count]
  by_cases hlast : live = 1
  · rw [if_pos hlast, if_pos (by omega)]
    exact h.found hpos
  · rw [if_neg hlast, if_neg (by omega)]

/-- A value shared where no handle is live is all that is shared. -/
theorem Shares.share (h : pool.Shares value a 0) (b : α) :
    (pool.share b).2.Shares pool.values.length b 1 := by
  have hfree : ∀ target, ¬ pool.Held target := by
    rintro target ⟨other, hother⟩
    obtain rfl := h.only other target hother
    exact Nat.lt_irrefl 0 (h.pos hother)
  refine ⟨h.sound.share b, fun other target hother => ?_, ?_, fun _ => ?_⟩
  · rw [target?_share] at hother
    split at hother
    · exact (Option.some.inj hother).symm
    · exact absurd ⟨other, hother⟩ (hfree target)
  · rw [holders_share, if_pos rfl, (holders_eq_zero_iff _ _).2 (hfree _)]
  · rw [value?_share, if_pos rfl]

theorem shares_empty (a : α) : ({} : Pool α).Shares 0 a 0 where
  sound := sound_empty
  only := fun _ _ h => by simp [Pool.target?] at h
  count := rfl
  found := nofun

end Pool

namespace Sharing

/-! ### Handles that are only counted -/

/-- A connection, and how many handles to it there are. -/
structure Counted where
  connection : Connection
  /-- The handles that are live. -/
  live : Nat
  /-- The handles there ever were. -/
  made : Nat

/-- Carries out a move on any of the live handles. A connection that comes out is
shared again. -/
def Counted.step (move : Move) (counted : Counted) (t : Transport) : Outcome Counted Result :=
  match move with
  | .clone =>
    ⟨.plain (.handle counted.made),
      { counted with live := counted.live + 1, made := counted.made + 1 }, t, []⟩
  | .drop => ⟨.plain .done, { counted with live := counted.live - 1 }, t, []⟩
  | .send request =>
    ((counted.connection.send request t).mapResult (.plain ∘ .ofReply)).mapState
      fun connection => { counted with connection }
  | .hold actions =>
    ((Action.runAll actions counted.connection t).mapResult .each).mapState
      fun connection => { counted with connection }
  | .recover actions _ =>
    if counted.live = 1 then
      ((Action.runAll actions counted.connection t).mapResult
        (.recovered · (.handle counted.made))).mapState
          fun connection => ⟨connection, 1, counted.made + 1⟩
    else ⟨.refused, { counted with live := counted.live - 1 }, t, []⟩

/-- Whether a pool shares the connection with as many handles as were counted. -/
def Tallies (pool : Pool Connection) (counted : Counted) : Prop :=
  (∃ value, pool.Shares value counted.connection counted.live) ∧
    pool.handles.length = counted.made

theorem tallies_opened (connection : Connection) :
    Tallies (opened [connection]) ⟨connection, 1, 1⟩ :=
  ⟨⟨0, (Pool.shares_empty connection).share connection⟩, rfl⟩

/-- Whether the two outcomes cannot be told apart. -/
structure Alike (shared : Outcome (Pool Connection) Result) (counted : Outcome Counted Result) :
    Prop where
  result : shared.result = counted.result
  transport : shared.transport = counted.transport
  events : shared.events = counted.events
  state : Tallies shared.state counted.state

theorem Alike.report {shared : Outcome (Pool Connection) Result}
    {counted : Outcome Counted Result} (h : Alike shared counted) (t : Transport) :
    shared.report t = counted.report t := by
  rw [Outcome.report, h.result, h.transport, h.events, Outcome.report]

/-- Whether the connection is shared again if it comes out. -/
def Move.sharesAgain : Move → Bool
  | .recover _ ending => ending = .share
  | _ => true

/-- The connection comes out to the only handle there is, and to no other. -/
theorem alike_recover {handle value : Nat} {actions : List Action} {ending : Ending}
    {pool : Pool Connection} {counted : Counted}
    (h : pool.Shares value counted.connection counted.live)
    (hmade : pool.handles.length = counted.made) (hmine : pool.target? handle = some value)
    (t : Transport) (hagain : (recover handle actions ending pool t).result.isRecovered = true →
      ending = .share) :
    Alike (recover handle actions ending pool t)
      (Counted.step (.recover actions ending) counted t) := by
  have hout := h.release_fst hmine
  have hrest := h.release hmine
  have hleft : (pool.release handle).2.handles.length = counted.made := by
    rw [Pool.handles_release hmine, List.length_set, hmade]
  rw [Counted.step]
  by_cases hlast : counted.live = 1
  · have hr : pool.release handle = (some counted.connection, (pool.release handle).2) :=
      Prod.ext (hout.trans (if_pos hlast)) rfl
    rw [recover, hr] at hagain ⊢
    obtain rfl := hagain rfl
    -- no handle is left, so what is shared now is all that is shared
    rw [hlast] at hrest
    rw [if_pos hlast]
    refine ⟨?_, rfl, List.append_nil _, ⟨_, hrest.share _⟩, ?_⟩
    · exact congrArg (fun made => Result.recovered _ (.handle made)) hleft
    · exact List.length_append.trans (congrArg (· + 1) hleft)
  · have hr : pool.release handle = (none, (pool.release handle).2) :=
      Prod.ext (hout.trans (if_neg hlast)) rfl
    rw [recover, hr, if_neg hlast]
    exact ⟨rfl, rfl, rfl, ⟨value, hrest⟩, hleft⟩

/-- **What a step does is decided by the move and the count**, and not by the
handle. -/
theorem alike_step {s : Step} {pool : Pool Connection} {counted : Counted}
    (h : Tallies pool counted) (hlive : (pool.get? s.handle).isSome = true) (t : Transport)
    (hagain : (step s pool t).result.isRecovered = true → s.move.sharesAgain = true) :
    Alike (step s pool t) (Counted.step s.move counted t) := by
  obtain ⟨⟨value, hshares⟩, hmade⟩ := h
  obtain ⟨handle, move⟩ := s
  have hmine := hshares.target? hlive
  have hput : ∀ b, (pool.put handle b).handles.length = counted.made := fun b => by
    rw [Pool.handles_put, hmade]
  rw [step, hshares.get? hmine] at hagain ⊢
  cases move with
  | clone =>
    refine ⟨congrArg (Result.plain ∘ Answer.handle) hmade, rfl, rfl,
      ⟨value, hshares.clone hmine⟩, ?_⟩
    exact List.length_append.trans (congrArg (· + 1) hmade)
  | drop =>
    refine ⟨rfl, rfl, rfl, ⟨value, hshares.release hmine⟩, ?_⟩
    exact (congrArg List.length (Pool.handles_release hmine)).trans (List.length_set.trans hmade)
  | send request => exact ⟨rfl, rfl, rfl, ⟨value, hshares.put hmine _⟩, hput _⟩
  | hold actions => exact ⟨rfl, rfl, rfl, ⟨value, hshares.put hmine _⟩, hput _⟩
  | recover actions ending =>
    exact alike_recover hshares hmade hmine t fun hout => of_decide_eq_true (hagain hout)

/-! ### Runs -/

/-- Whether every step is on a live handle, and the connection is shared again
whenever it comes out. -/
def Kept : List Step → Pool Connection → Transport → Prop
  | [], _, _ => True
  | s :: steps, pool, t =>
    (pool.get? s.handle).isSome = true ∧
      ((step s pool t).result.isRecovered = true → s.move.sharesAgain = true) ∧
      Kept steps (step s pool t).state (step s pool t).transport

theorem alike_each {steps : List Step} {pool : Pool Connection} {counted : Counted}
    (h : Tallies pool counted) {t : Transport} (hkept : Kept steps pool t) :
    (Outcome.each step steps pool t).result =
        (Outcome.each Counted.step (steps.map (·.move)) counted t).result ∧
      (Outcome.each step steps pool t).transport =
        (Outcome.each Counted.step (steps.map (·.move)) counted t).transport ∧
      (Outcome.each step steps pool t).events =
        (Outcome.each Counted.step (steps.map (·.move)) counted t).events ∧
      reports step steps pool t = reports Counted.step (steps.map (·.move)) counted t := by
  induction steps generalizing pool counted t with
  | nil => exact ⟨rfl, rfl, rfl, rfl⟩
  | cons s steps ih =>
    obtain ⟨hlive, hagain, hlater⟩ := hkept
    have hfirst := alike_step h hlive t hagain
    obtain ⟨hresult, htransport, hevents, hreports⟩ := ih hfirst.state hlater
    refine ⟨?_, ?_, ?_, ?_⟩
    · show (step s pool t).result :: (Outcome.each step steps _ _).result = _
      rw [hresult, hfirst.result, hfirst.transport]
      rfl
    · show (Outcome.each step steps _ _).transport = _
      rw [htransport, hfirst.transport]
      rfl
    · show (step s pool t).events ++ (Outcome.each step steps _ _).events = _
      rw [hevents, hfirst.events, hfirst.transport]
      rfl
    · show (step s pool t).report t :: reports step steps _ _ = _
      rw [hreports, hfirst.report, hfirst.transport]
      rfl

/-! ### What is left of the moves -/

/-- The actions of a move on a connection with so many handles, without those that
only look at it. -/
def Move.actions (live : Nat) : Move → List Action
  | .clone | .drop => []
  | .send request => [.send request]
  | .hold actions => actions.filter Action.acts
  | .recover actions _ => if live = 1 then actions.filter Action.acts else []

/-- How many handles a move leaves of so many. -/
def Move.leaves (live : Nat) : Move → Nat
  | .clone => live + 1
  | .drop => live - 1
  | .send _ | .hold _ => live
  | .recover _ _ => if live = 1 then 1 else live - 1

/-- The actions of moves one after another. -/
def exchanges : Nat → List Move → List Action
  | _, [] => []
  | live, move :: rest => move.actions live ++ exchanges (move.leaves live) rest

/-- What the actions of a step were answered. -/
def Result.answers : Result → List Answer
  | .plain (.reply reply) => [.reply reply]
  | .plain (.fault fault) => [.fault fault]
  | .plain _ | .refused => []
  | .each answers | .recovered answers _ => answers.filter Answer.ofAct

theorem answers_ofReply : ∀ received : Except Fault Reply,
    Result.answers (.plain (.ofReply received)) = [.ofReply received]
  | .ok _ => rfl
  | .error _ => rfl

/-- **What a move does to the connection is what its actions do.** -/
theorem counted_step (settings : Settings) (move : Move) (live made : Nat) (t : Transport) :
    let counted := Counted.step move ⟨.new settings, live, made⟩ t
    let plain := Action.runAll (move.actions live) (.new settings) t
    counted.result.answers = plain.result ∧ counted.transport = plain.transport ∧
      counted.events = plain.events ∧
      ∃ made', counted.state = ⟨.new settings, move.leaves live, made'⟩ := by
  have hstate := fun actions => Action.state_runAll_new actions settings t
  have hacts : ∀ actions : List Action,
      (Action.runAll actions (.new settings) t).result.filter Answer.ofAct =
          (Action.runAll (actions.filter Action.acts) (.new settings) t).result ∧
        (Action.runAll actions (.new settings) t).transport =
          (Action.runAll (actions.filter Action.acts) (.new settings) t).transport ∧
        (Action.runAll actions (.new settings) t).events =
          (Action.runAll (actions.filter Action.acts) (.new settings) t).events := fun actions => by
    rw [Action.runAll_filter_acts]
    exact ⟨rfl, rfl, rfl⟩
  cases move with
  | clone => exact ⟨rfl, rfl, rfl, made + 1, rfl⟩
  | drop => exact ⟨rfl, rfl, rfl, made, rfl⟩
  | send request =>
    refine ⟨answers_ofReply _, rfl, (List.append_nil _).symm, made, ?_⟩
    exact congrArg (Counted.mk · live made) (Connection.state_send_new settings request t)
  | hold actions =>
    obtain ⟨hanswers, htransport, hevents⟩ := hacts actions
    exact ⟨hanswers, htransport, hevents, made,
      congrArg (Counted.mk · live made) (hstate actions)⟩
  | recover actions ending =>
    obtain ⟨hanswers, htransport, hevents⟩ := hacts actions
    simp only [Counted.step, Move.actions, Move.leaves]
    by_cases hlast : live = 1
    · simp only [if_pos hlast]
      exact ⟨hanswers, htransport, hevents, made + 1,
        congrArg (Counted.mk · 1 (made + 1)) (hstate actions)⟩
    · simp only [if_neg hlast]
      exact ⟨rfl, rfl, rfl, made, rfl⟩

theorem counted_each (settings : Settings) (moves : List Move) (live made : Nat) (t : Transport) :
    let counted := Outcome.each Counted.step moves ⟨.new settings, live, made⟩ t
    let plain := Action.runAll (exchanges live moves) (.new settings) t
    counted.result.flatMap Result.answers = plain.result ∧
      counted.transport = plain.transport ∧ counted.events = plain.events := by
  induction moves generalizing live made t with
  | nil => exact ⟨rfl, rfl, rfl⟩
  | cons move moves ih =>
    obtain ⟨hanswers, htransport, hevents, made', hstate⟩ := counted_step settings move live made t
    have hlater := ih (move.leaves live) made'
      (Counted.step move ⟨.new settings, live, made⟩ t).transport
    simp only [Outcome.each, hstate, exchanges, Action.runAll_append, ← hanswers, ← htransport,
      ← hevents]
    exact ⟨congrArg (_ ++ ·) hlater.1, hlater.2.1, congrArg (_ ++ ·) hlater.2.2⟩

/-- **A shared connection is as one that is not shared.** However its handles
are made, given up and used, and the connection recovered and shared again,
the answers, the record of the transport, what is left on it and the events
are those of the same exchanges on one connection. Which handles carry the
steps makes no difference to any report. -/
theorem play_asPlain (settings : Settings) {steps : List Step} {t : Transport}
    (hkept : Kept steps (opened [.new settings]) t) :
    let shared := play [.new settings] steps t
    let plain := Action.runAll (exchanges 1 (steps.map (·.move))) (.new settings) t
    (shared.result.flatMap Result.answers = plain.result ∧ shared.transport = plain.transport ∧
      shared.events = plain.events) ∧
    ∀ others, others.map (·.move) = steps.map (·.move) →
      Kept others (opened [.new settings]) t → run settings others t = run settings steps t := by
  have htallies := tallies_opened (.new settings)
  obtain ⟨hresult, htransport, hevents, hreports⟩ := alike_each htallies hkept
  refine ⟨?_, fun others hmoves hothers => ?_⟩
  · rw [play, hresult, htransport, hevents]
    exact counted_each settings _ 1 1 t
  · obtain ⟨-, -, -, hreports'⟩ := alike_each htallies hothers
    rw [hmoves] at hreports'
    exact hreports'.trans hreports.symm

/-- A second handle is made, each is used, and both are given up for the
connection; it is shared again and used once more. -/
def handedOn (first second : Nat) : List Step :=
  [⟨0, .clone⟩, ⟨first, .send (.command ⟨"LIST", []⟩)⟩,
    ⟨second, .hold [.info, .send (.data "x")]⟩, ⟨first, .recover [] .share⟩,
    ⟨second, .recover [.identify] .share⟩, ⟨2, .send (.command ⟨"STOP", []⟩)⟩]

/-- Four replies, of which the second is a refusal. -/
def fourReplies : Transport :=
  .ofScript { reads := [.bytes (Utf8.encode "200 a\r\n"), .bytes (Utf8.encode "300 b\r\n"),
    .bytes (Utf8.encode "200 c\r\n"), .bytes (Utf8.encode "200 d\r\n")] }

/-- The four exchanges are those of one connection, whichever handle comes
first. -/
theorem play_asPlain_handedOn :
    Kept (handedOn 0 1) (opened [.new {}]) fourReplies ∧
    Kept (handedOn 1 0) (opened [.new {}]) fourReplies ∧
    (play [.new {}] (handedOn 0 1) fourReplies).result.flatMap Result.answers =
      [.reply ⟨200, "a", []⟩, .fault (.dataRejected 300 "b" "x"),
        .reply ⟨200, "c", []⟩, .reply ⟨200, "d", []⟩] ∧
    run {} (handedOn 1 0) fourReplies = run {} (handedOn 0 1) fourReplies := by
  have hkept : Kept (handedOn 0 1) (opened [.new {}]) fourReplies :=
    ⟨rfl, nofun, rfl, nofun, rfl, nofun, rfl, nofun, rfl, fun _ => rfl, rfl, nofun, trivial⟩
  have hother : Kept (handedOn 1 0) (opened [.new {}]) fourReplies :=
    ⟨rfl, nofun, rfl, nofun, rfl, nofun, rfl, nofun, rfl, fun _ => rfl, rfl, nofun, trivial⟩
  obtain ⟨⟨hanswers, -, -⟩, hwhich⟩ := play_asPlain {} hkept
  refine ⟨hkept, hother, hanswers.trans ?_, hwhich _ rfl hother⟩
  decide +kernel

end Sharing
end SpeechWire
