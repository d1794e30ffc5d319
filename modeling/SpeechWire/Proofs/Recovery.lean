/-
# Who gets the connection back

What a step does to the handles is one of a few effects (`effect_step`), and
what is shown of a pool is shown of each effect, then of every run. Who asks
for a connection through a handle gets it if the handle is the last, and gives
the handle up either way (`asked_step`). The attempts to get one connection
back are all refused, or all but the last (`attempts_cases`): it goes with its
last handle, so it comes out once at most, and a drop is the only other way in
which it goes.

Key definitions: `Effect`, `play`, `attempts`, `Asked`.
Key theorems: `effect_step`, `attempts_cases`, `asked_step`,
`handles_accounted`.
-/
import SpeechWire.Proofs.Handles
import SpeechWire.Proofs.Renewal
import SpeechWire.Sharing

namespace SpeechWire
namespace Sharing

/-! ### What a step does to the handles -/

/-- Whether the connection came out. -/
def Result.isRecovered : Result → Bool
  | .recovered _ _ => true
  | _ => false

/-- Whether the handle is given up for the connection. -/
def Move.asks : Move → Bool
  | .recover _ _ => true
  | _ => false

/-- What a step can do to the pool, and what it then answers. -/
inductive Effect (s : Step) (pool : Pool Connection) : Result → Pool Connection → Prop
  | nothing {result : Result} (hidle : pool.get? s.handle = none) : Effect s pool result pool
  | cloned {result : Result} (hmove : s.move = .clone) :
    Effect s pool result (pool.clone s.handle).2
  | dropped {result : Result} (hmove : s.move = .drop) :
    Effect s pool result (pool.release s.handle).2
  | used {result : Result} (hasks : s.move.asks = false) (connection : Connection) :
    Effect s pool result (pool.put s.handle connection)
  | refused (hasks : s.move.asks = true) (hnone : (pool.release s.handle).1 = none) :
    Effect s pool .refused (pool.release s.handle).2
  | recovered {answers : List Answer} {answer : Answer} (hasks : s.move.asks = true)
    (hsome : (pool.release s.handle).1.isSome = true) :
    Effect s pool (.recovered answers answer) (pool.release s.handle).2
  | sharedAgain {answers : List Answer} {answer : Answer} (hasks : s.move.asks = true)
    (hsome : (pool.release s.handle).1.isSome = true) (connection : Connection) :
    Effect s pool (.recovered answers answer) ((pool.release s.handle).2.share connection).2

theorem step_of_get?_eq_none {s : Step} {pool : Pool Connection} (h : pool.get? s.handle = none)
    (t : Transport) : step s pool t = ⟨.plain .noConnection, pool, t, []⟩ := by
  rw [step, h]

theorem effect_recover (handle : Nat) (actions : List Action) (ending : Ending)
    (pool : Pool Connection) (t : Transport) :
    Effect ⟨handle, .recover actions ending⟩ pool (recover handle actions ending pool t).result
      (recover handle actions ending pool t).state := by
  unfold recover
  split
  · next rest hr =>
    obtain rfl : (pool.release handle).2 = rest := congrArg Prod.snd hr
    exact .refused rfl (congrArg Prod.fst hr)
  · next connection rest hr =>
    obtain rfl : (pool.release handle).2 = rest := congrArg Prod.snd hr
    have hsome : (pool.release handle).1.isSome = true := by rw [hr]; rfl
    cases ending with
    | share => exact .sharedAgain rfl hsome _
    | close => exact .recovered rfl hsome
    | discard => exact .recovered rfl hsome

/-- **Every step has one of these effects.** -/
theorem effect_step (s : Step) (pool : Pool Connection) (t : Transport) :
    Effect s pool (step s pool t).result (step s pool t).state := by
  cases h : pool.get? s.handle with
  | none =>
    rw [step_of_get?_eq_none h]
    exact .nothing h
  | some connection =>
    obtain ⟨handle, move⟩ := s
    rw [step, h]
    cases move with
    | clone => exact .cloned rfl
    | drop => exact .dropped rfl
    | send request => exact .used rfl _
    | hold actions => exact .used rfl _
    | recover actions ending => exact effect_recover handle actions ending pool t

section
variable {s : Step} {pool pool' : Pool Connection} {result : Result}

theorem Effect.sound (h : Effect s pool result pool') (hsound : pool.Sound) : pool'.Sound := by
  cases h with
  | nothing => exact hsound
  | cloned => exact hsound.clone _
  | dropped | refused | recovered => exact hsound.release _
  | used _ connection => exact hsound.put _ connection
  | sharedAgain _ _ connection => exact (hsound.release _).share connection

theorem Effect.usedUp {handle : Nat} (h : Effect s pool result pool') (hused : pool.UsedUp handle) :
    pool'.UsedUp handle := by
  cases h with
  | nothing => exact hused
  | cloned => exact hused.clone _
  | dropped | refused | recovered => exact hused.release _
  | used _ connection => exact hused.put _ connection
  | sharedAgain _ _ connection => exact (hused.release _).share connection

/-- A connection that is asked for is gone afterwards if it comes out, and else it
is still there. -/
theorem Effect.gone_iff_of_asks {value : Nat} (h : Effect s pool result pool')
    (hsound : pool.Sound) (hasks : s.move.asks = true) (hmine : pool.target? s.handle = some value) :
    pool'.Gone value ↔ result.isRecovered = true := by
  have hout := Pool.gone_release_of_target? hsound hmine
  cases h with
  | nothing hidle =>
    obtain ⟨connection, -, hfound⟩ := Pool.get?_of_sound hsound hmine
    rw [hidle] at hfound
    cases hfound
  | cloned hmove | dropped hmove =>
    rw [hmove] at hasks
    cases hasks
  | used hnot =>
    rw [hnot] at hasks
    cases hasks
  | refused _ hnone =>
    rw [hout, hnone]
    rfl
  | recovered _ hsome =>
    rw [hout]
    exact iff_of_true hsome rfl
  | sharedAgain _ hsome =>
    rw [Pool.gone_share_iff, hout]
    exact iff_of_true hsome rfl

/-- A connection that is not asked for does not go, unless a handle is dropped. -/
theorem Effect.gone_iff_of_not_asks {value : Nat} (h : Effect s pool result pool')
    (hdrop : s.move ≠ .drop) (hnot : ¬ (s.move.asks = true ∧ pool.target? s.handle = some value)) :
    pool'.Gone value ↔ pool.Gone value := by
  have hother : s.move.asks = true → pool.target? s.handle ≠ some value :=
    fun hasks hmine => hnot ⟨hasks, hmine⟩
  cases h with
  | nothing => rfl
  | cloned => exact Pool.gone_clone_iff _ _ _
  | dropped hmove => exact absurd hmove hdrop
  | used => exact Pool.gone_put_iff _ _ _ _
  | refused hasks | recovered hasks => exact Pool.gone_release_of_ne (hother hasks)
  | sharedAgain hasks =>
    rw [Pool.gone_share_iff]
    exact Pool.gone_release_of_ne (hother hasks)

theorem Effect.gone {value : Nat} (h : Effect s pool result pool') (hgone : pool.Gone value) :
    pool'.Gone value := by
  have hfree : ∀ handle, pool.target? handle ≠ some value := not_exists.1 hgone.2
  cases h with
  | nothing => exact hgone
  | cloned => exact (Pool.gone_clone_iff _ _ _).2 hgone
  | dropped | refused | recovered => exact (Pool.gone_release_of_ne (hfree _)).2 hgone
  | used => exact (Pool.gone_put_iff _ _ _ _).2 hgone
  | sharedAgain =>
    exact (Pool.gone_share_iff _ _ _).2 ((Pool.gone_release_of_ne (hfree _)).2 hgone)

end

/-! ### Runs -/

/-- A pool in which each of the connections is shared by one handle. -/
def opened (connections : List Connection) : Pool Connection :=
  connections.foldl (fun pool connection => (pool.share connection).2) {}

/-- Steps on these connections, as one. -/
def play (connections : List Connection) (steps : List Step) (t : Transport) :
    Outcome (Pool Connection) (List Result) :=
  Outcome.each step steps (opened connections) t

/-- What each attempt in a run to recover the connection `value` came to. -/
def attempts (value : Nat) : List Step → Pool Connection → Transport → List Bool
  | [], _, _ => []
  | s :: steps, pool, t =>
    let done := step s pool t
    let later := attempts value steps done.state done.transport
    if s.move.asks = true ∧ pool.target? s.handle = some value then
      done.result.isRecovered :: later
    else later

theorem sound_foldl_share (connections : List Connection) {pool : Pool Connection}
    (h : pool.Sound) :
    (connections.foldl (fun pool connection => (pool.share connection).2) pool).Sound := by
  induction connections generalizing pool with
  | nil => exact h
  | cons connection connections ih => exact ih (h.share connection)

theorem sound_opened (connections : List Connection) : (opened connections).Sound :=
  sound_foldl_share connections Pool.sound_empty

theorem gone_foldl_share_iff (connections : List Connection) (pool : Pool Connection)
    (value : Nat) :
    (connections.foldl (fun pool connection => (pool.share connection).2) pool).Gone value ↔
      pool.Gone value := by
  induction connections generalizing pool with
  | nil => rfl
  | cons connection connections ih => exact (ih _).trans (Pool.gone_share_iff pool connection value)

theorem not_gone_opened (connections : List Connection) (value : Nat) :
    ¬ (opened connections).Gone value := by
  rw [opened, gone_foldl_share_iff]
  exact fun h => Nat.not_lt_zero value h.1

section
variable {pool : Pool Connection}

theorem sound_each (steps : List Step) (h : pool.Sound) (t : Transport) :
    (Outcome.each step steps pool t).state.Sound := by
  induction steps generalizing pool t with
  | nil => exact h
  | cons s steps ih => exact ih ((effect_step s pool t).sound h) _

theorem usedUp_each {handle : Nat} (steps : List Step) (h : pool.UsedUp handle) (t : Transport) :
    (Outcome.each step steps pool t).state.UsedUp handle := by
  induction steps generalizing pool t with
  | nil => exact h
  | cons s steps ih => exact ih ((effect_step s pool t).usedUp h) _

theorem gone_each {value : Nat} (steps : List Step) (h : pool.Gone value) (t : Transport) :
    (Outcome.each step steps pool t).state.Gone value ∧ attempts value steps pool t = [] := by
  induction steps generalizing pool t with
  | nil => exact ⟨h, rfl⟩
  | cons s steps ih =>
    obtain ⟨hgone, hnone⟩ := ih ((effect_step s pool t).gone h) (step s pool t).transport
    refine ⟨hgone, ?_⟩
    rw [attempts, if_neg fun hasked => h.2 ⟨_, hasked.2⟩]
    exact hnone

/-- **A connection is recovered once at most, and last.** All attempts before
are refused. If the connection is gone and none succeeded, a handle was
dropped. -/
theorem attempts_cases (value : Nat) (steps : List Step) (hsound : pool.Sound)
    (hthere : ¬ pool.Gone value) (t : Transport) : ∃ refused,
      (attempts value steps pool t = List.replicate refused false ∧
        ((Outcome.each step steps pool t).state.Gone value → ∃ s ∈ steps, s.move = .drop)) ∨
      (attempts value steps pool t = List.replicate refused false ++ [true] ∧
        (Outcome.each step steps pool t).state.Gone value) := by
  induction steps generalizing pool t with
  | nil => exact ⟨0, .inl ⟨rfl, fun h => absurd h hthere⟩⟩
  | cons s steps ih =>
    have heffect := effect_step s pool t
    have hnext := ih (heffect.sound hsound)
    by_cases hasked : s.move.asks = true ∧ pool.target? s.handle = some value
    · have hgone := heffect.gone_iff_of_asks hsound hasked.1 hasked.2
      rw [attempts, if_pos hasked]
      cases hout : (step s pool t).result.isRecovered with
      | true =>
        obtain ⟨hlast, hnone⟩ := gone_each steps (hgone.2 hout) (step s pool t).transport
        refine ⟨0, .inr ⟨?_, hlast⟩⟩
        rw [hnone]
        rfl
      | false =>
        obtain ⟨refused, ⟨hall, hdrop⟩ | ⟨hall, hlast⟩⟩ :=
          hnext (fun h => by rw [hgone.1 h] at hout; cases hout) (step s pool t).transport
        · refine ⟨refused + 1, .inl ⟨?_, fun h => ?_⟩⟩
          · rw [hall, List.replicate_succ]
          · obtain ⟨other, hother, hmove⟩ := hdrop h
            exact ⟨other, List.mem_cons_of_mem s hother, hmove⟩
        · refine ⟨refused + 1, .inr ⟨?_, hlast⟩⟩
          rw [hall, List.replicate_succ, List.cons_append]
    · rw [attempts, if_neg hasked]
      by_cases hgone : (step s pool t).state.Gone value
      · -- nobody asked for it, so its last handle was dropped
        have hdrop : s.move = .drop := Classical.byContradiction fun hne =>
          hthere ((heffect.gone_iff_of_not_asks hne hasked).1 hgone)
        exact ⟨0, .inl ⟨(gone_each steps hgone _).2, fun _ => ⟨s, List.mem_cons_self, hdrop⟩⟩⟩
      · obtain ⟨refused, ⟨hall, hdrop⟩ | hall⟩ := hnext hgone (step s pool t).transport
        · refine ⟨refused, .inl ⟨hall, fun h => ?_⟩⟩
          obtain ⟨other, hother, hmove⟩ := hdrop h
          exact ⟨other, List.mem_cons_of_mem s hother, hmove⟩
        · exact ⟨refused, .inr hall⟩

end

/-! ### Asking for a connection -/

/-- What asking for the connection `value` through the live handle `handle` of a
pool comes to. -/
structure Asked (pool : Pool Connection) (t : Transport) (handle value : Nat)
    (actions : List Action) (asked : Outcome (Pool Connection) Result) : Prop where
  /-- It comes out if no other live handle stands for it, and only then. -/
  recovered_iff : asked.result.isRecovered = true ↔
    ∀ other, other ≠ handle → pool.target? other ≠ some value
  /-- What comes out is the connection itself. -/
  recovered : asked.result.isRecovered = true → ∃ connection answer,
    pool.get? handle = some connection ∧
      asked.result = .recovered (Action.runAll actions connection t).result answer
  /-- Otherwise nothing is done, and the other handles find what they found. -/
  refused : asked.result.isRecovered = false → asked.result = .refused ∧ asked.transport = t ∧
    ∀ other, other ≠ handle → asked.state.get? other = pool.get? other
  /-- Those that stand for the connection find it as it was. -/
  usable : asked.result.isRecovered = false → ∀ other, other ≠ handle →
    pool.target? other = some value →
      ∃ connection, pool.get? handle = some connection ∧ asked.state.get? other = some connection
  /-- The handle is given up in any case. -/
  usedUp : asked.state.UsedUp handle

theorem asked_step {pool : Pool Connection} (hsound : pool.Sound) {handle value : Nat}
    (hmine : pool.target? handle = some value) (actions : List Action) (ending : Ending)
    (t : Transport) :
    Asked pool t handle value actions (step ⟨handle, .recover actions ending⟩ pool t) := by
  obtain ⟨connection, hvalue, hfound⟩ := Pool.get?_of_sound hsound hmine
  have hout := Pool.isSome_release_iff hsound hmine
  have hused := Pool.usedUp_release hmine
  have hstep : step ⟨handle, .recover actions ending⟩ pool t =
      recover handle actions ending pool t := by rw [step, hfound]
  rw [hstep, recover]
  split
  · next rest hr =>
    have hnone : (pool.release handle).1 = none := by rw [hr]
    rw [hnone] at hout
    obtain rfl : (pool.release handle).2 = rest := by rw [hr]
    have hothers : ∀ other, other ≠ handle →
        (pool.release handle).2.get? other = pool.get? other :=
      fun other => Pool.get?_release_of_eq_none hnone
    refine ⟨hout, nofun, fun _ => ⟨rfl, rfl, hothers⟩, fun _ other hne hother => ?_, hused⟩
    refine ⟨connection, hfound, (hothers other hne).trans ?_⟩
    rw [Pool.get?_eq, hother, Option.bind_some, hvalue]
  · next found rest hr =>
    have hsome : (pool.release handle).1 = some found := by rw [hr]
    obtain rfl : (pool.release handle).2 = rest := by rw [hr]
    obtain rfl : found = connection := by
      rw [Pool.get?_of_release hsome] at hfound
      exact Option.some.inj hfound
    rw [hsome] at hout
    refine ⟨hout, fun _ => ⟨_, _, hfound, rfl⟩, nofun, nofun, ?_⟩
    cases ending with
    | share => exact hused.share _
    | close => exact hused
    | discard => exact hused

theorem play_append (connections : List Connection) (steps later : List Step) (t : Transport) :
    (play connections (steps ++ later) t).state =
        (Outcome.each step later (play connections steps t).state
          (play connections steps t).transport).state ∧
      (play connections (steps ++ later) t).transport =
        (Outcome.each step later (play connections steps t).state
          (play connections steps t).transport).transport := by
  rw [play, Outcome.each_append]
  exact ⟨rfl, rfl⟩

/-- **Handles are accounted for.** After any steps on any connections: asking
for a connection through a live handle gets it if no other live handle stands
for it, and gives the handle up in any case; a handle given up does nothing
for ever; a connection comes out once at most, and is there as long as it has
a live handle. If no handle is dropped, every connection that has no handle
left was recovered, by the last attempt of all, and any other is still there. -/
theorem handles_accounted (connections : List Connection) (steps : List Step) (t : Transport) :
    (∀ handle value actions ending,
      (play connections steps t).state.target? handle = some value →
        Asked (play connections steps t).state (play connections steps t).transport handle value
          actions (step ⟨handle, .recover actions ending⟩ (play connections steps t).state
            (play connections steps t).transport)) ∧
    (∀ handle, (play connections steps t).state.UsedUp handle → ∀ later move,
      step ⟨handle, move⟩ (play connections (steps ++ later) t).state
          (play connections (steps ++ later) t).transport =
        ⟨.plain .noConnection, (play connections (steps ++ later) t).state,
          (play connections (steps ++ later) t).transport, []⟩) ∧
    (∀ value, (attempts value steps (opened connections) t).count true ≤ 1) ∧
    (∀ value, ((play connections steps t).state.value? value).isSome = true ↔
      0 < (play connections steps t).state.holders value) ∧
    ((∀ s ∈ steps, s.move ≠ .drop) → ∀ value < (play connections steps t).state.values.length,
      ∃ refused, attempts value steps (opened connections) t =
        List.replicate refused false ++
          if (play connections steps t).state.holders value = 0 then [true] else []) := by
  have hopened := sound_opened connections
  have hsound : (play connections steps t).state.Sound := sound_each steps hopened t
  have hcases := fun value =>
    attempts_cases value steps hopened (not_gone_opened connections value) t
  refine ⟨fun handle value actions ending hmine => asked_step hsound hmine actions ending _,
    fun handle hused later move => ?_, fun value => ?_, fun value => ?_,
    fun hdrop value hlt => ?_⟩
  · obtain ⟨hstate, htransport⟩ := play_append connections steps later t
    rw [hstate, htransport]
    exact step_of_get?_eq_none (usedUp_each later hused _).get?_eq_none _
  · obtain ⟨refused, ⟨hall, -⟩ | ⟨hall, -⟩⟩ := hcases value
    · rw [hall, List.count_replicate, if_neg (by decide)]
      exact Nat.zero_le 1
    · rw [hall, List.count_append, List.count_replicate, if_neg (by decide)]
      exact Nat.le_refl 1
  · rw [hsound value, Pool.holders_pos_iff]
  · obtain ⟨refused, ⟨hall, hdropped⟩ | ⟨hall, hgone⟩⟩ := hcases value
    · have hheld : (play connections steps t).state.holders value ≠ 0 := fun hzero => by
        obtain ⟨s, hs, hmove⟩ := hdropped ⟨hlt, (Pool.holders_eq_zero_iff _ _).1 hzero⟩
        exact hdrop s hs hmove
      exact ⟨refused, by rw [hall, if_neg hheld, List.append_nil]⟩
    · have hzero : (play connections steps t).state.holders value = 0 :=
        (Pool.holders_eq_zero_iff _ _).2 hgone.2
      exact ⟨refused, by rw [hall, if_pos hzero]⟩

/-- A connection with two handles is asked for through each, and shared again. -/
def askedTwice : List Step :=
  [⟨0, .clone⟩, ⟨0, .recover [] .share⟩, ⟨1, .recover [] .share⟩]

/-- The first attempt is refused and the second gets it. Its new handle gets it
again, and the first handle nothing, whatever is done next. -/
theorem handles_accounted_askedTwice :
    attempts 0 askedTwice (opened [.new {}]) {} = [false, true] ∧
    (∃ refused, attempts 0 askedTwice (opened [.new {}]) {} =
      List.replicate refused false ++ [true]) ∧
    Asked (play [.new {}] askedTwice {}).state (play [.new {}] askedTwice {}).transport 2 1 []
      (step ⟨2, .recover [] .discard⟩ (play [.new {}] askedTwice {}).state
        (play [.new {}] askedTwice {}).transport) ∧
    ∀ later move, (step ⟨0, move⟩ (play [.new {}] (askedTwice ++ later) {}).state
      (play [.new {}] (askedTwice ++ later) {}).transport).result = .plain .noConnection := by
  obtain ⟨hasked, hused, -, -, hlast⟩ := handles_accounted [.new {}] askedTwice {}
  have hdrop : ∀ s ∈ askedTwice, s.move ≠ .drop := by simp [askedTwice]
  exact ⟨rfl, hlast hdrop 0 (by decide), hasked 2 1 [] .discard rfl,
    fun later move => congrArg Outcome.result (hused 0 rfl later move)⟩

end Sharing
end SpeechWire
