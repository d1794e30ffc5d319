/-
# Settings are made by the last choices

A choice replaces one setting and leaves the other four alone. So choices of
different settings can be made in either order, a choice that is made again
later has no effect whatever is chosen between, and a list of choices comes to
the last value it gives to each setting (`valueOf_foldl_choose`). The settings are
judged once, after the last choice, by three conditions in order. The third is
judged on the whole identity and is about the two names alone: what stands
between them is no white space.

Key definitions: `Settings.Choice.Field`, `Settings.latest`,
`Settings.Condition`, `Settings.firstUnmet?`.
Key theorems: `Settings.foldl_choose_again`, `Settings.valueOf_foldl_choose`,
`Settings.issue?_eq`, `Settings.not_blank_of_build`,
`Settings.build_follows_last_choices`.
-/
import SpeechWire.Settings

namespace SpeechWire
namespace Settings

/-! ### What a choice is about -/

/-- What a choice can be about. -/
inductive Choice.Field where
  | bufferSize
  | replyLimit
  | clientName
  | connectionName
  | politeClose
deriving Repr, DecidableEq

/-- The values that there are for it. -/
def Choice.Field.Value : Choice.Field → Type
  | .bufferSize | .replyLimit => Nat
  | .clientName | .connectionName => String
  | .politeClose => Bool

/-- What the choice is about. -/
def Choice.field : Choice → Choice.Field
  | .bufferSize _ => .bufferSize
  | .replyLimit _ => .replyLimit
  | .clientName _ => .clientName
  | .connectionName _ => .connectionName
  | .politeClose _ => .politeClose

/-- The value that the choice gives to a field, if it is about that one. -/
def Choice.value? : (field : Choice.Field) → Choice → Option field.Value
  | .bufferSize, .bufferSize size => some size
  | .replyLimit, .replyLimit size => some size
  | .clientName, .clientName name => some name
  | .connectionName, .connectionName name => some name
  | .politeClose, .politeClose enabled => some enabled
  | _, _ => none

/-- The value that a field has. -/
def valueOf (settings : Settings) : (field : Choice.Field) → field.Value
  | .bufferSize => settings.bufferSize
  | .replyLimit => settings.replyLimit
  | .clientName => settings.clientName
  | .connectionName => settings.connectionName
  | .politeClose => settings.politeClose

theorem eq_of_valueOf {settings others : Settings}
    (h : ∀ field, settings.valueOf field = others.valueOf field) : settings = others := by
  cases settings
  cases others
  rw [mk.injEq]
  exact ⟨h .bufferSize, h .replyLimit, h .clientName, h .connectionName, h .politeClose⟩

/-- A choice gives its own field a value and leaves the others alone. -/
theorem valueOf_choose (settings : Settings) (a : Choice) (field : Choice.Field) :
    (settings.choose a).valueOf field = (a.value? field).getD (settings.valueOf field) := by
  cases a <;> cases field <;> rfl

/-! ### Choices that do not matter -/

theorem choose_comm (settings : Settings) {a b : Choice} (h : a.field ≠ b.field) :
    (settings.choose a).choose b = (settings.choose b).choose a := by
  cases a <;> cases b <;> first | rfl | exact absurd rfl h

theorem choose_again (settings : Settings) {a b : Choice} (h : a.field = b.field) :
    (settings.choose a).choose b = settings.choose b := by
  cases a <;> cases b <;> first | rfl | cases h

/-- **A choice that is made again has no effect**, whatever is chosen between. -/
theorem foldl_choose_again {a b : Choice} (h : a.field = b.field) (between : List Choice) :
    ∀ settings : Settings, (between.foldl choose (settings.choose a)).choose b =
      (between.foldl choose settings).choose b := by
  induction between with
  | nil => exact fun settings => choose_again settings h
  | cons c between ih =>
    intro settings
    rw [List.foldl_cons, List.foldl_cons]
    by_cases hc : a.field = c.field
    · rw [choose_again settings hc]
    · -- the choice of `a` is moved past `c`, towards `b`
      rw [choose_comm settings hc, ih]

/-! ### The last values -/

/-- The last value that choices give to a field, or another if they give none. -/
def lastOf (field : Choice.Field) (choices : List Choice) (otherwise : field.Value) : field.Value :=
  (choices.filterMap (Choice.value? field)).getLastD otherwise

theorem lastOf_cons (field : Choice.Field) (a : Choice) (choices : List Choice)
    (otherwise : field.Value) :
    lastOf field (a :: choices) otherwise =
      lastOf field choices ((a.value? field).getD otherwise) := by
  unfold lastOf
  cases h : a.value? field with
  | none => rw [List.filterMap_cons_none h, Option.getD_none]
  | some value => rw [List.filterMap_cons_some h, List.getLastD_cons, Option.getD_some]

/-- **Choices come to the last value given to each field.** -/
theorem valueOf_foldl_choose (field : Choice.Field) (choices : List Choice) :
    ∀ settings : Settings, (choices.foldl choose settings).valueOf field =
      lastOf field choices (settings.valueOf field) := by
  induction choices with
  | nil => exact fun _ => rfl
  | cons a choices ih =>
    intro settings
    rw [List.foldl_cons, ih, valueOf_choose, lastOf_cons]

/-- The settings in which each field has the last value given to it, or its
default if none was given. -/
def latest (choices : List Choice) : Settings where
  bufferSize := lastOf .bufferSize choices (valueOf {} .bufferSize)
  replyLimit := lastOf .replyLimit choices (valueOf {} .replyLimit)
  clientName := lastOf .clientName choices (valueOf {} .clientName)
  connectionName := lastOf .connectionName choices (valueOf {} .connectionName)
  politeClose := lastOf .politeClose choices (valueOf {} .politeClose)

theorem foldl_choose (choices : List Choice) : choices.foldl choose {} = latest choices := by
  apply eq_of_valueOf
  intro field
  rw [valueOf_foldl_choose]
  cases field <;> rfl

theorem latest_swap {a b : Choice} (h : a.field ≠ b.field) (choices rest : List Choice) :
    latest (choices ++ a :: b :: rest) = latest (choices ++ b :: a :: rest) := by
  rw [← foldl_choose, ← foldl_choose]
  simp only [List.foldl_append, List.foldl_cons, choose_comm _ h]

theorem latest_again {a b : Choice} (h : a.field = b.field) (choices between rest : List Choice) :
    latest (choices ++ a :: between ++ b :: rest) = latest (choices ++ between ++ b :: rest) := by
  rw [← foldl_choose, ← foldl_choose]
  simp only [List.foldl_append, List.foldl_cons, foldl_choose_again h]

/-! ### The conditions in order -/

/-- What settings must meet to be used. -/
inductive Condition where
  /-- A read asks for something. -/
  | bufferNotEmpty
  /-- A reply may be as long as one read. -/
  | limitCoversBuffer
  /-- The identity is one word. -/
  | namesNotBlank
deriving Repr, DecidableEq

/-- The conditions in the order in which they are judged. -/
def Condition.order : List Condition := [.bufferNotEmpty, .limitCoversBuffer, .namesNotBlank]

/-- Whether the settings meet the condition. -/
def Condition.met (settings : Settings) : Condition → Bool
  | .bufferNotEmpty => 1 ≤ settings.bufferSize
  | .limitCoversBuffer => settings.bufferSize ≤ settings.replyLimit
  | .namesNotBlank =>
    (settings.clientName.toList ++ settings.connectionName.toList).all (!isBlank ·)

/-- What is wrong with settings that do not meet the condition. -/
def Condition.issue (settings : Settings) : Condition → Issue
  | .bufferNotEmpty => .emptyBuffer
  | .limitCoversBuffer => .limitBelowBuffer settings.replyLimit settings.bufferSize
  | .namesNotBlank => .blankInIdentity settings.identity

/-- The first condition that the settings do not meet. -/
def firstUnmet? (settings : Settings) : Option Condition :=
  Condition.order.find? fun condition => !condition.met settings

/-- The identity is one word if both names are. -/
theorem any_identity (settings : Settings) :
    settings.identity.toList.any isBlank = !Condition.namesNotBlank.met settings := by
  have hcolon : ":".toList.any isBlank = false := by decide
  rw [identity, String.toList_append, String.toList_append, List.any_append, List.any_append,
    hcolon, Bool.or_false, Condition.met, ← List.any_append, List.not_all_eq_any_not]
  simp only [Bool.not_not]

/-- **The issue is that of the first condition that is not met.** -/
theorem issue?_eq (settings : Settings) :
    settings.issue? = settings.firstUnmet?.map (Condition.issue settings) := by
  have hbuffer : (!Condition.bufferNotEmpty.met settings) = decide (settings.bufferSize = 0) := by
    rw [Condition.met, ← decide_not, decide_eq_decide]
    omega
  have hlimit : (!Condition.limitCoversBuffer.met settings) =
      decide (settings.replyLimit < settings.bufferSize) := by
    rw [Condition.met, ← decide_not, decide_eq_decide]
    omega
  unfold issue? firstUnmet? Condition.order
  rw [List.find?_cons, List.find?_cons, List.find?_cons, hbuffer, hlimit, ← any_identity]
  by_cases h0 : settings.bufferSize = 0
  · simp [h0, Condition.issue]
  · by_cases hlt : settings.replyLimit < settings.bufferSize
    · simp [h0, hlt, Condition.issue]
    · cases settings.identity.toList.any isBlank <;> simp [h0, hlt, Condition.issue]

theorem firstUnmet?_eq_none_iff {settings : Settings} : settings.firstUnmet? = none ↔
    1 ≤ settings.bufferSize ∧ settings.bufferSize ≤ settings.replyLimit ∧
      ∀ c ∈ settings.clientName.toList ++ settings.connectionName.toList, isBlank c = false := by
  simp only [firstUnmet?, List.find?_eq_none, Condition.order, List.mem_cons, List.not_mem_nil,
    or_false, forall_eq_or_imp, forall_eq, Condition.met, Bool.not_eq_true', Bool.not_eq_false,
    decide_eq_true_iff, List.all_eq_true]

theorem build_eq (choices : List Choice) : build choices =
    match (latest choices).firstUnmet? with
    | some condition => .error (condition.issue (latest choices))
    | none => .ok (latest choices) := by
  unfold build
  rw [foldl_choose]
  dsimp only
  rw [issue?_eq]
  cases (latest choices).firstUnmet? <;> rfl

theorem build_eq_ok_iff {choices : List Choice} {settings : Settings} :
    build choices = .ok settings ↔
      settings = latest choices ∧ settings.firstUnmet? = none := by
  rw [build_eq]
  constructor
  · intro hbuilt
    split at hbuilt
    · cases hbuilt
    · next hmet =>
      obtain rfl := Except.ok.inj hbuilt
      exact ⟨rfl, hmet⟩
  · rintro ⟨rfl, hmet⟩
    rw [hmet]

theorem build_eq_error_iff {choices : List Choice} {issue : Issue} :
    build choices = .error issue ↔ ∃ condition, (latest choices).firstUnmet? = some condition ∧
      issue = condition.issue (latest choices) := by
  rw [build_eq]
  cases (latest choices).firstUnmet? <;> simp [eq_comm]

theorem build_congr {choices others : List Choice} (h : latest others = latest choices) :
    build others = build choices := by
  rw [build_eq, build_eq, h]

/-- **The identity of settings that were built has no white space.** -/
theorem not_blank_of_build {choices : List Choice} {settings : Settings}
    (h : build choices = .ok settings) : ∀ c ∈ settings.identity.toList, isBlank c = false := by
  obtain ⟨rfl, hmet⟩ := build_eq_ok_iff.1 h
  have hnames : Condition.namesNotBlank.met (latest choices) = true := by
    simpa [Condition.met, or_imp, forall_and] using (firstUnmet?_eq_none_iff.1 hmet).2.2
  have hidentity := any_identity (latest choices)
  rw [hnames, Bool.not_true, List.any_eq_false] at hidentity
  simpa using hidentity

/-- **Only the last values matter, and they are judged in order.** Settings are
built just if a read asks for something, a reply may be as long as a read, and
neither name has white space, that is a character of one of its ranges; they
have the last values given, and otherwise the issue is that of the first of
these conditions that is not met. So choices that give the same last values are
as good as each other, choices about different fields can change places, and a
choice that is made again later can be left out. -/
theorem build_follows_last_choices (choices : List Choice) :
    (∀ settings, build choices = .ok settings ↔
      settings = latest choices ∧
      1 ≤ settings.bufferSize ∧ settings.bufferSize ≤ settings.replyLimit ∧
      ∀ c ∈ settings.clientName.toList ++ settings.connectionName.toList, isBlank c = false) ∧
    (∀ c, isBlank c = true ↔ ∃ r ∈ Blank.ranges.list, r.1 ≤ c.toNat ∧ c.toNat ≤ r.2) ∧
    (∀ issue, build choices = .error issue ↔
      ∃ condition, (latest choices).firstUnmet? = some condition ∧
        issue = condition.issue (latest choices)) ∧
    (∀ others, latest others = latest choices → build others = build choices) ∧
    (∀ a b rest, a.field ≠ b.field →
      build (choices ++ a :: b :: rest) = build (choices ++ b :: a :: rest)) ∧
    ∀ a between b rest, a.field = b.field →
      build (choices ++ a :: between ++ b :: rest) = build (choices ++ between ++ b :: rest) := by
  refine ⟨?_, isBlank_iff, fun issue => build_eq_error_iff, ?_, ?_, ?_⟩
  · intro settings
    rw [build_eq_ok_iff, firstUnmet?_eq_none_iff]
  · intro others hlatest
    exact build_congr hlatest
  · intro a b rest hfield
    exact build_congr (latest_swap hfield choices rest)
  · intro a between b rest hfield
    exact build_congr (latest_again hfield choices between rest)

/-- Of a limit below the buffer and a name of two words the limit is named; the
buffer chosen first does not count. -/
example :
    build [.bufferSize 0, .clientName "screen reader", .replyLimit 1024, .bufferSize 4096] =
      .error (.limitBelowBuffer 1024 4096) := by rfl

end Settings
end SpeechWire
