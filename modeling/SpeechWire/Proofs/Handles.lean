/-
# What a pool holds

A value is in a pool exactly as long as a live handle stands for it
(`Pool.Sound`). Every operation keeps that, and on it rests what giving a
handle up comes to: the value comes out if no other handle stands for it, and
otherwise stays as it was (`Pool.isSome_release_iff`). A value that has come
out is gone for good (`Pool.Gone`), as is a handle that was given up
(`Pool.UsedUp`), since the numbers of both only grow.

For each view of a pool there is one equation for each operation; nothing
later opens an operation.

Key definitions: `Pool.value?`, `Pool.Held`, `Pool.Sound`, `Pool.Gone`,
`Pool.UsedUp`.
Key theorems: `Pool.release_eq`, `Pool.isSome_release_iff`,
`Pool.Sound.release`, `Pool.gone_release_iff`.
-/
import SpeechWire.Pool

namespace SpeechWire
namespace Pool

variable {α : Type}

/-- The shared value of this number, if it has not come out. -/
def value? (pool : Pool α) (value : Nat) : Option α := (pool.values[value]?).join

/-- Whether a live handle stands for the value. -/
def Held (pool : Pool α) (value : Nat) : Prop := ∃ handle, pool.target? handle = some value

/-- Whether the values in the pool are those that a live handle stands for. -/
def Sound (pool : Pool α) : Prop := ∀ value, (pool.value? value).isSome = true ↔ pool.Held value

/-- Whether a value was shared and no live handle stands for it any more. -/
def Gone (pool : Pool α) (value : Nat) : Prop := value < pool.values.length ∧ ¬ pool.Held value

/-- Whether a handle was given up. -/
def UsedUp (pool : Pool α) (handle : Nat) : Prop := pool.handles[handle]? = some none

theorem get?_eq (pool : Pool α) (handle : Nat) :
    pool.get? handle = (pool.target? handle).bind pool.value? := rfl

theorem join_getElem?_concat (l : List (Option α)) (a : Option α) (i : Nat) :
    ((l ++ [a])[i]?).join = if i = l.length then a else (l[i]?).join := by
  rcases Nat.lt_trichotomy i l.length with h | rfl | h
  · rw [List.getElem?_append_left h, if_neg (Nat.ne_of_lt h)]
  · rw [List.getElem?_concat_length, if_pos rfl, Option.join_some]
  · have hlong : (l ++ [a]).length ≤ i := by
      rw [List.length_append, List.length_singleton]
      omega
    rw [List.getElem?_eq_none hlong, List.getElem?_eq_none (Nat.le_of_lt h),
      if_neg (Nat.ne_of_gt h)]

theorem join_getElem?_set_none (l : List (Option α)) (i j : Nat) :
    ((l.set i none)[j]?).join = if j = i then none else (l[j]?).join := by
  rw [List.getElem?_set]
  by_cases hij : i = j
  · subst hij
    rw [if_pos rfl, if_pos rfl]
    split <;> rfl
  · rw [if_neg hij, if_neg (Ne.symm hij)]

section
variable (pool : Pool α)

/-! ### How many handles -/

theorem holders_pos_iff (value : Nat) : 0 < pool.holders value ↔ pool.Held value := by
  rw [holders, List.count_pos_iff, List.mem_iff_getElem?]
  refine exists_congr fun handle => ?_
  rw [target?, Option.join_eq_some_iff]

theorem holders_eq_zero_iff (value : Nat) : pool.holders value = 0 ↔ ¬ pool.Held value := by
  rw [← holders_pos_iff]
  omega

theorem holders_share (a : α) (value : Nat) : (pool.share a).2.holders value =
    pool.holders value + if value = pool.values.length then 1 else 0 := by
  show (pool.handles ++ [some pool.values.length]).count (some value) = _
  rw [List.count_append, List.count_singleton, holders]
  by_cases h : value = pool.values.length
  · simp [h]
  · simp [h, Ne.symm h]

theorem holders_clone (handle value : Nat) : (pool.clone handle).2.holders value =
    pool.holders value + if pool.target? handle = some value then 1 else 0 := by
  show (pool.handles ++ [pool.target? handle]).count (some value) = _
  rw [List.count_append, List.count_singleton, holders]
  by_cases h : pool.target? handle = some value <;> simp [h]

/-! ### What the handles stand for -/

theorem target?_share (a : α) (handle : Nat) : (pool.share a).2.target? handle =
    if handle = pool.handles.length then some pool.values.length else pool.target? handle :=
  join_getElem?_concat _ _ _

theorem target?_clone (handle other : Nat) : (pool.clone handle).2.target? other =
    if other = pool.handles.length then pool.target? handle else pool.target? other :=
  join_getElem?_concat _ _ _

theorem handles_put (handle : Nat) (a : α) : (pool.put handle a).handles = pool.handles := by
  unfold put
  split <;> rfl

theorem target?_put (handle other : Nat) (a : α) :
    (pool.put handle a).target? other = pool.target? other := by
  rw [target?, handles_put, target?]

/-- The pool with a handle taken out of it, and the value left. -/
def without (handle : Nat) : Pool α := { pool with handles := pool.handles.set handle none }

theorem holders_put (handle value : Nat) (a : α) :
    (pool.put handle a).holders value = pool.holders value := by
  rw [holders, handles_put, holders]

theorem target?_without (handle other : Nat) : (pool.without handle).target? other =
    if other = handle then none else pool.target? other :=
  join_getElem?_set_none _ _ _

end

variable {pool : Pool α} {handle value : Nat}

theorem release_of_target?_eq_none (h : pool.target? handle = none) :
    pool.release handle = (none, pool) := by
  rw [release, h]

/-- **Giving a live handle up.** The value comes out if no other handle stands
for it. -/
theorem release_eq (h : pool.target? handle = some value) : pool.release handle =
    if (pool.without handle).holders value = 0 then
      (pool.value? value,
        { pool.without handle with values := pool.values.set value none })
    else (none, pool.without handle) := by
  rw [release, h]
  rfl

theorem handles_release (h : pool.target? handle = some value) :
    (pool.release handle).2.handles = pool.handles.set handle none := by
  rw [release_eq h]
  split <;> rfl

theorem target?_release (pool : Pool α) (handle other : Nat) :
    (pool.release handle).2.target? other =
      if other = handle then none else pool.target? other := by
  cases h : pool.target? handle with
  | none =>
    rw [release_of_target?_eq_none h]
    split
    · next he => rw [he, h]
    · rfl
  | some value =>
    rw [target?, handles_release h]
    exact join_getElem?_set_none _ _ _

/-! ### Which values are held -/

theorem lt_length_of_target? (h : pool.target? handle = some value) :
    handle < pool.handles.length := by
  rw [target?, Option.join_eq_some_iff] at h
  exact (List.getElem?_eq_some_iff.1 h).1

theorem holders_without (h : pool.target? handle = some value) :
    (pool.without handle).holders value = pool.holders value - 1 := by
  have hlt := lt_length_of_target? h
  rw [target?, List.getElem?_eq_getElem hlt, Option.join_some] at h
  show (pool.handles.set handle none).count (some value) = _
  rw [List.count_set hlt, h, holders]
  simp

theorem held_share_iff (pool : Pool α) (a : α) (value : Nat) :
    (pool.share a).2.Held value ↔ value = pool.values.length ∨ pool.Held value := by
  constructor
  · rintro ⟨handle, h⟩
    rw [target?_share] at h
    split at h
    · exact .inl (Option.some.inj h).symm
    · exact .inr ⟨handle, h⟩
  · rintro (rfl | ⟨handle, h⟩)
    · exact ⟨pool.handles.length, by rw [target?_share, if_pos rfl]⟩
    · exact ⟨handle, by rw [target?_share, if_neg (Nat.ne_of_lt (lt_length_of_target? h)), h]⟩

theorem held_clone_iff (pool : Pool α) (handle value : Nat) :
    (pool.clone handle).2.Held value ↔ pool.Held value := by
  constructor
  · rintro ⟨other, h⟩
    rw [target?_clone] at h
    split at h
    · exact ⟨handle, h⟩
    · exact ⟨other, h⟩
  · rintro ⟨other, h⟩
    exact ⟨other, by rw [target?_clone, if_neg (Nat.ne_of_lt (lt_length_of_target? h)), h]⟩

theorem held_put_iff (pool : Pool α) (handle : Nat) (a : α) (value : Nat) :
    (pool.put handle a).Held value ↔ pool.Held value :=
  exists_congr fun other => by rw [target?_put]

theorem held_without_iff (pool : Pool α) (handle value : Nat) :
    (pool.without handle).Held value ↔ ∃ other, other ≠ handle ∧ pool.target? other = some value := by
  refine exists_congr fun other => ?_
  rw [target?_without]
  by_cases h : other = handle <;> simp [h]

theorem held_release_iff (pool : Pool α) (handle value : Nat) :
    (pool.release handle).2.Held value ↔
      ∃ other, other ≠ handle ∧ pool.target? other = some value := by
  rw [← held_without_iff]
  exact exists_congr fun other => by rw [target?_release, target?_without]

/-! ### Which values are there -/

theorem value?_share (pool : Pool α) (a : α) (value : Nat) : (pool.share a).2.value? value =
    if value = pool.values.length then some a else pool.value? value :=
  join_getElem?_concat _ _ _

theorem value?_clone (pool : Pool α) (handle value : Nat) :
    (pool.clone handle).2.value? value = pool.value? value := rfl

theorem lt_length_of_value? (h : (pool.value? value).isSome = true) :
    value < pool.values.length := by
  refine Nat.lt_of_not_le fun hle => ?_
  rw [value?, List.getElem?_eq_none hle] at h
  cases h

theorem value?_put (h : pool.target? handle = some value) (hthere : (pool.value? value).isSome = true)
    (a : α) (other : Nat) :
    (pool.put handle a).value? other = if other = value then some a else pool.value? other := by
  rw [value?, put, h]
  show ((pool.values.set value (some a))[other]?).join = _
  by_cases he : other = value
  · subst he
    rw [List.getElem?_set_self (lt_length_of_value? hthere), if_pos rfl, Option.join_some]
  · rw [List.getElem?_set_ne (Ne.symm he), if_neg he, value?]

theorem holders_release (h : pool.target? handle = some value) (other : Nat) :
    (pool.release handle).2.holders other = (pool.without handle).holders other := by
  rw [release_eq h]
  split <;> rfl

/-- The value of the last handle is taken out, and any other is there as before. -/
theorem value?_release (pool : Pool α) (handle value : Nat) :
    (pool.release handle).2.value? value =
      if pool.target? handle = some value ∧ (pool.release handle).2.holders value = 0 then none
      else pool.value? value := by
  cases h : pool.target? handle with
  | none => simp [release_of_target?_eq_none h]
  | some mine =>
    rw [holders_release h, release_eq h]
    by_cases hmine : (pool.without handle).holders mine = 0
    · rw [if_pos hmine]
      refine (join_getElem?_set_none _ _ _).trans ?_
      by_cases hv : value = mine
      · subst hv
        rw [if_pos rfl, if_pos ⟨rfl, hmine⟩]
      · rw [if_neg hv, if_neg fun hand => hv (Option.some.inj hand.1).symm, value?]
    · rw [if_neg hmine, if_neg]
      · rfl
      · rintro ⟨hv, hnone⟩
        rw [Option.some.inj hv] at hmine
        exact hmine hnone

/-- If nothing comes out, the other handles find what they found. -/
theorem get?_release_of_eq_none (h : (pool.release handle).1 = none) {other : Nat}
    (hne : other ≠ handle) : (pool.release handle).2.get? other = pool.get? other := by
  have hvalue : (pool.release handle).2.value? = pool.value? := by
    cases hmine : pool.target? handle with
    | none => rw [release_of_target?_eq_none hmine]
    | some mine =>
      rw [release_eq hmine] at h ⊢
      split at h
      · next hlast =>
        -- there was nothing to come out
        have hgone : pool.value? mine = none := h
        rw [if_pos hlast]
        funext value
        refine (join_getElem?_set_none _ _ _).trans ?_
        by_cases hv : value = mine
        · rw [if_pos hv, hv, hgone]
        · rw [if_neg hv, value?]
      · next hlast =>
        rw [if_neg hlast]
        rfl
  rw [get?_eq, get?_eq, target?_release, if_neg hne, hvalue]

/-! ### A value is there as long as it is held -/

theorem sound_empty : Sound ({} : Pool α) := by
  intro value
  simp [value?, Held, target?]

theorem Sound.share (h : pool.Sound) (a : α) : (pool.share a).2.Sound := by
  intro value
  rw [value?_share, held_share_iff]
  by_cases hv : value = pool.values.length
  · simp [hv]
  · rw [if_neg hv, or_iff_right hv]
    exact h value

theorem Sound.clone (h : pool.Sound) (handle : Nat) : (pool.clone handle).2.Sound := by
  intro value
  rw [value?_clone, held_clone_iff]
  exact h value

theorem Sound.put (h : pool.Sound) (handle : Nat) (a : α) : (pool.put handle a).Sound := by
  intro value
  rw [held_put_iff, ← h value]
  cases hmine : pool.target? handle with
  | none => rw [Pool.put, hmine]
  | some mine =>
    have hthere := (h mine).2 ⟨handle, hmine⟩
    rw [value?_put hmine hthere]
    by_cases hv : value = mine
    · simp [hv, hthere]
    · rw [if_neg hv]

theorem Sound.release (h : pool.Sound) (handle : Nat) : (pool.release handle).2.Sound := by
  intro value
  rw [value?_release]
  by_cases hout : pool.target? handle = some value ∧ (pool.release handle).2.holders value = 0
  · rw [if_pos hout]
    simpa using (holders_eq_zero_iff _ _).1 hout.2
  · rw [if_neg hout, h value, held_release_iff]
    constructor
    · rintro ⟨other, hother⟩
      by_cases he : other = handle
      · subst he
        have hheld := (holders_pos_iff _ _).1 (Nat.pos_of_ne_zero fun hzero => hout ⟨hother, hzero⟩)
        exact (held_release_iff _ _ _).1 hheld
      · exact ⟨other, he, hother⟩
    · rintro ⟨other, -, hother⟩
      exact ⟨other, hother⟩

theorem get?_of_sound (hsound : pool.Sound) (h : pool.target? handle = some value) :
    ∃ a, pool.value? value = some a ∧ pool.get? handle = some a := by
  obtain ⟨a, ha⟩ := Option.isSome_iff_exists.1 ((hsound value).2 ⟨handle, h⟩)
  exact ⟨a, ha, by rw [get?_eq, h, Option.bind_some, ha]⟩

/-- **The value comes out to its last handle**, and to no other. -/
theorem isSome_release_iff (hsound : pool.Sound) (h : pool.target? handle = some value) :
    (pool.release handle).1.isSome = true ↔
      ∀ other, other ≠ handle → pool.target? other ≠ some value := by
  have hheld := held_without_iff pool handle value
  rw [release_eq h]
  by_cases hlast : (pool.without handle).holders value = 0
  · rw [if_pos hlast]
    rw [holders_eq_zero_iff, hheld] at hlast
    have hthere : (pool.value? value).isSome = true := (hsound value).2 ⟨handle, h⟩
    exact ⟨fun _ other hne hother => hlast ⟨other, hne, hother⟩, fun _ => hthere⟩
  · rw [if_neg hlast]
    rw [holders_eq_zero_iff, hheld, Classical.not_not] at hlast
    obtain ⟨other, hne, hother⟩ := hlast
    exact ⟨nofun, fun hall => absurd hother (hall other hne)⟩

theorem get?_of_release {a : α} (h : (pool.release handle).1 = some a) :
    pool.get? handle = some a := by
  cases htarget : pool.target? handle with
  | none =>
    rw [release_of_target?_eq_none htarget] at h
    cases h
  | some value =>
    rw [release_eq htarget] at h
    split at h
    · rw [get?_eq, htarget]
      exact h
    · cases h

/-! ### What is gone stays away -/

theorem gone_share_iff (pool : Pool α) (a : α) (value : Nat) :
    (pool.share a).2.Gone value ↔ pool.Gone value := by
  have hlen : (pool.share a).2.values.length = pool.values.length + 1 := List.length_append
  rw [Gone, hlen, held_share_iff, Gone, not_or]
  constructor
  · rintro ⟨hlt, hne, hfree⟩
    exact ⟨by omega, hfree⟩
  · rintro ⟨hlt, hfree⟩
    exact ⟨by omega, by omega, hfree⟩

theorem gone_clone_iff (pool : Pool α) (handle value : Nat) :
    (pool.clone handle).2.Gone value ↔ pool.Gone value := by
  rw [Gone, held_clone_iff]
  rfl

theorem gone_put_iff (pool : Pool α) (handle : Nat) (a : α) (value : Nat) :
    (pool.put handle a).Gone value ↔ pool.Gone value := by
  have hlen : (pool.put handle a).values.length = pool.values.length := by
    unfold put
    split
    · rfl
    · exact List.length_set
  rw [Gone, held_put_iff, hlen, Gone]

theorem gone_release_iff (pool : Pool α) (handle value : Nat) :
    (pool.release handle).2.Gone value ↔ value < pool.values.length ∧
      ∀ other, other ≠ handle → pool.target? other ≠ some value := by
  have hlen : (pool.release handle).2.values.length = pool.values.length := by
    unfold release
    split
    · rfl
    · dsimp only
      split
      · exact List.length_set
      · rfl
  rw [Gone, held_release_iff, hlen]
  simp only [not_exists, not_and]

/-- A value that is given up through one of its handles is gone if it comes out. -/
theorem gone_release_of_target? (hsound : pool.Sound) (h : pool.target? handle = some value) :
    (pool.release handle).2.Gone value ↔ (pool.release handle).1.isSome = true := by
  have hlt : value < pool.values.length := lt_length_of_value? ((hsound value).2 ⟨handle, h⟩)
  rw [gone_release_iff, isSome_release_iff hsound h]
  exact and_iff_right hlt

theorem gone_release_of_ne (h : pool.target? handle ≠ some value) :
    (pool.release handle).2.Gone value ↔ pool.Gone value := by
  rw [gone_release_iff, Gone, Held, not_exists]
  refine and_congr_right fun _ => forall_congr' fun other => ⟨fun hfree => ?_, fun hfree _ => hfree⟩
  by_cases he : other = handle
  · exact he ▸ h
  · exact hfree he

/-! ### Handles given up -/

theorem UsedUp.get?_eq_none (h : pool.UsedUp handle) : pool.get? handle = none := by
  rw [get?_eq, target?, h]
  rfl

theorem usedUp_release (h : pool.target? handle = some value) :
    (pool.release handle).2.UsedUp handle := by
  rw [UsedUp, handles_release h]
  exact List.getElem?_set_self (lt_length_of_target? h)

theorem UsedUp.share (h : pool.UsedUp handle) (a : α) : (pool.share a).2.UsedUp handle :=
  (List.getElem?_append_left (List.getElem?_eq_some_iff.1 h).1).trans h

theorem UsedUp.clone (h : pool.UsedUp handle) (other : Nat) : (pool.clone other).2.UsedUp handle :=
  (List.getElem?_append_left (List.getElem?_eq_some_iff.1 h).1).trans h

theorem UsedUp.put (h : pool.UsedUp handle) (other : Nat) (a : α) :
    (pool.put other a).UsedUp handle := by
  rwa [UsedUp, handles_put]

theorem UsedUp.release (h : pool.UsedUp handle) (other : Nat) :
    (pool.release other).2.UsedUp handle := by
  cases hother : pool.target? other with
  | none => rwa [release_of_target?_eq_none hother]
  | some value =>
    rw [UsedUp, handles_release hother, List.getElem?_set]
    split
    · exact if_pos (lt_length_of_target? hother)
    · exact h

end Pool
end SpeechWire
