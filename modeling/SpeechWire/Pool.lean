/-
# Shared values and their handles

A pool hands out numbered handles to shared values. Several handles can stand
for one value; a handle that is given up is never valid again and its number
is not used again. The value comes out of the pool when its last handle is
given up, and only then.

Which value a live handle stands for is all that is recorded; how many hold a
value is counted when the question comes up.

Key definitions: `Pool`, `Pool.share`, `Pool.clone`, `Pool.get?`, `Pool.put`,
`Pool.release`.
-/
namespace SpeechWire

/-- Shared values by number, and handles by number. -/
structure Pool (α : Type) where
  /-- The shared values; none in place of one that has come out. -/
  values : List (Option α) := []
  /-- The value each handle stands for; none for a handle given up. -/
  handles : List (Option Nat) := []

namespace Pool

variable {α : Type}

/-- The number of the value that a handle stands for, if the handle is live. -/
def target? (pool : Pool α) (handle : Nat) : Option Nat := (pool.handles[handle]?).join

/-- How many live handles stand for a value. -/
def holders (pool : Pool α) (value : Nat) : Nat := pool.handles.count (some value)

/-- The value that a handle stands for, if the handle is live. -/
def get? (pool : Pool α) (handle : Nat) : Option α :=
  (pool.target? handle).bind fun value => (pool.values[value]?).join

/-- Puts a new value in place of the one that a live handle stands for. -/
def put (pool : Pool α) (handle : Nat) (a : α) : Pool α :=
  match pool.target? handle with
  | none => pool
  | some value => { pool with values := pool.values.set value (some a) }

/-- Shares a value: the number of its first handle, and the pool with it. -/
def share (pool : Pool α) (a : α) : Nat × Pool α :=
  (pool.handles.length,
    ⟨pool.values ++ [some a], pool.handles ++ [some pool.values.length]⟩)

/-- A further handle to what a handle stands for: its number, and the pool. -/
def clone (pool : Pool α) (handle : Nat) : Nat × Pool α :=
  (pool.handles.length, { pool with handles := pool.handles ++ [pool.target? handle] })

/-- Gives a handle up. The value comes out if no live handle to it is left. -/
def release (pool : Pool α) (handle : Nat) : Option α × Pool α :=
  match pool.target? handle with
  | none => (none, pool)
  | some value =>
    let rest := { pool with handles := pool.handles.set handle none }
    if rest.holders value = 0 then
      ((pool.values[value]?).join, { rest with values := rest.values.set value none })
    else (none, rest)

end Pool
end SpeechWire
