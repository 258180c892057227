import Mathlib.Tactic.Common

/-!
# The bounded queue of payloads

The queue the mailboxes are built on is a lock-free array from outside the
repository.  What the mailboxes rely on is that it is a linearizable FIFO of
fixed capacity: `push` and `pop` take effect in one step, a full queue hands
the value back, and `len` and `is_empty` are snapshots.
-/

namespace RustJsi.Runtime

/-- Payloads in the order they were pushed, never more than the capacity. -/
structure ArrayQueue (Payload : Type*) (capacity : Nat) where
  items : List Payload
  bounded : items.length ≤ capacity

namespace ArrayQueue

variable {Payload : Type*} {capacity : Nat}

def new : ArrayQueue Payload capacity := ⟨[], Nat.zero_le _⟩

/-- `push`; a full queue gives nothing and the caller keeps its value. -/
def push (queue : ArrayQueue Payload capacity) (value : Payload) :
    Option (ArrayQueue Payload capacity) :=
  if room : queue.items.length < capacity then
    some ⟨queue.items ++ [value], by
      rw [List.length_append, List.length_singleton]
      omega⟩
  else
    none

def pop (queue : ArrayQueue Payload capacity) :
    Option (Payload × ArrayQueue Payload capacity) :=
  match shape : queue.items with
  | [] => none
  | value :: rest =>
      some (value, ⟨rest, by
        have bounded := queue.bounded
        rw [shape, List.length_cons] at bounded
        omega⟩)

def len (queue : ArrayQueue Payload capacity) : Nat := queue.items.length

def isEmpty (queue : ArrayQueue Payload capacity) : Bool :=
  queue.items.isEmpty

@[ext]
theorem ext {left right : ArrayQueue Payload capacity}
    (same : left.items = right.items) : left = right := by
  cases left
  cases right
  simpa using same

@[simp]
theorem new_items : (new : ArrayQueue Payload capacity).items = [] := rfl

theorem push_items {queue next : ArrayQueue Payload capacity}
    {value : Payload} (pushed : queue.push value = some next) :
    next.items = queue.items ++ [value] := by
  unfold push at pushed
  split at pushed
  · cases pushed
    rfl
  · cases pushed

theorem push_eq_none_iff {queue : ArrayQueue Payload capacity}
    {value : Payload} :
    queue.push value = none ↔ queue.items.length = capacity := by
  have bounded := queue.bounded
  unfold push
  split
  · rename_i room
    exact ⟨nofun, fun full => by omega⟩
  · rename_i full
    exact ⟨fun _ => by omega, fun _ => rfl⟩

theorem pop_items {queue next : ArrayQueue Payload capacity}
    {value : Payload} (popped : queue.pop = some (value, next)) :
    queue.items = value :: next.items := by
  unfold pop at popped
  split at popped
  · cases popped
  · rename_i shape
    cases popped
    exact shape

theorem pop_eq_none_iff {queue : ArrayQueue Payload capacity} :
    queue.pop = none ↔ queue.items = [] := by
  unfold pop
  split
  · rename_i shape
    exact ⟨fun _ => shape, fun _ => rfl⟩
  · rename_i shape
    exact ⟨nofun, fun empty => by rw [shape] at empty; cases empty⟩

@[simp]
theorem isEmpty_iff {queue : ArrayQueue Payload capacity} :
    queue.isEmpty = true ↔ queue.items = [] :=
  List.isEmpty_iff

@[simp]
theorem len_eq_zero_iff {queue : ArrayQueue Payload capacity} :
    queue.len = 0 ↔ queue.items = [] :=
  List.length_eq_zero_iff

end ArrayQueue

end RustJsi.Runtime
