/-! # Bounded first-in first-out queues

`asyncio.Queue(maxsize)` for a positive `maxsize`, without its waiters: a party
that would have to wait finds `put?` or `get?` empty-handed. -/

namespace YrSandbox

/-- A queue never holds more than `maxsize` items. -/
structure BoundedQueue (α : Type u) where
  maxsize : Nat
  items : List α
  bounded : items.length ≤ maxsize
deriving DecidableEq, Repr

namespace BoundedQueue

variable {α : Type u}

def empty (maxsize : Nat) : BoundedQueue α where
  maxsize := maxsize
  items := []
  bounded := Nat.zero_le maxsize

def qsize (queue : BoundedQueue α) : Nat := queue.items.length

/-- `put_nowait`; `none` is `QueueFull`. -/
def put? (queue : BoundedQueue α) (item : α) : Option (BoundedQueue α) :=
  if free : queue.items.length < queue.maxsize then
    some ⟨queue.maxsize, queue.items ++ [item], by
      rw [List.length_append]
      exact free⟩
  else none

/-- `get_nowait`; `none` is `QueueEmpty`. -/
def get? (queue : BoundedQueue α) : Option (α × BoundedQueue α) :=
  match given : queue.items with
  | [] => none
  | item :: rest => some (item, ⟨queue.maxsize, rest, by
      have bounded := queue.bounded
      rw [given, List.length_cons] at bounded
      omega⟩)

@[simp] theorem empty_items (maxsize : Nat) :
    (empty maxsize : BoundedQueue α).items = [] := rfl

@[simp] theorem empty_maxsize (maxsize : Nat) :
    (empty maxsize : BoundedQueue α).maxsize = maxsize := rfl

theorem put?_eq_some {queue next : BoundedQueue α} {item : α}
    (put : queue.put? item = some next) :
    queue.qsize < queue.maxsize ∧ next.items = queue.items ++ [item] ∧
      next.maxsize = queue.maxsize := by
  unfold put? at put
  split at put
  · rename_i free
    cases put
    exact ⟨free, rfl, rfl⟩
  · cases put

theorem put?_eq_none {queue : BoundedQueue α} {item : α} :
    queue.put? item = none ↔ queue.qsize = queue.maxsize := by
  have bounded := queue.bounded
  unfold put? qsize
  split
  · rename_i free
    constructor
    · intro impossible
      cases impossible
    · intro full
      omega
  · rename_i full
    constructor
    · intro _
      omega
    · intro _
      rfl

theorem get?_eq_some {queue next : BoundedQueue α} {item : α}
    (got : queue.get? = some (item, next)) :
    queue.items = item :: next.items ∧ next.maxsize = queue.maxsize := by
  rcases queue with ⟨maxsize, items, bounded⟩
  cases items with
  | nil => simp [get?] at got
  | cons head tail =>
      simp only [get?, Option.some.injEq, Prod.mk.injEq] at got
      rcases got with ⟨rfl, rfl⟩
      exact ⟨rfl, rfl⟩

end BoundedQueue

end YrSandbox
