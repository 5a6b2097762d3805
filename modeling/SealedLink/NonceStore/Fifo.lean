/-!
# First-in first-out queues

A queue keeps its oldest elements in a list and its newest in a reversed one, so that both ends are
at hand. What it holds is seen through `toList`, oldest element first.

## Main definitions

* `Fifo` — a queue
* `Fifo.toList` — its elements, oldest first
* `Fifo.push`, `Fifo.pop?`, `Fifo.peek?` — adding at the end, taking from and looking at the front
-/

namespace SealedLink

/-- A queue of elements of one type. -/
structure Fifo (α : Type) where
  /-- The oldest elements, oldest first. -/
  front : List α
  /-- The newest elements, newest first. -/
  back : List α

namespace Fifo

variable {α : Type}

/-- The elements of a queue, oldest first. -/
def toList (q : Fifo α) : List α := q.front ++ q.back.reverse

/-- The queue without elements. -/
def empty : Fifo α := ⟨[], []⟩

/-- The queue with one more element at its end. -/
def push (q : Fifo α) (x : α) : Fifo α := ⟨q.front, x :: q.back⟩

/-- The oldest element and the queue of the others. -/
def pop? (q : Fifo α) : Option (α × Fifo α) :=
  match q.front with
  | x :: front => some (x, ⟨front, q.back⟩)
  | [] =>
    match q.back.reverse with
    | x :: front => some (x, ⟨front, []⟩)
    | [] => none

/-- The oldest element. -/
def peek? (q : Fifo α) : Option α :=
  match q.front with
  | x :: _ => some x
  | [] => q.back.getLast?

/-- The number of elements. -/
def length (q : Fifo α) : Nat := q.front.length + q.back.length

/-! ### The view -/

@[simp] theorem toList_empty : (empty : Fifo α).toList = [] := rfl

@[simp] theorem toList_push (q : Fifo α) (x : α) : (q.push x).toList = q.toList ++ [x] := by
  simp [toList, push]

theorem toList_eq_nil_of_pop? {q : Fifo α} (h : q.pop? = none) : q.toList = [] := by
  unfold pop? at h
  split at h
  · cases h
  · rename_i hf
    split at h
    · cases h
    · rename_i hb
      simp [toList, hf, hb]

theorem toList_eq_cons_of_pop? {q r : Fifo α} {x : α} (h : q.pop? = some (x, r)) :
    q.toList = x :: r.toList := by
  unfold pop? at h
  split at h
  · rename_i hf
    cases h
    simp [toList, hf]
  · rename_i hf
    split at h
    · rename_i hb
      cases h
      simp [toList, hf, hb]
    · cases h

@[simp] theorem peek?_eq_head? (q : Fifo α) : q.peek? = q.toList.head? := by
  unfold peek? toList
  cases q.front <;> simp

@[simp] theorem length_eq_length_toList (q : Fifo α) : q.length = q.toList.length := by
  simp [length, toList]

end Fifo

end SealedLink
