/-!
# Queues

A queue of two lists: elements leave at the head of `front`, and join at the head of `back`. When `front` is
empty, `back` is turned round once. Each operation is described by what it does to `toList`, the elements in
the order in which they leave.

* `push` adds an element at the end: `toList_push`;
* `pop?` takes the first element: `pop?_eq_none_iff`, `toList_of_pop?`.
-/

namespace BrickControl

/-- A first-in, first-out queue. -/
structure Queue (α : Type) where
  front : List α
  back : List α
  deriving Repr

namespace Queue

variable {α : Type}

/-- The queue without elements. -/
def empty : Queue α := ⟨[], []⟩

/-- The elements, the next to leave first. -/
def toList (q : Queue α) : List α := q.front ++ q.back.reverse

/-- The queue of a list, whose head leaves first. -/
def ofList (xs : List α) : Queue α := ⟨xs, []⟩

/-- The number of elements. -/
def size (q : Queue α) : Nat := q.front.length + q.back.length

/-- Adds an element at the end. -/
def push (q : Queue α) (x : α) : Queue α := ⟨q.front, x :: q.back⟩

/-- Takes the first element. -/
def pop? (q : Queue α) : Option (α × Queue α) :=
  match q.front with
  | x :: front => some (x, ⟨front, q.back⟩)
  | [] =>
    match q.back.reverse with
    | x :: front => some (x, ⟨front, []⟩)
    | [] => none

@[simp] theorem toList_empty : (empty : Queue α).toList = [] := rfl

@[simp] theorem toList_ofList (xs : List α) : (ofList xs).toList = xs := by
  simp [toList, ofList]

/-- An element that joins is the last to leave. -/
@[simp] theorem toList_push (q : Queue α) (x : α) : (q.push x).toList = q.toList ++ [x] := by
  simp [toList, push]

/-- The size counts the elements. -/
theorem size_eq (q : Queue α) : q.size = q.toList.length := by
  simp [toList, size]

/-- What leaves is the head of the list, and what stays is its tail. -/
theorem toList_of_pop? {q rest : Queue α} {x : α} (h : q.pop? = some (x, rest)) :
    q.toList = x :: rest.toList := by
  obtain ⟨front, back⟩ := q
  cases front with
  | cons y ys =>
    simp only [pop?, Option.some.injEq, Prod.mk.injEq] at h
    obtain ⟨rfl, rfl⟩ := h
    rfl
  | nil =>
    simp only [pop?] at h
    split at h
    · rename_i y ys hback
      simp only [Option.some.injEq, Prod.mk.injEq] at h
      obtain ⟨rfl, rfl⟩ := h
      simp [toList, hback]
    · exact absurd h (by simp)

/-- Nothing leaves exactly when there is nothing. -/
theorem pop?_eq_none_iff {q : Queue α} : q.pop? = none ↔ q.toList = [] := by
  obtain ⟨front, back⟩ := q
  cases front with
  | cons y ys => simp [pop?, toList]
  | nil =>
    simp only [pop?, toList, List.nil_append]
    split <;> simp_all

end Queue

end BrickControl
