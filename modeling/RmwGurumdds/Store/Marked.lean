import Mathlib.Data.List.Basic

/-!
# Queues with marks

A queue whose items may be marked. Items come in unmarked, looking at them marks them, and the first
one that is not marked can be taken out. What can still be taken out are the unmarked items in their
order, and the operations do to these what their names say.
-/

namespace Store

variable {α : Type}

/-- The items in the order they came in, each with its mark. -/
abbrev Marked (α : Type) := List (α × Bool)

namespace Marked

/-- The items without a mark. -/
def unmarked (q : Marked α) : List α := (q.filter fun item => !item.2).map Prod.fst

/-- An item comes in. -/
def push (q : Marked α) (a : α) : Marked α := q ++ [(a, false)]

/-- Every item is marked. -/
def markAll (q : Marked α) : Marked α := q.map fun item => (item.1, true)

/-- The first item without a mark is taken out. -/
def pop : Marked α → Option α × Marked α
  | [] => (none, [])
  | (a, false) :: q => (some a, q)
  | (a, true) :: q => ((pop q).1, (a, true) :: (pop q).2)

variable {q : Marked α} {a : α}

@[simp] theorem unmarked_push : (push q a).unmarked = q.unmarked ++ [a] := by
  simp [unmarked, push]

@[simp] theorem unmarked_markAll : (markAll q).unmarked = [] := by
  induction q with
  | nil => rfl
  | cons item q ih => exact ih

/-- What is taken out is the first of them. -/
theorem pop_fst : ∀ q : Marked α, (pop q).1 = q.unmarked.head? := by
  intro q
  induction q with
  | nil => rfl
  | cons item q ih =>
    obtain ⟨a, mark⟩ := item
    cases mark with
    | false => rfl
    | true => exact ih

/-- The others stay. -/
@[simp] theorem unmarked_pop : ∀ q : Marked α, (pop q).2.unmarked = q.unmarked.tail := by
  intro q
  induction q with
  | nil => rfl
  | cons item q ih =>
    obtain ⟨a, mark⟩ := item
    cases mark with
    | false => rfl
    | true => exact ih

/-- The items with a mark. -/
def marked (q : Marked α) : Nat := q.countP Prod.snd

@[simp] theorem marked_append (q p : Marked α) : marked (q ++ p) = q.marked + marked p :=
  List.countP_append

@[simp] theorem marked_push : (push q a).marked = q.marked := by
  simp [push, marked]

@[simp] theorem marked_markAll : (markAll q).marked = q.length := by
  induction q with
  | nil => rfl
  | cons item q ih => simp [marked, markAll]

@[simp] theorem map_fst_markAll : (markAll q).map Prod.fst = q.map Prod.fst := by
  simp [markAll]

/-- Every item has a mark, or it has none. -/
theorem length_unmarked_add : q.unmarked.length + q.marked = q.length := by
  induction q with
  | nil => rfl
  | cons item q ih =>
    obtain ⟨a, mark⟩ := item
    cases mark <;> simp [unmarked, marked] at ih ⊢ <;> omega

end Marked

end Store
