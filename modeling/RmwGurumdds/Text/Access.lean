import Mathlib.Algebra.Group.Nat.Defs
import Mathlib.Data.List.Basic

/-!
# Access to the characters of a string

A string has functions that look where they read and functions that do not. Those that look throw
when a position lies beyond the end; the subscript does not, and a program that goes beyond has no
meaning. Both are faults here, told apart, so that a function over strings is safe when it has a
result at all.

Sizes are unsigned: a difference that would be negative is a very large number.
-/

namespace Text

/-- How an access fails. -/
inductive Fault where
  /-- It throws. -/
  | outOfRange
  /-- It reads outside the string. -/
  | undefined
deriving DecidableEq, Repr

/-- The difference of two sizes. -/
def sizeSub (a b : Nat) : Nat := if b ≤ a then a - b else 2 ^ 64 - (b - a)

section Access

variable {α : Type} {s : List α} {pos n : Nat}

/-- The subscript. At the size of the string, it reads the terminator. -/
def subscript (terminator : α) (s : List α) (pos : Nat) : Except Fault α :=
  if h : pos < s.length then .ok (s.get ⟨pos, h⟩)
  else if pos = s.length then .ok terminator
  else .error .undefined

/-- The checked access. -/
def charAt (s : List α) (pos : Nat) : Except Fault α :=
  if h : pos < s.length then .ok (s.get ⟨pos, h⟩) else .error .outOfRange

/-- At most `n` characters from a position on. -/
def substr (s : List α) (pos n : Nat) : Except Fault (List α) :=
  if pos ≤ s.length then .ok ((s.drop pos).take n) else .error .outOfRange

/-- All characters from a position on. -/
def substrFrom (s : List α) (pos : Nat) : Except Fault (List α) :=
  if pos ≤ s.length then .ok (s.drop pos) else .error .outOfRange

theorem sizeSub_of_le {a b : Nat} (h : b ≤ a) : sizeSub a b = a - b := if_pos h

theorem substr_ok (h : pos ≤ s.length) : substr s pos n = .ok ((s.drop pos).take n) := if_pos h

theorem substrFrom_ok (h : pos ≤ s.length) : substrFrom s pos = .ok (s.drop pos) := if_pos h

theorem charAt_ok (h : pos < s.length) : charAt s pos = .ok (s.get ⟨pos, h⟩) := dif_pos h

/-- The last character of a string that is not empty. -/
theorem subscript_last {terminator : α} (nonempty : s ≠ []) :
    subscript terminator s (sizeSub s.length 1) = .ok (s.getLast nonempty) := by
  have pos := List.length_pos_iff.mpr nonempty
  rw [sizeSub_of_le pos, subscript, dif_pos (by omega), List.getLast_eq_getElem]
  rfl

end Access

/-- An access has a result. -/
def Safe {α : Type} (access : Except Fault α) : Prop := ∃ a, access = .ok a

@[simp] theorem not_safe_error {α : Type} (fault : Fault) :
    ¬ Safe (.error fault : Except Fault α) := nofun

end Text
