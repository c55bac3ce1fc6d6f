import Mathlib.Data.List.Chain
import Mathlib.Data.List.Infix

/-!
# Searching in strings

The functions that look for one string in another, over lists of any characters. A pattern occurs at
a position if it is a prefix of what begins there; `find` looks for the first occurrence, `rfind`
for the last one, and `replaceAll` replaces every one.

Where a pattern has two adjacent characters that a text does not have side by side (`Apart`), it
does not occur in the text, and that is how a search is told to run past it (`find_append`). A
pattern at the end of a text is always its last occurrence (`rfind_append`).
-/

namespace Text

variable {α : Type} {pat new s t : List α} {i : Nat}

/-- Where a pattern occurs, the occurrence begins somewhere. -/
theorem infix_iff_drop : pat <:+: s ↔ ∃ j ≤ s.length, pat <+: s.drop j := by
  constructor
  · rintro ⟨u, v, rfl⟩
    refine ⟨u.length, by simp, ?_⟩
    rw [List.append_assoc, List.drop_left]
    exact List.prefix_append pat v
  · rintro ⟨j, -, occurs⟩
    exact occurs.isInfix.trans (List.drop_suffix j s).isInfix

section Searches

variable [DecidableEq α]

/-! ## The first occurrence -/

/-- `find`: the first occurrence of a pattern. -/
def find (pat : List α) : List α → Option Nat
  | [] => if pat.isPrefixOf [] then some 0 else none
  | c :: s => if pat.isPrefixOf (c :: s) then some 0 else (find pat s).map (· + 1)

/-- `find` from a position on. -/
def findFrom (pat s : List α) (pos : Nat) : Option Nat := (find pat (s.drop pos)).map (· + pos)

theorem find_eq_zero (h : pat <+: s) : find pat s = some 0 := by
  have here : pat.isPrefixOf s = true := List.isPrefixOf_iff_prefix.mpr h
  cases s with
  | nil => rw [find, if_pos here]
  | cons c s => rw [find, if_pos here]

theorem find_cons {c : α} (h : ¬ pat <+: c :: s) :
    find pat (c :: s) = (find pat s).map (· + 1) := by
  rw [find, if_neg fun here => h (List.isPrefixOf_iff_prefix.mp here)]

/-- What is found is an occurrence. -/
theorem prefix_of_find (h : find pat s = some i) : pat <+: s.drop i := by
  induction s generalizing i with
  | nil =>
    by_cases here : pat <+: []
    · rw [find_eq_zero here] at h
      cases h
      exact here
    · rw [find, if_neg fun found => here (List.isPrefixOf_iff_prefix.mp found)] at h
      exact nomatch h
  | cons c s ih =>
    by_cases here : pat <+: c :: s
    · rw [find_eq_zero here] at h
      cases h
      exact here
    · rw [find_cons here] at h
      obtain ⟨j, found, rfl⟩ := Option.map_eq_some_iff.mp h
      exact ih found

theorem prefix_of_findFrom {pos : Nat} (h : findFrom pat s pos = some i) : pat <+: s.drop i := by
  obtain ⟨j, found, rfl⟩ := Option.map_eq_some_iff.mp h
  have occurs := prefix_of_find found
  rwa [List.drop_drop, Nat.add_comm] at occurs

theorem find_eq_none_iff : find pat s = none ↔ ¬ pat <:+: s := by
  induction s with
  | nil =>
    rw [List.infix_nil]
    by_cases here : pat = []
    · subst here
      exact iff_of_false (by simp [find]) (not_not_intro rfl)
    · have away : ¬ pat.isPrefixOf [] = true := fun h =>
        here (List.prefix_nil.mp (List.isPrefixOf_iff_prefix.mp h))
      exact iff_of_true (if_neg away) here
  | cons c s ih =>
    rw [List.infix_cons_iff]
    by_cases here : pat <+: c :: s
    · rw [find_eq_zero here]
      exact iff_of_false (by simp) (not_not_intro (.inl here))
    · rw [find_cons here, Option.map_eq_none_iff, ih]
      exact ⟨fun away h => h.elim here away, fun away h => away (.inr h)⟩

/-- A search runs past a text in which no occurrence begins. -/
theorem find_append_of_not (away : ∀ i < s.length, ¬ pat <+: (s ++ t).drop i) (h : pat <+: t) :
    find pat (s ++ t) = some s.length := by
  induction s with
  | nil => exact find_eq_zero h
  | cons c s ih =>
    have first : ¬ pat <+: c :: (s ++ t) := away 0 (Nat.zero_lt_succ _)
    rw [List.cons_append, find_cons first,
      ih fun i lt => away (i + 1) (Nat.succ_lt_succ lt)]
    rfl

/-- **The first occurrence is found, and nothing else.** -/
theorem find_eq_some_iff :
    find pat s = some i ↔ pat <+: s.drop i ∧ i ≤ s.length ∧ ∀ j < i, ¬ pat <+: s.drop j := by
  induction s generalizing i with
  | nil =>
    by_cases here : pat <+: []
    · rw [find_eq_zero here]
      constructor
      · rintro ⟨⟩
        exact ⟨here, le_rfl, nofun⟩
      · rintro ⟨-, le, -⟩
        rw [Nat.le_zero.mp le]
    · rw [find, if_neg fun found => here (List.isPrefixOf_iff_prefix.mp found)]
      constructor
      · nofun
      · rintro ⟨occurs, -⟩
        rw [List.drop_nil] at occurs
        exact absurd occurs here
  | cons c s ih =>
    by_cases here : pat <+: c :: s
    · rw [find_eq_zero here]
      constructor
      · rintro ⟨⟩
        exact ⟨here, Nat.zero_le _, nofun⟩
      · rintro ⟨-, -, first⟩
        cases i with
        | zero => rfl
        | succ i => exact absurd here (first 0 (Nat.zero_lt_succ i))
    · rw [find_cons here, Option.map_eq_some_iff]
      constructor
      · rintro ⟨j, found, rfl⟩
        obtain ⟨occurs, le, first⟩ := ih.mp found
        refine ⟨occurs, Nat.succ_le_succ le, fun k lt => ?_⟩
        cases k with
        | zero => exact here
        | succ k => exact first k (Nat.lt_of_succ_lt_succ lt)
      · rintro ⟨occurs, le, first⟩
        cases i with
        | zero => exact absurd occurs here
        | succ i =>
          refine ⟨i, ih.mpr ⟨occurs, Nat.le_of_succ_le_succ le, fun k lt => ?_⟩, rfl⟩
          exact first (k + 1) (Nat.succ_lt_succ lt)

/-! ## The last occurrence -/

/-- The last occurrence of a pattern that begins at a position or before it. -/
def rfindFrom (pat s : List α) : Nat → Option Nat
  | 0 => if pat.isPrefixOf s then some 0 else none
  | pos + 1 => if pat.isPrefixOf (s.drop (pos + 1)) then some (pos + 1) else rfindFrom pat s pos

/-- `rfind` from the end. -/
def rfind (pat s : List α) : Option Nat := rfindFrom pat s s.length

theorem rfindFrom_zero_iff : rfindFrom pat s 0 = some 0 ↔ pat <+: s := by
  rw [rfindFrom, ← List.isPrefixOf_iff_prefix]
  cases pat.isPrefixOf s with
  | true => simp
  | false => simp

theorem prefix_of_rfindFrom {pos : Nat} (h : rfindFrom pat s pos = some i) :
    pat <+: s.drop i := by
  induction pos with
  | zero =>
    rw [rfindFrom] at h
    split at h
    · rename_i here
      cases h
      exact List.isPrefixOf_iff_prefix.mp here
    · exact nomatch h
  | succ pos ih =>
    rw [rfindFrom] at h
    split at h
    · rename_i here
      cases h
      exact List.isPrefixOf_iff_prefix.mp here
    · exact ih h

theorem prefix_of_rfind (h : rfind pat s = some i) : pat <+: s.drop i := prefix_of_rfindFrom h

/-- **The last occurrence is found**: none begins between it and where the search did. -/
theorem rfindFrom_eq_some_iff {pos : Nat} : rfindFrom pat s pos = some i ↔
    pat <+: s.drop i ∧ i ≤ pos ∧ ∀ j, i < j → j ≤ pos → ¬ pat <+: s.drop j := by
  induction pos with
  | zero =>
    rw [rfindFrom]
    split
    · rename_i here
      constructor
      · rintro ⟨⟩
        exact ⟨List.isPrefixOf_iff_prefix.mp here, le_rfl, fun j lt le => by omega⟩
      · rintro ⟨-, le, -⟩
        rw [Nat.le_zero.mp le]
    · rename_i away
      constructor
      · nofun
      · rintro ⟨occurs, le, -⟩
        rw [Nat.le_zero.mp le] at occurs
        exact absurd (List.isPrefixOf_iff_prefix.mpr occurs) away
  | succ pos ih =>
    rw [rfindFrom]
    split
    · rename_i here
      constructor
      · rintro ⟨⟩
        exact ⟨List.isPrefixOf_iff_prefix.mp here, le_rfl, fun j lt le => by omega⟩
      · rintro ⟨-, le, last⟩
        by_contra differ
        have lt : i < pos + 1 := lt_of_le_of_ne le fun same => differ (by rw [same])
        exact last (pos + 1) lt le_rfl (List.isPrefixOf_iff_prefix.mp here)
    · rename_i away
      rw [ih]
      constructor
      · rintro ⟨occurs, le, last⟩
        refine ⟨occurs, Nat.le_succ_of_le le, fun j lt le' => ?_⟩
        rcases Nat.le_succ_iff.mp le' with before | rfl
        · exact last j lt before
        · exact fun here => away (List.isPrefixOf_iff_prefix.mpr here)
      · rintro ⟨occurs, le, last⟩
        refine ⟨occurs, ?_, fun j lt le' => last j lt (Nat.le_succ_of_le le')⟩
        rcases Nat.le_succ_iff.mp le with before | rfl
        · exact before
        · exact absurd (List.isPrefixOf_iff_prefix.mpr occurs) away

theorem rfindFrom_eq_none_iff {pos : Nat} :
    rfindFrom pat s pos = none ↔ ∀ j ≤ pos, ¬ pat <+: s.drop j := by
  induction pos with
  | zero =>
    rw [rfindFrom, ite_eq_right_iff, List.isPrefixOf_iff_prefix]
    constructor
    · intro away j le occurs
      rw [Nat.le_zero.mp le] at occurs
      exact nomatch away occurs
    · intro away occurs
      exact absurd occurs (away 0 le_rfl)
  | succ pos ih =>
    rw [rfindFrom]
    split
    · rename_i here
      refine iff_of_false nofun fun away => ?_
      exact away (pos + 1) le_rfl (List.isPrefixOf_iff_prefix.mp here)
    · rename_i away
      rw [ih]
      constructor
      · intro before j le
        rcases Nat.le_succ_iff.mp le with le | rfl
        · exact before j le
        · exact fun here => away (List.isPrefixOf_iff_prefix.mpr here)
      · exact fun all j le => all j (Nat.le_succ_of_le le)

theorem rfind_eq_none_iff : rfind pat s = none ↔ ¬ pat <:+: s := by
  rw [rfind, rfindFrom_eq_none_iff, infix_iff_drop]
  simp only [not_exists, not_and]

/-- **The last occurrence is one after whose beginning the pattern does not occur again.** -/
theorem rfind_eq_some_iff (nonempty : pat ≠ []) :
    rfind pat s = some i ↔ pat <+: s.drop i ∧ ¬ pat <:+: s.drop (i + 1) := by
  -- A pattern that is not empty begins before the end.
  have inside {j : Nat} (occurs : pat <+: s.drop j) : j < s.length := by
    have fits := occurs.length_le
    have pos := List.length_pos_iff.mpr nonempty
    rw [List.length_drop] at fits
    omega
  rw [rfind, rfindFrom_eq_some_iff, infix_iff_drop]
  refine and_congr_right fun occurs => ?_
  constructor
  · rintro ⟨-, last⟩ ⟨k, -, again⟩
    rw [List.drop_drop] at again
    exact last (i + 1 + k) (by omega) (inside again).le again
  · intro last
    refine ⟨(inside occurs).le, fun j lt _ again => last ⟨j - (i + 1), ?_, ?_⟩⟩
    · rw [List.length_drop]
      have before := inside again
      omega
    · rw [List.drop_drop, Nat.add_sub_cancel' lt]
      exact again

/-- **A pattern at the end is the last occurrence.** -/
theorem rfind_append (nonempty : pat ≠ []) : rfind pat (s ++ pat) = some s.length := by
  rw [rfind_eq_some_iff nonempty, List.drop_left]
  refine ⟨List.prefix_refl pat, fun again => ?_⟩
  -- What is behind its beginning is shorter.
  have fits := again.length_le
  have pos := List.length_pos_iff.mpr nonempty
  rw [List.length_drop, List.length_append] at fits
  omega

/-! ## Every occurrence -/

/-- The occurrences of a pattern are replaced from left to right, after some characters that belong
to the last one. -/
def replaceFrom (pat new : List α) : Nat → List α → List α
  | _, [] => []
  | skip + 1, _ :: s => replaceFrom pat new skip s
  | 0, c :: s =>
    if pat.isPrefixOf (c :: s) then new ++ replaceFrom pat new (pat.length - 1) s
    else c :: replaceFrom pat new 0 s

/-- Every occurrence of a pattern is replaced. -/
def replaceAll (pat new s : List α) : List α := replaceFrom pat new 0 s

theorem replaceFrom_append : replaceFrom pat new s.length (s ++ t) = replaceAll pat new t := by
  induction s with
  | nil => rfl
  | cons c s ih => exact ih

theorem replaceAll_prefix (nonempty : pat ≠ []) :
    replaceAll pat new (pat ++ t) = new ++ replaceAll pat new t := by
  obtain ⟨c, rest, rfl⟩ := List.exists_cons_of_ne_nil nonempty
  have here : (c :: rest).isPrefixOf (c :: (rest ++ t)) = true :=
    List.isPrefixOf_iff_prefix.mpr (List.prefix_append (c :: rest) t)
  exact (if_pos here).trans (congrArg _ replaceFrom_append)

/-- What comes before the first occurrence stays. -/
theorem replaceAll_append_of_not (away : ∀ i < s.length, ¬ pat <+: (s ++ t).drop i) :
    replaceAll pat new (s ++ t) = s ++ replaceAll pat new t := by
  induction s with
  | nil => rfl
  | cons c s ih =>
    have first : ¬ pat.isPrefixOf (c :: (s ++ t)) = true := fun here =>
      away 0 (Nat.zero_lt_succ _) (List.isPrefixOf_iff_prefix.mp here)
    refine (if_neg first).trans (congrArg (List.cons c) ?_)
    exact ih fun i lt => away (i + 1) (Nat.succ_lt_succ lt)

end Searches

/-- An occurrence that leaves nothing behind is at the end. -/
theorem eq_take_append_of_prefix (h : pat <+: s.drop i) (last : s.length - i - pat.length = 0) :
    s = s.take i ++ pat := by
  have same : pat = s.drop i := h.eq_of_length_le (by
    rw [List.length_drop]
    omega)
  rw [same, List.take_append_drop]

/-! ## Characters that are kept apart -/

/-- No `x` is followed by a `y`. -/
def Apart (x y : α) (s : List α) : Prop := s.IsChain fun a b => ¬ (a = x ∧ b = y)

section Apart

variable {x y : α} {u v : List α}

theorem apart_append :
    Apart x y (s ++ t) ↔ Apart x y s ∧ Apart x y t ∧
      ∀ a ∈ s.getLast?, ∀ b ∈ t.head?, ¬ (a = x ∧ b = y) := List.isChain_append

theorem apart_of_notMem_left (h : x ∉ s) : Apart x y s := by
  refine List.isChain_iff_getElem.mpr fun i lt pair => h ?_
  rw [← pair.1]
  exact List.getElem_mem _

theorem apart_of_notMem_right (h : y ∉ s) : Apart x y s := by
  refine List.isChain_iff_getElem.mpr fun i lt pair => h ?_
  rw [← pair.2]
  exact List.getElem_mem _

theorem Apart.inside (h : Apart x y t) (sub : s <:+: t) : Apart x y s := List.IsChain.infix h sub

/-- A pattern with the two characters side by side does not occur. -/
theorem Apart.not_infix (h : Apart x y s) : ¬ u ++ x :: y :: v <:+: s := by
  intro sub
  have pair : [x, y] <:+: s := by
    refine List.IsInfix.trans ⟨u, v, ?_⟩ sub
    simp
  exact (List.isChain_cons_cons.mp (h.inside pair)).1 ⟨rfl, rfl⟩

/-- Nor does it begin in a text that keeps them apart, where the text ends as the pattern begins. -/
theorem Apart.not_prefix (h : Apart x y (s ++ (u ++ [x]))) (here : u ++ x :: y :: v <+: t) :
    ∀ i < s.length, ¬ u ++ x :: y :: v <+: (s ++ t).drop i := by
  intro i lt occurs
  obtain ⟨rest, rfl⟩ := here
  have begins : (s ++ (u ++ [x])).drop i <+: (s ++ (u ++ x :: y :: v ++ rest)).drop i := by
    refine List.IsPrefix.drop ⟨y :: v ++ rest, ?_⟩ i
    simp
  -- The occurrence up to its second character ends where the text does, or before.
  have pair : u ++ [x, y] <+: (s ++ (u ++ [x])).drop i := by
    refine List.prefix_of_prefix_length_le (List.IsPrefix.trans ⟨v, ?_⟩ occurs) begins ?_
    · simp
    · simp only [List.length_drop, List.length_append, List.length_cons, List.length_nil]
      omega
  exact h.not_infix (v := []) (pair.isInfix.trans (List.drop_suffix i _).isInfix)

variable [DecidableEq α]

instance : Decidable (Apart x y s) := inferInstanceAs (Decidable (s.IsChain _))

theorem find_of_apart (h : Apart x y s) : find (u ++ x :: y :: v) s = none :=
  find_eq_none_iff.mpr h.not_infix

/-- **A search runs past a text that keeps two of the pattern's characters apart.** -/
theorem find_append (h : Apart x y (s ++ (u ++ [x]))) (here : u ++ x :: y :: v <+: t) :
    find (u ++ x :: y :: v) (s ++ t) = some s.length :=
  find_append_of_not (h.not_prefix here) here

/-- **A pattern after a text that keeps two of its characters apart is the next to be replaced.** -/
theorem replaceAll_append (h : Apart x y (s ++ (u ++ [x]))) :
    replaceAll (u ++ x :: y :: v) new (s ++ (u ++ x :: y :: v) ++ t) =
      s ++ new ++ replaceAll (u ++ x :: y :: v) new t := by
  rw [List.append_assoc,
    replaceAll_append_of_not (h.not_prefix (List.prefix_append (u ++ x :: y :: v) t)),
    replaceAll_prefix (by simp), List.append_assoc]

/-! ### Patterns of two characters -/

theorem find_pair_of_apart (h : Apart x y s) : find [x, y] s = none :=
  find_of_apart (u := []) (v := []) h

theorem find_pair_append (h : Apart x y (s ++ [x])) (here : [x, y] <+: t) :
    find [x, y] (s ++ t) = some s.length := find_append (u := []) (v := []) h here

theorem replaceAll_pair_append (h : Apart x y (s ++ [x])) :
    replaceAll [x, y] new (s ++ x :: y :: t) = s ++ new ++ replaceAll [x, y] new t := by
  have replaced : replaceAll ([] ++ x :: y :: []) new (s ++ ([] ++ x :: y :: []) ++ t) = _ :=
    replaceAll_append h
  rwa [List.append_assoc] at replaced

end Apart

end Text
