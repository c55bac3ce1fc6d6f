import Mathlib.Data.List.Nodup
import RmwGurumdds.Exec.Program

/-!
# Attempts

A caller who is told that a program failed may call it again. The attempts of such a caller start
from the state that the last one left, until one returns (`Attempts`); what others do may differ
from attempt to attempt. What a single attempt does to an invariant, by each of its two ways out, is
what all of them do (`Attempts.ends`).

An attempt that gets far enough does certain things at most once each, and one thing always. Whether
something was done twice over all attempts is then a matter of how many got that far (`Ledger`).
-/

namespace Exec

variable {ε σ ι β : Type}

/-- The attempts made from `s`, and the state they leave. All but the last raised, and so did the
last one unless `returned`. -/
inductive Attempts (m : ι → EStateM ε σ Unit) (s : σ) : List ι → Bool → σ → Prop where
  | start : Attempts m s [] false s
  | raised {is : List ι} {i : ι} {e : ε} {s' s'' : σ} (before : Attempts m s is false s')
      (run : m i s' = .error e s'') : Attempts m s (is ++ [i]) false s''
  | returned {is : List ι} {i : ι} {s' s'' : σ} (before : Attempts m s is false s')
      (run : m i s' = .ok () s'') : Attempts m s (is ++ [i]) true s''

/-- A failure, and a retry that returns. -/
theorem Attempts.retried {m : ι → EStateM ε σ Unit} {s s' s'' : σ} {i j : ι} {e : ε}
    (first : m i s = .error e s') (second : m j s' = .ok () s'') :
    Attempts m s [i, j] true s'' :=
  .returned (.raised .start first) second

/-- **What one attempt makes of an invariant, all attempts make of it.** -/
theorem Attempts.ends {m : ι → EStateM ε σ Unit} {s s' : σ} {is : List ι} {returned : Bool}
    {I R : List ι → σ → Prop} (attempts : Attempts m s is returned s') (start : I [] s)
    (step : ∀ is i, Triple (I is) (m i) (fun _ => R (is ++ [i])) fun _ => I (is ++ [i])) :
    if returned then R is s' else I is s' := by
  induction attempts with
  | start => exact start
  | raised before run ih => exact (step _ _).error ih run
  | returned before run ih => exact (step _ _).ok ih run

/-! ## What is done over all attempts -/

variable [DecidableEq β]

/-- What is in the log was done at most once in each attempt that began, and the marker was done in
each of them. -/
structure Ledger (begins : ι → Bool) (marker : β) (is : List ι) (log : List β) : Prop where
  atMost : ∀ b, log.count b ≤ is.countP begins
  marked : log.count marker = is.countP begins

section Ledger

variable {begins : ι → Bool} {marker : β} {is : List ι} {log added : List β} {i : ι}

theorem Ledger.nil : Ledger begins marker [] [] where
  atMost _ := by simp
  marked := by simp

/-- An attempt that does not begin does nothing. -/
theorem Ledger.idle (ledger : Ledger begins marker is log) (idle : begins i = false) :
    Ledger begins marker (is ++ [i]) log where
  atMost b := by simpa [List.countP_append, idle] using ledger.atMost b
  marked := by simpa [List.countP_append, idle] using ledger.marked

/-- An attempt that begins does nothing twice. -/
theorem Ledger.more (ledger : Ledger begins marker is log) (begun : begins i = true)
    (once : added.Nodup) (mem : marker ∈ added) :
    Ledger begins marker (is ++ [i]) (added ++ log) where
  atMost b := by
    have before := ledger.atMost b
    have now := List.nodup_iff_count_le_one.mp once b
    rw [List.count_append, List.countP_append, List.countP_singleton, if_pos begun, Nat.add_comm]
    exact Nat.add_le_add before now
  marked := by
    rw [List.count_append, List.countP_append, List.countP_singleton, if_pos begun,
      ledger.marked, List.count_eq_one_of_mem once mem, Nat.add_comm]

/-- **Nothing was done twice exactly if at most one attempt began.** -/
theorem Ledger.nodup_iff (ledger : Ledger begins marker is log) :
    log.Nodup ↔ is.countP begins ≤ 1 := by
  constructor
  · intro once
    rw [← ledger.marked]
    exact List.nodup_iff_count_le_one.mp once marker
  · intro few
    refine List.nodup_iff_count_le_one.mpr fun b => ?_
    exact Nat.le_trans (ledger.atMost b) few

end Ledger

end Exec
