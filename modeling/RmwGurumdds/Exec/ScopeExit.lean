import RmwGurumdds.Exec.Program

/-!
# The way out

Code that reports failure by what it returns does something on the way out: the caller of a function
that failed says so in its own words (`rescue`), and a scope that is left early undoes what it has
done (`scopeExit`). What a scope undoes may fail in turn; nobody is told, so the undoing is a
program that raises nothing.

Both have a rule for triples, in which the way out of the one part is the way into the other.
-/

namespace Exec

variable {ε ε' σ α : Type}

/-- What is done instead when a program raises. The state at the raise stands. -/
def rescue (m : EStateM ε σ α) (handler : ε → EStateM ε' σ α) : EStateM ε' σ α := fun s =>
  match m s with
  | .ok a s' => .ok a s'
  | .error e s' => handler e s'

/-- A scope that is left by a raise runs its cleanup, and raises what it raised. -/
def scopeExit (cleanup : EStateM Empty σ Unit) (body : EStateM ε σ α) : EStateM ε σ α :=
  rescue body fun e s => .error e (exec cleanup s).2

section Rules

variable {P : σ → Prop} {Q : α → σ → Prop} {F : ε → σ → Prop} {E : ε' → σ → Prop}

theorem Triple.rescue {m : EStateM ε σ α} {handler : ε → EStateM ε' σ α} (h : Triple P m Q F)
    (k : ∀ e, Triple (F e) (handler e) Q E) : Triple P (rescue m handler) Q E := by
  intro s hs
  have end_ := h s hs
  unfold Exec.rescue
  cases run : m s with
  | ok a s' =>
    rw [run] at end_
    exact end_
  | error e s' =>
    rw [run] at end_
    exact k e s' end_

/-- Nothing is done instead of a program that does not raise. -/
theorem Triple.unrescued {m : EStateM ε σ α} {handler : ε → EStateM ε' σ α}
    (h : Triple P m Q fun _ _ => False) : Triple P (Exec.rescue m handler) Q E :=
  Triple.rescue h fun _ _ never => never.elim

/-- **What a scope leaves behind when it is left early** is what its cleanup makes of it. -/
theorem Triple.scopeExit {cleanup : EStateM Empty σ Unit} {body : EStateM ε σ α}
    {E : ε → σ → Prop} (h : Triple P body Q F)
    (k : ∀ e, Triple (F e) cleanup (fun _ => E e) nofun) :
    Triple P (scopeExit cleanup body) Q E :=
  Triple.rescue h fun e _ raised => (k e).exec raised

end Rules

end Exec
