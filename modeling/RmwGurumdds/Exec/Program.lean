import Mathlib.Data.List.Basic

/-!
# Programs with state and exceptions

The imperative code this development models runs in `EStateM`: it changes a state and may raise an
exception, and the state at the raise survives. This module holds what every such program is
reasoned with.

A **loop** is `for (i = start; …; i++)` over a known number of rounds and collects what the rounds
return. A counter that is too narrow for its bound never reaches it: it wraps, and the loop ends
only through its body. `counted` is that loop, with `spin` for the case that wraps; `spin` runs on
fuel and says so when the fuel is gone, so that a result about it must show that the fuel lasts.

`Triple` is the partial-correctness judgement with one postcondition for each way out, and a rule
for each way of building a program. Equations between runs go through `bind_ok` and `bind_error`.
-/

namespace Exec

variable {ε σ α β : Type}

/-! ## Equations -/

/-- A program that returns hands its result and state on. -/
theorem bind_ok {x : EStateM ε σ α} {f : α → EStateM ε σ β} {s s' : σ} {a : α}
    (h : x s = .ok a s') : (x >>= f) s = f a s' := by
  show EStateM.bind x f s = f a s'
  rw [EStateM.bind, h]

/-- A program that raises ends what follows. -/
theorem bind_error {x : EStateM ε σ α} {f : α → EStateM ε σ β} {s s' : σ} {e : ε}
    (h : x s = .error e s') : (x >>= f) s = .error e s' := by
  show EStateM.bind x f s = .error e s'
  rw [EStateM.bind, h]

/-- What follows has returned only where what came before did. -/
theorem of_bind_ok {x : EStateM ε σ α} {f : α → EStateM ε σ β} {s s' : σ} {b : β}
    (h : (x >>= f) s = .ok b s') : ∃ a s'', x s = .ok a s'' ∧ f a s'' = .ok b s' := by
  cases run : x s with
  | ok a s'' =>
    rw [bind_ok run] at h
    exact ⟨a, s'', rfl, h⟩
  | error e s'' =>
    rw [bind_error run] at h
    cases h

@[simp] theorem get_run (s : σ) : (get : EStateM ε σ σ) s = .ok s s := rfl

@[simp] theorem modify_run (f : σ → σ) (s : σ) :
    (modify f : EStateM ε σ Unit) s = .ok () (f s) := rfl

/-! ## Loops -/

/-- `rounds` rounds of a body, the counter starting at `i`. -/
def loop (body : Nat → EStateM ε σ α) : Nat → Nat → EStateM ε σ (List α)
  | 0, _ => pure []
  | rounds + 1, i => do
    let a ← body i
    let as ← loop body rounds (i + 1)
    return a :: as

/-- A loop whose counter wraps below its bound: only the body ends it. -/
def spin (stop : ε) (modulus : Nat) (body : Nat → EStateM ε σ α) : Nat → Nat → EStateM ε σ β
  | 0, _ => throw stop
  | fuel + 1, i => do
    let _ ← body i
    spin stop modulus body fuel ((i + 1) % modulus)

/-- `for (i = 0; i < bound; i++)` with a counter that wraps at `modulus`. -/
def counted (stop : ε) (modulus fuel bound : Nat) (body : Nat → EStateM ε σ α) :
    EStateM ε σ (List α) :=
  if bound < modulus then loop body bound 0 else spin stop modulus body fuel 0

theorem counted_eq_loop {stop : ε} {modulus fuel bound : Nat} (h : bound < modulus)
    (body : Nat → EStateM ε σ α) : counted stop modulus fuel bound body = loop body bound 0 :=
  if_pos h

/-! ## Triples -/

/-- From a state in `P`, the program returns into `Q` or raises into `E`. -/
def Triple (P : σ → Prop) (m : EStateM ε σ α) (Q : α → σ → Prop) (E : ε → σ → Prop) : Prop :=
  ∀ s, P s → match m s with
    | .ok a s' => Q a s'
    | .error e s' => E e s'

section Rules

variable {P P' : σ → Prop} {Q Q' : α → σ → Prop} {R : β → σ → Prop} {E : ε → σ → Prop}

theorem Triple.ok {m : EStateM ε σ α} (h : Triple P m Q E) {s s' : σ} {a : α} (hs : P s)
    (run : m s = .ok a s') : Q a s' := by
  have end_ := h s hs
  rwa [run] at end_

theorem Triple.error {m : EStateM ε σ α} (h : Triple P m Q E) {s s' : σ} {e : ε} (hs : P s)
    (run : m s = .error e s') : E e s' := by
  have end_ := h s hs
  rwa [run] at end_

theorem Triple.pure {a : α} (h : ∀ s, P s → Q a s) : Triple P (pure a : EStateM ε σ α) Q E :=
  fun s hs => h s hs

theorem Triple.throw {e : ε} (h : ∀ s, P s → E e s) :
    Triple P (throw e : EStateM ε σ α) Q E :=
  fun s hs => h s hs

/-- A triple holds for a stronger start and a weaker return. -/
theorem Triple.weaken {m : EStateM ε σ α} (h : Triple P m Q E) (pre : ∀ s, P' s → P s)
    (post : ∀ a s, Q a s → Q' a s) : Triple P' m Q' E := by
  intro s hs
  have end_ := h s (pre s hs)
  cases run : m s with
  | ok a s' => rw [run] at end_; exact post a s' end_
  | error e s' => rw [run] at end_; exact end_

/-- Sequencing meets in the middle. -/
theorem Triple.bind {m : EStateM ε σ α} {f : α → EStateM ε σ β} (h : Triple P m Q E)
    (k : ∀ a, Triple (Q a) (f a) R E) : Triple P (m >>= f) R E := by
  intro s hs
  have mid := h s hs
  cases run : m s with
  | ok a s' =>
    rw [run] at mid
    rw [bind_ok run]
    exact k a s' mid
  | error e s' =>
    rw [run] at mid
    rw [bind_error run]
    exact mid

/-- What every round preserves, the loop preserves. -/
theorem Triple.loop {body : Nat → EStateM ε σ α} (h : ∀ i, Triple P (body i) (fun _ => P) E) :
    ∀ rounds i, Triple P (loop body rounds i) (fun _ => P) E
  | 0, _ => Triple.pure fun _ hs => hs
  | rounds + 1, i =>
    (h i).bind fun _ => (Triple.loop h rounds (i + 1)).bind fun _ => Triple.pure fun _ hs => hs

/-- A loop that only its body ends does end, when every round lowers a measure and the fuel starts
above it. -/
theorem Triple.spin {stop : ε} {modulus : Nat} {body : Nat → EStateM ε σ α} (size : σ → Nat)
    (h : ∀ i k, Triple (fun s => P s ∧ size s = k) (body i) (fun _ s => P s ∧ size s < k) E) :
    ∀ fuel i, Triple (fun s => P s ∧ size s < fuel) (spin stop modulus body fuel i) R E
  | 0, _ => fun _ hs => absurd hs.2 (Nat.not_lt_zero _)
  | fuel + 1, i => by
    intro s ⟨hs, lt⟩
    refine Triple.bind (R := R) (h i (size s)) (fun _ => ?_) s ⟨hs, rfl⟩
    refine Triple.weaken (Triple.spin size h fuel _) (fun s' hs' => ?_) (fun _ _ hr => hr)
    exact ⟨hs'.1, Nat.lt_of_lt_of_le hs'.2 (Nat.lt_succ_iff.mp lt)⟩

/-- **A counted loop preserves what its rounds preserve, whether its counter wraps or not.** -/
theorem Triple.counted {stop : ε} {modulus fuel bound : Nat} {body : Nat → EStateM ε σ α}
    (size : σ → Nat) (lasts : ∀ s, P s → size s < fuel)
    (h : ∀ i k, Triple (fun s => P s ∧ size s = k) (body i) (fun _ s => P s ∧ size s < k) E) :
    Triple P (counted stop modulus fuel bound body) (fun _ => P) E := by
  unfold Exec.counted
  split
  · refine Triple.loop (fun i s hs => ?_) bound 0
    exact Triple.weaken (h i (size s)) (fun _ hs => hs) (fun _ _ hr => hr.1) s ⟨hs, rfl⟩
  · exact Triple.weaken (Triple.spin size h fuel 0) (fun s hs => ⟨hs, lasts s hs⟩)
      (fun _ _ hr => hr)

/-- What is known of the start and does not depend on the state. -/
theorem Triple.assume {φ : Prop} {m : EStateM ε σ α} (h : φ → Triple P m Q E) :
    Triple (fun s => P s ∧ φ) m Q E :=
  fun s hs => h hs.2 s hs.1

/-- A start that is one of several. -/
theorem Triple.choose {ι : Type} {P : ι → σ → Prop} {m : EStateM ε σ α}
    (h : ∀ i, Triple (P i) m Q E) : Triple (fun s => ∃ i, P i s) m Q E := by
  rintro s ⟨i, hs⟩
  exact h i s hs

/-- Both branches of a conditional. -/
theorem Triple.ite {c : Prop} [Decidable c] {m m' : EStateM ε σ α}
    (h : c → Triple P m Q E) (h' : ¬ c → Triple P m' Q E) :
    Triple P (if c then m else m') Q E := by
  split
  · exact h ‹c›
  · exact h' ‹¬ c›

theorem Triple.get {Q : σ → σ → Prop} (h : ∀ s, P s → Q s s) :
    Triple P (get : EStateM ε σ σ) Q E :=
  fun s hs => h s hs

theorem Triple.modify {f : σ → σ} {R : Unit → σ → Prop} (h : ∀ s, P s → R () (f s)) :
    Triple P (modify f : EStateM ε σ Unit) R E :=
  fun s hs => h s hs

end Rules

/-! ## Frames -/

/-- However the program ends, the part of the state that `part` reads is as it was. -/
def Keeps {τ : Type} (part : σ → τ) (m : EStateM ε σ α) : Prop :=
  ∀ was, Triple (fun s => part s = was) m (fun _ s => part s = was) fun _ s => part s = was

section Frames

variable {τ : Type} {part : σ → τ}

theorem Keeps.pure {a : α} : Keeps part (pure a : EStateM ε σ α) :=
  fun _ => Triple.pure fun _ same => same

theorem Keeps.throw {e : ε} : Keeps part (throw e : EStateM ε σ α) :=
  fun _ => Triple.throw fun _ same => same

theorem Keeps.modify {f : σ → σ} (h : ∀ s, part (f s) = part s) :
    Keeps part (modify f : EStateM ε σ Unit) :=
  fun _ => Triple.modify fun s same => (h s).trans same

theorem Keeps.get : Keeps part (get : EStateM ε σ σ) := fun _ => Triple.get fun _ same => same

theorem Keeps.bind {m : EStateM ε σ α} {f : α → EStateM ε σ β} (h : Keeps part m)
    (k : ∀ a, Keeps part (f a)) : Keeps part (m >>= f) :=
  fun was => (h was).bind fun a => k a was

theorem Keeps.ite {c : Prop} [Decidable c] {m m' : EStateM ε σ α} (h : Keeps part m)
    (h' : Keeps part m') : Keeps part (if c then m else m') :=
  fun was => Triple.ite (fun _ => h was) fun _ => h' was

theorem Keeps.loop {body : Nat → EStateM ε σ α} (h : ∀ i, Keeps part (body i)) :
    ∀ rounds i, Keeps part (loop body rounds i) :=
  fun rounds i was => Triple.loop (fun j => h j was) rounds i

/-- Also a loop whose counter wraps, however long it runs. -/
theorem Keeps.counted {stop : ε} {modulus fuel bound : Nat} {body : Nat → EStateM ε σ α}
    (h : ∀ i, Keeps part (body i)) : Keeps part (counted stop modulus fuel bound body) := by
  have spun : ∀ fuel i, Keeps part (spin stop modulus body fuel i : EStateM ε σ (List α)) := by
    intro fuel
    induction fuel with
    | zero => exact fun _ => .throw
    | succ fuel ih => exact fun i => (h i).bind fun _ => ih _
  unfold Exec.counted
  split
  · exact Keeps.loop h bound 0
  · exact spun fuel 0

end Frames

/-! ## Programs that raise nothing -/

/-- What a program that raises nothing returns, and the state it leaves. -/
def exec (m : EStateM Empty σ α) (s : σ) : α × σ :=
  match m s with
  | .ok a s' => (a, s')
  | .error e _ => nomatch e

/-- Such a program ends as its triples say. -/
theorem Triple.exec {P : σ → Prop} {m : EStateM Empty σ α} {Q : α → σ → Prop}
    {E : Empty → σ → Prop} (h : Triple P m Q E) {s : σ} (hs : P s) :
    Q (exec m s).1 (exec m s).2 := by
  have end_ := h s hs
  unfold Exec.exec
  cases run : m s with
  | ok a s' => rw [run] at end_; exact end_
  | error e _ => exact nomatch e

/-- There is no other way for it to end. -/
theorem Keeps.total {τ : Type} {part : σ → τ} {m : EStateM Empty σ α} (h : Keeps part m) (was : τ)
    {E : Empty → σ → Prop} :
    Triple (fun s => part s = was) m (fun _ s => part s = was) E := by
  intro s hs
  have end_ := h was s hs
  cases run : m s with
  | ok a s' => rwa [run] at end_
  | error e _ => exact nomatch e

end Exec
