import RmwGurumdds.Exec.Program

/-!
# Two programs in lockstep

`Follows R m m'` relates a program to another that takes the same steps in a state of its own:
wherever `m'` returns, `m` returns the same value, and the relation between the two states is kept.
Nothing is said of the runs in which `m'` raises, so the judgement suits a leader that checks what
its follower does not.

The rules are those of a triple, one for each way of building a program. A loop whose counter wraps
never returns, so a counted loop is followed in the rounds it has (`Follows.counted`).
-/

namespace Exec

variable {ε σ τ α β : Type}

/-- From related states, `m` returns wherever `m'` does, with the same value and states that are
related again. -/
def Follows (R : σ → τ → Prop) (m : EStateM ε σ α) (m' : EStateM ε τ α) : Prop :=
  ∀ s t, R s t → ∀ a t', m' t = .ok a t' → ∃ s', m s = .ok a s' ∧ R s' t'

/-- A sequence returns when its parts do. -/
theorem bind_eq_ok {x : EStateM ε σ α} {f : α → EStateM ε σ β} {s s'' : σ} {b : β} :
    (x >>= f) s = .ok b s'' ↔ ∃ a s', x s = .ok a s' ∧ f a s' = .ok b s'' := by
  constructor
  · intro run
    cases first : x s with
    | ok a s' =>
      rw [bind_ok first] at run
      exact ⟨a, s', rfl, run⟩
    | error e s' =>
      rw [bind_error first] at run
      exact nomatch run
  · rintro ⟨a, s', first, rest⟩
    rw [bind_ok first, rest]

/-- Some run of `m` returns. -/
def Returns (m : EStateM ε σ α) : Prop := ∃ s a s', m s = .ok a s'

theorem Returns.bind {x : EStateM ε σ α} {f : α → EStateM ε σ β} (h : Returns (x >>= f)) :
    Returns x ∧ ∃ a, Returns (f a) := by
  obtain ⟨s, b, s'', run⟩ := h
  obtain ⟨a, s', first, rest⟩ := bind_eq_ok.mp run
  exact ⟨⟨s, a, s', first⟩, a, s', b, s'', rest⟩

/-- A loop returns when its rounds do. -/
theorem Returns.loop {body : Nat → EStateM ε σ α} :
    ∀ rounds i, Returns (loop body rounds i) → ∀ j < rounds, Returns (body (i + j)) := by
  intro rounds
  induction rounds with
  | zero => exact fun _ _ _ lt => absurd lt (Nat.not_lt_zero _)
  | succ rounds ih =>
    intro i returns j lt
    obtain ⟨first, _, rest⟩ := returns.bind
    cases j with
    | zero => exact first
    | succ j =>
      have later := ih (i + 1) rest.bind.1 j (Nat.lt_of_succ_lt_succ lt)
      rwa [Nat.add_assoc, Nat.add_comm 1 j] at later

section Rules

variable {R : σ → τ → Prop}

theorem Follows.pure (a : α) :
    Follows R (pure a : EStateM ε σ α) (pure a : EStateM ε τ α) := by
  rintro s t related b t' ⟨⟩
  exact ⟨s, rfl, related⟩

/-- A leader that raises has no follower to answer for. -/
theorem Follows.throw {m : EStateM ε σ α} (e : ε) : Follows R m (throw e : EStateM ε τ α) :=
  fun _ _ _ _ _ run => nomatch run

theorem Follows.bind {m : EStateM ε σ α} {m' : EStateM ε τ α} {f : α → EStateM ε σ β}
    {f' : α → EStateM ε τ β} (h : Follows R m m') (k : ∀ a, Follows R (f a) (f' a)) :
    Follows R (m >>= f) (m' >>= f') := by
  intro s t related b t'' run
  obtain ⟨a, t', first, rest⟩ := bind_eq_ok.mp run
  obtain ⟨s', mine, related'⟩ := h s t related a t' first
  obtain ⟨s'', others, related''⟩ := k a s' t' related' b t'' rest
  exact ⟨s'', bind_eq_ok.mpr ⟨a, s', mine, others⟩, related''⟩

theorem Follows.ite {c : Prop} [Decidable c] {m n : EStateM ε σ α} {m' n' : EStateM ε τ α}
    (h : c → Follows R m m') (h' : ¬ c → Follows R n n') :
    Follows R (if c then m else n) (if c then m' else n') := by
  split
  · exact h ‹c›
  · exact h' ‹¬ c›

/-- Rounds that follow each other make loops that do. -/
theorem Follows.loop {body : Nat → EStateM ε σ α} {body' : Nat → EStateM ε τ α} :
    ∀ rounds i, (∀ j < rounds, Follows R (body (i + j)) (body' (i + j))) →
      Follows R (loop body rounds i) (loop body' rounds i) := by
  intro rounds
  induction rounds with
  | zero => exact fun _ _ => .pure []
  | succ rounds ih =>
    intro i h
    refine Follows.bind (h 0 (Nat.succ_pos _)) fun a => ?_
    refine Follows.bind (ih (i + 1) fun j lt => ?_) fun as => .pure (a :: as)
    have next := h (j + 1) (Nat.succ_lt_succ lt)
    rwa [Nat.add_comm j 1, ← Nat.add_assoc] at next

/-- A counter that wraps is never out of its loop. -/
theorem spin_ne_ok {stop : ε} {modulus : Nat} {body : Nat → EStateM ε σ α} {b : β} {s' : σ} :
    ∀ fuel i s, spin stop modulus body fuel i s ≠ .ok b s' := by
  intro fuel
  induction fuel with
  | zero => exact fun _ _ run => nomatch run
  | succ fuel ih =>
    intro i s run
    obtain ⟨_, s', _, rest⟩ := bind_eq_ok.mp run
    exact ih _ s' rest

/-- **Counted loops follow each other in the rounds they have**, on whatever fuel. -/
theorem Follows.counted {stop stop' : ε} {modulus fuel fuel' bound : Nat}
    {body : Nat → EStateM ε σ α} {body' : Nat → EStateM ε τ α}
    (h : ∀ i < bound, Follows R (body i) (body' i)) :
    Follows R (counted stop modulus fuel bound body) (counted stop' modulus fuel' bound body') := by
  unfold Exec.counted
  split
  · refine Follows.loop bound 0 fun j lt => ?_
    rw [Nat.zero_add]
    exact h j lt
  · exact fun _ t _ _ _ run => absurd run (spin_ne_ok fuel' 0 t)

end Rules

end Exec
