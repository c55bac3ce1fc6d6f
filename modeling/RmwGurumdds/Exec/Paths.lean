import RmwGurumdds.Exec.ScopeExit

/-!
# Paths

Code that sets something up makes one call after the other and leaves at the first that fails. The
calls it makes when none fails are its path. Which call fails first is a matter of the path and of
what the calls answer (`firstFailure`); it can be said without the code.

`Walks` says of the code that it leaves there: it returns if no call of the path fails, and raises
at the first that does. What holds on the way out may be said for each call separately.
-/

namespace Exec

variable {Step ε ε' σ α β : Type}

/-- The first call of a path that fails. -/
def firstFailure (succeeds : Step → Bool) (path : List Step) : Option Step :=
  path.find? fun step => !succeeds step

/-- From a state in `P`, the program makes the calls of a path. It returns into `Q` if all of them
succeed, and raises into what `E` says of the first that fails. -/
def Walks (succeeds : Step → Bool) (path : List Step) (P : σ → Prop) (m : EStateM ε σ α)
    (Q : α → σ → Prop) (E : Step → ε → σ → Prop) : Prop :=
  ∀ s, P s → match firstFailure succeeds path, m s with
    | none, .ok a s' => Q a s'
    | some step, .error e s' => E step e s'
    | _, _ => False

section Rules

variable {succeeds : Step → Bool} {path path' : List Step} {P : σ → Prop} {Q : α → σ → Prop}
  {R : β → σ → Prop} {E : Step → ε → σ → Prop} {E' : Step → ε' → σ → Prop}

@[simp] theorem firstFailure_append : firstFailure succeeds (path ++ path') =
    (firstFailure succeeds path).or (firstFailure succeeds path') :=
  List.find?_append

/-- What is known when no call of the path fails. -/
theorem Walks.returns {m : EStateM ε σ α} (h : Walks succeeds path P m Q E) {s : σ} (hs : P s)
    (smooth : firstFailure succeeds path = none) : ∃ a s', m s = .ok a s' ∧ Q a s' := by
  have ends := h s hs
  rw [smooth] at ends
  cases run : m s with
  | ok a s' =>
    rw [run] at ends
    exact ⟨a, s', rfl, ends⟩
  | error e s' =>
    rw [run] at ends
    exact ends.elim

/-- What is known when a call of the path fails. -/
theorem Walks.raises {m : EStateM ε σ α} (h : Walks succeeds path P m Q E) {s : σ} (hs : P s)
    {step : Step} (fails : firstFailure succeeds path = some step) :
    ∃ e s', m s = .error e s' ∧ E step e s' := by
  have ends := h s hs
  rw [fails] at ends
  cases run : m s with
  | ok a s' =>
    rw [run] at ends
    exact ends.elim
  | error e s' =>
    rw [run] at ends
    exact ⟨e, s', rfl, ends⟩

/-- The two ways out make the judgement. -/
theorem Walks.intro {m : EStateM ε σ α}
    (returns : ∀ s, P s → firstFailure succeeds path = none → ∃ a s', m s = .ok a s' ∧ Q a s')
    (raises : ∀ s, P s → ∀ step, firstFailure succeeds path = some step →
      ∃ e s', m s = .error e s' ∧ E step e s') :
    Walks succeeds path P m Q E := by
  intro s hs
  cases first : firstFailure succeeds path with
  | none =>
    obtain ⟨a, s', run, post⟩ := returns s hs first
    rw [run]
    exact post
  | some step =>
    obtain ⟨e, s', run, post⟩ := raises s hs step first
    rw [run]
    exact post

/-- More may hold than what is said of the two ways out. -/
theorem Walks.weaken {m : EStateM ε σ α} {Q' : α → σ → Prop} {F : Step → ε → σ → Prop}
    (h : Walks succeeds path P m Q E) (post : ∀ a s, Q a s → Q' a s)
    (exits : ∀ step e s, E step e s → F step e s) : Walks succeeds path P m Q' F := by
  refine .intro (fun s hs smooth => ?_) fun s hs step fails => ?_
  · obtain ⟨a, s', run, returned⟩ := h.returns hs smooth
    exact ⟨a, s', run, post a s' returned⟩
  · obtain ⟨e, s', run, raised⟩ := h.raises hs fails
    exact ⟨e, s', run, exits step e s' raised⟩

/-- What makes no call. -/
theorem Walks.silent {m : EStateM ε σ α} (h : ∀ s, P s → ∃ a s', m s = .ok a s' ∧ Q a s') :
    Walks succeeds [] P m Q E :=
  .intro (fun s hs _ => h s hs) nofun

/-- One call. -/
theorem Walks.call {step : Step} {raise : EStateM ε σ Unit}
    (h : ∀ s, P s → ∃ e s', raise s = .error e s' ∧ E step e s') :
    Walks succeeds [step] P (if succeeds step then pure () else raise) (fun _ => P) E := by
  cases answer : succeeds step with
  | true =>
    refine .intro (fun s hs _ => ⟨(), s, rfl, hs⟩) fun s hs failed first => ?_
    simp [firstFailure, answer] at first
  | false =>
    refine .intro (fun s hs first => ?_) fun s hs failed first => ?_
    · simp [firstFailure, answer] at first
    · have same : step = failed := by simpa [firstFailure, answer] using first
      rw [← same]
      exact h s hs

/-- One path after the other. -/
theorem Walks.bind {m : EStateM ε σ α} {f : α → EStateM ε σ β}
    (h : Walks succeeds path P m Q E) (k : ∀ a, Walks succeeds path' (Q a) (f a) R E) :
    Walks succeeds (path ++ path') P (m >>= f) R E := by
  refine .intro (fun s hs smooth => ?_) fun s hs step fails => ?_
  · rw [firstFailure_append, Option.or_eq_none_iff] at smooth
    obtain ⟨a, s', run, mid⟩ := h.returns hs smooth.1
    rw [bind_ok run]
    exact (k a).returns mid smooth.2
  · rw [firstFailure_append] at fails
    cases first : firstFailure succeeds path with
    | none =>
      rw [first, Option.none_or] at fails
      obtain ⟨a, s', run, mid⟩ := h.returns hs first
      rw [bind_ok run]
      exact (k a).raises mid fails
    | some step' =>
      rw [first, Option.some_or] at fails
      obtain rfl := Option.some.inj fails
      obtain ⟨e, s', run, post⟩ := h.raises hs first
      exact ⟨e, s', bind_error run, post⟩

/-- A branch that is known beforehand. -/
theorem Walks.ite {c : Prop} [Decidable c] {m m' : EStateM ε σ α}
    (h : c → Walks succeeds path P m Q E) (h' : ¬ c → Walks succeeds path' P m' Q E) :
    Walks succeeds (if c then path else path') P (if c then m else m') Q E := by
  by_cases holds : c
  · rw [if_pos holds, if_pos holds]
    exact h holds
  · rw [if_neg holds, if_neg holds]
    exact h' holds

/-- What is read of the state is known beforehand. -/
theorem Walks.get {f : σ → EStateM ε σ α} {m : EStateM ε σ α}
    (h : Walks succeeds path P m Q E) (same : ∀ s, P s → f s = m) :
    Walks succeeds path P (get >>= f) Q E := by
  intro s hs
  rw [bind_ok (get_run s), same s hs]
  exact h s hs

/-- What is done on the way out. -/
theorem Walks.rescue {m : EStateM ε σ α} {handler : ε → EStateM ε' σ α}
    (h : Walks succeeds path P m Q E)
    (k : ∀ step e s, E step e s → ∃ e' s', handler e s = .error e' s' ∧ E' step e' s') :
    Walks succeeds path P (rescue m handler) Q E' := by
  refine .intro (fun s hs smooth => ?_) fun s hs step fails => ?_
  · obtain ⟨a, s', run, post⟩ := h.returns hs smooth
    exact ⟨a, s', by rw [Exec.rescue, run], post⟩
  · obtain ⟨e, s', run, raised⟩ := h.raises hs fails
    rw [Exec.rescue, run]
    exact k step e s' raised

end Rules

end Exec
