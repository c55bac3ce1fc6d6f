import Mathlib.Data.List.Induction

/-!
# Runs

A machine that takes its events one after the other is a step function, and a run of it is a fold.
A claim about a machine is a claim about what holds at the start of a run and after each of its
steps: about every prefix of the run (`Always`), while the condition it rests on is met by each
event at the point where it happens (`Each`).

`always_iff_each` is the induction rule that relates the two. Where one step keeps a property
exactly when its event meets a condition, a run keeps it throughout exactly when all its events do;
what the step needs to know besides is an invariant of its own. What every event keeps, whatever it
is, holds after every run: of one machine (`run_invariant`), or of two that take the same events
(`run_lockstep`).

`Since` is what an observer of the events alone can say about the present: something happened, and
nothing has undone it since.
-/

namespace Exec

variable {σ ε : Type}

/-- The state a run of events leaves. -/
def run (step : σ → ε → σ) (s : σ) (es : List ε) : σ := es.foldl step s

variable {step : σ → ε → σ} {s : σ} {es : List ε} {e : ε}

@[simp] theorem run_nil : run step s [] = s := rfl

@[simp] theorem run_concat : run step s (es ++ [e]) = step (run step s es) e := by
  rw [run, List.foldl_append]
  rfl

/-- **What holds at the start and is kept by every event holds after every run.** -/
theorem run_invariant {I : σ → Prop} (start : I s) (keeps : ∀ s e, I s → I (step s e)) :
    ∀ es, I (run step s es) := by
  intro es
  induction es using List.reverseRecOn with
  | nil => exact start
  | append_singleton es e ih =>
    rw [run_concat]
    exact keeps _ e ih

/-- **Two machines that each event keeps in step are in step after every run.** -/
theorem run_lockstep {τ : Type} {step' : τ → ε → τ} {t : τ} {R : σ → τ → Prop} (start : R s t)
    (keeps : ∀ s t e, R s t → R (step s e) (step' t e)) :
    ∀ es, R (run step s es) (run step' t es) := by
  intro es
  induction es using List.reverseRecOn with
  | nil => exact start
  | append_singleton es e ih =>
    rw [run_concat, run_concat]
    exact keeps _ _ e ih

/-- **What every event lowers bounds the length of a run.** The events may rest on an invariant `I`
that they keep. -/
theorem length_le_measure {I : σ → Prop} {enabled : σ → ε → Prop} (measure : σ → Nat)
    (lowers : ∀ s e, I s → enabled s e → I (step s e) ∧ measure (step s e) < measure s)
    (start : I s) :
    ∀ es, (∀ p e, p ++ [e] <+: es → enabled (run step s p) e) →
      I (run step s es) ∧ es.length + measure (run step s es) ≤ measure s := by
  intro es
  induction es using List.reverseRecOn with
  | nil => exact fun _ => ⟨start, by simp⟩
  | append_singleton es e ih =>
    intro moves
    obtain ⟨kept, length⟩ := ih fun p f before =>
      moves p f (before.trans (List.prefix_append es [e]))
    obtain ⟨kept, lower⟩ := lowers _ e kept (moves es e (List.prefix_refl _))
    rw [run_concat, List.length_append, List.length_singleton]
    exact ⟨kept, by omega⟩

/-! ## What holds throughout -/

/-- `P` holds before a run, and after each of its events. -/
def Always (P : List ε → Prop) (es : List ε) : Prop := ∀ p, p <+: es → P p

/-- Every event of a run meets `Q`, which is told the events before it. -/
def Each (Q : List ε → ε → Prop) (es : List ε) : Prop := ∀ p e, p ++ [e] <+: es → Q p e

variable {P : List ε → Prop} {Q : List ε → ε → Prop}

theorem Always.last (h : Always P es) : P es := h es (List.prefix_refl es)

@[simp] theorem always_nil : Always P [] ↔ P [] := by
  constructor
  · exact Always.last
  · intro h p before
    rwa [List.prefix_nil.mp before]

theorem always_concat : Always P (es ++ [e]) ↔ Always P es ∧ P (es ++ [e]) := by
  constructor
  · intro h
    exact ⟨fun p before => h p (before.trans (List.prefix_append es [e])), h.last⟩
  · rintro ⟨h, last⟩ p before
    rcases List.prefix_concat_iff.mp before with rfl | earlier
    · exact last
    · exact h p earlier

@[simp] theorem each_nil : Each Q [] := by
  intro p e before
  have := List.prefix_nil.mp before
  simp at this

theorem each_concat : Each Q (es ++ [e]) ↔ Each Q es ∧ Q es e := by
  constructor
  · intro h
    exact ⟨fun p f before => h p f (before.trans (List.prefix_append es [e])),
      h es e (List.prefix_refl _)⟩
  · rintro ⟨h, last⟩ p f before
    rcases List.prefix_concat_iff.mp before with same | earlier
    · obtain ⟨rfl, rfl⟩ := List.append_inj' same rfl |>.imp id (List.cons.inj · |>.1)
      exact last
    · exact h p f earlier

theorem each_const {q : ε → Prop} : Each (fun _ e => q e) es ↔ ∀ e ∈ es, q e := by
  constructor
  · intro h e mem
    obtain ⟨before, after, rfl⟩ := List.append_of_mem mem
    exact h before e ⟨after, by simp⟩
  · intro h p e before
    exact h e (before.subset (by simp))

/-- What every event keeps that meets a condition holds throughout a run of such events. -/
theorem always_of_each (start : P []) (met : Each Q es)
    (keeps : ∀ p e, P p → Q p e → P (p ++ [e])) : Always P es := by
  induction es using List.reverseRecOn with
  | nil => exact always_nil.mpr start
  | append_singleton es e ih =>
    obtain ⟨before, now⟩ := each_concat.mp met
    have always := ih before
    exact always_concat.mpr ⟨always, keeps es e always.last now⟩

/-- **What an event keeps exactly under a condition holds throughout exactly when every event meets
the condition.** The steps may rest on an invariant `I` that every such event keeps. -/
theorem always_iff_each {I : List ε → Prop} (sane : I []) (start : P [])
    (keeps : Each (fun p e => I p → P p → (Q p e → I (p ++ [e])) ∧ (P (p ++ [e]) ↔ Q p e)) es) :
    Always P es ↔ Each Q es := by
  suffices both : (Always P es ↔ Each Q es) ∧ (Each Q es → I es) from both.1
  induction es using List.reverseRecOn with
  | nil => exact ⟨iff_of_true (always_nil.mpr start) each_nil, fun _ => sane⟩
  | append_singleton es e ih =>
    obtain ⟨keeps, last⟩ := each_concat.mp keeps
    obtain ⟨same, invariant⟩ := ih keeps
    have now (met : Each Q es) := last (invariant met) (same.mpr met).last
    rw [always_concat, each_concat, same]
    exact ⟨and_congr_right fun met => (now met).2, fun met => (now met.1).1 met.2⟩

/-! ## What the events say -/

/-- A `p` has happened, which is told the events before it, and no `q` after it. -/
def SinceWhen (p : List ε → ε → Prop) (q : ε → Prop) (es : List ε) : Prop :=
  ∃ before e after, es = before ++ e :: after ∧ p before e ∧ ∀ f ∈ after, ¬ q f

/-- A `p` has happened, and no `q` after it. -/
def Since (p q : ε → Prop) (es : List ε) : Prop :=
  ∃ before e after, es = before ++ e :: after ∧ p e ∧ ∀ f ∈ after, ¬ q f

section SinceWhen

variable {p : List ε → ε → Prop} {q : ε → Prop}

@[simp] theorem not_sinceWhen_nil : ¬ SinceWhen p q [] := by
  rintro ⟨before, e, after, split, -⟩
  simp at split

/-- The last event decides, or leaves what was. -/
theorem sinceWhen_concat : SinceWhen p q (es ++ [e]) ↔ p es e ∨ SinceWhen p q es ∧ ¬ q e := by
  constructor
  · rintro ⟨before, f, after, split, happened, undone⟩
    rcases List.eq_nil_or_concat after with rfl | ⟨after, g, rfl⟩
    · obtain ⟨rfl, last⟩ := List.append_inj' split rfl
      rw [(List.cons.inj last).1]
      exact .inl happened
    · rw [List.concat_eq_append] at split undone
      rw [← List.cons_append, ← List.append_assoc] at split
      obtain ⟨earlier, last⟩ := List.append_inj' split rfl
      obtain rfl := (List.cons.inj last).1
      exact .inr ⟨⟨before, f, after, earlier, happened,
        fun g mem => undone g (List.mem_append_left _ mem)⟩, undone e (by simp)⟩
  · rintro (now | ⟨⟨before, f, after, rfl, happened, undone⟩, kept⟩)
    · exact ⟨es, e, [], rfl, now, nofun⟩
    · refine ⟨before, f, after ++ [e], by simp, happened, fun g mem => ?_⟩
      rcases List.mem_append.mp mem with mem | mem
      · exact undone g mem
      · rwa [List.mem_singleton.mp mem]

end SinceWhen

section Since

variable {p q : ε → Prop}

@[simp] theorem not_since_nil : ¬ Since p q [] := not_sinceWhen_nil

theorem since_concat : Since p q (es ++ [e]) ↔ p e ∨ Since p q es ∧ ¬ q e := sinceWhen_concat

end Since

end Exec
