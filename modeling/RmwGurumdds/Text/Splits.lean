import Mathlib.Data.List.Basic

/-!
# Texts that can be told apart

A text without closing marks can still be read in one way only, if each of its parts says where it
ends. Two parts that stand at the same place are compared together with whatever follows them
(`Splits`): where the two whole texts are the same, what the parts stand for is the same and they
end at the same place. Parts compose so, one after another, and what the first says may be needed
to compare the next.

There are three reasons for a part to end: it is a fixed text (`Splits.same`), it is followed by a
character that does not occur in it (`Splits.token`), or there are as many parts as was said before
(`Splits.flatMap`). Different parts differ at once (`Splits.of_ne`).
-/

namespace Text

variable {γ : Type}

/-- Where two texts that begin with `x` and `y` are the same, `P` holds and the same follows. -/
def Splits (x y : List γ) (P : Prop) : Prop := ∀ s t, x ++ s = y ++ t → P ∧ s = t

namespace Splits

variable {x y x' y' : List γ} {P Q : Prop} {c c' : γ}

/-- The same part ends at the same place. -/
theorem same : Splits x x True := fun _ _ h => ⟨trivial, List.append_cancel_left h⟩

theorem mono (h : Splits x y P) (f : P → Q) : Splits x y Q :=
  fun s t whole => (h s t whole).imp_left f

theorem symm (h : Splits x y P) : Splits y x P :=
  fun s t whole => (h t s whole.symm).imp_right Eq.symm

/-- What is compared last may rest on what was compared first. -/
theorem append (h : Splits x y P) (k : P → Splits x' y' Q) :
    Splits (x ++ x') (y ++ y') (P ∧ Q) := by
  intro s t whole
  rw [List.append_assoc, List.append_assoc] at whole
  obtain ⟨p, rest⟩ := h _ _ whole
  obtain ⟨q, end_⟩ := k p s t rest
  exact ⟨⟨p, q⟩, end_⟩

/-- A fixed text in front says nothing. -/
theorem prepend (fixed : List γ) (h : Splits x y P) : Splits (fixed ++ x) (fixed ++ y) P :=
  (same.append fun _ => h).mono And.right

/-- Parts that begin differently are not at the same place. -/
theorem of_ne (h : c ≠ c') : Splits (c :: x) (c' :: y) P :=
  fun _ _ whole => absurd (List.cons.inj whole).1 h

/-- One character. -/
theorem single : Splits [c] [c'] (c = c') := fun _ _ whole => List.cons.inj whole

/-- A part that is followed by the first of the characters that do not occur in it. -/
theorem token {stop : γ → Prop} (hx : ∀ a ∈ x, ¬ stop a) (hy : ∀ a ∈ y, ¬ stop a) (hc : stop c)
    (hc' : stop c') : Splits (x ++ [c]) (y ++ [c']) (x = y ∧ c = c') := by
  induction x generalizing y with
  | nil =>
    cases y with
    | nil =>
      intro s t whole
      obtain ⟨rfl, rfl⟩ := List.cons.inj whole
      exact ⟨⟨rfl, rfl⟩, rfl⟩
    | cons b y => exact of_ne fun same => hy b List.mem_cons_self (same ▸ hc)
  | cons a x ih =>
    cases y with
    | nil => exact of_ne fun same => hx a List.mem_cons_self (same ▸ hc')
    | cons b y =>
      intro s t whole
      obtain ⟨rfl, rest⟩ := List.cons.inj whole
      obtain ⟨⟨rfl, ends⟩, follows⟩ :=
        ih (fun a mem => hx a (.tail _ mem)) (fun a mem => hy a (.tail _ mem)) s t rest
      exact ⟨⟨rfl, ends⟩, follows⟩

/-- As many parts as there are on the other side. -/
theorem flatMap {α β : Type} {p : α → List γ} {q : β → List γ} {R : α → β → Prop} {as : List α}
    {bs : List β} (length : as.length = bs.length)
    (h : ∀ a ∈ as, ∀ b ∈ bs, Splits (p a) (q b) (R a b)) :
    Splits (as.flatMap p) (bs.flatMap q) (List.Forall₂ R as bs) := by
  induction as generalizing bs with
  | nil =>
    obtain rfl := List.length_eq_zero_iff.mp length.symm
    exact same.mono fun _ => .nil
  | cons a as ih =>
    cases bs with
    | nil => cases length
    | cons b bs =>
      have first := h a List.mem_cons_self b List.mem_cons_self
      have rest := ih (Nat.succ.inj length) fun a mem b mem' => h a (.tail _ mem) b (.tail _ mem')
      exact (first.append fun _ => rest).mono fun both => .cons both.1 both.2

/-- Whole texts that are the same. -/
theorem of_eq (h : Splits x y P) (whole : x = y) : P := (h [] [] (by rw [whole])).1

end Splits

end Text
