import Mathlib.Algebra.BigOperators.Group.List.Basic
import Mathlib.Algebra.Order.Group.Int
import RmwGurumdds.Wire.Layout

/-!
# Weighing layouts

Two layouts of one value stand at different positions once their sizes have drifted apart, so their
cells cannot be compared one by one. Their **weight** can: it adds up what a function gives each
byte that is set, and gaps weigh nothing, so most layouts weigh the same wherever they stand
(`Steady`).

`Heavier w P f g` is the comparison: wherever the two stand, `f` weighs at least what `g` weighs,
and only as much if `P`. It follows the combinators, and two layouts with the same cells weigh the
same, so `P` is what their agreement implies.
-/

namespace Wire

variable (w : Byte → Int)

/-- The weight of cells. -/
def weigh (cells : List Cell) : Int := (cells.map fun c => (c.map w).getD 0).sum

theorem weigh_append (c d : List Cell) : weigh w (c ++ d) = weigh w c + weigh w d := by
  rw [weigh, List.map_append, List.sum_append]
  rfl

@[simp] theorem weigh_nil : weigh w [] = 0 := rfl

theorem weigh_cons_some (b : Byte) (cells : List Cell) :
    weigh w (some b :: cells) = w b + weigh w cells := List.sum_cons

/-- The order of the bytes does not matter. -/
theorem weigh_reverse (bs : List Byte) :
    weigh w (bs.reverse.map some) = weigh w (bs.map some) := by
  rw [weigh, weigh, List.map_reverse, List.map_reverse, List.sum_reverse]

/-- A gap weighs nothing. -/
theorem weigh_gap : ∀ n : Nat, weigh w (List.replicate n none) = 0
  | 0 => rfl
  | n + 1 => by
    show 0 + weigh w (List.replicate n none) = 0
    rw [weigh_gap n, Int.zero_add]

/-- The bytes of a word weigh what its digits weigh, in either order. -/
theorem weigh_store (o : ByteOrder) (word : Word) (x : BitVec word.bits) :
    weigh w ((o.store word x).map some) = weigh w ((digits word.bytes x.toNat).map some) := by
  cases o with
  | little => rfl
  | big => exact weigh_reverse w _

/-- A word weighs what its bytes weigh, wherever it stands. -/
theorem weigh_word (o : ByteOrder) (word : Word) (x : BitVec word.bits) (off : Nat) :
    weigh w (Layout.word o word x off) = weigh w ((digits word.bytes x.toNat).map some) := by
  rw [Layout.word, append_apply, weigh_append, Layout.align, weigh_gap, Int.zero_add, bytes_apply,
    weigh_store]

/-! ## Layouts that weigh the same everywhere -/

/-- The position does not matter. -/
def Steady (f : Layout) : Prop := ∀ off off', weigh w (f off) = weigh w (f off')

variable {w} {f g : Layout}

theorem Steady.empty : Steady w Layout.empty := fun _ _ => rfl

theorem Steady.bytes (bs : List Byte) : Steady w (Layout.bytes bs) := fun _ _ => rfl

theorem Steady.align (a : Nat) : Steady w (Layout.align a) := fun off off' => by
  rw [Layout.align, weigh_gap, Layout.align, weigh_gap]

theorem Steady.word (o : ByteOrder) (word : Word) (x : BitVec word.bits) :
    Steady w (Layout.word o word x) := fun off off' => by rw [weigh_word, weigh_word]

theorem Steady.append (hf : Steady w f) (hg : Steady w g) : Steady w (f ++ g) := by
  intro off off'
  rw [append_apply, append_apply, weigh_append, weigh_append, hf off off', hg]

theorem Steady.concat {α : Type} {f : α → Layout} :
    ∀ xs : List α, (∀ x ∈ xs, Steady w (f x)) → Steady w (Layout.concat (xs.map f))
  | [], _ => Steady.empty
  | x :: xs, h =>
    (h x List.mem_cons_self).append
      (Steady.concat xs fun y hy => h y (List.mem_cons_of_mem x hy))

/-! ## Comparing two layouts -/

variable (w) in
/-- `f` weighs at least what `g` weighs, and only as much if `P`. -/
def Heavier (P : Prop) (f g : Layout) : Prop :=
  ∀ off off', weigh w (g off') ≤ weigh w (f off) ∧ (weigh w (f off) = weigh w (g off') → P)

variable {P P' : Prop} {f' g' : Layout}

/-- A layout against itself. -/
theorem Heavier.refl (steady : Steady w f) (h : P) : Heavier w P f f :=
  fun off off' => ⟨(steady off' off).le, fun _ => h⟩

theorem Heavier.imp (h : P → P') (heavier : Heavier w P f g) : Heavier w P' f g :=
  fun off off' => ⟨(heavier off off').1, fun same => h ((heavier off off').2 same)⟩

/-- Sums of the two sides agree only if the parts do. -/
theorem Heavier.append (h : Heavier w P f g) (h' : Heavier w P' f' g') :
    Heavier w (P ∧ P') (f ++ f') (g ++ g') := by
  intro off off'
  rw [append_apply, append_apply, weigh_append, weigh_append]
  obtain ⟨le, same⟩ := h off off'
  obtain ⟨le', same'⟩ := h' (off + (f off).length) (off' + (g off').length)
  exact ⟨Int.add_le_add le le', fun sum => ⟨same (by omega), same' (by omega)⟩⟩

theorem Heavier.concat {α : Type} {f g : α → Layout} {P : α → Prop} :
    ∀ xs : List α, (∀ x ∈ xs, Heavier w (P x) (f x) (g x)) →
      Heavier w (∀ x ∈ xs, P x) (Layout.concat (xs.map f)) (Layout.concat (xs.map g))
  | [], _ => Heavier.refl Steady.empty fun _ h => absurd h List.not_mem_nil
  | x :: xs, h =>
    ((h x List.mem_cons_self).append
      (Heavier.concat xs fun y hy => h y (List.mem_cons_of_mem x hy))).imp
      List.forall_mem_cons.mpr

/-- Two layouts with the same cells weigh the same. -/
theorem Heavier.of_eq {off : Nat} (h : Heavier w P f g) (same : f off = g off) : P :=
  (h off off).2 (congrArg (weigh w) same)

/-! ## Layouts of one size -/

/-- The two take as many cells as each other, wherever they stand together. -/
def SameSize (f g : Layout) : Prop := ∀ off, (f off).length = (g off).length

theorem SameSize.refl (f : Layout) : SameSize f f := fun _ => rfl

theorem SameSize.word (o : ByteOrder) (word : Word) (x y : BitVec word.bits) :
    SameSize (Layout.word o word x) (Layout.word o word y) :=
  fun off => by rw [word_length, word_length]

theorem SameSize.append (h : SameSize f g) (h' : SameSize f' g') :
    SameSize (f ++ f') (g ++ g') := by
  intro off
  rw [append_length, append_length, h, h']

theorem SameSize.concat {α : Type} {f : α → Layout} {c : α → α} :
    ∀ xs : List α, (∀ x ∈ xs, SameSize (f (c x)) (f x)) →
      SameSize (Layout.concat ((xs.map c).map f)) (Layout.concat (xs.map f))
  | [], _ => SameSize.refl _
  | x :: xs, h =>
    (h x List.mem_cons_self).append
      (SameSize.concat xs fun y hy => h y (List.mem_cons_of_mem x hy))

/-! ## Cells from memories -/

/-- Memories tell cells apart: two writers that leave the same memory behind, whatever byte fills it
before, have gone through the same cells. -/
theorem cells_eq_of_overlay (front : List Byte) {n : Nat} {cs ds : List Cell} (fits : cs.length ≤ n)
    (length : cs.length = ds.length)
    (same : ∀ x : Byte, overlay (front ++ List.replicate n x) front.length cs =
      overlay (front ++ List.replicate n x) front.length ds) : cs = ds := by
  apply List.ext_getElem length
  intro i hc hd
  have byte : ∀ x : Byte, (cs[i]).getD x = (ds[i]).getD x := by
    intro x
    have at_ := congrArg (fun mem => mem[front.length + i]?) (same x)
    have filled : (front ++ List.replicate n x)[front.length + i]? = some x := by
      rw [List.getElem?_append_right (Nat.le_add_right _ _), Nat.add_sub_cancel_left,
        List.getElem?_replicate, if_pos (by omega)]
    simp only [overlay_getElem?, filled, Nat.add_sub_cancel_left, Nat.le_add_right, if_true,
      List.getElem?_eq_getElem hc, List.getElem?_eq_getElem hd, Option.join_some, Option.map_some,
      Option.some.injEq] at at_
    exact at_
  have zero := byte 0
  have one := byte 1
  cases hcs : cs[i] with
  | none =>
    cases hds : ds[i] with
    | none => rfl
    | some b =>
      rw [hcs, hds] at zero one
      exact absurd (zero.trans one.symm) (by decide)
  | some a =>
    cases hds : ds[i] with
    | none =>
      rw [hcs, hds] at zero one
      exact absurd (zero.symm.trans one) (by decide)
    | some b =>
      rw [hcs, hds] at zero
      exact congrArg some zero

end Wire
