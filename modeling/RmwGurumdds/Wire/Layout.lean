import RmwGurumdds.Wire.Bytes

/-!
# Positioned layouts

What an aligned binary writer puts into a buffer, told apart from the buffer. A **cell** is a byte
the writer sets or a gap it skips, and a **layout** gives the cells from the position the writer
stands at: the position is an argument because alignment is a fact about absolute positions, so
the same value has different cells at different positions.

Two relations tie a layout to memory. `overlay` is the memory after a writer has gone through the
cells; `Holds` says that a memory agrees with the cells, whatever its gaps contain. The first
yields the second (`holds_overlay`), and `Holds` splits along `++` (`holds_append`): that is all a
reader needs.
-/

namespace Wire

/-- A byte the writer sets, or a gap it skips. -/
abbrev Cell := Option Byte

/-- The cells a writer produces from a position on. -/
def Layout := Nat → List Cell

/-! ## Layouts -/

/-- The distance from a position to the next multiple of `a`. -/
def padding (a off : Nat) : Nat := (a - off % a) % a

/-- Nothing. -/
def Layout.empty : Layout := fun _ => []

/-- Bytes, at any position. -/
def Layout.bytes (bs : List Byte) : Layout := fun _ => bs.map some

/-- The gap up to the next multiple of `a`. -/
def Layout.align (a : Nat) : Layout := fun off => List.replicate (padding a off) none

/-- One layout after another: the second stands where the first ends. -/
def Layout.append (f g : Layout) : Layout := fun off => f off ++ g (off + (f off).length)

instance : Append Layout := ⟨Layout.append⟩

/-- Layouts one after another. -/
def Layout.concat : List Layout → Layout
  | [] => .empty
  | f :: fs => f ++ Layout.concat fs

/-- A word, aligned to its own size. -/
def Layout.word (o : ByteOrder) (w : Word) (x : BitVec w.bits) : Layout :=
  Layout.align w.bytes ++ Layout.bytes (o.store w x)

theorem append_apply (f g : Layout) (off : Nat) :
    (f ++ g) off = f off ++ g (off + (f off).length) := rfl

@[simp] theorem empty_apply (off : Nat) : Layout.empty off = [] := rfl

@[simp] theorem bytes_apply (bs : List Byte) (off : Nat) : Layout.bytes bs off = bs.map some := rfl

@[simp] theorem align_length (a off : Nat) : (Layout.align a off).length = padding a off :=
  List.length_replicate

theorem empty_append (f : Layout) : Layout.empty ++ f = f := by
  funext off
  rw [append_apply, empty_apply, List.nil_append, List.length_nil, Nat.add_zero]

theorem append_empty (f : Layout) : f ++ Layout.empty = f := by
  funext off
  rw [append_apply, empty_apply, List.append_nil]

theorem append_assoc (f g h : Layout) : f ++ g ++ h = f ++ (g ++ h) := by
  funext off
  simp only [append_apply, List.append_assoc, List.length_append, Nat.add_assoc]

theorem append_length (f g : Layout) (off : Nat) :
    ((f ++ g) off).length = (f off).length + (g (off + (f off).length)).length := by
  rw [append_apply, List.length_append]

@[simp] theorem concat_cons (f : Layout) (fs : List Layout) :
    Layout.concat (f :: fs) = f ++ Layout.concat fs := rfl

theorem word_length (o : ByteOrder) (w : Word) (x : BitVec w.bits) (off : Nat) :
    (Layout.word o w x off).length = padding w.bytes off + w.bytes := by
  rw [Layout.word, append_length, align_length, bytes_apply, List.length_map,
    ByteOrder.store_length]

/-! ## Padding -/

theorem padding_lt {a : Nat} (h : 0 < a) (off : Nat) : padding a off < a :=
  Nat.mod_lt _ h

/-- A position plus its padding is a multiple of the alignment. -/
theorem padding_aligns {a : Nat} (h : 0 < a) (off : Nat) : (off + padding a off) % a = 0 := by
  have lt := Nat.mod_lt off h
  unfold padding
  rcases Nat.eq_zero_or_pos (off % a) with zero | pos
  · rw [zero, Nat.sub_zero, Nat.mod_self, Nat.add_zero, zero]
  · rw [Nat.mod_eq_of_lt (by omega : a - off % a < a), Nat.add_mod,
      Nat.mod_eq_of_lt (by omega : a - off % a < a)]
    rw [show off % a + (a - off % a) = a from by omega, Nat.mod_self]

/-- A multiple of the alignment needs no padding. -/
theorem padding_eq_zero {a off : Nat} (h : off % a = 0) : padding a off = 0 := by
  rw [padding, h, Nat.sub_zero, Nat.mod_self]

/-- One byte needs no padding. -/
@[simp] theorem padding_one (off : Nat) : padding 1 off = 0 := padding_eq_zero (Nat.mod_one off)

/-- Words of one width, the first aligned, follow each other without gaps. -/
theorem concat_words (o : ByteOrder) (w : Word) :
    ∀ (xs : List (BitVec w.bits)) (off : Nat), off % w.bytes = 0 →
      Layout.concat (xs.map (Layout.word o w)) off = (xs.flatMap (o.store w)).map some
  | [], _, _ => rfl
  | x :: xs, off, h => by
    have flat : Layout.word o w x off = (o.store w x).map some := by
      rw [Layout.word, append_apply, Layout.align, padding_eq_zero h]
      rfl
    have next : (off + w.bytes) % w.bytes = 0 := by rw [Nat.add_mod_right, h]
    rw [List.map_cons, concat_cons, append_apply, flat, List.length_map, ByteOrder.store_length,
      concat_words o w xs _ next, List.flatMap_cons, List.map_append]

/-- Words of one width are a gap and one run of bytes. -/
theorem concat_words_cons (o : ByteOrder) (w : Word) (x : BitVec w.bits)
    (xs : List (BitVec w.bits)) :
    Layout.concat ((x :: xs).map (Layout.word o w)) =
      Layout.align w.bytes ++ Layout.bytes ((x :: xs).flatMap (o.store w)) := by
  funext off
  have next : (off + padding w.bytes off + w.bytes) % w.bytes = 0 := by
    rw [Nat.add_mod_right, padding_aligns w.bytes_pos]
  rw [List.map_cons, concat_cons, Layout.word, append_assoc, append_apply, append_apply (g := _),
    append_apply, align_length, bytes_apply, List.length_map, ByteOrder.store_length,
    concat_words o w xs _ next, bytes_apply, List.flatMap_cons, List.map_append]

/-! ## Memory -/

/-- A memory after a writer has gone through cells from a position on: set bytes replace what was
there, gaps and everything outside keep it. -/
def overlay (mem : List Byte) (off : Nat) (cells : List Cell) : List Byte :=
  mem.mapIdx fun i b => if off ≤ i then (cells[i - off]?.join).getD b else b

/-- A memory agrees with cells from a position on. Gaps ask nothing of it. -/
structure Holds (mem : List Byte) (off : Nat) (cells : List Cell) : Prop where
  fits : off + cells.length ≤ mem.length
  same : ∀ (i : Nat) (b : Byte), cells[i]? = some (some b) → mem[off + i]? = some b

@[simp] theorem overlay_length (mem : List Byte) (off : Nat) (cells : List Cell) :
    (overlay mem off cells).length = mem.length := by
  rw [overlay, List.length_mapIdx]

theorem overlay_getElem? (mem : List Byte) (off : Nat) (cells : List Cell) (i : Nat) :
    (overlay mem off cells)[i]? =
      mem[i]?.map fun b => if off ≤ i then (cells[i - off]?.join).getD b else b := by
  rw [overlay, List.getElem?_mapIdx]

/-- A gap changes nothing. -/
theorem overlay_gap (mem : List Byte) (off n : Nat) :
    overlay mem off (List.replicate n none) = mem := by
  apply List.ext_getElem?
  intro i
  have gap : ((List.replicate n (none : Cell))[i - off]?).join = none := by
    rw [List.getElem?_replicate]
    split <;> rfl
  rw [overlay_getElem?, gap]
  simp

/-- Going through two runs of cells is going through the first and then the second. -/
theorem overlay_append (mem : List Byte) (off : Nat) (c d : List Cell) :
    overlay mem off (c ++ d) = overlay (overlay mem off c) (off + c.length) d := by
  apply List.ext_getElem?
  intro i
  rw [overlay_getElem?, overlay_getElem?, overlay_getElem?, Option.map_map]
  congr 1
  funext b
  simp only [Function.comp_apply]
  by_cases before : off ≤ i
  · by_cases inner : i - off < c.length
    · rw [if_pos before, if_neg (by omega), if_pos before, List.getElem?_append_left inner]
    · rw [if_pos before, if_pos (by omega), if_pos before,
        List.getElem?_append_right (by omega), List.getElem?_eq_none (l := c) (by omega),
        show i - off - c.length = i - (off + c.length) from by omega]
      rfl
  · rw [if_neg before, if_neg (by omega), if_neg before]

/-- Nothing past the last cell changes. -/
theorem overlay_drop (mem : List Byte) (off n : Nat) (cells : List Cell)
    (h : off + cells.length ≤ n) : (overlay mem off cells).drop n = mem.drop n := by
  apply List.ext_getElem?
  intro i
  rw [List.getElem?_drop, List.getElem?_drop, overlay_getElem?,
    List.getElem?_eq_none (l := cells) (by omega)]
  simp

/-- The cells that reach into a part of the memory are those that reach it in the part alone. -/
theorem overlay_take (mem : List Byte) (off n : Nat) (cells : List Cell) :
    (overlay mem off cells).take n = overlay (mem.take n) off cells := by
  apply List.ext_getElem?
  intro i
  rw [List.getElem?_take, overlay_getElem?, overlay_getElem?, List.getElem?_take]
  split
  · rfl
  · rfl

/-- Bytes stored one after another are their overlay. -/
theorem overlay_bytes (mem : List Byte) (off : Nat) (bs : List Byte)
    (h : off + bs.length ≤ mem.length) :
    overlay mem off (bs.map some) = mem.take off ++ bs ++ mem.drop (off + bs.length) := by
  apply List.ext_getElem?
  intro i
  have offLen : (mem.take off).length = off := by rw [List.length_take]; omega
  rw [overlay_getElem?, List.getElem?_map, List.append_assoc]
  by_cases before : i < off
  · rw [List.getElem?_append_left (by omega), List.getElem?_take_of_lt before]
    simp [show ¬ off ≤ i from by omega]
  · rw [List.getElem?_append_right (by omega), offLen]
    by_cases inner : i - off < bs.length
    · rw [List.getElem?_append_left inner, List.getElem?_eq_getElem inner,
        List.getElem?_eq_getElem (by omega : i < mem.length)]
      simp [show off ≤ i from by omega]
    · rw [List.getElem?_append_right (by omega), List.getElem?_drop,
        List.getElem?_eq_none (l := bs) (by omega),
        show off + bs.length + (i - off - bs.length) = i from by omega]
      simp

/-- **A memory agrees with the cells a writer went through.** -/
theorem holds_overlay {mem : List Byte} {off : Nat} {cells : List Cell}
    (h : off + cells.length ≤ mem.length) : Holds (overlay mem off cells) off cells where
  fits := by rw [overlay_length]; exact h
  same i b hb := by
    have inner : i < cells.length := by
      by_contra out
      rw [List.getElem?_eq_none (by omega)] at hb
      exact nomatch hb
    rw [overlay_getElem?, List.getElem?_eq_getElem (by omega : off + i < mem.length),
      Nat.add_sub_cancel_left, hb]
    simp

/-- **Agreement splits along the cells.** -/
theorem holds_append {mem : List Byte} {off : Nat} {c d : List Cell} :
    Holds mem off (c ++ d) ↔ Holds mem off c ∧ Holds mem (off + c.length) d := by
  constructor
  · intro h
    have fits := h.fits
    rw [List.length_append] at fits
    refine ⟨⟨by omega, fun i b hb => h.same i b ?_⟩, ⟨by omega, fun i b hb => ?_⟩⟩
    · have inner : i < c.length := by
        by_contra out
        rw [List.getElem?_eq_none (by omega)] at hb
        exact nomatch hb
      rw [List.getElem?_append_left inner, hb]
    · have at_ := h.same (c.length + i) b (by
        rw [List.getElem?_append_right (by omega), Nat.add_sub_cancel_left, hb])
      rwa [← Nat.add_assoc] at at_
  · rintro ⟨hc, hd⟩
    refine ⟨by rw [List.length_append]; have := hd.fits; omega, fun i b hb => ?_⟩
    by_cases inner : i < c.length
    · rw [List.getElem?_append_left inner] at hb
      exact hc.same i b hb
    · rw [List.getElem?_append_right (by omega)] at hb
      have at_ := hd.same (i - c.length) b hb
      rwa [show off + c.length + (i - c.length) = off + i from by omega] at at_

/-- Agreement on bytes is equality of the slice. -/
theorem Holds.slice {mem : List Byte} {off : Nat} {bs : List Byte}
    (h : Holds mem off (bs.map some)) : (mem.drop off).take bs.length = bs := by
  have fits := h.fits
  rw [List.length_map] at fits
  apply List.ext_getElem (by rw [List.length_take, List.length_drop]; omega)
  intro i _ hi
  have at_ := h.same i bs[i] (by rw [List.getElem?_map, List.getElem?_eq_getElem hi]; rfl)
  rw [List.getElem_take, List.getElem_drop]
  exact (List.getElem?_eq_some_iff.mp at_).2

/-- A memory seen from a later start agrees with the cells from there. -/
theorem Holds.drop {mem : List Byte} {k off : Nat} {cells : List Cell}
    (h : Holds mem (k + off) cells) : Holds (mem.drop k) off cells where
  fits := by rw [List.length_drop]; have := h.fits; omega
  same i b hb := by rw [List.getElem?_drop, ← Nat.add_assoc]; exact h.same i b hb

/-! ## Gaps -/

/-- The layout has no gap from this position on. -/
def Layout.Tight (f : Layout) (off : Nat) : Prop := ∀ c ∈ f off, c ≠ none

theorem tight_append {f g : Layout} {off : Nat} :
    (f ++ g).Tight off ↔ f.Tight off ∧ g.Tight (off + (f off).length) := List.forall_mem_append

/-- An alignment leaves no gap exactly at its multiples. -/
theorem tight_align {a off : Nat} (h : 0 < a) : (Layout.align a).Tight off ↔ off % a = 0 := by
  constructor
  · intro tight
    have none : padding a off = 0 := by
      by_contra some
      exact tight none (List.mem_replicate.mpr ⟨some, rfl⟩) rfl
    have aligned := padding_aligns h off
    rwa [none, Nat.add_zero] at aligned
  · intro aligned c among
    rw [Layout.align, padding_eq_zero aligned] at among
    exact absurd among List.not_mem_nil

/-- A gap shows what was under it. -/
theorem overlay_at_gap {mem : List Byte} {off i : Nat} {cells : List Cell}
    (gap : cells[i]? = some none) : (overlay mem off cells)[off + i]? = mem[off + i]? := by
  rw [overlay_getElem?, Nat.add_sub_cancel_left, gap]
  simp

/-- Cells without a gap hide what was under them. -/
theorem overlay_eq_of_tight {mem mem' : List Byte} {off : Nat} {cells : List Cell}
    (tight : ∀ c ∈ cells, c ≠ none) (length : mem.length = off + cells.length)
    (length' : mem'.length = off + cells.length) (same : mem.take off = mem'.take off) :
    overlay mem off cells = overlay mem' off cells := by
  apply List.ext_getElem?
  intro i
  rw [overlay_getElem?, overlay_getElem?]
  by_cases before : i < off
  · have here : (mem.take off)[i]? = (mem'.take off)[i]? := by rw [same]
    rw [List.getElem?_take_of_lt before, List.getElem?_take_of_lt before] at here
    simp only [here, if_neg (Nat.not_le.mpr before)]
  · by_cases inner : i - off < cells.length
    · obtain ⟨b, set⟩ := Option.ne_none_iff_exists'.mp (tight _ (List.getElem_mem inner))
      rw [List.getElem?_eq_getElem (by omega : i < mem.length),
        List.getElem?_eq_getElem (by omega : i < mem'.length), List.getElem?_eq_getElem inner, set]
      simp [Nat.le_of_not_lt before]
    · rw [List.getElem?_eq_none (l := mem) (by omega), List.getElem?_eq_none (l := mem') (by omega)]

end Wire
