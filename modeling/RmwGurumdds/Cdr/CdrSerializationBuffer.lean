import RmwGurumdds.Cdr.CdrBuffer
import RmwGurumdds.Cdr.Introspection

/-!
# The serialization buffer

`CdrSerializationBuffer<SERIALIZE>` in both instantiations: the writing one stores into the memory
it was given, the counting one only moves the offset and has `SIZE_MAX` for a size. The flag is the
first argument of every operation that looks at it.

The memory is the whole region behind the pointer, header included and possibly longer than the
size the caller names, so that a store past the named size is visible and a store past the region
is an error.

`Emits` is the contract of every writing program: it puts down the cells of a layout, or throws
"Out of buffer" when they do not fit, and leaves what lies past the named size alone either way.
-/

namespace Cdr

open Wire Exec

/-- A buffer being written: `mem` is the memory from the header on. -/
structure CdrSerializationBuffer extends CdrBuffer where
  mem : List Byte
deriving DecidableEq, Repr

/-- Programs over a buffer being written. -/
abbrev Ser := EStateM Exn CdrSerializationBuffer

/-- `memcpy` into a memory, if the target lies inside it. -/
def poke (mem : List Byte) (start : Nat) (bs : List Byte) : Option (List Byte) :=
  if start + bs.length ≤ mem.length then
    some (mem.take start ++ bs ++ mem.drop (start + bs.length))
  else none

theorem poke_eq {mem bs : List Byte} {start : Nat} (h : start + bs.length ≤ mem.length) :
    poke mem start bs = some (overlay mem start (bs.map some)) := by
  rw [poke, if_pos h, overlay_bytes mem start bs h]

/-! ## Construction -/

/-- The constructor: the header is zeroed and names the byte order of the host. The counting
instantiation ignores its arguments. -/
def CdrSerializationBuffer.make (S : Bool) (o : ByteOrder) (buf : Option (List Byte))
    (size : Nat) : Except Exn CdrSerializationBuffer :=
  match S with
  | false => .ok { offset := 0, size := 2 ^ 64 - 1, mem := [] }
  | true =>
    match buf with
    | none => .error (.runtimeError "Buf is null")
    | some mem =>
      if size < cdrHeaderSize then .error (.runtimeError "Insufficient buffer size")
      else
        match poke mem 0 (List.replicate cdrHeaderSize 0) with
        | none => .error .outOfBounds
        | some zeroed =>
          match poke zeroed cdrHeaderEndianIdx [cdrSystemEndian o] with
          | none => .error .outOfBounds
          | some mem => .ok { offset := 0, size := size - cdrHeaderSize, mem }

namespace Ser

/-! ## Operations -/

def advance (cnt : Nat) : Ser Unit :=
  modify fun b => { b with toCdrBuffer := b.toCdrBuffer.advance cnt }

def roundup (align : Nat) : Ser Unit := do
  let b ← get
  if b.exceeds (b.roundupCount align) then throw outOfBuffer
  else advance (b.roundupCount align)

/-- The bounds check before a store. -/
def check (cnt : Nat) : Ser Unit := do
  let b ← get
  if b.exceeds cnt then throw outOfBuffer else pure ()

/-- A store at `buf_ + offset_`. -/
def store (bs : List Byte) : Ser Unit := do
  let b ← get
  match poke b.mem (cdrHeaderSize + b.offset) bs with
  | none => throw .outOfBounds
  | some mem => set { b with mem }

/-- The end of every operation: only the writing instantiation checks and stores. -/
def put (S : Bool) (cnt : Nat) (bs : List Byte) : Ser Unit :=
  match S with
  | true => do
    check cnt
    store bs
    advance cnt
  | false => advance cnt

/-- `operator<<` for the unsigned integers. -/
def word (S : Bool) (o : ByteOrder) (w : Word) (x : BitVec w.bits) : Ser Unit := do
  roundup w.bytes
  put S w.bytes (o.store w x)

/-- `operator<<(uint32_t)` of a length. -/
def count (S : Bool) (o : ByteOrder) (n : Nat) : Ser Unit :=
  word S o .uint32 (BitVec.ofNat _ (uint32T n))

/-- `operator<<` for `std::string` and `rosidl_runtime_c__String`: both keep a terminator behind
their characters, and it is written. -/
def string (S : Bool) (o : ByteOrder) (s : List Byte) : Ser Unit := do
  count S o (s.length + 1)
  roundup Word.uint8.bytes
  put S (s.length + 1) (s ++ [0])

/-- `operator<<` for `std::u16string` and `rosidl_runtime_c__U16String`. -/
def u16string (S : Bool) (o : ByteOrder) (s : List Char16) : Ser Unit := do
  count S o s.length
  roundup Word.uint16.bytes
  put S (sizeT (s.length * Word.uint16.bytes)) (s.flatMap (o.store .uint16))

/-- `copy_arr` of the first `cnt` words behind a pointer. -/
def copyArr (S : Bool) (o : ByteOrder) (w : Word) (arr : List (BitVec w.bits)) (cnt : Nat) :
    Ser Unit :=
  if cnt = 0 then pure ()
  else do
    roundup w.bytes
    put S (sizeT (cnt * w.bytes)) ((arr.take cnt).flatMap (o.store w))

end Ser

/-! ## The contract of a writer -/

/-- The state a writer is in between two operations. -/
structure CdrSerializationBuffer.Valid (S : Bool) (b : CdrSerializationBuffer) : Prop where
  inside : b.offset ≤ b.size
  bounded : b.size < 2 ^ 64
  backed : S = true → cdrHeaderSize + b.size ≤ b.mem.length
  unbounded : S = false → b.size = 2 ^ 64 - 1

/-- The buffer after cells are put down. -/
def CdrSerializationBuffer.after (S : Bool) (b : CdrSerializationBuffer) (cells : List Cell) :
    CdrSerializationBuffer where
  offset := b.offset + cells.length
  size := b.size
  mem := if S then overlay b.mem (cdrHeaderSize + b.offset) cells else b.mem

/-- A buffer whose memory is the same size and unchanged past the size it was opened with. -/
structure CdrSerializationBuffer.Spared (b b' : CdrSerializationBuffer) : Prop where
  size_eq : b'.size = b.size
  length_eq : b'.mem.length = b.mem.length
  rest_eq : b'.mem.drop (cdrHeaderSize + b.size) = b.mem.drop (cdrHeaderSize + b.size)

/-- `m` puts down the cells of `f`: all of them if they fit, and otherwise it throws. Encodings of
2^63 bytes and more, which no memory holds, are left out. -/
def Emits {α : Type} (S : Bool) (m : Ser α) (f : Layout) : Prop :=
  ∀ b : CdrSerializationBuffer, b.Valid S → b.offset + (f b.offset).length < 2 ^ 63 →
    if b.offset + (f b.offset).length ≤ b.size then ∃ a, m b = .ok a (b.after S (f b.offset))
    else ∃ b', m b = .error outOfBuffer b' ∧ b.Spared b'

section Contract

variable {S : Bool} {b : CdrSerializationBuffer}

@[simp] theorem after_nil : b.after S [] = b := by
  cases b with
  | mk base mem =>
    cases base
    cases S <;> simp [CdrSerializationBuffer.after, show overlay mem _ [] = mem from
      overlay_gap mem _ 0]

theorem after_append (c d : List Cell) : (b.after S c).after S d = b.after S (c ++ d) := by
  cases S
  · simp only [CdrSerializationBuffer.after, List.length_append, Nat.add_assoc]
    rfl
  · simp only [CdrSerializationBuffer.after, List.length_append, Nat.add_assoc, if_true,
      overlay_append]

/-- Cells that fit leave a valid buffer. -/
theorem CdrSerializationBuffer.Valid.after (h : b.Valid S) {cells : List Cell}
    (fits : b.offset + cells.length ≤ b.size) : (b.after S cells).Valid S where
  inside := fits
  bounded := h.bounded
  backed hS := by
    simp only [CdrSerializationBuffer.after, hS, if_true, overlay_length]
    exact h.backed hS
  unbounded := h.unbounded

theorem CdrSerializationBuffer.Spared.refl (b : CdrSerializationBuffer) : b.Spared b :=
  ⟨rfl, rfl, rfl⟩

theorem CdrSerializationBuffer.Spared.trans {b₁ b₂ b₃ : CdrSerializationBuffer}
    (h : b₁.Spared b₂) (h' : b₂.Spared b₃) : b₁.Spared b₃ where
  size_eq := h'.size_eq.trans h.size_eq
  length_eq := h'.length_eq.trans h.length_eq
  rest_eq := by
    have rest := h'.rest_eq
    rw [h.size_eq] at rest
    exact rest.trans h.rest_eq

/-- Cells that fit spare what lies past the size. -/
theorem spared_after {cells : List Cell} (fits : b.offset + cells.length ≤ b.size) :
    b.Spared (b.after S cells) := by
  cases S
  · exact ⟨rfl, rfl, rfl⟩
  · exact ⟨rfl, overlay_length _ _ _, overlay_drop _ _ _ _ (by omega)⟩

/-! ### Composition -/

theorem Emits.pure {α : Type} (a : α) : Emits S (pure a) Layout.empty := by
  intro b h _
  rw [empty_apply, List.length_nil, Nat.add_zero, if_pos h.inside, after_nil]
  exact ⟨a, rfl⟩

/-- **One writer after another puts down one layout after the other.** -/
theorem Emits.bind {α β : Type} {m : Ser α} {k : α → Ser β} {f g : Layout} (hm : Emits S m f)
    (hk : ∀ a, Emits S (k a) g) : Emits S (m >>= k) (f ++ g) := by
  intro b h bound
  rw [append_length] at bound ⊢
  have first := hm b h (by omega)
  by_cases fits : b.offset + (f b.offset).length ≤ b.size
  · rw [if_pos fits] at first
    obtain ⟨a, run⟩ := first
    have second := hk a (b.after S (f b.offset)) (h.after fits)
      (by simp only [CdrSerializationBuffer.after]; omega)
    rw [bind_ok run, append_apply, ← after_append]
    by_cases both : b.offset + ((f b.offset).length + (g (b.offset + (f b.offset).length)).length)
        ≤ b.size
    · rw [if_pos both]
      rwa [if_pos (by simp only [CdrSerializationBuffer.after]; omega)] at second
    · rw [if_neg both]
      rw [if_neg (by simp only [CdrSerializationBuffer.after]; omega)] at second
      obtain ⟨b', fails, spared⟩ := second
      exact ⟨b', fails, (spared_after fits).trans spared⟩
  · rw [if_neg fits] at first
    obtain ⟨b', fails, spared⟩ := first
    rw [if_neg (by omega)]
    exact ⟨b', bind_error fails, spared⟩

/-- A writer followed by one that writes nothing. -/
theorem Emits.andThen {α β : Type} {m : Ser α} {k : α → Ser β} {f : Layout} (hm : Emits S m f)
    (hk : ∀ a, Emits S (k a) Layout.empty) : Emits S (m >>= k) f := by
  have both := hm.bind hk
  rwa [append_empty] at both

/-- A loop over a list puts down what its rounds put down. -/
theorem Emits.loop {α β : Type} {body : Nat → Ser α} {f : β → Layout} :
    ∀ (xs : List β) (i : Nat), (∀ j (hj : j < xs.length), Emits S (body (i + j)) (f xs[j])) →
      Emits S (loop body xs.length i) (Layout.concat (xs.map f))
  | [], _, _ => Emits.pure []
  | x :: xs, i, h => by
    have rest := Emits.loop xs (i + 1) fun j hj => by
      have next := h (j + 1) (Nat.succ_lt_succ hj)
      rwa [← Nat.add_assoc, Nat.add_right_comm, List.getElem_cons_succ] at next
    exact (h 0 (Nat.succ_pos _)).bind fun _ => rest.andThen fun _ => Emits.pure _

/-! ### Operations -/

theorem emits_roundup (w : Word) : Emits S (Ser.roundup w.bytes) (Layout.align w.bytes) := by
  intro b h bound
  rw [align_length] at bound ⊢
  have inside := h.inside
  have bounded := h.bounded
  have gap := padding_lt w.bytes_pos b.offset
  have small := w.bytes_le
  have sum : sizeT (b.offset + padding w.bytes b.offset) = b.offset + padding w.bytes b.offset :=
    sizeT_of_lt (by omega)
  rw [Ser.roundup, bind_ok (get_run b), CdrBuffer.roundup_count (by omega)]
  rw [CdrBuffer.exceeds_eq (by omega)]
  by_cases fits : b.offset + padding w.bytes b.offset ≤ b.size
  · rw [if_pos fits, if_neg (by rw [decide_eq_true_eq]; omega)]
    refine ⟨(), ?_⟩
    rw [Ser.advance, modify_run, CdrBuffer.advance, sum]
    cases S <;> simp [CdrSerializationBuffer.after, Layout.align, overlay_gap]
  · rw [if_neg fits, if_pos (by rw [decide_eq_true_eq]; omega)]
    exact ⟨b, rfl, .refl b⟩

/-- Storing bytes puts them down. -/
theorem emits_put (bs : List Byte) : Emits S (Ser.put S bs.length bs) (Layout.bytes bs) := by
  intro b h bound
  rw [bytes_apply, List.length_map] at bound ⊢
  have sum : sizeT (b.offset + bs.length) = b.offset + bs.length := sizeT_of_lt (by omega)
  cases S
  · have fits : b.offset + bs.length ≤ b.size := by rw [h.unbounded rfl]; omega
    rw [if_pos fits]
    refine ⟨(), ?_⟩
    rw [Ser.put, Ser.advance, modify_run, CdrBuffer.advance, sum]
    simp [CdrSerializationBuffer.after]
  · have backed := h.backed rfl
    by_cases fits : b.offset + bs.length ≤ b.size
    · have passes : Ser.check bs.length b = .ok () b := by
        rw [Ser.check, bind_ok (get_run b), CdrBuffer.exceeds_eq (by omega),
          if_neg (by rw [decide_eq_true_eq]; omega)]
        rfl
      have stores : Ser.store bs b = .ok () { b with
          mem := overlay b.mem (cdrHeaderSize + b.offset) (bs.map some) } := by
        rw [Ser.store, bind_ok (get_run b), poke_eq (by omega)]
        rfl
      rw [if_pos fits]
      refine ⟨(), ?_⟩
      rw [Ser.put, bind_ok passes, bind_ok stores, Ser.advance, modify_run, CdrBuffer.advance, sum]
      simp [CdrSerializationBuffer.after]
    · have fails : Ser.check bs.length b = .error outOfBuffer b := by
        rw [Ser.check, bind_ok (get_run b), CdrBuffer.exceeds_eq (by omega),
          if_pos (by rw [decide_eq_true_eq]; omega)]
        rfl
      rw [if_neg fits]
      exact ⟨b, bind_error fails, .refl b⟩

theorem emits_word (o : ByteOrder) (w : Word) (x : BitVec w.bits) :
    Emits S (Ser.word S o w x) (Layout.word o w x) := by
  have put := emits_put (S := S) (o.store w x)
  rw [ByteOrder.store_length] at put
  exact (emits_roundup w).bind fun _ => put

theorem emits_count (o : ByteOrder) (n : Nat) :
    Emits S (Ser.count S o n) (Layout.word o .uint32 (BitVec.ofNat _ n)) := by
  have same : (BitVec.ofNat Word.uint32.bits (uint32T n)) = BitVec.ofNat _ n := by
    apply BitVec.eq_of_toNat_eq
    rw [BitVec.toNat_ofNat, BitVec.toNat_ofNat]
    exact Nat.mod_mod n _
  rw [Ser.count, same]
  exact emits_word o .uint32 _

theorem emits_string (o : ByteOrder) (s : List Byte) :
    Emits S (Ser.string S o s)
      (Layout.word o .uint32 (BitVec.ofNat _ (s.length + 1)) ++ Layout.bytes (s ++ [0])) := by
  have put := emits_put (S := S) (s ++ [0])
  rw [List.length_append, List.length_singleton] at put
  have nogap : Layout.align Word.uint8.bytes = Layout.empty := by
    funext off
    rw [Layout.align, show Word.uint8.bytes = 1 from rfl, padding_one]
    rfl
  have rest := (emits_roundup (S := S) .uint8).bind fun _ => put
  rw [nogap, empty_append] at rest
  exact (emits_count o _).bind fun _ => rest

/-- The words of an array that is copied whole. -/
theorem emits_copyArr (o : ByteOrder) (w : Word) (xs : List (BitVec w.bits)) :
    Emits S (Ser.copyArr S o w xs xs.length) (Layout.concat (xs.map (Layout.word o w))) := by
  cases xs with
  | nil => exact Emits.pure ()
  | cons x xs =>
    intro b h bound
    have len := o.flatMap_store_length w (x :: xs)
    have put := emits_put (S := S) ((x :: xs).flatMap (o.store w))
    have whole := (emits_roundup (S := S) w).bind fun _ => put
    rw [← concat_words_cons] at whole
    have small : (x :: xs).length * w.bytes < 2 ^ 64 := by
      rw [concat_words_cons, append_length, bytes_apply, List.length_map, len] at bound
      omega
    have step : Ser.copyArr S o w (x :: xs) (x :: xs).length = (do
        Ser.roundup w.bytes
        Ser.put S ((x :: xs).flatMap (o.store w)).length ((x :: xs).flatMap (o.store w))) := by
      rw [Ser.copyArr, if_neg (show (x :: xs).length ≠ 0 from Nat.succ_ne_zero _),
        sizeT_of_lt small, List.take_length, ← len]
    rw [step]
    exact whole b h bound

theorem emits_u16string (o : ByteOrder) (s : List Char16) :
    Emits S (Ser.u16string S o s)
      (Layout.word o .uint32 (BitVec.ofNat _ s.length) ++
        Layout.concat (s.map (Layout.word o .uint16))) := by
  intro b h bound
  -- The length leaves the offset even, so the characters need no gap of their own.
  have even : ∀ off, (off + (Layout.word o .uint32 (BitVec.ofNat _ s.length) off).length) %
      Word.uint16.bytes = 0 := by
    intro off
    have aligned := padding_aligns Word.uint32.bytes_pos off
    rw [word_length]
    simp only [Word.bytes] at aligned ⊢
    omega
  have flat : Layout.word o .uint32 (BitVec.ofNat _ s.length) ++
        Layout.concat (s.map (Layout.word o .uint16)) =
      Layout.word o .uint32 (BitVec.ofNat _ s.length) ++
        (Layout.align Word.uint16.bytes ++ Layout.bytes (s.flatMap (o.store .uint16))) := by
    funext off
    rw [append_apply, append_apply, append_apply, concat_words o .uint16 s _ (even off),
      Layout.align, padding_eq_zero (even off)]
    rfl
  have len := o.flatMap_store_length .uint16 s
  rw [flat] at bound ⊢
  have small : s.length * Word.uint16.bytes < 2 ^ 64 := by
    rw [append_length, append_length, bytes_apply, List.length_map, len] at bound
    omega
  have put := emits_put (S := S) (s.flatMap (o.store .uint16))
  have whole := (emits_count (S := S) o s.length).bind fun _ =>
    (emits_roundup (S := S) .uint16).bind fun _ => put
  rw [Ser.u16string, sizeT_of_lt small, ← len]
  exact whole b h bound

end Contract

end Cdr
