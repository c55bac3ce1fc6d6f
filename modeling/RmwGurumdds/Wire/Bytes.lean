import Mathlib.Data.List.Basic
import Mathlib.Tactic.IntervalCases

/-!
# Machine words as bytes

The byte-level vocabulary under every binary format: an unsigned word of one, two, four or eight
bytes (`Word`), the two orders in which a host keeps a word in memory (`ByteOrder`), and the
reading of a word from a byte string.

The laws are the facts a codec rests on. A word read back in the order it was written in is the word
(`ByteOrder.load_store`), and bytes written back are the bytes (`ByteOrder.store_load`); a word read
back in the other order is the word with its bytes reversed (`ByteOrder.load_store_swapped`), so
reversing once more recovers it.
-/

namespace Wire

/-- One byte of memory. -/
abbrev Byte := BitVec 8

/-! ## Little-endian digits -/

/-- The `k` lowest base-256 digits of a natural, lowest first. -/
def digits : Nat → Nat → List Byte
  | 0, _ => []
  | k + 1, n => BitVec.ofNat 8 n :: digits k (n / 256)

/-- The natural a list of digits stands for, lowest first. -/
def ofDigits : List Byte → Nat
  | [] => 0
  | b :: bs => b.toNat + 256 * ofDigits bs

@[simp] theorem digits_length : ∀ k n : Nat, (digits k n).length = k
  | 0, _ => rfl
  | k + 1, n => by rw [digits, List.length_cons, digits_length k]

/-- Enough digits determine the natural. -/
theorem ofDigits_digits : ∀ k n : Nat, n < 256 ^ k → ofDigits (digits k n) = n
  | 0, n, h => by
    rw [Nat.pow_zero, Nat.lt_one_iff] at h
    rw [h]; rfl
  | k + 1, n, h => by
    have hk : n / 256 < 256 ^ k := by
      rw [Nat.pow_succ] at h
      omega
    rw [digits, ofDigits, ofDigits_digits k _ hk, BitVec.toNat_ofNat]
    omega

/-- The natural some digits stand for has no more digits. -/
theorem ofDigits_lt : ∀ bs : List Byte, ofDigits bs < 256 ^ bs.length
  | [] => Nat.one_pos
  | b :: bs => by
    have rest := ofDigits_lt bs
    have byte : b.toNat < 256 := b.isLt
    rw [ofDigits, List.length_cons, Nat.pow_succ]
    omega

/-- Digits are the digits of the natural they stand for. -/
theorem digits_ofDigits : ∀ bs : List Byte, digits bs.length (ofDigits bs) = bs
  | [] => rfl
  | b :: bs => by
    have byte : b.toNat < 256 := b.isLt
    have high : (b.toNat + 256 * ofDigits bs) / 256 = ofDigits bs := by omega
    have low : BitVec.ofNat 8 (b.toNat + 256 * ofDigits bs) = b := by
      apply BitVec.eq_of_toNat_eq
      rw [BitVec.toNat_ofNat]
      omega
    rw [List.length_cons, ofDigits, digits, high, low, digits_ofDigits bs]

/-- The low digits do not depend on the high ones. -/
theorem digits_mod : ∀ k n : Nat, digits k (n % 256 ^ k) = digits k n
  | 0, _ => rfl
  | k + 1, n => by
    have low : n % (256 ^ k * 256) % 256 = n % 256 := Nat.mod_mul_left_mod n (256 ^ k) 256
    have byte : BitVec.ofNat 8 (n % (256 ^ k * 256)) = BitVec.ofNat 8 n := by
      apply BitVec.eq_of_toNat_eq
      rw [BitVec.toNat_ofNat, BitVec.toNat_ofNat]
      exact low
    rw [digits, digits, Nat.pow_succ, byte, Nat.mul_comm, Nat.mod_mul_right_div_self, digits_mod k]

/-- The digits of a number are the digits of its low part and those of its high part. -/
theorem digits_add : ∀ k l n : Nat, digits (k + l) n = digits k n ++ digits l (n / 256 ^ k)
  | 0, l, n => by rw [Nat.zero_add, Nat.pow_zero, Nat.div_one]; rfl
  | k + 1, l, n => by
    rw [Nat.succ_add, digits, digits, digits_add k, Nat.div_div_eq_div_mul, Nat.pow_succ',
      List.cons_append]

/-- The digits of a natural, each named by its position. -/
theorem digits_eq_map (k n : Nat) :
    digits k n = (List.range k).map fun i => BitVec.ofNat 8 (n / 256 ^ i) := by
  induction k generalizing n with
  | zero => rfl
  | succ k ih =>
    rw [digits, ih, List.range_succ_eq_map]
    simp [Nat.div_div_eq_div_mul, Nat.pow_succ, Nat.mul_comm, Function.comp_def]

/-- The digit of a bit vector at position `i` is its `i`-th byte. -/
theorem ofNat_div_eq_extract {w : Nat} (x : BitVec w) (i : Nat) :
    BitVec.ofNat 8 (x.toNat / 256 ^ i) = x.extractLsb' (8 * i) 8 := by
  apply BitVec.eq_of_toNat_eq
  simp [BitVec.extractLsb', Nat.shiftRight_eq_div_pow, Nat.pow_mul]

/-! ## Words -/

/-- The widths an unsigned machine word comes in. -/
inductive Word where
  | uint8
  | uint16
  | uint32
  | uint64
deriving DecidableEq, Repr

/-- The size of a word in bytes, which is also its alignment. -/
def Word.bytes : Word → Nat
  | .uint8 => 1
  | .uint16 => 2
  | .uint32 => 4
  | .uint64 => 8

/-- The size of a word in bits. -/
def Word.bits (w : Word) : Nat := 8 * w.bytes

theorem Word.bytes_pos (w : Word) : 0 < w.bytes := by
  cases w <;> decide

theorem Word.bytes_le (w : Word) : w.bytes ≤ 8 := by
  cases w <;> decide

theorem Word.pow_bytes (w : Word) : 256 ^ w.bytes = 2 ^ w.bits := by
  rw [Word.bits, Nat.pow_mul]

/-! ## Byte orders -/

/-- The order in which a host keeps the bytes of a word. -/
inductive ByteOrder where
  | little
  | big
deriving DecidableEq, Repr

/-- The bytes of a word as the host keeps them. -/
def ByteOrder.store (o : ByteOrder) (w : Word) (x : BitVec w.bits) : List Byte :=
  match o with
  | .little => digits w.bytes x.toNat
  | .big => (digits w.bytes x.toNat).reverse

/-- The word a host sees in a byte string. -/
def ByteOrder.load (o : ByteOrder) (w : Word) (bs : List Byte) : BitVec w.bits :=
  match o with
  | .little => BitVec.ofNat w.bits (ofDigits bs)
  | .big => BitVec.ofNat w.bits (ofDigits bs.reverse)

/-- The words of a byte string, back to back. -/
def ByteOrder.words (o : ByteOrder) (w : Word) : Nat → List Byte → List (BitVec w.bits)
  | 0, _ => []
  | n + 1, bs => o.load w (bs.take w.bytes) :: o.words w n (bs.drop w.bytes)

/-- Bytes past the last word do not matter. -/
theorem ByteOrder.words_take (o : ByteOrder) (w : Word) :
    ∀ (n : Nat) (bs : List Byte), o.words w n (bs.take (n * w.bytes)) = o.words w n bs
  | 0, _ => rfl
  | n + 1, bs => by
    have split : (n + 1) * w.bytes = w.bytes + n * w.bytes := by rw [Nat.succ_mul, Nat.add_comm]
    rw [words, words, List.take_take, Nat.min_eq_left (by omega), List.drop_take, split,
      Nat.add_sub_cancel_left, o.words_take w n]

@[simp] theorem ByteOrder.store_length (o : ByteOrder) (w : Word) (x : BitVec w.bits) :
    (o.store w x).length = w.bytes := by
  cases o <;> simp [ByteOrder.store]

theorem ByteOrder.flatMap_store_length (o : ByteOrder) (w : Word) (xs : List (BitVec w.bits)) :
    (xs.flatMap (o.store w)).length = xs.length * w.bytes := by
  rw [List.length_flatMap, List.map_congr_left fun x _ => o.store_length w x, List.map_const',
    List.sum_replicate_nat]

/-- The digits of a word determine it. -/
theorem ofNat_ofDigits_digits (w : Word) (x : BitVec w.bits) :
    BitVec.ofNat w.bits (ofDigits (digits w.bytes x.toNat)) = x := by
  rw [ofDigits_digits _ _ (by rw [Word.pow_bytes]; exact x.isLt)]
  rw [BitVec.ofNat_toNat, BitVec.setWidth_eq]

/-- **A word reads back in the order it was written in.** -/
theorem ByteOrder.load_store (o : ByteOrder) (w : Word) (x : BitVec w.bits) :
    o.load w (o.store w x) = x := by
  cases o with
  | little => exact ofNat_ofDigits_digits w x
  | big => rw [ByteOrder.load, ByteOrder.store, List.reverse_reverse, ofNat_ofDigits_digits]

/-- **Bytes written back as they were read are the bytes.** -/
theorem ByteOrder.store_load (o : ByteOrder) (w : Word) {bs : List Byte} (h : bs.length = w.bytes) :
    o.store w (o.load w bs) = bs := by
  have whole : ∀ bs : List Byte, bs.length = w.bytes →
      digits w.bytes (BitVec.ofNat w.bits (ofDigits bs)).toNat = bs := by
    intro bs length
    have small := ofDigits_lt bs
    rw [length, w.pow_bytes] at small
    rw [BitVec.toNat_ofNat, Nat.mod_eq_of_lt small, ← length, digits_ofDigits]
  cases o with
  | little => exact whole bs h
  | big =>
    rw [ByteOrder.store, ByteOrder.load, whole bs.reverse (by rw [List.length_reverse, h]),
      List.reverse_reverse]

/-- `r` reverses the bytes of a word. -/
def Reverses (w : Word) (r : BitVec w.bits → BitVec w.bits) : Prop :=
  ∀ x, digits w.bytes (r x).toNat = (digits w.bytes x.toNat).reverse

/-- A byte reversal undoes itself. -/
theorem Reverses.involutive {w : Word} {r : BitVec w.bits → BitVec w.bits} (h : Reverses w r)
    (x : BitVec w.bits) : r (r x) = x := by
  have same : digits w.bytes (r (r x)).toNat = digits w.bytes x.toNat := by
    rw [h, h, List.reverse_reverse]
  rw [← ofNat_ofDigits_digits w (r (r x)), same, ofNat_ofDigits_digits]

/-- **A word read back in the other order is the word with its bytes reversed.** -/
theorem ByteOrder.load_store_swapped {w : Word} {r : BitVec w.bits → BitVec w.bits}
    (h : Reverses w r) {o o' : ByteOrder} (ne : o ≠ o') (x : BitVec w.bits) :
    o'.load w (o.store w x) = r x := by
  cases o <;> cases o'
  · exact absurd rfl ne
  · rw [ByteOrder.load, ByteOrder.store, ← h, ofNat_ofDigits_digits]
  · rw [ByteOrder.load, ByteOrder.store, ← h, ofNat_ofDigits_digits]
  · exact absurd rfl ne

end Wire
