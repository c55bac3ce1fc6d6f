import RmwGurumdds.Exec.Program
import RmwGurumdds.Wire.Layout

/-!
# The position of a CDR buffer

What the writing and the reading buffer share: an offset into the bytes after the header, the
number of those bytes, and `roundup`, which moves the offset to the next multiple of an alignment.

`offset_` and `size_` are `size_t`, so every sum here is taken modulo 2^64 and the bounds checks
compare what is left of it. Below 2^63, which no object in memory exceeds, the arithmetic is the
arithmetic of `Nat` and the negation in `roundup` is the padding of a layout (`roundup_count`).
-/

namespace Cdr

open Wire

/-! ## Exceptions and machine integers -/

/-- What a C++ container throws when it does not take a size. Neither is a `std::runtime_error`. -/
inductive ContainerError where
  /-- `std::length_error`: more than its type allows. -/
  | lengthError
  /-- `std::bad_alloc`: more than there is memory for. -/
  | badAlloc
deriving DecidableEq, Repr

/-- How the code leaves a function other than by returning. Only `runtimeError` is caught. -/
inductive Exn where
  /-- `std::runtime_error`. -/
  | runtimeError (what : String)
  /-- `std::logic_error`. -/
  | logicError (what : String)
  /-- What a container threw. -/
  | container (e : ContainerError)
  /-- An access outside the memory the code was given. -/
  | outOfBounds
  /-- A loop that never ends. -/
  | diverges
deriving DecidableEq, Repr

/-- Thrown by a container. -/
def Exn.isContainer : Exn → Bool
  | .container _ => true
  | _ => false

/-- What every failed bounds check throws. -/
def outOfBuffer : Exn := .runtimeError "Out of buffer"

/-- A result of `size_t` arithmetic. -/
def sizeT (n : Nat) : Nat := n % 2 ^ 64

/-- `static_cast<uint32_t>` of a `size_t`. -/
def uint32T (n : Nat) : Nat := n % 2 ^ 32

theorem sizeT_of_lt {n : Nat} (h : n < 2 ^ 64) : sizeT n = n := Nat.mod_eq_of_lt h

theorem uint32T_lt (n : Nat) : uint32T n < 2 ^ 32 := Nat.mod_lt _ (by decide)

theorem uint32T_of_lt {n : Nat} (h : n < 2 ^ 32) : uint32T n = n := Nat.mod_eq_of_lt h

/-! ## Headers -/

/-- `CDR_HEADER_SIZE`. -/
def cdrHeaderSize : Nat := 4

/-- `CDR_HEADER_ENDIAN_IDX`. -/
def cdrHeaderEndianIdx : Nat := 1

/-- `CDR_SYSTEM_ENDIAN` on a host of this byte order. -/
def cdrSystemEndian : ByteOrder → Byte
  | .big => 0
  | .little => 1

/-! ## Positions -/

/-- `CdrBuffer` without the bytes it points to. -/
structure CdrBuffer where
  offset : Nat
  size : Nat
deriving DecidableEq, Repr

namespace CdrBuffer

/-- `advance`. -/
def advance (b : CdrBuffer) (cnt : Nat) : CdrBuffer := { b with offset := sizeT (b.offset + cnt) }

/-- `-offset_ & (align - 1)`. -/
def roundupCount (b : CdrBuffer) (align : Nat) : Nat := sizeT (2 ^ 64 - b.offset) &&& (align - 1)

/-- `offset_ + cnt > size_`. -/
def exceeds (b : CdrBuffer) (cnt : Nat) : Bool := decide (b.size < sizeT (b.offset + cnt))

/-- Below the range of `size_t` a bounds check checks the bound. -/
theorem exceeds_eq {b : CdrBuffer} {cnt : Nat} (h : b.offset + cnt < 2 ^ 64) :
    b.exceeds cnt = decide (b.size < b.offset + cnt) := by
  rw [exceeds, sizeT_of_lt h]

/-- The negated offset, cut to the alignment, is the distance to its next multiple. -/
theorem roundup_count {b : CdrBuffer} (h : b.offset < 2 ^ 64) (w : Word) :
    b.roundupCount w.bytes = padding w.bytes b.offset := by
  have cut : ∀ k, sizeT (2 ^ 64 - b.offset) &&& (2 ^ k - 1) = sizeT (2 ^ 64 - b.offset) % 2 ^ k :=
    fun k => Nat.and_two_pow_sub_one_eq_mod _ k
  unfold roundupCount padding
  cases w
  · exact (cut 0).trans (by simp only [sizeT, Word.bytes]; omega)
  · exact (cut 1).trans (by simp only [sizeT, Word.bytes]; omega)
  · exact (cut 2).trans (by simp only [sizeT, Word.bytes]; omega)
  · exact (cut 3).trans (by simp only [sizeT, Word.bytes]; omega)

end CdrBuffer

end Cdr
