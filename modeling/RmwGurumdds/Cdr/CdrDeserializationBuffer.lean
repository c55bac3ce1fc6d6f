import RmwGurumdds.Cdr.CdrBuffer
import RmwGurumdds.Cdr.Introspection
import RmwGurumdds.Wire.Parser

/-!
# The deserialization buffer

`CdrDeserializationBuffer`: the bytes after the header, whether their byte order is the other one,
and the position. Every read goes through `load`, which is an error outside the bytes.

The state also keeps a log, which no operation looks at: where the offset has been, which ends the
bounds checks compared (before `size_t` could wrap them) and to how many elements a sequence was
sized. A property of every step of a run is a property of its log.

`Reads` is the contract of every reading program: it answers what a parser answers and stops where
the parser stops, or throws a `std::runtime_error` when the parser has no answer; and whichever way
it ends, the offset has stayed inside the bytes and no bounds check has wrapped (`Valid`).
-/

namespace Cdr

open Wire Exec

/-! ## Byte swapping -/

/-- `bswap16`. -/
def bswap16 (data : BitVec 16) : BitVec 16 := (data >>> 8) ||| (data <<< 8)

/-- `bswap32`. -/
def bswap32 (data : BitVec 32) : BitVec 32 :=
  (data >>> 24) ||| ((data >>> 8) &&& 0x0000ff00#32) ||| ((data <<< 8) &&& 0x00ff0000#32) |||
    (data <<< 24)

/-- `bswap64`. -/
def bswap64 (data : BitVec 64) : BitVec 64 :=
  (data >>> 56) ||| ((data >>> 40) &&& 0x000000000000ff00#64) |||
    ((data >>> 24) &&& 0x0000000000ff0000#64) ||| ((data >>> 8) &&& 0x00000000ff000000#64) |||
    ((data <<< 8) &&& 0x000000ff00000000#64) ||| ((data <<< 24) &&& 0x0000ff0000000000#64) |||
    ((data <<< 40) &&& 0x00ff000000000000#64) ||| (data <<< 56)

/-- The swap `operator>>` applies. -/
def bswap : (w : Word) → BitVec w.bits → BitVec w.bits
  | .uint8, x => x
  | .uint16, x => bswap16 x
  | .uint32, x => bswap32 x
  | .uint64, x => bswap64 x

/-- The swap `copy_arr` applies to an element: on 64-bit words it is the 32-bit one. -/
def bswapElement : (w : Word) → BitVec w.bits → BitVec w.bits
  | .uint8, x => x
  | .uint16, x => bswap16 x
  | .uint32, x => bswap32 x
  | .uint64, x => (bswap32 (BitVec.setWidth 32 x)).setWidth 64

/-! ## State -/

/-- A step of a reader that a property of the run may ask about. -/
inductive Event where
  /-- The offset after a move. -/
  | moved (offset : Nat)
  /-- The end a bounds check compares, as a natural. -/
  | checked (last : Nat)
  /-- The number of elements a sequence of the target is sized to. -/
  | resized (count : Nat)
deriving DecidableEq, Repr

/-- A buffer being read: `buf` is what follows the header. -/
structure CdrDeserializationBuffer extends CdrBuffer where
  buf : List Byte
  swap : Bool
  log : List Event
deriving DecidableEq, Repr

/-- Programs over a buffer being read. -/
abbrev Des := EStateM Exn CdrDeserializationBuffer

/-- The constructor, on a host of the given byte order. -/
def CdrDeserializationBuffer.make (o : ByteOrder) (bytes : List Byte) :
    Except Exn CdrDeserializationBuffer :=
  if bytes.length < cdrHeaderSize then .error (.runtimeError "Insufficient buffer size")
  else
    .ok {
      offset := 0
      size := bytes.length - cdrHeaderSize
      buf := bytes.drop cdrHeaderSize
      swap := bytes[cdrHeaderEndianIdx]? != some (cdrSystemEndian o)
      log := [] }

namespace Des

/-! ## Operations -/

def note (e : Event) : Des Unit := modify fun b => { b with log := e :: b.log }

def advance (cnt : Nat) : Des Unit :=
  modify fun b =>
    { b with
      toCdrBuffer := b.toCdrBuffer.advance cnt
      log := .moved (b.toCdrBuffer.advance cnt).offset :: b.log }

/-- The bounds check before a load. -/
def check (cnt : Nat) : Des Unit := do
  let b ← get
  note (.checked (b.offset + cnt))
  if b.exceeds cnt then throw outOfBuffer else pure ()

def roundup (align : Nat) : Des Unit := do
  let b ← get
  check (b.roundupCount align)
  advance (b.roundupCount align)

/-- The `n` bytes at `buf_ + start`. -/
def load (start n : Nat) : Des (List Byte) := do
  let b ← get
  if start + n ≤ b.buf.length then pure ((b.buf.drop start).take n) else throw .outOfBounds

variable (o : ByteOrder)

/-- `operator>>` for the unsigned integers. -/
def word (w : Word) : Des (BitVec w.bits) := do
  roundup w.bytes
  check w.bytes
  let b ← get
  let bs ← load b.offset w.bytes
  advance w.bytes
  return if b.swap then bswap w (o.load w bs) else o.load w bs

/-- The terminator check, which only `operator>>(std::string)` makes. -/
def checkTerminator (terminated : Bool) (strSize : Nat) : Des Unit :=
  if terminated then do
    let b ← get
    let last ← load (b.offset + strSize - 1) 1
    if last = [0] then pure () else throw (.runtimeError "String is not null terminated")
  else pure ()

/-- `operator>>` for `std::string` and `rosidl_runtime_c__String`. The first checks the terminator;
the second assigns through the runtime, which may leave the target as it was. -/
def string (terminated : Bool) (assign : List Byte → List Byte) : Des (List Byte) := do
  let strSize ← word o .uint32
  roundup Word.uint8.bytes
  if strSize.toNat = 0 then pure []
  else do
    check strSize.toNat
    checkTerminator terminated strSize.toNat
    let b ← get
    let s ← load b.offset (strSize.toNat - 1)
    advance strSize.toNat
    return assign s

/-- `operator>>` for `std::u16string` and `rosidl_runtime_c__U16String`. `resize` tells whether the
runtime sizes the target. -/
def u16string (resize : Nat → Bool) : Des (List Char16) := do
  let strSize ← word o .uint32
  roundup Word.uint16.bytes
  if strSize.toNat = 0 then pure []
  else do
    check (strSize.toNat * Word.uint16.bytes)
    if resize strSize.toNat then do
      let b ← get
      let s ← loop (fun i => do
        let bs ← load (b.offset + i * Word.uint16.bytes) Word.uint16.bytes
        return if b.swap then bswap .uint16 (o.load .uint16 bs) else o.load .uint16 bs)
        strSize.toNat 0
      advance (strSize.toNat * Word.uint16.bytes)
      return s
    else throw (.runtimeError "Failed to resize wstring")

/-- `copy_arr` of `cnt` words. -/
def copyArr (w : Word) (cnt : Nat) : Des (List (BitVec w.bits)) :=
  if cnt = 0 then pure []
  else do
    roundup w.bytes
    check (cnt * w.bytes)
    let b ← get
    let xs ← (if b.swap && w != .uint8 then
        loop (fun i => do
          let bs ← load (b.offset + i * w.bytes) w.bytes
          return bswapElement w (o.load w bs)) cnt 0
      else do
        let bs ← load b.offset (cnt * w.bytes)
        return o.words w cnt bs)
    advance (cnt * w.bytes)
    return xs

end Des

/-! ## The contract of a reader -/

/-- A step that stays inside a buffer of this size and whose bounds check means what it says. -/
def Event.sound (size : Nat) : Event → Bool
  | .moved offset => decide (offset ≤ size)
  | .checked last => decide (last < 2 ^ 64)
  | .resized _ => true

/-- The state a reader is in between two operations, and has been in at every step before. -/
structure CdrDeserializationBuffer.Valid (b : CdrDeserializationBuffer) : Prop where
  inside : b.offset ≤ b.size
  backed : b.size = b.buf.length
  bounded : b.size < 2 ^ 63
  sound : ∀ e ∈ b.log, e.sound b.size = true

/-- A later state of the same buffer. -/
structure CdrDeserializationBuffer.Later (b b' : CdrDeserializationBuffer) : Prop where
  valid : b'.Valid
  size_eq : b'.size = b.size
  buf_eq : b'.buf = b.buf
  swap_eq : b'.swap = b.swap
  offset_le : b.offset ≤ b'.offset

/-- From the state `b`, `m` reads what `p` parses. -/
def ReadsAt {α : Type} (m : Des α) (p : Parser α) (b : CdrDeserializationBuffer) : Prop :=
  match p b.buf b.offset with
  | some (a, off) => ∃ b', m b = .ok a b' ∧ b.Later b' ∧ b'.offset = off
  | none => ∃ what b', m b = .error (.runtimeError what) b' ∧ b.Later b'

/-- `m` reads what `p` parses, on every buffer of this byte order. -/
def Reads {α : Type} (swap : Bool) (m : Des α) (p : Parser α) : Prop :=
  ∀ b : CdrDeserializationBuffer, b.Valid → b.swap = swap → ReadsAt m p b

section Contract

variable {α β : Type} {swap : Bool} {b b' b'' : CdrDeserializationBuffer}

theorem CdrDeserializationBuffer.Later.refl (h : b.Valid) : b.Later b :=
  ⟨h, rfl, rfl, rfl, Nat.le_refl _⟩

theorem CdrDeserializationBuffer.Later.trans (h : b.Later b') (h' : b'.Later b'') :
    b.Later b'' where
  valid := h'.valid
  size_eq := h'.size_eq.trans h.size_eq
  buf_eq := h'.buf_eq.trans h.buf_eq
  swap_eq := h'.swap_eq.trans h.swap_eq
  offset_le := Nat.le_trans h.offset_le h'.offset_le

theorem ReadsAt.of_some {m : Des α} {p : Parser α} {a : α} {off : Nat}
    (parsed : p b.buf b.offset = some (a, off))
    (h : ∃ b', m b = .ok a b' ∧ b.Later b' ∧ b'.offset = off) : ReadsAt m p b := by
  rwa [ReadsAt, parsed]

theorem ReadsAt.of_none {m : Des α} {p : Parser α} (parsed : p b.buf b.offset = none)
    (h : ∃ what b', m b = .error (.runtimeError what) b' ∧ b.Later b') : ReadsAt m p b := by
  rwa [ReadsAt, parsed]

/-! ### Composition -/

theorem Reads.pure (a : α) : Reads swap (pure a) (pure a) :=
  fun _ h _ => ⟨_, rfl, .refl h, rfl⟩

/-- What follows reads from where the first reader stops. -/
theorem ReadsAt.bind {m : Des α} {p : Parser α} {k : α → Des β} {q : α → Parser β}
    (first : ReadsAt m p b)
    (rest : ∀ a b', m b = .ok a b' → p b.buf b.offset = some (a, b'.offset) → b.Later b' →
      ReadsAt (k a) (q a) b') :
    ReadsAt (m >>= k) (p >>= q) b := by
  unfold ReadsAt at first
  cases parsed : p b.buf b.offset with
  | none =>
    rw [parsed] at first
    obtain ⟨what, b', fails, later⟩ := first
    exact .of_none (Parser.bind_none parsed) ⟨what, b', bind_error fails, later⟩
  | some r =>
    obtain ⟨a, off⟩ := r
    rw [parsed] at first
    obtain ⟨b', run, later, rfl⟩ := first
    have second := rest a b' run parsed later
    unfold ReadsAt at second
    rw [later.buf_eq] at second
    rw [ReadsAt, Parser.bind_some parsed, bind_ok run]
    cases parsed' : q a b.buf b'.offset with
    | none =>
      rw [parsed'] at second
      obtain ⟨what, b'', fails, later'⟩ := second
      exact ⟨what, b'', fails, later.trans later'⟩
    | some r =>
      rw [parsed'] at second
      obtain ⟨b'', run', later', off_eq⟩ := second
      exact ⟨b'', run', later.trans later', off_eq⟩

/-- **One reader after another reads what one parser after another parses.** -/
theorem Reads.bind {m : Des α} {p : Parser α} {k : α → Des β} {q : α → Parser β}
    (hm : Reads swap m p) (hk : ∀ a, Reads swap (k a) (q a)) :
    Reads swap (m >>= k) (p >>= q) :=
  fun b h hs => (hm b h hs).bind fun a b' _ _ later =>
    hk a b' later.valid (later.swap_eq.trans hs)

theorem Reads.map {m : Des α} {p : Parser α} (g : α → β) (h : Reads swap m p) :
    Reads swap (m >>= fun a => Pure.pure (g a)) (g <$> p) :=
  h.bind fun a => Reads.pure (g a)

/-! ### Answers of a kind -/

/-- `m` reads what `p` parses where its answer is one of a kind. -/
def ReadsWhere {α : Type} (swap : Bool) (ok : α → Prop) (m : Des α) (p : Parser α) : Prop :=
  ∀ b : CdrDeserializationBuffer, b.Valid → b.swap = swap →
    ∀ a off, p b.buf b.offset = some (a, off) → ok a → ReadsAt m p b

variable {ok : β → Prop}

/-- What comes before is read whatever it is. -/
theorem ReadsWhere.bind {m : Des α} {p : Parser α} {k : α → Des β} {q : α → Parser β}
    (hm : Reads swap m p) (hk : ∀ a, ReadsWhere swap ok (k a) (q a)) :
    ReadsWhere swap ok (m >>= k) (p >>= q) := by
  intro b valid hs x off answer good
  refine (hm b valid hs).bind fun a b' _ parsed later => ?_
  rw [Parser.bind_some parsed, ← later.buf_eq] at answer
  exact hk a b' later.valid (later.swap_eq.trans hs) x off answer good

theorem ReadsWhere.map {m : Des α} {p : Parser α} (g : α → β)
    (h : ReadsWhere swap (fun a => ok (g a)) m p) :
    ReadsWhere swap ok (m >>= fun a => Pure.pure (g a)) (g <$> p) := by
  intro b valid hs x off answer good
  rw [Parser.map_run] at answer
  obtain ⟨⟨a, next⟩, parsed, same⟩ := Option.map_eq_some_iff.mp answer
  obtain ⟨rfl, rfl⟩ := Prod.mk.inj same
  exact (h b valid hs a next parsed good).bind fun a' b' _ _ later =>
    Reads.pure (g a') b' later.valid (later.swap_eq.trans hs)

/-! ### Steps -/

/-- A bounds check passes exactly when the bytes are there. -/
theorem check_run (h : b.Valid) (cnt : Nat) (small : b.offset + cnt < 2 ^ 64) :
    ∃ b', b.Later b' ∧ b'.offset = b.offset ∧
      Des.check cnt b =
        if b.offset + cnt ≤ b.size then .ok () b' else .error outOfBuffer b' := by
  refine ⟨{ b with log := .checked (b.offset + cnt) :: b.log }, ⟨⟨h.inside, h.backed, h.bounded,
    List.forall_mem_cons.mpr ⟨decide_eq_true small, h.sound⟩⟩, rfl, rfl, rfl, Nat.le_refl _⟩, rfl,
    ?_⟩
  rw [Des.check, bind_ok (get_run b), Des.note, bind_ok (modify_run _ _),
    CdrBuffer.exceeds_eq small]
  by_cases fits : b.offset + cnt ≤ b.size
  · rw [if_pos fits, if_neg (by rw [decide_eq_true_eq]; omega)]
    rfl
  · rw [if_neg fits, if_pos (by rw [decide_eq_true_eq]; omega)]
    rfl

/-- Bytes that are there are moved past. -/
theorem advance_run (h : b.Valid) {cnt : Nat} (fits : b.offset + cnt ≤ b.size) (a : α) :
    ∃ b', (do Des.advance cnt; Pure.pure a) b = .ok a b' ∧ b.Later b' ∧
      b'.offset = b.offset + cnt := by
  have bounded := h.bounded
  have sum : (b.toCdrBuffer.advance cnt).offset = b.offset + cnt := sizeT_of_lt (by omega)
  refine ⟨{ b with
      toCdrBuffer := b.toCdrBuffer.advance cnt
      log := .moved (b.toCdrBuffer.advance cnt).offset :: b.log }, rfl, ⟨⟨?_, h.backed, h.bounded,
      List.forall_mem_cons.mpr ⟨?_, h.sound⟩⟩, rfl, rfl, rfl, ?_⟩, sum⟩
  · exact sum.trans_le fits
  · exact decide_eq_true (sum.trans_le fits)
  · exact (Nat.le_add_right _ _).trans sum.symm.le

theorem load_run (h : b.Valid) {start n : Nat} (fits : start + n ≤ b.size) :
    Des.load start n b = .ok ((b.buf.drop start).take n) b := by
  rw [Des.load, bind_ok (get_run b), if_pos (h.backed ▸ fits)]
  rfl

/-- Behind a bounds check, a reader may count on the bytes being there. -/
theorem reads_check (swap : Bool) {n : Nat} {k : Des α} {q : Parser α} (small : n < 2 ^ 63)
    (short : ∀ bs off, bs.length < off + n → q bs off = none)
    (h : ∀ b : CdrDeserializationBuffer, b.Valid → b.swap = swap → b.offset + n ≤ b.size →
      ReadsAt k q b) :
    Reads swap (do Des.check n; k) q := by
  intro b valid hs
  have inside := valid.inside
  have bounded := valid.bounded
  obtain ⟨b', later, same, checks⟩ := check_run valid n (by omega)
  by_cases fits : b.offset + n ≤ b.size
  · rw [if_pos fits] at checks
    have rest := h b' later.valid (later.swap_eq.trans hs) (by rw [same, later.size_eq]; exact fits)
    unfold ReadsAt at rest ⊢
    rw [later.buf_eq, same] at rest
    rw [bind_ok checks]
    cases parsed : q b.buf b.offset with
    | none =>
      rw [parsed] at rest
      obtain ⟨what, b'', fails, later'⟩ := rest
      exact ⟨what, b'', fails, later.trans later'⟩
    | some r =>
      rw [parsed] at rest
      obtain ⟨b'', run, later', off_eq⟩ := rest
      exact ⟨b'', run, later.trans later', off_eq⟩
  · rw [if_neg fits] at checks
    exact .of_none (short _ _ (by have := valid.backed; omega))
      ⟨_, b', bind_error checks, later⟩

/-- Rounding up reads a gap. -/
theorem reads_roundup (w : Word) : Reads swap (Des.roundup w.bytes) (Parser.align w.bytes) := by
  intro b valid hs
  have inside := valid.inside
  have bounded := valid.bounded
  have gap := padding_lt w.bytes_pos b.offset
  have small := w.bytes_le
  have passes := reads_check swap (n := padding w.bytes b.offset)
    (k := Des.advance (padding w.bytes b.offset))
    (q := fun bs off => if off + padding w.bytes b.offset ≤ bs.length then
      some ((), off + padding w.bytes b.offset) else none)
    (by omega) (fun bs off short => if_neg (by omega))
    (fun b' valid' _ fits => .of_some (if_pos (valid'.backed ▸ fits)) (advance_run valid' fits ()))
  have run := passes b valid hs
  rw [← CdrBuffer.roundup_count (show b.offset < 2 ^ 64 by omega)] at run
  unfold ReadsAt at run ⊢
  rw [Parser.align, Des.roundup, bind_ok (get_run b),
    ← CdrBuffer.roundup_count (show b.offset < 2 ^ 64 by omega)]
  exact run

/-! ### Operations -/

/-- The word a reader takes the word on the wire for. -/
def received (swap : Bool) (w : Word) (x : BitVec w.bits) : BitVec w.bits :=
  if swap then bswap w x else x

/-- The array element a reader takes the word on the wire for. -/
def receivedElement (swap : Bool) (w : Word) (x : BitVec w.bits) : BitVec w.bits :=
  if swap then bswapElement w x else x

variable {o : ByteOrder}

theorem reads_word (w : Word) :
    Reads swap (Des.word o w) (received swap w <$> Parser.word o w) := by
  have small := w.bytes_le
  have body := reads_check swap (n := w.bytes)
    (k := do
      let b ← get
      let bs ← Des.load b.offset w.bytes
      Des.advance w.bytes
      return if b.swap then bswap w (o.load w bs) else o.load w bs)
    (q := (fun bs => received swap w (o.load w bs)) <$> Parser.take w.bytes)
    (by omega)
    (fun bs off short => by rw [Parser.map_run, Parser.take, if_neg (by omega)]; rfl)
    (fun b valid hs fits => by
      obtain ⟨b', run, later, moved⟩ := advance_run valid fits
        (received swap w (o.load w ((b.buf.drop b.offset).take w.bytes)))
      refine .of_some
        (by rw [Parser.map_run, Parser.take, if_pos (valid.backed ▸ fits)]; rfl)
        ⟨b', ?_, later, moved⟩
      rw [bind_ok (get_run b), bind_ok (load_run valid fits), hs]
      exact run)
  have whole := (reads_roundup w).bind fun _ => body
  have same : received swap w <$> Parser.word o w = (Parser.align w.bytes >>= fun _ =>
      (fun bs => received swap w (o.load w bs)) <$> Parser.take w.bytes) := by
    simp only [Parser.word, map_bind, bind_pure_comp, Functor.map_map]
  rw [same]
  exact whole

/-- A gap and a checked run of words, read by whatever sees the words there. -/
theorem reads_block {w : Word} {n : Nat} {k : Des (List α)} {g : BitVec w.bits → α} (pos : 0 < n)
    (small : n < 2 ^ 32)
    (h : ∀ b : CdrDeserializationBuffer, b.Valid → b.swap = swap →
      b.offset + n * w.bytes ≤ b.size →
      k b = (do
        Des.advance (n * w.bytes)
        Pure.pure ((o.words w n (b.buf.drop b.offset)).map g)) b) :
    Reads swap (do
        Des.roundup w.bytes
        Des.check (n * w.bytes)
        k)
      (Parser.times n (g <$> Parser.word o w)) := by
  obtain ⟨n, rfl⟩ := Nat.exists_eq_succ_of_ne_zero (Nat.ne_of_gt pos)
  have width := w.bytes_le
  have total : (n + 1) * w.bytes < 2 ^ 63 := by
    have := Nat.mul_le_mul_left (n + 1) width
    omega
  have body := reads_check swap (n := (n + 1) * w.bytes) (k := k)
    (q := List.map g <$> Parser.block o w (n + 1)) total
    (fun bs off short => by rw [Parser.map_run, Parser.block_run, if_neg (by omega)]; rfl)
    (fun b valid hs fits => by
      obtain ⟨b', run, later, moved⟩ := advance_run valid fits
        ((o.words w (n + 1) (b.buf.drop b.offset)).map g)
      refine .of_some
        (by rw [Parser.map_run, Parser.block_run, if_pos (valid.backed ▸ fits)]; rfl)
        ⟨b', ?_, later, moved⟩
      rw [h b valid hs fits]
      exact run)
  have same : Parser.times (n + 1) (g <$> Parser.word o w) =
      (Parser.align w.bytes >>= fun _ => List.map g <$> Parser.block o w (n + 1)) := by
    rw [Parser.times_map, Parser.times_word, map_bind]
  rw [same]
  exact (reads_roundup w).bind fun _ => body

/-- Words loaded one by one are the words of the bytes. -/
theorem loop_load_run {w : Word} (g : BitVec w.bits → α) (start : Nat) (h : b.Valid) :
    ∀ n i, start + (i + n) * w.bytes ≤ b.size →
      loop (fun i => do
          let bs ← Des.load (start + i * w.bytes) w.bytes
          return g (o.load w bs)) n i b =
        .ok ((o.words w n (b.buf.drop (start + i * w.bytes))).map g) b
  | 0, _, _ => rfl
  | n + 1, i, fits => by
    have split : (i + (n + 1)) * w.bytes = i * w.bytes + w.bytes + n * w.bytes := by
      rw [Nat.add_mul, Nat.succ_mul]; omega
    have head : (do
        let bs ← Des.load (start + i * w.bytes) w.bytes
        return g (o.load w bs)) b =
          .ok (g (o.load w ((b.buf.drop (start + i * w.bytes)).take w.bytes))) b := by
      rw [bind_ok (load_run h (by omega))]
      rfl
    have tail := loop_load_run g start h n (i + 1) (by rw [Nat.add_assoc, Nat.add_comm 1 n]; omega)
    rw [loop, bind_ok head, bind_ok tail, ByteOrder.words, List.map_cons, List.drop_drop,
      Nat.succ_mul, ← Nat.add_assoc]
    rfl

theorem reads_copyArr (w : Word) {cnt : Nat} (small : cnt < 2 ^ 32) :
    Reads swap (Des.copyArr o w cnt)
      (Parser.times cnt (receivedElement swap w <$> Parser.word o w)) := by
  unfold Des.copyArr
  by_cases zero : cnt = 0
  · rw [if_pos zero, zero]
    exact Reads.pure []
  · rw [if_neg zero]
    refine reads_block (Nat.pos_of_ne_zero zero) small fun b valid hs fits => ?_
    by_cases swaps : (swap && w != .uint8) = true
    · have rounds := loop_load_run (o := o) (bswapElement w) b.offset valid cnt 0
        (by rw [Nat.zero_add]; exact fits)
      rw [Nat.zero_mul, Nat.add_zero] at rounds
      have swapped : receivedElement swap w = bswapElement w := by
        funext x
        exact if_pos (Bool.and_eq_true_iff.mp swaps).1
      rw [bind_ok (get_run b), hs, if_pos swaps, bind_ok rounds, swapped]
    · have plain : ∀ x, receivedElement swap w x = x := by
        intro x
        cases swap
        · rfl
        · cases w
          · rfl
          · exact absurd rfl swaps
          · exact absurd rfl swaps
          · exact absurd rfl swaps
      have copied : (do
          let bs ← Des.load b.offset (cnt * w.bytes)
          return o.words w cnt bs : Des _) b =
            .ok (o.words w cnt ((b.buf.drop b.offset).take (cnt * w.bytes))) b := by
        rw [bind_ok (load_run valid fits)]
        rfl
      rw [bind_ok (get_run b), hs, if_neg swaps, bind_ok copied, ByteOrder.words_take,
        List.map_congr_left (fun x _ => plain x), List.map_id']

/-- What a string on the wire is read as: nothing, or what `slot` makes of its bytes. -/
def stringParser (swap : Bool) (o : ByteOrder) (slot : List Byte → Option (List Byte)) :
    Parser (List Byte) := do
  let n ← received swap .uint32 <$> Parser.word o .uint32
  if n.toNat = 0 then pure []
  else do
    let bs ← Parser.take n.toNat
    Parser.ofOption (slot bs)

/-- What a wide string on the wire is read as. -/
def u16stringParser (swap : Bool) (o : ByteOrder) : Parser (List Char16) := do
  let n ← received swap .uint32 <$> Parser.word o .uint32
  Parser.times n.toNat (received swap .uint16 <$> Parser.word o .uint16)

/-- A wide string is read if the runtime sizes the target. -/
theorem reads_resized_u16string (resize : Nat → Bool) :
    Reads swap (Des.u16string o resize) (do
      let n ← received swap .uint32 <$> Parser.word o .uint32
      if n.toNat = 0 ∨ resize n.toNat = true then
        Parser.times n.toNat (received swap .uint16 <$> Parser.word o .uint16)
      else Parser.fail) := by
  have rest : ∀ strSize : BitVec Word.uint32.bits, Reads swap (do
        Des.roundup Word.uint16.bytes
        if strSize.toNat = 0 then Pure.pure []
        else do
          Des.check (strSize.toNat * Word.uint16.bytes)
          if resize strSize.toNat then do
            let b ← get
            let s ← loop (fun i => do
              let bs ← Des.load (b.offset + i * Word.uint16.bytes) Word.uint16.bytes
              return if b.swap then bswap .uint16 (o.load .uint16 bs) else o.load .uint16 bs)
              strSize.toNat 0
            Des.advance (strSize.toNat * Word.uint16.bytes)
            return s
          else throw (.runtimeError "Failed to resize wstring"))
      (Parser.align Word.uint16.bytes >>= fun _ =>
        if strSize.toNat = 0 ∨ resize strSize.toNat = true then
          Parser.times strSize.toNat (received swap .uint16 <$> Parser.word o .uint16)
        else Parser.fail) := by
    intro strSize
    have small : strSize.toNat < 2 ^ 32 := strSize.isLt
    by_cases zero : strSize.toNat = 0
    · rw [if_pos zero, if_pos (.inl zero), zero]
      exact (reads_roundup .uint16).bind fun _ => Reads.pure []
    · rw [if_neg zero]
      by_cases sized : resize strSize.toNat = true
      · have room : strSize.toNat = 0 ∨ resize strSize.toNat = true := .inr sized
        rw [if_pos room, if_pos sized, Parser.align_times_word o .uint16 (Nat.pos_of_ne_zero zero)]
        refine reads_block (Nat.pos_of_ne_zero zero) small fun b valid hs fits => ?_
        have rounds := loop_load_run (o := o) (w := .uint16) (received swap .uint16) b.offset valid
          strSize.toNat 0 (by rw [Nat.zero_add]; exact fits)
        rw [Nat.zero_mul, Nat.add_zero] at rounds
        rw [bind_ok (get_run b), hs]
        exact bind_ok rounds
      · have none : ¬ (strSize.toNat = 0 ∨ resize strSize.toNat = true) := not_or.mpr ⟨zero, sized⟩
        rw [if_neg none, if_neg sized]
        have width := Word.uint16.bytes_le
        refine (reads_roundup .uint16).bind fun _ => reads_check swap
          (show strSize.toNat * Word.uint16.bytes < 2 ^ 63 from ?_) (fun _ _ _ => rfl)
          fun b valid _ _ => .of_none rfl ⟨_, b, rfl, .refl valid⟩
        have := Nat.mul_le_mul_left strSize.toNat width
        omega
  have whole := (reads_word (o := o) .uint32).bind rest
  rw [Parser.word_align o .uint32 rfl] at whole
  exact whole

/-- A runtime that sizes every target reads every wide string. -/
theorem reads_u16string {resize : Nat → Bool} (resizes : ∀ n, resize n = true) :
    Reads swap (Des.u16string o resize) (u16stringParser swap o) := by
  have sized := @reads_resized_u16string swap o resize
  simp only [resizes, or_true, if_true] at sized
  exact sized

/-- What `operator>>(std::string)` makes of the bytes of a string: it wants the last one to be the
terminator. -/
def terminatedSlot (bs : List Byte) : Option (List Byte) :=
  if bs.getLast? = some 0 then some bs.dropLast else none

/-- What `operator>>(rosidl_runtime_c__String)` makes of them: it drops the last one unseen. -/
def uncheckedSlot (bs : List Byte) : Option (List Byte) := some bs.dropLast

/-- The terminator check looks at the last byte of the slot. -/
theorem checkTerminator_run {b : CdrDeserializationBuffer} {n : Nat} (valid : b.Valid)
    (pos : 0 < n) (fits : b.offset + n ≤ b.size) (terminated : Bool) :
    Des.checkTerminator terminated n b =
      if terminated = true → ((b.buf.drop b.offset).take n).getLast? = some 0 then .ok () b
      else .error (.runtimeError "String is not null terminated") b := by
  cases terminated with
  | false =>
    rw [if_pos nofun]
    rfl
  | true =>
    have backed := valid.backed
    have length : ((b.buf.drop b.offset).take n).length = n := by
      rw [List.length_take, List.length_drop]
      omega
    have last : b.buf[b.offset + n - 1]? = ((b.buf.drop b.offset).take n).getLast? := by
      rw [List.getLast?_eq_getElem?, length, List.getElem?_take_of_lt (by omega),
        List.getElem?_drop, Nat.add_sub_assoc pos]
    have seen : (b.buf.drop (b.offset + n - 1)).take 1 = [0] ↔
        ((b.buf.drop b.offset).take n).getLast? = some 0 := by
      rw [List.take_one, List.head?_drop, last]
      cases ((b.buf.drop b.offset).take n).getLast? <;> simp
    rw [Des.checkTerminator, if_pos rfl, bind_ok (get_run b), bind_ok (load_run valid (by omega))]
    by_cases ends : ((b.buf.drop b.offset).take n).getLast? = some 0
    · rw [if_pos (seen.mpr ends), if_pos fun _ => ends]
      rfl
    · rw [if_neg (mt seen.mp ends), if_neg fun h => ends (h rfl)]
      rfl

/-- What is assigned is the slot without its last byte. -/
theorem assign_run {b : CdrDeserializationBuffer} {n : Nat} (valid : b.Valid)
    (fits : b.offset + n ≤ b.size) (assign : List Byte → List Byte) :
    ∃ b', (do
        let b ← get
        let s ← Des.load b.offset (n - 1)
        Des.advance n
        return assign s) b = .ok (assign ((b.buf.drop b.offset).take n).dropLast) b' ∧
      b.Later b' ∧ b'.offset = b.offset + n := by
  have backed := valid.backed
  have length : ((b.buf.drop b.offset).take n).length = n := by
    rw [List.length_take, List.length_drop]
    omega
  have init : ((b.buf.drop b.offset).take n).dropLast = (b.buf.drop b.offset).take (n - 1) := by
    rw [List.dropLast_eq_take, length, List.take_take, Nat.min_eq_left (by omega)]
  rw [init, bind_ok (get_run b), bind_ok (load_run valid (by omega))]
  exact advance_run valid fits _

/-- A string is read and assigned. -/
theorem reads_assigned_string (terminated : Bool) (assign : List Byte → List Byte) :
    Reads swap (Des.string o terminated assign) (stringParser swap o fun bs =>
      ((if terminated then terminatedSlot else uncheckedSlot) bs).map assign) := by
  have rest : ∀ strSize : BitVec Word.uint32.bits, Reads swap (do
        Des.roundup Word.uint8.bytes
        if strSize.toNat = 0 then Pure.pure []
        else do
          Des.check strSize.toNat
          Des.checkTerminator terminated strSize.toNat
          let b ← get
          let s ← Des.load b.offset (strSize.toNat - 1)
          Des.advance strSize.toNat
          return assign s)
      (Parser.align Word.uint8.bytes >>= fun _ =>
        if strSize.toNat = 0 then Pure.pure []
        else Parser.take strSize.toNat >>= fun bs => Parser.ofOption
          (((if terminated then terminatedSlot else uncheckedSlot) bs).map assign)) := by
    intro strSize
    refine (reads_roundup .uint8).bind fun _ => ?_
    by_cases zero : strSize.toNat = 0
    · rw [if_pos zero, if_pos zero]
      exact Reads.pure []
    · rw [if_neg zero, if_neg zero]
      have small : strSize.toNat < 2 ^ 32 := strSize.isLt
      generalize strSize.toNat = n at zero small
      refine reads_check _ (by omega)
        (fun bs off short => Parser.bind_none (if_neg (by omega))) fun b valid hs fits => ?_
      have taken : Parser.take n b.buf b.offset =
          some ((b.buf.drop b.offset).take n, b.offset + n) := if_pos (valid.backed ▸ fits)
      have looks := checkTerminator_run valid (Nat.pos_of_ne_zero zero) fits terminated
      obtain ⟨b', finish, later, moved⟩ := assign_run valid fits assign
      by_cases ends : terminated = true → ((b.buf.drop b.offset).take n).getLast? = some 0
      · have slot : (if terminated then terminatedSlot else uncheckedSlot)
            ((b.buf.drop b.offset).take n) = some ((b.buf.drop b.offset).take n).dropLast := by
          cases terminated with
          | false => rfl
          | true => exact if_pos (ends rfl)
        rw [if_pos ends] at looks
        refine .of_some (a := assign ((b.buf.drop b.offset).take n).dropLast)
          (by rw [Parser.bind_some taken, slot]; rfl) ⟨b', ?_, later, moved⟩
        rw [bind_ok looks]
        exact finish
      · obtain ⟨rfl, missing⟩ := Classical.not_imp.mp ends
        rw [if_neg ends] at looks
        exact .of_none
          (by rw [Parser.bind_some taken, if_pos rfl, terminatedSlot, if_neg missing]; rfl)
          ⟨_, b, bind_error looks, .refl valid⟩
  have whole := (reads_word (o := o) .uint32).bind rest
  rw [Parser.word_align o .uint32 rfl] at whole
  exact whole

/-- A target that takes every string holds what was read. -/
theorem reads_string {terminated : Bool} {assign : List Byte → List Byte}
    (assigns : ∀ s, assign s = s) :
    Reads swap (Des.string o terminated assign)
      (stringParser swap o (if terminated then terminatedSlot else uncheckedSlot)) := by
  have assigned := @reads_assigned_string swap o terminated assign
  rw [show assign = id from funext assigns] at assigned ⊢
  simpa only [Option.map_id_fun, id] using assigned

end Contract

end Cdr
