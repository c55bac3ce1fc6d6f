import RmwGurumdds.Cdr.Judgement
import RmwGurumdds.Cdr.TypeSupportCommon

/-!
# Decoding hostile bytes

Nothing is assumed here of the bytes, of what the libraries answer, of the target or of the sizes
in the description: whatever they are, a decoder stays inside the bytes, no bounds check of it wraps
and every loop ends. It returns, too, or a C++ container throws.

`Safe thrown n m` is the judgement: from every sound state of a buffer, `m` ends in a sound state of
the same buffer, at least `n` bytes further on if it returns, and raises nothing but a
`std::runtime_error`, or what a container throws if one may. It is a `Triple` and composes like one,
so every way of building a reader keeps it (`safe_judgement`). The count `n` is there for the loops
over fixed arrays of 2^32 elements and more, whose counters wrap: an element takes at least one
byte, so the bytes run out.
-/

namespace Cdr

open Wire Exec

variable {α β : Type}

/-- A sound state of a buffer over these bytes, whose offset has reached `reached`. -/
structure CdrDeserializationBuffer.At (buf : List Byte) (reached : Nat)
    (b : CdrDeserializationBuffer) : Prop where
  valid : b.Valid
  buf_eq : b.buf = buf
  reached : reached ≤ b.offset

/-- An exception that the decoder catches, or that a container throws, with the buffer sound. -/
def Raised (thrown : Prop) (buf : List Byte) (e : Exn) (b : CdrDeserializationBuffer) : Prop :=
  b.Valid ∧ b.buf = buf ∧ ((∃ what, e = .runtimeError what) ∨ thrown ∧ ∃ c, e = .container c)

/-- A reader that keeps a buffer sound and moves at least `n` bytes. `thrown` says whether it fills
containers that may throw. -/
def Safe (thrown : Prop) (n : Nat) (m : Des α) : Prop :=
  ∀ buf reached, Triple (CdrDeserializationBuffer.At buf reached) m
    (fun _ => CdrDeserializationBuffer.At buf (reached + n)) (Raised thrown buf)

section Rules

variable {thrown : Prop}

/-! ## Rules -/

theorem Safe.pure (a : α) : Safe thrown 0 (Pure.pure a : Des α) :=
  fun _ _ => Triple.pure fun _ at_ => at_

theorem Safe.throw (n : Nat) (what : String) :
    Safe thrown n (throw (.runtimeError what) : Des α) :=
  fun _ _ => Triple.throw fun _ at_ => ⟨at_.valid, at_.buf_eq, .inl ⟨what, rfl⟩⟩

/-- Moving further is moving far enough. -/
theorem Safe.mono {n n' : Nat} {m : Des α} (h : Safe thrown n m) (le : n' ≤ n) : Safe thrown n' m :=
  fun buf reached => (h buf reached).weaken (fun _ at_ => at_) fun _ _ at_ =>
    ⟨at_.valid, at_.buf_eq, (Nat.add_le_add_left le reached).trans at_.reached⟩

theorem Safe.bind {n n' : Nat} {m : Des α} {k : α → Des β} (h : Safe thrown n m)
    (hk : ∀ a, Safe thrown n' (k a)) : Safe thrown (n + n') (m >>= k) := by
  intro buf reached
  refine (h buf reached).bind fun a => ?_
  rw [← Nat.add_assoc]
  exact hk a buf (reached + n)

/-- What reads what a parser parses is safe, and moves as far as the parser. -/
theorem Safe.of_reads {n : Nat} {m : Des α} {p : Bool → Parser α}
    (reads : ∀ swap, Reads swap m (p swap)) (moves : ∀ swap, Moves n (p swap)) :
    Safe thrown n m := by
  intro buf reached b at_
  have run := reads b.swap b at_.valid rfl
  unfold ReadsAt at run
  cases parsed : p b.swap b.buf b.offset with
  | none =>
    rw [parsed] at run
    obtain ⟨what, b', fails, later⟩ := run
    rw [fails]
    exact ⟨later.valid, later.buf_eq.trans at_.buf_eq, .inl ⟨what, rfl⟩⟩
  | some r =>
    rw [parsed] at run
    obtain ⟨b', ends, later, moved⟩ := run
    rw [ends]
    have far := moves b.swap b.buf b.offset r.1 r.2 parsed
    exact ⟨later.valid, later.buf_eq.trans at_.buf_eq,
      moved ▸ (Nat.add_le_add_right at_.reached n).trans far⟩

/-- A loop over a number of rounds a `uint32_t` counts. -/
theorem Safe.for32_small {bound : Nat} {body : Nat → Des α} (small : bound < 2 ^ 32)
    (h : ∀ i, Safe thrown 0 (body i)) : Safe thrown 0 (Des.for32 bound body) := by
  rw [Des.for32_eq_loop small]
  exact fun buf reached => Triple.loop (fun i => h i buf reached) bound 0

/-- A loop whose rounds move ends, whatever its bound: a round that starts at the last byte
fails. -/
theorem Safe.for32 (bound : Nat) {body : Nat → Des α} (h : ∀ i, Safe thrown 1 (body i)) :
    Safe thrown 0 (Des.for32 bound body) := by
  intro buf reached b at_
  have fuel : b.size < b.size + 1 := Nat.lt_succ_self _
  rw [Des.for32, bind_ok (get_run b)]
  refine Triple.counted (P := CdrDeserializationBuffer.At buf reached)
    (fun b' => b'.size - b'.offset) (fun b' at' => ?_) (fun i k => ?_) b at_
  · have size := at'.valid.backed.trans (congrArg List.length (at'.buf_eq.trans at_.buf_eq.symm))
    rw [← at_.valid.backed] at size
    omega
  · intro b' at'
    have round := h i buf b'.offset b' ⟨at'.1.valid, at'.1.buf_eq, Nat.le_refl _⟩
    cases run : body i b' with
    | ok a b'' =>
      rw [run] at round
      have size : b''.size = b'.size := by
        rw [round.valid.backed, at'.1.valid.backed, round.buf_eq, at'.1.buf_eq]
      have moved := round.reached
      have inside := round.valid.inside
      have started := at'.1.reached
      have measure := at'.2
      exact ⟨⟨round.valid, round.buf_eq, by omega⟩, by omega⟩
    | error e b'' =>
      rw [run] at round
      exact round

/-! ## Operations -/

theorem safe_word (o : ByteOrder) (w : Word) : Safe thrown w.bytes (Des.word o w) :=
  .of_reads (fun _ => reads_word w) fun _ => (Moves.word o w).map _

/-- A string takes the bytes of its length field at least. -/
theorem moves_stringParser (swap : Bool) (o : ByteOrder) (slot : List Byte → Option (List Byte)) :
    Moves 4 (stringParser swap o slot) := by
  refine Moves.bind ((Moves.word o .uint32).map _) fun n => (?_ : Moves 0 _)
  split
  · exact .pure []
  · exact (Moves.bind (Moves.take n.toNat) fun bs => .ofOption _).weaken (Nat.zero_le _)

theorem moves_u16string (swap : Bool) (o : ByteOrder) (resize : Nat → Bool) :
    Moves 4 (do
      let n ← received swap .uint32 <$> Parser.word o .uint32
      if n.toNat = 0 ∨ resize n.toNat = true then
        Parser.times n.toNat (received swap .uint16 <$> Parser.word o .uint16)
      else Parser.fail) := by
  refine Moves.bind ((Moves.word o .uint32).map _) fun n => (?_ : Moves 0 _)
  split
  · exact Moves.times (((Moves.word o .uint16).map _).weaken (Nat.zero_le _)) _
  · exact .fail 0

theorem safe_string (o : ByteOrder) (checked : Bool) (assign : List Byte → List Byte) :
    Safe thrown 4 (Des.string o checked assign) :=
  .of_reads (fun _ => reads_assigned_string checked assign) fun swap => moves_stringParser swap o _

theorem safe_u16string (o : ByteOrder) (resize : Nat → Bool) :
    Safe thrown 4 (Des.u16string o resize) :=
  .of_reads (fun _ => reads_resized_u16string resize) fun swap => moves_u16string swap o resize

theorem safe_copyArr (o : ByteOrder) (w : Word) {cnt : Nat} (small : cnt < 2 ^ 32) :
    Safe thrown 0 (Des.copyArr o w cnt) :=
  .of_reads (fun _ => reads_copyArr w small) fun _ =>
    Moves.times (((Moves.word o w).map _).weaken (Nat.zero_le _)) cnt

theorem safe_note {e : Event} (sound : ∀ size, e.sound size = true) : Safe thrown 0 (Des.note e) :=
  fun _ _ b at_ => ⟨⟨at_.valid.inside, at_.valid.backed, at_.valid.bounded,
    List.forall_mem_cons.mpr ⟨sound b.size, at_.valid.sound⟩⟩, at_.buf_eq, at_.reached⟩

/-- Safety is kept by every way of building a reader. -/
theorem safe_judgement : Judgement fun n m => Safe thrown n m where
  pure := .pure
  throw := .throw 0
  mono := .mono
  bind := .bind
  word := safe_word
  string := safe_string
  u16string := safe_u16string
  copyArr := safe_copyArr
  resized _ := safe_note fun _ => rfl
  for32 := .for32
  for32_small := .for32_small

end Rules

/-- A container that is resized throws in C++ only. -/
theorem safe_resize (t : Target) (m : MessageMember) (n : Nat) :
    Safe (t.lang = .cxx) 0 (Des.resize t m n) := by
  intro buf reached b at_
  unfold Des.resize
  cases lang : t.lang with
  | c => exact at_
  | cxx =>
    dsimp only
    cases t.runtime.vectorResize m n with
    | none => exact at_
    | some e => exact ⟨at_.valid, at_.buf_eq, .inr ⟨rfl, e, rfl⟩⟩

/-- **Reading a message is safe**, unless its description has a null handle. -/
theorem safe_deserialize {t : Target} (d : MessageMembers) (linked : d.linked = true)
    (output : Value) : Safe (t.lang = .cxx) 0 (Des.deserialize t d output) :=
  safe_judgement.deserialize (safe_resize t) d linked output

/-! ## The decoder -/

/-- What a reader leaves behind when it is safe: it ended, it stands inside the bytes it was given,
and so it did at every step, with no bounds check that wrapped. -/
structure Deserialized.Inside (r : Deserialized α) (bytes : List Byte) : Prop where
  ends : r.ret = .ok true ∨ r.ret = .ok false ∨ ∃ c, r.ret = .error (.container c)
  inside : ∀ b, r.buffer = some b → b.offset ≤ b.size ∧ b.size + cdrHeaderSize = bytes.length
  sound : ∀ b, r.buffer = some b → ∀ e ∈ b.log, e.sound b.size = true

/-- It returned, too. -/
structure Deserialized.Sound (r : Deserialized α) (bytes : List Byte) : Prop
    extends r.Inside bytes where
  returns : r.ret = .ok true ∨ r.ret = .ok false

theorem tryDeserialize_ends (o : ByteOrder) {bytes : List Byte} {body : Des α} {thrown : Prop}
    (bound : bytes.length < 2 ^ 63) (safe : Safe thrown 0 body) :
    (tryDeserialize o bytes body).ret = .ok true ∨ (tryDeserialize o bytes body).ret = .ok false ∨
      thrown ∧ ∃ c, (tryDeserialize o bytes body).ret = .error (.container c) := by
  by_cases short : bytes.length < cdrHeaderSize
  · rw [tryDeserialize_short short]
    exact .inr (.inl rfl)
  · have start := safe (bytes.drop cdrHeaderSize) 0 (.start o bytes)
      ⟨start_valid o bound, rfl, Nat.le_refl _⟩
    cases run : body (.start o bytes) with
    | ok a b =>
      rw [tryDeserialize_ok short run]
      exact .inl rfl
    | error e b =>
      rw [run] at start
      rw [tryDeserialize_error short run]
      obtain ⟨-, -, ⟨what, rfl⟩ | ⟨throws, c, rfl⟩⟩ := start
      · exact .inr (.inl rfl)
      · exact .inr (.inr ⟨throws, c, rfl⟩)

theorem tryDeserialize_inside (o : ByteOrder) {bytes : List Byte} {body : Des α} {thrown : Prop}
    (bound : bytes.length < 2 ^ 63) (safe : Safe thrown 0 body) :
    (tryDeserialize o bytes body).Inside bytes := by
  have ends := (tryDeserialize_ends o bound safe).imp_right (Or.imp_right And.right)
  by_cases short : bytes.length < cdrHeaderSize
  · rw [tryDeserialize_short short]
    exact ⟨.inr (.inl rfl), nofun, nofun⟩
  · have start := safe (bytes.drop cdrHeaderSize) 0 (.start o bytes)
      ⟨start_valid o bound, rfl, Nat.le_refl _⟩
    have whole : ∀ b : CdrDeserializationBuffer, b.Valid → b.buf = bytes.drop cdrHeaderSize →
        b.offset ≤ b.size ∧ b.size + cdrHeaderSize = bytes.length := by
      intro b valid buf_eq
      have size := valid.backed
      rw [buf_eq, List.length_drop] at size
      exact ⟨valid.inside, by omega⟩
    split at start
    · rename_i a b run
      rw [tryDeserialize_ok short run] at ends ⊢
      refine ⟨ends, fun b' same => ?_, fun b' same => ?_⟩
      · obtain rfl := Option.some.inj same
        exact whole _ start.valid start.buf_eq
      · obtain rfl := Option.some.inj same
        exact start.valid.sound
    · rename_i e b run
      obtain ⟨valid, buf_eq, -⟩ := start
      rw [tryDeserialize_error short run] at ends ⊢
      refine ⟨ends, fun b' same => ?_, fun b' same => ?_⟩
      · obtain rfl := Option.some.inj same
        exact whole _ valid buf_eq
      · obtain rfl := Option.some.inj same
        exact valid.sound

/-- A decoder returns, or a C++ container throws. -/
theorem decoder_ends (t : Target) (d : MessageMembers) (output : Value) {bytes : List Byte}
    (linked : d ≠ .nullptr → d.linked = true) (bound : bytes.length < 2 ^ 63) :
    (deserializeCdrToRos t d output bytes).ret = .ok true ∨
      (deserializeCdrToRos t d output bytes).ret = .ok false ∨
      t.lang = .cxx ∧ ∃ c, (deserializeCdrToRos t d output bytes).ret = .error (.container c) := by
  cases d with
  | nullptr => exact .inr (.inl rfl)
  | mk ns name ms =>
    exact tryDeserialize_ends t.order bound (safe_deserialize _ (linked nofun) output)

/-- A decoder ends inside the bytes, whatever they are. -/
theorem decoder_inside (t : Target) (d : MessageMembers) (output : Value) {bytes : List Byte}
    (linked : d ≠ .nullptr → d.linked = true) (bound : bytes.length < 2 ^ 63) :
    (deserializeCdrToRos t d output bytes).Inside bytes := by
  cases d with
  | nullptr => exact ⟨.inr (.inl rfl), nofun, nofun⟩
  | mk ns name ms =>
    exact tryDeserialize_inside t.order bound (safe_deserialize _ (linked nofun) output)

end Cdr
