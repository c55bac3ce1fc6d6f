import RmwGurumdds.Cdr.Safety
import RmwGurumdds.Exec.Lockstep
import RmwGurumdds.Wire.Locality

/-!
# Truncated and padded messages

A peer may leave bytes behind a message, and a message may arrive cut short. A decoder does not
tell the first apart from the message alone, and it never takes the second for a message.

Both halves rest on locality. `Local m` is a judgement on two runs: where `m` returned, it has read
the bytes up to where it stands and no others, so on another buffer with those bytes it returns the
same, and on one that ends before, it raises what the decoder catches. No container throws there
that did not throw before, for the sizes asked for are the same.
-/

namespace Cdr

open Wire Exec

variable {α β : Type}

/-- What `m` returns rests on the bytes it stops behind. -/
def Local (m : Des α) : Prop :=
  ∀ b a c, b.Valid → m b = .ok a c → b.Later c ∧
    ∀ b', b'.Valid → b'.offset = b.offset → b'.swap = b.swap → Agree c.offset b.buf b'.buf →
      if c.offset ≤ b'.size then ∃ c', m b' = .ok a c' ∧ b'.Later c' ∧ c'.offset = c.offset
      else ∃ what c', m b' = .error (.runtimeError what) c'

/-! ## Rules -/

theorem Local.pure (a : α) : Local (Pure.pure a : Des α) := by
  rintro b a' c valid ⟨⟩
  refine ⟨.refl valid, fun b' valid' same _ _ => ?_⟩
  rw [if_pos (same ▸ valid'.inside)]
  exact ⟨b', rfl, .refl valid', same⟩

/-- What never returns has nothing to repeat. -/
theorem Local.of_ne_ok {m : Des α} (h : ∀ b a c, m b ≠ .ok a c) : Local m :=
  fun b a c _ run => absurd run (h b a c)

theorem Local.throw (e : Exn) : Local (throw e : Des α) :=
  .of_ne_ok fun _ _ _ run => nomatch run

/-- A container that took a size takes it again. -/
theorem Local.resize (t : Target) (m : MessageMember) (n : Nat) : Local (Des.resize t m n) := by
  unfold Des.resize
  cases t.lang with
  | c => exact .pure ()
  | cxx =>
    dsimp only
    cases t.runtime.vectorResize m n with
    | none => exact .pure ()
    | some e => exact .throw _

/-- **Locality composes.** A buffer that ends in the first part raises there; one that ends in the
second has the first part whole, and starts the second where the other run did. -/
theorem Local.bind {m : Des α} {k : α → Des β} (hm : Local m) (hk : ∀ a, Local (k a)) :
    Local (m >>= k) := by
  intro b x d valid run
  obtain ⟨a, c, first, rest⟩ := bind_eq_ok.mp run
  obtain ⟨later, again⟩ := hm b a c valid first
  obtain ⟨later', again'⟩ := hk a c x d later.valid rest
  refine ⟨later.trans later', fun b' valid' same swap agree => ?_⟩
  have head := again b' valid' same swap (agree.mono later'.offset_le)
  by_cases far : c.offset ≤ b'.size
  · rw [if_pos far] at head
    obtain ⟨c', first', mine, same'⟩ := head
    have tail := again' c' mine.valid same'
      (by rw [mine.swap_eq, swap, later.swap_eq]) (by rwa [later.buf_eq, mine.buf_eq])
    rw [mine.size_eq] at tail
    rw [bind_ok first']
    by_cases farther : d.offset ≤ b'.size
    · rw [if_pos farther] at tail ⊢
      obtain ⟨d', second', mine', moved⟩ := tail
      exact ⟨d', second', mine.trans mine', moved⟩
    · rwa [if_neg farther] at tail ⊢
  · rw [if_neg far] at head
    obtain ⟨what, c', fails⟩ := head
    have short : ¬ d.offset ≤ b'.size := fun le => far (later'.offset_le.trans le)
    rw [if_neg short]
    exact ⟨what, c', bind_error fails⟩

/-- What reads what a local parser parses is local. -/
theorem Local.of_reads {m : Des α} {p : Bool → Parser α} (reads : ∀ swap, Reads swap m (p swap))
    (rests : ∀ swap, (p swap).Local) : Local m := by
  intro b a c valid run
  have here := reads b.swap b valid rfl
  unfold ReadsAt at here
  cases parsed : p b.swap b.buf b.offset with
  | none =>
    rw [parsed] at here
    obtain ⟨what, b'', fails, -⟩ := here
    cases run.symm.trans fails
  | some r =>
    obtain ⟨a', next⟩ := r
    rw [parsed] at here
    obtain ⟨c', run', later, rfl⟩ := here
    cases run.symm.trans run'
    refine ⟨later, fun b' valid' same swap agree => ?_⟩
    have there := reads b.swap b' valid' swap
    have inside : b.offset ≤ b'.buf.length := by
      rw [← valid'.backed, ← same]
      exact valid'.inside
    have answer := (rests b.swap _ _ _ _ parsed).2 b'.buf inside agree
    rw [← valid'.backed] at answer
    rw [ReadsAt, same, answer] at there
    by_cases far : c.offset ≤ b'.size
    · rwa [if_pos far] at there ⊢
    · rw [if_neg far] at there ⊢
      obtain ⟨what, b'', fails, -⟩ := there
      exact ⟨_, b'', fails⟩

theorem Local.note {e : Event} (sound : ∀ size, e.sound size = true) : Local (Des.note e) := by
  have later : ∀ b : CdrDeserializationBuffer, b.Valid → b.Later { b with log := e :: b.log } :=
    fun b valid => ⟨⟨valid.inside, valid.backed, valid.bounded,
      List.forall_mem_cons.mpr ⟨sound b.size, valid.sound⟩⟩, rfl, rfl, rfl, Nat.le_refl _⟩
  rintro b a c valid ⟨⟩
  refine ⟨later b valid, fun b' valid' same _ _ => ?_⟩
  have inside : b.offset ≤ b'.size := same ▸ valid'.inside
  rw [if_pos inside]
  exact ⟨_, rfl, later b' valid', same⟩

theorem Local.loop {body : Nat → Des α} (h : ∀ i, Local (body i)) :
    ∀ rounds i, Local (loop body rounds i) := by
  intro rounds
  induction rounds with
  | zero => exact fun _ => .pure []
  | succ rounds ih => exact fun i => (h i).bind fun _ => (ih (i + 1)).bind fun _ => .pure _

/-- A loop whose counter wraps does not return, so the fuel it has left does not matter. -/
theorem Local.for32 (bound : Nat) {body : Nat → Des α} (h : ∀ i, Local (body i)) :
    Local (Des.for32 bound body) := by
  by_cases small : bound < 2 ^ 32
  · rw [Des.for32_eq_loop small]
    exact Local.loop h bound 0
  · refine .of_ne_ok fun b a c run => ?_
    rw [Des.for32, bind_ok (get_run b), counted, if_neg small] at run
    exact spin_ne_ok _ _ _ run

/-! ## Operations -/

theorem local_size (swap : Bool) (o : ByteOrder) :
    (received swap .uint32 <$> Parser.word o .uint32).Local := (Parser.Local.word o .uint32).map _

/-- An empty string ends behind its length field, any other one behind its terminator. -/
theorem local_stringParser (swap : Bool) (o : ByteOrder) (slot : List Byte → Option (List Byte)) :
    (stringParser swap o slot).Local := by
  refine (local_size swap o).bind fun n => ?_
  split
  · exact .pure []
  · exact (Parser.Local.take n.toNat).bind fun bs => .ofOption _

theorem local_u16string (swap : Bool) (o : ByteOrder) (resize : Nat → Bool) :
    (do
      let n ← received swap .uint32 <$> Parser.word o .uint32
      if n.toNat = 0 ∨ resize n.toNat = true then
        Parser.times n.toNat (received swap .uint16 <$> Parser.word o .uint16)
      else Parser.fail).Local := by
  refine (local_size swap o).bind fun n => ?_
  split
  · exact ((Parser.Local.word o .uint16).map _).times _
  · exact .fail

/-- Locality is kept by every way of building a reader. -/
theorem local_judgement : Judgement fun _ m => Local m where
  pure := .pure
  throw _ := .throw _
  mono h _ := h
  bind := .bind
  word o w := .of_reads (fun _ => reads_word w) fun _ => (Parser.Local.word o w).map _
  string o terminated assign := .of_reads (fun _ => reads_assigned_string terminated assign)
    fun swap => local_stringParser swap o _
  u16string o resize := .of_reads (fun _ => reads_resized_u16string resize)
    fun swap => local_u16string swap o resize
  copyArr o w _ small := .of_reads (fun _ => reads_copyArr w small) fun _ =>
    ((Parser.Local.word o w).map _).times _
  resized _ := .note fun _ => rfl
  for32 := .for32
  for32_small _ := .for32 _

/-! ## The decoder -/

/-- The header tells the byte order. -/
theorem swapped_eq {o : ByteOrder} {bytes bytes' : List Byte}
    (same : bytes'.take cdrHeaderSize = bytes.take cdrHeaderSize) :
    swapped o bytes' = swapped o bytes := by
  have byte : (bytes'.take cdrHeaderSize)[cdrHeaderEndianIdx]? =
      (bytes.take cdrHeaderSize)[cdrHeaderEndianIdx]? := by rw [same]
  rw [List.getElem?_take_of_lt (by decide), List.getElem?_take_of_lt (by decide)] at byte
  rw [swapped, swapped, byte]

/-- Where a local reader of one message returned, it returns the same on every other message with
the same header and the same bytes up to there, and raises on one that ends before. -/
theorem Local.start {o : ByteOrder} {m : Des α} {a : α} {bytes : List Byte}
    {c : CdrDeserializationBuffer} (h : Local m) (bound : bytes.length < 2 ^ 63)
    (run : m (.start o bytes) = .ok a c) :
    c.offset ≤ bytes.length - cdrHeaderSize ∧ ∀ bytes' : List Byte, bytes'.length < 2 ^ 63 →
      bytes'.take cdrHeaderSize = bytes.take cdrHeaderSize →
      Agree c.offset (bytes.drop cdrHeaderSize) (bytes'.drop cdrHeaderSize) →
      if c.offset ≤ bytes'.length - cdrHeaderSize then ∃ c', m (.start o bytes') = .ok a c'
      else ∃ what c', m (.start o bytes') = .error (.runtimeError what) c' := by
  obtain ⟨later, again⟩ := h _ a c (start_valid o bound) run
  refine ⟨later.valid.inside.trans later.size_eq.le, fun bytes' bound' same agree => ?_⟩
  have run' : if c.offset ≤ bytes'.length - cdrHeaderSize then _ else _ :=
    again _ (start_valid o bound') rfl (swapped_eq same) agree
  by_cases far : c.offset ≤ bytes'.length - cdrHeaderSize
  · rw [if_pos far] at run' ⊢
    obtain ⟨c', run', -⟩ := run'
    exact ⟨c', run'⟩
  · rwa [if_neg far] at run' ⊢

/-- **Truncation is detected and trailing bytes do not matter.** Where a decoder returned true and
stopped, every message with the same bytes up to there decodes to the same value, whatever follows,
and every message cut off before there is refused. -/
theorem decoder_local (t : Target) (d : MessageMembers) (output : Value) (bytes : List Byte)
    (b : CdrDeserializationBuffer) (linked : d.linked = true) (bound : bytes.length < 2 ^ 63)
    (whole : (deserializeCdrToRos t d output bytes).ret = .ok true)
    (stopped : (deserializeCdrToRos t d output bytes).buffer = some b) :
    (∀ bytes' : List Byte, bytes'.length < 2 ^ 63 →
      bytes'.take (cdrHeaderSize + b.offset) = bytes.take (cdrHeaderSize + b.offset) →
        (deserializeCdrToRos t d output bytes').ret = .ok true ∧
          (deserializeCdrToRos t d output bytes').target =
            (deserializeCdrToRos t d output bytes).target) ∧
      ∀ n < b.offset,
        (deserializeCdrToRos t d output (bytes.take (cdrHeaderSize + n))).ret = .ok false := by
  obtain ⟨there, header, v, c, run, result⟩ := deserializeCdrToRos_true whole
  rw [result] at stopped ⊢
  obtain rfl := Option.some.inj stopped
  obtain ⟨inside, walk⟩ := (local_judgement.deserialize (.resize t) d linked output).start bound run
  constructor
  · intro bytes' bound' same
    have long : cdrHeaderSize + c.offset ≤ bytes'.length := by
      have lengths := congrArg List.length same
      rw [List.length_take, List.length_take] at lengths
      omega
    have head := congrArg (List.take cdrHeaderSize) same
    have tail := congrArg (List.drop cdrHeaderSize) same
    rw [List.take_take, List.take_take, Nat.min_eq_left (Nat.le_add_right _ _)] at head
    rw [List.drop_take, List.drop_take, Nat.add_sub_cancel_left] at tail
    have run' := walk bytes' bound' head (.of_take tail)
    rw [if_pos (by omega)] at run'
    obtain ⟨c', run'⟩ := run'
    rw [deserializeCdrToRos_eq t there, tryDeserialize_ok (by omega) run']
    exact ⟨rfl, rfl⟩
  · intro n short
    have length : (bytes.take (cdrHeaderSize + n)).length = cdrHeaderSize + n := by
      rw [List.length_take]
      omega
    have head : (bytes.take (cdrHeaderSize + n)).take cdrHeaderSize = bytes.take cdrHeaderSize := by
      rw [List.take_take, Nat.min_eq_left (Nat.le_add_right _ _)]
    have tail : (bytes.take (cdrHeaderSize + n)).drop cdrHeaderSize =
        (bytes.drop cdrHeaderSize).take n := by
      rw [List.drop_take, Nat.add_sub_cancel_left]
    have run' := walk (bytes.take (cdrHeaderSize + n)) (by omega) head (tail ▸ agree_take _ n _)
    rw [if_neg (by omega)] at run'
    obtain ⟨what, c', run'⟩ := run'
    rw [deserializeCdrToRos_eq t there, tryDeserialize_error (by omega) run']
    rfl

/-- A message type with one number. -/
def oneNumber : MessageMembers :=
  .mk "pkg__msg" "Number" [.mk "number" .uint32 false 0 false .nullptr]

theorem decoder_local_sample :
    ∃ b, (deserializeCdrToRos (cTarget .little) oneNumber (.message [])
        [0, 1, 0, 0, 7, 0, 0, 0, 0xff]).buffer = some b ∧ b.offset = 4 ∧
      (∀ bytes' : List Byte, bytes'.length < 2 ^ 63 →
        bytes'.take (cdrHeaderSize + b.offset) =
            [0, 1, 0, 0, 7, 0, 0, 0, 0xff].take (cdrHeaderSize + b.offset) →
          (deserializeCdrToRos (cTarget .little) oneNumber (.message []) bytes').ret = .ok true ∧
            (deserializeCdrToRos (cTarget .little) oneNumber (.message []) bytes').target =
              (deserializeCdrToRos (cTarget .little) oneNumber (.message [])
                [0, 1, 0, 0, 7, 0, 0, 0, 0xff]).target) ∧
        ∀ n < b.offset,
          (deserializeCdrToRos (cTarget .little) oneNumber (.message [])
            ([0, 1, 0, 0, 7, 0, 0, 0, 0xff].take (cdrHeaderSize + n))).ret = .ok false :=
  ⟨_, rfl, rfl, decoder_local (cTarget .little) oneNumber (.message []) _ _ (by decide) (by decide)
    rfl rfl⟩

end Cdr
