import RmwGurumdds.Cdr.TypeSupportCommon

/-!
# The memory a writer is given

A writer stores into the memory behind the pointer it is given, and that memory stays as large as it
was, whatever is written and however the writing ends. There is nothing to be known of the message
for this, nor of the room that there is.
-/

namespace Cdr

open Wire Exec

/-- The length of a buffer's memory. -/
def CdrSerializationBuffer.memLength (b : CdrSerializationBuffer) : Nat := b.mem.length

theorem poke_length {mem bs mem' : List Byte} {start : Nat} (h : poke mem start bs = some mem') :
    mem'.length = mem.length := by
  unfold poke at h
  split at h
  · cases h
    simp only [List.length_append, List.length_take, List.length_drop]
    omega
  · cases h

/-- A writer is opened on the memory it is given. -/
theorem make_length {o : ByteOrder} {mem : List Byte} {size : Nat} {b : CdrSerializationBuffer}
    (h : CdrSerializationBuffer.make true o (some mem) size = .ok b) :
    b.mem.length = mem.length := by
  unfold CdrSerializationBuffer.make at h
  dsimp only at h
  split at h
  · cases h
  · split at h
    · cases h
    · rename_i zeroed first
      split at h
      · cases h
      · rename_i headed second
        cases h
        exact (poke_length second).trans (poke_length first)

section Operations

variable {S : Bool} {o : ByteOrder} {lang : LanguageKind}

theorem keeps_advance (cnt : Nat) : Keeps CdrSerializationBuffer.memLength (Ser.advance cnt) :=
  Keeps.modify fun _ => rfl

theorem keeps_roundup (align : Nat) :
    Keeps CdrSerializationBuffer.memLength (Ser.roundup align) := by
  refine Keeps.get.bind fun b => ?_
  exact Keeps.ite Keeps.throw (keeps_advance _)

theorem keeps_check (cnt : Nat) : Keeps CdrSerializationBuffer.memLength (Ser.check cnt) :=
  Keeps.get.bind fun _ => Keeps.ite Keeps.throw Keeps.pure

theorem keeps_store (bs : List Byte) : Keeps CdrSerializationBuffer.memLength (Ser.store bs) := by
  intro was b same
  rw [Ser.store, bind_ok (get_run b)]
  cases stored : poke b.mem (cdrHeaderSize + b.offset) bs with
  | none => exact same
  | some mem => exact (poke_length stored).trans same

theorem keeps_put (cnt : Nat) (bs : List Byte) :
    Keeps CdrSerializationBuffer.memLength (Ser.put S cnt bs) := by
  cases S with
  | true =>
    exact (keeps_check cnt).bind fun _ => (keeps_store bs).bind fun _ => keeps_advance cnt
  | false => exact keeps_advance cnt

theorem keeps_word (w : Word) (x : BitVec w.bits) :
    Keeps CdrSerializationBuffer.memLength (Ser.word S o w x) :=
  (keeps_roundup _).bind fun _ => keeps_put _ _

theorem keeps_count (n : Nat) : Keeps CdrSerializationBuffer.memLength (Ser.count S o n) :=
  keeps_word _ _

theorem keeps_string (s : List Byte) : Keeps CdrSerializationBuffer.memLength (Ser.string S o s) :=
  (keeps_count _).bind fun _ => (keeps_roundup _).bind fun _ => keeps_put _ _

theorem keeps_u16string (s : List Char16) :
    Keeps CdrSerializationBuffer.memLength (Ser.u16string S o s) :=
  (keeps_count _).bind fun _ => (keeps_roundup _).bind fun _ => keeps_put _ _

theorem keeps_copyArr (w : Word) (arr : List (BitVec w.bits)) (cnt : Nat) :
    Keeps CdrSerializationBuffer.memLength (Ser.copyArr S o w arr cnt) :=
  Keeps.ite Keeps.pure ((keeps_roundup _).bind fun _ => keeps_put _ _)

theorem keeps_for32 {bound : Nat} {body : Nat → Ser Unit}
    (h : ∀ i, Keeps CdrSerializationBuffer.memLength (body i)) :
    Keeps CdrSerializationBuffer.memLength (Ser.for32 bound body) :=
  Keeps.get.bind fun _ => (Keeps.counted h).bind fun _ => Keeps.pure

theorem keeps_countSequence (member : MessageMember) (size : Nat) :
    Keeps CdrSerializationBuffer.memLength (Ser.countSequence S o member size) :=
  Keeps.ite (keeps_count size) Keeps.pure

/-! ## The walk over a message -/

theorem keeps_serializeBoolean (member : MessageMember) (input : Value) :
    Keeps CdrSerializationBuffer.memLength (Ser.serializeBoolean S lang o member input) := by
  have each (i : Nat) : Keeps CdrSerializationBuffer.memLength
      (Ser.word S o .uint8 (boolByte (getConst input i).toBool)) := keeps_word _ _
  refine Keeps.ite ?_ (keeps_word _ _)
  cases lang with
  | c => exact Keeps.ite ((keeps_count _).bind fun _ => keeps_for32 each) (keeps_for32 each)
  | cxx =>
    refine Keeps.ite ((keeps_count _).bind fun _ => ?_) (keeps_for32 each)
    exact (Keeps.loop each _ _).bind fun _ => Keeps.pure

theorem keeps_serializeWchar (member : MessageMember) (input : Value) :
    Keeps CdrSerializationBuffer.memLength (Ser.serializeWchar S lang o member input) := by
  refine Keeps.ite ?_ (keeps_word _ _)
  cases lang with
  | c =>
    refine Keeps.ite ((keeps_count _).bind fun _ => ?_) Keeps.pure
    exact keeps_for32 fun i => keeps_word _ _
  | cxx =>
    refine (keeps_countSequence member _).bind fun _ => ?_
    exact keeps_for32 fun i => keeps_word _ _

theorem keeps_serializeElements {write : Value → Ser Unit}
    (h : ∀ v, Keeps CdrSerializationBuffer.memLength (write v)) (member : MessageMember)
    (input : Value) :
    Keeps CdrSerializationBuffer.memLength (Ser.serializeElements S lang o write member input) := by
  have each (i : Nat) : Keeps CdrSerializationBuffer.memLength (write (getConst input i)) := h _
  cases lang with
  | c =>
    refine Keeps.ite (Keeps.ite ?_ (keeps_for32 each)) (h input)
    exact (keeps_count _).bind fun _ => keeps_for32 each
  | cxx =>
    refine Keeps.ite ?_ (h input)
    exact (keeps_countSequence member _).bind fun _ => keeps_for32 each

theorem keeps_serializePrimitive (w : Word) (member : MessageMember) (input : Value) :
    Keeps CdrSerializationBuffer.memLength (Ser.serializePrimitive S lang o w member input) := by
  refine Keeps.ite ?_ (keeps_word _ _)
  cases lang with
  | c =>
    refine Keeps.ite ?_ (keeps_copyArr _ _ _)
    exact (keeps_count _).bind fun _ => keeps_copyArr _ _ _
  | cxx => exact (keeps_countSequence member _).bind fun _ => keeps_copyArr _ _ _

theorem keeps_serializeMember {nested : Value → Ser Unit}
    (h : ∀ v, Keeps CdrSerializationBuffer.memLength (nested v)) (member : MessageMember)
    (input : Value) :
    Keeps CdrSerializationBuffer.memLength (Ser.serializeMember S lang o nested member input) := by
  unfold Ser.serializeMember
  cases member.kind with
  | boolean => exact keeps_serializeBoolean member input
  | primitive w => exact keeps_serializePrimitive w member input
  | wchar => exact keeps_serializeWchar member input
  | string => exact keeps_serializeElements (fun v => keeps_string _) member input
  | wstring => exact keeps_serializeElements (fun v => keeps_u16string _) member input
  | message =>
    refine Keeps.ite ?_ (h input)
    exact (keeps_countSequence member _).bind fun _ => keeps_for32 fun i => h _
  | unsupported => exact Keeps.throw

/-- The induction is over the description; a member is written by the description nested in it. -/
theorem keeps_serializeMembers (d : MessageMembers) :
    ∀ input, Keeps CdrSerializationBuffer.memLength (Ser.serializeMembers S lang o d input) := by
  induction d using MessageMembers.induct (Q := fun m => ∀ input,
      Keeps CdrSerializationBuffer.memLength (Ser.serializeMembers S lang o m.members input)) with
  | null => exact fun _ => Keeps.throw
  | mk ns name ms ih =>
    intro input
    show Keeps _ (Ser.serializeFields S lang o ms input.fields)
    generalize input.fields = vs
    induction ms generalizing vs with
    | nil => exact Keeps.pure
    | cons m ms rest =>
      cases m with
      | mk name typeId isArray arraySize isUpperBound members =>
        refine (keeps_serializeMember (ih _ List.mem_cons_self) _ _).bind fun _ => ?_
        exact rest (fun m mem => ih m (.tail _ mem)) vs.tail
  | member m ih input => exact ih input

theorem keeps_serialize (d : MessageMembers) (input : Value) (roundup_ : Bool) :
    Keeps CdrSerializationBuffer.memLength (Ser.serialize S lang o d input roundup_) :=
  (keeps_serializeMembers d input).bind fun _ => Keeps.ite (keeps_roundup 4) Keeps.pure

end Operations

/-! ## The entry point -/

/-- A writing pass leaves the memory as large as it was. -/
theorem trySerialize_length {o : ByteOrder} {buffer : Option (List Byte)} {size : Nat}
    {body : Ser Unit} (keeps : Keeps CdrSerializationBuffer.memLength body) :
    (trySerialize o buffer size body).ddsMessage.map List.length = buffer.map List.length := by
  unfold trySerialize
  cases buffer with
  | none => rfl
  | some mem =>
    cases made : CdrSerializationBuffer.make true o (some mem) size with
    | error e => rfl
    | ok b =>
      have length := make_length made
      have ends := keeps mem.length b length
      dsimp only
      cases run : body b with
      | ok a b' =>
        rw [run] at ends
        exact congrArg some ends
      | error e b' =>
        rw [run] at ends
        exact congrArg some ends

/-- **`serialize_ros_to_cdr` leaves the memory as large as it was**, whatever the message is. -/
theorem serializeRosToCdr_length (lang : LanguageKind) (o : ByteOrder) (d : MessageMembers)
    (v : Value) (buffer : Option (List Byte)) (size : Nat) :
    (serializeRosToCdr lang o d v buffer size).ddsMessage.map List.length =
      buffer.map List.length := by
  cases d with
  | nullptr => rfl
  | mk ns name ms => exact trySerialize_length (keeps_serialize _ _ _)

end Cdr
