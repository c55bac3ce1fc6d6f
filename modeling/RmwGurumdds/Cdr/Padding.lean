import RmwGurumdds.Cdr.ServiceBuffers

/-!
# What a buffer held before

The memory a message is written into comes from `malloc` or from an earlier message. The constructor
of the buffer clears the header; alignment moves the offset and writes nothing. What the memory held
in a gap is then sent along with the message.

The bytes that leave depend on the message alone exactly when its encoding has no gap
(`padding_blind_iff`): when every word in it happens to stand at a multiple of its width and the
whole ends at a multiple of four.
-/

namespace Cdr

open Wire Exec Rmw

/-! ## Functions -/

section Entry

variable (lang : LanguageKind) (o : ByteOrder)

/-- `serialize_service_enhanced`. It is `serialize_ros_to_cdr` to the letter. -/
def serializeServiceEnhanced (members : MessageMembers) (rosService : Value)
    (ddsService : Option (List Byte)) (size : Nat) : Serialized :=
  match members with
  | .nullptr =>
    { ret := .ok false, errorMsg := some "Members handle is null", ddsMessage := ddsService,
      offset := 0 }
  | .mk ns name ms =>
    trySerialize o ddsService size (Ser.serialize true lang o (.mk ns name ms) rosService true)

/-- `serialize_request_enhanced` and `serialize_response_enhanced`. -/
def serializeDirectionEnhanced (isRequest : Bool) (members : ServiceMembers) (rosMessage : Value)
    (ddsMessage : Option (List Byte)) (size : Nat) : Serialized :=
  match members with
  | .nullptr =>
    { ret := .ok false, errorMsg := some "Members handle is null", ddsMessage, offset := 0 }
  | .mk request response =>
    serializeServiceEnhanced lang o (ServiceMembers.direction request response isRequest) rosMessage
      ddsMessage size

/-- `serialize_request_enhanced`. -/
def serializeRequestEnhanced : ServiceMembers → Value → Option (List Byte) → Nat → Serialized :=
  serializeDirectionEnhanced lang o true

/-- `serialize_response_enhanced`. -/
def serializeResponseEnhanced : ServiceMembers → Value → Option (List Byte) → Nat → Serialized :=
  serializeDirectionEnhanced lang o false

end Entry

/-! ## Messages that have a size -/

section Sized

variable {S : Bool} {lang : LanguageKind} {o : ByteOrder}

/-- The writer does not return from a member it does not handle. -/
theorem writable_of_returns (d : MessageMembers) (v : Value) (typed : d.typed v = true) :
    d.arraysCountable v = true → Returns (Ser.serializeMembers S lang o d v) →
      d.writable v = true := by
  refine d.typed_induct
    (P := fun d v => d.arraysCountable v = true → Returns (Ser.serializeMembers S lang o d v) →
      d.writable v = true)
    (Q := fun m v => m.every MessageMember.arrayCountable v = true →
      Returns (Ser.serializeMember S lang o (Ser.serializeMembers S lang o m.members) m v) →
      m.every MessageMember.writable v = true)
    (R := fun ms vs => fieldsEvery MessageMember.arrayCountable ms vs = true →
      Returns (Ser.serializeFields S lang o ms vs) →
      fieldsEvery MessageMember.writable ms vs = true)
    (fun ns name ms vs fields => fields) (fun _ _ => rfl) ?_ ?_ v typed
  · intro m ms v vs first rest count returns
    rw [fieldsEvery, Bool.and_eq_true] at count ⊢
    cases m
    obtain ⟨here, _, after⟩ := returns.bind
    exact ⟨first count.1 here, rest count.2 after⟩
  · intro m v typed ih count returns
    rw [MessageMember.every_eq, Bool.and_eq_true] at count ⊢
    unfold Ser.serializeMember at returns
    have handled : m.kind ≠ .unsupported := by
      intro kind
      rw [kind] at returns
      obtain ⟨s, a, s', run⟩ := returns
      cases run
    refine ⟨by rw [MessageMember.writable, decide_eq_true handled, count.1]; rfl, ?_⟩
    by_cases kind : m.kind = .message
    · have nested := count.2
      rw [if_pos kind] at nested ⊢
      rw [kind] at returns
      unfold Ser.serializeStructArr at returns
      by_cases isArray : m.isArray = true
      · obtain ⟨es, rfl, length, each⟩ := MessageMember.typed_array isArray typed
        have small := MessageMember.arrayCountable_array isArray count.1
        rw [if_pos isArray, List.all_eq_true] at nested ⊢
        rw [if_pos isArray, sizeFunction_array length, uint32T_of_lt small] at returns
        obtain ⟨_, _, looped⟩ := returns.bind
        obtain ⟨_, b, rounds⟩ := looped.bind
        have rounds := rounds.bind.1
        rw [counted_eq_loop small] at rounds
        intro e (among : e ∈ es)
        obtain ⟨j, inside, rfl⟩ := List.getElem_of_mem among
        have round := Returns.loop _ _ rounds j inside
        rw [getConst_array inside] at round
        exact ih _ (m.typed_nested kind (each _ among)) (nested _ among) round
      · rw [if_neg isArray] at nested returns ⊢
        rw [MessageMember.typed_scalar (Bool.eq_false_iff.mpr isArray)] at typed
        exact ih v (m.typed_nested kind typed) nested returns
    · rw [if_neg kind]

/-- **A message that has a size is one the serializer handles**, and the size is that of its
encoding. -/
theorem encodedSize_of_sized {d : MessageMembers} {v : Value} {n : Nat} (typed : d.typed v = true)
    (count : d.arraysCountable v = true) (bound : encodedSize lang o d v < 2 ^ 63)
    (sized : (getSerializedSize lang o d (some v)).ret = .ok n) :
    d.writable v = true ∧ encodedSize lang o d v = n := by
  have writable : d.writable v = true := by
    cases d with
    | nullptr => cases typed
    | mk ns name ms =>
      have returns : Returns (Ser.serializeMembers false lang o (.mk ns name ms) v) := by
        unfold getSerializedSize CdrSerializationBuffer.make at sized
        dsimp only at sized
        split at sized
        · rename_i a b' run
          exact (Returns.bind ⟨_, _, _, run⟩).1
        · cases sized
      exact writable_of_returns _ v typed count returns
  rw [getSerializedSize_spec typed writable bound] at sized
  exact ⟨writable, Int.ofNat.inj (Except.ok.inj sized)⟩

end Sized

/-! ## What the memory held -/

/-- What a function leaves in a buffer of this size does not depend on what the buffer held. -/
def Blind (n : Nat) (write : List Byte → Serialized) : Prop :=
  ∀ mem mem' : List Byte, mem.length = n → mem'.length = n →
    (write mem).ddsMessage = (write mem').ddsMessage

/-- The encoding of a message has no gap, inside it or at its end. -/
def MessageMembers.Tight (lang : LanguageKind) (o : ByteOrder) (d : MessageMembers) (v : Value) :
    Prop :=
  (d.layout lang o v).Tight 0 ∧ (d.layout lang o v 0).length % 4 = 0

theorem MessageMembers.tight_iff {lang : LanguageKind} {o : ByteOrder} {d : MessageMembers}
    {v : Value} : d.Tight lang o v ↔ ∀ c ∈ messageLayout lang o d v 0, c ≠ none := by
  have whole : (messageLayout lang o d v).Tight 0 ↔ _ := tight_append
  rw [tight_align Word.uint32.bytes_pos, Nat.zero_add] at whole
  exact whole.symm

/-- **Cells hide what a buffer held exactly when there is no gap among them.** -/
theorem written_blind_iff (o : ByteOrder) (cells : List Cell) :
    (∀ mem mem' : List Byte, mem.length = cdrHeaderSize + cells.length →
        mem'.length = cdrHeaderSize + cells.length → written o mem cells = written o mem' cells) ↔
      ∀ c ∈ cells, c ≠ none := by
  have length : ∀ mem : List Byte, mem.length = cdrHeaderSize + cells.length →
      (header o ++ mem.drop cdrHeaderSize).length = cdrHeaderSize + cells.length := by
    intro mem size
    rw [header_drop_length o (by omega), size]
  have under : ∀ (mem : List Byte) i,
      (header o ++ mem.drop cdrHeaderSize)[cdrHeaderSize + i]? = mem[cdrHeaderSize + i]? := by
    intro mem i
    rw [List.getElem?_append_right (by rw [header_length]; omega), header_length,
      Nat.add_sub_cancel_left, List.getElem?_drop]
  constructor
  · rintro blind c among rfl
    obtain ⟨i, inside, gap⟩ := List.getElem_of_mem among
    have gap : cells[i]? = some none := by rw [List.getElem?_eq_getElem inside, gap]
    -- One memory of zeros and one of ones show the gap.
    have same := blind (List.replicate (cdrHeaderSize + cells.length) 0)
      (List.replicate (cdrHeaderSize + cells.length) 1) List.length_replicate List.length_replicate
    have shown : (written o (List.replicate (cdrHeaderSize + cells.length) 0) cells)[
        cdrHeaderSize + i]? = (written o (List.replicate (cdrHeaderSize + cells.length) 1) cells)[
        cdrHeaderSize + i]? := by rw [same]
    rw [written, written, overlay_at_gap gap, overlay_at_gap gap, under, under,
      List.getElem?_replicate_of_lt (by omega), List.getElem?_replicate_of_lt (by omega)] at shown
    exact absurd (Option.some.inj shown) (by decide)
  · intro tight mem mem' size size'
    refine overlay_eq_of_tight tight (length mem size) (length mem' size') ?_
    rw [List.take_append_of_le_length (by rw [header_length]),
      List.take_append_of_le_length (by rw [header_length])]

/-- A serializer writes blindly exactly the messages whose encoding has no gap. -/
theorem serializeRosToCdr_blind_iff {lang : LanguageKind} {o : ByteOrder} {d : MessageMembers}
    {v : Value} (typed : d.typed v = true) (writable : d.writable v = true)
    (bound : encodedSize lang o d v < 2 ^ 63) :
    Blind (encodedSize lang o d v) (fun mem =>
      serializeRosToCdr lang o d v (some mem) (encodedSize lang o d v)) ↔ d.Tight lang o v := by
  rw [MessageMembers.tight_iff, ← written_blind_iff o]
  refine forall₂_congr fun mem mem' => forall₂_congr fun size size' => ?_
  have spec := serializeRosToCdr_spec mem typed writable bound size.symm.le (by omega)
  have spec' := serializeRosToCdr_spec mem' typed writable bound size'.symm.le (by omega)
  rw [if_pos (Nat.le_refl _)] at spec spec'
  dsimp only
  rw [spec, spec', Option.some.injEq]

/-- **The bytes that leave depend on the message alone exactly when its encoding has no gap.** In a
buffer of the size that was announced for the message, each of the serializing functions leaves the
same bytes whatever the buffer held if and only if every word of the message stands at a multiple of
its width and the message ends at a multiple of four. -/
theorem padding_blind_iff (lang : LanguageKind) (o : ByteOrder) (d : MessageMembers) (v : Value)
    (n : Nat) (typed : d.typed v = true) (count : d.arraysCountable v = true)
    (bound : encodedSize lang o d v < 2 ^ 63)
    (sized : (getSerializedSize lang o d (some v)).ret = .ok n) :
    (Blind n (fun mem => serializeRosToCdr lang o d v (some mem) n) ↔ d.Tight lang o v) ∧
      (∀ response, Blind n (fun mem =>
        serializeRequestEnhanced lang o (.mk d response) v (some mem) n) ↔ d.Tight lang o v) ∧
      ∀ request, Blind n (fun mem =>
        serializeResponseEnhanced lang o (.mk request d) v (some mem) n) ↔ d.Tight lang o v := by
  obtain ⟨writable, rfl⟩ := encodedSize_of_sized typed count bound sized
  have plain := serializeRosToCdr_blind_iff typed writable bound
  have enhanced : ∀ mem, serializeServiceEnhanced lang o d v (some mem) (encodedSize lang o d v) =
      serializeRosToCdr lang o d v (some mem) (encodedSize lang o d v) := fun mem => by
    cases d <;> rfl
  refine ⟨plain, fun response => ?_, fun request => ?_⟩
  · show Blind _ (fun mem => serializeServiceEnhanced lang o d v (some mem) _) ↔ _
    simpa only [enhanced] using plain
  · show Blind _ (fun mem => serializeServiceEnhanced lang o d v (some mem) _) ↔ _
    simpa only [enhanced] using plain

/-- A byte, as a message. -/
def sampleByte : Value := .message [.prim .uint8 7]

theorem padding_blind_iff_sample :
    (Blind 8 (fun mem => serializeRosToCdr .cxx .little oneByte sampleByte (some mem) 8) ↔
        oneByte.Tight .cxx .little sampleByte) ∧
      (∀ response, Blind 8 (fun mem =>
        serializeRequestEnhanced .cxx .little (.mk oneByte response) sampleByte (some mem) 8) ↔
          oneByte.Tight .cxx .little sampleByte) ∧
      ∀ request, Blind 8 (fun mem =>
        serializeResponseEnhanced .cxx .little (.mk request oneByte) sampleByte (some mem) 8) ↔
          oneByte.Tight .cxx .little sampleByte :=
  padding_blind_iff .cxx .little oneByte sampleByte 8 (by decide) (by decide) (by decide) rfl

/-- Three bytes of what the memory held are sent behind a single one. -/
theorem padding_leak :
    (getSerializedSize .cxx .little oneByte (some sampleByte)).ret = .ok 8 ∧
      (serializeRosToCdr .cxx .little oneByte sampleByte (some (List.replicate 8 0)) 8).ddsMessage =
        some [0, 1, 0, 0, 7, 0, 0, 0] ∧
      (serializeRosToCdr .cxx .little oneByte sampleByte
        (some [0xde, 0xad, 0xbe, 0xef, 0xde, 0xad, 0xbe, 0xef]) 8).ddsMessage =
        some [0, 1, 0, 0, 7, 0xad, 0xbe, 0xef] :=
  ⟨rfl, rfl, rfl⟩

end Cdr
