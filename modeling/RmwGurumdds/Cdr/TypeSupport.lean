import RmwGurumdds.Cdr.Padding

/-!
# The callbacks of a type support

DDS does not know the codec. It asks a type support how many bytes a message takes, makes a buffer
and has the message written into it; the answer is the number of bytes written, and zero is a
failure.

There are three such callbacks, one for messages and one for each direction of a service. Those of
a service answer zero where the serializer returns false. The one for messages does not look at what
the serializer returns and answers the size of the buffer (`serialize_reports_iff`).
-/

namespace Cdr

open Wire Exec

/-! ## Functions -/

/-- A `size_t` made of a `ssize_t`. -/
def sizeOfSsize (ssize : Int) : Nat := (ssize % 2 ^ 64).toNat

/-- What a serialize callback leaves behind. -/
structure Direct where
  ret : Except Exn Nat
  buffer : Option (List Byte)

section Callbacks

variable (lang : LanguageKind) (o : ByteOrder)

/-- `get_serialize_size`. -/
def getSerializeSize (members : MessageMembers) (data : Option Value) : Except Exn Nat :=
  (getSerializedSize lang o members data).ret.map sizeOfSsize

/-- `serialize_direct`. What `serialize_ros_to_cdr` returns is not looked at. -/
def serializeDirect (members : MessageMembers) (data : Value) (buffer : Option (List Byte))
    (bufferSize : Nat) : Direct :=
  let res := serializeRosToCdr lang o members data buffer bufferSize
  { ret := res.ret.map fun _ => bufferSize, buffer := res.ddsMessage }

/-- `get_service_request_serialized_size` and `get_service_response_serialized_size`. -/
def getServiceSerializedSize (isRequest : Bool) (members : ServiceMembers) (data : Option Value) :
    Except Exn Nat :=
  match members with
  | .nullptr => .error .outOfBounds
  | .mk request response =>
    (getSerializedSize lang o (ServiceMembers.direction request response isRequest) data).ret.map
      sizeOfSsize

/-- `get_service_request_serialized_size`. -/
def getServiceRequestSerializedSize : ServiceMembers → Option Value → Except Exn Nat :=
  getServiceSerializedSize lang o true

/-- `get_service_response_serialized_size`. -/
def getServiceResponseSerializedSize : ServiceMembers → Option Value → Except Exn Nat :=
  getServiceSerializedSize lang o false

/-- `service_request_serialize_direct` and `service_response_serialize_direct`, around the function
that serializes. -/
def serviceSerializeDirect
    (serialize : ServiceMembers → Value → Option (List Byte) → Nat → Serialized)
    (members : ServiceMembers) (data : Value) (buffer : Option (List Byte)) (bufferSize : Nat) :
    Direct :=
  let res := serialize members data buffer bufferSize
  { ret := res.ret.map fun ret => if ret then bufferSize else 0, buffer := res.ddsMessage }

/-- `service_request_serialize_direct`. -/
def serviceRequestSerializeDirect :
    ServiceMembers → Value → Option (List Byte) → Nat → Direct :=
  serviceSerializeDirect (serializeRequestEnhanced lang o)

/-- `service_response_serialize_direct`. -/
def serviceResponseSerializeDirect :
    ServiceMembers → Value → Option (List Byte) → Nat → Direct :=
  serviceSerializeDirect (serializeResponseEnhanced lang o)

end Callbacks

/-! ## Reporting failure -/

/-- In a buffer of `n` bytes, the callback answers zero exactly if the announced size does not fit,
and otherwise it answers `n` and `encoding` is in the buffer. -/
structure Reports (announced : Except Exn Nat) (n : Nat) (encoding : List Byte) (r : Direct) :
    Prop where
  zero : ∃ size, announced = .ok size ∧ (r.ret = .ok 0 ↔ n < size)
  full : ∀ size, announced = .ok size → size ≤ n → r.ret = .ok n ∧ r.buffer = some encoding

section Sizes

variable {lang : LanguageKind} {o : ByteOrder} {d : MessageMembers} {v : Value}

theorem sizeOfSsize_natCast {n : Nat} (h : n < 2 ^ 63) : sizeOfSsize n = n := by
  unfold sizeOfSsize
  omega

/-- The announced size is that of the encoding. -/
theorem getSerializeSize_spec (typed : d.typed v = true) (writable : d.writable v = true)
    (bound : encodedSize lang o d v < 2 ^ 63) :
    getSerializeSize lang o d (some v) = .ok (encodedSize lang o d v) := by
  unfold getSerializeSize
  rw [getSerializedSize_spec typed writable bound]
  exact congrArg Except.ok (sizeOfSsize_natCast bound)

theorem encodedSize_pos : 0 < encodedSize lang o d v := by
  unfold encodedSize cdrHeaderSize
  omega

/-- **A callback reports exactly if it answers zero where the serializer fails.** -/
theorem reports_iff {mem : List Byte} {n : Nat} {answer : Bool → Nat} (typed : d.typed v = true)
    (writable : d.writable v = true) (bound : encodedSize lang o d v < 2 ^ 63)
    (fits : n ≤ mem.length) (small : n < 2 ^ 64) (succeeds : answer true = n) :
    Reports (getSerializeSize lang o d (some v)) n (written o mem (messageLayout lang o d v 0))
        { ret := (serializeRosToCdr lang o d v (some mem) n).ret.map answer
          buffer := (serializeRosToCdr lang o d v (some mem) n).ddsMessage } ↔
      encodedSize lang o d v ≤ n ∨ answer false = 0 := by
  have spec := serializeRosToCdr_spec mem typed writable bound fits small
  rw [getSerializeSize_spec typed writable bound]
  by_cases enough : encodedSize lang o d v ≤ n
  · rw [if_pos enough] at spec
    rw [spec]
    have positive : 0 < encodedSize lang o d v := encodedSize_pos
    refine iff_of_true ⟨⟨_, rfl, ?_⟩, fun size same le => ?_⟩ (.inl enough)
    · refine iff_of_false (fun zero => ?_) (Nat.not_lt.mpr enough)
      have zero : answer true = 0 := Except.ok.inj zero
      omega
    · exact ⟨congrArg Except.ok succeeds, rfl⟩
  · rw [if_neg enough] at spec
    rw [spec.1, or_iff_right enough]
    constructor
    · rintro ⟨⟨size, same, zero⟩, -⟩
      cases same
      exact Except.ok.inj (zero.mpr (Nat.lt_of_not_le enough))
    · intro zero
      refine ⟨⟨_, rfl, iff_of_true ?_ (Nat.lt_of_not_le enough)⟩, fun size same le => ?_⟩
      · exact congrArg Except.ok zero
      · cases same
        exact absurd le enough

end Sizes

/-- **When a serialize callback reports failure.** Those of a service always do. The one for
messages does exactly if the encoding fits the buffer after all, or the buffer has no bytes. -/
theorem serialize_reports_iff (lang : LanguageKind) (o : ByteOrder) (d : MessageMembers) (v : Value)
    (mem : List Byte) (n : Nat) (supported : d.supported = true) (typed : d.typed v = true)
    (count : d.arraysCountable v = true) (bound : encodedSize lang o d v < 2 ^ 63)
    (fits : n ≤ mem.length) (small : n < 2 ^ 64) :
    (Reports (getSerializeSize lang o d (some v)) n (written o mem (messageLayout lang o d v 0))
        (serializeDirect lang o d v (some mem) n) ↔ encodedSize lang o d v ≤ n ∨ n = 0) ∧
      (∀ response, Reports (getServiceRequestSerializedSize lang o (.mk d response) (some v)) n
        (written o mem (messageLayout lang o d v 0))
        (serviceRequestSerializeDirect lang o (.mk d response) v (some mem) n)) ∧
      ∀ request, Reports (getServiceResponseSerializedSize lang o (.mk request d) (some v)) n
        (written o mem (messageLayout lang o d v 0))
        (serviceResponseSerializeDirect lang o (.mk request d) v (some mem) n) := by
  have writable := MessageMembers.writable_of_supported supported count
  have enhanced : serializeServiceEnhanced lang o d v (some mem) n =
      serializeRosToCdr lang o d v (some mem) n := by cases d <;> rfl
  have service : Reports (getSerializeSize lang o d (some v)) n
      (written o mem (messageLayout lang o d v 0))
      { ret := (serializeServiceEnhanced lang o d v (some mem) n).ret.map fun ret =>
          if ret then n else 0
        buffer := (serializeServiceEnhanced lang o d v (some mem) n).ddsMessage } := by
    rw [enhanced]
    exact (reports_iff typed writable bound fits small rfl).mpr (.inr rfl)
  exact ⟨reports_iff typed writable bound fits small rfl, fun response => service,
    fun request => service⟩

/-- A byte is written into a buffer with room for it. -/
theorem serialize_reports_iff_sample :
    (Reports (getSerializeSize .cxx .little oneByte (some sampleByte)) 8
        (written .little (List.replicate 8 0) (messageLayout .cxx .little oneByte sampleByte 0))
        (serializeDirect .cxx .little oneByte sampleByte (some (List.replicate 8 0)) 8) ↔
        encodedSize .cxx .little oneByte sampleByte ≤ 8 ∨ 8 = 0) ∧
      (∀ response, Reports
        (getServiceRequestSerializedSize .cxx .little (.mk oneByte response) (some sampleByte)) 8
        (written .little (List.replicate 8 0) (messageLayout .cxx .little oneByte sampleByte 0))
        (serviceRequestSerializeDirect .cxx .little (.mk oneByte response) sampleByte
          (some (List.replicate 8 0)) 8)) ∧
      ∀ request, Reports
        (getServiceResponseSerializedSize .cxx .little (.mk request oneByte) (some sampleByte)) 8
        (written .little (List.replicate 8 0) (messageLayout .cxx .little oneByte sampleByte 0))
        (serviceResponseSerializeDirect .cxx .little (.mk request oneByte) sampleByte
          (some (List.replicate 8 0)) 8) :=
  serialize_reports_iff .cxx .little oneByte sampleByte (List.replicate 8 0) 8 (by decide)
    (by decide) (by decide) (by decide) (by decide) (by decide)

/-- Into seven bytes a message of eight is written in part, and seven is answered. -/
theorem serializeDirect_notReported :
    ¬ Reports (getSerializeSize .cxx .little oneByte (some sampleByte)) 7
      (written .little (List.replicate 7 0) (messageLayout .cxx .little oneByte sampleByte 0))
      (serializeDirect .cxx .little oneByte sampleByte (some (List.replicate 7 0)) 7) := by
  intro reports
  obtain ⟨size, announced, zero⟩ := reports.zero
  have eight : getSerializeSize .cxx .little oneByte (some sampleByte) = .ok 8 := rfl
  have seven : (serializeDirect .cxx .little oneByte sampleByte (some (List.replicate 7 0)) 7).ret =
      .ok 7 := rfl
  rw [eight] at announced
  obtain rfl := Except.ok.inj announced
  rw [seven] at zero
  cases zero.mpr (by decide)

end Cdr
