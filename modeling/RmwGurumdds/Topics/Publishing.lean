import RmwGurumdds.Cdr.Languages
import RmwGurumdds.Cdr.RoundTrip
import RmwGurumdds.Cdr.TypeSupport
import RmwGurumdds.Service.Calls
import RmwGurumdds.Subscription.SerializedMessages

/-!
# Ways to publish and to take

A publisher sends messages, which DDS has written into a buffer of its own by the callbacks of the
type support, and serialized messages, which a user has written before by `rmw_serialize`. DDS
itself is an argument (`DdsWriter`), with what its callers may rely on (`DdsWriter.Documented`). A
subscription takes messages, which DDS has read by a callback, and serialized messages, which a user
reads afterwards by `rmw_deserialize`. A publisher does not know how its messages are taken, nor a
subscription how they were published.

Whichever way a message is sent and whichever way it is taken, it is the message that arrives
(`every_way_delivers`).
-/

namespace Topics

open Wire Cdr Rmw Subscription
open Service (Sent write)

/-! ## Publishing -/

/-- `PublisherInfo`, as far as messages go. -/
structure PublisherInfo where
  sequenceNumber : BitVec 64
  publisherGid : Gid
deriving DecidableEq

/-- What a publisher is when `create_publisher` has made it. -/
def PublisherInfo.create (publisherGid : Gid) : PublisherInfo :=
  { sequenceNumber := 0, publisherGid }

/-- The publisher once it has counted on. -/
def PublisherInfo.next (info : PublisherInfo) : PublisherInfo :=
  { info with sequenceNumber := info.sequenceNumber + 1 }

/-- The information that goes with a sample at the time `now`. -/
def PublisherInfo.describe (info : PublisherInfo) (now : DdsTime) : SampleInfoEx :=
  { SampleInfoEx.zero with
    sourceTimestamp := now
    seq := rosSnToDdsSn info.sequenceNumber
    srcGuid := rosGuidToDdsGuid info.publisherGid }

/-- `publish`, at the time `now`: the publisher it leaves, and how it ends. `written` is what DDS
makes of the message, or nothing where it fails, with the return code that `code` tells. -/
def publish (info : PublisherInfo) (now : DdsTime) (code : String)
    (written : Option (List Byte)) : PublisherInfo × Sent :=
  (info.next, write ("failed to publish data: " ++ code) (info.next.describe now) written)

/-- `rmw_publish`. -/
def rmwPublish (info : PublisherInfo) (now : DdsTime) (code : String)
    (written : Option (List Byte)) : PublisherInfo × Sent :=
  publish info now code written

/-- `rmw_publish_serialized_message`. Here `written` are bytes of the serialized message. -/
def rmwPublishSerializedMessage (info : PublisherInfo) (now : DdsTime) (code : String)
    (written : Option (List Byte)) : PublisherInfo × Sent :=
  (info.next, write ("failed to publish data: " ++ code) (info.next.describe now) written)

/-! ## The callbacks -/

/-- What `dds_DataWriter_write_w_sampleinfoex` sends of a message, if it sends anything, by what the
callback for the size answers and by what the other one leaves of a buffer. -/
abbrev DdsWriter := Except Exn Nat → (List Byte → Nat → Direct) → Option (List Byte)

/-- DDS makes a buffer of the size that it is told, whatever is in it, and has the message written
there. It sends the buffer unless the answer is zero, which says that the callback has failed. -/
structure DdsWriter.Documented (dds : DdsWriter) : Prop where
  sends : ∀ n serialize, (∀ mem : List Byte, mem.length = n →
      ∃ k, (serialize mem n).ret = .ok k ∧ k ≠ 0) →
    ∃ mem : List Byte, mem.length = n ∧ dds (.ok n) serialize = (serialize mem n).buffer
  sent : ∀ size serialize bytes, dds size serialize = some bytes →
    ∃ n mem, size = .ok n ∧ mem.length = n ∧ (serialize mem n).buffer = some bytes

/-- A writer whose buffers hold zeros. -/
def zeroedWriter : DdsWriter
  | .error _, _ => none
  | .ok n, serialize =>
    match (serialize (List.replicate n 0) n).ret with
    | .error _ => none
    | .ok k => if k = 0 then none else (serialize (List.replicate n 0) n).buffer

theorem zeroedWriter_documented : zeroedWriter.Documented where
  sends n serialize answers := by
    obtain ⟨k, ret, positive⟩ := answers (List.replicate n 0) List.length_replicate
    refine ⟨List.replicate n 0, List.length_replicate, ?_⟩
    simp only [zeroedWriter, ret, if_neg positive]
  sent size serialize bytes sent := by
    cases size with
    | error e => cases sent
    | ok n =>
      refine ⟨n, List.replicate n 0, rfl, List.length_replicate, ?_⟩
      simp only [zeroedWriter] at sent
      split at sent
      · cases sent
      · split at sent
        · cases sent
        · exact sent

/-- What DDS sends of a message that is published as one. -/
def directBytes (dds : DdsWriter) (lang : LanguageKind) (o : ByteOrder) (members : MessageMembers)
    (rosMessage : Value) : Option (List Byte) :=
  dds (getSerializeSize lang o members (some rosMessage)) fun mem n =>
    serializeDirect lang o members rosMessage (some mem) n

/-- `deserialize_direct`. -/
def deserializeDirect (t : Target) (members : MessageMembers) (buffer : List Byte)
    (data : Value) : Deserialized Value :=
  deserializeCdrToRos t members data buffer

/-- The bytes of a serialized message. -/
def bytesOf (m : SerializedMessage) : Option (List Byte) := m.buffer.map (List.take m.bufferLength)

/-- The bytes that `dds_DataWriter_raw_write_w_sampleinfoex` is given. Their number is cast to a
`uint32_t`. -/
def rawBytes (m : SerializedMessage) : Option (List Byte) :=
  m.buffer.map (List.take (uint32T m.bufferLength))

/-- Bytes that go out for a message, either way. -/
inductive Sends (dds : DdsWriter) (lang : LanguageKind) (o : ByteOrder) (d : MessageMembers)
    (v : Value) (bytes : List Byte) : Prop
  | message (made : directBytes dds lang o d v = some bytes)
  | serialized (allocate : Nat → Option (List Byte))
    (allocates : ∀ n mem, allocate n = some mem → mem.length = n) (m : SerializedMessage)
    (consistent : Consistent m) (done : (rmwSerialize lang o allocate (some d) v m).ret = .ok .ok)
    (handed : rawBytes (rmwSerialize lang o allocate (some d) v m).serializedMessage = some bytes)

/-! ## What goes out -/

section Sending

variable {dds : DdsWriter} {lang : LanguageKind} {o : ByteOrder} {d : MessageMembers} {v : Value}

/-- What is written to the first bytes of a memory. -/
theorem written_take (mem : List Byte) (cells : List Cell) {n : Nat} (room : cdrHeaderSize ≤ n) :
    (written o mem cells).take n = written o (mem.take n) cells := by
  have head : (header o).take n = header o := List.take_of_length_le room
  rw [written, written, overlay_take, List.take_append, head, header_length, List.drop_take]

/-- The callback writes the encoding of a message into a buffer of its size. -/
theorem serializeDirect_eq (typed : d.typed v = true) (writable : d.writable v = true)
    (bound : encodedSize lang o d v < 2 ^ 63) {mem : List Byte}
    (sized : mem.length = encodedSize lang o d v) :
    serializeDirect lang o d v (some mem) (encodedSize lang o d v) =
      { ret := .ok (encodedSize lang o d v),
        buffer := some (written o mem (messageLayout lang o d v 0)) } := by
  have spec := serializeRosToCdr_spec mem typed writable bound sized.ge (by omega)
  rw [if_pos le_rfl] at spec
  rw [serializeDirect, spec]
  rfl

/-- DDS sends the encoding of a message, and nothing else. -/
theorem directBytes_iff (writer : dds.Documented) (typed : d.typed v = true)
    (writable : d.writable v = true) (bound : encodedSize lang o d v < 2 ^ 63) :
    (∃ bytes, directBytes dds lang o d v = some bytes) ∧
      ∀ bytes, directBytes dds lang o d v = some bytes →
        ∃ mem, mem.length = encodedSize lang o d v ∧
          bytes = written o mem (messageLayout lang o d v 0) := by
  have size := getSerializeSize_spec typed writable bound
  constructor
  · obtain ⟨mem, length, sends⟩ := writer.sends (encodedSize lang o d v)
      (fun mem n => serializeDirect lang o d v (some mem) n) fun mem length =>
        ⟨_, by rw [serializeDirect_eq typed writable bound length], encodedSize_pos.ne'⟩
    rw [serializeDirect_eq typed writable bound length] at sends
    exact ⟨_, by rw [directBytes, size, sends]⟩
  · intro bytes sent
    obtain ⟨n, mem, same, length, left⟩ := writer.sent _ _ _ sent
    rw [size] at same
    obtain rfl := Except.ok.inj same
    rw [serializeDirect_eq typed writable bound length] at left
    exact ⟨mem, length, (Option.some.inj left).symm⟩

theorem reserve_length {m : SerializedMessage} {allocate : Nat → Option (List Byte)} (size : Nat) :
    (m.reserve allocate size).bufferLength = size := by
  unfold SerializedMessage.reserve
  split <;> rfl

/-- What `rmw_serialize` leaves, if it has the memory. -/
theorem rmwSerialize_eq (typed : d.typed v = true) (writable : d.writable v = true)
    (bound : encodedSize lang o d v < 2 ^ 63) {allocate : Nat → Option (List Byte)}
    {m : SerializedMessage} {mem : List Byte}
    (there : (m.reserve allocate (encodedSize lang o d v)).buffer = some mem)
    (enough : encodedSize lang o d v ≤ mem.length) :
    (rmwSerialize lang o allocate (some d) v m).ret = .ok .ok ∧
      rawBytes (rmwSerialize lang o allocate (some d) v m).serializedMessage =
        some ((written o mem (messageLayout lang o d v 0)).take
          (uint32T (encodedSize lang o d v))) := by
  have spec := serializeRosToCdr_spec mem typed writable bound enough (by omega)
  rw [if_pos le_rfl] at spec
  have positive : ¬ (encodedSize lang o d v : Int) < 0 := by omega
  simp only [rmwSerialize, getSerializedSize_spec typed writable bound, if_neg positive,
    Int.toNat_natCast, there, spec, Except.map, rawBytes, Option.map_some, reserve_length, if_true,
    and_self]

/-- Without memory it fails. -/
theorem rmwSerialize_none (typed : d.typed v = true) (writable : d.writable v = true)
    (bound : encodedSize lang o d v < 2 ^ 63) {allocate : Nat → Option (List Byte)}
    {m : SerializedMessage}
    (missing : (m.reserve allocate (encodedSize lang o d v)).buffer = none) :
    (rmwSerialize lang o allocate (some d) v m).ret = .ok .error := by
  have positive : ¬ (encodedSize lang o d v : Int) < 0 := by omega
  cases d with
  | nullptr => exact nomatch typed
  | mk ns name ms =>
    simp only [rmwSerialize, getSerializedSize_spec typed writable bound, if_neg positive,
      Int.toNat_natCast, missing]
    rfl

theorem backed_of_consistent {m : SerializedMessage} (consistent : Consistent m) : m.Backed := by
  intro mem there
  obtain ⟨-, capacity⟩ := consistent
  rw [there] at capacity
  exact capacity.ge

/-- **Whatever goes out for a message is its encoding.** -/
theorem Sends.written_eq (writer : dds.Documented) (typed : d.typed v = true)
    (writable : d.writable v = true) (bound : encodedSize lang o d v < 2 ^ 32) {bytes : List Byte}
    (sends : Sends dds lang o d v bytes) :
    ∃ mem, mem.length = encodedSize lang o d v ∧
      bytes = written o mem (messageLayout lang o d v 0) := by
  have bound' : encodedSize lang o d v < 2 ^ 63 := by omega
  cases sends with
  | message made => exact (directBytes_iff writer typed writable bound').2 bytes made
  | serialized allocate allocates m consistent done handed =>
    cases there : (m.reserve allocate (encodedSize lang o d v)).buffer with
    | none =>
      rw [rmwSerialize_none typed writable bound' there] at done
      cases done
    | some mem =>
      have enough := reserve_backed (fun n mem given => (allocates n mem given).ge)
        (backed_of_consistent consistent) there
      obtain ⟨-, raw⟩ := rmwSerialize_eq typed writable bound' there enough
      rw [raw] at handed
      obtain rfl := Option.some.inj handed
      refine ⟨mem.take (encodedSize lang o d v), List.length_take_of_le enough, ?_⟩
      rw [uint32T, Nat.mod_eq_of_lt bound, written_take]
      exact Nat.le_add_right _ _

end Sending

/-! ## What comes in -/

/-- A take of DDS that brings a sample with these bytes. -/
structure Brings (raw : RawTaken) (bytes : List Byte) : Prop where
  sequences : raw.dataValues = true ∧ raw.sampleInfos = true ∧ raw.sampleSizes = true
  ret : raw.ret = .ok
  valid : raw.sample.info.validData = true
  message : raw.sample.message = some bytes
  size : raw.sampleSize.toNat = bytes.length

section Taking

variable {guidOf : Nat → Option Gid} {resize : SerializedMessage → Nat → RmwRet × SerializedMessage}
  {wantsInfo : Bool} {raw : RawTaken} {m : SerializedMessage} {bytes : List Byte}

/-- Bytes that were copied into a buffer with room for them are its first. -/
theorem bytesOf_copyIn {mem : List Byte} (there : m.buffer = some mem)
    (enough : bytes.length ≤ mem.length) (length : m.bufferLength = bytes.length) :
    bytesOf (copyIn bytes m) = some bytes := by
  have stored : poke mem 0 bytes = some (bytes ++ mem.drop bytes.length) := by
    simp [poke, enough]
  simp [bytesOf, copyIn, there, stored, length]

/-- Room that was made for some bytes is there. -/
theorem makeRoom_ok (documented : Resizes resize) (consistent : Consistent m) {size : Nat}
    (positive : 0 < size) (ok : (makeRoom resize size m).1 = .ok) :
    (makeRoom resize size m).2.bufferLength = size ∧
      ∃ mem, (makeRoom resize size m).2.buffer = some mem ∧ size ≤ mem.length := by
  have room := (consistent_makeRoom documented consistent size).1.mpr ok
  have length : (makeRoom resize size m).2.bufferLength = size := by
    unfold makeRoom at ok ⊢
    split at ok
    · rename_i small
      rw [if_pos small]
      cases resized : resize { m with bufferLength := size } size with
      | mk ret m' =>
        rw [resized] at ok
        obtain rfl : ret = .ok := ok
        exact (documented.succeeds _ _ _ resized).2.1.trans (min_self size)
    · rename_i large
      rw [if_neg large]
  obtain ⟨fits, capacity⟩ := room
  refine ⟨length, ?_⟩
  cases there : (makeRoom resize size m).2.buffer with
  | none =>
    rw [there] at capacity
    dsimp only at capacity
    omega
  | some mem =>
    rw [there] at capacity
    exact ⟨mem, rfl, by dsimp only at capacity; omega⟩

variable (guidOf wantsInfo) in
/-- **A take that has room for a sample takes its bytes.** -/
theorem takeSerialized_eq (documented : Resizes resize) (consistent : Consistent m)
    (brings : Brings raw bytes) (positive : 0 < bytes.length) :
    ((takeSerialized guidOf resize wantsInfo raw m).taken = true ↔
        (makeRoom resize bytes.length m).1 = .ok) ∧
      ((takeSerialized guidOf resize wantsInfo raw m).taken = true →
        bytesOf (takeSerialized guidOf resize wantsInfo raw m).serializedMessage = some bytes) := by
  obtain ⟨⟨dataValues, sampleInfos, sampleSizes⟩, ret, valid, message, size⟩ := brings
  simp only [takeSerialized, dataValues, sampleInfos, sampleSizes, ret, valid, message, size,
    Bool.not_true, Bool.false_eq_true, if_false, if_true, List.take_length]
  have made := makeRoom_ok documented consistent positive
  generalize makeRoom resize bytes.length m = room at made ⊢
  obtain ⟨rc, room⟩ := room
  cases rc with
  | ok =>
    obtain ⟨length, mem, there, enough⟩ := made rfl
    exact ⟨by simp, fun _ => bytesOf_copyIn there enough length⟩
  | _ =>
    simp [TookSerialized.nothing]

end Taking

/-! ## Every way -/

section Ways

variable {t : Target} {dds : DdsWriter} {lang : LanguageKind} {d : MessageMembers} {v : Value}

/-- Two languages send the same of a message, unless it has wide characters in arrays. -/
theorem messageLayout_cxx (o : ByteOrder) (typed : d.typed v = true)
    (alike : lang = .cxx ∨ d.wideFree v = true) :
    messageLayout lang o d v = messageLayout .cxx o d v := by
  rw [messageLayout, messageLayout]
  congr 1
  rcases alike with rfl | free
  · rfl
  · cases lang with
    | cxx => rfl
    | c => exact layout_eq_of_wideFree d v typed free

/-- **A message arrives**, however it was sent: its bytes are read as the message. -/
theorem Sends.arrives (writer : dds.Documented) (alike : lang = .cxx ∨ d.wideFree v = true)
    (rt : t.Succeeds) (readable : d.readable = true) (typed : d.typed v = true)
    (count : d.countable v = true) (bound : encodedSize lang t.order d v < 2 ^ 32)
    {bytes : List Byte} (sends : Sends dds lang t.order d v bytes) (before : Value) :
    (deserializeCdrToRos t d before bytes).ret = .ok true ∧
      (deserializeCdrToRos t d before bytes).target = some v := by
  have supported : d.supported = true :=
    d.all_mono (fun m h => (Bool.and_eq_true_iff.mp h).1) readable
  have writable := MessageMembers.writable_of_supported supported
    (MessageMembers.arraysCountable_of_countable count)
  have layout := messageLayout_cxx t.order typed alike
  have size : encodedSize lang t.order d v = encodedSize .cxx t.order d v := by
    rw [encodedSize, layout, encodedSize]
  obtain ⟨mem, length, rfl⟩ := sends.written_eq writer typed writable bound
  rw [size] at length bound
  rw [layout]
  have back := deserialize_written before rt readable typed count length (by omega)
  refine ⟨back.1, back.2.trans ?_⟩
  rw [decide_eq_false (not_not.mpr rfl), arrived_same d v typed]

/-- Bytes are taken as a message: by a subscription that takes messages, and, if there is room for
them, by one that takes bytes and has `rmw_deserialize` read them. -/
structure TakenAs (t : Target) (d : MessageMembers) (v : Value) (bytes : List Byte) : Prop where
  message : ∀ before, (deserializeDirect t d bytes before).ret = .ok true ∧
    (deserializeDirect t d bytes before).target = some v
  serialized : ∀ guidOf resize wantsInfo raw m, Resizes resize → Consistent m → Brings raw bytes →
    ((takeSerialized guidOf resize wantsInfo raw m).taken = true ↔
      (makeRoom resize bytes.length m).1 = .ok) ∧
    ((takeSerialized guidOf resize wantsInfo raw m).taken = true → ∃ content,
      bytesOf (takeSerialized guidOf resize wantsInfo raw m).serializedMessage = some content ∧
      ∀ before, (rmwDeserialize t (some d) content before).ret = .ok .ok ∧
        (rmwDeserialize t (some d) content before).target = some v)

/-- **Every way delivers.** DDS sends the encoding of a message, and `rmw_serialize` writes it
exactly if there is memory for it. Whichever of the two is published, it is taken as the message, in
the language it was sent in or in the other: a message that is sent in C has no wide characters in
arrays, whose C encoding is another (`alike`). -/
theorem every_way_delivers (t : Target) (dds : DdsWriter) (lang : LanguageKind)
    (d : MessageMembers) (v : Value) (writer : dds.Documented)
    (alike : lang = .cxx ∨ d.wideFree v = true) (rt : t.Succeeds)
    (readable : d.readable = true) (typed : d.typed v = true) (count : d.countable v = true)
    (bound : encodedSize lang t.order d v < 2 ^ 32) :
    (∃ bytes, directBytes dds lang t.order d v = some bytes) ∧
    (∀ (allocate : Nat → Option (List Byte)) (m : SerializedMessage),
      (∀ n mem, allocate n = some mem → mem.length = n) → Consistent m →
      ((rmwSerialize lang t.order allocate (some d) v m).ret = .ok .ok ↔
        (m.bufferCapacity < encodedSize lang t.order d v →
          (allocate (encodedSize lang t.order d v)).isSome = true))) ∧
    ∀ bytes, Sends dds lang t.order d v bytes → TakenAs t d v bytes := by
  have supported : d.supported = true :=
    d.all_mono (fun m h => (Bool.and_eq_true_iff.mp h).1) readable
  have writable := MessageMembers.writable_of_supported supported
    (MessageMembers.arraysCountable_of_countable count)
  have bound' : encodedSize lang t.order d v < 2 ^ 63 := by omega
  refine ⟨(directBytes_iff writer typed writable bound').1, ?_, ?_⟩
  · intro allocate m allocates consistent
    have room := consistent_reserve allocates consistent (encodedSize lang t.order d v)
    cases there : (m.reserve allocate (encodedSize lang t.order d v)).buffer with
    | none =>
      rw [rmwSerialize_none typed writable bound' there]
      refine iff_of_false (by simp) fun grants => ?_
      -- A message without a buffer has no room for the header.
      obtain ⟨fits, capacity⟩ := room.mpr grants
      rw [there] at capacity
      rw [reserve_length, show (m.reserve allocate _).bufferCapacity = 0 from capacity] at fits
      exact absurd encodedSize_pos (Nat.not_lt.mpr fits)
    | some mem =>
      have enough := reserve_backed (fun n mem given => (allocates n mem given).ge)
        (backed_of_consistent consistent) there
      refine iff_of_true (rmwSerialize_eq typed writable bound' there enough).1 fun small => ?_
      rw [SerializedMessage.reserve, if_pos small] at there
      exact Option.isSome_iff_exists.mpr ⟨mem, there⟩
  · intro bytes sends
    have arrives := sends.arrives writer alike rt readable typed count bound
    refine ⟨arrives, fun guidOf resize wantsInfo raw m documented consistent brings => ?_⟩
    have positive : 0 < bytes.length := by
      obtain ⟨mem, length, rfl⟩ := sends.written_eq writer typed writable bound
      rw [written_length _ _ _ (by rw [length]; exact Nat.le_add_right _ _), length]
      exact encodedSize_pos
    obtain ⟨taken, content⟩ := takeSerialized_eq guidOf wantsInfo documented consistent
      brings positive
    refine ⟨taken, fun took => ⟨bytes, content took, fun before => ?_⟩⟩
    obtain ⟨ret, target⟩ := arrives before
    simp only [rmwDeserialize, ret, target, Except.map, if_true, and_self]

theorem every_way_delivers_sample :
    (∃ bytes, directBytes zeroedWriter .cxx .little sampleMembers sampleMessage = some bytes) ∧
    (∀ (allocate : Nat → Option (List Byte)) (m : SerializedMessage),
      (∀ n mem, allocate n = some mem → mem.length = n) → Consistent m →
      ((rmwSerialize .cxx .little allocate (some sampleMembers) sampleMessage m).ret = .ok .ok ↔
        (m.bufferCapacity < encodedSize .cxx .little sampleMembers sampleMessage →
          (allocate (encodedSize .cxx .little sampleMembers sampleMessage)).isSome = true))) ∧
    ∀ bytes, Sends zeroedWriter .cxx .little sampleMembers sampleMessage bytes →
      TakenAs (cxxTarget .little) sampleMembers sampleMessage bytes :=
  every_way_delivers (cxxTarget .little) zeroedWriter .cxx sampleMembers sampleMessage
    zeroedWriter_documented (.inl rfl) (cxxTarget_succeeds .little) (by decide) (by decide)
    (by decide) (by decide +kernel)

end Ways

end Topics
