import RmwGurumdds.Cdr.Format
import RmwGurumdds.Cdr.Reading

/-!
# The entry points of the codec

`serialize_ros_to_cdr`, `get_serialized_size` and `deserialize_cdr_to_ros`: the checks on the
handles, the buffers, and which exceptions end here. A `std::runtime_error` becomes `false` and an
error message; nothing else is caught, and `get_serialized_size` catches nothing at all.

A result records what the function returns or throws, the error message it sets, and what a caller
or a reader of this development can see of the buffers afterwards.
-/

namespace Cdr

open Wire Exec

/-! ## Results -/

/-- What a serializing function leaves behind: `offset` is where the writer stood. -/
structure Serialized where
  ret : Except Exn Bool
  errorMsg : Option String
  ddsMessage : Option (List Byte)
  offset : Nat

/-- What `get_serialized_size` answers, a `ssize_t`. -/
structure Sized where
  ret : Except Exn Int
  errorMsg : Option String

/-- What a deserializing function leaves behind. A target that was only partly written is not
recorded. -/
structure Deserialized (α : Type) where
  ret : Except Exn Bool
  errorMsg : Option String
  target : Option α
  buffer : Option CdrDeserializationBuffer

/-- The same, where the target is looked at in another way. -/
def Deserialized.map {α β : Type} (d : Deserialized α) (f : α → β) : Deserialized β :=
  { d with target := d.target.map f }

/-- `catch (std::runtime_error & e)`: the result and the error message. -/
def caught (message : String) : Exn → Except Exn Bool × Option String
  | .runtimeError what => (.ok false, some (message ++ what))
  | e => (.error e, none)

/-- `static_cast<ssize_t>`. -/
def ssizeT (n : Nat) : Int := if n < 2 ^ 63 then n else (n : Int) - 2 ^ 64

/-! ## Functions -/

/-- The `try` block of a serializing function, around what it writes. -/
def trySerialize (o : ByteOrder) (ddsMessage : Option (List Byte)) (size : Nat)
    (body : Ser Unit) : Serialized :=
  match CdrSerializationBuffer.make true o ddsMessage size with
  | .error e =>
    let (ret, errorMsg) := caught "Failed to serialize ros message: " e
    { ret, errorMsg, ddsMessage, offset := 0 }
  | .ok b =>
    match body b with
    | .ok _ b' =>
      { ret := .ok true, errorMsg := none, ddsMessage := some b'.mem, offset := b'.offset }
    | .error e b' =>
      let (ret, errorMsg) := caught "Failed to serialize ros message: " e
      { ret, errorMsg, ddsMessage := some b'.mem, offset := b'.offset }

/-- `serialize_ros_to_cdr`. -/
def serializeRosToCdr (lang : LanguageKind) (o : ByteOrder) (members : MessageMembers)
    (rosMessage : Value) (ddsMessage : Option (List Byte)) (size : Nat) : Serialized :=
  match members with
  | .nullptr =>
    { ret := .ok false, errorMsg := some "Members handle is null", ddsMessage, offset := 0 }
  | .mk ns name ms =>
    trySerialize o ddsMessage size (Ser.serialize true lang o (.mk ns name ms) rosMessage true)

/-- `get_serialized_size`. -/
def getSerializedSize (lang : LanguageKind) (o : ByteOrder) (members : MessageMembers)
    (rosMessage : Option Value) : Sized :=
  match members, rosMessage with
  | .nullptr, _ => { ret := .ok (-1), errorMsg := some "Members handle is null" }
  | .mk .., none => { ret := .ok (-1), errorMsg := some "ros message is null" }
  | .mk ns name ms, some rosMessage =>
    match CdrSerializationBuffer.make false o none 0 with
    | .error e => { ret := .error e, errorMsg := none }
    | .ok b =>
      match Ser.serialize false lang o (.mk ns name ms) rosMessage true b with
      | .ok _ b' => { ret := .ok (ssizeT (sizeT (b'.offset + 4))), errorMsg := none }
      | .error e _ => { ret := .error e, errorMsg := none }

/-- The `try` block of a deserializing function, around what it reads. -/
def tryDeserialize {α : Type} (o : ByteOrder) (ddsMessage : List Byte) (body : Des α) :
    Deserialized α :=
  match CdrDeserializationBuffer.make o ddsMessage with
  | .error e =>
    let (ret, errorMsg) := caught "Failed to deserialize dds message: " e
    { ret, errorMsg, target := none, buffer := none }
  | .ok b =>
    match body b with
    | .ok a b' => { ret := .ok true, errorMsg := none, target := some a, buffer := some b' }
    | .error e b' =>
      let (ret, errorMsg) := caught "Failed to deserialize dds message: " e
      { ret, errorMsg, target := none, buffer := some b' }

/-- `deserialize_cdr_to_ros`. -/
def deserializeCdrToRos (t : Target) (members : MessageMembers) (rosMessage : Value)
    (ddsMessage : List Byte) : Deserialized Value :=
  match members with
  | .nullptr =>
    { ret := .ok false, errorMsg := some "Members handle is null", target := none, buffer := none }
  | .mk ns name ms =>
    tryDeserialize t.order ddsMessage (Des.deserialize t (.mk ns name ms) rosMessage)

/-! ## What they do -/

/-- The header a writer leaves. -/
def header (o : ByteOrder) : List Byte := [0, cdrSystemEndian o, 0, 0]

@[simp] theorem header_length (o : ByteOrder) : (header o).length = cdrHeaderSize := rfl

/-- The writing buffer starts behind the header. -/
theorem make_true (o : ByteOrder) {mem : List Byte} {n : Nat} (fits : n ≤ mem.length)
    (room : cdrHeaderSize ≤ n) :
    CdrSerializationBuffer.make true o (some mem) n =
      .ok {
        offset := 0, size := n - cdrHeaderSize, mem := header o ++ mem.drop cdrHeaderSize } := by
  match mem, fits with
  | a :: b :: c :: d :: rest, _ =>
    simp only [CdrSerializationBuffer.make, if_neg (Nat.not_lt.mpr room)]
    simp [poke, header, cdrHeaderSize, cdrHeaderEndianIdx]
  | [], fits => simp [cdrHeaderSize] at room fits; omega
  | [_], fits => simp [cdrHeaderSize] at room fits; omega
  | [_, _], fits => simp [cdrHeaderSize] at room fits; omega
  | [_, _, _], fits => simp [cdrHeaderSize] at room fits; omega

/-- A memory of which a writer has filled the first bytes. -/
def written (o : ByteOrder) (mem : List Byte) (cells : List Cell) : List Byte :=
  overlay (header o ++ mem.drop cdrHeaderSize) cdrHeaderSize cells

theorem header_drop_length (o : ByteOrder) {mem : List Byte} (h : cdrHeaderSize ≤ mem.length) :
    (header o ++ mem.drop cdrHeaderSize).length = mem.length := by
  rw [List.length_append, header_length, List.length_drop]
  omega

theorem header_drop (o : ByteOrder) (mem : List Byte) {n : Nat} (h : cdrHeaderSize ≤ n) :
    (header o ++ mem.drop cdrHeaderSize).drop n = mem.drop n := by
  rw [List.drop_append, header_length, List.drop_eq_nil_of_le h, List.nil_append, List.drop_drop,
    Nat.add_sub_cancel' h]

/-- **A writer succeeds exactly when the size it is given holds header and cells**, and touches
nothing past that size whether it succeeds or not. -/
theorem trySerialize_spec (o : ByteOrder) {mem : List Byte} {n : Nat} {body : Ser Unit} {f : Layout}
    (emits : Emits true body f) (fits : n ≤ mem.length) (small : n < 2 ^ 64)
    (bound : cdrHeaderSize + (f 0).length < 2 ^ 63) :
    if cdrHeaderSize + (f 0).length ≤ n then
      trySerialize o (some mem) n body =
        { ret := .ok true, errorMsg := none, ddsMessage := some (written o mem (f 0)),
          offset := (f 0).length }
    else
      (trySerialize o (some mem) n body).ret = .ok false ∧
        ∃ mem', (trySerialize o (some mem) n body).ddsMessage = some mem' ∧
          mem'.length = mem.length ∧ mem'.drop n = mem.drop n := by
  by_cases room : cdrHeaderSize ≤ n
  · have made := make_true o fits room
    have whole := header_drop_length o (room.trans fits)
    have run := emits
      { offset := 0, size := n - cdrHeaderSize, mem := header o ++ mem.drop cdrHeaderSize }
      ⟨Nat.zero_le _, by dsimp only; omega, fun _ => by dsimp only; omega, nofun⟩
      (by dsimp only; omega)
    dsimp only at run
    by_cases enough : cdrHeaderSize + (f 0).length ≤ n
    · rw [if_pos (by omega)] at run
      obtain ⟨_, ok⟩ := run
      rw [if_pos enough, trySerialize, made]
      simp only [ok, CdrSerializationBuffer.after, written, if_true, Nat.add_zero, Nat.zero_add]
    · rw [if_neg (by omega)] at run
      obtain ⟨b', fails, spared⟩ := run
      rw [if_neg enough, trySerialize, made]
      have rest := spared.rest_eq
      dsimp only at rest
      rw [Nat.add_sub_cancel' room, header_drop o mem room] at rest
      simp only [fails]
      exact ⟨rfl, b'.mem, rfl, spared.length_eq.trans whole, rest⟩
  · rw [if_neg (by omega)]
    have made : CdrSerializationBuffer.make true o (some mem) n =
        .error (.runtimeError "Insufficient buffer size") := by
      simp [CdrSerializationBuffer.make, Nat.not_le.mp room]
    rw [trySerialize, made]
    exact ⟨rfl, mem, rfl, rfl, rfl⟩

/-- The number of bytes a message takes on the wire. -/
def encodedSize (lang : LanguageKind) (o : ByteOrder) (d : MessageMembers) (v : Value) : Nat :=
  cdrHeaderSize + (messageLayout lang o d v 0).length

/-- The counting buffer measures the encoding. -/
theorem serialize_counts {lang : LanguageKind} {o : ByteOrder} {d : MessageMembers} {v : Value}
    (typed : d.typed v = true) (writable : d.writable v = true)
    (bound : encodedSize lang o d v < 2 ^ 63) :
    ∃ a c, Ser.serialize false lang o d v true { offset := 0, size := 2 ^ 64 - 1, mem := [] } =
      .ok a c ∧ sizeT (c.offset + 4) = encodedSize lang o d v := by
  unfold encodedSize at bound ⊢
  have emits := emits_serialize lang (S := false) (o := o) typed writable
  have run := emits { offset := 0, size := 2 ^ 64 - 1, mem := [] }
    ⟨Nat.zero_le _, by dsimp only; omega, nofun, fun _ => rfl⟩ (by dsimp only; omega)
  dsimp only at run
  rw [if_pos (by omega)] at run
  obtain ⟨a, ok⟩ := run
  refine ⟨a, _, ok, ?_⟩
  unfold cdrHeaderSize at bound ⊢
  simp only [CdrSerializationBuffer.after, Nat.zero_add]
  rw [sizeT_of_lt (by omega), Nat.add_comm]

/-- **The size that is announced is the size of the encoding.** -/
theorem getSerializedSize_spec {lang : LanguageKind} {o : ByteOrder} {d : MessageMembers}
    {v : Value} (typed : d.typed v = true) (writable : d.writable v = true)
    (bound : encodedSize lang o d v < 2 ^ 63) :
    getSerializedSize lang o d (some v) =
      { ret := .ok (encodedSize lang o d v), errorMsg := none } := by
  cases d with
  | nullptr => exact nomatch typed
  | mk ns name ms =>
    obtain ⟨a, c, counted, size⟩ := serialize_counts typed writable bound
    simp only [getSerializedSize, CdrSerializationBuffer.make, counted, size, ssizeT, if_pos bound]

/-- **Serializing a message succeeds exactly when the buffer holds its encoding.** -/
theorem serializeRosToCdr_spec {lang : LanguageKind} {o : ByteOrder} {d : MessageMembers}
    {v : Value} (mem : List Byte) {n : Nat} (typed : d.typed v = true)
    (writable : d.writable v = true)
    (bound : encodedSize lang o d v < 2 ^ 63) (fits : n ≤ mem.length) (small : n < 2 ^ 64) :
    if encodedSize lang o d v ≤ n then
      serializeRosToCdr lang o d v (some mem) n =
        { ret := .ok true, errorMsg := none,
          ddsMessage := some (written o mem (messageLayout lang o d v 0)),
          offset := (messageLayout lang o d v 0).length }
    else
      (serializeRosToCdr lang o d v (some mem) n).ret = .ok false ∧
        ∃ mem', (serializeRosToCdr lang o d v (some mem) n).ddsMessage = some mem' ∧
          mem'.length = mem.length ∧ mem'.drop n = mem.drop n := by
  cases d with
  | nullptr => exact nomatch typed
  | mk ns name ms =>
    exact trySerialize_spec o (emits_serialize lang typed writable) fits small bound

/-- What a writer filled is unchanged past the cells. -/
theorem written_drop (o : ByteOrder) {mem : List Byte} {cells : List Cell} {n : Nat}
    (h : cdrHeaderSize + cells.length ≤ n) : (written o mem cells).drop n = mem.drop n := by
  rw [written, overlay_drop _ _ _ _ h, header_drop o mem (by omega)]

theorem written_length (o : ByteOrder) (mem : List Byte) (cells : List Cell)
    (h : cdrHeaderSize ≤ mem.length) : (written o mem cells).length = mem.length := by
  rw [written, overlay_length, header_drop_length o h]

/-- **The size pass agrees with the write pass.** Whatever buffer size the caller names, the writer
succeeds exactly from the announced size on, ends where the announced size ends, and leaves the
memory past the named size alone. -/
theorem serialize_iff_size (lang : LanguageKind) (o : ByteOrder) (d : MessageMembers) (v : Value)
    (mem : List Byte) (n : Nat) (supported : d.supported = true) (typed : d.typed v = true)
    (count : d.arraysCountable v = true) (bound : encodedSize lang o d v < 2 ^ 63)
    (fits : n ≤ mem.length) (small : n < 2 ^ 64) :
    ∃ size : Nat, (getSerializedSize lang o d (some v)).ret = .ok size ∧
      let s := serializeRosToCdr lang o d v (some mem) n
      (s.ret = .ok true ∨ s.ret = .ok false) ∧ (s.ret = .ok true ↔ size ≤ n) ∧
        (s.ret = .ok true → s.offset + cdrHeaderSize = size) ∧
        ∃ mem', s.ddsMessage = some mem' ∧ mem'.length = mem.length ∧ mem'.drop n = mem.drop n := by
  have writable := MessageMembers.writable_of_supported supported count
  refine ⟨encodedSize lang o d v, ?_, ?_⟩
  · rw [getSerializedSize_spec typed writable bound]
  have spec := serializeRosToCdr_spec _ typed writable bound fits small
  by_cases enough : encodedSize lang o d v ≤ n
  · rw [if_pos enough] at spec
    have header : cdrHeaderSize ≤ n := Nat.le_trans (Nat.le_add_right _ _) enough
    simp only [spec, iff_true_left, true_implies]
    exact ⟨.inl trivial, enough, Nat.add_comm _ _, _, rfl, written_length o _ _ (header.trans fits),
      written_drop o enough⟩
  · rw [if_neg enough] at spec
    obtain ⟨fails, spared⟩ := spec
    simp only [fails]
    exact ⟨.inr trivial, iff_of_false nofun enough, nofun, spared⟩

/-- A message type with a member of most kinds and shapes. -/
def sampleMembers : MessageMembers :=
  .mk "pkg__msg" "Sample"
    [ .mk "flag" .boolean false 0 false .nullptr,
      .mk "name" .string false 0 false .nullptr,
      .mk "weights" .double true 4 true .nullptr,
      .mk "parts" .message true 2 false
        (.mk "pkg__msg" "Part"
          [.mk "id" .uint16 false 0 false .nullptr, .mk "label" .wstring true 0 false .nullptr]) ]

/-- A message of that type. -/
def sampleMessage : Value :=
  .message
    [ .boolean true,
      .string [0x61, 0x00, 0x62],
      .array [.prim .uint64 0x3ff0000000000000, .prim .uint64 7],
      .array
        [ .message [.prim .uint16 0x1234, .array [.wstring [0x00e9], .wstring []]],
          .message [.prim .uint16 1, .array []] ] ]

theorem serialize_iff_size_sample :
    ∃ size : Nat, (getSerializedSize .c .big sampleMembers (some sampleMessage)).ret = .ok size ∧
      let s := serializeRosToCdr .c .big sampleMembers sampleMessage
        (some (List.replicate 100 0xff)) 90
      (s.ret = .ok true ∨ s.ret = .ok false) ∧ (s.ret = .ok true ↔ size ≤ 90) ∧
        (s.ret = .ok true → s.offset + cdrHeaderSize = size) ∧
        ∃ mem', s.ddsMessage = some mem' ∧ mem'.length = (List.replicate 100 (0xff : Byte)).length ∧
          mem'.drop 90 = (List.replicate 100 0xff).drop 90 :=
  serialize_iff_size .c .big sampleMembers sampleMessage (List.replicate 100 0xff) 90
    (by decide) (by decide) (by decide) (by decide +kernel) (by decide) (by decide)

/-- A runtime that has the memory it is asked for. The vector of a bounded sequence throws beyond
its bound, except that of truth values, which is resized as a plain `std::vector<bool>`. -/
def roomyRuntime : Runtime where
  sequenceInit _ := true
  stringAssignn _ := true
  wstringResize _ := true
  vectorResize m n := if m.kind = .boolean ∨ m.bounds n = true then none else some .lengthError

/-- A decoder for C++ messages on a host of this byte order. -/
def cxxTarget (o : ByteOrder) : Target where
  lang := .cxx
  order := o
  runtime := roomyRuntime
  fresh := fun _ => default

/-- A decoder for C messages on a host of this byte order. -/
def cTarget (o : ByteOrder) : Target where
  lang := .c
  order := o
  runtime := roomyRuntime
  fresh := fun _ => default

theorem roomyRuntime_succeeds : roomyRuntime.Succeeds :=
  ⟨fun _ => rfl, fun _ => rfl, fun _ => rfl⟩

/-- What a parser answers on the bytes behind a header. -/
def payload {α : Type} (p : Parser α) (bytes : List Byte) : Option α :=
  if bytes.length < cdrHeaderSize then none else (p (bytes.drop cdrHeaderSize) 0).map Prod.fst

/-- The bytes are in the other byte order, as their header says. -/
def swapped (o : ByteOrder) (bytes : List Byte) : Bool :=
  bytes[cdrHeaderEndianIdx]? != some (cdrSystemEndian o)

/-- The buffer a reader starts with. -/
def CdrDeserializationBuffer.start (o : ByteOrder) (bytes : List Byte) :
    CdrDeserializationBuffer where
  offset := 0
  size := bytes.length - cdrHeaderSize
  buf := bytes.drop cdrHeaderSize
  swap := swapped o bytes
  log := []

theorem start_valid (o : ByteOrder) {bytes : List Byte} (bound : bytes.length < 2 ^ 63) :
    (CdrDeserializationBuffer.start o bytes).Valid where
  inside := Nat.zero_le _
  backed := List.length_drop.symm
  bounded := (Nat.sub_le _ _).trans_lt bound
  sound := fun _ h => absurd h List.not_mem_nil

/-- Bytes that are not a header are not read. -/
theorem tryDeserialize_short {α : Type} {o : ByteOrder} {bytes : List Byte} {body : Des α}
    (short : bytes.length < cdrHeaderSize) :
    tryDeserialize o bytes body =
      { ret := .ok false,
        errorMsg := some ("Failed to deserialize dds message: " ++ "Insufficient buffer size"),
        target := none, buffer := none } := by
  rw [tryDeserialize, CdrDeserializationBuffer.make, if_pos short]
  rfl

/-- A reader that returns is successful. -/
theorem tryDeserialize_ok {α : Type} {o : ByteOrder} {bytes : List Byte} {body : Des α} {a : α}
    {b : CdrDeserializationBuffer} (header : ¬ bytes.length < cdrHeaderSize)
    (run : body (.start o bytes) = .ok a b) :
    tryDeserialize o bytes body =
      { ret := .ok true, errorMsg := none, target := some a, buffer := some b } := by
  unfold CdrDeserializationBuffer.start swapped at run
  rw [tryDeserialize, CdrDeserializationBuffer.make, if_neg header]
  dsimp only
  rw [run]

/-- A reader that raises is not. -/
theorem tryDeserialize_error {α : Type} {o : ByteOrder} {bytes : List Byte} {body : Des α} {e : Exn}
    {b : CdrDeserializationBuffer} (header : ¬ bytes.length < cdrHeaderSize)
    (run : body (.start o bytes) = .error e b) :
    tryDeserialize o bytes body =
      { ret := (caught "Failed to deserialize dds message: " e).1,
        errorMsg := (caught "Failed to deserialize dds message: " e).2,
        target := none, buffer := some b } := by
  unfold CdrDeserializationBuffer.start swapped at run
  rw [tryDeserialize, CdrDeserializationBuffer.make, if_neg header]
  dsimp only
  rw [run]

/-- **A reader returns what its parser answers behind the header**, and `false` if it has no
answer. -/
theorem tryDeserialize_spec {α : Type} {o : ByteOrder} {bytes : List Byte} {body : Des α}
    {p : Parser α} (reads : ReadsAt body p (.start o bytes)) :
    (tryDeserialize o bytes body).ret = .ok (payload p bytes).isSome ∧
      (tryDeserialize o bytes body).target = payload p bytes := by
  unfold payload
  by_cases short : bytes.length < cdrHeaderSize
  · rw [tryDeserialize_short short, if_pos short]
    exact ⟨rfl, rfl⟩
  · unfold ReadsAt at reads
    rw [if_neg short]
    cases parsed : p (bytes.drop cdrHeaderSize) 0 with
    | none =>
      have fails : p (CdrDeserializationBuffer.start o bytes).buf
          (CdrDeserializationBuffer.start o bytes).offset = none := parsed
      rw [fails] at reads
      obtain ⟨what, b', raised, -⟩ := reads
      rw [tryDeserialize_error short raised]
      exact ⟨rfl, rfl⟩
    | some r =>
      have answers : p (CdrDeserializationBuffer.start o bytes).buf
          (CdrDeserializationBuffer.start o bytes).offset = some r := parsed
      rw [answers] at reads
      obtain ⟨b', returned, -⟩ := reads
      rw [tryDeserialize_ok short returned]
      exact ⟨rfl, rfl⟩

theorem caught_ne_true (message : String) (e : Exn) : (caught message e).1 ≠ .ok true := by
  unfold caught
  split <;> exact nofun

/-- Only what a container threw is left of it. -/
theorem caught_container {message : String} {e : Exn} {c : ContainerError}
    (throws : (caught message e).1 = .error (.container c)) : e = .container c := by
  unfold caught at throws
  split at throws
  · cases throws
  · exact Except.error.inj throws

theorem deserializeCdrToRos_eq (t : Target) {d : MessageMembers} (there : d ≠ .nullptr)
    (output : Value) (bytes : List Byte) :
    deserializeCdrToRos t d output bytes =
      tryDeserialize t.order bytes (Des.deserialize t d output) := by
  cases d with
  | nullptr => exact absurd rfl there
  | mk ns name ms => rfl

/-- A decoder that returned true ran its walk from the start of the payload. -/
theorem deserializeCdrToRos_true {t : Target} {d : MessageMembers} {output : Value}
    {bytes : List Byte} (whole : (deserializeCdrToRos t d output bytes).ret = .ok true) :
    d ≠ .nullptr ∧ cdrHeaderSize ≤ bytes.length ∧ ∃ v b,
      Des.deserialize t d output (.start t.order bytes) = .ok v b ∧
      deserializeCdrToRos t d output bytes =
        { ret := .ok true, errorMsg := none, target := some v, buffer := some b } := by
  by_cases there : d = .nullptr
  · rw [there] at whole
    cases whole
  · rw [deserializeCdrToRos_eq t there] at whole ⊢
    by_cases short : bytes.length < cdrHeaderSize
    · rw [tryDeserialize_short short] at whole
      cases whole
    · cases run : Des.deserialize t d output (.start t.order bytes) with
      | ok v b => exact ⟨there, Nat.le_of_not_lt short, v, b, rfl, tryDeserialize_ok short run⟩
      | error e b =>
        rw [tryDeserialize_error short run] at whole
        exact absurd whole (caught_ne_true _ _)

end Cdr
