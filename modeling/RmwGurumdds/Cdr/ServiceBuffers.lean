import RmwGurumdds.Cdr.TypeSupportService
import RmwGurumdds.Exec.Lockstep

/-!
# Buffers for the basic service mapping

`allocate_message` counts the bytes of a message and allocates as many; `serialize_service_basic`
then writes the envelope and the message into them. Nothing was counted for the envelope.

The two walks go through the same message from different positions: the counting one from the
start, the writing one from behind an envelope of 28 or 29 bytes. `Trails` says that the counter
lags behind the writer by at least 24 bytes, which is a multiple of every alignment, so that the lag
survives each gap (`padding_trails`) as it survives each byte. The writer would have to end past the
memory that the counter measured, and every such store is refused (`serviceBasic_insufficient`).
-/

namespace Cdr

open Wire Exec Rmw

/-! ## Functions -/

/-- `malloc`: memory of the size that was asked for, or null. No object is larger than
`PTRDIFF_MAX`. -/
structure Malloc where
  alloc : Nat → Option (List Byte)
  length_eq : ∀ {n mem}, alloc n = some mem → mem.length = n
  bounded : ∀ {n mem}, alloc n = some mem → n < 2 ^ 63

/-- `ServiceMembers`, the description of a service: one message type for each direction. -/
inductive ServiceMembers where
  | nullptr
  | mk (requestMembers responseMembers : MessageMembers)

/-- The description of the messages that go one way. -/
def ServiceMembers.direction (request response : MessageMembers) (isRequest : Bool) :
    MessageMembers :=
  if isRequest then request else response

/-- What a function that allocates leaves behind. -/
structure Allocated where
  ret : Except Exn (Option (List Byte))
  size : Option Nat
  errorMsg : Option String

/-- `allocate_message`. `size` is what the pointer of that name points to, or nothing where it is
null. -/
def allocateMessage (malloc : Malloc) (lang : LanguageKind) (o : ByteOrder)
    (members : MessageMembers) (rosMessage : Option Value) (size : Option Nat) : Allocated :=
  match members, rosMessage, size with
  | .nullptr, _, _ => { ret := .ok none, size, errorMsg := some "Members handle is null" }
  | .mk .., none, _ => { ret := .ok none, size, errorMsg := some "ros message is null" }
  | .mk .., some _, none => { ret := .ok none, size, errorMsg := some "size pointer is null" }
  | .mk ns name ms, some rosMessage, some _ =>
    match CdrSerializationBuffer.make false o none 0 with
    | .error e => { ret := .error e, size, errorMsg := none }
    | .ok b =>
      match Ser.serialize false lang o (.mk ns name ms) rosMessage true b with
      | .error e _ => { ret := .error e, size, errorMsg := none }
      | .ok _ b' =>
        let size := sizeT (b'.offset + 4)
        match malloc.alloc size with
        | none => {
            ret := .ok none, size := some size
            errorMsg := some "Failed to allocate memory for dds message" }
        | some message => { ret := .ok (some message), size := some size, errorMsg := none }

section Entry

variable (malloc : Malloc) (lang : LanguageKind) (o : ByteOrder)

/-- `allocate_request_basic` and `allocate_response_basic`. -/
def allocateServiceBasic (isRequest : Bool) (members : ServiceMembers) (rosMessage : Option Value)
    (size : Option Nat) : Allocated :=
  match members with
  | .nullptr => { ret := .ok none, size, errorMsg := some "Members handle is null" }
  | .mk request response =>
    allocateMessage malloc lang o (ServiceMembers.direction request response isRequest) rosMessage
      size

/-- `allocate_request_basic`. -/
def allocateRequestBasic : ServiceMembers → Option Value → Option Nat → Allocated :=
  allocateServiceBasic malloc lang o true

/-- `allocate_response_basic`. -/
def allocateResponseBasic : ServiceMembers → Option Value → Option Nat → Allocated :=
  allocateServiceBasic malloc lang o false

/-- `serialize_request_basic` and `serialize_response_basic`. -/
def serializeDirectionBasic (isRequest : Bool) (members : ServiceMembers) (rosMessage : Value)
    (ddsMessage : Option (List Byte)) (size : Nat) (sequenceNumber : BitVec 64)
    (clientGuid : Gid) : Serialized :=
  match members with
  | .nullptr =>
    { ret := .ok false, errorMsg := some "Members handle is null", ddsMessage, offset := 0 }
  | .mk request response =>
    serializeServiceBasic lang o (ServiceMembers.direction request response isRequest) rosMessage
      ddsMessage size sequenceNumber clientGuid isRequest

/-- `serialize_request_basic`. -/
def serializeRequestBasic : ServiceMembers → Value → Option (List Byte) → Nat → BitVec 64 → Gid →
    Serialized :=
  serializeDirectionBasic lang o true

/-- `serialize_response_basic`. -/
def serializeResponseBasic : ServiceMembers → Value → Option (List Byte) → Nat → BitVec 64 → Gid →
    Serialized :=
  serializeDirectionBasic lang o false

end Entry

/-! ## The counter behind the writer -/

/-- The distance the counter keeps: a multiple of every alignment, and no more than an envelope. -/
def lead : Nat := 24

/-- The counting buffer `c` stands at least `lead` bytes behind the writing buffer `b`, which has
`n` bytes of memory, header included. -/
structure Trails (n : Nat) (c b : CdrSerializationBuffer) : Prop where
  unbounded : c.size = 2 ^ 64 - 1
  behind : c.offset + lead ≤ b.offset
  inside : b.offset ≤ b.size
  backed : cdrHeaderSize + b.size ≤ n
  length_eq : b.mem.length = n
  small : n < 2 ^ 63

/-- A position that lags by `lead` still does when both are aligned. -/
theorem padding_trails (w : Word) {i j : Nat} (h : i + lead ≤ j) :
    i + padding w.bytes i + lead ≤ j + padding w.bytes j := by
  have mine := padding_aligns w.bytes_pos i
  have other := padding_aligns w.bytes_pos j
  have gap := padding_lt w.bytes_pos i
  unfold lead at h ⊢
  generalize padding w.bytes i = p at *
  generalize padding w.bytes j = q at *
  cases w <;> simp only [Word.bytes] at * <;> omega

section Walk

variable {n : Nat} {c b b' : CdrSerializationBuffer} {lang : LanguageKind} {o : ByteOrder}

/-- A move that the writer has room for is one the counter makes. -/
theorem Trails.advance (trails : Trails n c b) {i j : Nat} {mem : List Byte}
    (behind : c.offset + i + lead ≤ b.offset + j) (fits : b.offset + j ≤ b.size)
    (length_eq : mem.length = n) :
    Trails n { c with toCdrBuffer := c.toCdrBuffer.advance i }
      { b with toCdrBuffer := b.toCdrBuffer.advance j, mem } := by
  have backed := trails.backed
  have small := trails.small
  have mine : sizeT (c.offset + i) = c.offset + i := sizeT_of_lt (by unfold lead at behind; omega)
  have other : sizeT (b.offset + j) = b.offset + j := sizeT_of_lt (by omega)
  refine ⟨trails.unbounded, ?_, ?_, backed, length_eq, small⟩
  · simp only [CdrBuffer.advance, mine, other]
    exact behind
  · simp only [CdrBuffer.advance, other]
    exact fits

theorem follows_roundup (w : Word) :
    Follows (Trails n) (Ser.roundup w.bytes) (Ser.roundup w.bytes) := by
  rintro c b trails ⟨⟩ b' run
  have ⟨unbounded, behind, inside, backed, length_eq, small⟩ := trails
  have own := padding_lt w.bytes_pos c.offset
  have gap := padding_lt w.bytes_pos b.offset
  have width := w.bytes_le
  have aligned := padding_trails w behind
  rw [Ser.roundup, bind_ok (get_run b), CdrBuffer.roundup_count (by omega),
    CdrBuffer.exceeds_eq (by omega)] at run
  by_cases full : b.size < b.offset + padding w.bytes b.offset
  · rw [if_pos (decide_eq_true full)] at run
    cases run
  · rw [if_neg (by rwa [decide_eq_true_eq])] at run
    obtain ⟨⟩ := run
    refine ⟨_, ?_, trails.advance aligned (Nat.not_lt.mp full) length_eq⟩
    rw [Ser.roundup, bind_ok (get_run c), CdrBuffer.roundup_count (by unfold lead at behind; omega),
      CdrBuffer.exceeds_eq (by unfold lead at behind; omega), unbounded,
      if_neg (by rw [decide_eq_true_eq]; unfold lead at behind; omega)]
    rfl

/-- A store that succeeds keeps the size of the memory and stays inside it. -/
theorem store_ok {bs : List Byte} (run : Ser.store bs b = .ok () b') :
    cdrHeaderSize + b.offset + bs.length ≤ b.mem.length ∧
      b' = { b with mem := b'.mem } ∧ b'.mem.length = b.mem.length := by
  rw [Ser.store, bind_ok (get_run b)] at run
  by_cases inside : cdrHeaderSize + b.offset + bs.length ≤ b.mem.length
  · rw [poke_eq inside] at run
    obtain ⟨⟩ := run
    exact ⟨inside, rfl, overlay_length _ _ _⟩
  · rw [poke, if_neg inside] at run
    cases run

theorem follows_put {cnt : Nat} {bs : List Byte} (covers : cnt ≤ bs.length) :
    Follows (Trails n) (Ser.put false cnt bs) (Ser.put true cnt bs) := by
  rintro c b trails ⟨⟩ b' run
  have ⟨unbounded, behind, inside, backed, length_eq, small⟩ := trails
  obtain ⟨⟨⟩, b₁, passes, run⟩ := bind_eq_ok.mp run
  obtain ⟨⟨⟩, b₂, stores, moves⟩ := bind_eq_ok.mp run
  rw [Ser.check, bind_ok (get_run b)] at passes
  split at passes
  · cases passes
  · rename_i fits
    obtain ⟨⟩ := passes
    obtain ⟨room, same, length⟩ := store_ok stores
    rw [CdrBuffer.exceeds_eq (by omega), decide_eq_true_eq] at fits
    rw [same] at moves
    obtain ⟨⟩ := moves
    exact ⟨_, rfl, trails.advance (by omega) (Nat.not_lt.mp fits) (length.trans length_eq)⟩

theorem follows_word (w : Word) (x : BitVec w.bits) :
    Follows (Trails n) (Ser.word false o w x) (Ser.word true o w x) :=
  (follows_roundup w).bind fun _ => follows_put (o.store_length w x).ge

theorem follows_count (k : Nat) :
    Follows (Trails n) (Ser.count false o k) (Ser.count true o k) :=
  follows_word .uint32 _

theorem follows_string (s : List Byte) :
    Follows (Trails n) (Ser.string false o s) (Ser.string true o s) := by
  refine (follows_count _).bind fun _ => (follows_roundup .uint8).bind fun _ => follows_put ?_
  rw [List.length_append, List.length_singleton]

theorem follows_u16string (s : List Char16) :
    Follows (Trails n) (Ser.u16string false o s) (Ser.u16string true o s) := by
  refine (follows_count _).bind fun _ => (follows_roundup .uint16).bind fun _ => follows_put ?_
  rw [o.flatMap_store_length]
  exact Nat.mod_le _ _

theorem follows_copyArr {w : Word} {arr : List (BitVec w.bits)} {cnt : Nat}
    (covers : cnt ≤ arr.length) :
    Follows (Trails n) (Ser.copyArr false o w arr cnt) (Ser.copyArr true o w arr cnt) := by
  refine Follows.ite (fun _ => .pure ()) fun _ => (follows_roundup w).bind fun _ => follows_put ?_
  rw [o.flatMap_store_length, List.length_take, Nat.min_eq_left covers]
  exact Nat.mod_le _ _

theorem follows_for32 {bound : Nat} {body body' : Nat → Ser Unit}
    (h : ∀ i < bound, Follows (Trails n) (body i) (body' i)) :
    Follows (Trails n) (Ser.for32 bound body) (Ser.for32 bound body') := by
  rintro c b trails ⟨⟩ b' run
  rw [Ser.for32, bind_ok (get_run b)] at run
  rw [Ser.for32, bind_ok (get_run c)]
  exact ((Follows.counted h).bind fun _ => .pure ()) c b trails () b' run

/-! ### Members -/

theorem follows_countSequence (member : MessageMember) (size : Nat) :
    Follows (Trails n) (Ser.countSequence false o member size)
      (Ser.countSequence true o member size) :=
  Follows.ite (fun _ => follows_count size) fun _ => .pure ()

/-- A well-typed array has as many elements as the serializer asks for. -/
theorem sizeFunction_le {m : MessageMember} {es : List Value}
    (length : m.lengthTyped es.length = true) :
    uint32T (m.sizeFunction (.array es)) ≤ es.length := by
  refine (Nat.mod_le _ _).trans ?_
  unfold MessageMember.sizeFunction
  split
  · exact Nat.le_refl _
  · rename_i fixed
    exact (m.lengthTyped_fixed (Bool.eq_false_iff.mpr fixed) length).ge

theorem follows_boolean (m : MessageMember) (v : Value) :
    Follows (Trails n) (Ser.serializeBoolean false lang o m v)
      (Ser.serializeBoolean true lang o m v) := by
  refine Follows.ite (fun _ => ?_) fun _ => follows_word .uint8 _
  cases lang with
  | c =>
    refine Follows.ite (fun _ => ?_) fun _ => follows_for32 fun _ _ => follows_word .uint8 _
    exact (follows_count _).bind fun _ => follows_for32 fun _ _ => follows_word .uint8 _
  | cxx =>
    refine Follows.ite (fun _ => ?_) fun _ => follows_for32 fun _ _ => follows_word .uint8 _
    refine (follows_count _).bind fun _ => Follows.bind ?_ fun _ => .pure ()
    exact Follows.loop _ 0 fun _ _ => follows_word .uint8 _

theorem follows_wchar (m : MessageMember) (v : Value) :
    Follows (Trails n) (Ser.serializeWchar false lang o m v)
      (Ser.serializeWchar true lang o m v) := by
  refine Follows.ite (fun _ => ?_) fun _ => follows_word .uint16 _
  cases lang with
  | c =>
    refine Follows.ite (fun _ => ?_) fun _ => .pure ()
    exact (follows_count _).bind fun _ => follows_for32 fun _ _ => follows_word .uint32 _
  | cxx =>
    exact (follows_countSequence m _).bind fun _ => follows_for32 fun _ _ => follows_word .uint16 _

theorem follows_elements {write write' : Value → Ser Unit}
    (h : ∀ v, Follows (Trails n) (write v) (write' v)) (m : MessageMember) (v : Value) :
    Follows (Trails n) (Ser.serializeElements false lang o write m v)
      (Ser.serializeElements true lang o write' m v) := by
  cases lang with
  | c =>
    refine Follows.ite (fun _ => Follows.ite (fun _ => ?_) fun _ => ?_) fun _ => h v
    · exact (follows_count _).bind fun _ => follows_for32 fun _ _ => h _
    · exact follows_for32 fun _ _ => h _
  | cxx =>
    refine Follows.ite (fun _ => ?_) fun _ => h v
    exact (follows_countSequence m _).bind fun _ => follows_for32 fun _ _ => h _

theorem follows_primitive {w : Word} {m : MessageMember} {v : Value} (typed : m.typed v = true) :
    Follows (Trails n) (Ser.serializePrimitive false lang o w m v)
      (Ser.serializePrimitive true lang o w m v) := by
  refine Follows.ite (fun isArray => ?_) fun _ => follows_word w _
  obtain ⟨es, rfl, length, -⟩ := MessageMember.typed_array isArray typed
  have elements : (es.map (Value.toWord w)).length = es.length := List.length_map _
  cases lang with
  | c =>
    refine Follows.ite (fun _ => ?_) fun fixed => follows_copyArr ?_
    · exact (follows_count _).bind fun _ => follows_copyArr elements.ge
    · rw [← m.lengthTyped_fixed (Bool.eq_false_iff.mpr fixed) length]
      exact elements.ge
  | cxx =>
    refine (follows_countSequence m _).bind fun _ => follows_copyArr ?_
    exact (sizeFunction_le length).trans elements.ge

theorem follows_structArr {nested nested' : Value → Ser Unit} {m : MessageMember} {v : Value}
    (typed : m.typed v = true) (message : m.kind = .message)
    (h : ∀ e, m.members.typed e = true → Follows (Trails n) (nested e) (nested' e)) :
    Follows (Trails n) (Ser.serializeStructArr false o nested m v)
      (Ser.serializeStructArr true o nested' m v) := by
  refine Follows.ite (fun isArray => ?_) fun scalar => h v ?_
  · obtain ⟨es, rfl, length, each⟩ := MessageMember.typed_array isArray typed
    refine (follows_countSequence m _).bind fun _ => follows_for32 fun i lt => h _ ?_
    have inside := Nat.lt_of_lt_of_le lt (sizeFunction_le length)
    rw [getConst, Value.elems, List.getElem?_eq_getElem inside]
    exact m.typed_nested message (each es[i] (List.getElem_mem inside))
  · rw [MessageMember.typed_scalar (Bool.eq_false_iff.mpr scalar)] at typed
    exact m.typed_nested message typed

/-- **The counter keeps up with the writer through every well-typed message**, whatever kinds its
members are of. -/
theorem follows_serializeMembers (d : MessageMembers) : ∀ v, d.typed v = true →
    Follows (Trails n) (Ser.serializeMembers false lang o d v)
      (Ser.serializeMembers true lang o d v) := by
  refine d.typed_induct
    (P := fun d v => Follows (Trails n) (Ser.serializeMembers false lang o d v)
      (Ser.serializeMembers true lang o d v))
    (Q := fun m v => Follows (Trails n)
      (Ser.serializeMember false lang o (Ser.serializeMembers false lang o m.members) m v)
      (Ser.serializeMember true lang o (Ser.serializeMembers true lang o m.members) m v))
    (R := fun ms vs => Follows (Trails n) (Ser.serializeFields false lang o ms vs)
      (Ser.serializeFields true lang o ms vs)) (fun _ _ _ _ fields => fields) (.pure ())
    (fun m ms v vs first rest => ?_) ?_
  · cases m
    exact first.bind fun _ => rest
  · intro m v typed nested
    unfold Ser.serializeMember
    split
    · exact follows_boolean m v
    · exact follows_primitive typed
    · exact follows_wchar m v
    · exact follows_elements (fun e => follows_string e.toStr) m v
    · exact follows_elements (fun e => follows_u16string e.toU16Str) m v
    · rename_i message
      exact follows_structArr typed message nested
    · exact .throw _

theorem follows_serialize {d : MessageMembers} {v : Value} (typed : d.typed v = true) :
    Follows (Trails n) (Ser.serialize false lang o d v true)
      (Ser.serialize true lang o d v true) :=
  (follows_serializeMembers d v typed).bind fun _ => follows_roundup .uint32

end Walk

/-! ## What was not counted -/

/-- What `serialize_service_basic` writes in front of the message. -/
def Ser.envelope (o : ByteOrder) (sequenceNumber : BitVec 64) (clientGuid : Gid)
    (isRequest : Bool) : Ser Unit := do
  word true o .uint64 (o.load .uint64 (clientGuid.toList.take 8))
  word true o .uint64 (o.load .uint64 (clientGuid.toList.drop 8))
  word true o .uint32 (snHigh sequenceNumber)
  word true o .uint32 (snLow sequenceNumber)
  if isRequest then string true o [] else word true o .uint32 0

section Envelope

variable {lang : LanguageKind} {o : ByteOrder} {sequenceNumber : BitVec 64} {clientGuid : Gid}
  {isRequest : Bool}

theorem serviceBasic_eq (d : MessageMembers) (v : Value) :
    Ser.serviceBasic lang o d v sequenceNumber clientGuid isRequest =
      Ser.envelope o sequenceNumber clientGuid isRequest >>= fun _ =>
        Ser.serialize true lang o d v true := by
  unfold Ser.serviceBasic Ser.envelope
  cases isRequest <;> simp only [bind_assoc] <;> rfl

theorem emits_envelope :
    Emits true (Ser.envelope o sequenceNumber clientGuid isRequest)
      (serviceLayout o sequenceNumber clientGuid isRequest Layout.empty) := by
  refine (emits_word o .uint64 _).bind fun _ => (emits_word o .uint64 _).bind fun _ =>
    (emits_word o .uint32 _).bind fun _ => (emits_word o .uint32 _).bind fun _ => ?_
  rw [append_empty]
  unfold trailerLayout
  cases isRequest with
  | true => exact emits_string o []
  | false => exact emits_word o .uint32 0

/-- An envelope takes 28 bytes in front of a response and 29 in front of a request. -/
theorem envelope_length :
    (serviceLayout o sequenceNumber clientGuid isRequest Layout.empty 0).length =
      if isRequest then 29 else 28 := by
  have high (off : Nat) : (Layout.word o .uint32 (snHigh sequenceNumber) off).length =
      padding 4 off + 4 := word_length o .uint32 _ off
  have low (off : Nat) : (Layout.word o .uint32 (snLow sequenceNumber) off).length =
      padding 4 off + 4 := word_length o .uint32 _ off
  unfold serviceLayout trailerLayout
  cases isRequest <;> simp [append_length, word_length, high, low, padding, Word.bytes]

/-- A counter at the start trails a writer that has written an envelope. -/
theorem trails_envelope {n : Nat} {mem : List Byte} {b : CdrSerializationBuffer}
    (length_eq : mem.length = n) (small : n < 2 ^ 63) (room : cdrHeaderSize ≤ n)
    (run : Ser.envelope o sequenceNumber clientGuid isRequest
      { offset := 0, size := n - cdrHeaderSize, mem } = .ok () b) :
    Trails n { offset := 0, size := 2 ^ 64 - 1, mem := [] } b := by
  have emits := @emits_envelope o sequenceNumber clientGuid isRequest
    { offset := 0, size := n - cdrHeaderSize, mem }
    ⟨Nat.zero_le _, by dsimp only; omega, fun _ => by dsimp only; omega, nofun⟩
    (by dsimp only; rw [envelope_length]; split <;> omega)
  dsimp only at emits
  split at emits
  · rename_i fits
    obtain ⟨⟨⟩, writes⟩ := emits
    rw [run] at writes
    obtain ⟨⟩ := writes
    have length := @envelope_length o sequenceNumber clientGuid isRequest
    refine ⟨rfl, ?_, fits, by dsimp only [CdrSerializationBuffer.after]; omega, ?_, small⟩
    · simp only [CdrSerializationBuffer.after, length, lead]
      split <;> omega
    · simp only [CdrSerializationBuffer.after, if_true, overlay_length, length_eq]
  · obtain ⟨b', fails, -⟩ := emits
    rw [run] at fails
    cases fails

/-- **A buffer that was measured without the envelope never holds message and envelope.** -/
theorem serviceBasic_insufficient {d : MessageMembers} {v : Value} {mem : List Byte}
    {c : CdrSerializationBuffer} (typed : d.typed v = true)
    (counted : Ser.serialize false lang o d v true
      { offset := 0, size := 2 ^ 64 - 1, mem := [] } = .ok () c)
    (length_eq : mem.length = sizeT (c.offset + 4)) (small : mem.length < 2 ^ 63) :
    (serializeServiceBasic lang o d v (some mem) mem.length sequenceNumber clientGuid
      isRequest).ret ≠ .ok true := by
  intro succeeds
  cases d with
  | nullptr => cases typed
  | mk ns name ms =>
    rw [serializeServiceBasic, trySerialize] at succeeds
    split at succeeds
    · exact caught_ne_true _ _ succeeds
    · rename_i made
      by_cases room : cdrHeaderSize ≤ mem.length
      · rw [make_true o (Nat.le_refl _) room] at made
        obtain ⟨⟩ := made
        split at succeeds
        · rename_i b' run
          rw [serviceBasic_eq] at run
          obtain ⟨⟨⟩, b₁, envelope, message⟩ := bind_eq_ok.mp run
          have start := trails_envelope (header_drop_length o room) small room envelope
          obtain ⟨c', same, trails⟩ := follows_serialize typed _ _ start () b' message
          rw [counted] at same
          obtain ⟨⟩ := same
          obtain ⟨_, behind, inside, backed, _, _⟩ := trails
          unfold lead cdrHeaderSize at *
          rw [sizeT_of_lt (by omega)] at length_eq
          omega
        · exact caught_ne_true _ _ succeeds
      · rw [CdrSerializationBuffer.make] at made
        simp only [Nat.not_le.mp room, if_true] at made
        cases made

end Envelope

/-! ## The buffers of a service -/

section Service

variable {malloc : Malloc} {lang : LanguageKind} {o : ByteOrder}

/-- What `allocate_message` returns has the size of the bytes it counted. -/
theorem allocateMessage_some {d : MessageMembers} {v : Value} {size : Option Nat}
    {mem : List Byte}
    (allocates : (allocateMessage malloc lang o d (some v) size).ret = .ok (some mem)) :
    (allocateMessage malloc lang o d (some v) size).size = some mem.length ∧
      mem.length < 2 ^ 63 ∧
      ∃ c, Ser.serialize false lang o d v true { offset := 0, size := 2 ^ 64 - 1, mem := [] } =
        .ok () c ∧ mem.length = sizeT (c.offset + 4) := by
  cases d with
  | nullptr => cases allocates
  | mk ns name ms =>
    cases size with
    | none => cases allocates
    | some size =>
      simp only [allocateMessage, CdrSerializationBuffer.make] at allocates ⊢
      cases counted : Ser.serialize false lang o (.mk ns name ms) v true
          { offset := 0, size := 2 ^ 64 - 1, mem := [] } with
      | error e c =>
        simp only [counted] at allocates
        cases allocates
      | ok a c =>
        simp only [counted] at allocates ⊢
        cases memory : malloc.alloc (sizeT (c.offset + 4)) with
        | none =>
          simp only [memory] at allocates
          cases allocates
        | some mem' =>
          simp only [memory] at allocates ⊢
          obtain rfl := Option.some.inj (Except.ok.inj allocates)
          have length := malloc.length_eq memory
          exact ⟨congrArg some length.symm, length ▸ malloc.bounded memory, c, rfl, length⟩

/-- **The buffer of a request or a response is too small for it**, in either direction of every
service. -/
theorem allocateServiceBasic_insufficient {isRequest : Bool} {request response : MessageMembers}
    {v : Value} {size : Option Nat} {mem : List Byte}
    (typed : (ServiceMembers.direction request response isRequest).typed v = true)
    (allocates : (allocateServiceBasic malloc lang o isRequest (.mk request response) (some v)
      size).ret = .ok (some mem)) (sequenceNumber : BitVec 64) (clientGuid : Gid) :
    (allocateServiceBasic malloc lang o isRequest (.mk request response) (some v) size).size =
      some mem.length ∧
    (serializeDirectionBasic lang o isRequest (.mk request response) v (some mem) mem.length
      sequenceNumber clientGuid).ret ≠ .ok true := by
  obtain ⟨measured, small, c, counted, length_eq⟩ := allocateMessage_some allocates
  exact ⟨measured, serviceBasic_insufficient typed counted length_eq small⟩

end Service

end Cdr
