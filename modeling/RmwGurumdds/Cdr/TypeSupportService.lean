import RmwGurumdds.Cdr.Languages
import RmwGurumdds.Cdr.RoundTrip
import RmwGurumdds.Rmw.Sample

/-!
# The basic service mapping

Where DDS samples carry no related request, the middleware puts the request's identity in front of
the message: the client's identifier as two 64-bit words, the sequence number as a signed high and
an unsigned low word, and a trailer that is an empty instance name in a request and an exception
code in a response.

The codec returns the envelope and the message whole (`serviceBasic_roundTrip`). The sequence number
is another matter: the writer shifts the high word by 8 where the two sides need 32, so all but its
lowest byte is lost and that byte comes back in the wrong place. `takenSequenceNumber_eq_iff` says
which numbers survive.
-/

namespace Cdr

open Wire Exec Rmw

/-! ## Sequence numbers -/

/-- `sn_high` of `serialize_service_basic`. -/
def snHigh (sequenceNumber : BitVec 64) : BitVec 32 :=
  ((sequenceNumber &&& 0xFFFFFFFF00000000#64) >>> 8).setWidth 32

/-- `sn_low` of `serialize_service_basic`. -/
def snLow (sequenceNumber : BitVec 64) : BitVec 32 :=
  (sequenceNumber &&& 0x00000000FFFFFFFF#64).setWidth 32

/-- The sequence number `rmw_take_request` and `rmw_take_response` rebuild:
`((int64_t)sn_high) << 32 | sn_low`. -/
def takenSequenceNumber (snHigh snLow : BitVec 32) : BitVec 64 :=
  (snHigh.signExtend 64 <<< 32) ||| snLow.setWidth 64

/-- The bits of the rebuilt number: the low word, and the lowest byte of the high word on top. -/
theorem takenSequenceNumber_getLsbD (sequenceNumber : BitVec 64) (i : Nat) (h : i < 64) :
    (takenSequenceNumber (snHigh sequenceNumber) (snLow sequenceNumber)).getLsbD i =
      if i < 32 then sequenceNumber.getLsbD i
      else decide (56 ≤ i) && sequenceNumber.getLsbD (i - 24) := by
  have low : ((snLow sequenceNumber).setWidth 64).getLsbD i =
      (decide (i < 32) && sequenceNumber.getLsbD i) := by
    rw [snLow, BitVec.getLsbD_setWidth, BitVec.getLsbD_setWidth, BitVec.getLsbD_and,
      lowMask_getLsbD i h, decide_eq_true h, Bool.true_and]
    cases decide (i < 32) <;> simp
  have high (k : Nat) (inside : k < 32) : ((snHigh sequenceNumber).signExtend 64).getLsbD k =
      (decide (24 ≤ k) && sequenceNumber.getLsbD (8 + k)) := by
    rw [snHigh, BitVec.getLsbD_signExtend, if_pos inside, BitVec.getLsbD_setWidth,
      BitVec.getLsbD_ushiftRight, BitVec.getLsbD_and, highMask_getLsbD _ (by omega)]
    simp only [inside, show k < 64 by omega, decide_true, Bool.true_and]
    rw [Bool.and_comm]
    congr 1
    exact decide_eq_decide.mpr (by omega)
  rw [takenSequenceNumber, BitVec.getLsbD_or, BitVec.getLsbD_shiftLeft, low]
  by_cases below : i < 32
  · simp [below]
  · rw [if_neg below, high (i - 32) (by omega), show 8 + (i - 32) = i - 24 by omega,
      decide_eq_true h, decide_eq_false below, Bool.false_and, Bool.or_false, Bool.not_false,
      Bool.true_and, Bool.true_and]
    congr 1
    exact decide_eq_decide.mpr (by omega)

/-- **A sequence number survives exactly when its high word is zero.** -/
theorem takenSequenceNumber_eq_iff (sequenceNumber : BitVec 64) :
    takenSequenceNumber (snHigh sequenceNumber) (snLow sequenceNumber) = sequenceNumber ↔
      sequenceNumber >>> 32 = 0 := by
  have bits := takenSequenceNumber_getLsbD sequenceNumber
  constructor
  · intro same
    rw [same] at bits
    -- The bits between the words are lost, and the bits on top come from where zeroes are.
    have middle : ∀ i, 32 ≤ i → i < 56 → sequenceNumber.getLsbD i = false := by
      intro i low high
      rw [bits i (by omega), if_neg (by omega), decide_eq_false (by omega), Bool.false_and]
    have top : ∀ i, 56 ≤ i → i < 64 → sequenceNumber.getLsbD i = false := by
      intro i low high
      rw [bits i high, if_neg (by omega), middle (i - 24) (by omega) (by omega), Bool.and_false]
    apply BitVec.eq_of_getLsbD_eq
    intro i h
    rw [BitVec.getLsbD_ushiftRight]
    show _ = (0#64).getLsbD i
    rw [BitVec.getLsbD_zero]
    by_cases inside : 32 + i < 64
    · by_cases low : 32 + i < 56
      · exact middle _ (by omega) low
      · exact top _ (by omega) inside
    · exact BitVec.getLsbD_of_ge _ _ (by omega)
  · intro zero
    have high : ∀ i, 32 ≤ i → sequenceNumber.getLsbD i = false := by
      intro i low
      have bit := congrArg (fun x => BitVec.getLsbD x (i - 32)) zero
      simpa [Nat.add_sub_cancel' low] using bit
    apply BitVec.eq_of_getLsbD_eq
    intro i h
    rw [bits i h]
    split
    · rfl
    · by_cases top : 56 ≤ i
      · rw [high (i - 24) (by omega), high i (by omega), Bool.and_false]
      · rw [decide_eq_false top, high i (by omega), Bool.false_and]

/-! ## Functions -/

/-- What `serialize_service_basic` writes in its `try` block. -/
def Ser.serviceBasic (lang : LanguageKind) (o : ByteOrder) (members : MessageMembers)
    (rosService : Value) (sequenceNumber : BitVec 64) (clientGuid : Gid) (isRequest : Bool) :
    Ser Unit := do
  word true o .uint64 (o.load .uint64 (clientGuid.toList.take 8))
  word true o .uint64 (o.load .uint64 (clientGuid.toList.drop 8))
  word true o .uint32 (snHigh sequenceNumber)
  word true o .uint32 (snLow sequenceNumber)
  if isRequest then string true o [] else word true o .uint32 0
  serialize true lang o members rosService true

/-- `serialize_service_basic`. -/
def serializeServiceBasic (lang : LanguageKind) (o : ByteOrder) (members : MessageMembers)
    (rosService : Value) (ddsService : Option (List Byte)) (size : Nat)
    (sequenceNumber : BitVec 64) (clientGuid : Gid) (isRequest : Bool) : Serialized :=
  match members with
  | .nullptr =>
    { ret := .ok false, errorMsg := some "Members handle is null", ddsMessage := ddsService,
      offset := 0 }
  | .mk ns name ms =>
    trySerialize o ddsService size
      (Ser.serviceBasic lang o (.mk ns name ms) rosService sequenceNumber clientGuid isRequest)

/-- What `deserialize_service_basic` hands to its caller. -/
structure ServiceBasic where
  rosService : Value
  snHigh : BitVec 32
  snLow : BitVec 32
  clientGuid : List Byte

/-- What `deserialize_service_basic` reads between the sequence number and the message. -/
def Des.trailer (o : ByteOrder) (isRequest : Bool) : Des Unit :=
  if isRequest then do
    let _instanceName ← string o true id
    pure ()
  else do
    let _remoteEx ← word o .uint32
    pure ()

/-- What `deserialize_service_basic` reads in its `try` block. -/
def Des.serviceBasic (t : Target) (members : MessageMembers) (rosService : Value)
    (isRequest : Bool) : Des ServiceBasic := do
  let guidLow ← word t.order .uint64
  let guidHigh ← word t.order .uint64
  let snHigh ← word t.order .uint32
  let snLow ← word t.order .uint32
  trailer t.order isRequest
  let rosService ← deserialize t members rosService
  let clientGuid := t.order.store .uint64 guidLow ++ t.order.store .uint64 guidHigh
  return { rosService, snHigh, snLow, clientGuid }

/-- `deserialize_service_basic`. -/
def deserializeServiceBasic (t : Target) (members : MessageMembers) (rosService : Value)
    (ddsService : List Byte) (isRequest : Bool) : Deserialized ServiceBasic :=
  match members with
  | .nullptr =>
    { ret := .ok false, errorMsg := some "Members handle is null", target := none, buffer := none }
  | .mk ns name ms =>
    tryDeserialize t.order ddsService (Des.serviceBasic t (.mk ns name ms) rosService isRequest)

/-! ## The envelope on the wire -/

section Envelope

variable (o : ByteOrder) (sequenceNumber : BitVec 64) (clientGuid : Gid) (isRequest : Bool)

/-- The empty instance name of a request, or the exception code of a response. -/
def trailerLayout : Layout :=
  if isRequest then
    Layout.word o .uint32 (BitVec.ofNat _ (([] : List Byte).length + 1)) ++ Layout.bytes ([] ++ [0])
  else Layout.word o .uint32 0

/-- The envelope in front of a message. -/
def serviceLayout (message : Layout) : Layout :=
  Layout.word o .uint64 (o.load .uint64 (clientGuid.toList.take 8)) ++
    (Layout.word o .uint64 (o.load .uint64 (clientGuid.toList.drop 8)) ++
      (Layout.word o .uint32 (snHigh sequenceNumber) ++
        (Layout.word o .uint32 (snLow sequenceNumber) ++ (trailerLayout o isRequest ++ message))))

/-- The number of bytes a message with its envelope takes. -/
def serviceSize (lang : LanguageKind) (d : MessageMembers) (v : Value) : Nat :=
  cdrHeaderSize +
    (serviceLayout o sequenceNumber clientGuid isRequest (messageLayout lang o d v) 0).length

variable {o sequenceNumber clientGuid isRequest}

theorem serviceLayout_append (f g : Layout) :
    serviceLayout o sequenceNumber clientGuid isRequest (f ++ g) =
      serviceLayout o sequenceNumber clientGuid isRequest f ++ g := by
  simp only [serviceLayout, append_assoc]

theorem emits_serviceBasic {lang : LanguageKind} {d : MessageMembers} {v : Value}
    (supported : d.supported = true) (typed : d.typed v = true)
    (count : d.arraysCountable v = true) :
    Emits true (Ser.serviceBasic lang o d v sequenceNumber clientGuid isRequest)
      (serviceLayout o sequenceNumber clientGuid isRequest (messageLayout lang o d v)) := by
  have trailer : Emits true (if isRequest then Ser.string true o [] else Ser.word true o .uint32 0)
      (trailerLayout o isRequest) := by
    unfold trailerLayout
    cases isRequest with
    | true => exact emits_string o []
    | false => exact emits_word o .uint32 0
  refine (emits_word o .uint64 _).bind fun _ => (emits_word o .uint64 _).bind fun _ =>
    (emits_word o .uint32 _).bind fun _ => (emits_word o .uint32 _).bind fun _ => ?_
  have whole := trailer.bind fun _ =>
    emits_serialize lang (S := true) (o := o) typed
      (MessageMembers.writable_of_supported supported count)
  cases isRequest <;> exact whole

/-- What the trailer is read as. -/
def trailerParser (swap : Bool) (o : ByteOrder) (isRequest : Bool) : Parser Unit :=
  if isRequest then (fun _ => ()) <$> stringParser swap o terminatedSlot
  else (fun _ => ()) <$> (received swap .uint32 <$> Parser.word o .uint32)

/-- What the envelope and a message are read as. -/
def serviceParser (swap : Bool) (o : ByteOrder) (isRequest : Bool) (message : Parser Value) :
    Parser ServiceBasic := do
  let guidLow ← received swap .uint64 <$> Parser.word o .uint64
  let guidHigh ← received swap .uint64 <$> Parser.word o .uint64
  let snHigh ← received swap .uint32 <$> Parser.word o .uint32
  let snLow ← received swap .uint32 <$> Parser.word o .uint32
  trailerParser swap o isRequest
  (fun rosService => {
    rosService, snHigh, snLow,
    clientGuid := o.store .uint64 guidLow ++ o.store .uint64 guidHigh }) <$> message

theorem reads_trailer {swap : Bool} :
    Reads swap (Des.trailer o isRequest) (trailerParser swap o isRequest) := by
  unfold Des.trailer trailerParser
  cases isRequest with
  | true => exact (reads_string fun _ => rfl).map _
  | false => exact (reads_word .uint32).map _

theorem reads_serviceBasic {swap : Bool} {t : Target} {d : MessageMembers} (output : Value)
    (rt : t.Succeeds) (readable : d.readable = true) :
    ReadsWhere swap (fun e => d.bounded e.rosService = true)
      (Des.serviceBasic t d output isRequest)
      (serviceParser swap t.order isRequest (d.parser swap t.order (slotOf t.lang))) :=
  .bind (reads_word .uint64) fun _ => .bind (reads_word .uint64) fun _ =>
    .bind (reads_word .uint32) fun _ => .bind (reads_word .uint32) fun _ =>
      .bind reads_trailer fun _ => (reads_deserialize rt readable output).map _

/-- The envelope reads back. -/
theorem decodes_service (sequenceNumber : BitVec 64) (clientGuid : Gid) (isRequest : Bool)
    {p : Parser Value} {f : Layout} {v : Value} (h : Decodes p f v) :
    Decodes (serviceParser (decide (o ≠ o)) o isRequest p)
      (serviceLayout o sequenceNumber clientGuid isRequest f)
      { rosService := v, snHigh := snHigh sequenceNumber, snLow := snLow sequenceNumber,
        clientGuid := clientGuid.toList } := by
  have trailer : Decodes (trailerParser (decide (o ≠ o)) o isRequest) (trailerLayout o isRequest)
      () := by
    unfold trailerParser trailerLayout
    cases isRequest with
    | true => exact (decodes_string (slotOf_terminator .cxx) (by decide)).map fun _ => ()
    | false => exact (decodes_word .uint32 0).map fun _ => ()
  have guid : o.store .uint64 (o.load .uint64 (clientGuid.toList.take 8)) ++
      o.store .uint64 (o.load .uint64 (clientGuid.toList.drop 8)) = clientGuid.toList := by
    have length := clientGuid.length_toList
    rw [o.store_load .uint64 (by rw [List.length_take, length]; rfl),
      o.store_load .uint64 (by rw [List.length_drop, length]; rfl), List.take_append_drop]
  rw [← guid]
  exact (decodes_word .uint64 _).bind ((decodes_word .uint64 _).bind
    ((decodes_word .uint32 _).bind ((decodes_word .uint32 _).bind (trailer.bind (h.map _)))))

end Envelope

/-- **The basic envelope, exactly.** A message that was serialized with its envelope deserializes on
a host of the same byte order, to the message and the client it was sent for; and the sequence
number rebuilt from it is the one sent if and only if that one's high word is zero. -/
theorem serviceBasic_roundTrip (t : Target) (d : MessageMembers) (v output : Value)
    (mem : List Byte) (sequenceNumber : BitVec 64) (clientGuid : Gid) (isRequest : Bool)
    (rt : t.Succeeds) (free : t.lang = .c → d.wideFree v = true)
    (readable : d.readable = true) (typed : d.typed v = true) (count : d.countable v = true)
    (bound : serviceSize t.order sequenceNumber clientGuid isRequest t.lang d v < 2 ^ 63)
    (small : mem.length < 2 ^ 63)
    (succeeds : (serializeServiceBasic t.lang t.order d v (some mem) mem.length sequenceNumber
      clientGuid isRequest).ret = .ok true) :
    ∃ bytes e,
      (serializeServiceBasic t.lang t.order d v (some mem) mem.length sequenceNumber clientGuid
        isRequest).ddsMessage = some bytes ∧
      (deserializeServiceBasic t d output bytes isRequest).ret = .ok true ∧
      (deserializeServiceBasic t d output bytes isRequest).target = some e ∧
      e.rosService = v ∧ e.clientGuid = clientGuid.toList ∧
      (takenSequenceNumber e.snHigh e.snLow = sequenceNumber ↔ sequenceNumber >>> 32 = 0) := by
  cases d with
  | nullptr => exact nomatch typed
  | mk ns name ms =>
    have supported : (MessageMembers.mk ns name ms).supported = true :=
      (MessageMembers.mk ns name ms).all_mono (fun m h => (Bool.and_eq_true_iff.mp h).1) readable
    have arrays := MessageMembers.arraysCountable_of_countable count
    have same : (MessageMembers.mk ns name ms).layout t.lang t.order v =
        (MessageMembers.mk ns name ms).layout .cxx t.order v := by
      cases lang : t.lang with
      | c => exact layout_eq_of_wideFree _ v typed (free lang)
      | cxx => rfl
    have spec := trySerialize_spec t.order (n := mem.length)
      (emits_serviceBasic supported typed arrays)
      (Nat.le_refl mem.length) (by omega) bound
    rw [messageLayout, serviceLayout_append] at spec
    split at spec
    · rename_i fits
      have message : Decodes ((MessageMembers.mk ns name ms).parser (decide (t.order ≠ t.order))
          t.order (slotOf t.lang)) _ _ :=
        decodes_message (slotOf_terminator t.lang) _ v typed count
      have envelope :=
        decodes_service (o := t.order) sequenceNumber clientGuid isRequest message
      have arrives : (MessageMembers.mk ns name ms).arrived (decide (t.order ≠ t.order)) v = v := by
        rw [decide_eq_false (fun h => h rfl)]
        exact arrived_same _ v typed
      rw [arrives, ← same] at envelope
      have back := tryDeserialize_written (g := Layout.align Word.uint32.bytes)
        (reads_serviceBasic output rt readable) (bounded_of_typed _ v typed) envelope fits small
      rw [serializeServiceBasic, spec]
      exact ⟨_, _, rfl, back.1, back.2, rfl, rfl, takenSequenceNumber_eq_iff sequenceNumber⟩
    · rw [serializeServiceBasic, spec.1] at succeeds
      exact absurd (Except.ok.inj succeeds) Bool.false_ne_true

/-- The identifier of a client: sixteen different bytes. -/
def sampleGuid : Gid := Vector.ofFn fun i => BitVec.ofNat 8 (i.val + 1)

theorem serviceBasic_roundTrip_sample :
    ∃ bytes e,
      (serializeServiceBasic .c .big sampleMembers sampleMessage (some (List.replicate 100 0))
        (List.replicate 100 (0 : Byte)).length 7 sampleGuid true).ddsMessage = some bytes ∧
      (deserializeServiceBasic (cTarget .big) sampleMembers (.message []) bytes true).ret =
        .ok true ∧
      (deserializeServiceBasic (cTarget .big) sampleMembers (.message []) bytes true).target =
        some e ∧
      e.rosService = sampleMessage ∧ e.clientGuid = sampleGuid.toList ∧
      (takenSequenceNumber e.snHigh e.snLow = 7 ↔ (7 : BitVec 64) >>> 32 = 0) :=
  serviceBasic_roundTrip (cTarget .big) sampleMembers sampleMessage (.message [])
    (List.replicate 100 0) 7 sampleGuid true (cTarget_succeeds .big) (fun _ => by decide)
    (by decide) (by decide) (by decide) (by decide +kernel) (by decide) (by decide +kernel)

/-- A message type with one byte. -/
def oneByte : MessageMembers := .mk "pkg__srv" "Byte" [.mk "data" .uint8 false 0 false .nullptr]

/-- The number 2^32 comes back as 2^56. -/
theorem serviceBasic_highWord :
    let bytes : List Byte := [0, 1, 0, 0, 1, 2, 3, 4, 5, 6, 7, 8, 9, 10, 11, 12, 13, 14, 15, 16,
      0, 0, 0, 1, 0, 0, 0, 0, 0, 0, 0, 0, 5, 0, 0, 0]
    (serializeServiceBasic .cxx .little oneByte (.message [.prim .uint8 5])
      (some (List.replicate 36 0)) 36 0x100000000 sampleGuid false).ret = .ok true ∧
    (serializeServiceBasic .cxx .little oneByte (.message [.prim .uint8 5])
      (some (List.replicate 36 0)) 36 0x100000000 sampleGuid false).ddsMessage = some bytes ∧
    ((deserializeServiceBasic (cxxTarget .little) oneByte (.message []) bytes false).target.map
      fun e => takenSequenceNumber e.snHigh e.snLow) = some 0x100000000000000 := by
  refine ⟨?_, ?_, ?_⟩ <;> decide +kernel

end Cdr
