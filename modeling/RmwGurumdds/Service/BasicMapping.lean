import RmwGurumdds.Cdr.ServiceBuffers
import RmwGurumdds.Service.Calls

/-!
# Sending in the basic mapping

`rmw_send_request` and `rmw_send_response` where the context's service mapping is basic: allocate a
buffer, serialize into it, hand it to DDS. Each call has three ways to fail, and the second is the
one every call takes that gets as far: the buffer is measured without the envelope
(`allocateServiceBasic_insufficient`).
-/

namespace Service

open Wire Cdr Rmw

/-! ## Functions -/

/-- `rosidl_service_type_support_t`: the language its identifier names, if it is one of the two
introspection identifiers, and the members. -/
structure TypeSupport where
  identifier : Option LanguageKind
  data : ServiceMembers

/-- How a call ends that sends bytes, and the bytes DDS has then accepted. -/
structure SentBytes where
  ret : Except Exn RmwRet
  errorMsg : Option String
  accepted : Option (List Byte)

/-- The call ends and has sent nothing. -/
def SentBytes.nothing (ret : Except Exn RmwRet) (errorMsg : Option String) : SentBytes :=
  { ret, errorMsg, accepted := none }

section Send

variable (malloc : Malloc) (o : ByteOrder) (rawWrite : List Byte → Bool)

/-- The choice by identifier in front of `allocate_request_basic` and
`allocate_response_basic`. -/
def TypeSupport.allocate (ts : TypeSupport) (isRequest : Bool) (rosMessage : Value) : Allocated :=
  match ts.identifier with
  | none => { ret := .ok none, size := some 0, errorMsg := some "Unknown typesupport identifier" }
  | some lang => allocateServiceBasic malloc lang o isRequest ts.data (some rosMessage) (some 0)

/-- The choice by identifier in front of `serialize_request_basic` and
`serialize_response_basic`. -/
def TypeSupport.serialize (ts : TypeSupport) (isRequest : Bool) (rosMessage : Value)
    (ddsMessage : List Byte) (size : Nat) (requestId : RequestId) : Serialized :=
  match ts.identifier with
  | none => {
      ret := .ok false, errorMsg := some "Unknown typesupport identifier"
      ddsMessage := some ddsMessage, offset := 0 }
  | some lang =>
    serializeDirectionBasic lang o isRequest ts.data rosMessage (some ddsMessage) size
      requestId.sequenceNumber requestId.writerGuid

/-- The part both calls share once there is a buffer. `rawWrite` tells whether
`dds_DataWriter_raw_write` succeeds, `failure` is what the call says if it does not. -/
def sendBuffer (ts : TypeSupport) (isRequest : Bool) (failure : String) (rosMessage : Value)
    (ddsMessage : List Byte) (size : Nat) (requestId : RequestId) : SentBytes :=
  let s := ts.serialize o isRequest rosMessage ddsMessage size requestId
  match s.ret with
  | .error e => .nothing (.error e) s.errorMsg
  | .ok false => .nothing (.ok .error) (some "failed to serialize message")
  | .ok true =>
    match s.ddsMessage with
    | none => .nothing (.error .outOfBounds) none
    | some bytes =>
      if rawWrite (bytes.take size) then
        { ret := .ok .ok, errorMsg := none, accepted := some (bytes.take size) }
      else .nothing (.ok .error) (some failure)

/-- `rmw_send_request` in the basic mapping: the client it leaves, how it ends, and what it stores
in `sequence_id`. The number is raised when the buffer is there. -/
def rmwSendRequestBasic (ts : TypeSupport) (client : ClientInfo) (rosRequest : Value) :
    ClientInfo × SentBytes × Option (BitVec 64) :=
  let a := ts.allocate malloc o true rosRequest
  match a.ret with
  | .error e => (client, .nothing (.error e) a.errorMsg, none)
  | .ok none => (client, .nothing (.ok .error) a.errorMsg, none)
  | .ok (some ddsRequest) =>
    let client := client.next
    let sent := sendBuffer o rawWrite ts true "failed to send request" rosRequest ddsRequest
      (a.size.getD 0) client.requestId
    (client, sent,
      match sent.ret with
      | .ok .ok => some client.sequenceNumber
      | _ => none)

/-- `rmw_send_response` in the basic mapping. -/
def rmwSendResponseBasic (ts : TypeSupport) (requestHeader : RequestId) (rosResponse : Value) :
    SentBytes :=
  let a := ts.allocate malloc o false rosResponse
  match a.ret with
  | .error e => .nothing (.error e) a.errorMsg
  | .ok none => .nothing (.ok .error) a.errorMsg
  | .ok (some ddsResponse) =>
    sendBuffer o rawWrite ts false "failed to publish data" rosResponse ddsResponse
      (a.size.getD 0) requestHeader

end Send

/-! ## What they do -/

section Facts

variable {malloc : Malloc} {lang : LanguageKind} {o : ByteOrder} {rawWrite : List Byte → Bool}
  {request response : MessageMembers}

/-- The type support of a service in one language. -/
def TypeSupport.of (lang : LanguageKind) (request response : MessageMembers) : TypeSupport where
  identifier := some lang
  data := .mk request response

/-- A buffer that the type support allocated is never sent. -/
theorem sendBuffer_ne_ok {isRequest : Bool} {failure : String} {v : Value} {mem : List Byte}
    (typed : (ServiceMembers.direction request response isRequest).typed v = true)
    (allocates : ((TypeSupport.of lang request response).allocate malloc o isRequest v).ret =
      .ok (some mem)) (requestId : RequestId) :
    (sendBuffer o rawWrite (.of lang request response) isRequest failure v mem
      (((TypeSupport.of lang request response).allocate malloc o isRequest v).size.getD 0)
      requestId).ret ≠ .ok .ok := by
  obtain ⟨measured, insufficient⟩ := allocateServiceBasic_insufficient typed allocates
    requestId.sequenceNumber requestId.writerGuid
  have size : ((TypeSupport.of lang request response).allocate malloc o isRequest v).size =
      some mem.length := measured
  rw [size, Option.getD_some]
  intro sends
  unfold sendBuffer at sends
  dsimp only at sends
  split at sends
  · exact nomatch sends
  · exact nomatch Except.ok.inj sends
  · rename_i succeeds
    exact insufficient succeeds

theorem rmwSendRequestBasic_ne_ok {v : Value} (typed : request.typed v = true)
    (client : ClientInfo) :
    (rmwSendRequestBasic malloc o rawWrite (.of lang request response) client v).2.1.ret ≠
      .ok .ok := by
  intro sends
  unfold rmwSendRequestBasic at sends
  dsimp only at sends
  split at sends
  · exact nomatch sends
  · exact nomatch Except.ok.inj sends
  · rename_i allocates
    exact sendBuffer_ne_ok (show (ServiceMembers.direction _ _ true).typed v = true from typed)
      allocates _ sends

theorem rmwSendResponseBasic_ne_ok {v : Value} (typed : response.typed v = true)
    (requestHeader : RequestId) :
    (rmwSendResponseBasic malloc o rawWrite (.of lang request response) requestHeader v).ret ≠
      .ok .ok := by
  intro sends
  unfold rmwSendResponseBasic at sends
  dsimp only at sends
  split at sends
  · exact nomatch sends
  · exact nomatch Except.ok.inj sends
  · rename_i allocates
    exact sendBuffer_ne_ok (show (ServiceMembers.direction _ _ false).typed v = true from typed)
      allocates _ sends

end Facts

/-- **Basic-mapping buffers are never large enough.** Whatever the service and the message, the
buffer that is allocated for it has as many bytes as were counted, and serializing into it fails for
every identifier and sequence number; no request and no response is ever sent. -/
theorem basicBuffers_insufficient (malloc : Malloc) (lang : LanguageKind) (o : ByteOrder)
    (rawWrite : List Byte → Bool) (request response : MessageMembers) :
    let members := ServiceMembers.mk request response
    let ts := TypeSupport.of lang request response
    (∀ v, request.typed v = true →
      (∀ size mem, (allocateRequestBasic malloc lang o members (some v) size).ret =
          .ok (some mem) →
        (allocateRequestBasic malloc lang o members (some v) size).size = some mem.length ∧
          ∀ sequenceNumber clientGuid,
            (serializeRequestBasic lang o members v (some mem) mem.length sequenceNumber
              clientGuid).ret ≠ .ok true) ∧
      ∀ client, (rmwSendRequestBasic malloc o rawWrite ts client v).2.1.ret ≠ .ok .ok) ∧
    (∀ v, response.typed v = true →
      (∀ size mem, (allocateResponseBasic malloc lang o members (some v) size).ret =
          .ok (some mem) →
        (allocateResponseBasic malloc lang o members (some v) size).size = some mem.length ∧
          ∀ sequenceNumber clientGuid,
            (serializeResponseBasic lang o members v (some mem) mem.length sequenceNumber
              clientGuid).ret ≠ .ok true) ∧
      ∀ requestHeader,
        (rmwSendResponseBasic malloc o rawWrite ts requestHeader v).ret ≠ .ok .ok) := by
  refine ⟨fun v typed => ⟨fun size mem allocates => ?_, rmwSendRequestBasic_ne_ok typed⟩,
    fun v typed => ⟨fun size mem allocates => ?_, rmwSendResponseBasic_ne_ok typed⟩⟩
  · have insufficient := @allocateServiceBasic_insufficient _ _ _ true _ _ v _ _ typed allocates
    exact ⟨(insufficient 0 sampleGuid).1, fun sn guid => (insufficient sn guid).2⟩
  · have insufficient := @allocateServiceBasic_insufficient _ _ _ false _ _ v _ _ typed allocates
    exact ⟨(insufficient 0 sampleGuid).1, fun sn guid => (insufficient sn guid).2⟩

/-- A heap with room for every object that is not too large. -/
def zeroedMalloc : Malloc where
  alloc n := if n < 2 ^ 63 then some (List.replicate n 0) else none
  length_eq h := by
    split at h
    · rw [← Option.some.inj h, List.length_replicate]
    · exact nomatch h
  bounded h := by
    split at h
    · assumption
    · exact nomatch h

theorem basicBuffers_insufficient_oneByte :
    ((allocateRequestBasic zeroedMalloc .cxx .little (.mk oneByte oneByte)
        (some (.message [.prim .uint8 5])) (some 0)).size =
          some (List.replicate 8 (0 : Byte)).length ∧
      ∀ sequenceNumber clientGuid,
        (serializeRequestBasic .cxx .little (.mk oneByte oneByte) (.message [.prim .uint8 5])
          (some (List.replicate 8 0)) (List.replicate 8 (0 : Byte)).length sequenceNumber
          clientGuid).ret ≠ .ok true) ∧
    ∀ requestHeader, (rmwSendResponseBasic zeroedMalloc .little (fun _ => true)
      (.of .cxx oneByte oneByte) requestHeader (.message [.prim .uint8 5])).ret ≠ .ok .ok :=
  have never :=
    basicBuffers_insufficient zeroedMalloc .cxx .little (fun _ => true) oneByte oneByte
  ⟨(never.1 (.message [.prim .uint8 5]) (by decide)).1 (some 0) (List.replicate 8 0)
      (by decide +kernel),
    (never.2 (.message [.prim .uint8 5]) (by decide)).2⟩

/-- A request of one byte gets 8 bytes, where the envelope alone takes 29 behind the header. -/
theorem basicBuffers_tooSmall :
    (allocateRequestBasic zeroedMalloc .cxx .little (.mk oneByte oneByte)
      (some (.message [.prim .uint8 5])) (some 0)).ret = .ok (some (List.replicate 8 0)) ∧
    (serializeRequestBasic .cxx .little (.mk oneByte oneByte) (.message [.prim .uint8 5])
      (some (List.replicate 8 0)) 8 1 sampleGuid).ret = .ok false ∧
    (rmwSendRequestBasic zeroedMalloc .little (fun _ => true) (.of .cxx oneByte oneByte)
      (.create sampleGuid) (.message [.prim .uint8 5])).2.1.ret = .ok .error ∧
    (rmwSendRequestBasic zeroedMalloc .little (fun _ => true) (.of .cxx oneByte oneByte)
      (.create sampleGuid) (.message [.prim .uint8 5])).2.1.errorMsg =
        some "failed to serialize message" := by
  refine ⟨?_, ?_, ?_, ?_⟩ <;> decide +kernel

end Service
