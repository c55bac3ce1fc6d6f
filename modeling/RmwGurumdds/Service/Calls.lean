import RmwGurumdds.Cdr.TypeSupportService
import RmwGurumdds.Rmw.Sample
import RmwGurumdds.Rmw.Types

/-!
# Calls of services and clients

A client sends requests and takes responses; a service takes requests and sends responses. A
request gets the client's next sequence number, whether or not DDS then accepts it. A taken sample
is decoded and the request it belongs to is read off it: off the envelope in the basic mapping, off
the sample's information in the enhanced one.

All clients of a service share its topic for responses. A client reads every response there is,
decodes it, and drops it if it answers someone else (`rmwTakeResponse`).
-/

namespace Service

open Wire Cdr Rmw

/-! ## Sending -/

/-- `ClientInfo`, as far as requests go. -/
structure ClientInfo where
  sequenceNumber : BitVec 64
  writerGuid : Gid
deriving DecidableEq

/-- What a client is when `rmw_create_client` has made it. -/
def ClientInfo.create (writerGuid : Gid) : ClientInfo := { sequenceNumber := 0, writerGuid }

/-- How a call that sends ends, and the sample DDS has then accepted. -/
structure Sent where
  ret : RmwRet
  errorMsg : Option String
  sample : Option Sample
deriving DecidableEq

/-- `dds_DataWriter_write_w_sampleinfoex`, where `written` is the payload DDS makes of the message,
or nothing where it reports failure. -/
def write (failure : String) (info : SampleInfoEx) : (written : Option (List Byte)) → Sent
  | none => { ret := .error, errorMsg := some failure, sample := none }
  | some payload => { ret := .ok, errorMsg := none, sample := some { payload, info } }

/-- The client of a request that has got its sequence number. -/
def ClientInfo.next (client : ClientInfo) : ClientInfo :=
  { client with sequenceNumber := client.sequenceNumber + 1 }

/-- The request a client has last given a number. -/
def ClientInfo.requestId (client : ClientInfo) : RequestId :=
  { writerGuid := client.writerGuid, sequenceNumber := client.sequenceNumber }

/-- `rmw_send_request` in the enhanced mapping: the client it leaves, how it ends, and what it
stores in `sequence_id`. -/
def rmwSendRequest (client : ClientInfo) (written : Option (List Byte)) :
    ClientInfo × Sent × Option (BitVec 64) :=
  let client := client.next
  let sent := write "failed to send request"
    (client.requestId.describe SampleInfoEx.zero.sourceTimestamp) written
  (client, sent, if sent.ret = .ok then some client.sequenceNumber else none)

/-- `rmw_send_response` in the enhanced mapping, at the time `now`. -/
def rmwSendResponse (requestHeader : RequestId) (now : DdsTime) (written : Option (List Byte)) :
    Sent :=
  write "failed to send response" (requestHeader.describe now) written

/-! ## Taking -/

/-- The reader of a service or of a client: which mapping its context uses, how its messages are
read, and of which type they are. -/
structure Reader where
  serviceMappingBasic : Bool
  target : Target
  members : MessageMembers

/-- What a sample is read as. -/
structure Identified where
  message : Value
  requestId : RequestId

/-- `deserialize_service_enhanced`. It is `deserialize_cdr_to_ros` to the letter. -/
def deserializeServiceEnhanced (t : Target) (members : MessageMembers) (rosService : Value)
    (ddsService : List Byte) : Deserialized Value :=
  deserializeCdrToRos t members rosService ddsService

/-- The sixteen bytes `deserialize_service_basic` has stored in `int8_t client_guid[16] = {0}`. -/
def storedGuid (clientGuid : List Byte) : Gid := Vector.ofFn fun i => clientGuid.getD i 0

/-- The part of both take functions that reads a valid sample. -/
def Reader.identify (r : Reader) (rosService : Value) (isRequest : Bool) (sample : List Byte)
    (info : SampleInfoEx) : Deserialized Identified :=
  if r.serviceMappingBasic then
    (deserializeServiceBasic r.target r.members rosService sample isRequest).map fun e => {
      message := e.rosService
      requestId := {
        writerGuid := storedGuid e.clientGuid
        sequenceNumber := takenSequenceNumber e.snHigh e.snLow } }
  else
    (deserializeServiceEnhanced r.target r.members rosService sample).map fun message => {
      message, requestId := info.requestId }

/-- How a call that takes ends. There is no message when it has only partly been written, and no
return code when an exception leaves the call. -/
structure Took where
  ret : Except Exn RmwRet
  errorMsg : Option String
  taken : Bool
  requestHeader : RmwServiceInfo
  message : Option Value

/-- The header of a taken sample. -/
def headerOf (info : SampleInfoEx) (requestId : RequestId) : RmwServiceInfo where
  sourceTimestamp := info.sourceTimestamp.toNanoseconds
  receivedTimestamp := info.receptionTimestamp.toNanoseconds
  requestId := requestId

section Take

variable (r : Reader) (header : RmwServiceInfo) (message : Value)

/-- The call ends and has taken nothing. -/
def Took.nothing (ret : Except Exn RmwRet) (errorMsg : Option String) (message : Option Value) :
    Took :=
  { ret, errorMsg, taken := false, requestHeader := header, message }

/-- `rmw_take_request`, where `header` and `message` are what its caller passes to be filled in. It
reports a sample without valid data as taken, and fills nothing in. -/
def rmwTakeRequest : RawTake → Took
  | .noData => Took.nothing header (.ok .ok) none (some message)
  | .error => Took.nothing header (.ok .error) (some "failed to take data") (some message)
  | .sample data info =>
    if info.validData then
      match data with
      | none => Took.nothing header (.ok .error) none (some message)
      | some sample =>
        let res := r.identify message true sample info
        match res.target with
        | none => Took.nothing header (res.ret.map fun _ => .error) res.errorMsg none
        | some i =>
          { ret := .ok .ok, errorMsg := none, taken := true
            requestHeader := headerOf info i.requestId, message := some i.message }
    else
      { ret := .ok .ok, errorMsg := none, taken := true, requestHeader := header
        message := some message }

/-- `rmw_take_response`, for the answers its reader gives one after the other; when they are used up
there is no data. The message of a response to someone else stays behind in `ros_response`. -/
def rmwTakeResponse (client : ClientInfo) (message : Value) : List RawTake → Took
  | [] => Took.nothing header (.ok .ok) none (some message)
  | .noData :: _ => Took.nothing header (.ok .ok) none (some message)
  | .error :: _ => Took.nothing header (.ok .error) (some "failed to take data") (some message)
  | .sample data info :: rest =>
    if info.validData then
      match data with
      | none => Took.nothing header (.ok .error) none (some message)
      | some sample =>
        let res := r.identify message false sample info
        match res.target with
        | none => Took.nothing header (res.ret.map fun _ => .error) res.errorMsg none
        | some i =>
          if client.writerGuid = i.requestId.writerGuid then
            { ret := .ok .ok, errorMsg := none, taken := true
              requestHeader := headerOf info i.requestId, message := some i.message }
          else rmwTakeResponse client i.message rest
    else rmwTakeResponse client message rest

end Take

/-! ## What the calls do -/

section Facts

variable {r : Reader} {header : RmwServiceInfo} {message : Value} {client : ClientInfo}

/-- A sample that is sent carries the client's new number, and the call returns it. -/
theorem rmwSendRequest_sent {written : Option (List Byte)} {sample : Sample}
    (sent : (rmwSendRequest client written).2.1.sample = some sample) :
    sample.info.requestId = client.next.requestId ∧
      (rmwSendRequest client written).2.2 = some client.next.sequenceNumber := by
  cases written with
  | none => exact nomatch sent
  | some payload =>
    obtain rfl := Option.some.inj sent
    exact ⟨requestId_describe _ _, rfl⟩

/-- What the call returns is the client's new number. -/
theorem rmwSendRequest_returned {written : Option (List Byte)} {sequenceId : BitVec 64}
    (returned : (rmwSendRequest client written).2.2 = some sequenceId) :
    sequenceId = client.next.sequenceNumber := by
  cases written with
  | none => exact nomatch returned
  | some payload => exact (Option.some.inj returned).symm

/-- A response carries the identity it is sent for. -/
theorem rmwSendResponse_sent {requestId : RequestId} {now : DdsTime} {written : Option (List Byte)}
    {sample : Sample} (sent : (rmwSendResponse requestId now written).sample = some sample) :
    sample.info.requestId = requestId := by
  cases written with
  | none => exact nomatch sent
  | some payload =>
    obtain rfl := Option.some.inj sent
    exact requestId_describe requestId now

/-- What a call took from a sample: it read the sample, whatever its target held before. -/
structure Took.From (t : Took) (r : Reader) (isRequest : Bool) (sample : List Byte)
    (info : SampleInfoEx) (i : Identified) : Prop where
  read : ∃ before, (r.identify before isRequest sample info).target = some i
  header_eq : t.requestHeader = headerOf info i.requestId
  message_eq : t.message = some i.message

/-- A request that is taken is read from the sample, if that has valid data. -/
theorem rmwTakeRequest_taken {answer : RawTake}
    (taken : (rmwTakeRequest r header message answer).taken = true) :
    ∃ data info, answer = .sample data info ∧ (info.validData = true →
      ∃ sample i, data = some sample ∧
        (rmwTakeRequest r header message answer).From r true sample info i) := by
  cases answer with
  | noData => exact absurd taken Bool.false_ne_true
  | error => exact absurd taken Bool.false_ne_true
  | sample data info =>
    refine ⟨data, info, rfl, fun valid => ?_⟩
    simp only [rmwTakeRequest, if_pos valid] at taken ⊢
    cases data with
    | none => exact absurd taken Bool.false_ne_true
    | some sample =>
      cases read : (r.identify message true sample info).target with
      | none =>
        simp only [read] at taken
        exact absurd taken Bool.false_ne_true
      | some i =>
        simp only [read]
        exact ⟨sample, i, rfl, ⟨message, read⟩, rfl, rfl⟩

/-- **A response that is taken is read from a valid sample among the answers, and it answers a
request of the client's own.** -/
theorem rmwTakeResponse_taken {answers : List RawTake}
    (taken : (rmwTakeResponse r header client message answers).taken = true) :
    ∃ sample info i, .sample (some sample) info ∈ answers ∧ info.validData = true ∧
      (rmwTakeResponse r header client message answers).From r false sample info i ∧
      client.writerGuid = i.requestId.writerGuid := by
  induction answers generalizing message with
  | nil => exact absurd taken Bool.false_ne_true
  | cons answer rest ih =>
    have later {message : Value}
        (taken : (rmwTakeResponse r header client message rest).taken = true) :
        ∃ sample info i, .sample (some sample) info ∈ answer :: rest ∧ info.validData = true ∧
          (rmwTakeResponse r header client message rest).From r false sample info i ∧
          client.writerGuid = i.requestId.writerGuid := by
      obtain ⟨sample, info, i, mem, valid, from_, own⟩ := ih taken
      exact ⟨sample, info, i, List.mem_cons_of_mem _ mem, valid, from_, own⟩
    cases answer with
    | noData => exact absurd taken Bool.false_ne_true
    | error => exact absurd taken Bool.false_ne_true
    | sample data info =>
      simp only [rmwTakeResponse] at taken ⊢
      by_cases valid : info.validData = true
      · rw [if_pos valid] at taken ⊢
        cases data with
        | none => exact absurd taken Bool.false_ne_true
        | some sample =>
          cases read : (r.identify message false sample info).target with
          | none =>
            simp only [read] at taken
            exact absurd taken Bool.false_ne_true
          | some i =>
            simp only [read] at taken ⊢
            by_cases own : client.writerGuid = i.requestId.writerGuid
            · rw [if_pos own]
              exact ⟨sample, info, i, List.mem_cons_self, valid, ⟨⟨message, read⟩, rfl, rfl⟩, own⟩
            · rw [if_neg own] at taken ⊢
              exact later taken
      · rw [if_neg valid] at taken ⊢
        exact later taken

end Facts

end Service
