import RmwGurumdds.Service.Calls
import RmwGurumdds.Exec.Runs
import Mathlib.Logic.Function.Basic

/-!
# Requests and responses

Clients and services talk through DDS, which may delay, reorder, lose and repeat what they send,
and delivers to any reader any sample that was ever written on its topic. All that ties a response
to its request is the identity the two samples carry: a service copies it from the request it has
taken, and a client drops what is not its own.

So a client that takes a response has asked for it (`responses_correlated`): the header carries the
client's identifier and a number one of its own sends returned, and the message is one a service
sent in answer to it and to nobody else. What every call keeps is that an identity in a sample or in
a service's hands has been given out by a client (`System.Sound`).
-/

namespace Service

open Wire Cdr Rmw Exec

/-! ## The system -/

/-- The readers of clients and of services. -/
structure Network (ι κ : Type) where
  clientReader : ι → Reader
  serviceReader : κ → Reader

/-- Every context uses the enhanced mapping. -/
structure Network.Enhanced {ι κ : Type} (net : Network ι κ) : Prop where
  client : ∀ c, (net.clientReader c).serviceMappingBasic = false
  service : ∀ k, (net.serviceReader k).serviceMappingBasic = false

/-- A response as a service sent it: to which request, and in which sample. -/
structure Response where
  requestId : RequestId
  sample : Sample

/-- Clients, the sequence numbers their sends have returned, the samples written so far, and the
identities services have taken. -/
structure System (ι : Type) where
  client : ι → ClientInfo
  sequenceIds : ι → List (BitVec 64)
  requests : List Sample
  requestIds : List RequestId
  responses : List Response

/-- A call of one of the parties, with what the caller passes and what DDS answers. -/
inductive Action (ι κ : Type) where
  | sendRequest (c : ι) (written : Option (List Byte))
  | takeRequest (k : κ) (header : RmwServiceInfo) (message : Value) (answer : RawTake)
  | sendResponse (k : κ) (requestId : RequestId) (now : DdsTime) (written : Option (List Byte))
  | takeResponse (c : ι) (header : RmwServiceInfo) (message : Value) (answers : List RawTake)

/-- A call by which a client sends a request. -/
def Action.isSend {ι κ : Type} [DecidableEq ι] (c : ι) : Action ι κ → Bool
  | .sendRequest sender _ => decide (sender = c)
  | _ => false

section Definitions

variable {ι κ : Type}

/-- The clients are there, and nothing has been sent. -/
def System.start (guid : ι → Gid) : System ι where
  client c := ClientInfo.create (guid c)
  sequenceIds _ := []
  requests := []
  requestIds := []
  responses := []

variable [DecidableEq ι]

/-- One call. -/
def System.step (net : Network ι κ) (s : System ι) : Action ι κ → System ι
  | .sendRequest c written =>
    let (client, sent, sequenceId) := rmwSendRequest (s.client c) written
    { s with
      client := Function.update s.client c client
      sequenceIds := Function.update s.sequenceIds c (sequenceId.toList ++ s.sequenceIds c)
      requests := sent.sample.toList ++ s.requests }
  | .takeRequest k header message answer =>
    let took := rmwTakeRequest (net.serviceReader k) header message answer
    { s with requestIds :=
        (if took.taken then [took.requestHeader.requestId] else []) ++ s.requestIds }
  | .sendResponse _ requestId now written =>
    let sent := rmwSendResponse requestId now written
    { s with responses :=
        (sent.sample.map fun sample => { requestId, sample }).toList ++ s.responses }
  | .takeResponse _ _ _ _ => s

/-- The system after some calls. -/
def System.after (net : Network ι κ) (guid : ι → Gid) (actions : List (Action ι κ)) : System ι :=
  run (System.step net) (System.start guid) actions

/-- A reader answers with valid copies of samples that were written. -/
def Delivers (written : List Sample) : RawTake → Prop
  | .noData => True
  | .error => True
  | .sample data info => info.validData = true ∧
      ∃ w ∈ written, data = some w.payload ∧ info.seq = w.info.seq ∧ info.srcGuid = w.info.srcGuid

/-- DDS delivers what was written, and services answer requests they have taken. -/
def System.Admits (s : System ι) : Action ι κ → Prop
  | .sendRequest _ _ => True
  | .takeRequest _ _ _ answer => Delivers s.requests answer
  | .sendResponse _ requestId _ _ => requestId ∈ s.requestIds
  | .takeResponse _ _ _ answers =>
    ∀ answer ∈ answers, Delivers (s.responses.map Response.sample) answer

/-- What a client has a right to expect of a response it has taken. -/
structure System.Correlated (net : Network ι κ) (s : System ι) (c : ι) (took : Took) : Prop where
  own : took.requestHeader.requestId.writerGuid = (s.client c).writerGuid
  returned : took.requestHeader.requestId.sequenceNumber ∈ s.sequenceIds c
  answered : ∃ response ∈ s.responses,
    response.requestId = took.requestHeader.requestId ∧
    (∃ before, (deserializeServiceEnhanced (net.clientReader c).target (net.clientReader c).members
      before response.sample.payload).target = took.message) ∧
    ∀ other, response.requestId.writerGuid = (s.client other).writerGuid → other = c

/-- A call that takes a response takes one that is due. -/
def System.Right (net : Network ι κ) (s : System ι) : Action ι κ → Prop
  | .takeResponse c header message answers =>
    let took := rmwTakeResponse (net.clientReader c) header (s.client c) message answers
    took.taken = true → s.Correlated net c took
  | _ => True

end Definitions

/-! ## Identities -/

section Identities

variable {ι κ : Type} {net : Network ι κ} {s : System ι} {a : Action ι κ}

/-- A client has given out this identity, and its caller was told. -/
def System.Issued (s : System ι) (id : RequestId) : Prop :=
  ∃ c, id.writerGuid = (s.client c).writerGuid ∧ id.sequenceNumber ∈ s.sequenceIds c

/-- Every identity in a sample or in a service's hands has been given out by a client, and a
response carries the identity it was sent for. -/
structure System.Sound (s : System ι) : Prop where
  requests : ∀ w ∈ s.requests, s.Issued w.info.requestId
  requestIds : ∀ id ∈ s.requestIds, s.Issued id
  responses : ∀ r ∈ s.responses, s.Issued r.requestId ∧ r.sample.info.requestId = r.requestId

/-- A delivered sample names the request that the sample it is a copy of was written for. -/
theorem Delivers.requestId {written : List Sample} {data : Option (List Byte)} {info : SampleInfoEx}
    (delivers : Delivers written (.sample data info)) :
    info.validData = true ∧
      ∃ w ∈ written, data = some w.payload ∧ info.requestId = w.info.requestId := by
  obtain ⟨valid, w, mem, payload, seq, guid⟩ := delivers
  refine ⟨valid, w, mem, payload, ?_⟩
  rw [SampleInfoEx.requestId, SampleInfoEx.requestId, seq, guid]

/-- In the enhanced mapping the request is read off the sample's information. -/
theorem Reader.identify_enhanced {r : Reader} (enhanced : r.serviceMappingBasic = false)
    {before : Value} {isRequest : Bool} {sample : List Byte} {info : SampleInfoEx} {i : Identified}
    (read : (r.identify before isRequest sample info).target = some i) :
    i.requestId = info.requestId ∧
      (deserializeServiceEnhanced r.target r.members before sample).target = some i.message := by
  rw [Reader.identify, enhanced, if_neg Bool.false_ne_true, Deserialized.map] at read
  obtain ⟨message, target, rfl⟩ := Option.map_eq_some_iff.mp read
  exact ⟨rfl, target⟩

/-- A request that is taken has been issued. -/
theorem System.Sound.taken (sound : s.Sound) (enhanced : net.Enhanced) {k : κ}
    {header : RmwServiceInfo} {message : Value} {answer : RawTake}
    (delivers : Delivers s.requests answer)
    (taken : (rmwTakeRequest (net.serviceReader k) header message answer).taken = true) :
    s.Issued
      (rmwTakeRequest (net.serviceReader k) header message answer).requestHeader.requestId := by
  obtain ⟨data, info, rfl, from_⟩ := rmwTakeRequest_taken taken
  obtain ⟨valid, w, mem, -, same⟩ := delivers.requestId
  obtain ⟨sample, i, -, ⟨before, read⟩, header_eq, -⟩ := from_ valid
  rw [header_eq, headerOf, (Reader.identify_enhanced (enhanced.service k) read).1, same]
  exact sound.requests w mem

/-- **A response that is taken is due.** -/
theorem System.Sound.right (sound : s.Sound) (enhanced : net.Enhanced)
    (distinct : Function.Injective fun c => (s.client c).writerGuid) (admits : s.Admits a) :
    s.Right net a := by
  cases a with
  | sendRequest c written => trivial
  | takeRequest k header message answer => trivial
  | sendResponse k requestId now written => trivial
  | takeResponse c header message answers =>
    intro taken
    obtain ⟨sample, info, i, mem, -, ⟨⟨before, read⟩, header_eq, message_eq⟩, own⟩ :=
      rmwTakeResponse_taken taken
    obtain ⟨-, w, sent, payload, same⟩ := (admits _ mem).requestId
    obtain ⟨response, response_mem, rfl⟩ := List.mem_map.mp sent
    obtain ⟨issued, carries⟩ := sound.responses response response_mem
    obtain ⟨identity, target⟩ := Reader.identify_enhanced (enhanced.client c) read
    have same_id : response.requestId = i.requestId := by rw [identity, same, carries]
    have taken_id : (rmwTakeResponse (net.clientReader c) header (s.client c) message
        answers).requestHeader.requestId = i.requestId := by
      rw [header_eq, headerOf]
    -- The client that was told the number has this one's identifier, so it is this one.
    obtain ⟨sender, sender_own, returned⟩ := issued
    have same_client : sender = c := distinct (by
      show (s.client sender).writerGuid = (s.client c).writerGuid
      rw [← sender_own, same_id, own])
    subst same_client
    refine ⟨?_, ?_, response, response_mem, ?_, ⟨before, ?_⟩, fun other addressed => ?_⟩
    · rw [taken_id, own]
    · rw [taken_id, ← same_id]
      exact returned
    · rw [taken_id, same_id]
    · rw [← Option.some.inj payload, target]
      exact message_eq.symm
    · exact distinct (addressed.symm.trans sender_own)

variable [DecidableEq ι]

/-- A call leaves the clients' identifiers alone. -/
@[simp] theorem System.step_writerGuid (c : ι) :
    ((s.step net a).client c).writerGuid = (s.client c).writerGuid := by
  cases a with
  | sendRequest sender written =>
    rcases eq_or_ne c sender with rfl | other
    · simp [System.step, rmwSendRequest, ClientInfo.next]
    · simp [System.step, Function.update_of_ne other]
  | takeRequest k header message answer => rfl
  | sendResponse k requestId now written => rfl
  | takeResponse c header message answers => rfl

/-- What a send has returned stays returned. -/
theorem System.mem_step_sequenceIds {c : ι} {id : BitVec 64} (mem : id ∈ s.sequenceIds c) :
    id ∈ (s.step net a).sequenceIds c := by
  cases a with
  | sendRequest sender written =>
    rcases eq_or_ne c sender with rfl | other
    · simp [System.step, mem]
    · simpa [System.step, Function.update_of_ne other] using mem
  | takeRequest k header message answer => exact mem
  | sendResponse k requestId now written => exact mem
  | takeResponse c header message answers => exact mem

theorem System.Issued.step {id : RequestId} (issued : s.Issued id) : (s.step net a).Issued id := by
  obtain ⟨c, own, returned⟩ := issued
  exact ⟨c, own.trans (System.step_writerGuid c).symm, System.mem_step_sequenceIds returned⟩

/-- **A call keeps the identities sound.** -/
theorem System.Sound.step (sound : s.Sound) (enhanced : net.Enhanced) (admits : s.Admits a) :
    (s.step net a).Sound := by
  have requests : ∀ w ∈ s.requests, (s.step net a).Issued w.info.requestId :=
    fun w mem => (sound.requests w mem).step
  have requestIds : ∀ id ∈ s.requestIds, (s.step net a).Issued id :=
    fun id mem => (sound.requestIds id mem).step
  have responses : ∀ r ∈ s.responses,
      (s.step net a).Issued r.requestId ∧ r.sample.info.requestId = r.requestId :=
    fun r mem => (sound.responses r mem).imp_left Issued.step
  cases a with
  | sendRequest c written =>
    refine ⟨fun w mem => ?_, requestIds, responses⟩
    rcases List.mem_append.mp mem with new | old
    · -- The sample carries the number that the call returns.
      obtain ⟨same, returned⟩ := rmwSendRequest_sent (Option.mem_toList.mp new)
      refine ⟨c, ?_, ?_⟩
      · rw [same, System.step_writerGuid]
        rfl
      · rw [same]
        simp [System.step, returned, ClientInfo.requestId]
    · exact requests w old
  | takeRequest k header message answer =>
    refine ⟨requests, fun id mem => ?_, responses⟩
    rcases List.mem_append.mp mem with new | old
    · obtain ⟨taken, new⟩ := List.mem_ite_nil_right.mp new
      obtain rfl := List.mem_singleton.mp new
      exact (sound.taken enhanced admits taken).step
    · exact requestIds id old
  | sendResponse k requestId now written =>
    refine ⟨requests, requestIds, fun r mem => ?_⟩
    rcases List.mem_append.mp mem with new | old
    · obtain ⟨sample, sent, rfl⟩ := Option.map_eq_some_iff.mp (Option.mem_toList.mp new)
      exact ⟨(sound.requestIds requestId admits).step, rmwSendResponse_sent sent⟩
    · exact responses r old
  | takeResponse c header message answers => exact ⟨requests, requestIds, responses⟩

end Identities

/-! ## Sequence numbers -/

/-- A client has numbered `count` requests, and its sends have returned some of the numbers, the
latest first. -/
structure Numbered (client : ClientInfo) (sequenceIds : List (BitVec 64)) (count : Nat) : Prop where
  count_eq : client.sequenceNumber.toNat = count
  bounded : ∀ id ∈ sequenceIds, id.toNat ≤ count
  descending : sequenceIds.Pairwise fun newer older => older.toNat < newer.toNat

theorem numbered_create (guid : Gid) : Numbered (ClientInfo.create guid) [] 0 where
  count_eq := rfl
  bounded := by simp
  descending := List.Pairwise.nil

/-- A send returns a number above all it has returned, if any. -/
theorem Numbered.send {client : ClientInfo} {sequenceIds : List (BitVec 64)} {count : Nat}
    (numbered : Numbered client sequenceIds count) (small : count + 1 < 2 ^ 64)
    (written : Option (List Byte)) :
    Numbered (rmwSendRequest client written).1
      ((rmwSendRequest client written).2.2.toList ++ sequenceIds) (count + 1) := by
  have next : client.next.sequenceNumber.toNat = count + 1 := by
    rw [ClientInfo.next, BitVec.toNat_add, numbered.count_eq]
    exact Nat.mod_eq_of_lt small
  have bounded : ∀ id ∈ sequenceIds, id.toNat < count + 1 :=
    fun id mem => Nat.lt_succ_of_le (numbered.bounded id mem)
  refine ⟨next, ?_, ?_⟩
  · intro id mem
    rcases List.mem_append.mp mem with new | old
    · rw [rmwSendRequest_returned (Option.mem_toList.mp new), next]
    · exact (bounded id old).le
  · cases written with
    | none => exact numbered.descending
    | some payload =>
      refine List.pairwise_cons.mpr ⟨fun id mem => ?_, numbered.descending⟩
      rw [next]
      exact bounded id mem

/-! ## Runs -/

section Runs

variable {ι κ : Type} {guid : ι → Gid}

theorem System.start_sound : (System.start guid).Sound where
  requests := by simp [System.start]
  requestIds := by simp [System.start]
  responses := by simp [System.start]

variable [DecidableEq ι] {net : Network ι κ} {actions : List (Action ι κ)}

theorem System.after_concat {a : Action ι κ} :
    System.after net guid (actions ++ [a]) = (System.after net guid actions).step net a :=
  run_concat

/-- A client keeps the identifier it was made with. -/
theorem System.after_writerGuid (c : ι) :
    ((System.after net guid actions).client c).writerGuid = guid c := by
  exact run_invariant (I := fun s : System ι => (s.client c).writerGuid = guid c) rfl
    (fun s a same => (System.step_writerGuid ..).trans same) actions

/-- The number of requests a client has tried to send. -/
def sends (c : ι) (actions : List (Action ι κ)) : Nat := actions.countP (Action.isSend c)

theorem sends_concat (c : ι) (actions : List (Action ι κ)) (a : Action ι κ) :
    sends c (actions ++ [a]) = sends c actions + if a.isSend c = true then 1 else 0 := by
  rw [sends, List.countP_append, List.countP_singleton, sends]

/-- A client that has not run out of numbers returns each of them once. -/
theorem System.after_numbered (net : Network ι κ) (guid : ι → Gid) (c : ι)
    (actions : List (Action ι κ)) (few : sends c actions < 2 ^ 64) :
    Numbered ((System.after net guid actions).client c)
      ((System.after net guid actions).sequenceIds c) (sends c actions) := by
  induction actions using List.reverseRecOn with
  | nil => exact numbered_create (guid c)
  | append_singleton actions a ih =>
    rw [System.after_concat]
    rw [sends_concat] at few ⊢
    have before := ih (Nat.lt_of_le_of_lt (Nat.le_add_right _ _) few)
    cases a with
    | sendRequest sender written =>
      rcases eq_or_ne sender c with rfl | other
      · have one : (Action.sendRequest sender written : Action ι κ).isSend sender = true :=
          decide_eq_true rfl
        rw [if_pos one] at few ⊢
        simpa [System.step] using before.send few written
      · rw [if_neg (by simpa [Action.isSend] using other)]
        simpa [System.step, Function.update_of_ne other.symm] using before
    | takeRequest k header message answer => exact before
    | sendResponse k requestId now written => exact before
    | takeResponse c header message answers => exact before

/-- **Requests and responses belong together.** Whatever the clients and services do, and however
DDS treats their samples: a client that takes a response takes one to a request of its own, and its
sends never return one number twice. -/
theorem responses_correlated (net : Network ι κ) (enhanced : net.Enhanced) (guid : ι → Gid)
    (distinct : Function.Injective guid) (actions : List (Action ι κ))
    (admits : Each (fun before a => (System.after net guid before).Admits a) actions) :
    Each (fun before a => (System.after net guid before).Right net a) actions ∧
      ∀ c, sends c actions < 2 ^ 63 → ((System.after net guid actions).sequenceIds c).Nodup := by
  constructor
  · have sound : Always (fun before => (System.after net guid before).Sound) actions := by
      refine always_of_each System.start_sound admits fun before a sound admits => ?_
      rw [System.after_concat]
      exact sound.step enhanced admits
    intro before a started
    have apart : Function.Injective fun c =>
        ((System.after net guid before).client c).writerGuid := by
      simp only [System.after_writerGuid]
      exact distinct
    exact (sound before ((List.prefix_append before [a]).trans started)).right enhanced apart
      (admits before a started)
  · intro c few
    have numbered := System.after_numbered net guid c actions (by omega)
    refine numbered.descending.imp fun {newer older} lower same => ?_
    rw [same] at lower
    exact absurd lower (Nat.lt_irrefl _)

end Runs

/-! ## A sample -/

/-- A reader of the message type with one byte. -/
def sampleReader : Reader :=
  { serviceMappingBasic := false, target := cxxTarget .little, members := oneByte }

/-- Two clients and a service. -/
def sampleNetwork : Network Bool Unit where
  clientReader _ := sampleReader
  serviceReader _ := sampleReader

def sampleGuids (c : Bool) : Gid := if c then sampleGuid else Vector.replicate 16 0

/-- The second client's first request. -/
def sampleRequestId : RequestId := { writerGuid := sampleGuid, sequenceNumber := 1 }

def sampleHeader : RmwServiceInfo where
  sourceTimestamp := 0
  receivedTimestamp := 0
  requestId := { writerGuid := Vector.replicate 16 0, sequenceNumber := 0 }

/-- A sample of that request or its response, at the other end. -/
def sampleAnswer : RawTake :=
  .sample (some [0, 1, 0, 0, 5])
    { sampleRequestId.describe { sec := 0, nanosec := 0 } with validData := true }

/-- The service answers the second client, and both clients see the response. -/
def sampleActions : List (Action Bool Unit) :=
  [.sendRequest true (some [0, 1, 0, 0, 5]),
    .takeRequest () sampleHeader (.message []) sampleAnswer,
    .sendResponse () sampleRequestId { sec := 0, nanosec := 0 } (some [0, 1, 0, 0, 5]),
    .takeResponse false sampleHeader (.message []) [sampleAnswer],
    .takeResponse true sampleHeader (.message []) [sampleAnswer]]

theorem sampleGuids_injective : Function.Injective sampleGuids := by
  intro c other same
  revert c other
  decide

/-- Both the request and its response are written in a sample that can arrive so. -/
theorem delivers_sampleAnswer (written : List Sample)
    (h : written = [{ payload := [0, 1, 0, 0, 5],
                      info := sampleRequestId.describe { sec := 0, nanosec := 0 } }]) :
    Delivers written sampleAnswer := by
  rw [h]
  exact ⟨rfl, _, List.mem_singleton_self _, rfl, rfl, rfl⟩

theorem sampleActions_admitted :
    Each (fun before a => (System.after sampleNetwork sampleGuids before).Admits a)
      sampleActions := by
  have responses (answer : RawTake) (mem : answer ∈ [sampleAnswer]) (written : List Sample)
      (h : written = _) : Delivers written answer :=
    List.mem_singleton.mp mem ▸ delivers_sampleAnswer written h
  show Each _ ((((([] ++ [_]) ++ [_]) ++ [_]) ++ [_]) ++ [_])
  simp only [each_concat]
  refine ⟨⟨⟨⟨⟨each_nil, trivial⟩, delivers_sampleAnswer _ rfl⟩, ?_⟩, fun answer mem => ?_⟩,
    fun answer mem => ?_⟩
  · -- The service has taken this request and no other.
    have taken : (System.after sampleNetwork sampleGuids (sampleActions.take 2)).requestIds =
        [sampleRequestId] := by decide +kernel
    have mem := List.mem_singleton_self sampleRequestId
    rw [← taken] at mem
    exact mem
  · exact responses answer mem _ rfl
  · exact responses answer mem _ rfl

theorem responses_correlated_sample :
    (Each (fun before a => (System.after sampleNetwork sampleGuids before).Right sampleNetwork a)
        sampleActions ∧
      ∀ c, sends c sampleActions < 2 ^ 63 →
        ((System.after sampleNetwork sampleGuids sampleActions).sequenceIds c).Nodup) ∧
      (rmwTakeResponse (sampleNetwork.clientReader true) sampleHeader
        ((System.after sampleNetwork sampleGuids sampleActions).client true) (.message [])
        [sampleAnswer]).taken = true :=
  ⟨responses_correlated sampleNetwork ⟨fun _ => rfl, fun _ => rfl⟩ sampleGuids
    sampleGuids_injective sampleActions sampleActions_admitted, by decide +kernel⟩

end Service
