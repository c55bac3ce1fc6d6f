import RmwGurumdds.Graph.CommonContext
import RmwGurumdds.Rmw.Qos

/-!
# Endpoints in the graph

How an endpoint gets into the graph cache and out of it: `graph_cache.cpp`. A remote endpoint is
entered from its announcement, unless it is the context's own; a local one is entered with what its
DDS entity says of itself, and with it the node graph is updated.

The hooks of the four kinds of local endpoint follow the same plan with differences. A publisher's
and a subscription's undo what they did before they fail, in their own ways. A service's and a
client's are guarded by a scope exit that is to undo it, but the guard captures its flags by value,
while they are still false; and their deletion hooks collect their failures in a flag that nothing
sets.
-/

namespace Graph

open Wire Rmw Store Exec

/-! ## Entities -/

/-- The profile `add_entity` builds. An announcement has no history. -/
def qosProfile (qos : EndpointQos) : QosProfile where
  history := match qos.history with
    | none => .unknown
    | some history => convertHistory history
  depth := match qos.history with
    | none => 0
    | some history => (history.depth.signExtend 64).toNat
  reliability := convertReliability qos.reliability
  durability := convertDurability qos.durability
  deadline := convertDeadline qos.deadline
  lifespan := convertLifespan qos.lifespan
  liveliness := convertLiveliness qos.liveliness
  livelinessLeaseDuration := convertLivelinessLeaseDuration qos.liveliness
  avoidRosNamespaceConventions := false

/-- `UserDataQosPolicy`: a buffer, and how much of it is used. -/
structure UserData where
  value : List Byte
  size : Nat

section Functions

variable {σ : Type} (cc : CommonContext σ)

/-- The static `add_entity`. -/
def Ctx.addEntity (endpGid dpGid : Gid) (topicName typeName : String) (typeHash : TypeHash)
    (qos : EndpointQos) (isReader : Bool) : Ctx σ RmwRet := do
  let added ← Ctx.common (cc.graphCache.add isReader endpGid
    { topicName, typeName, typeHash, participantGid := dpGid, qos := qosProfile qos })
  if !added then return .error else return .ok

/-- The static `remove_entity`. -/
def Ctx.removeEntity (gid : Gid) (isReader : Bool) : Ctx σ RmwRet := do
  let removed ← Ctx.common (cc.graphCache.remove isReader gid)
  if !removed then
    Ctx.setErrorMsg "failed to remove entity from graph_cache"
    return .error
  else return .ok

/-- `graph_cache::add_remote_entity`. -/
def Ctx.addRemoteEntity (endpGuid dpGuid : Guid) (topicName typeName : String)
    (userData : UserData) (qos : EndpointQos) (isReader : Bool) : Ctx σ RmwRet := do
  let ctx ← get
  -- Ignore own announcements.
  if guidToGid dpGuid = ctx.gid then return .ok
  else
    match cc.parseTypeHashFromUserData userData.value userData.size with
    | some typeHash =>
      Ctx.addEntity cc (guidToGid endpGuid) (guidToGid dpGuid) topicName typeName typeHash qos
        isReader
    | none =>
      Ctx.resetError
      Ctx.addEntity cc (guidToGid endpGuid) (guidToGid dpGuid) topicName typeName .zero qos
        isReader

/-- `graph_cache::remove_entity`. The prefix alone names the participant. -/
def Ctx.removeRemoteEntity (guid : Guid) (isReader : Bool) : Ctx σ RmwRet := do
  let ctx ← get
  if (guidToGid guid).toList.take 12 = ctx.gid.toList.take 12 then return .ok
  else Ctx.removeEntity cc (guidToGid guid) isReader

end Functions

section Functions

variable {σ : Type} {cc : CommonContext σ} {own : Gid} {t : Tables Bool Gid EntityInfo}

/-- An entity is entered where there is none. -/
theorem holds_addEntity (lawful : cc.Lawful) (endpGid dpGid : Gid) (topicName typeName : String)
    (typeHash : TypeHash) (qos : EndpointQos) (isReader : Bool) :
    Holds cc own t (Ctx.addEntity cc endpGid dpGid topicName typeName typeHash qos isReader)
      fun ret ctx => cc.At own (t.emplace isReader endpGid
          { topicName, typeName, typeHash, participantGid := dpGid, qos := qosProfile qos }) ctx ∧
        (ret = .ok ↔ endpGid ∉ t.keys isReader) := by
  refine (holds_add lawful _ _ _).bind fun added => Triple.assume fun added_eq =>
    Triple.ite (fun failed => Triple.pure fun ctx at_ => ⟨at_, ?_⟩)
      fun done => Triple.pure fun ctx at_ => ⟨at_, ?_⟩
  · have present : (t isReader endpGid).isSome = true := by simpa [added_eq] using failed
    simp [Tables.mem_keys, present]
  · have absent : (t isReader endpGid).isSome = false := by simpa [added_eq] using done
    simp [Tables.mem_keys, absent]

/-- An entity is taken out where there is one. -/
theorem holds_removeEntity (lawful : cc.Lawful) (gid : Gid) (isReader : Bool) :
    Holds cc own t (Ctx.removeEntity cc gid isReader) fun ret ctx =>
      cc.At own (t.erase isReader gid) ctx ∧ (ret = .ok ↔ gid ∈ t.keys isReader) := by
  refine (holds_remove lawful _ _).bind fun removed => Triple.assume fun removed_eq =>
    Triple.ite (fun failed => ?_) fun done => Triple.pure fun ctx at_ => ⟨at_, ?_⟩
  · have absent : (t isReader gid).isSome = false := by simpa [removed_eq] using failed
    refine (holds_setErrorMsg _).bind fun _ => Triple.pure fun ctx at_ => ⟨at_, ?_⟩
    simp [Tables.mem_keys, absent]
  · have present : (t isReader gid).isSome = true := by
      rwa [removed_eq, Bool.not_eq_true', Bool.not_eq_false] at done
    simp [Tables.mem_keys, present]

theorem holds_removePresent (lawful : cc.Lawful) {gid : Gid} {isReader : Bool}
    (present : gid ∈ t.keys isReader) :
    Holds cc own t (Ctx.removeEntity cc gid isReader) fun rc ctx =>
      cc.At own (t.erase isReader gid) ctx ∧ rc = .ok :=
  Triple.weaken (holds_removeEntity lawful gid isReader) (fun _ at_ => at_)
    fun _ _ h => ⟨h.1, h.2.mpr present⟩

/-- An announcement of another participant's endpoint is entered. -/
theorem holds_addRemoteEntity (lawful : cc.Lawful) (endpGuid : Guid) {dpGuid : Guid}
    (foreign : guidToGid dpGuid ≠ own) (topicName typeName : String) (userData : UserData)
    (qos : EndpointQos) (isReader : Bool) :
    Holds cc own t (Ctx.addRemoteEntity cc endpGuid dpGuid topicName typeName userData qos isReader)
      fun _ ctx => ∃ info, cc.At own (t.emplace isReader (guidToGid endpGuid) info) ctx := by
  refine holds_get.bind fun ctx => Triple.assume fun gid_eq => ?_
  rw [gid_eq, if_neg foreign]
  split
  · exact Triple.weaken (holds_addEntity lawful _ _ _ _ _ _ _) (fun _ at_ => at_)
      fun _ _ h => ⟨_, h.1⟩
  · refine holds_resetError.bind fun _ => ?_
    exact Triple.weaken (holds_addEntity lawful _ _ _ _ _ _ _) (fun _ at_ => at_)
      fun _ _ h => ⟨_, h.1⟩

/-- A withdrawal of another participant's endpoint is carried out on the table it names. -/
theorem holds_removeRemoteEntity (lawful : cc.Lawful) {guid : Guid}
    (foreign : (guidToGid guid).toList.take 12 ≠ own.toList.take 12) (isReader : Bool) :
    Holds cc own t (Ctx.removeRemoteEntity cc guid isReader) fun _ =>
      cc.At own (t.erase isReader (guidToGid guid)) := by
  refine holds_get.bind fun ctx => Triple.assume fun gid_eq => ?_
  rw [gid_eq, if_neg foreign]
  exact Triple.weaken (holds_removeEntity lawful _ _) (fun _ at_ => at_) fun _ _ h => h.1

end Functions

/-! ## Local endpoints -/

/-- What reading the QoS of a DDS entity comes to. -/
inductive QosAnswer where
  | copyFails
  | getFails
  | ok (qos : EndpointQos)
deriving DecidableEq

/-- What a data writer or a data reader says of itself. -/
structure DataEntity where
  topicName : String
  typeName : String
  qos : QosAnswer
deriving DecidableEq

/-- `rmw_node_t`. -/
structure RmwNode where
  name : String
  ns : String

/-- `PublisherInfo`. -/
structure PublisherInfo where
  publisherGid : Gid
  topicWriter : DataEntity
  typeHash : TypeHash
deriving DecidableEq

/-- `SubscriberInfo`. -/
structure SubscriberInfo where
  subscriberGid : Gid
  topicReader : DataEntity
  typeHash : TypeHash
deriving DecidableEq

/-- `ServiceInfo`. -/
structure ServiceInfo where
  publisherGid : Gid
  subscriberGid : Gid
  responseWriter : DataEntity
  requestReader : DataEntity
  requestTypeHash : TypeHash
  responseTypeHash : TypeHash
deriving DecidableEq

/-- `ClientInfo`. -/
structure ClientInfo where
  publisherGid : Gid
  subscriberGid : Gid
  requestWriter : DataEntity
  responseReader : DataEntity
  requestTypeHash : TypeHash
  responseTypeHash : TypeHash
deriving DecidableEq

section Hooks

variable {σ : Type} (cc : CommonContext σ)

/-- `add_local_publisher`. -/
def Ctx.addLocalPublisher (datawriter : DataEntity) (typeHash : TypeHash) (gid : Gid) :
    Ctx σ RmwRet := do
  match datawriter.qos with
  | .copyFails =>
    Ctx.setErrorMsg "failed to initialize DataWriterQos"
    return .error
  | .getFails =>
    Ctx.setErrorMsg "failed to get DataWriterQos"
    return .error
  | .ok qos =>
    let ctx ← get
    Ctx.addEntity cc gid ctx.gid datawriter.topicName datawriter.typeName typeHash qos false

/-- `add_local_subscriber`. -/
def Ctx.addLocalSubscriber (datareader : DataEntity) (typeHash : TypeHash) (gid : Gid) :
    Ctx σ RmwRet := do
  match datareader.qos with
  | .copyFails =>
    Ctx.setErrorMsg "failed to initialize DataReaderQos"
    return .error
  | .getFails =>
    Ctx.setErrorMsg "failed to get DataReaderQos"
    return .error
  | .ok qos =>
    let ctx ← get
    Ctx.addEntity cc gid ctx.gid datareader.topicName datareader.typeName typeHash
      { qos with lifespan := none } true

/-- `on_publisher_created`. -/
def Ctx.onPublisherCreated (node : RmwNode) (pub : PublisherInfo) : Ctx σ RmwRet := do
  let rc ← Ctx.addLocalPublisher cc pub.topicWriter pub.typeHash pub.publisherGid
  if rc ≠ .ok then
    Ctx.setErrorMsg "failed to add local publisher"
    return .error
  else
    let rc ← Ctx.common (cc.updateNodeGraph (.addPublisher pub.publisherGid node.name node.ns))
    if rc ≠ .ok then
      Ctx.setErrorMsg "failed to add publisher graph"
      let _ ← Ctx.removeEntity cc pub.publisherGid false
      return .error
    else return .ok

/-- `on_publisher_deleted`. -/
def Ctx.onPublisherDeleted (node : RmwNode) (pub : PublisherInfo) : Ctx σ RmwRet := do
  let rc ← Ctx.removeEntity cc pub.publisherGid false
  if rc ≠ .ok then
    Ctx.setErrorMsg "failed to remove entity of publisher"
    return .error
  else
    let rc ← Ctx.common (cc.updateNodeGraph (.removePublisher pub.publisherGid node.name node.ns))
    if rc ≠ .ok then
      Ctx.setErrorMsg "failed to remove remove publisher graph"
      return .error
    else return .ok

/-- `on_subscriber_created`. After a failed entry it takes out what the cache holds under the gid;
after a failed update, what the table of writers does. -/
def Ctx.onSubscriberCreated (node : RmwNode) (sub : SubscriberInfo) : Ctx σ RmwRet := do
  let rc ← Ctx.addLocalSubscriber cc sub.topicReader sub.typeHash sub.subscriberGid
  if rc ≠ .ok then
    Ctx.setErrorMsg "failed to add local subscriber"
    let _ ← Ctx.removeEntity cc sub.subscriberGid true
    return .error
  else
    let rc ← Ctx.common (cc.updateNodeGraph (.addSubscriber sub.subscriberGid node.name node.ns))
    if rc ≠ .ok then
      Ctx.setErrorMsg "failed to add subscriber graph"
      let _ ← Ctx.removeEntity cc sub.subscriberGid false
      return .error
    else return .ok

/-- `on_subscriber_deleted`. -/
def Ctx.onSubscriberDeleted (node : RmwNode) (sub : SubscriberInfo) : Ctx σ RmwRet := do
  let rc ← Ctx.removeEntity cc sub.subscriberGid true
  if rc ≠ .ok then
    Ctx.setErrorMsg "failed to remove entity of subscriber"
    return .error
  else
    let rc ← Ctx.common
      (cc.updateNodeGraph (.removeSubscriber sub.subscriberGid node.name node.ns))
    if rc ≠ .ok then
      Ctx.setErrorMsg "failed to remove remove subscriber graph"
      return .error
    else return .ok

/-- The scope exit of a service's or a client's hook, with the flags it captured. -/
def Ctx.entitiesReset (addSub addPub : Bool) (subGid pubGid : Gid) : Ctx σ Unit := do
  if addSub then let _ ← Ctx.removeEntity cc subGid true
  if addPub then let _ ← Ctx.removeEntity cc pubGid false

/-- A reader and a writer that come together. The scope exit captures the flags as they are at its
construction. -/
def Ctx.pairCreated (reader writer : DataEntity) (readerHash writerHash : TypeHash)
    (subGid pubGid : Gid) (update : NodeGraphUpdate) (graphMsg : String) : Ctx σ RmwRet := do
  let scopeExit := Ctx.entitiesReset cc false false subGid pubGid
  let rc ← Ctx.addLocalSubscriber cc reader readerHash subGid
  if rc ≠ .ok then
    Ctx.setErrorMsg "failed to add local subscriber"
    scopeExit
    return .error
  else
    let rc ← Ctx.addLocalPublisher cc writer writerHash pubGid
    if rc ≠ .ok then
      Ctx.setErrorMsg "failed to add local publisher"
      scopeExit
      return .error
    else
      let rc ← Ctx.common (cc.updateNodeGraph update)
      if rc ≠ .ok then
        Ctx.setErrorMsg graphMsg
        scopeExit
        return .error
      else return .ok

/-- A reader and a writer that go together. `failed` starts false, and a conjunction keeps it so. -/
def Ctx.pairDeleted (subGid pubGid : Gid) (update : NodeGraphUpdate) : Ctx σ RmwRet := do
  let failed := false
  let rc ← Ctx.removeEntity cc subGid true
  let failed := failed && decide (rc = .ok)
  let rc ← Ctx.removeEntity cc pubGid false
  let failed := failed && decide (rc = .ok)
  let rc ← Ctx.common (cc.updateNodeGraph update)
  let failed := failed && decide (rc = .ok)
  return if failed then .error else .ok

/-- `on_service_created`. -/
def Ctx.onServiceCreated (node : RmwNode) (svc : ServiceInfo) : Ctx σ RmwRet :=
  Ctx.pairCreated cc svc.requestReader svc.responseWriter svc.requestTypeHash svc.responseTypeHash
    svc.subscriberGid svc.publisherGid
    (.addService svc.subscriberGid svc.publisherGid node.name node.ns) "failed to add service graph"

/-- `on_service_deleted`. -/
def Ctx.onServiceDeleted (node : RmwNode) (svc : ServiceInfo) : Ctx σ RmwRet :=
  Ctx.pairDeleted cc svc.subscriberGid svc.publisherGid
    (.removeService svc.subscriberGid svc.publisherGid node.name node.ns)

/-- `on_client_created`. -/
def Ctx.onClientCreated (node : RmwNode) (client : ClientInfo) : Ctx σ RmwRet :=
  Ctx.pairCreated cc client.responseReader client.requestWriter client.responseTypeHash
    client.requestTypeHash client.subscriberGid client.publisherGid
    (.addClient client.publisherGid client.subscriberGid node.name node.ns)
    "failed to add client graph"

/-- `on_client_deleted`. It updates the node graph as for a service. -/
def Ctx.onClientDeleted (node : RmwNode) (client : ClientInfo) : Ctx σ RmwRet :=
  Ctx.pairDeleted cc client.subscriberGid client.publisherGid
    (.removeService client.subscriberGid client.publisherGid node.name node.ns)

end Hooks

/-! ## What the hooks do

Where reading the QoS and updating the node graph succeed, a creation hook fails only on a gid that
is there. A deletion hook of a publisher or a subscription fails on one that is not there, a
service's or a client's never. -/

/-- What the graph keeps of a local endpoint. -/
def DataEntity.info (entity : DataEntity) (own : Gid) (typeHash : TypeHash) (qos : EndpointQos) :
    EntityInfo where
  topicName := entity.topicName
  typeName := entity.typeName
  typeHash := typeHash
  participantGid := own
  qos := qosProfile qos

section Hooks

variable {σ : Type} {cc : CommonContext σ} {own : Gid} {t : Tables Bool Gid EntityInfo}

theorem holds_addLocalPublisher (lawful : cc.Lawful) {datawriter : DataEntity} {qos : EndpointQos}
    (read : datawriter.qos = .ok qos) (typeHash : TypeHash) {gid : Gid}
    (absent : gid ∉ t.keys false) :
    Holds cc own t (Ctx.addLocalPublisher cc datawriter typeHash gid) fun rc ctx =>
      cc.At own (t.emplace false gid (datawriter.info own typeHash qos)) ctx ∧ rc = .ok := by
  unfold Ctx.addLocalPublisher
  rw [read]
  refine holds_get.bind fun ctx => Triple.assume fun gid_eq => ?_
  rw [gid_eq]
  exact Triple.weaken (holds_addEntity lawful _ _ _ _ _ _ _) (fun _ at_ => at_)
    fun _ _ h => ⟨h.1, h.2.mpr absent⟩

theorem holds_addLocalSubscriber (lawful : cc.Lawful) {datareader : DataEntity} {qos : EndpointQos}
    (read : datareader.qos = .ok qos) (typeHash : TypeHash) {gid : Gid}
    (absent : gid ∉ t.keys true) :
    Holds cc own t (Ctx.addLocalSubscriber cc datareader typeHash gid) fun rc ctx =>
      cc.At own (t.emplace true gid
        (datareader.info own typeHash { qos with lifespan := none })) ctx ∧ rc = .ok := by
  unfold Ctx.addLocalSubscriber
  rw [read]
  refine holds_get.bind fun ctx => Triple.assume fun gid_eq => ?_
  rw [gid_eq]
  exact Triple.weaken (holds_addEntity lawful _ _ _ _ _ _ _) (fun _ at_ => at_)
    fun _ _ h => ⟨h.1, h.2.mpr absent⟩

/-- The end of a hook whose update of the node graph succeeds. -/
theorem holds_updated (lawful : cc.Lawful) (succeeds : cc.NodeGraphSucceeds) (u : NodeGraphUpdate)
    (failing : Ctx σ RmwRet) :
    Holds cc own t (do
        let rc ← Ctx.common (cc.updateNodeGraph u)
        if rc ≠ .ok then failing else return .ok)
      fun rc ctx => cc.At own t ctx ∧ rc = .ok :=
  checked (holds_updateNodeGraph lawful succeeds u) (Triple.pure fun _ at_ => ⟨at_, rfl⟩)

theorem holds_onPublisherCreated (lawful : cc.Lawful) (succeeds : cc.NodeGraphSucceeds)
    (node : RmwNode) {pub : PublisherInfo} {qos : EndpointQos}
    (read : pub.topicWriter.qos = .ok qos)
    (absent : pub.publisherGid ∉ t.keys false) :
    Holds cc own t (Ctx.onPublisherCreated cc node pub) fun rc ctx =>
      cc.At own (t.emplace false pub.publisherGid
        (pub.topicWriter.info own pub.typeHash qos)) ctx ∧ rc = .ok :=
  checked (holds_addLocalPublisher lawful read _ absent) (holds_updated lawful succeeds _ _)

theorem holds_onSubscriberCreated (lawful : cc.Lawful) (succeeds : cc.NodeGraphSucceeds)
    (node : RmwNode) {sub : SubscriberInfo} {qos : EndpointQos}
    (read : sub.topicReader.qos = .ok qos) (absent : sub.subscriberGid ∉ t.keys true) :
    Holds cc own t (Ctx.onSubscriberCreated cc node sub) fun rc ctx =>
      cc.At own (t.emplace true sub.subscriberGid
        (sub.topicReader.info own sub.typeHash { qos with lifespan := none })) ctx ∧ rc = .ok :=
  checked (holds_addLocalSubscriber lawful read _ absent) (holds_updated lawful succeeds _ _)

theorem holds_onPublisherDeleted (lawful : cc.Lawful) (succeeds : cc.NodeGraphSucceeds)
    (node : RmwNode) {pub : PublisherInfo} (present : pub.publisherGid ∈ t.keys false) :
    Holds cc own t (Ctx.onPublisherDeleted cc node pub) fun rc ctx =>
      cc.At own (t.erase false pub.publisherGid) ctx ∧ rc = .ok :=
  checked (holds_removePresent lawful present) (holds_updated lawful succeeds _ _)

theorem holds_onSubscriberDeleted (lawful : cc.Lawful) (succeeds : cc.NodeGraphSucceeds)
    (node : RmwNode) {sub : SubscriberInfo} (present : sub.subscriberGid ∈ t.keys true) :
    Holds cc own t (Ctx.onSubscriberDeleted cc node sub) fun rc ctx =>
      cc.At own (t.erase true sub.subscriberGid) ctx ∧ rc = .ok :=
  checked (holds_removePresent lawful present) (holds_updated lawful succeeds _ _)

/-- The reader comes first, so its entry is there when the writer's is made. -/
theorem holds_pairCreated (lawful : cc.Lawful) (succeeds : cc.NodeGraphSucceeds)
    {reader writer : DataEntity} {readerQos writerQos : EndpointQos}
    (readReader : reader.qos = .ok readerQos) (readWriter : writer.qos = .ok writerQos)
    (readerHash writerHash : TypeHash) {subGid pubGid : Gid} (absentReader : subGid ∉ t.keys true)
    (absentWriter : pubGid ∉ t.keys false) (update : NodeGraphUpdate) (graphMsg : String) :
    Holds cc own t (Ctx.pairCreated cc reader writer readerHash writerHash subGid pubGid update
        graphMsg)
      fun rc ctx => cc.At own ((t.emplace true subGid
          (reader.info own readerHash { readerQos with lifespan := none })).emplace false pubGid
          (writer.info own writerHash writerQos)) ctx ∧ rc = .ok := by
  refine checked (holds_addLocalSubscriber lawful readReader _ absentReader) ?_
  refine checked (holds_addLocalPublisher lawful readWriter _ ?_)
    (holds_updated lawful succeeds _ _)
  rw [Tables.mem_keys_emplace]
  rintro (⟨other, -⟩ | there)
  · exact nomatch other
  · exact absentWriter there

/-- Nothing sets the flag. -/
theorem holds_pairDeleted (lawful : cc.Lawful) (succeeds : cc.NodeGraphSucceeds)
    (subGid pubGid : Gid) (update : NodeGraphUpdate) :
    Holds cc own t (Ctx.pairDeleted cc subGid pubGid update) fun rc ctx =>
      cc.At own ((t.erase true subGid).erase false pubGid) ctx ∧ rc = .ok :=
  (holds_removeEntity lawful _ _).bind fun _ => Triple.assume fun _ =>
    (holds_removeEntity lawful _ _).bind fun _ => Triple.assume fun _ =>
      (holds_updateNodeGraph lawful succeeds _).bind fun _ => Triple.assume fun _ =>
        Triple.pure fun _ at_ => ⟨at_, rfl⟩

end Hooks

end Graph
