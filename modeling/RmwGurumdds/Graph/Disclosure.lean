import RmwGurumdds.Graph.Endpoints

/-!
# What a graph keeps of an endpoint

A context enters its own endpoint with what the endpoint's reader and writer say of themselves, and
an endpoint of another context with what DDS tells of it. DDS does not tell the history, and the
type hash does not get through, so that much of an entry a context has of another's endpoint may
differ; the rest is `disclosed`, and in it the two agree (`disclosed_discovery`).

Here is what the calls that create and destroy an endpoint and the callbacks do to the entries
themselves, not only to the keys.
-/

namespace Graph

open Wire Rmw Store Exec

/-! ## Entries -/

/-- The part of an entry that an announcement tells. -/
def EntityInfo.disclosed (info : EntityInfo) : EntityInfo :=
  { info with typeHash := .zero, qos := { info.qos with history := .unknown, depth := 0 } }

/-- The reader or the writer of an endpoint, with its type hash. -/
def Endpoint.entity : Endpoint → (isReader : Bool) → Option (DataEntity × TypeHash)
  | .publisher info, false => some (info.topicWriter, info.typeHash)
  | .publisher _, true => none
  | .subscription _, false => none
  | .subscription info, true => some (info.topicReader, info.typeHash)
  | .service info, false => some (info.responseWriter, info.responseTypeHash)
  | .service info, true => some (info.requestReader, info.requestTypeHash)
  | .client info, false => some (info.requestWriter, info.requestTypeHash)
  | .client info, true => some (info.responseReader, info.responseTypeHash)

/-- What a reader is entered with. It has no lifespan. -/
def sideQos (isReader : Bool) (qos : EndpointQos) : EndpointQos :=
  if isReader then { qos with lifespan := none } else qos

/-- What the participant `own` enters of its endpoint. -/
def Endpoint.info (own : Gid) (e : Endpoint) (isReader : Bool) : Option EntityInfo :=
  match e.entity isReader with
  | none => none
  | some (entity, typeHash) =>
    match entity.qos with
    | .ok qos => some (entity.info own typeHash (sideQos isReader qos))
    | _ => none

theorem Endpoint.info_eq_some {own : Gid} {e : Endpoint} {isReader : Bool} {info : EntityInfo} :
    e.info own isReader = some info ↔ ∃ entity typeHash qos,
      e.entity isReader = some (entity, typeHash) ∧ entity.qos = .ok qos ∧
        entity.info own typeHash (sideQos isReader qos) = info := by
  unfold Endpoint.info
  cases e.entity isReader with
  | none => simp
  | some entry =>
    obtain ⟨entity, typeHash⟩ := entry
    cases read : entity.qos <;> simp [read]

/-- The call tells the graph of the endpoint. -/
def Endpoint.Told (range : AutomaticDiscoveryRange) (e : Endpoint) : Prop :=
  e.ranged = true → range ≠ .localhost

instance (range : AutomaticDiscoveryRange) (e : Endpoint) : Decidable (e.Told range) :=
  inferInstanceAs (Decidable (_ → _))

section Functions

variable {σ : Type} {cc : CommonContext σ} {own : Gid} {t t' : Tables Bool Gid EntityInfo}
  {range : AutomaticDiscoveryRange} {node : RmwNode} {ctx : RmwContextImpl σ} {e : Endpoint}

/-- The tables with an endpoint entered. -/
def Endpoint.entered (own : Gid) (e : Endpoint) (t : Tables Bool Gid EntityInfo) :
    Tables Bool Gid EntityInfo :=
  fun isReader gid => if e.gid isReader = some gid then e.info own isReader else t isReader gid

/-- The tables with an endpoint taken out. -/
def Endpoint.left (e : Endpoint) (t : Tables Bool Gid EntityInfo) : Tables Bool Gid EntityInfo :=
  fun isReader gid => if e.gid isReader = some gid then none else t isReader gid

/-- The tables have no entry under a gid of the endpoint. -/
def Endpoint.Absent (e : Endpoint) (t : Tables Bool Gid EntityInfo) : Prop :=
  ∀ isReader gid, e.gid isReader = some gid → t isReader gid = none

theorem Endpoint.Absent.notMem (absent : e.Absent t) {isReader : Bool} {gid : Gid}
    (has : e.gid isReader = some gid) : gid ∉ t.keys isReader := by
  rw [Tables.mem_keys, absent isReader gid has]
  exact Bool.false_ne_true

theorem emplace_of_none {isReader : Bool} {gid : Gid} {info : EntityInfo}
    (absent : t isReader gid = none) (table : Bool) (other : Gid) :
    t.emplace isReader gid info table other =
      if table = isReader ∧ other = gid then some info else t table other := by
  rw [Tables.emplace]
  refine if_ctx_congr Iff.rfl (fun here => ?_) fun _ => rfl
  rw [here.1, here.2, absent, Option.getD_none]

/-- An endpoint with a reader or a writer alone. -/
theorem emplace_eq_entered (own : Gid) (e : Endpoint) {side : Bool} {gid : Gid} {info : EntityInfo}
    (has : e.gid side = some gid) (alone : e.gid (!side) = none)
    (told : e.info own side = some info) (absent : e.Absent t) :
    t.emplace side gid info = e.entered own t := by
  funext isReader other
  rw [emplace_of_none (absent side gid has), Endpoint.entered]
  by_cases same : isReader = side
  · subst same
    simp [has, told, eq_comm (a := gid)]
  · obtain rfl : isReader = !side := Bool.eq_not_of_ne same
    simp [alone]

/-- An endpoint with both. -/
theorem emplace_emplace_eq_entered (own : Gid) (e : Endpoint) {subGid pubGid : Gid}
    {reader writer : EntityInfo}
    (hasReader : e.gid true = some subGid) (hasWriter : e.gid false = some pubGid)
    (toldReader : e.info own true = some reader) (toldWriter : e.info own false = some writer)
    (absent : e.Absent t) :
    (t.emplace true subGid reader).emplace false pubGid writer = e.entered own t := by
  have elsewhere : (t.emplace true subGid reader) false pubGid = none := by
    rw [emplace_of_none (absent true subGid hasReader), if_neg (by simp)]
    exact absent false pubGid hasWriter
  funext isReader other
  rw [emplace_of_none elsewhere, emplace_of_none (absent true subGid hasReader), Endpoint.entered]
  cases isReader with
  | false => simp [hasWriter, toldWriter, eq_comm (a := pubGid)]
  | true => simp [hasReader, toldReader, eq_comm (a := subGid)]

theorem erase_eq_left (e : Endpoint) (side : Bool) {gid : Gid} (has : e.gid side = some gid)
    (alone : e.gid (!side) = none) : t.erase side gid = e.left t := by
  funext isReader other
  rw [Tables.erase, Endpoint.left]
  by_cases same : isReader = side
  · subst same
    simp [has, eq_comm (a := gid)]
  · obtain rfl : isReader = !side := Bool.eq_not_of_ne same
    simp [alone]

theorem erase_erase_eq_left (e : Endpoint) {subGid pubGid : Gid}
    (hasReader : e.gid true = some subGid) (hasWriter : e.gid false = some pubGid) :
    (t.erase true subGid).erase false pubGid = e.left t := by
  funext isReader other
  rw [Tables.erase, Tables.erase, Endpoint.left]
  cases isReader with
  | false => simp [hasWriter, eq_comm (a := pubGid)]
  | true => simp [hasReader, eq_comm (a := subGid)]

/-! ## Calls -/

/-- The flag is the range. -/
theorem at_of_flag (ranged : e.ranged = true)
    (at_ : if decide (range = .localhost) = true then cc.At own t ctx else cc.At own t' ctx) :
    cc.At own (if e.Told range then t' else t) ctx := by
  by_cases localhost : range = .localhost
  · rw [if_neg fun told : e.Told range => told ranged localhost]
    rwa [if_pos (decide_eq_true localhost)] at at_
  · rw [if_pos (show e.Told range from fun _ => localhost)]
    rwa [decide_eq_false localhost, if_neg Bool.false_ne_true] at at_

/-- **Creation** enters the endpoint with what its reader and its writer say, unless the range
keeps it out. -/
theorem holds_create_info (range : AutomaticDiscoveryRange) (node : RmwNode) (lawful : cc.Lawful)
    (succeeds : cc.NodeGraphSucceeds) (readable : e.Readable) (absent : e.Absent t) :
    Holds cc own t (Ctx.create cc range node e) fun created ctx => created = true ∧
      cc.At own (if e.Told range then e.entered own t else t) ctx := by
  cases e with
  | publisher info =>
    obtain ⟨qos, read⟩ := readable
    refine Triple.bind (Q := fun r ctx => r.isSome = true ∧ _) ?_ fun _ => Triple.pure fun _ h => h
    refine (holds_createPublisher lawful succeeds read (absent.notMem rfl) _).bind fun _ =>
      Triple.assume fun created => ?_
    rw [created]
    refine Triple.pure fun ctx at_ => ⟨rfl, ?_⟩
    rw [emplace_eq_entered own (.publisher info) rfl rfl
      (by simp [Endpoint.info, Endpoint.entity, read, sideQos]) absent] at at_
    exact at_of_flag rfl at_
  | subscription info =>
    obtain ⟨qos, read⟩ := readable
    refine Triple.bind (Q := fun r ctx => r.isSome = true ∧ _) ?_ fun _ => Triple.pure fun _ h => h
    refine (holds_createSubscription lawful succeeds read (absent.notMem rfl) _).bind fun _ =>
      Triple.assume fun created => ?_
    rw [created]
    refine Triple.pure fun ctx at_ => ⟨rfl, ?_⟩
    rw [emplace_eq_entered own (.subscription info) rfl rfl
      (by simp [Endpoint.info, Endpoint.entity, read, sideQos]) absent] at at_
    exact at_of_flag rfl at_
  | service info =>
    obtain ⟨⟨readerQos, readReader⟩, writerQos, readWriter⟩ := readable
    refine Triple.bind (Q := fun r ctx => r.isSome = true ∧ _) ?_ fun _ => Triple.pure fun _ h => h
    refine checked (holds_pairCreated lawful succeeds readReader readWriter _ _ (absent.notMem rfl)
      (absent.notMem rfl) _ _) (Triple.pure fun ctx at_ => ⟨rfl, ?_⟩)
    rw [emplace_emplace_eq_entered own (.service info) rfl rfl
      (by simp [Endpoint.info, Endpoint.entity, readReader, sideQos])
      (by simp [Endpoint.info, Endpoint.entity, readWriter, sideQos]) absent] at at_
    rwa [if_pos (show Endpoint.Told range (.service info) from nofun)]
  | client info =>
    obtain ⟨⟨readerQos, readReader⟩, writerQos, readWriter⟩ := readable
    refine Triple.bind (Q := fun r ctx => r.isSome = true ∧ _) ?_ fun _ => Triple.pure fun _ h => h
    refine checked (holds_pairCreated lawful succeeds readReader readWriter _ _ (absent.notMem rfl)
      (absent.notMem rfl) _ _) (Triple.pure fun ctx at_ => ⟨rfl, ?_⟩)
    rw [emplace_emplace_eq_entered own (.client info) rfl rfl
      (by simp [Endpoint.info, Endpoint.entity, readReader, sideQos])
      (by simp [Endpoint.info, Endpoint.entity, readWriter, sideQos]) absent] at at_
    rwa [if_pos (show Endpoint.Told range (.client info) from nofun)]

/-- **Destruction** takes an endpoint out that is entered. -/
theorem holds_destroy_entered (node : RmwNode) (lawful : cc.Lawful)
    (succeeds : cc.NodeGraphSucceeds)
    (present : ∀ isReader gid, e.gid isReader = some gid → gid ∈ t.keys isReader) :
    Holds cc own t (Ctx.destroy cc node .ok e) fun ret ctx => ret = .ok ∧
      cc.At own (e.left t) ctx := by
  cases e with
  | publisher info =>
    rw [← erase_eq_left (.publisher info) false rfl rfl]
    exact checked (holds_onPublisherDeleted lawful succeeds node (present false _ rfl))
      (Triple.pure fun ctx at_ => ⟨rfl, at_⟩)
  | subscription info =>
    rw [← erase_eq_left (.subscription info) true rfl rfl]
    exact checked (holds_onSubscriberDeleted lawful succeeds node (present true _ rfl))
      (Triple.pure fun ctx at_ => ⟨rfl, at_⟩)
  | service info =>
    rw [← erase_erase_eq_left (.service info) rfl rfl]
    exact holds_destroyPair lawful succeeds
  | client info =>
    rw [← erase_erase_eq_left (.client info) rfl rfl]
    exact holds_destroyPair lawful succeeds

/-- What both functions that fail make of an entity that is not there. -/
theorem holds_removeAbsent (lawful : cc.Lawful) {gid : Gid} {isReader : Bool}
    (absent : t isReader gid = none) :
    Holds cc own t (Ctx.removeEntity cc gid isReader) fun rc ctx =>
      cc.At own t ctx ∧ rc ≠ .ok := by
  have notMem : gid ∉ t.keys isReader := by
    rw [Tables.mem_keys, absent]
    exact Bool.false_ne_true
  refine Triple.weaken (holds_removeEntity lawful gid isReader) (fun _ at_ => at_) ?_
  rintro rc ctx ⟨at_, ok_iff⟩
  rw [Tables.erase_of_notMem notMem] at at_
  exact ⟨at_, fun ok => notMem (ok_iff.mp ok)⟩

/-- A publisher or a subscription that is not entered cannot be destroyed. -/
theorem holds_destroy_absent (node : RmwNode) (lawful : cc.Lawful) (ranged : e.ranged = true)
    (absent : e.Absent t) :
    Holds cc own t (Ctx.destroy cc node .ok e) fun ret ctx => ret = .error ∧ cc.At own t ctx := by
  cases e with
  | publisher info =>
    refine Triple.bind (Q := fun rc ctx => cc.At own t ctx ∧ rc = .error) ?_ fun rc =>
      Triple.assume fun failed => ?_
    · refine (holds_removeAbsent lawful (absent false _ rfl)).bind fun rc =>
        Triple.assume fun failed => ?_
      rw [if_pos failed]
      exact (holds_setErrorMsg _).bind fun _ => Triple.pure fun _ at_ => ⟨at_, rfl⟩
    · rw [if_pos (by simp [failed])]
      exact Triple.pure fun _ at_ => ⟨rfl, at_⟩
  | subscription info =>
    refine Triple.bind (Q := fun rc ctx => cc.At own t ctx ∧ rc = .error) ?_ fun rc =>
      Triple.assume fun failed => ?_
    · refine (holds_removeAbsent lawful (absent true _ rfl)).bind fun rc =>
        Triple.assume fun failed => ?_
      rw [if_pos failed]
      exact (holds_setErrorMsg _).bind fun _ => Triple.pure fun _ at_ => ⟨at_, rfl⟩
    · rw [if_pos (by simp [failed])]
      exact Triple.pure fun _ at_ => ⟨rfl, at_⟩
  | service info => exact nomatch ranged
  | client info => exact nomatch ranged

end Functions

/-! ## Announcements -/

/-- The policies that an announcement carries. -/
def Discovery.qos : Discovery → EndpointQos
  | .publication data _ =>
    { history := none, reliability := data.reliability, durability := data.durability,
      deadline := data.deadline, liveliness := data.liveliness, lifespan := some data.lifespan }
  | .subscription data _ =>
    { history := none, reliability := data.reliability, durability := data.durability,
      deadline := data.deadline, liveliness := data.liveliness, lifespan := none }

section Functions

variable {σ : Type} {cc : CommonContext σ} {host : ByteOrder} {own : Gid}
  {t : Tables Bool Gid EntityInfo} {d : Discovery}

/-- What a context enters of an endpoint that is announced to it. -/
def Discovery.info (cc : CommonContext σ) (host : ByteOrder) (d : Discovery) : EntityInfo where
  topicName := d.data.topicName
  typeName := d.data.typeName
  typeHash := (cc.parseTypeHashFromUserData d.data.userData.value d.data.userData.size).getD .zero
  participantGid := guidToGid (participantGuid host d.data)
  qos := qosProfile d.qos

/-- What both callbacks do with an announcement of another participant's endpoint. -/
theorem holds_addRemoteEntity_info (lawful : cc.Lawful) (endpGuid : Guid) {dpGuid : Guid}
    (foreign : guidToGid dpGuid ≠ own) (topicName typeName : String) (userData : UserData)
    (qos : EndpointQos) (isReader : Bool) :
    Holds cc own t (Ctx.addRemoteEntity cc endpGuid dpGuid topicName typeName userData qos isReader)
      fun _ => cc.At own (t.emplace isReader (guidToGid endpGuid)
        { topicName, typeName,
          typeHash := (cc.parseTypeHashFromUserData userData.value userData.size).getD .zero,
          participantGid := guidToGid dpGuid, qos := qosProfile qos }) := by
  refine holds_get.bind fun ctx => Triple.assume fun gid_eq => ?_
  rw [gid_eq, if_neg foreign]
  cases parsed : cc.parseTypeHashFromUserData userData.value userData.size with
  | some typeHash =>
    exact Triple.weaken (holds_addEntity lawful _ _ _ _ _ _ _) (fun _ at_ => at_) fun _ _ h => h.1
  | none =>
    refine holds_resetError.bind fun _ => ?_
    exact Triple.weaken (holds_addEntity lawful _ _ _ _ _ _ _) (fun _ at_ => at_) fun _ _ h => h.1

/-- **An announcement** of another participant's endpoint enters what it tells. -/
theorem holds_announce (host : ByteOrder) (lawful : cc.Lawful) (foreign : Remote own d.gid)
    (announced : d.handle ≠ .nil) :
    Holds cc own t (Ctx.discover cc host d) fun _ =>
      cc.At own (t.emplace d.isReader d.gid (d.info cc host)) := by
  cases d with
  | publication data handle =>
    refine Triple.ite (fun nil => absurd nil announced) fun _ => ?_
    exact (holds_addRemoteEntity_info lawful _ (participantGuid_ne foreign) _ _ _ _ _).bind
      fun _ => Triple.pure fun _ at_ => at_
  | subscription data handle =>
    refine Triple.ite (fun nil => absurd nil announced) fun _ => ?_
    exact (holds_addRemoteEntity_info lawful _ (participantGuid_ne foreign) _ _ _ _ _).bind
      fun _ => Triple.pure fun _ at_ => at_

/-- **A withdrawal**, of whichever endpoint, takes out a writer. -/
theorem holds_withdraw (host : ByteOrder) (lawful : cc.Lawful) (foreign : Remote own d.gid)
    (withdrawn : d.handle = .nil) :
    Holds cc own t (Ctx.discover cc host d) fun _ => cc.At own (t.erase false d.gid) := by
  refine (holds_discover host lawful foreign).weaken (fun _ at_ => at_) fun _ ctx after => ?_
  rwa [if_pos withdrawn] at after

/-- Own announcements are ignored. -/
theorem holds_discover_own (host : ByteOrder) (near : ¬ Remote own d.gid)
    (participant : own = guidToGid (participantGuid host d.data)) :
    Holds cc own t (Ctx.discover cc host d) fun _ => cc.At own t := by
  have prefixes : (guidToGid (endpointGuid d.data)).toList.take 12 = own.toList.take 12 :=
    not_not.mp near
  have removed (isReader : Bool) : Holds cc own t
      (Ctx.removeRemoteEntity cc (endpointGuid d.data) isReader) fun _ => cc.At own t := by
    refine holds_get.bind fun ctx => Triple.assume fun gid_eq => ?_
    rw [gid_eq, if_pos prefixes]
    exact Triple.pure fun _ at_ => at_
  have added (qos : EndpointQos) (isReader : Bool) : Holds cc own t
      (Ctx.addRemoteEntity cc (endpointGuid d.data) (participantGuid host d.data) d.data.topicName
        d.data.typeName d.data.userData qos isReader) fun _ => cc.At own t := by
    refine holds_get.bind fun ctx => Triple.assume fun gid_eq => ?_
    rw [gid_eq, if_pos participant.symm]
    exact Triple.pure fun _ at_ => at_
  cases d with
  | publication data handle =>
    exact Triple.ite (fun _ => (removed false).bind fun _ => Triple.pure fun _ at_ => at_)
      fun _ => (added _ false).bind fun _ => Triple.pure fun _ at_ => at_
  | subscription data handle =>
    exact Triple.ite (fun _ => (removed false).bind fun _ => Triple.pure fun _ at_ => at_)
      fun _ => (added _ true).bind fun _ => Triple.pure fun _ at_ => at_

end Functions

/-! ## What DDS tells -/

/-- DDS announces an endpoint's reader or writer with this data, as this instance. -/
structure Announcer where
  data : Endpoint → (isReader : Bool) → PublicationBuiltinTopicData
  instance_ : Endpoint → (isReader : Bool) → Nat

/-- An endpoint comes, or goes. -/
inductive News where
  | comes (e : Endpoint)
  | goes (e : Endpoint)
deriving DecidableEq

/-- The endpoint in question. -/
def News.endpoint : News → Endpoint
  | .comes e => e
  | .goes e => e

/-- The call that DDS makes for news of a reader or of a writer. -/
def Announcer.discovery (dds : Announcer) (isReader : Bool) (news : News) : Discovery :=
  let data := dds.data news.endpoint isReader
  let handle := match news with
    | .comes e => .of (dds.instance_ e isReader)
    | .goes _ => .nil
  if isReader then .subscription data.toSubscriptionBuiltinTopicData handle
  else .publication data handle

/-- DDS tells the truth about an endpoint: its gids, topics and types, and all policies but the
history. -/
structure Announcer.Tells (dds : Announcer) (e : Endpoint) : Prop where
  gid : ∀ isReader gid, e.gid isReader = some gid →
    guidToGid (endpointGuid (dds.data e isReader).toSubscriptionBuiltinTopicData) = gid
  topicName : ∀ isReader entity typeHash, e.entity isReader = some (entity, typeHash) →
    (dds.data e isReader).topicName = entity.topicName
  typeName : ∀ isReader entity typeHash, e.entity isReader = some (entity, typeHash) →
    (dds.data e isReader).typeName = entity.typeName
  qos : ∀ isReader entity typeHash qos, e.entity isReader = some (entity, typeHash) →
    entity.qos = .ok qos →
    (dds.discovery isReader (.comes e)).qos = { sideQos isReader qos with history := none }

section Announcements

variable {dds : Announcer} {e : Endpoint} {isReader : Bool} {gid : Gid} {news : News}

@[simp] theorem Announcer.discovery_data :
    (dds.discovery isReader news).data =
      (dds.data news.endpoint isReader).toSubscriptionBuiltinTopicData := by
  cases isReader <;> rfl

@[simp] theorem Announcer.discovery_isReader :
    (dds.discovery isReader news).isReader = isReader := by
  cases isReader <;> rfl

theorem Announcer.discovery_comes : (dds.discovery isReader (.comes e)).handle ≠ .nil := by
  cases isReader <;> exact nofun

theorem Announcer.discovery_goes : (dds.discovery isReader (.goes e)).handle = .nil := by
  cases isReader <;> rfl

theorem Announcer.Tells.discovery_gid (tells : dds.Tells news.endpoint)
    (has : news.endpoint.gid isReader = some gid) : (dds.discovery isReader news).gid = gid := by
  rw [Discovery.gid, Announcer.discovery_data]
  exact tells.gid isReader gid has

/-- The history is all that a profile owes to it. -/
theorem qosProfile_history (qos : EndpointQos) :
    qosProfile { qos with history := none } =
      { qosProfile qos with history := .unknown, depth := 0 } := rfl

/-- **Another context enters what the owner does**, as far as it is told. -/
theorem disclosed_discovery {σ : Type} (cc : CommonContext σ) {host : ByteOrder} {own : Gid}
    {info : EntityInfo} (tells : dds.Tells e) (told : e.info own isReader = some info)
    (participant : own = guidToGid
      (participantGuid host (dds.data e isReader).toSubscriptionBuiltinTopicData)) :
    ((dds.discovery isReader (.comes e)).info cc host).disclosed = info.disclosed := by
  obtain ⟨entity, typeHash, qos, side, read, rfl⟩ := Endpoint.info_eq_some.mp told
  simp only [EntityInfo.disclosed, Discovery.info, DataEntity.info, Announcer.discovery_data,
    News.endpoint, tells.topicName isReader entity typeHash side,
    tells.typeName isReader entity typeHash side, ← participant,
    tells.qos isReader entity typeHash qos side read, qosProfile_history]

end Announcements

end Graph
