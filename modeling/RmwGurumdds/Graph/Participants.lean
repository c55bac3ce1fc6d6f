import RmwGurumdds.Graph.Endpoints

/-!
# Participants

DDS announces participants as it announces endpoints, and withdraws them again. The context enters
them into a third table of the graph cache, with the enclave their user data names.

DDS may also announce the context's own participant and its endpoints. Three tests keep these
announcements out: a participant is compared by its whole gid, the participant of an announced
endpoint likewise, and a withdrawn endpoint by its first twelve bytes. Both whole gids end in the
same identifier as the context's own, so all three come to the same, and no callback disturbs what
the graph holds of the context itself (`local_entries_undisturbed`).
-/

namespace Graph

open Wire Rmw Store Exec

/-! ## Callbacks -/

/-- `dds_ParticipantBuiltinTopicData`. -/
structure ParticipantBuiltinTopicData where
  key : BuiltinTopicKey
  userData : UserData

/-- A common context with its table of participants, over what the table keeps of them.
`parseKeyValue` is `rmw::impl::cpp::parse_key_value`, as the lookup in the map it returns. -/
structure ParticipantContext (σ π : Type) extends CommonContext σ where
  participants : σ → Gid → Option π
  addParticipant : Gid → (enclave : List Byte) → σ → σ
  removeParticipant : Gid → σ → σ
  parseKeyValue : List Byte → (key : String) → Option (List Byte)

/-- What the repository counts on: an operation on one participant or one endpoint changes nothing
else. -/
structure ParticipantContext.Lawful {σ π : Type} (pc : ParticipantContext σ π) : Prop where
  common : pc.toCommonContext.Lawful
  addParticipant_participants : ∀ gid enclave s other, other ≠ gid →
    pc.participants (pc.addParticipant gid enclave s) other = pc.participants s other
  addParticipant_tables : ∀ gid enclave s,
    pc.graphCache.tables (pc.addParticipant gid enclave s) = pc.graphCache.tables s
  removeParticipant_participants : ∀ gid s other, other ≠ gid →
    pc.participants (pc.removeParticipant gid s) other = pc.participants s other
  removeParticipant_tables : ∀ gid s,
    pc.graphCache.tables (pc.removeParticipant gid s) = pc.graphCache.tables s
  add_participants : ∀ isReader gid info s,
    pc.participants (pc.graphCache.add isReader gid info s).2 = pc.participants s
  remove_participants : ∀ isReader gid s,
    pc.participants (pc.graphCache.remove isReader gid s).2 = pc.participants s

/-- `Guid_t::Guid_t` of a participant's data. -/
def participantDataGuid (host : ByteOrder) (data : ParticipantBuiltinTopicData) : Guid where
  guidPrefix := data.key
  entityId := entityIdParticipant host

/-- The string a C pointer to these bytes stands for. -/
def cString (bytes : List Byte) : List Byte := bytes.takeWhile (· ≠ 0)

section Callbacks

variable {σ π : Type} (pc : ParticipantContext σ π) (host : ByteOrder)

/-- `get_user_data_key`. -/
def getUserDataKey (data : ParticipantBuiltinTopicData) (key : String) :
    RmwRet × Option (List Byte) :=
  if data.userData.size = 0 then (.ok, none)
  else (.ok, pc.parseKeyValue (data.userData.value.take data.userData.size) key)

/-- `graph_cache::add_participant`. -/
def Ctx.addParticipant (dpGuid : Guid) (enclave : Option (List Byte)) : Ctx σ RmwRet := do
  let ctx ← get
  -- Ignore own announcements.
  if guidToGid dpGuid = ctx.gid then return .ok
  else
    let enclaveStr := (enclave.map cString).getD []
    Ctx.common fun s => ((), pc.addParticipant (guidToGid dpGuid) enclaveStr s)
    return .ok

/-- `graph_cache::remove_participant`. -/
def Ctx.removeParticipant (dpGuid : Guid) : Ctx σ RmwRet := do
  let ctx ← get
  -- Ignore own announcements.
  if guidToGid dpGuid = ctx.gid then return .ok
  else
    Ctx.common fun s => ((), pc.removeParticipant (guidToGid dpGuid) s)
    return .ok

/-- `on_participant_changed`. -/
def Ctx.onParticipantChanged (data : ParticipantBuiltinTopicData) (handle : InstanceHandle) :
    Ctx σ Unit := do
  let dpGuid := participantDataGuid host data
  if handle = .nil then
    let _ ← Ctx.removeParticipant pc dpGuid
  else
    let (rc, enclave) := getUserDataKey pc data "securitycontext"
    if rc ≠ .ok then Ctx.setErrorMsg "failed to parse user data for enclave"
    let rc ← Ctx.addParticipant pc dpGuid enclave
    if rc ≠ .ok then Ctx.setErrorMsg "failed to assert remote participant in graph"

end Callbacks

/-- A call of one of the three callbacks. -/
inductive Announcement where
  | participant (data : ParticipantBuiltinTopicData) (handle : InstanceHandle)
  | endpoint (event : Discovery)

/-- What the context does with a call. -/
def Ctx.announced {σ π : Type} (pc : ParticipantContext σ π) (host : ByteOrder) :
    Announcement → Ctx σ Unit
  | .participant data handle => Ctx.onParticipantChanged pc host data handle
  | .endpoint event => Ctx.discover pc.toCommonContext host event

/-! ## The context's own entries -/

section Own

variable {σ π α : Type} {pc : ParticipantContext σ π} {host : ByteOrder} {own : Gid} {s : σ}
  {t : Tables Bool Gid EntityInfo}

/-- A participant with the context's prefix is the context's own. -/
theorem remote_of_ne {guid dpGuid : Guid} {guidPrefix : Vector Byte 12}
    (own_eq : own = guidToGid { guidPrefix, entityId := entityIdParticipant host })
    (participant : dpGuid.entityId = entityIdParticipant host)
    (same : guid.guidPrefix = dpGuid.guidPrefix) (other : guidToGid dpGuid ≠ own) :
    Remote own (guidToGid guid) := by
  intro prefixes
  rw [own_eq, guidToGid_take, guidToGid_take, Vector.toList_inj, same] at prefixes
  obtain ⟨front, back⟩ := dpGuid
  obtain rfl : front = guidPrefix := prefixes
  obtain rfl : back = entityIdParticipant host := participant
  exact other own_eq.symm

/-- A context that holds of the participant `own` what the common context `s` does. -/
structure ParticipantContext.Undisturbed (pc : ParticipantContext σ π) (own : Gid) (s : σ)
    (ctx : RmwContextImpl σ) : Prop where
  gid_eq : ctx.gid = own
  participants_eq : ∀ gid, Local own gid → pc.participants ctx.commonCtx gid = pc.participants s gid
  tables_eq : ∀ isReader gid, Local own gid →
    pc.graphCache.tables ctx.commonCtx isReader gid = pc.graphCache.tables s isReader gid

/-- Code leaves the context's own entries alone. -/
abbrev Undisturbing (pc : ParticipantContext σ π) (own : Gid) (s : σ) (m : Ctx σ α) : Prop :=
  Triple (pc.Undisturbed own s) m (fun _ => pc.Undisturbed own s) nofun

theorem undisturbed_get :
    Triple (pc.Undisturbed own s) (get : Ctx σ _)
      (fun ctx ctx' => pc.Undisturbed own s ctx' ∧ ctx.gid = own) nofun :=
  Triple.get fun _ un => ⟨un, un.gid_eq⟩

theorem undisturbing_setErrorMsg (msg : String) : Undisturbing pc own s (Ctx.setErrorMsg msg) :=
  Triple.modify fun _ un => ⟨un.gid_eq, un.participants_eq, un.tables_eq⟩

theorem undisturbing_resetError : Undisturbing pc own s Ctx.resetError :=
  Triple.modify fun _ un => ⟨un.gid_eq, un.participants_eq, un.tables_eq⟩

/-- A call on the common context that leaves local entries alone. -/
theorem undisturbing_common {call : σ → α × σ}
    (participants : ∀ s gid, Local own gid →
      pc.participants (call s).2 gid = pc.participants s gid)
    (tables : ∀ s isReader gid, Local own gid →
      pc.graphCache.tables (call s).2 isReader gid = pc.graphCache.tables s isReader gid) :
    Undisturbing pc own s (Ctx.common call) := by
  intro ctx un
  exact ⟨un.gid_eq, fun gid here => (participants _ gid here).trans (un.participants_eq gid here),
    fun isReader gid here => (tables _ isReader gid here).trans (un.tables_eq isReader gid here)⟩

theorem undisturbing_add (lawful : pc.Lawful) (isReader : Bool) {gid : Gid}
    (foreign : Remote own gid) (info : EntityInfo) :
    Undisturbing pc own s (Ctx.common (pc.graphCache.add isReader gid info)) := by
  refine undisturbing_common (fun s other _ => ?_) fun s table other here => ?_
  · rw [lawful.add_participants]
  · have elsewhere : ¬ (table = isReader ∧ other = gid) := by
      rintro ⟨-, rfl⟩
      exact here foreign
    rw [lawful.common.graphCache.add_snd, Tables.emplace, if_neg elsewhere]

theorem undisturbing_remove (lawful : pc.Lawful) (isReader : Bool) {gid : Gid}
    (foreign : Remote own gid) :
    Undisturbing pc own s (Ctx.common (pc.graphCache.remove isReader gid)) := by
  refine undisturbing_common (fun s other _ => ?_) fun s table other here => ?_
  · rw [lawful.remove_participants]
  · have elsewhere : ¬ (table = isReader ∧ other = gid) := by
      rintro ⟨-, rfl⟩
      exact here foreign
    rw [lawful.common.graphCache.remove_snd, Tables.erase, if_neg elsewhere]

theorem undisturbing_addEntity (lawful : pc.Lawful) {endpGid : Gid} (foreign : Remote own endpGid)
    (dpGid : Gid) (topicName typeName : String) (typeHash : TypeHash) (qos : EndpointQos)
    (isReader : Bool) :
    Undisturbing pc own s (Ctx.addEntity pc.toCommonContext endpGid dpGid topicName typeName
      typeHash qos isReader) :=
  (undisturbing_add lawful isReader foreign _).bind fun _ =>
    Triple.ite (fun _ => Triple.pure fun _ un => un) fun _ => Triple.pure fun _ un => un

theorem undisturbing_removeEntity (lawful : pc.Lawful) {gid : Gid} (foreign : Remote own gid)
    (isReader : Bool) :
    Undisturbing pc own s (Ctx.removeEntity pc.toCommonContext gid isReader) :=
  (undisturbing_remove lawful isReader foreign).bind fun _ =>
    Triple.ite
      (fun _ => (undisturbing_setErrorMsg _).bind fun _ => Triple.pure fun _ un => un)
      fun _ => Triple.pure fun _ un => un

/-- An announced endpoint is compared by its participant. -/
theorem undisturbing_addRemoteEntity (lawful : pc.Lawful) {endpGuid dpGuid : Guid}
    {guidPrefix : Vector Byte 12}
    (own_eq : own = guidToGid { guidPrefix, entityId := entityIdParticipant host })
    (participant : dpGuid.entityId = entityIdParticipant host)
    (same : endpGuid.guidPrefix = dpGuid.guidPrefix) (topicName typeName : String)
    (userData : UserData) (qos : EndpointQos) (isReader : Bool) :
    Undisturbing pc own s (Ctx.addRemoteEntity pc.toCommonContext endpGuid dpGuid topicName typeName
      userData qos isReader) := by
  refine undisturbed_get.bind fun ctx => Triple.assume fun gid_eq => ?_
  rw [gid_eq]
  refine Triple.ite (fun _ => Triple.pure fun _ un => un) fun other => ?_
  have foreign := remote_of_ne own_eq participant same other
  split
  · exact undisturbing_addEntity lawful foreign _ _ _ _ _ _
  · exact undisturbing_resetError.bind fun _ => undisturbing_addEntity lawful foreign _ _ _ _ _ _

/-- A withdrawn endpoint is compared by its prefix. -/
theorem undisturbing_removeRemoteEntity (lawful : pc.Lawful) (guid : Guid) (isReader : Bool) :
    Undisturbing pc own s (Ctx.removeRemoteEntity pc.toCommonContext guid isReader) := by
  refine undisturbed_get.bind fun ctx => Triple.assume fun gid_eq => ?_
  rw [gid_eq]
  exact Triple.ite (fun _ => Triple.pure fun _ un => un)
    fun foreign => undisturbing_removeEntity lawful foreign _

theorem undisturbing_discover (lawful : pc.Lawful) {guidPrefix : Vector Byte 12}
    (own_eq : own = guidToGid { guidPrefix, entityId := entityIdParticipant host })
    (event : Discovery) :
    Undisturbing pc own s (Ctx.discover pc.toCommonContext host event) := by
  cases event with
  | publication data handle =>
    refine Triple.ite (fun _ => ?_) fun _ => ?_
    · exact (undisturbing_removeRemoteEntity lawful _ _).bind fun _ => Triple.pure fun _ un => un
    · refine Triple.bind (Q := fun _ => pc.Undisturbed own s) ?_
        fun _ => Triple.pure fun _ un => un
      refine undisturbing_addRemoteEntity lawful own_eq ?_ ?_ _ _ _ _ _
      · rfl
      · rfl
  | subscription data handle =>
    refine Triple.ite (fun _ => ?_) fun _ => ?_
    · exact (undisturbing_removeRemoteEntity lawful _ _).bind fun _ => Triple.pure fun _ un => un
    · refine Triple.bind (Q := fun _ => pc.Undisturbed own s) ?_
        fun _ => Triple.pure fun _ un => un
      refine undisturbing_addRemoteEntity lawful own_eq ?_ ?_ _ _ _ _ _
      · rfl
      · rfl

/-- What both operations on participants come to: nothing for the context's own. -/
theorem undisturbing_participant {guidPrefix : Vector Byte 12}
    (own_eq : own = guidToGid { guidPrefix, entityId := entityIdParticipant host }) {dpGuid : Guid}
    (participant : dpGuid.entityId = entityIdParticipant host) {change : σ → σ}
    (participants : ∀ s other, other ≠ guidToGid dpGuid →
      pc.participants (change s) other = pc.participants s other)
    (tables : ∀ s, pc.graphCache.tables (change s) = pc.graphCache.tables s) :
    Undisturbing pc own s (do
      let ctx ← get
      if guidToGid dpGuid = ctx.gid then return RmwRet.ok
      else
        Ctx.common fun s => ((), change s)
        return .ok) := by
  refine undisturbed_get.bind fun ctx => Triple.assume fun gid_eq => ?_
  rw [gid_eq]
  refine Triple.ite (fun _ => Triple.pure fun _ un => un) fun other => ?_
  refine Triple.bind (Q := fun _ => pc.Undisturbed own s) ?_ fun _ => Triple.pure fun _ un => un
  refine undisturbing_common (fun s gid here => participants s gid ?_) fun s isReader gid _ => ?_
  · rintro rfl
    exact here (remote_of_ne own_eq participant rfl other)
  · rw [tables]

theorem undisturbing_onParticipantChanged (lawful : pc.Lawful) {guidPrefix : Vector Byte 12}
    (own_eq : own = guidToGid { guidPrefix, entityId := entityIdParticipant host })
    (data : ParticipantBuiltinTopicData) (handle : InstanceHandle) :
    Undisturbing pc own s (Ctx.onParticipantChanged pc host data handle) := by
  refine Triple.ite (fun _ => ?_) fun _ => ?_
  · refine Triple.bind (Q := fun _ => pc.Undisturbed own s) ?_ fun _ => Triple.pure fun _ un => un
    exact undisturbing_participant own_eq rfl (lawful.removeParticipant_participants _)
      (lawful.removeParticipant_tables _)
  · have adding (enclave : Option (List Byte)) : Undisturbing pc own s (do
        let rc ← Ctx.addParticipant pc (participantDataGuid host data) enclave
        if rc ≠ .ok then Ctx.setErrorMsg "failed to assert remote participant in graph") := by
      refine Triple.bind (Q := fun _ => pc.Undisturbed own s) ?_ fun _ =>
        Triple.ite (fun _ => undisturbing_setErrorMsg _) fun _ => Triple.pure fun _ un => un
      exact undisturbing_participant own_eq rfl (lawful.addParticipant_participants _ _)
        (lawful.addParticipant_tables _ _)
    exact Triple.ite (fun _ => (undisturbing_setErrorMsg _).bind fun _ => adding _)
      fun _ => adding _

/-- One call. -/
theorem undisturbing_announced (lawful : pc.Lawful) {guidPrefix : Vector Byte 12}
    (own_eq : own = guidToGid { guidPrefix, entityId := entityIdParticipant host })
    (e : Announcement) : Undisturbing pc own s (Ctx.announced pc host e) := by
  cases e with
  | participant data handle => exact undisturbing_onParticipantChanged lawful own_eq data handle
  | endpoint event => exact undisturbing_discover lawful own_eq event

variable (pc host) in
/-- The context after some calls. -/
def afterAnnouncements (ctx : RmwContextImpl σ) (es : List Announcement) : RmwContextImpl σ :=
  run (fun ctx e => (exec (Ctx.announced pc host e) ctx).2) ctx es

/-- **No callback disturbs what the graph cache holds of the context's own participant and its
endpoints**, whatever DDS announces and withdraws. -/
theorem local_entries_undisturbed (lawful : pc.Lawful) {ctx : RmwContextImpl σ}
    {guidPrefix : Vector Byte 12}
    (own_eq : ctx.gid = guidToGid { guidPrefix, entityId := entityIdParticipant host })
    (es : List Announcement) (gid : Gid) (here : Local ctx.gid gid) :
    pc.participants (afterAnnouncements pc host ctx es).commonCtx gid =
        pc.participants ctx.commonCtx gid ∧
      ∀ isReader, pc.graphCache.tables (afterAnnouncements pc host ctx es).commonCtx isReader gid =
        pc.graphCache.tables ctx.commonCtx isReader gid := by
  suffices un : pc.Undisturbed ctx.gid ctx.commonCtx (afterAnnouncements pc host ctx es) from
    ⟨un.participants_eq gid here, fun isReader => un.tables_eq isReader gid here⟩
  exact run_invariant (I := pc.Undisturbed ctx.gid ctx.commonCtx)
    ⟨rfl, fun _ _ => rfl, fun _ _ _ => rfl⟩
    (fun _ e un => (undisturbing_announced lawful own_eq e).exec un) es

end Own

/-! ## Samples -/

/-- A common context that is nothing but its tables. -/
def participantTables :
    ParticipantContext ((Gid → Option (List Byte)) × Tables Bool Gid EntityInfo) (List Byte) where
  graphCache := {
    tables := Prod.snd
    add isReader gid info s := (!(s.2 isReader gid).isSome, s.1, s.2.emplace isReader gid info)
    remove isReader gid s := ((s.2 isReader gid).isSome, s.1, s.2.erase isReader gid) }
  updateNodeGraph _ s := (.ok, s)
  parseTypeHashFromUserData _ _ := none
  participants := Prod.fst
  addParticipant gid enclave s := (Function.update s.1 gid (some enclave), s.2)
  removeParticipant gid s := (Function.update s.1 gid none, s.2)
  parseKeyValue _ _ := none

theorem participantTables_lawful : participantTables.Lawful where
  common := {
    graphCache := ⟨fun _ _ _ _ => rfl, fun _ _ _ _ => rfl, fun _ _ _ => rfl, fun _ _ _ => rfl⟩
    updateNodeGraph := fun _ _ => rfl }
  addParticipant_participants := fun _ _ _ _ ne => Function.update_of_ne ne ..
  addParticipant_tables := fun _ _ _ => rfl
  removeParticipant_participants := fun _ _ _ ne => Function.update_of_ne ne ..
  removeParticipant_tables := fun _ _ => rfl
  add_participants := fun _ _ _ _ => rfl
  remove_participants := fun _ _ _ => rfl

/-- A context that knows itself, and one of its writers. -/
def knownContext :
    RmwContextImpl ((Gid → Option (List Byte)) × Tables Bool Gid EntityInfo) where
  gid := guidToGid {
    guidPrefix := Vector.replicate 12 1
    entityId := entityIdParticipant .little }
  commonCtx := (fun _ => some [], fun isReader _ => if isReader then none else some {
    topicName := "rt/chatter"
    typeName := "std_msgs::msg::dds_::String_"
    typeHash := .zero
    participantGid := Vector.replicate 16 1
    qos := qosProfile {
      history := none
      reliability := .reliable
      durability := .volatile
      deadline := .infinite
      liveliness := { kind := .automatic, leaseDuration := .infinite }
      lifespan := none } })
  errorMsg := none

/-- Its own participant comes and goes, and so does one of its subscriptions. -/
def ownAnnouncements : List Announcement :=
  [.participant { key := Vector.replicate 12 1, userData := { value := [], size := 0 } } (.of 1),
    .endpoint (.subscription (sampleData 3) (.of 2)), .endpoint (.subscription (sampleData 3) .nil),
    .participant { key := Vector.replicate 12 1, userData := { value := [], size := 0 } } .nil]

theorem local_entries_undisturbed_sample :
    participantTables.participants
        (afterAnnouncements participantTables .little knownContext ownAnnouncements).commonCtx
        knownContext.gid =
        participantTables.participants knownContext.commonCtx knownContext.gid ∧
      ∀ isReader, participantTables.graphCache.tables
        (afterAnnouncements participantTables .little knownContext ownAnnouncements).commonCtx
        isReader knownContext.gid =
        participantTables.graphCache.tables knownContext.commonCtx isReader knownContext.gid :=
  local_entries_undisturbed participantTables_lawful rfl ownAnnouncements knownContext.gid
    fun remote => remote rfl

end Graph
