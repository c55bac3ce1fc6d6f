import RmwGurumdds.Graph.EntityQos
import RmwGurumdds.Graph.RmwContextImpl

/-!
# Type hashes in the graph

A type hash travels in the user data of an endpoint: the function that fills in its QoS copies the
encoded hash there, DDS announces as much of the user data as its size says, and the callback of
another participant parses it. The size stays that of the defaults, so nothing is announced, and the
graph of the other participant records the zero hash (`typeHash_recorded_iff`).
-/

namespace Graph

open Wire Rmw Store Exec

/-! ## Announcements -/

/-- What an announcement says of an endpoint besides its QoS. -/
structure Announced where
  key : BuiltinTopicKey
  participantKey : BuiltinTopicKey
  topicName : String
  typeName : String

/-- The user data that arrive: as many bytes as the size says. -/
def UserData.transported (userData : UserData) : UserData :=
  { userData with value := userData.value.take userData.size }

/-- What a reader's QoS becomes in its announcement. -/
def Announced.reader (endpoint : Announced) (qos : EntityPolicies) :
    SubscriptionBuiltinTopicData where
  key := endpoint.key
  participantKey := endpoint.participantKey
  topicName := endpoint.topicName
  typeName := endpoint.typeName
  userData := qos.userData.transported
  reliability := qos.reliability
  durability := qos.durability
  deadline := qos.deadline
  liveliness := qos.liveliness

/-- What a writer's QoS becomes in its announcement. -/
def Announced.writer (endpoint : Announced) (qos : DataWriterQos) :
    PublicationBuiltinTopicData where
  toSubscriptionBuiltinTopicData := endpoint.reader qos.toEntityPolicies
  lifespan := qos.lifespan

/-- The gid of an announced endpoint. -/
def SubscriptionBuiltinTopicData.gid (data : SubscriptionBuiltinTopicData) : Gid :=
  guidToGid (endpointGuid data)

/-- The common context parses what the library encodes, and finds at most the zero hash in what is
shorter. -/
structure CommonContext.Parses {σ : Type} (cc : CommonContext σ) (lib : QosLibrary) : Prop where
  inverts : ∀ typeHash str, lib.encodeTypeHashForUserDataQos typeHash = some str →
    cc.parseTypeHashFromUserData str str.length = some typeHash
  shorter : ∀ typeHash str, lib.encodeTypeHashForUserDataQos typeHash = some str →
    ∀ n < str.length, ∀ found, cc.parseTypeHashFromUserData (str.take n) n = some found →
      found = .zero

/-- The hash that the graph has recorded for an endpoint. -/
def RmwContextImpl.typeHash {σ : Type} (cc : CommonContext σ) (ctx : RmwContextImpl σ)
    (isReader : Bool) (gid : Gid) : Option TypeHash :=
  (cc.graphCache.tables ctx.commonCtx isReader gid).map EntityInfo.typeHash

section Recording

variable {σ : Type} {cc : CommonContext σ} {lib : QosLibrary} {own : Gid} {host : ByteOrder}
  {t : Tables Bool Gid EntityInfo} {ctx : RmwContextImpl σ}

/-- Hashes that cannot be parsed are zero. -/
def CommonContext.hashOf (cc : CommonContext σ) (userData : UserData) : TypeHash :=
  (cc.parseTypeHashFromUserData userData.value userData.size).getD .zero

/-- **What is recorded for a new endpoint** is what its user data parse to. -/
theorem holds_addRemoteEntity_hash (lawful : cc.Lawful) {endpGuid dpGuid : Guid}
    (foreign : guidToGid dpGuid ≠ own) {isReader : Bool}
    (absent : guidToGid endpGuid ∉ t.keys isReader) (topicName typeName : String)
    (userData : UserData) (qos : EndpointQos) :
    Holds cc own t
      (Ctx.addRemoteEntity cc endpGuid dpGuid topicName typeName userData qos isReader)
      fun _ ctx => ctx.typeHash cc isReader (guidToGid endpGuid) =
        some (cc.hashOf userData) := by
  have recorded {info : EntityInfo} {ctx : RmwContextImpl σ}
      (at_ : cc.At own (t.emplace isReader (guidToGid endpGuid) info) ctx) :
      ctx.typeHash cc isReader (guidToGid endpGuid) = some info.typeHash := by
    have nothing : t isReader (guidToGid endpGuid) = none := by
      simpa [Tables.mem_keys] using absent
    rw [RmwContextImpl.typeHash, at_.tables_eq, Tables.emplace, if_pos ⟨rfl, rfl⟩, nothing]
    rfl
  refine holds_get.bind fun ctx => Triple.assume fun gid_eq => ?_
  rw [gid_eq, if_neg foreign]
  unfold CommonContext.hashOf
  split
  · rename_i typeHash parsed
    rw [parsed]
    exact Triple.weaken (holds_addEntity lawful _ _ _ _ _ _ _) (fun _ at_ => at_)
      fun _ _ h => recorded h.1
  · rename_i failed
    rw [failed]
    refine holds_resetError.bind fun _ => ?_
    exact Triple.weaken (holds_addEntity lawful _ _ _ _ _ _ _) (fun _ at_ => at_)
      fun _ _ h => recorded h.1

theorem holds_publication_hash (lawful : cc.Lawful) {data : PublicationBuiltinTopicData}
    {handle : InstanceHandle} (live : handle ≠ .nil)
    (foreign : Remote own data.toSubscriptionBuiltinTopicData.gid)
    (absent : data.toSubscriptionBuiltinTopicData.gid ∉ t.keys false) :
    Holds cc own t (Ctx.onPublicationChanged cc host data handle) fun _ ctx =>
      ctx.typeHash cc false data.toSubscriptionBuiltinTopicData.gid =
        some (cc.hashOf data.userData) := by
  refine Triple.ite (fun nil => absurd nil live) fun _ => ?_
  exact (holds_addRemoteEntity_hash lawful (participantGuid_ne foreign) absent _ _ _ _).bind
    fun _ => Triple.pure fun _ recorded => recorded

theorem holds_subscription_hash (lawful : cc.Lawful) {data : SubscriptionBuiltinTopicData}
    {handle : InstanceHandle} (live : handle ≠ .nil) (foreign : Remote own data.gid)
    (absent : data.gid ∉ t.keys true) :
    Holds cc own t (Ctx.onSubscriptionChanged cc host data handle) fun _ ctx =>
      ctx.typeHash cc true data.gid = some (cc.hashOf data.userData) := by
  refine Triple.ite (fun nil => absurd nil live) fun _ => ?_
  exact (holds_addRemoteEntity_hash lawful (participantGuid_ne foreign) absent _ _ _ _).bind
    fun _ => Triple.pure fun _ recorded => recorded

/-- Nothing of the hash arrives. -/
theorem transported_copy {userData : UserData} (empty : userData.size = 0) (bytes : List Byte) :
    (userData.copy bytes).transported = { value := [], size := 0 } := by
  simp [UserData.copy, UserData.transported, empty]

/-- What user data that are empty parse to is the hash, if it is encoded as nothing, and otherwise
zero. -/
theorem hashOf_empty_iff (parses : cc.Parses lib) {typeHash : TypeHash} {str : List Byte}
    (encoded : lib.encodeTypeHashForUserDataQos typeHash = some str) :
    cc.hashOf { value := [], size := 0 } = typeHash ↔ str = [] ∨ typeHash = .zero := by
  unfold CommonContext.hashOf
  rcases str with _ | ⟨byte, str⟩
  · have parsed : cc.parseTypeHashFromUserData [] 0 = some typeHash :=
      parses.inverts typeHash [] encoded
    rw [parsed]
    exact iff_of_true rfl (.inl rfl)
  · have zero : (cc.parseTypeHashFromUserData [] 0).getD .zero = .zero := by
      cases found : cc.parseTypeHashFromUserData [] 0 with
      | none => rfl
      | some hash => exact parses.shorter _ _ encoded 0 (Nat.zero_lt_succ _) hash found
    rw [zero]
    exact ⟨fun same => .inr same.symm, fun h => (h.resolve_left (List.cons_ne_nil _ _)).symm⟩

end Recording

/-- **When a type hash reaches another graph.** Whatever the profile, the hash of an endpoint whose
QoS was filled in over empty user data is recorded by a context that learns of the endpoint exactly
when it is encoded as nothing or is the zero hash. -/
theorem typeHash_recorded_iff {σ : Type} {cc : CommonContext σ} {lib : QosLibrary}
    (lawful : cc.Lawful) (parses : cc.Parses lib) (host : ByteOrder) (profile : QosProfile)
    {typeHash : TypeHash} {str : List Byte}
    (encoded : lib.encodeTypeHashForUserDataQos typeHash = some str) (endpoint : Announced)
    {handle : InstanceHandle} (live : handle ≠ .nil) (ctx : RmwContextImpl σ) :
    (∀ qos : DataWriterQos, qos.userData.size = 0 →
      let data := endpoint.writer (getDatawriterQos lib profile typeHash qos).2
      Remote ctx.gid data.toSubscriptionBuiltinTopicData.gid →
      data.toSubscriptionBuiltinTopicData.gid ∉ ctx.keys cc false →
      ((exec (Ctx.onPublicationChanged cc host data handle) ctx).2.typeHash cc false
          data.toSubscriptionBuiltinTopicData.gid = some typeHash ↔
        str = [] ∨ typeHash = .zero)) ∧
    ∀ qos : EntityPolicies, qos.userData.size = 0 →
      let data := endpoint.reader (getDatareaderQos lib profile typeHash qos).2
      Remote ctx.gid data.gid → data.gid ∉ ctx.keys cc true →
      ((exec (Ctx.onSubscriptionChanged cc host data handle) ctx).2.typeHash cc true data.gid =
          some typeHash ↔
        str = [] ∨ typeHash = .zero) := by
  constructor
  · intro qos empty data foreign absent
    have told : Holds cc ctx.gid _ (Ctx.onPublicationChanged cc host data handle) _ :=
      holds_publication_hash lawful live foreign absent
    have recorded := told.exec (s := ctx) ⟨rfl, rfl⟩
    have arrived : data.userData = { value := [], size := 0 } := by
      show (getDatawriterQos lib profile typeHash qos).2.userData.transported = _
      rw [getDatawriterQos_userData, transported_copy empty]
    rw [recorded, arrived, Option.some.injEq, hashOf_empty_iff parses encoded]
  · intro qos empty data foreign absent
    have told : Holds cc ctx.gid _ (Ctx.onSubscriptionChanged cc host data handle) _ :=
      holds_subscription_hash lawful live foreign absent
    have recorded := told.exec (s := ctx) ⟨rfl, rfl⟩
    have arrived : data.userData = { value := [], size := 0 } := by
      show (getDatareaderQos lib profile typeHash qos).2.userData.transported = _
      rw [getDatareaderQos_userData, transported_copy empty]
    rw [recorded, arrived, Option.some.injEq, hashOf_empty_iff parses encoded]

section Sample

/-- A library that writes the bytes of a hash, and nothing for the zero hash. -/
def plainLibrary : QosLibrary where
  rmwTimeEqual a b := a == b
  clampRmwTimeToDdsTime := id
  encodeTypeHashForUserDataQos typeHash :=
    some (if typeHash = .zero then [] else typeHash.version :: typeHash.value.toList)

/-- What such a hash parses to. -/
def parsePlain (userData : List Byte) (size : Nat) : Option TypeHash :=
  match userData.take size with
  | [] => some .zero
  | version :: value =>
    if h : value.length = 32 then some { version, value := ⟨value.toArray, by simpa using h⟩ }
    else none

/-- The context that reads them. -/
def plainContext : CommonContext (Tables Bool Gid EntityInfo) :=
  { tablesContext with parseTypeHashFromUserData := parsePlain }

theorem plainContext_lawful : plainContext.Lawful := ⟨Tables.store_lawful, fun _ _ => rfl⟩

theorem parsePlain_toList (version : Byte) (value : Vector Byte 32) {n : Nat} (lt : 32 < n) :
    parsePlain (version :: value.toList) n = some { version, value } := by
  have whole : (version :: value.toList).take n = version :: value.toList :=
    List.take_of_length_le (by simpa using Nat.succ_le_of_lt lt)
  have long : value.toList.length = 32 := Vector.length_toList
  rw [parsePlain, whole]
  simp only [long, ↓reduceDIte, Option.some.injEq, TypeHash.mk.injEq, true_and]
  exact Vector.toList_inj.mp (by simp)

theorem parsePlain_shorter (version : Byte) (value : Vector Byte 32) {n : Nat} (le : n ≤ 32)
    {found : TypeHash} (parsed : parsePlain ((version :: value.toList).take n) n = some found) :
    found = .zero := by
  rw [parsePlain, List.take_take, Nat.min_self] at parsed
  cases n with
  | zero => exact (Option.some.inj parsed).symm
  | succ n =>
    have short : (value.toList.take n).length ≠ 32 := by
      rw [List.length_take, Vector.length_toList]
      omega
    rw [List.take_succ_cons] at parsed
    exact nomatch (dif_neg short).symm.trans parsed

theorem plainContext_parses : plainContext.Parses plainLibrary := by
  constructor
  · rintro typeHash str ⟨⟩
    split
    · rename_i zero
      rw [zero]
      rfl
    · have whole : 32 < (typeHash.version :: typeHash.value.toList).length := by simp
      exact parsePlain_toList typeHash.version typeHash.value whole
  · rintro typeHash str ⟨⟩ n
    split
    · exact fun lt => absurd lt (Nat.not_lt_zero n)
    · intro lt found
      rw [List.length_cons, Vector.length_toList] at lt
      exact parsePlain_shorter typeHash.version typeHash.value (Nat.le_of_lt_succ lt)

/-- A hash of version one. -/
def sampleHash : TypeHash := { version := 1, value := Vector.replicate 32 7 }

/-- A chatter endpoint of another participant. -/
def chatterEndpoint : Announced where
  key := Vector.replicate 12 2
  participantKey := Vector.replicate 12 1
  topicName := "rt/chatter"
  typeName := "std_msgs::msg::dds_::String_"

/-- The default QoS of DDS, with empty user data. -/
def defaultPolicies : EntityPolicies where
  history := { kind := .keepLast, depth := 1 }
  reliability := .reliable
  durability := .volatile
  resourceLimits := { maxSamples := 8192, maxInstances := 4096, maxSamplesPerInstance := 8192 }
  deadline := .infinite
  liveliness := { kind := .automatic, leaseDuration := .infinite }
  userData := { value := [], size := 0 }

/-- `rmw_qos_profile_default`. -/
def defaultProfile : QosProfile where
  history := .keepLast
  depth := 10
  reliability := .reliable
  durability := .volatile
  deadline := durationUnspecified
  lifespan := durationUnspecified
  liveliness := .systemDefault
  livelinessLeaseDuration := durationUnspecified
  avoidRosNamespaceConventions := false

/-- What is announced of a chatter reader. -/
def chatterReader : SubscriptionBuiltinTopicData :=
  chatterEndpoint.reader (getDatareaderQos plainLibrary defaultProfile sampleHash defaultPolicies).2

/-- What is announced of a chatter writer. -/
def chatterWriter : PublicationBuiltinTopicData :=
  chatterEndpoint.writer (getDatawriterQos plainLibrary defaultProfile sampleHash
    { defaultPolicies with lifespan := .infinite }).2

theorem typeHash_recorded_iff_chatter :
    ((exec (Ctx.onPublicationChanged plainContext .little chatterWriter (.of 1))
        emptyContext).2.typeHash plainContext false
        chatterWriter.toSubscriptionBuiltinTopicData.gid = some sampleHash ↔
      sampleHash.version :: sampleHash.value.toList = [] ∨ sampleHash = .zero) ∧
    ((exec (Ctx.onSubscriptionChanged plainContext .little chatterReader (.of 1))
        emptyContext).2.typeHash plainContext true chatterReader.gid = some sampleHash ↔
      sampleHash.version :: sampleHash.value.toList = [] ∨ sampleHash = .zero) := by
  have encoded : plainLibrary.encodeTypeHashForUserDataQos sampleHash =
      some (sampleHash.version :: sampleHash.value.toList) := rfl
  have live : InstanceHandle.of 1 ≠ .nil := nofun
  have both := typeHash_recorded_iff plainContext_lawful plainContext_parses .little defaultProfile
    encoded chatterEndpoint live emptyContext
  exact ⟨both.1 { defaultPolicies with lifespan := .infinite } rfl (by decide) nofun,
    both.2 defaultPolicies rfl (by decide) nofun⟩

/-- A chatter reader of version one is announced without it, and recorded with the zero hash. -/
theorem chatterReader_hash_lost :
    (exec (Ctx.onSubscriptionChanged plainContext .little chatterReader (.of 1))
      emptyContext).2.typeHash plainContext true chatterReader.gid = some .zero ∧
    TypeHash.zero ≠ sampleHash := by
  have live : InstanceHandle.of 1 ≠ .nil := nofun
  have foreign : Remote emptyContext.gid chatterReader.gid := by decide
  have absent : chatterReader.gid ∉ emptyContext.keys plainContext true := nofun
  have told := @holds_subscription_hash _ plainContext _ .little _ plainContext_lawful _ _ live
    foreign absent
  exact ⟨(told.exec ⟨rfl, rfl⟩).trans rfl, by decide⟩

end Sample

end Graph
