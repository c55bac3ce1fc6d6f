import RmwGurumdds.Graph.GraphCache

/-!
# The QoS of data writers and data readers

What `qos.cpp` makes of a profile: the policies of a DDS entity, on top of defaults. A policy that
the conversion has no case for ends it, and what was converted before stays. The two functions for
writers and readers do not look at how it ended; they put the type hash into the user data, for
other participants to read, and leave the size of the user data as it was.

The comparison and the clamping of times and the encoding of a hash belong to other packages.
-/

namespace Graph

open Wire Rmw Exec

/-- `dds_ResourceLimitsQosPolicy`. -/
structure ResourceLimits where
  maxSamples : BitVec 32
  maxInstances : BitVec 32
  maxSamplesPerInstance : BitVec 32
deriving DecidableEq, Repr

/-- `dds_DataReaderQos`. -/
structure EntityPolicies where
  history : HistoryQosPolicy
  reliability : ReliabilityKind
  durability : DurabilityKind
  resourceLimits : ResourceLimits
  deadline : DdsDuration
  liveliness : LivelinessQosPolicy
  userData : UserData

/-- `dds_DataWriterQos`. -/
structure DataWriterQos extends EntityPolicies where
  lifespan : DdsDuration

/-- `RMW_DURATION_UNSPECIFIED`. -/
def durationUnspecified : RmwTime := { sec := 0, nsec := 0 }

/-- What `qos.cpp` uses of other packages. -/
structure QosLibrary where
  /-- `rmw_time_equal`. -/
  rmwTimeEqual : RmwTime → RmwTime → Bool
  /-- `rmw_dds_common::clamp_rmw_time_to_dds_time`. -/
  clampRmwTimeToDdsTime : RmwTime → RmwTime
  /-- `rmw_dds_common::encode_type_hash_for_user_data_qos`, where it succeeds. -/
  encodeTypeHashForUserDataQos : TypeHash → Option (List Byte)

section Conversion

variable (lib : QosLibrary)

/-- `is_time_unspecified`. -/
def isTimeUnspecified (time : RmwTime) : Bool := lib.rmwTimeEqual time durationUnspecified

/-- `rmw_time_to_dds`. -/
def rmwTimeToDds (time : RmwTime) : DdsDuration :=
  if lib.rmwTimeEqual time .infinite then .infinite
  else
    let clampedTime := lib.clampRmwTimeToDdsTime time
    { sec := clampedTime.sec.setWidth 32, nanosec := clampedTime.nsec.setWidth 32 }

/-- The first `switch` of `set_entity_qos_from_profile_generic`. -/
def setHistory : HistoryPolicy → EStateM String EntityPolicies Unit
  | .keepLast => modify fun qos => { qos with history := { qos.history with kind := .keepLast } }
  | .keepAll => modify fun qos => { qos with history := { qos.history with kind := .keepAll } }
  | .systemDefault => pure ()
  | .unknown => throw "unknown qos history policy"

/-- The second `switch`. -/
def setReliability : ReliabilityPolicy → EStateM String EntityPolicies Unit
  | .bestEffort => modify fun qos => { qos with reliability := .bestEffort }
  | .reliable => modify fun qos => { qos with reliability := .reliable }
  | .systemDefault => pure ()
  | .unknown | .bestAvailable => throw "unknown qos reliability policy"

/-- The third `switch`. -/
def setDurability : DurabilityPolicy → EStateM String EntityPolicies Unit
  | .transientLocal => modify fun qos => { qos with durability := .transientLocal }
  | .volatile => modify fun qos => { qos with durability := .volatile }
  | .systemDefault => pure ()
  | .unknown | .bestAvailable => throw "unknown qos durability policy"

/-- The depth and the resource limits. `RMW_QOS_POLICY_DEPTH_SYSTEM_DEFAULT` is zero. -/
def setDepth (depth : Nat) (history : HistoryPolicy) : EStateM String EntityPolicies Unit :=
  if depth ≠ 0 then
    modify fun qos => { qos with
      history := { qos.history with depth := BitVec.ofNat 32 depth }
      resourceLimits := {
        maxSamples := BitVec.ofNat 32 depth
        maxInstances := 1
        maxSamplesPerInstance := BitVec.ofNat 32 depth } }
  else if history = .keepAll then
    modify fun qos => { qos with
      resourceLimits := { maxSamples := 4096, maxInstances := 1, maxSamplesPerInstance := 4096 } }
  else pure ()

/-- The deadline. -/
def setDeadline (deadline : RmwTime) : EStateM String EntityPolicies Unit :=
  if !isTimeUnspecified lib deadline then
    modify fun qos => { qos with deadline := rmwTimeToDds lib deadline }
  else pure ()

/-- The last `switch`. -/
def setLiveliness : LivelinessPolicy → EStateM String EntityPolicies Unit
  | .automatic =>
    modify fun qos => { qos with liveliness := { qos.liveliness with kind := .automatic } }
  | .manualByTopic =>
    modify fun qos => { qos with liveliness := { qos.liveliness with kind := .manualByTopic } }
  | .systemDefault => pure ()
  | .unknown | .bestAvailable => throw "unknown qos liveliness policy"

/-- The lease duration. -/
def setLeaseDuration (leaseDuration : RmwTime) : EStateM String EntityPolicies Unit :=
  if !isTimeUnspecified lib leaseDuration then
    modify fun qos => { qos with
      liveliness := { qos.liveliness with leaseDuration := rmwTimeToDds lib leaseDuration } }
  else pure ()

/-- `set_entity_qos_from_profile_generic`. It raises the message that it sets. -/
def setEntityQosFromProfileGeneric (profile : QosProfile) :
    EStateM String EntityPolicies Unit := do
  setHistory profile.history
  setReliability profile.reliability
  setDurability profile.durability
  setDepth profile.depth profile.history
  setDeadline lib profile.deadline
  setLiveliness profile.liveliness
  setLeaseDuration lib profile.livelinessLeaseDuration

/-- The policies it leaves, however it ends. -/
def entityQosFromProfile (profile : QosProfile) (qos : EntityPolicies) : EntityPolicies :=
  match setEntityQosFromProfileGeneric lib profile qos with
  | .ok _ qos => qos
  | .error _ qos => qos

/-- `std::memcpy` to the start of the user data. -/
def UserData.copy (userData : UserData) (bytes : List Byte) : UserData :=
  { userData with value := bytes ++ userData.value.drop bytes.length }

/-- The string of a hash, or an empty one. -/
def userDataStr (typeHash : TypeHash) : List Byte :=
  (lib.encodeTypeHashForUserDataQos typeHash).getD []

/-- `get_datareader_qos`. -/
def getDatareaderQos (profile : QosProfile) (typeHash : TypeHash) (qos : EntityPolicies) :
    Bool × EntityPolicies :=
  let qos := entityQosFromProfile lib profile qos
  (true, { qos with userData := qos.userData.copy (userDataStr lib typeHash) })

/-- `get_datawriter_qos`. -/
def getDatawriterQos (profile : QosProfile) (typeHash : TypeHash) (qos : DataWriterQos) :
    Bool × DataWriterQos :=
  let lifespan :=
    if !isTimeUnspecified lib profile.lifespan then rmwTimeToDds lib profile.lifespan
    else qos.lifespan
  let policies := entityQosFromProfile lib profile qos.toEntityPolicies
  (true,
    { policies with lifespan, userData := policies.userData.copy (userDataStr lib typeHash) })

end Conversion

/-! ## User data -/

section UserData

variable {lib : QosLibrary} {profile : QosProfile} {typeHash : TypeHash}

theorem setHistory_userData (history : HistoryPolicy) :
    Keeps EntityPolicies.userData (setHistory history) := by
  cases history with
  | systemDefault => exact Keeps.pure
  | unknown => exact Keeps.throw
  | keepLast | keepAll => exact Keeps.modify fun _ => rfl

theorem setReliability_userData (reliability : ReliabilityPolicy) :
    Keeps EntityPolicies.userData (setReliability reliability) := by
  cases reliability with
  | systemDefault => exact Keeps.pure
  | unknown | bestAvailable => exact Keeps.throw
  | bestEffort | reliable => exact Keeps.modify fun _ => rfl

theorem setDurability_userData (durability : DurabilityPolicy) :
    Keeps EntityPolicies.userData (setDurability durability) := by
  cases durability with
  | systemDefault => exact Keeps.pure
  | unknown | bestAvailable => exact Keeps.throw
  | transientLocal | volatile => exact Keeps.modify fun _ => rfl

theorem setDepth_userData (depth : Nat) (history : HistoryPolicy) :
    Keeps EntityPolicies.userData (setDepth depth history) :=
  Keeps.ite (Keeps.modify fun _ => rfl) (Keeps.ite (Keeps.modify fun _ => rfl) Keeps.pure)

theorem setDeadline_userData (deadline : RmwTime) :
    Keeps EntityPolicies.userData (setDeadline lib deadline) :=
  Keeps.ite (Keeps.modify fun _ => rfl) Keeps.pure

theorem setLiveliness_userData (liveliness : LivelinessPolicy) :
    Keeps EntityPolicies.userData (setLiveliness liveliness) := by
  cases liveliness with
  | systemDefault => exact Keeps.pure
  | unknown | bestAvailable => exact Keeps.throw
  | automatic | manualByTopic => exact Keeps.modify fun _ => rfl

theorem setLeaseDuration_userData (leaseDuration : RmwTime) :
    Keeps EntityPolicies.userData (setLeaseDuration lib leaseDuration) :=
  Keeps.ite (Keeps.modify fun _ => rfl) Keeps.pure

/-- Whatever the conversion does, it leaves the user data alone. -/
theorem setEntityQosFromProfileGeneric_userData :
    Keeps EntityPolicies.userData (setEntityQosFromProfileGeneric lib profile) := by
  refine (setHistory_userData profile.history).bind fun _ => ?_
  refine (setReliability_userData profile.reliability).bind fun _ => ?_
  refine (setDurability_userData profile.durability).bind fun _ => ?_
  refine (setDepth_userData profile.depth profile.history).bind fun _ => ?_
  refine (setDeadline_userData profile.deadline).bind fun _ => ?_
  refine (setLiveliness_userData profile.liveliness).bind fun _ => ?_
  exact setLeaseDuration_userData profile.livelinessLeaseDuration

theorem entityQosFromProfile_userData (qos : EntityPolicies) :
    (entityQosFromProfile lib profile qos).userData = qos.userData := by
  have kept := @setEntityQosFromProfileGeneric_userData lib profile qos.userData qos rfl
  unfold entityQosFromProfile
  cases run : setEntityQosFromProfileGeneric lib profile qos with
  | ok _ qos' =>
    rw [run] at kept
    exact kept
  | error _ qos' =>
    rw [run] at kept
    exact kept

/-- **Writers and readers get the hash into their user data, and no size for it.** -/
theorem getDatareaderQos_userData (qos : EntityPolicies) :
    (getDatareaderQos lib profile typeHash qos).2.userData =
      qos.userData.copy (userDataStr lib typeHash) :=
  congrArg (UserData.copy · (userDataStr lib typeHash)) (entityQosFromProfile_userData qos)

theorem getDatawriterQos_userData (qos : DataWriterQos) :
    (getDatawriterQos lib profile typeHash qos).2.userData =
      qos.userData.copy (userDataStr lib typeHash) :=
  congrArg (UserData.copy · (userDataStr lib typeHash))
    (entityQosFromProfile_userData qos.toEntityPolicies)

end UserData

end Graph
