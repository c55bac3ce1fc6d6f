import RmwGurumdds.Rmw.Types

/-!
# Quality of service

The policies DDS reports for an endpoint, and what the middleware interface makes of them. A policy
value the interface has no name for is reported as unknown, an infinite duration as an infinite
time.
-/

namespace Rmw

/-- `dds_Duration_t`. -/
structure DdsDuration where
  sec : BitVec 32
  nanosec : BitVec 32
deriving DecidableEq, Repr

/-- `dds_DURATION_INFINITE_SEC` and `dds_DURATION_INFINITE_NSEC`. -/
def DdsDuration.infinite : DdsDuration := { sec := 0x7fffffff, nanosec := 0x7fffffff }

/-- `dds_HistoryQosPolicyKind`. -/
inductive HistoryKind where
  | keepLast
  | keepAll
  | other
deriving DecidableEq, Repr

/-- `dds_ReliabilityQosPolicyKind`. -/
inductive ReliabilityKind where
  | bestEffort
  | reliable
  | other
deriving DecidableEq, Repr

/-- `dds_DurabilityQosPolicyKind`. -/
inductive DurabilityKind where
  | volatile
  | transientLocal
  | other
deriving DecidableEq, Repr

/-- `dds_LivelinessQosPolicyKind`. -/
inductive LivelinessKind where
  | automatic
  | manualByTopic
  | other
deriving DecidableEq, Repr

/-- `dds_HistoryQosPolicy`. -/
structure HistoryQosPolicy where
  kind : HistoryKind
  depth : BitVec 32
deriving DecidableEq, Repr

/-- `dds_LivelinessQosPolicy`. -/
structure LivelinessQosPolicy where
  kind : LivelinessKind
  leaseDuration : DdsDuration
deriving DecidableEq, Repr

/-- The policies of a remote endpoint that its announcement carries, and of a local one. A reader
has no lifespan, and an announcement no history. -/
structure EndpointQos where
  history : Option HistoryQosPolicy
  reliability : ReliabilityKind
  durability : DurabilityKind
  deadline : DdsDuration
  liveliness : LivelinessQosPolicy
  lifespan : Option DdsDuration
deriving DecidableEq, Repr

/-- `dds_duration_to_rmw`. -/
def ddsDurationToRmw (duration : DdsDuration) : RmwTime :=
  if duration.sec = DdsDuration.infinite.sec ∧ duration.nanosec = DdsDuration.infinite.nanosec then
    .infinite
  else { sec := duration.sec.signExtend 64, nsec := duration.nanosec.setWidth 64 }

/-- `convert_history`. -/
def convertHistory (policy : HistoryQosPolicy) : HistoryPolicy :=
  match policy.kind with
  | .keepLast => .keepLast
  | .keepAll => .keepAll
  | .other => .unknown

/-- `convert_reliability`. -/
def convertReliability : ReliabilityKind → ReliabilityPolicy
  | .bestEffort => .bestEffort
  | .reliable => .reliable
  | .other => .unknown

/-- `convert_durability`. -/
def convertDurability : DurabilityKind → DurabilityPolicy
  | .volatile => .volatile
  | .transientLocal => .transientLocal
  | .other => .unknown

/-- `convert_deadline`. -/
def convertDeadline (period : DdsDuration) : RmwTime := ddsDurationToRmw period

/-- `convert_lifespan`. -/
def convertLifespan : Option DdsDuration → RmwTime
  | none => .infinite
  | some duration => ddsDurationToRmw duration

/-- `convert_liveliness`. -/
def convertLiveliness (policy : LivelinessQosPolicy) : LivelinessPolicy :=
  match policy.kind with
  | .automatic => .automatic
  | .manualByTopic => .manualByTopic
  | .other => .unknown

/-- `convert_liveliness_lease_duration`. -/
def convertLivelinessLeaseDuration (policy : LivelinessQosPolicy) : RmwTime :=
  ddsDurationToRmw policy.leaseDuration

end Rmw
