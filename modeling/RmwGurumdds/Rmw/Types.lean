import RmwGurumdds.Wire.Bytes

/-!
# Types of the middleware interface

What `rmw/types.h` and its neighbours give every implementation: return codes, times, and the
quality-of-service profile an endpoint is described with.
-/

namespace Rmw

open Wire

/-- `rmw_ret_t`, as far as the modelled functions tell codes apart. -/
inductive RmwRet where
  | ok
  | error
  | timeout
  | unsupported
  | invalidArgument
  | incorrectRmwImplementation
  | badAlloc
deriving DecidableEq, Repr

/-- `rmw_time_t`. -/
structure RmwTime where
  sec : BitVec 64
  nsec : BitVec 64
deriving DecidableEq, Repr

/-- `RMW_DURATION_INFINITE`. -/
def RmwTime.infinite : RmwTime := { sec := 9223372036, nsec := 854775807 }

/-- `rmw_qos_history_policy_e`. -/
inductive HistoryPolicy where
  | systemDefault
  | keepLast
  | keepAll
  | unknown
deriving DecidableEq, Repr

/-- `rmw_qos_reliability_policy_e`. -/
inductive ReliabilityPolicy where
  | systemDefault
  | reliable
  | bestEffort
  | unknown
  | bestAvailable
deriving DecidableEq, Repr

/-- `rmw_qos_durability_policy_e`. -/
inductive DurabilityPolicy where
  | systemDefault
  | transientLocal
  | volatile
  | unknown
  | bestAvailable
deriving DecidableEq, Repr

/-- `rmw_qos_liveliness_policy_e`. -/
inductive LivelinessPolicy where
  | systemDefault
  | automatic
  | manualByTopic
  | unknown
  | bestAvailable
deriving DecidableEq, Repr

/-- `rmw_qos_profile_t`. -/
structure QosProfile where
  history : HistoryPolicy
  depth : Nat
  reliability : ReliabilityPolicy
  durability : DurabilityPolicy
  deadline : RmwTime
  lifespan : RmwTime
  liveliness : LivelinessPolicy
  livelinessLeaseDuration : RmwTime
  avoidRosNamespaceConventions : Bool
deriving DecidableEq, Repr

/-- `rosidl_type_hash_t`. -/
structure TypeHash where
  version : Byte
  value : Vector Byte 32
deriving DecidableEq

/-- `rosidl_get_zero_initialized_type_hash`. -/
def TypeHash.zero : TypeHash := { version := 0, value := Vector.replicate 32 0 }

/-- `rmw_automatic_discovery_range_t`. -/
inductive AutomaticDiscoveryRange where
  | notSet
  | off
  | localhost
  | subnet
  | systemDefault
deriving DecidableEq, Repr

end Rmw
