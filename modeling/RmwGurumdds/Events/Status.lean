import Mathlib.Data.Finset.SDiff
import Mathlib.Data.Finset.Insert

/-!
# Events and their statuses

The eleven events an endpoint can report, the DDS status each of them stands for, and the record
such a status is kept in. A record has totals, which are overwritten, and changes since they were
last read, which add up (`accumulate`) until they are read (`cleared`).

The counts are `int32_t`. Their sums are taken in `Int`: a sum that leaves the range of the type has
no meaning in the source.
-/

namespace Events

/-! ## Events -/

/-- `rmw_event_type_t` below `RMW_EVENT_INVALID`. -/
inductive EventType where
  | livelinessChanged
  | requestedDeadlineMissed
  | requestedQosIncompatible
  | messageLost
  | subscriptionIncompatibleType
  | subscriptionMatched
  | livelinessLost
  | offeredDeadlineMissed
  | offeredQosIncompatible
  | publisherIncompatibleType
  | publicationMatched
deriving DecidableEq, Repr

/-- `dds_StatusKind`, as far as events use it. -/
inductive StatusKind where
  | inconsistentTopic
  | offeredDeadlineMissed
  | requestedDeadlineMissed
  | offeredIncompatibleQos
  | requestedIncompatibleQos
  | sampleLost
  | dataAvailable
  | livelinessLost
  | livelinessChanged
  | publicationMatched
  | subscriptionMatched
deriving DecidableEq, Repr

/-- `dds_StatusMask`, by the bits that are set. -/
abbrev StatusMask := Finset StatusKind

/-- `g_mask_map`. -/
def EventType.statusKind : EventType → StatusKind
  | .livelinessChanged => .livelinessChanged
  | .requestedDeadlineMissed => .requestedDeadlineMissed
  | .requestedQosIncompatible => .requestedIncompatibleQos
  | .messageLost => .sampleLost
  | .subscriptionIncompatibleType => .inconsistentTopic
  | .subscriptionMatched => .subscriptionMatched
  | .livelinessLost => .livelinessLost
  | .offeredDeadlineMissed => .offeredDeadlineMissed
  | .offeredQosIncompatible => .offeredIncompatibleQos
  | .publisherIncompatibleType => .inconsistentTopic
  | .publicationMatched => .publicationMatched

/-- `get_status_kind_from_rmw`. An event type that is not supported has no bit. -/
def getStatusKindFromRmw : Option EventType → StatusMask
  | none => ∅
  | some e => {e.statusKind}

/-! ## Policies -/

/-- `dds_QosPolicyId_t`. -/
inductive PolicyId where
  | history
  | reliability
  | durability
  | deadline
  | lifespan
  | liveliness
  /-- Any other policy, by its number. -/
  | other (id : Nat)
deriving DecidableEq, Repr

/-- `rmw_qos_policy_kind_t`. -/
inductive PolicyKind where
  | invalid
  | durability
  | deadline
  | liveliness
  | reliability
  | history
  | lifespan
deriving DecidableEq, Repr

/-- `convert_qos_policy`. -/
def convertQosPolicy : PolicyId → PolicyKind
  | .history => .history
  | .reliability => .reliability
  | .durability => .durability
  | .deadline => .deadline
  | .lifespan => .lifespan
  | .liveliness => .liveliness
  | .other _ => .invalid

/-! ## Records -/

/-- `dds_InconsistentTopicStatus`, the two deadline statuses, `dds_LivelinessLostStatus` and
`dds_SampleLostStatus`. -/
@[ext] structure CountStatus where
  totalCount : Int
  totalCountChange : Int
deriving DecidableEq, Repr

/-- `dds_OfferedIncompatibleQosStatus` and `dds_RequestedIncompatibleQosStatus`. `P` is how a policy
is named. -/
@[ext] structure IncompatibleQosStatus (P : Type) where
  totalCount : Int
  totalCountChange : Int
  lastPolicy : P
deriving DecidableEq, Repr

/-- `dds_PublicationMatchedStatus` and `dds_SubscriptionMatchedStatus`. -/
@[ext] structure MatchedStatus where
  totalCount : Int
  totalCountChange : Int
  currentCount : Int
  currentCountChange : Int
deriving DecidableEq, Repr

/-- `dds_LivelinessChangedStatus`. -/
@[ext] structure LivelinessChangedStatus where
  aliveCount : Int
  notAliveCount : Int
  aliveCountChange : Int
  notAliveCountChange : Int
deriving DecidableEq, Repr

/-- The record of an event, with policies named by `P`. -/
@[reducible] def EventType.StatusOf (P : Type) : EventType → Type
  | .livelinessChanged => LivelinessChangedStatus
  | .requestedDeadlineMissed => CountStatus
  | .requestedQosIncompatible => IncompatibleQosStatus P
  | .messageLost => CountStatus
  | .subscriptionIncompatibleType => CountStatus
  | .subscriptionMatched => MatchedStatus
  | .livelinessLost => CountStatus
  | .offeredDeadlineMissed => CountStatus
  | .offeredQosIncompatible => IncompatibleQosStatus P
  | .publisherIncompatibleType => CountStatus
  | .publicationMatched => MatchedStatus

/-- The record DDS and the info objects keep. -/
abbrev EventType.Status : EventType → Type := EventType.StatusOf PolicyId

/-- The record the middleware interface hands out. -/
abbrev EventType.RmwStatus : EventType → Type := EventType.StatusOf PolicyKind

/-! ## Operations on records -/

/-- The record becomes the notified one, and its changes grow by the notified ones. -/
def EventType.accumulate : (e : EventType) → e.Status → e.Status → e.Status
  | .livelinessChanged, s, n =>
    { n with
      aliveCountChange := s.aliveCountChange + n.aliveCountChange
      notAliveCountChange := s.notAliveCountChange + n.notAliveCountChange }
  | .requestedQosIncompatible, s, n | .offeredQosIncompatible, s, n =>
    { n with totalCountChange := s.totalCountChange + n.totalCountChange }
  | .subscriptionMatched, s, n | .publicationMatched, s, n =>
    { n with
      totalCountChange := s.totalCountChange + n.totalCountChange
      currentCountChange := s.currentCountChange + n.currentCountChange }
  | .requestedDeadlineMissed, s, n | .messageLost, s, n | .subscriptionIncompatibleType, s, n
  | .livelinessLost, s, n | .offeredDeadlineMissed, s, n | .publisherIncompatibleType, s, n =>
    { n with totalCountChange := s.totalCountChange + n.totalCountChange }

/-- The record with its changes read. -/
def EventType.cleared : (e : EventType) → e.Status → e.Status
  | .livelinessChanged, s => { s with aliveCountChange := 0, notAliveCountChange := 0 }
  | .requestedQosIncompatible, s | .offeredQosIncompatible, s => { s with totalCountChange := 0 }
  | .subscriptionMatched, s | .publicationMatched, s =>
    { s with totalCountChange := 0, currentCountChange := 0 }
  | .requestedDeadlineMissed, s | .messageLost, s | .subscriptionIncompatibleType, s
  | .livelinessLost, s | .offeredDeadlineMissed, s | .publisherIncompatibleType, s =>
    { s with totalCountChange := 0 }

/-- What `set_on_new_event_callback` takes for the changes of a record. -/
def EventType.changes {P : Type} : (e : EventType) → e.StatusOf P → Int
  | .livelinessChanged, s => s.aliveCountChange + s.notAliveCountChange
  | .requestedQosIncompatible, s | .offeredQosIncompatible, s => s.totalCountChange
  | .subscriptionMatched, s | .publicationMatched, s => s.totalCountChange
  | .requestedDeadlineMissed, s | .messageLost, s | .subscriptionIncompatibleType, s
  | .livelinessLost, s | .offeredDeadlineMissed, s | .publisherIncompatibleType, s =>
    s.totalCountChange

/-- The change of the current count in the record of a match, which `set_on_new_event_callback`
resets without taking it for a change. -/
def EventType.currentChange {P : Type} : (e : EventType) → e.StatusOf P → Int
  | .subscriptionMatched, s | .publicationMatched, s => s.currentCountChange
  | .livelinessChanged, _ | .requestedQosIncompatible, _ | .offeredQosIncompatible, _
  | .requestedDeadlineMissed, _ | .messageLost, _ | .subscriptionIncompatibleType, _
  | .livelinessLost, _ | .offeredDeadlineMissed, _ | .publisherIncompatibleType, _ => 0

/-- The two columns that the changes of a record are added up in. -/
inductive Column where
  /-- What a callback can be told of. -/
  | told
  /-- What it is not told of. -/
  | current
deriving DecidableEq, Repr

/-- The changes of a record in a column. -/
def EventType.change {P : Type} (e : EventType) : Column → e.StatusOf P → Int
  | .told => e.changes
  | .current => e.currentChange

/-- The record of an event as `get_status` hands it out. -/
def EventType.toRmw : (e : EventType) → e.Status → e.RmwStatus
  | .livelinessChanged, s => s
  | .requestedQosIncompatible, s | .offeredQosIncompatible, s =>
    { s with lastPolicy := convertQosPolicy s.lastPolicy }
  | .subscriptionMatched, s | .publicationMatched, s => s
  | .requestedDeadlineMissed, s | .messageLost, s | .subscriptionIncompatibleType, s
  | .livelinessLost, s | .offeredDeadlineMissed, s | .publisherIncompatibleType, s => s

/-- A record in which nothing has happened: what `{ }` and DDS start it with. -/
def EventType.initial : (e : EventType) → e.Status
  | .livelinessChanged => ⟨0, 0, 0, 0⟩
  | .requestedQosIncompatible | .offeredQosIncompatible => ⟨0, 0, .other 0⟩
  | .subscriptionMatched | .publicationMatched => ⟨0, 0, 0, 0⟩
  | .requestedDeadlineMissed | .messageLost | .subscriptionIncompatibleType | .livelinessLost
  | .offeredDeadlineMissed | .publisherIncompatibleType => ⟨0, 0⟩

section Facts

variable (e : EventType)

theorem changes_accumulate (s n : e.Status) :
    e.changes (e.accumulate s n) = e.changes s + e.changes n := by
  cases e with
  | livelinessChanged =>
    show s.aliveCountChange + n.aliveCountChange + (s.notAliveCountChange + n.notAliveCountChange) =
      s.aliveCountChange + s.notAliveCountChange + (n.aliveCountChange + n.notAliveCountChange)
    omega
  | _ => rfl

variable (c : Column)

@[simp] theorem change_accumulate (s n : e.Status) :
    e.change c (e.accumulate s n) = e.change c s + e.change c n := by
  cases c with
  | told => exact changes_accumulate e s n
  | current => cases e <;> rfl

@[simp] theorem change_cleared (s : e.Status) : e.change c (e.cleared s) = 0 := by
  cases c <;> cases e <;> rfl

@[simp] theorem change_toRmw (s : e.Status) : e.change c (e.toRmw s) = e.change c s := by
  cases c <;> cases e <;> rfl

end Facts

end Events
