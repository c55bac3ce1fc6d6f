import Mathlib.Logic.Function.Basic
import RmwGurumdds.Events.Status
import RmwGurumdds.Rmw.Types

/-!
# Event information

`PublisherInfo` and `SubscriberInfo`, as far as events go, and the DDS entity behind each. Both keep
the same items for every event: the record, a flag that says the record has changed, a callback with
its user data, and a guard condition. `liveliness_lost_changed` and `liveliness_lost_status` are
`changed .livelinessLost` and `status .livelinessLost`, and so on for each event.

A change of status reaches an info object through its listener methods if DDS has a listener to
call, and waits in DDS otherwise. The eleven methods are one (`notify`) but for what they pass to
the callback, and for the two that name another event's items in places.
-/

namespace Events

open Function Rmw

/-! ## Endpoints -/

/-- `rmw_event_callback_t`, by its address. -/
abbrev Callback := Nat

/-- What a callback is registered with, by its address. -/
abbrev UserData := Nat

/-- A call of a callback. -/
structure Call where
  callback : Callback
  userData : UserData
  count : Int
deriving DecidableEq, Repr

/-- The two kinds of endpoint that report events. -/
inductive EndpointKind where
  | publisher
  | subscription
deriving DecidableEq, Repr

/-- The events that the `switch` of an endpoint has a case for. -/
def EndpointKind.supports : EndpointKind → EventType → Bool
  | .publisher, .livelinessLost | .publisher, .offeredDeadlineMissed
  | .publisher, .offeredQosIncompatible | .publisher, .publisherIncompatibleType
  | .publisher, .publicationMatched => true
  | .subscription, .livelinessChanged | .subscription, .requestedDeadlineMissed
  | .subscription, .requestedQosIncompatible | .subscription, .messageLost
  | .subscription, .subscriptionIncompatibleType | .subscription, .subscriptionMatched => true
  | _, _ => false

/-- `PublisherInfo` and `SubscriberInfo`. A guard condition is its trigger value. -/
structure EventInfo where
  onNewEventCb : EventType → Option Callback
  userDataCb : EventType → UserData
  eventGuardCond : EventType → Bool
  mask : StatusMask
  changed : EventType → Bool
  status : (e : EventType) → e.Status

/-- The data writer or data reader of an endpoint, with its topic: the mask it calls its listener
for, and the statuses it keeps for the other events. -/
structure Entity where
  listenerMask : StatusMask
  status : (e : EventType) → e.Status

/-- An endpoint and its entity. -/
structure Endpoint where
  kind : EndpointKind
  info : EventInfo
  dds : Entity

/-- An info object as its members' initializers leave it. -/
def EventInfo.create : EventInfo where
  onNewEventCb _ := none
  userDataCb _ := 0
  eventGuardCond _ := false
  mask := ∅
  changed _ := false
  status := EventType.initial

/-- A new endpoint. -/
def Endpoint.create (kind : EndpointKind) : Endpoint where
  kind
  info := EventInfo.create
  dds := { listenerMask := ∅, status := EventType.initial }

/-! ## Listener methods -/

namespace EventInfo

variable (info : EventInfo)

/-- The changed flag of `e` is set, and its record takes in the notified status. -/
def record (e : EventType) (status : e.Status) : EventInfo :=
  { info with
    changed := update info.changed e true
    status := update info.status e (e.accumulate (info.status e) status) }

/-- The call of the callback registered for `e`, if there is one. -/
def call (e : EventType) (count : Int) : List Call :=
  match info.onNewEventCb e with
  | none => []
  | some callback => [{ callback, userData := info.userDataCb e, count }]

/-- `dds_GuardCondition_set_trigger_value` on the guard condition of `e`. -/
def setTrigger (e : EventType) (value : Bool) : EventInfo :=
  { info with eventGuardCond := update info.eventGuardCond e value }

/-- What a listener method does. `count` is what it tells the callback, of the notified status and
the record that has taken it in. -/
def notify (e : EventType) (count : e.Status → e.Status → Int) (status : e.Status) :
    EventInfo × List Call :=
  let info := info.record e status
  (info.setTrigger e true, info.call e (count status (info.status e)))

@[simp] theorem setTrigger_status (e : EventType) (value : Bool) :
    (info.setTrigger e value).status = info.status := rfl

end EventInfo

namespace PublisherInfo

variable (info : EventInfo)

/-- `PublisherInfo::update_inconsistent_topic`. It tells the callback the notified change. -/
def updateInconsistentTopic : CountStatus → EventInfo × List Call :=
  info.notify .publisherIncompatibleType fun status _ => status.totalCountChange

/-- `PublisherInfo::on_offered_deadline_missed`. The flag, the callback and the guard condition are
its own; the record is that of the lost liveliness. -/
def onOfferedDeadlineMissed (status : CountStatus) : EventInfo × List Call :=
  let info : EventInfo :=
    { info with
      changed := update info.changed .offeredDeadlineMissed true
      status := update info.status .livelinessLost
        (EventType.accumulate .livelinessLost (info.status .livelinessLost) status) }
  (info.setTrigger .offeredDeadlineMissed true,
    info.call .offeredDeadlineMissed (info.status .livelinessLost).totalCountChange)

/-- `PublisherInfo::on_offered_incompatible_qos`. -/
def onOfferedIncompatibleQos : IncompatibleQosStatus PolicyId → EventInfo × List Call :=
  info.notify .offeredQosIncompatible fun _ stored => stored.totalCountChange

/-- `PublisherInfo::on_liveliness_lost`. -/
def onLivelinessLost : CountStatus → EventInfo × List Call :=
  info.notify .livelinessLost fun _ stored => stored.totalCountChange

/-- `PublisherInfo::on_publication_matched`. -/
def onPublicationMatched : MatchedStatus → EventInfo × List Call :=
  info.notify .publicationMatched fun _ stored => stored.totalCountChange

end PublisherInfo

namespace SubscriberInfo

variable (info : EventInfo)

/-- `SubscriberInfo::update_inconsistent_topic`. It tells the callback the notified change. -/
def updateInconsistentTopic : CountStatus → EventInfo × List Call :=
  info.notify .subscriptionIncompatibleType fun status _ => status.totalCountChange

/-- `SubscriberInfo::on_requested_deadline_missed`. The flag, the record and the guard condition are
its own; the callback is that of the changed liveliness. -/
def onRequestedDeadlineMissed (status : CountStatus) : EventInfo × List Call :=
  let info := info.record .requestedDeadlineMissed status
  (info.setTrigger .requestedDeadlineMissed true,
    info.call .livelinessChanged (info.status .requestedDeadlineMissed).totalCountChange)

/-- `SubscriberInfo::on_requested_incompatible_qos`. -/
def onRequestedIncompatibleQos : IncompatibleQosStatus PolicyId → EventInfo × List Call :=
  info.notify .requestedQosIncompatible fun _ stored => stored.totalCountChange

/-- `SubscriberInfo::on_liveliness_changed`. It tells the callback of the publishers that are
alive. -/
def onLivelinessChanged : LivelinessChangedStatus → EventInfo × List Call :=
  info.notify .livelinessChanged fun _ stored => stored.aliveCountChange

/-- `SubscriberInfo::on_subscription_matched`. -/
def onSubscriptionMatched : MatchedStatus → EventInfo × List Call :=
  info.notify .subscriptionMatched fun _ stored => stored.totalCountChange

/-- `SubscriberInfo::on_sample_lost`. -/
def onSampleLost : CountStatus → EventInfo × List Call :=
  info.notify .messageLost fun _ stored => stored.totalCountChange

end SubscriberInfo

/-- The listener method of an event, as the listeners of the two kinds of endpoint are set up. -/
def EventInfo.listener (info : EventInfo) : (e : EventType) → e.Status → EventInfo × List Call
  | .livelinessChanged => SubscriberInfo.onLivelinessChanged info
  | .requestedDeadlineMissed => SubscriberInfo.onRequestedDeadlineMissed info
  | .requestedQosIncompatible => SubscriberInfo.onRequestedIncompatibleQos info
  | .messageLost => SubscriberInfo.onSampleLost info
  | .subscriptionIncompatibleType => SubscriberInfo.updateInconsistentTopic info
  | .subscriptionMatched => SubscriberInfo.onSubscriptionMatched info
  | .livelinessLost => PublisherInfo.onLivelinessLost info
  | .offeredDeadlineMissed => PublisherInfo.onOfferedDeadlineMissed info
  | .offeredQosIncompatible => PublisherInfo.onOfferedIncompatibleQos info
  | .publisherIncompatibleType => PublisherInfo.updateInconsistentTopic info
  | .publicationMatched => PublisherInfo.onPublicationMatched info

/-- The flag a listener method sets is that of its event. -/
theorem listener_changed (info : EventInfo) (e : EventType) (status : e.Status) :
    (info.listener e status).1.changed = update info.changed e true := by
  cases e <;> rfl

/-- The record it writes is that of its event, but for the missed offered deadline. -/
theorem listener_status (info : EventInfo) {e : EventType} (own : e ≠ .offeredDeadlineMissed)
    (status : e.Status) :
    (info.listener e status).1.status =
      update info.status e (e.accumulate (info.status e) status) := by
  cases e with
  | offeredDeadlineMissed => exact absurd rfl own
  | _ => rfl

theorem listener_offeredDeadlineMissed (info : EventInfo) (status : CountStatus) :
    (info.listener .offeredDeadlineMissed status).1.status =
      update info.status .livelinessLost
        (EventType.accumulate .livelinessLost (info.status .livelinessLost) status) := rfl

/-! ## Calls of the middleware -/

namespace Endpoint

variable (x : Endpoint)

/-- The `dds_*_get_*_status` of an event, into the record of the info object: the record is
overwritten, and the changes are read. -/
def ddsGetStatus (e : EventType) : Endpoint :=
  { x with
    info := { x.info with status := update x.info.status e (x.dds.status e) }
    dds := { x.dds with status := update x.dds.status e (e.cleared (x.dds.status e)) } }

/-- The changes in the record of an event are read. -/
def clear (e : EventType) : Endpoint :=
  { x with
    info := { x.info with status := update x.info.status e (e.cleared (x.info.status e)) } }

/-- The changed flag of an event is reset. -/
def resetChanged (e : EventType) : Endpoint :=
  { x with info := { x.info with changed := update x.info.changed e false } }

/-- `dds_GuardCondition_set_trigger_value` on the guard condition of an event. -/
def setTrigger (e : EventType) (value : Bool) : Endpoint :=
  { x with info := x.info.setTrigger e value }

/-- The end of `set_on_new_event_callback`: the mask and the registration, then
`dds_DataWriter_set_listener` or `dds_DataReader_set_listener`. -/
def register (mask : StatusMask) (e : EventType) (callback : Option Callback)
    (userData : UserData) : Endpoint :=
  { x with
    info :=
      { x.info with
        mask
        onNewEventCb := update x.info.onNewEventCb e callback
        userDataCb := update x.info.userDataCb e userData }
    dds := { x.dds with listenerMask := mask } }

/-- The first half of `set_on_new_event_callback` where there is a callback: the record is read. -/
def reread (e : EventType) : Endpoint := ((x.ddsGetStatus e).clear e).resetChanged e

/-- `callback(user_data, changes)`, if there are changes. -/
def tell (callback : Callback) (userData : UserData) (changes : Int) : List Call :=
  if 0 < changes then [{ callback, userData, count := changes }] else []

/-- `set_on_new_event_callback`: the endpoint it leaves, the calls it makes, and how it ends. -/
def setOnNewEventCallback (e : EventType) (userData : UserData) :
    Option Callback → Endpoint × List Call × RmwRet
  | some callback =>
    if x.kind.supports e then
      ((x.reread e).register (x.info.mask ∪ getStatusKindFromRmw e) e callback userData,
        tell callback userData (e.changes ((x.ddsGetStatus e).info.status e)), .ok)
    else (x, [], .unsupported)
  | none => (x.register (x.info.mask \ getStatusKindFromRmw e) e none 0, [], .ok)

theorem setOnNewEventCallback_kind (e : EventType) (userData : UserData)
    (callback : Option Callback) :
    (x.setOnNewEventCallback e userData callback).1.kind = x.kind := by
  cases callback with
  | some callback =>
    simp only [setOnNewEventCallback]
    split <;> rfl
  | none => rfl

/-- The first half of `get_status`: the record is what a listener has left, or what DDS has. -/
def refresh (e : EventType) : Endpoint :=
  if x.info.changed e then x.resetChanged e else x.ddsGetStatus e

/-- `get_status`: the endpoint it leaves, the record it hands out, and how it ends. -/
def getStatus (e : EventType) : Endpoint × Option e.RmwStatus × RmwRet :=
  if x.kind.supports e then
    (((x.refresh e).clear e).setTrigger e false, some (e.toRmw ((x.refresh e).info.status e)), .ok)
  else (x, none, .unsupported)

variable {x} {e : EventType}

theorem getStatus_supported (supported : x.kind.supports e = true) :
    (x.getStatus e).1 = ((x.refresh e).clear e).setTrigger e false := by
  unfold getStatus
  rw [if_pos supported]

theorem setOnNewEventCallback_supported (supported : x.kind.supports e = true)
    (userData : UserData) (callback : Callback) :
    (x.setOnNewEventCallback e userData (some callback)).1 =
      (x.reread e).register (x.info.mask ∪ getStatusKindFromRmw e) e callback userData := by
  unfold setOnNewEventCallback
  dsimp only
  rw [if_pos supported]

/-- What an endpoint is and whom it tells. -/
structure SameSetup (x y : Endpoint) : Prop where
  kind : y.kind = x.kind
  mask : y.info.mask = x.info.mask
  onNewEventCb : y.info.onNewEventCb = x.info.onNewEventCb
  listenerMask : y.dds.listenerMask = x.dds.listenerMask

theorem refresh_setup (x : Endpoint) (e : EventType) : x.SameSetup (x.refresh e) := by
  unfold refresh
  split <;> exact ⟨rfl, rfl, rfl, rfl⟩

/-- `get_status` looks at what an endpoint is and does not change it. -/
theorem getStatus_setup (x : Endpoint) (e : EventType) : x.SameSetup (x.getStatus e).1 := by
  by_cases supported : x.kind.supports e = true
  · rw [getStatus_supported supported]
    obtain ⟨kind, mask, onNewEventCb, listenerMask⟩ := x.refresh_setup e
    exact ⟨kind, mask, onNewEventCb, listenerMask⟩
  · unfold getStatus
    rw [if_neg supported]
    exact ⟨rfl, rfl, rfl, rfl⟩

/-- Whether the record was there or is read, the flag is then not set. -/
theorem refresh_changed : (x.refresh e).info.changed = update x.info.changed e false := by
  unfold refresh
  split
  · rfl
  · rename_i unset
    have flag : x.info.changed e = false := Bool.eq_false_of_not_eq_true unset
    show x.info.changed = update x.info.changed e false
    rw [← flag, update_eq_self]

theorem refresh_eventGuardCond :
    (x.refresh e).info.eventGuardCond = x.info.eventGuardCond := by
  unfold refresh
  split <;> rfl

end Endpoint

/-- `has_callback_unsafe`. The type of a topic is always watched. -/
def EventInfo.hasCallback (info : EventInfo) (e : Option EventType) : Bool :=
  decide (((info.mask ∪ {.inconsistentTopic}) ∩ getStatusKindFromRmw e).Nonempty)

/-! ## What DDS does -/

/-- The status of an event in DDS: the totals are new, and the changes come on top of those not yet
read. -/
def Endpoint.pending (x : Endpoint) (e : EventType) (status : e.Status) : e.Status :=
  e.accumulate (x.dds.status e) status

/-- DDS has a new status for an event. If it has a listener to call, it hands the changes over, and
`listener` has the statuses that the info object is then notified of. -/
def Endpoint.deliver (x : Endpoint) (e : EventType) (status : e.Status)
    (listener : e.Status → Option (List e.Status)) : Endpoint :=
  let pending := x.pending e status
  match listener pending with
  | none => { x with dds := { x.dds with status := update x.dds.status e pending } }
  | some notified =>
    { x with
      info := notified.foldl (fun info status => (info.listener e status).1) x.info
      dds := { x.dds with status := update x.dds.status e (e.cleared pending) } }

end Events
