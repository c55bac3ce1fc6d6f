import RmwGurumdds.Events.EventInfo

/-!
# Listener notifications

A notification of an event is credited to that event if its record, flag, callback and guard
condition are the ones that are touched, and no other's (`Credited`). A method that only says
`notify` does so whatever it tells the callback (`notify_credited`). Of the eleven, nine do.

The missed offered deadline goes to the record of the lost liveliness, and the missed requested
deadline wakes the callback of the changed liveliness. Both pass for correct only where the mistaken
item happens to hold what the right one should (`listener_credited_iff`).
-/

namespace Events

open Function

/-- The callback registered for an event, with its user data. -/
def EventInfo.registered (info : EventInfo) (e : EventType) : Option (Callback × UserData) :=
  (info.onNewEventCb e).map fun callback => (callback, info.userDataCb e)

/-- The callback and the user data of a call. -/
def Call.target (c : Call) : Callback × UserData := (c.callback, c.userData)

/-- The items of an event are the same in both info objects. -/
structure EventInfo.SameAt (info info' : EventInfo) (e : EventType) : Prop where
  status : info'.status e = info.status e
  changed : info'.changed e = info.changed e
  onNewEventCb : info'.onNewEventCb e = info.onNewEventCb e
  userDataCb : info'.userDataCb e = info.userDataCb e
  eventGuardCond : info'.eventGuardCond e = info.eventGuardCond e

/-- A record becomes `after` by taking in `notified`: the totals are the notified ones, and each
change has grown by the notified one. -/
def EventType.TakesIn : (e : EventType) → (before notified after : e.Status) → Prop
  | .livelinessChanged, before, notified, after =>
    after.aliveCount = notified.aliveCount ∧
      after.notAliveCount = notified.notAliveCount ∧
      after.aliveCountChange = before.aliveCountChange + notified.aliveCountChange ∧
      after.notAliveCountChange = before.notAliveCountChange + notified.notAliveCountChange
  | .requestedQosIncompatible, before, notified, after
  | .offeredQosIncompatible, before, notified, after =>
    after.totalCount = notified.totalCount ∧
      after.totalCountChange = before.totalCountChange + notified.totalCountChange ∧
      after.lastPolicy = notified.lastPolicy
  | .subscriptionMatched, before, notified, after | .publicationMatched, before, notified, after =>
    after.totalCount = notified.totalCount ∧
      after.totalCountChange = before.totalCountChange + notified.totalCountChange ∧
      after.currentCount = notified.currentCount ∧
      after.currentCountChange = before.currentCountChange + notified.currentCountChange
  | .requestedDeadlineMissed, before, notified, after | .messageLost, before, notified, after
  | .subscriptionIncompatibleType, before, notified, after
  | .livelinessLost, before, notified, after | .offeredDeadlineMissed, before, notified, after
  | .publisherIncompatibleType, before, notified, after =>
    after.totalCount = notified.totalCount ∧
      after.totalCountChange = before.totalCountChange + notified.totalCountChange

/-- A notification of `e` has done what it should, and nothing else: `result` is the info object
afterwards and the calls that were made. -/
structure Credited (info : EventInfo) (e : EventType) (status : e.Status)
    (result : EventInfo × List Call) : Prop where
  status : e.TakesIn (info.status e) status (result.1.status e)
  changed : result.1.changed e = true
  eventGuardCond : result.1.eventGuardCond e = true
  calls : result.2.map Call.target = (info.registered e).toList
  registered : result.1.registered e = info.registered e
  others : ∀ other ≠ e, info.SameAt result.1 other

variable {info : EventInfo}

/-- What a record becomes is what `accumulate` makes of it. -/
theorem takesIn_iff {e : EventType} {before notified after : e.Status} :
    e.TakesIn before notified after ↔ after = e.accumulate before notified := by
  symm
  cases e with
  | livelinessChanged => exact LivelinessChangedStatus.ext_iff
  | requestedQosIncompatible | offeredQosIncompatible => exact IncompatibleQosStatus.ext_iff
  | subscriptionMatched | publicationMatched => exact MatchedStatus.ext_iff
  | _ => exact CountStatus.ext_iff

/-- A call reaches what is registered for its event. -/
theorem call_target (e : EventType) (count : Int) :
    (info.call e count).map Call.target = (info.registered e).toList := by
  unfold EventInfo.call EventInfo.registered
  cases info.onNewEventCb e <;> rfl

/-- **What the methods share credits its event**, whatever it tells the callback. -/
theorem notify_credited (e : EventType) (count : e.Status → e.Status → Int) (status : e.Status) :
    Credited info e status (info.notify e count status) where
  status := takesIn_iff.mpr (update_self _ _ _)
  changed := update_self _ _ _
  eventGuardCond := update_self _ _ _
  calls := call_target e _
  registered := rfl
  others _ other :=
    { status := update_of_ne other _ _
      changed := update_of_ne other _ _
      onNewEventCb := rfl
      userDataCb := rfl
      eventGuardCond := update_of_ne other _ _ }

/-- Where a notification is credited to its event. It is so wherever a method names the items of its
own event; otherwise the items it names must hold what the right ones would. -/
def EventInfo.Creditable (info : EventInfo) : (e : EventType) → e.Status → Prop
  | .offeredDeadlineMissed, status =>
    status.totalCountChange = 0 ∧
      (info.status .offeredDeadlineMissed).totalCount = status.totalCount ∧
      (info.status .livelinessLost).totalCount = status.totalCount
  | .requestedDeadlineMissed, _ =>
    info.registered .livelinessChanged = info.registered .requestedDeadlineMissed
  | _, _ => True

/-- A record takes nothing in exactly when the totals are its own and nothing has changed. -/
theorem accumulate_eq_self {s n : CountStatus} :
    (⟨n.totalCount, s.totalCountChange + n.totalCountChange⟩ : CountStatus) = s ↔
      n.totalCountChange = 0 ∧ s.totalCount = n.totalCount := by
  cases s
  rw [CountStatus.mk.injEq]
  constructor
  · rintro ⟨rfl, change⟩
    exact ⟨by dsimp only at change; omega, rfl⟩
  · rintro ⟨change, rfl⟩
    exact ⟨rfl, by dsimp only; omega⟩

theorem offeredDeadlineMissed_credited_iff (status : CountStatus) :
    Credited info .offeredDeadlineMissed status
        (PublisherInfo.onOfferedDeadlineMissed info status) ↔
      info.Creditable .offeredDeadlineMissed status := by
  have own : (PublisherInfo.onOfferedDeadlineMissed info status).1.status .offeredDeadlineMissed =
      info.status .offeredDeadlineMissed := by
    simp [PublisherInfo.onOfferedDeadlineMissed]
  have mistaken : (PublisherInfo.onOfferedDeadlineMissed info status).1.status .livelinessLost =
      EventType.accumulate .livelinessLost (info.status .livelinessLost) status := by
    simp [PublisherInfo.onOfferedDeadlineMissed]
  constructor
  · intro credited
    have stored := takesIn_iff.mp credited.status
    have lost := (credited.others .livelinessLost (by decide)).status
    rw [own] at stored
    rw [mistaken] at lost
    obtain ⟨change, total⟩ := accumulate_eq_self.mp stored.symm
    exact ⟨change, total, (accumulate_eq_self.mp lost).2⟩
  · rintro ⟨change, total, lost⟩
    have unchanged : EventType.accumulate .livelinessLost (info.status .livelinessLost) status =
        info.status .livelinessLost := accumulate_eq_self.mpr ⟨change, lost⟩
    -- The flag, the callback and the guard condition are those of the event itself.
    have rest := @notify_credited info .offeredDeadlineMissed (fun _ _ => 0) status
    refine ⟨?_, rest.changed, rest.eventGuardCond, call_target _ _, rfl, fun e other => ?_⟩
    · rw [own, takesIn_iff]
      exact (accumulate_eq_self.mpr ⟨change, total⟩).symm
    · have same := rest.others e other
      refine ⟨?_, same.changed, rfl, rfl, same.eventGuardCond⟩
      by_cases lost : e = .livelinessLost
      · subst lost
        rw [mistaken, unchanged]
      · exact update_of_ne lost _ _

theorem requestedDeadlineMissed_credited_iff (status : CountStatus) :
    Credited info .requestedDeadlineMissed status
        (SubscriberInfo.onRequestedDeadlineMissed info status) ↔
      info.Creditable .requestedDeadlineMissed status := by
  have calls : (SubscriberInfo.onRequestedDeadlineMissed info status).2.map Call.target =
      (info.registered .livelinessChanged).toList := call_target _ _
  have rest := @notify_credited info .requestedDeadlineMissed
    (fun _ stored => stored.totalCountChange) status
  constructor
  · intro credited
    have reached := credited.calls
    rw [calls] at reached
    show info.registered .livelinessChanged = info.registered .requestedDeadlineMissed
    simpa only [Option.head?_toList] using congrArg List.head? reached
  · intro same
    refine { rest with calls := ?_ }
    rw [calls]
    exact congrArg Option.toList same

/-- **Which notifications touch only their own event.** In every state and for every status, exactly
those of nine events; a missed offered deadline that says nothing new to either record; and a missed
requested deadline whose callback is the one registered for the changed liveliness. -/
theorem listener_credited_iff (info : EventInfo) (e : EventType) (status : e.Status) :
    Credited info e status (info.listener e status) ↔ info.Creditable e status := by
  cases e with
  | offeredDeadlineMissed => exact offeredDeadlineMissed_credited_iff status
  | requestedDeadlineMissed => exact requestedDeadlineMissed_credited_iff status
  | _ =>
    simp only [EventInfo.listener, PublisherInfo.updateInconsistentTopic,
      PublisherInfo.onOfferedIncompatibleQos, PublisherInfo.onLivelinessLost,
      PublisherInfo.onPublicationMatched, SubscriberInfo.updateInconsistentTopic,
      SubscriberInfo.onRequestedIncompatibleQos, SubscriberInfo.onLivelinessChanged,
      SubscriberInfo.onSubscriptionMatched, SubscriberInfo.onSampleLost]
    exact iff_of_true (notify_credited _ _ _) trivial

/-- A publisher misses its first offered deadline: the stored total stays zero, and the publisher
has lost its liveliness instead. -/
theorem listener_notCredited :
    ¬ Credited EventInfo.create .offeredDeadlineMissed ⟨1, 1⟩
      (EventInfo.create.listener .offeredDeadlineMissed ⟨1, 1⟩) := by
  intro credited
  have lost := (credited.others .livelinessLost (by decide)).status
  exact absurd lost (by decide)

end Events
