import Mathlib.Data.Finset.Erase
import RmwGurumdds.Events.EventInfo
import RmwGurumdds.Exec.Runs

/-!
# Changes that are waiting

A change of an event waits in one of two places: in the info object, with the changed flag set, or
in DDS, with the event's bit set in the status changes of the entity. `is_status_changed` is asked
by a wait whether there is one, and the guard condition of the event is what the wait blocks on.

Of one event, four bits tell all of this (`View`), and each call and each notification does the same
to them whatever the rest of the endpoint is (`view_step`). What the question answers and whether
the guard condition agrees with the flag is then read off the four bits, through whole runs.

The question is answered wrongly where a callback was removed over a flag that was set, and always
of lost messages (`status_changed_exact_iff`). The guard condition parts from the flag where a
callback is installed over a flag that was set, and whenever the question is asked and the answer is
the flag (`guard_iff_untaken`).
-/

namespace Events

open Exec Function

/-! ## The question -/

/-- The events that the `switch` of `is_status_changed` has a case for. The one of subscriptions
has none for `RMW_EVENT_MESSAGE_LOST`. -/
def EndpointKind.reports : EndpointKind → EventType → Bool
  | .publisher, .livelinessLost | .publisher, .offeredDeadlineMissed
  | .publisher, .offeredQosIncompatible | .publisher, .publisherIncompatibleType
  | .publisher, .publicationMatched => true
  | .subscription, .livelinessChanged | .subscription, .requestedDeadlineMissed
  | .subscription, .requestedQosIncompatible | .subscription, .subscriptionIncompatibleType
  | .subscription, .subscriptionMatched => true
  | _, _ => false

/-- `is_status_changed`: the answer, and the endpoint it leaves. `statusChanges` is what
`dds_DataWriter_get_status_changes` or `dds_DataReader_get_status_changes` answers. -/
def Endpoint.isStatusChanged (x : Endpoint) (statusChanges : StatusMask) (e : Option EventType) :
    Bool × Endpoint :=
  let reported := decide ((statusChanges ∩ getStatusKindFromRmw e).Nonempty)
  if x.info.hasCallback e then
    match e with
    | none => (false, x)
    | some e =>
      if x.kind.reports e then
        (x.info.changed e || reported, if x.info.changed e then x.setTrigger e false else x)
      else (false, x)
  else (reported, x)

/-! ## Runs -/

/-- An endpoint and the status changes of its entity. The status of a topic is not among them. -/
structure Observed where
  endpoint : Endpoint
  statusChanges : StatusMask

/-- What can happen. -/
inductive Action where
  /-- A listener method is called. -/
  | notify (e : EventType) (status : e.Status)
  /-- DDS has a new status, and no listener for it. -/
  | keep (e : EventType) (status : e.Status)
  | getStatus (e : EventType)
  | setCallback (e : EventType) (userData : UserData) (callback : Option Callback)
  | isStatusChanged (e : EventType)

/-- A new endpoint. -/
def Observed.create (kind : EndpointKind) : Observed where
  endpoint := .create kind
  statusChanges := ∅

namespace Observed

variable (o : Observed)

/-- The status DDS keeps of an event. -/
def withStatus (e : EventType) (status : e.Status) : Endpoint :=
  { o.endpoint with
    dds := { o.endpoint.dds with status := update o.endpoint.dds.status e status } }

/-- A listener method is called with a status. DDS takes the changes for read. -/
def notify (e : EventType) (status : e.Status) : Observed where
  endpoint :=
    { o.withStatus e (e.cleared status) with info := (o.endpoint.info.listener e status).1 }
  statusChanges := o.statusChanges.erase e.statusKind

/-- DDS keeps a status, and sets its bit if it is one of the entity's own. -/
def keep (e : EventType) (status : e.Status) : Observed where
  endpoint := o.withStatus e (o.endpoint.pending e status)
  statusChanges :=
    if e.statusKind = .inconsistentTopic then o.statusChanges
    else insert e.statusKind o.statusChanges

/-- One step. DDS has no status for the events of the other kind of endpoint, and keeps none that
it calls a listener for. A status that is read has its bit reset. -/
def step : Action → Observed
  | .notify e status => if o.endpoint.kind.supports e then o.notify e status else o
  | .keep e status =>
    if o.endpoint.kind.supports e ∧ e.statusKind ∉ o.endpoint.dds.listenerMask then
      o.keep e status
    else o
  | .getStatus e =>
    { endpoint := (o.endpoint.getStatus e).1
      statusChanges :=
        if o.endpoint.kind.supports e ∧ o.endpoint.info.changed e = false then
          o.statusChanges.erase e.statusKind
        else o.statusChanges }
  | .setCallback e userData callback =>
    { endpoint := (o.endpoint.setOnNewEventCallback e userData callback).1
      statusChanges :=
        if o.endpoint.kind.supports e ∧ callback.isSome then o.statusChanges.erase e.statusKind
        else o.statusChanges }
  | .isStatusChanged e =>
    { o with endpoint := (o.endpoint.isStatusChanged o.statusChanges (some e)).2 }

/-- After a run. -/
def after (kind : EndpointKind) (actions : List Action) : Observed :=
  run Observed.step (.create kind) actions

end Observed

/-! ## Four bits -/

/-- What matters of one event: it counts as one with a callback, its flag is set, its bit is set in
DDS, its guard condition is triggered. -/
structure View where
  callback : Bool
  changed : Bool
  reported : Bool
  guard : Bool
deriving DecidableEq

/-- The four bits of an event. -/
def Observed.view (o : Observed) (e : EventType) : View where
  callback := o.endpoint.info.hasCallback e
  changed := o.endpoint.info.changed e
  reported := decide (e.statusKind ∈ o.statusChanges)
  guard := o.endpoint.info.eventGuardCond e

/-- What a step does to the bits of `e`. -/
def View.step (v : View) (e : EventType) : Action → View
  | .notify e' _ =>
    if e' = e then { v with changed := true, reported := false, guard := true } else v
  | .keep e' _ => if e' = e ∧ v.callback = false then { v with reported := true } else v
  | .getStatus e' =>
    if e' = e then
      { v with changed := false, reported := v.changed && v.reported, guard := false }
    else v
  | .setCallback e' _ (some _) =>
    if e' = e then { v with callback := true, changed := false, reported := false } else v
  | .setCallback e' _ none =>
    if e' = e then { v with callback := decide (e.statusKind = .inconsistentTopic) } else v
  | .isStatusChanged e' =>
    if e' = e ∧ v.callback = true ∧ e ≠ .messageLost ∧ v.changed = true then
      { v with guard := false }
    else v

section Refinement

variable {o : Observed} {e e' : EventType}

theorem statusKind_inter {mask : StatusMask} :
    (mask ∩ getStatusKindFromRmw (some e)).Nonempty ↔ e.statusKind ∈ mask := by
  constructor
  · rintro ⟨k, mem⟩
    obtain ⟨mem, own⟩ := Finset.mem_inter.mp mem
    rwa [← Finset.mem_singleton.mp own]
  · intro mem
    exact ⟨e.statusKind, Finset.mem_inter.mpr ⟨mem, Finset.mem_singleton_self _⟩⟩

theorem hasCallback_iff {info : EventInfo} :
    info.hasCallback (some e) = true ↔
      e.statusKind = .inconsistentTopic ∨ e.statusKind ∈ info.mask := by
  rw [EventInfo.hasCallback, decide_eq_true_iff, statusKind_inter, Finset.mem_union,
    Finset.mem_singleton, or_comm]

/-- The events of one kind of endpoint have bits of their own. -/
theorem statusKind_inj {kind : EndpointKind} (supported : kind.supports e = true)
    (supported' : kind.supports e' = true) (same : e.statusKind = e'.statusKind) : e = e' := by
  cases kind <;> cases e <;> cases supported <;> cases e' <;> cases supported' <;>
    first | rfl | cases same

/-- The listener mask of the entity is the one the info object has. -/
structure Observed.Sane (kind : EndpointKind) (o : Observed) : Prop where
  kind_eq : o.endpoint.kind = kind
  listenerMask_eq : o.endpoint.dds.listenerMask = o.endpoint.info.mask

/-- Nothing is changed in the masks. -/
theorem Observed.Sane.congr {kind : EndpointKind} (sane : o.Sane kind) {o' : Observed}
    (kind_eq : o'.endpoint.kind = o.endpoint.kind)
    (mask : o'.endpoint.info.mask = o.endpoint.info.mask)
    (listenerMask : o'.endpoint.dds.listenerMask = o.endpoint.dds.listenerMask) : o'.Sane kind :=
  ⟨kind_eq.trans sane.kind_eq, by rw [listenerMask, mask, sane.listenerMask_eq]⟩

theorem listener_mask (info : EventInfo) (status : e.Status) :
    (info.listener e status).1.mask = info.mask := by
  cases e <;> rfl

theorem Observed.Sane.step {kind : EndpointKind} (sane : o.Sane kind) (a : Action) :
    (o.step a).Sane kind := by
  cases a with
  | notify e status =>
    unfold Observed.step
    dsimp only
    split
    · exact sane.congr rfl (listener_mask _ _) rfl
    · exact sane
  | keep e status =>
    unfold Observed.step
    dsimp only
    split
    · exact sane.congr rfl rfl rfl
    · exact sane
  | getStatus e =>
    have same := o.endpoint.getStatus_setup e
    exact sane.congr same.kind same.mask same.listenerMask
  | setCallback e userData callback =>
    refine ⟨(Endpoint.setOnNewEventCallback_kind _ _ _ _).trans sane.kind_eq, ?_⟩
    show (o.endpoint.setOnNewEventCallback e userData callback).1.dds.listenerMask =
      (o.endpoint.setOnNewEventCallback e userData callback).1.info.mask
    cases callback with
    | none => rfl
    | some callback =>
      unfold Endpoint.setOnNewEventCallback
      dsimp only
      split
      · rfl
      · exact sane.listenerMask_eq
  | isStatusChanged e =>
    have same : ((o.endpoint.isStatusChanged o.statusChanges (some e)).2.kind = o.endpoint.kind) ∧
        ((o.endpoint.isStatusChanged o.statusChanges (some e)).2.info.mask =
          o.endpoint.info.mask) ∧
        (o.endpoint.isStatusChanged o.statusChanges (some e)).2.dds.listenerMask =
          o.endpoint.dds.listenerMask := by
      unfold Endpoint.isStatusChanged
      dsimp only
      repeat' split
      all_goals exact ⟨rfl, rfl, rfl⟩
    exact sane.congr same.1 same.2.1 same.2.2

/-- The callback bit depends on the mask alone. -/
theorem hasCallback_congr {info info' : EventInfo} (mask : info'.mask = info.mask) :
    info'.hasCallback (some e) = info.hasCallback (some e) := by
  unfold EventInfo.hasCallback
  rw [mask]

/-- A bit that two events share is always watched. -/
theorem statusKind_shared (other : e ≠ e') (same : e.statusKind = e'.statusKind) :
    e.statusKind = .inconsistentTopic := by
  cases e <;> cases e' <;> first | rfl | exact absurd rfl other | cases same

/-- What the bits are read from. -/
theorem view_eq {v : View} (callback : o.endpoint.info.hasCallback (some e) = v.callback)
    (changed : o.endpoint.info.changed e = v.changed)
    (reported : e.statusKind ∈ o.statusChanges ↔ v.reported = true)
    (guard : o.endpoint.info.eventGuardCond e = v.guard) : o.view e = v := by
  unfold Observed.view
  rw [View.mk.injEq]
  exact ⟨callback, changed, Bool.eq_iff_iff.mpr (decide_eq_true_iff.trans reported), guard⟩

/-- A step that leaves what the bits are read from leaves the bits. -/
theorem view_congr {o' : Observed}
    (callback : o'.endpoint.info.hasCallback (some e) = o.endpoint.info.hasCallback (some e))
    (changed : o'.endpoint.info.changed e = o.endpoint.info.changed e)
    (reported : e.statusKind ∈ o'.statusChanges ↔ e.statusKind ∈ o.statusChanges)
    (guard : o'.endpoint.info.eventGuardCond e = o.endpoint.info.eventGuardCond e) :
    o'.view e = o.view e :=
  view_eq callback changed (reported.trans decide_eq_true_iff.symm) guard

theorem mem_erase_other {kind : EndpointKind} (supported : kind.supports e = true)
    (supported' : kind.supports e' = true) (other : e' ≠ e) {mask : StatusMask} :
    e.statusKind ∈ mask.erase e'.statusKind ↔ e.statusKind ∈ mask := by
  refine Finset.mem_erase.trans (and_iff_right fun same => ?_)
  exact other (statusKind_inj supported supported' same).symm

theorem listener_eventGuardCond (info : EventInfo) (status : e'.Status) :
    (info.listener e' status).1.eventGuardCond = update info.eventGuardCond e' true := by
  cases e' <;> rfl

/-- The `switch` has a case for every event that `get_status` has one for, but for one. -/
theorem reports_iff {kind : EndpointKind} (supported : kind.supports e = true) :
    kind.reports e = true ↔ e ≠ .messageLost := by
  revert supported
  cases kind <;> cases e <;> decide

/-- The event a step is about. -/
def Action.event : Action → EventType
  | .notify e _ | .keep e _ | .getStatus e | .setCallback e _ _ | .isStatusChanged e => e

section Bits

variable {v : View}

theorem View.step_notify (status : e.Status) :
    v.step e (.notify e status) = { v with changed := true, reported := false, guard := true } :=
  if_pos rfl

theorem View.step_getStatus :
    v.step e (.getStatus e) = ⟨v.callback, false, v.changed && v.reported, false⟩ := if_pos rfl

theorem View.step_install (userData : UserData) (callback : Callback) :
    v.step e (.setCallback e userData (some callback)) =
      { v with callback := true, changed := false, reported := false } := if_pos rfl

theorem View.step_remove (userData : UserData) :
    v.step e (.setCallback e userData none) =
      { v with callback := decide (e.statusKind = .inconsistentTopic) } := if_pos rfl

theorem View.step_keep (none : v.callback = false) (status : e.Status) :
    v.step e (.keep e status) = { v with reported := true } := if_pos ⟨rfl, none⟩

theorem View.step_keep_watched (watched : ¬ v.callback = false) (status : e.Status) :
    v.step e (.keep e status) = v := if_neg fun h => watched h.2

/-- The question is answered by the flag. -/
def View.Told (v : View) (e : EventType) : Prop :=
  v.callback = true ∧ e ≠ .messageLost ∧ v.changed = true

theorem View.step_told (told : v.Told e) :
    v.step e (.isStatusChanged e) = { v with guard := false } := if_pos ⟨rfl, told⟩

theorem View.step_not_told (other : ¬ v.Told e) : v.step e (.isStatusChanged e) = v :=
  if_neg fun h => other h.2

theorem View.step_other {a : Action} (other : a.event ≠ e) : v.step e a = v := by
  cases a with
  | notify e' status => exact if_neg other
  | keep e' status => exact if_neg fun h => other h.1
  | getStatus e' => exact if_neg other
  | setCallback e' userData callback => cases callback <;> exact if_neg other
  | isStatusChanged e' => exact if_neg fun h => other h.1

end Bits

/-- A bit taken out of or put into the mask is not that of another event, unless that is watched
anyway. -/
theorem hasCallback_other (other : e' ≠ e) (info : EventInfo) {mask : StatusMask}
    (same : ∀ k ≠ e'.statusKind, k ∈ mask ↔ k ∈ info.mask) :
    { info with mask }.hasCallback (some e) = info.hasCallback (some e) := by
  rw [Bool.eq_iff_iff, hasCallback_iff, hasCallback_iff]
  by_cases shared : e.statusKind = e'.statusKind
  · have topic := statusKind_shared (Ne.symm other) shared
    exact iff_of_true (.inl topic) (.inl topic)
  · rw [same _ shared]

section Step

variable (supported : o.endpoint.kind.supports e = true)
include supported

/-! ### Steps about another event -/

section Other

variable (other : e' ≠ e)
include other

theorem view_notify_other (status : e'.Status) :
    (o.step (.notify e' status)).view e = o.view e := by
  unfold Observed.step
  dsimp only
  split
  · rename_i supported'
    refine view_congr (hasCallback_congr (listener_mask _ _)) ?_
      (mem_erase_other supported supported' other) ?_
    · show (o.endpoint.info.listener e' status).1.changed e = _
      rw [listener_changed, update_of_ne (Ne.symm other)]
    · show (o.endpoint.info.listener e' status).1.eventGuardCond e = _
      rw [listener_eventGuardCond, update_of_ne (Ne.symm other)]
  · rfl

theorem view_keep_other (status : e'.Status) :
    (o.step (.keep e' status)).view e = o.view e := by
  unfold Observed.step
  dsimp only
  split
  · rename_i kept
    refine view_congr rfl rfl ?_ rfl
    unfold Observed.keep
    dsimp only
    split
    · rfl
    · refine Finset.mem_insert.trans (or_iff_right fun shared => ?_)
      exact other (statusKind_inj supported kept.1 shared).symm
  · rfl

theorem view_getStatus_other : (o.step (.getStatus e')).view e = o.view e := by
  by_cases supported' : o.endpoint.kind.supports e' = true
  · have changed : (o.endpoint.refresh e').info.changed e = o.endpoint.info.changed e := by
      rw [Endpoint.refresh_changed, update_of_ne (Ne.symm other)]
    have guard : (o.endpoint.refresh e').info.eventGuardCond = o.endpoint.info.eventGuardCond :=
      Endpoint.refresh_eventGuardCond
    unfold Observed.step
    dsimp only
    rw [Endpoint.getStatus_supported supported']
    refine view_congr (hasCallback_congr (o.endpoint.refresh_setup e').mask) changed ?_ ?_
    · dsimp only
      split
      · exact mem_erase_other supported supported' other
      · rfl
    · exact (update_of_ne (Ne.symm other) _ _).trans (congrFun guard e)
  · have kept : o.step (.getStatus e') = o := by
      unfold Observed.step Endpoint.getStatus
      dsimp only
      rw [if_neg supported', if_neg fun h => supported' h.1]
    rw [kept]

theorem view_setCallback_other (userData : UserData) (callback : Option Callback) :
    (o.step (.setCallback e' userData callback)).view e = o.view e := by
  cases callback with
  | none =>
    refine view_congr ?_ rfl ?_ rfl
    · refine hasCallback_other other o.endpoint.info fun k own => ?_
      refine Finset.mem_sdiff.trans (and_iff_left fun mem => own ?_)
      exact Finset.mem_singleton.mp mem
    · unfold Observed.step
      dsimp only
      rw [if_neg fun h => absurd h.2 (by decide)]
  | some callback =>
    by_cases supported' : o.endpoint.kind.supports e' = true
    · unfold Observed.step
      dsimp only
      rw [Endpoint.setOnNewEventCallback_supported supported', if_pos ⟨supported', rfl⟩]
      refine view_congr ?_ (update_of_ne (Ne.symm other) _ _)
        (mem_erase_other supported supported' other) rfl
      refine hasCallback_other other o.endpoint.info fun k own => ?_
      refine Finset.mem_union.trans (or_iff_left fun mem => own ?_)
      exact Finset.mem_singleton.mp mem
    · have kept : o.step (.setCallback e' userData (some callback)) = o := by
        unfold Observed.step Endpoint.setOnNewEventCallback
        dsimp only
        rw [if_neg supported', if_neg fun h => supported' h.1]
      rw [kept]

omit supported in
theorem view_isStatusChanged_other : (o.step (.isStatusChanged e')).view e = o.view e := by
  unfold Observed.step Endpoint.isStatusChanged
  dsimp only
  split
  · split
    · split
      · exact view_congr rfl rfl Iff.rfl (update_of_ne (Ne.symm other) _ _)
      · rfl
    · rfl
  · rfl

end Other

/-! ### Steps about the event itself -/

theorem view_notify_self (status : e.Status) :
    (o.step (.notify e status)).view e = (o.view e).step e (.notify e status) := by
  rw [View.step_notify]
  unfold Observed.step
  dsimp only
  rw [if_pos supported]
  refine view_eq (hasCallback_congr (listener_mask _ _)) ?_ ?_ ?_
  · show (o.endpoint.info.listener e status).1.changed e = true
    rw [listener_changed, update_self]
  · exact iff_of_false (Finset.notMem_erase _ _) Bool.false_ne_true
  · show (o.endpoint.info.listener e status).1.eventGuardCond e = true
    rw [listener_eventGuardCond, update_self]

theorem view_keep_self {kind : EndpointKind} (sane : o.Sane kind) (status : e.Status) :
    (o.step (.keep e status)).view e = (o.view e).step e (.keep e status) := by
  -- DDS keeps the status of `e` exactly where `e` has no callback, or is that of the topic.
  have unwatched : (o.view e).callback = false ↔
      e.statusKind ≠ .inconsistentTopic ∧ e.statusKind ∉ o.endpoint.dds.listenerMask := by
    have callback_iff : (o.view e).callback = true ↔ _ := hasCallback_iff
    rw [sane.listenerMask_eq, ← not_or, ← callback_iff, Bool.not_eq_true]
  by_cases none : (o.view e).callback = false
  · obtain ⟨own, mem⟩ := unwatched.mp none
    have kept : o.step (.keep e status) = o.keep e status := if_pos ⟨supported, mem⟩
    rw [View.step_keep none, kept]
    refine view_eq rfl rfl (iff_of_true ?_ rfl) rfl
    unfold Observed.keep
    rw [if_neg own]
    exact Finset.mem_insert_self _ _
  · rw [View.step_keep_watched none]
    unfold Observed.step
    dsimp only
    split
    · rename_i kept
      have topic : e.statusKind = .inconsistentTopic := by
        by_contra own
        exact none (unwatched.mpr ⟨own, kept.2⟩)
      refine view_congr rfl rfl ?_ rfl
      unfold Observed.keep
      rw [if_pos topic]
    · rfl

theorem view_getStatus_self :
    (o.step (.getStatus e)).view e = (o.view e).step e (.getStatus e) := by
  have changed : (o.endpoint.refresh e).info.changed e = false := by
    rw [Endpoint.refresh_changed, update_self]
  have mask := (o.endpoint.refresh_setup e).mask
  rw [View.step_getStatus]
  unfold Observed.step
  dsimp only
  rw [Endpoint.getStatus_supported supported]
  refine view_eq (hasCallback_congr mask) changed ?_ (update_self _ _ _)
  show _ ↔ (o.endpoint.info.changed e && decide (e.statusKind ∈ o.statusChanges)) = true
  rw [Bool.and_eq_true, decide_eq_true_iff]
  dsimp only
  split
  · rename_i unset
    exact iff_of_false (Finset.notMem_erase _ _) fun h => absurd (unset.2 ▸ h.1) (by decide)
  · rename_i set
    have flag : o.endpoint.info.changed e = true := by
      by_contra unset
      exact set ⟨supported, Bool.not_eq_true _ ▸ unset⟩
    exact (and_iff_right flag).symm

theorem view_install_self (userData : UserData) (callback : Callback) :
    (o.step (.setCallback e userData (some callback))).view e =
      (o.view e).step e (.setCallback e userData (some callback)) := by
  rw [View.step_install]
  unfold Observed.step
  dsimp only
  rw [Endpoint.setOnNewEventCallback_supported supported, if_pos ⟨supported, rfl⟩]
  have erased := Finset.notMem_erase e.statusKind o.statusChanges
  refine view_eq ?_ (update_self _ _ _) (iff_of_false erased Bool.false_ne_true) rfl
  refine hasCallback_iff.mpr (.inr ?_)
  exact Finset.mem_union_right _ (Finset.mem_singleton_self _)

omit supported in
theorem view_remove_self (userData : UserData) :
    (o.step (.setCallback e userData none)).view e =
      (o.view e).step e (.setCallback e userData none) := by
  rw [View.step_remove]
  unfold Observed.step
  dsimp only
  rw [if_neg fun h => absurd h.2 (by decide)]
  refine view_eq ?_ rfl decide_eq_true_iff.symm rfl
  refine Bool.eq_iff_iff.mpr (hasCallback_iff.trans (Iff.trans ?_ decide_eq_true_iff.symm))
  refine or_iff_left fun mem => ?_
  exact (Finset.mem_sdiff.mp mem).2 (Finset.mem_singleton_self _)

theorem view_isStatusChanged_self :
    (o.step (.isStatusChanged e)).view e = (o.view e).step e (.isStatusChanged e) := by
  unfold Observed.step Endpoint.isStatusChanged
  dsimp only
  by_cases answers : o.endpoint.info.hasCallback (some e) = true ∧ e ≠ .messageLost
  · obtain ⟨has, own⟩ := answers
    rw [if_pos has, if_pos ((reports_iff supported).mpr own)]
    dsimp only
    split
    · rename_i changed
      rw [View.step_told ⟨has, own, changed⟩]
      exact view_eq rfl rfl decide_eq_true_iff.symm (update_self _ _ _)
    · rename_i unset
      exact (View.step_not_told fun told => unset told.2.2).symm
  · rw [View.step_not_told fun told => answers ⟨told.1, told.2.1⟩]
    split
    · rename_i has
      rw [if_neg fun reports => answers ⟨has, (reports_iff supported).mp reports⟩]
    · rfl

/-- **Every step does to the bits of an event what it does to four bits.** -/
theorem view_step {kind : EndpointKind} (sane : o.Sane kind) (a : Action) :
    (o.step a).view e = (o.view e).step e a := by
  by_cases other : a.event ≠ e
  · rw [View.step_other other]
    cases a with
    | notify e' status => exact view_notify_other supported other status
    | keep e' status => exact view_keep_other supported other status
    | getStatus e' => exact view_getStatus_other supported other
    | setCallback e' userData callback => exact view_setCallback_other supported other _ callback
    | isStatusChanged e' => exact view_isStatusChanged_other other
  · rw [not_not] at other
    subst other
    cases a with
    | notify e status => exact view_notify_self supported status
    | keep e status => exact view_keep_self supported sane status
    | getStatus e => exact view_getStatus_self supported
    | setCallback e userData callback =>
      cases callback with
      | some callback => exact view_install_self supported userData callback
      | none => exact view_remove_self userData
    | isStatusChanged e => exact view_isStatusChanged_self supported

/-- The answer, of the four bits. -/
def View.answer (v : View) (e : EventType) : Bool :=
  if v.callback then decide (e ≠ .messageLost) && (v.changed || v.reported) else v.reported

theorem answer_view :
    (o.endpoint.isStatusChanged o.statusChanges (some e)).1 = (o.view e).answer e := by
  have reported : decide ((o.statusChanges ∩ getStatusKindFromRmw (some e)).Nonempty) =
      (o.view e).reported := decide_eq_decide.mpr statusKind_inter
  unfold Endpoint.isStatusChanged View.answer
  dsimp only
  rw [reported]
  by_cases has : o.endpoint.info.hasCallback (some e) = true
  · rw [if_pos has, if_pos (show (o.view e).callback = true from has)]
    by_cases own : e ≠ .messageLost
    · rw [if_pos ((reports_iff supported).mpr own), decide_eq_true own, Bool.true_and]
      rfl
    · rw [if_neg fun reports => own ((reports_iff supported).mp reports), decide_eq_false own,
        Bool.false_and]
  · rw [if_neg has, if_neg (show ¬ (o.view e).callback = true from has)]

end Step

theorem Observed.Sane.after {kind : EndpointKind} (actions : List Action) :
    (Observed.after kind actions).Sane kind :=
  run_invariant ⟨rfl, rfl⟩ (fun _ a sane => sane.step a) actions

theorem after_supports {kind : EndpointKind} (supported : kind.supports e = true)
    (actions : List Action) : (Observed.after kind actions).endpoint.kind.supports e = true := by
  rw [(Observed.Sane.after actions).kind_eq]
  exact supported

/-- **A run of an endpoint is, of one event, a run of four bits.** -/
theorem view_after {kind : EndpointKind} (supported : kind.supports e = true)
    (before : List Action) (a : Action) :
    (Observed.after kind (before ++ [a])).view e =
      ((Observed.after kind before).view e).step e a := by
  have step := view_step (after_supports supported before) (Observed.Sane.after before) a
  unfold Observed.after at step ⊢
  rwa [run_concat]

end Refinement

/-! ## Whether the question is answered -/

/-- **The answer is right**: a change is waiting exactly when `is_status_changed` says so. -/
def Observed.Exact (o : Observed) (e : EventType) : Prop :=
  (o.endpoint.isStatusChanged o.statusChanges (some e)).1 = true ↔
    o.endpoint.info.changed e = true ∨ e.statusKind ∈ o.statusChanges

/-- Which steps keep the answer for `e` right: it is notified with a callback, and is not the event
that the `switch` leaves out; its callback is not removed over a flag that is set, unless it counts
as one with a callback all the same. -/
def View.Answerable (v : View) (e : EventType) : Action → Prop
  | .notify e' _ => e' = e → e ≠ .messageLost ∧ v.callback = true
  | .setCallback e' _ none => e' = e → e.statusKind ≠ .inconsistentTopic → v.changed = false
  | _ => True

/-- What holds of the bits while the answer is right. -/
structure View.Settled (v : View) (e : EventType) : Prop where
  topic : e.statusKind = .inconsistentTopic → v.callback = true
  reported : v.callback = true → v.reported = false
  changed : v.changed = true → v.callback = true ∧ e ≠ .messageLost

namespace View

variable {v : View} {e : EventType}

/-- The answer is that a change is waiting, unless the event with its callback is the one that is
left out, or the flag is set without a callback. -/
theorem answer_iff : (v.answer e = true ↔ v.changed = true ∨ v.reported = true) ↔
    (v.callback = true → e = .messageLost → v.changed = false ∧ v.reported = false) ∧
      (v.callback = false → v.changed = true → v.reported = true) := by
  obtain ⟨callback, changed, reported, guard⟩ := v
  unfold answer
  by_cases lost : e = .messageLost <;> cases callback <;> cases changed <;> cases reported <;>
    simp [lost]

/-- While the bits are settled the answer is right. -/
theorem Settled.answer (settled : v.Settled e) :
    v.answer e = true ↔ v.changed = true ∨ v.reported = true := by
  refine answer_iff.mpr ⟨fun has lost => ⟨?_, settled.reported has⟩, fun none set => ?_⟩
  · exact Bool.eq_false_iff.mpr fun set => (settled.changed set).2 lost
  · exact absurd (settled.changed set).1 (Bool.eq_false_iff.mp none)

/-- An answerable step keeps the bits settled. -/
theorem Settled.step (settled : v.Settled e) {a : Action} (met : v.Answerable e a) :
    (v.step e a).Settled e := by
  by_cases other : a.event ≠ e
  · rwa [step_other other]
  · rw [not_not] at other
    cases a with
    | notify e' status =>
      obtain rfl : e' = e := other
      rw [step_notify]
      exact ⟨settled.topic, fun _ => rfl, fun _ => (met rfl).symm⟩
    | keep e' status =>
      obtain rfl : e' = e := other
      by_cases none : v.callback = false
      · rw [step_keep none]
        exact ⟨settled.topic, fun has => absurd (none ▸ has) Bool.false_ne_true, settled.changed⟩
      · rwa [step_keep_watched none]
    | getStatus e' =>
      obtain rfl : e' = e := other
      rw [step_getStatus]
      refine ⟨settled.topic, fun has => ?_, fun set => absurd set Bool.false_ne_true⟩
      show (v.changed && v.reported) = false
      rw [settled.reported has, Bool.and_false]
    | setCallback e' userData callback =>
      obtain rfl : e' = e := other
      cases callback with
      | some callback =>
        rw [step_install]
        exact ⟨fun _ => rfl, fun _ => rfl, fun set => absurd set Bool.false_ne_true⟩
      | none =>
        rw [step_remove]
        refine ⟨decide_eq_true, fun has => ?_, fun set => ?_⟩
        · exact settled.reported (settled.topic (of_decide_eq_true has))
        · refine ⟨decide_eq_true ?_, (settled.changed set).2⟩
          by_contra own
          exact absurd (met rfl own ▸ set) Bool.false_ne_true
    | isStatusChanged e' =>
      obtain rfl : e' = e := other
      by_cases told : v.Told e'
      · rw [step_told told]
        exact ⟨settled.topic, settled.reported, settled.changed⟩
      · rwa [step_not_told told]

/-- Any other step makes the answer wrong. -/
theorem Settled.wrong (settled : v.Settled e) {a : Action} (unmet : ¬ v.Answerable e a) :
    ¬ ((v.step e a).answer e = true ↔
      (v.step e a).changed = true ∨ (v.step e a).reported = true) := by
  intro right
  refine unmet ?_
  cases a with
  | notify e' status =>
    rintro rfl
    rw [step_notify] at right
    obtain ⟨lost, none⟩ := answer_iff.mp right
    have has : v.callback = true := by
      by_contra h
      exact absurd (none (Bool.eq_false_iff.mpr h) rfl) Bool.false_ne_true
    exact ⟨fun same => absurd (lost has same).1.symm Bool.false_ne_true, has⟩
  | setCallback e' userData callback =>
    cases callback with
    | none =>
      rintro rfl own
      rw [step_remove] at right
      by_contra flag
      have set : v.changed = true := Bool.not_eq_false _ ▸ flag
      have reported := (answer_iff.mp right).2 (decide_eq_false own) set
      have unreported := settled.reported (settled.changed set).1
      exact absurd (unreported ▸ reported) Bool.false_ne_true
    | some callback => trivial
  | _ => trivial

end View

section Answer

variable {kind : EndpointKind} {e : EventType}

theorem exact_iff {o : Observed} (supported : o.endpoint.kind.supports e = true) :
    o.Exact e ↔
      ((o.view e).answer e = true ↔ (o.view e).changed = true ∨ (o.view e).reported = true) := by
  unfold Observed.Exact
  rw [answer_view supported]
  exact Iff.of_eq (congrArg _ (propext (or_congr Iff.rfl decide_eq_true_iff.symm)))

theorem settled_create : ((Observed.create kind).view e).Settled e where
  topic same := hasCallback_iff.mpr (.inl same)
  reported _ := decide_eq_false (Finset.notMem_empty e.statusKind)
  changed set := absurd set Bool.false_ne_true

/-- **When the question is answered right.** In every run of an endpoint, and for every event it
supports, `is_status_changed` says throughout whether a change of the event is waiting, exactly when
every step of the run is answerable where it happens. -/
theorem status_changed_exact_iff (kind : EndpointKind) (e : EventType)
    (supported : kind.supports e = true) (actions : List Action) :
    Always (fun before => (Observed.after kind before).Exact e) actions ↔
      Each (fun before a => ((Observed.after kind before).view e).Answerable e a) actions := by
  have exact (before : List Action) : (Observed.after kind before).Exact e ↔ _ :=
    exact_iff (after_supports supported before)
  refine always_iff_each (I := fun before => ((Observed.after kind before).view e).Settled e)
    settled_create ((exact []).mpr settled_create.answer) ?_
  intro before a _ settled _
  rw [exact, view_after supported]
  refine ⟨settled.step, fun right => ?_, fun met => (settled.step met).answer⟩
  by_contra unmet
  exact settled.wrong unmet right

/-- A subscription with a callback for changes of its liveliness is told of one. -/
theorem livelinessChanged_exact :
    Always (fun before => (Observed.after .subscription before).Exact .livelinessChanged)
      [.setCallback .livelinessChanged 0 (some 1), .notify .livelinessChanged ⟨1, 0, 1, 0⟩] := by
  refine (status_changed_exact_iff .subscription .livelinessChanged rfl _).mpr ?_
  show Each _ ([] ++ [_] ++ [_])
  exact each_concat.mpr ⟨each_concat.mpr ⟨each_nil, trivial⟩, fun _ => ⟨by decide, by decide⟩⟩

/-- A subscription with a callback for lost messages is told of one: the flag is set, and the
answer is that nothing has changed. A publisher's callback is removed over a flag that is set, and
the flag counts for nothing. -/
theorem statusChanged_notExact :
    ¬ (Observed.after .subscription
        [.setCallback .messageLost 0 (some 1), .notify .messageLost ⟨1, 1⟩]).Exact .messageLost ∧
      ¬ (Observed.after .publisher
        [.setCallback .livelinessLost 0 (some 1), .notify .livelinessLost ⟨1, 1⟩,
          .setCallback .livelinessLost 0 none]).Exact .livelinessLost := by
  unfold Observed.Exact
  decide

end Answer

/-! ## Whether the guard condition agrees -/

/-- **The guard condition is triggered while the event is untaken**, and only then. -/
def Observed.Guarded (o : Observed) (e : EventType) : Prop :=
  o.endpoint.info.eventGuardCond e = true ↔ o.endpoint.info.changed e = true

/-- Which steps keep the guard condition of `e` with its flag: no callback is installed over a flag
that is set, and the question is not answered by the flag. -/
def View.Abiding (v : View) (e : EventType) : Action → Prop
  | .setCallback e' _ (some _) => e' = e → v.changed = false
  | .isStatusChanged e' => e' = e → v.callback = true → e ≠ .messageLost → v.changed = false
  | _ => True

/-- **A step keeps the guard condition with the flag exactly when it abides by it.** -/
theorem View.abiding_iff {v : View} {e : EventType} (agree : v.guard = v.changed) (a : Action) :
    (v.step e a).guard = (v.step e a).changed ↔ v.Abiding e a := by
  by_cases other : a.event ≠ e
  · rw [step_other other]
    refine iff_of_true agree ?_
    cases a with
    | setCallback e' userData callback =>
      cases callback with
      | some callback => exact fun same => absurd same other
      | none => trivial
    | isStatusChanged e' => exact fun same => absurd same other
    | _ => trivial
  · rw [not_not] at other
    cases a with
    | notify e' status =>
      obtain rfl : e' = e := other
      rw [step_notify]
      exact iff_of_true rfl trivial
    | keep e' status =>
      obtain rfl : e' = e := other
      refine iff_of_true ?_ trivial
      by_cases none : v.callback = false
      · rwa [step_keep none]
      · rwa [step_keep_watched none]
    | getStatus e' =>
      obtain rfl : e' = e := other
      rw [step_getStatus]
      exact iff_of_true rfl trivial
    | setCallback e' userData callback =>
      obtain rfl : e' = e := other
      cases callback with
      | some callback =>
        rw [step_install]
        -- The flag is reset, and the guard condition is what the flag was.
        exact ⟨fun unset _ => agree.symm.trans unset, fun unset => agree.trans (unset rfl)⟩
      | none =>
        rw [step_remove]
        exact iff_of_true agree trivial
    | isStatusChanged e' =>
      obtain rfl : e' = e := other
      by_cases told : v.Told e'
      · have ⟨has, own, set⟩ := told
        rw [step_told told]
        -- The guard condition is reset, and the flag stays.
        refine iff_of_false (fun same => ?_) fun met => ?_
        · exact absurd (same.trans set) Bool.false_ne_true
        · exact absurd ((met rfl has own).symm.trans set) Bool.false_ne_true
      · rw [step_not_told told]
        refine iff_of_true agree fun _ has own => ?_
        exact Bool.eq_false_iff.mpr fun set => told ⟨has, own, set⟩

/-- **When the guard condition agrees with the flag.** In every run of an endpoint, and for every
event it supports, the guard condition of the event is throughout triggered exactly while its flag
is set, exactly when every step of the run abides by it where it happens. -/
theorem guard_iff_untaken (kind : EndpointKind) (e : EventType) (supported : kind.supports e = true)
    (actions : List Action) :
    Always (fun before => (Observed.after kind before).Guarded e) actions ↔
      Each (fun before a => ((Observed.after kind before).view e).Abiding e a) actions := by
  have agree (before : List Action) : (Observed.after kind before).Guarded e ↔
      ((Observed.after kind before).view e).guard =
        ((Observed.after kind before).view e).changed := Bool.eq_iff_iff.symm
  refine always_iff_each (I := fun _ => True) trivial ((agree []).mpr rfl) ?_
  intro before a _ _ guarded
  refine ⟨fun _ => trivial, ?_⟩
  rw [agree, view_after supported]
  exact View.abiding_iff ((agree before).mp guarded) a

/-- A publisher with a callback for lost liveliness loses it, and the status is taken. -/
theorem livelinessLost_guarded :
    Always (fun before => (Observed.after .publisher before).Guarded .livelinessLost)
      [.setCallback .livelinessLost 0 (some 1), .notify .livelinessLost ⟨1, 1⟩,
        .getStatus .livelinessLost] := by
  refine (guard_iff_untaken .publisher .livelinessLost rfl _).mpr ?_
  show Each _ ([] ++ [_] ++ [_] ++ [_])
  refine each_concat.mpr ⟨each_concat.mpr ⟨each_concat.mpr ⟨each_nil, fun _ => rfl⟩, trivial⟩, ?_⟩
  exact trivial

/-- A wait that reports the lost liveliness leaves the flag set and the guard condition reset; a
second callback resets the flag and leaves the guard condition triggered. -/
theorem livelinessLost_notGuarded :
    ¬ (Observed.after .publisher
        [.setCallback .livelinessLost 0 (some 1), .notify .livelinessLost ⟨1, 1⟩,
          .isStatusChanged .livelinessLost]).Guarded .livelinessLost ∧
      ¬ (Observed.after .publisher
        [.setCallback .livelinessLost 0 (some 1), .notify .livelinessLost ⟨1, 1⟩,
          .setCallback .livelinessLost 0 (some 2)]).Guarded .livelinessLost := by
  unfold Observed.Guarded
  decide

end Events
