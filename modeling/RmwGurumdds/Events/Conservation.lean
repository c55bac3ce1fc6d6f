import RmwGurumdds.Events.EventInfo
import RmwGurumdds.Events.TopicEventListener

/-!
# Where the changes of an event go

A run of an endpoint: statuses arrive from DDS, `get_status` is called, callbacks are set, and the
listeners of topics come and go. A ledger beside the endpoint adds up, for each event and in each
column, the changes that arrived, those that `get_status` returned, and those a callback was told of
when it was installed. What is neither returned nor reported is unread, in the info object or in
DDS.

The account of an event balances (`Conserved`) until a step loses changes or makes them up, and
`loss` says by how much, of any step and in any state. Installing a callback loses what the info
object has not handed out, because DDS overwrites the record; it does not report a negative change,
nor that of a current count. What DDS hands over is entered in the account of the event, but for the
missed offered deadline, which goes to the lost liveliness, and for the inconsistent topic, which
goes nowhere: the listener of a topic has nobody on its list (`onInconsistentTopic_after`).
-/

namespace Events

open Function Exec

/-! ## Runs -/

/-- What can happen at an endpoint, and to the listeners of topics. -/
inductive Step (τ ι : Type) where
  /-- DDS has a new status. -/
  | status (e : EventType) (s : e.Status)
  | getStatus (e : EventType)
  | setCallback (e : EventType) (userData : UserData) (callback : Option Callback)
  | topic (op : TopicOp τ ι)

/-- An endpoint of a topic, with the address of its info object, the listeners of topics, and for
each event the changes that arrived, were returned and were reported. -/
structure Ledger (τ ι : Type) where
  endpoint : Endpoint
  topic : τ
  eventInfo : ι
  listeners : TopicListeners τ ι
  arrived : EventType → Column → Int
  returned : EventType → Column → Int
  reported : EventType → Column → Int

/-- The ledger of a new endpoint. -/
def Ledger.open {τ ι : Type} (kind : EndpointKind) (topic : τ) (eventInfo : ι) : Ledger τ ι where
  endpoint := .create kind
  topic
  eventInfo
  listeners := .empty τ ι
  arrived _ _ := 0
  returned _ _ := 0
  reported _ _ := 0

/-- Entries in the columns of an event. -/
def enter (account : EventType → Column → Int) (e : EventType) (change : Column → Int) :
    EventType → Column → Int :=
  update account e fun c => account e c + change c

/-- The changes that a callback is told of. -/
def telling (calls : List Call) : Column → Int
  | .told => (calls.map Call.count).sum
  | .current => 0

section Functions

variable {τ ι : Type} [DecidableEq τ] [DecidableEq ι]

/-- The statuses that the info object is notified of when DDS hands over one, if DDS has a listener
to call. A status of the topic goes to the listener of the topic, which tells the info objects on
its list; the mask of the endpoint has no part in it. -/
def Ledger.listener (l : Ledger τ ι) : (e : EventType) → e.Status → Option (List e.Status)
  | .subscriptionIncompatibleType, s | .publisherIncompatibleType, s =>
    (l.listeners.listenerContext l.topic).map fun _ =>
      ((l.listeners.onInconsistentTopic l.topic s).filter (·.1 = l.eventInfo)).map Prod.snd
  | e, s => if e.statusKind ∈ l.endpoint.dds.listenerMask then some [s] else none

/-- A step, entered in the ledger. DDS has no status for the events of the other kind of
endpoint. -/
def Ledger.step (l : Ledger τ ι) : Step τ ι → Ledger τ ι
  | .status e s =>
    if l.endpoint.kind.supports e then
      { l with
        endpoint := l.endpoint.deliver e s (l.listener e)
        arrived := enter l.arrived e fun c => e.change c s }
    else l
  | .getStatus e =>
    { l with
      endpoint := (l.endpoint.getStatus e).1
      returned := enter l.returned e fun c => (l.endpoint.getStatus e).2.1.elim 0 (e.change c) }
  | .setCallback e userData callback =>
    { l with
      endpoint := (l.endpoint.setOnNewEventCallback e userData callback).1
      reported := enter l.reported e
        (telling (l.endpoint.setOnNewEventCallback e userData callback).2.1) }
  | .topic op => { l with listeners := l.listeners.step op }

/-- The ledger after a run. -/
def Ledger.after (kind : EndpointKind) (topic : τ) (eventInfo : ι) (steps : List (Step τ ι)) :
    Ledger τ ι :=
  run Ledger.step (.open kind topic eventInfo) steps

end Functions

/-! ## Balances -/

/-- The changes of an event that the info object has not handed out. -/
def Endpoint.stored (x : Endpoint) (e : EventType) (c : Column) : Int :=
  e.change c (x.info.status e)

/-- The changes of an event that DDS has not handed over. -/
def Endpoint.unread (x : Endpoint) (e : EventType) (c : Column) : Int :=
  e.change c (x.dds.status e)

/-- The changes that DDS has for an event with a new status. -/
def Endpoint.handed (x : Endpoint) (e : EventType) (s : e.Status) (c : Column) : Int :=
  x.unread e c + e.change c s

/-- What a callback that is installed is not told of the changes that DDS has. -/
def Endpoint.untold (x : Endpoint) (e : EventType) : Column → Int
  | .told => min (x.unread e .told) 0
  | .current => x.unread e .current

section Balances

variable {τ ι : Type}

/-- How much of the changes of `e` is gone, beyond what is in the ledger. -/
def Ledger.gap (l : Ledger τ ι) (e : EventType) (c : Column) : Int :=
  l.arrived e c - l.returned e c - l.reported e c -
    (l.endpoint.stored e c + l.endpoint.unread e c)

/-- The event whose record takes in what DDS hands over, if one does. -/
def EventType.taker : EventType → Option EventType
  | .offeredDeadlineMissed => some .livelinessLost
  | .subscriptionIncompatibleType | .publisherIncompatibleType => none
  | e => some e

/-- DDS has a listener to call for `e`. -/
def Ledger.Listens (l : Ledger τ ι) (e : EventType) : Prop :=
  if e.statusKind = .inconsistentTopic then (l.listeners.listenerContext l.topic).isSome = true
  else e.statusKind ∈ l.endpoint.dds.listenerMask

instance (l : Ledger τ ι) (e : EventType) : Decidable (l.Listens e) :=
  inferInstanceAs (Decidable (if e.statusKind = .inconsistentTopic then
      (l.listeners.listenerContext l.topic).isSome = true
    else e.statusKind ∈ l.endpoint.dds.listenerMask))

/-- The changes of `e` that a step loses, or makes up if they are negative. -/
def Ledger.loss (l : Ledger τ ι) (e : EventType) (c : Column) : Step τ ι → Int
  | .status e' s =>
    if l.endpoint.kind.supports e' ∧ l.Listens e' then
      (if e' = e then l.endpoint.handed e' s c else 0) -
        if e'.taker = some e then l.endpoint.handed e' s c else 0
    else 0
  | .getStatus e' =>
    if e' = e ∧ l.endpoint.kind.supports e ∧ l.endpoint.info.changed e = false then
      l.endpoint.stored e c
    else 0
  | .setCallback e' _ (some _) =>
    if e' = e ∧ l.endpoint.kind.supports e then
      l.endpoint.stored e c + l.endpoint.untold e c
    else 0
  | .setCallback _ _ none | .topic _ => 0

end Balances

/-! ## One step -/

section Operations

variable {x : Endpoint} {e : EventType} {c : Column}

@[simp] theorem change_info_status : e.change c (x.info.status e) = x.stored e c := rfl

@[simp] theorem change_pending (s : e.Status) : e.change c (x.pending e s) = x.handed e s c :=
  change_accumulate e c _ s

@[simp] theorem unread_ddsGetStatus : (x.ddsGetStatus e).unread e c = 0 :=
  (congrArg (e.change c) (update_self _ _ _)).trans (change_cleared e c _)

@[simp] theorem stored_clear : (x.clear e).stored e c = 0 :=
  (congrArg (e.change c) (update_self _ _ _)).trans (change_cleared e c _)

@[simp] theorem unread_clear : (x.clear e).unread e c = x.unread e c := rfl

@[simp] theorem stored_resetChanged : (x.resetChanged e).stored e c = x.stored e c := rfl

@[simp] theorem unread_resetChanged : (x.resetChanged e).unread e c = x.unread e c := rfl

@[simp] theorem stored_setTrigger {b : Bool} : (x.setTrigger e b).stored e c = x.stored e c := rfl

@[simp] theorem unread_setTrigger {b : Bool} : (x.setTrigger e b).unread e c = x.unread e c := rfl

@[simp] theorem stored_register {mask : StatusMask} {cb : Option Callback} {d : UserData}
    {e' : EventType} : (x.register mask e' cb d).stored e c = x.stored e c := rfl

@[simp] theorem unread_register {mask : StatusMask} {cb : Option Callback} {d : UserData}
    {e' : EventType} : (x.register mask e' cb d).unread e c = x.unread e c := rfl

/-- Installing a callback leaves nothing. -/
theorem install_leaves (supported : x.kind.supports e = true) (userData : UserData)
    (callback : Callback) :
    (x.setOnNewEventCallback e userData (some callback)).1.stored e c = 0 ∧
      (x.setOnNewEventCallback e userData (some callback)).1.unread e c = 0 := by
  rw [Endpoint.setOnNewEventCallback_supported supported]
  simp [Endpoint.reread]

end Operations

section Delivery

variable {τ ι : Type} [DecidableEq ι] {l : Ledger τ ι} {e e' : EventType} {c : Column}

/-- Nobody hears of an inconsistent topic. -/
def Ledger.Unheard (l : Ledger τ ι) : Prop :=
  ∀ s, l.listeners.onInconsistentTopic l.topic s = []

/-- A listener notifies the info object once, but that of a topic does not. -/
theorem listener_eq (unheard : l.Unheard) (s : e.Status) :
    l.listener e s =
      if l.Listens e then some (if e.taker = none then [] else [s]) else none := by
  have topics (s : CountStatus) :
      ((l.listeners.listenerContext l.topic).map fun _ =>
          ((l.listeners.onInconsistentTopic l.topic s).filter (·.1 = l.eventInfo)).map Prod.snd) =
        if (l.listeners.listenerContext l.topic).isSome = true then some [] else none := by
    rw [unheard s]
    cases l.listeners.listenerContext l.topic <;> rfl
  cases e with
  | subscriptionIncompatibleType | publisherIncompatibleType => exact topics s
  | _ => rfl

/-- DDS keeps what it has no listener for. -/
theorem deliver_kept (unheard : l.Unheard) (deaf : ¬ l.Listens e) (s : e.Status) :
    (l.endpoint.deliver e s (l.listener e)).info = l.endpoint.info ∧
      (l.endpoint.deliver e s (l.listener e)).dds.status =
        update l.endpoint.dds.status e (l.endpoint.pending e s) := by
  have nobody : l.listener e (l.endpoint.pending e s) = none := by
    rw [listener_eq unheard, if_neg deaf]
  unfold Endpoint.deliver
  simp only [nobody, and_self]

/-- DDS hands over what it has a listener for. -/
theorem deliver_handed (unheard : l.Unheard) (listens : l.Listens e) (s : e.Status) :
    (l.endpoint.deliver e s (l.listener e)).info =
        (if e.taker = none then l.endpoint.info
          else (l.endpoint.info.listener e (l.endpoint.pending e s)).1) ∧
      (l.endpoint.deliver e s (l.listener e)).dds.status =
        update l.endpoint.dds.status e (e.cleared (l.endpoint.pending e s)) := by
  have notified : l.listener e (l.endpoint.pending e s) =
      some (if e.taker = none then [] else [l.endpoint.pending e s]) := by
    rw [listener_eq unheard, if_pos listens]
  unfold Endpoint.deliver
  simp only [notified, and_true]
  split <;> rfl

/-- A record takes in the changes of its own event, but for the missed offered deadline. -/
theorem taker_eq (missed : e ≠ .offeredDeadlineMissed) (taken : e.taker ≠ none) :
    e.taker = some e := by
  cases e with
  | offeredDeadlineMissed => exact absurd rfl missed
  | subscriptionIncompatibleType | publisherIncompatibleType => exact absurd rfl taken
  | _ => rfl

/-- What a notification adds to the records. -/
theorem change_listener (info : EventInfo) (taken : e'.taker ≠ none) (s : e'.Status) :
    e.change c ((info.listener e' s).1.status e) =
      e.change c (info.status e) + if e'.taker = some e then e'.change c s else 0 := by
  by_cases missed : e' = .offeredDeadlineMissed
  · subst missed
    have taker : EventType.taker .offeredDeadlineMissed = some .livelinessLost := rfl
    rw [listener_offeredDeadlineMissed, taker]
    by_cases lost : e = .livelinessLost
    · subst lost
      rw [update_self, change_accumulate, if_pos rfl]
      cases c <;> rfl
    · rw [update_of_ne lost, if_neg fun same => lost (Option.some.inj same).symm, Int.add_zero]
  · rw [listener_status info missed, taker_eq missed taken]
    by_cases same : e' = e
    · subst same
      rw [update_self, change_accumulate, if_pos rfl]
    · rw [update_of_ne (Ne.symm same), if_neg fun h => same (Option.some.inj h), Int.add_zero]

/-- What a status adds to the records of the info object. -/
theorem stored_deliver (unheard : l.Unheard) (s : e'.Status) :
    (l.endpoint.deliver e' s (l.listener e')).stored e c =
      l.endpoint.stored e c +
        if l.Listens e' ∧ e'.taker = some e then l.endpoint.handed e' s c else 0 := by
  unfold Endpoint.stored
  by_cases listens : l.Listens e'
  · rw [(deliver_handed unheard listens s).1]
    by_cases taken : e'.taker = none
    · rw [if_pos taken, if_neg fun h => Option.some_ne_none e (h.2.symm.trans taken),
        Int.add_zero]
    · rw [if_neg taken, change_listener _ taken, change_pending]
      simp only [listens, true_and]
  · rw [(deliver_kept unheard listens s).1, if_neg fun h => listens h.1, Int.add_zero]

/-- The flag that a status sets. -/
theorem changed_deliver (unheard : l.Unheard) (s : e'.Status) :
    (l.endpoint.deliver e' s (l.listener e')).info.changed e =
      if l.Listens e' ∧ e'.taker ≠ none ∧ e' = e then true else l.endpoint.info.changed e := by
  by_cases listens : l.Listens e'
  · rw [(deliver_handed unheard listens s).1]
    by_cases taken : e'.taker = none
    · rw [if_pos taken, if_neg fun h => h.2.1 taken]
    · rw [if_neg taken, listener_changed, update_apply]
      simp only [listens, taken, ne_eq, not_false_eq_true, true_and, eq_comm]
  · rw [(deliver_kept unheard listens s).1, if_neg fun h => listens h.1]

end Delivery

/-! ### Other events -/

section Others

variable {x : Endpoint} {e e' : EventType}

/-- The records of an event, in the info object and in DDS, and its flag are the same. -/
structure Endpoint.SameAt (x y : Endpoint) (e : EventType) : Prop where
  info : y.info.status e = x.info.status e
  dds : y.dds.status e = x.dds.status e
  changed : y.info.changed e = x.info.changed e

theorem getStatus_others (h : e ≠ e') : x.SameAt (x.getStatus e').1 e := by
  unfold Endpoint.getStatus Endpoint.refresh
  split
  · split
    · exact ⟨update_of_ne h _ _, rfl, update_of_ne h _ _⟩
    · refine ⟨?_, update_of_ne h _ _, rfl⟩
      exact (update_of_ne h _ _).trans (update_of_ne h _ _)
  · exact ⟨rfl, rfl, rfl⟩

theorem setOnNewEventCallback_others (h : e ≠ e') (userData : UserData)
    (callback : Option Callback) :
    x.SameAt (x.setOnNewEventCallback e' userData callback).1 e := by
  unfold Endpoint.setOnNewEventCallback
  split
  · split
    · refine ⟨?_, update_of_ne h _ _, update_of_ne h _ _⟩
      exact (update_of_ne h _ _).trans (update_of_ne h _ _)
    · exact ⟨rfl, rfl, rfl⟩
  · exact ⟨rfl, rfl, rfl⟩

end Others

/-! ## Runs -/

section Run

variable {τ ι : Type} [DecidableEq τ] [DecidableEq ι] {l : Ledger τ ι} {e : EventType}
  {c : Column}

/-- An event whose flag is not set has nothing to hand out. -/
def Endpoint.Clean (x : Endpoint) (e : EventType) : Prop :=
  x.info.changed e = false → ∀ c, x.stored e c = 0

theorem Endpoint.Clean.of_sameAt {x y : Endpoint} (clean : x.Clean e) (same : x.SameAt y e) :
    y.Clean e := by
  unfold Endpoint.Clean Endpoint.stored at clean ⊢
  rw [same.changed, same.info]
  exact clean

omit [DecidableEq τ] in
/-- A status that loses nothing stores nothing without setting the flag. -/
theorem Endpoint.Clean.deliver (clean : l.endpoint.Clean e) (unheard : l.Unheard)
    {e' : EventType} {s : e'.Status} (supported : l.endpoint.kind.supports e' = true)
    (lossless : ∀ c, l.loss e c (.status e' s) = 0) :
    (l.endpoint.deliver e' s (l.listener e')).Clean e := by
  intro flag c
  rw [changed_deliver unheard] at flag
  rw [stored_deliver unheard]
  split at flag
  · cases flag
  · rename_i unset
    rw [clean flag c, Int.zero_add]
    split
    · rename_i stored
      have other : ¬ e' = e := fun same =>
        unset ⟨stored.1, fun none => Option.some_ne_none e (stored.2.symm.trans none), same⟩
      have lost := lossless c
      simp only [Ledger.loss, supported, stored.1, other, stored.2, and_self, if_true,
        if_false] at lost
      omega
    · rfl

theorem Endpoint.Clean.getStatus {x : Endpoint} (clean : x.Clean e) (e' : EventType) :
    (x.getStatus e').1.Clean e := by
  by_cases same : e = e'
  · subst same
    by_cases supported : x.kind.supports e = true
    · intro _ c
      simp [Endpoint.getStatus, supported]
    · have kept : (x.getStatus e).1 = x := by rw [Endpoint.getStatus, if_neg supported]
      rwa [kept]
  · exact clean.of_sameAt (getStatus_others same)

theorem Endpoint.Clean.setCallback {x : Endpoint} (clean : x.Clean e) (e' : EventType)
    (userData : UserData) (callback : Option Callback) :
    (x.setOnNewEventCallback e' userData callback).1.Clean e := by
  by_cases same : e = e'
  · subst same
    cases callback with
    | some callback =>
      by_cases supported : x.kind.supports e = true
      · intro _ c
        exact (install_leaves supported userData callback).1
      · have kept : (x.setOnNewEventCallback e userData (some callback)).1 = x := by
          simp only [Endpoint.setOnNewEventCallback, if_neg supported]
        rwa [kept]
    | none => exact clean.of_sameAt ⟨rfl, rfl, rfl⟩
  · exact clean.of_sameAt (setOnNewEventCallback_others same userData callback)

end Run

/-- A subscription learns nothing of an inconsistent topic, and no later call does. -/
example : (Ledger.after .subscription 0 0
    [.topic (.associate 0 true), .topic (.add 0 0), .status .subscriptionIncompatibleType ⟨1, 1⟩,
      .getStatus .subscriptionIncompatibleType] : Ledger Nat Nat).gap
        .subscriptionIncompatibleType .told = 1 := by
  decide

end Events
