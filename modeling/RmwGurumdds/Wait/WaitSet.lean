import Mathlib.Data.Finset.Union
import Mathlib.Data.Finset.Image
import RmwGurumdds.Events.EventInfo
import RmwGurumdds.Exec.Runs

/-!
# Wait sets

`wait`, as far as it decides what a `dds_WaitSet` waits for. Five lists of pointers are compared
with those of the last wait; only if one of them differs are the conditions detached and those of
the new arguments attached. What the events need is gathered then and only then: the guard
conditions of those that have a callback, and one status condition for each entity, whose enabled
statuses are replaced.

Several wait sets share the entities. Their waits interleave with one another and with
`set_on_new_event_callback`, which may also come between the attaching and the blocking of one wait.
-/

namespace Wait

open Events Function Rmw

/-- An address. -/
abbrev Ptr := Nat

/-- `dds_Condition`, by what it belongs to. -/
inductive Condition where
  /-- `SubscriberInfo::read_condition`. -/
  | subscription (info : Ptr)
  /-- A guard condition of the caller. -/
  | guard (condition : Ptr)
  /-- `ServiceInfo::read_condition`. -/
  | service (info : Ptr)
  /-- `ClientInfo::read_condition`. -/
  | client (info : Ptr)
  /-- `EventInfo::get_guard_condition`. -/
  | event (info : Ptr) (e : EventType)
  /-- `EventInfo::get_status_condition`. -/
  | status (info : Ptr)
deriving DecidableEq, Repr

/-- `rmw_event_t`. `data` is the endpoint; the event type is `none` from `RMW_EVENT_INVALID` on. -/
structure RmwEvent where
  data : Option Ptr
  eventType : Option EventType
deriving DecidableEq, Repr

/-- The five lists of pointers of a wait. Only the list of events has no null pointers. -/
structure Arrays where
  subscriptions : List (Option Ptr)
  guardConditions : List (Option Ptr)
  services : List (Option Ptr)
  clients : List (Option Ptr)
  events : List Ptr
deriving DecidableEq, Repr

/-- No pointers. -/
def Arrays.empty : Arrays where
  subscriptions := []
  guardConditions := []
  services := []
  clients := []
  events := []

/-- The arguments of a wait. Each may be a null pointer. -/
structure Args where
  subscriptions : Option (List (Option Ptr))
  guardConditions : Option (List (Option Ptr))
  services : Option (List (Option Ptr))
  clients : Option (List (Option Ptr))
  events : Option (List Ptr)

/-- What the arguments hold. -/
def Args.arrays (a : Args) : Arrays where
  subscriptions := a.subscriptions.getD []
  guardConditions := a.guardConditions.getD []
  services := a.services.getD []
  clients := a.clients.getD []
  events := a.events.getD []

/-- `WaitSetInfo`. The wait set is what is attached to it, and `cached` has the lists
`cached_subscriptions` to `cached_event_conditions`. -/
structure WaitSetInfo where
  waitSet : Finset Condition
  cached : Arrays
  cachedStatusConditions : Finset Condition

/-- A wait set that nothing is attached to. -/
def WaitSetInfo.empty : WaitSetInfo where
  waitSet := ∅
  cached := .empty
  cachedStatusConditions := ∅

/-! ## Comparing the arguments -/

/-- `check_reattached`. -/
def checkReattached {α : Type} [DecidableEq α] (cached : List α) (array : Option (List α)) :
    Bool :=
  match array with
  | none | some [] => !cached.isEmpty
  | some array => if cached.length ≠ array.length then true else decide (cached ≠ array)

theorem checkReattached_iff {α : Type} [DecidableEq α] {cached : List α}
    {array : Option (List α)} : checkReattached cached array = true ↔ cached ≠ array.getD [] := by
  rcases array with _ | _ | ⟨p, ps⟩
  · simp [checkReattached]
  · simp [checkReattached]
  · simp only [checkReattached, Option.getD_some]
    split
    · rename_i lengths
      exact iff_of_true rfl fun same => lengths (congrArg List.length same)
    · exact decide_eq_true_iff

/-- The comparisons at the head of `wait`. -/
def WaitSetInfo.needReattached (info : WaitSetInfo) (a : Args) : Bool :=
  checkReattached info.cached.subscriptions a.subscriptions ||
    checkReattached info.cached.guardConditions a.guardConditions ||
    checkReattached info.cached.services a.services ||
    checkReattached info.cached.clients a.clients ||
    checkReattached info.cached.events a.events

theorem needReattached_iff {info : WaitSetInfo} {a : Args} :
    info.needReattached a = true ↔ info.cached ≠ a.arrays := by
  rcases info with ⟨_, ⟨subscriptions, guardConditions, services, clients, events⟩, _⟩
  simp only [WaitSetInfo.needReattached, Bool.or_eq_true, checkReattached_iff, Args.arrays,
    ne_eq, Arrays.mk.injEq, not_and_or, or_assoc]

/-! ## Attaching -/

/-- The loop over one list: what is not null is attached. -/
def attachAll (condition : Ptr → Condition) : List (Option Ptr) → Finset Condition →
    Finset Condition
  | [], attached => attached
  | none :: rest, attached => attachAll condition rest attached
  | some p :: rest, attached => attachAll condition rest (insert (condition p) attached)

theorem mem_attachAll {condition : Ptr → Condition} {ps : List (Option Ptr)}
    {attached : Finset Condition} {c : Condition} :
    c ∈ attachAll condition ps attached ↔
      c ∈ attached ∨ ∃ p, some p ∈ ps ∧ condition p = c := by
  induction ps generalizing attached with
  | nil => simp [attachAll]
  | cons p ps ih =>
    cases p with
    | none => simp [attachAll, ih]
    | some p =>
      simp only [attachAll, ih, Finset.mem_insert, List.mem_cons, Option.some.injEq]
      constructor
      · rintro ((rfl | before) | ⟨q, mem, rfl⟩)
        · exact .inr ⟨p, .inl rfl, rfl⟩
        · exact .inl before
        · exact .inr ⟨q, .inr mem, rfl⟩
      · rintro (before | ⟨q, rfl | mem, rfl⟩)
        · exact .inl (.inr before)
        · exact .inl (.inl rfl)
        · exact .inr ⟨q, mem, rfl⟩

/-- What the loop over the events has found. `statusMap` has the mask of each entity in
`entities`. -/
structure Gathered where
  statusConditions : Finset Condition
  entities : Finset Ptr
  statusMap : Ptr → StatusMask

/-- Before the loop. -/
def Gathered.empty : Gathered where
  statusConditions := ∅
  entities := ∅
  statusMap _ := ∅

/-- `status_conditions.insert` of a guard condition. -/
def Gathered.insertGuard (g : Gathered) (info : Ptr) (e : EventType) : Gathered :=
  { g with statusConditions := insert (.event info e) g.statusConditions }

/-- `mask |= get_status_kind_from_rmw`, where the map gives the entity's mask. -/
def Gathered.addKind (g : Gathered) (info : Ptr) (e : EventType) : Gathered :=
  { g with
    entities := insert info g.entities
    statusMap := update g.statusMap info (g.statusMap info ∪ getStatusKindFromRmw e) }

section Gather

variable (event : Ptr → RmwEvent) (endpoints : Ptr → Endpoint)

/-- The loop of `gather_event_conditions` over the events. A null endpoint ends it. -/
def gatherEvents : List Ptr → Gathered → RmwRet × Gathered
  | [], g => (.ok, g)
  | now :: rest, g =>
    match (event now).data, (event now).eventType with
    | none, _ => (.error, g)
    | some _, none => gatherEvents rest g
    | some info, some e =>
      if (endpoints info).info.hasCallback e then
        -- the other kind of endpoint has no guard condition for the event
        if (endpoints info).kind.supports e then
          gatherEvents rest ((g.insertGuard info e).addKind info e)
        else gatherEvents rest g
      else gatherEvents rest (g.addKind info e)

/-- `gather_event_conditions`: what it answers, the conditions it has inserted, and the enabled
statuses of the entities. -/
def gatherEventConditions (enabled : Ptr → StatusMask) (events : List Ptr) :
    RmwRet × Finset Condition × (Ptr → StatusMask) :=
  match gatherEvents event endpoints events .empty with
  | (.ok, g) =>
    (.ok, g.statusConditions ∪
        (g.entities.filter fun info => (g.statusMap info).Nonempty).image .status,
      fun info => if info ∈ g.entities ∧ (g.statusMap info).Nonempty then g.statusMap info
        else enabled info)
  | (ret, g) => (ret, g.statusConditions, enabled)

end Gather

/-! ## The system -/

/-- The wait sets, the endpoints, the enabled statuses of their status conditions, and the waits
under way. -/
structure System where
  waitSets : Ptr → WaitSetInfo
  endpoints : Ptr → Endpoint
  enabled : Ptr → StatusMask
  waiting : Ptr → Option Args

/-- `dds_STATUS_MASK_ALL`, which a status condition starts with. -/
def statusMaskAll : StatusMask :=
  {.inconsistentTopic, .offeredDeadlineMissed, .requestedDeadlineMissed, .offeredIncompatibleQos,
    .requestedIncompatibleQos, .sampleLost, .dataAvailable, .livelinessLost, .livelinessChanged,
    .publicationMatched, .subscriptionMatched}

/-- New wait sets and new endpoints. -/
def System.create (kinds : Ptr → EndpointKind) : System where
  waitSets _ := .empty
  endpoints info := .create (kinds info)
  enabled _ := statusMaskAll
  waiting _ := none

/-- What can happen. -/
inductive Step where
  /-- A wait is called, and has attached its conditions. -/
  | attach (w : Ptr) (a : Args)
  /-- A wait starts to block. -/
  | block (w : Ptr)
  /-- A wait returns. -/
  | leave (w : Ptr) (ret : RmwRet)
  | setCallback (info : Ptr) (e : EventType) (userData : UserData) (callback : Option Callback)

/-- The conditions of the four lists that are not events. -/
def Args.readConditions (a : Args) : Finset Condition :=
  attachAll .client a.arrays.clients <| attachAll .service a.arrays.services <|
    attachAll .guard a.arrays.guardConditions <| attachAll .subscription a.arrays.subscriptions ∅

section Steps

variable (event : Ptr → RmwEvent)

/-- The body of the `if` on `need_reattached`. What is attached so far is detached, the caches are
filled anew, and what `gather_event_conditions` answers is ignored. -/
def System.reattach (s : System) (w : Ptr) (a : Args) : System :=
  match a.events with
  | none =>
    { s with
      waitSets := update s.waitSets w
        { waitSet := a.readConditions, cached := a.arrays, cachedStatusConditions := ∅ } }
  | some events =>
    let gathered := gatherEventConditions event s.endpoints s.enabled events
    { s with
      enabled := gathered.2.2
      waitSets := update s.waitSets w
        { waitSet := a.readConditions ∪ gathered.2.1, cached := a.arrays,
          cachedStatusConditions := gathered.2.1 } }

/-- `wait` up to where it blocks. A wait set has one wait at a time. -/
def System.attach (s : System) (w : Ptr) (a : Args) : System :=
  let attached := if (s.waitSets w).needReattached a then s.reattach event w a else s
  { attached with waiting := update attached.waiting w (some a) }

/-- `wait` from where it has blocked. Whatever goes wrong, what is attached is detached and the
caches are cleared. -/
def System.leave (s : System) (w : Ptr) (ret : RmwRet) : System :=
  { s with
    waitSets := if ret = .error then update s.waitSets w .empty else s.waitSets
    waiting := update s.waiting w none }

/-- One step. -/
def System.step (s : System) : Step → System
  | .attach w a => if (s.waiting w).isNone then s.attach event w a else s
  | .block _ => s
  | .leave w ret => if (s.waiting w).isSome then s.leave w ret else s
  | .setCallback info e userData callback =>
    { s with
      endpoints := update s.endpoints info
        ((s.endpoints info).setOnNewEventCallback e userData callback).1 }

/-- The system after a run. -/
def System.after (kinds : Ptr → EndpointKind) (steps : List Step) : System :=
  Exec.run (System.step event) (.create kinds) steps

end Steps

end Wait
