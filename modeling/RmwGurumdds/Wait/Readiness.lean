import RmwGurumdds.Events.StatusChanged
import RmwGurumdds.Exec.Program
import RmwGurumdds.Subscription.SubscriberInfo
import RmwGurumdds.Wait.WaitSet

/-!
# What a wait reports

`wait`, from where it has blocked. The entries of its five arrays that are not ready become null
pointers: each array is gone through, and for each entry the active conditions are searched. Events
are not looked for among the active conditions, but asked. A guard condition that is found is reset
on the way, and an event that is asked may have its guard condition reset.

An entry is judged by itself (`wait_reports`): whether the same pointer stands elsewhere in the
array, what stands in the other arrays and which guard conditions were reset before makes no
difference. A `dds_WaitSet_wait` that timed out leaves nothing; a poll that timed out goes through
the arrays all the same, with no condition active.
-/

namespace Wait

open Events Exec Function Rmw Subscription

/-- `read_condition` of the three kinds of info object. It may be null. -/
structure ReadConditions where
  subscription : Ptr → Option Condition
  service : Ptr → Option Condition
  client : Ptr → Option Condition

/-- The five arrays, the trigger values of the caller's guard conditions, and the endpoints. An
array is `none` where the argument is null. -/
structure World where
  subscriptions : Option (List (Option Ptr))
  guardConditions : Option (List (Option Ptr))
  services : Option (List (Option Ptr))
  clients : Option (List (Option Ptr))
  events : Option (List (Option Ptr))
  triggers : Ptr → Bool
  endpoints : Ptr → Observed

/-- The arrays as they are passed. -/
def World.passing (a : Args) (triggers : Ptr → Bool) (endpoints : Ptr → Observed) : World where
  subscriptions := a.subscriptions
  guardConditions := a.guardConditions
  services := a.services
  clients := a.clients
  events := a.events.map (List.map some)
  triggers
  endpoints

/-- What has ended the blocking. -/
inductive Woken where
  /-- `dds_WaitSet_wait` has returned. -/
  | waitSet (status : DdsReturnCode)
  /-- `wait_w_polling` has returned. -/
  | polling (ret : RmwRet)
deriving DecidableEq, Repr

/-! ## The loops -/

/-- Where the search among the active conditions stops: at the condition, or at the end. -/
def activeIndex (active : List Condition) (condition : Condition) : Nat :=
  active.findIdx fun c => decide (c = condition)

/-- The loop over an array whose entries have read conditions: how it ends, and the array. -/
def markReads (readCondition : Ptr → Option Condition) (active : List Condition) :
    List (Option Ptr) → RmwRet × List (Option Ptr)
  | [] => (.ok, [])
  | none :: rest => (.error, none :: rest)
  | some p :: rest =>
    match readCondition p with
    | none => (.error, some p :: rest)
    | some condition =>
      let marked := markReads readCondition active rest
      if activeIndex active condition < active.length then (marked.1, some p :: marked.2)
      else (marked.1, none :: marked.2)

/-- The loop over the guard conditions. `resets` says for which of them
`dds_GuardCondition_set_trigger_value` succeeds. -/
def markGuards (resets : Ptr → Bool) (active : List Condition) :
    List (Option Ptr) → (Ptr → Bool) → RmwRet × List (Option Ptr) × (Ptr → Bool)
  | [], triggers => (.ok, [], triggers)
  | none :: rest, triggers => (.error, none :: rest, triggers)
  | some p :: rest, triggers =>
    if activeIndex active (.guard p) < active.length then
      if resets p then
        let marked := markGuards resets active rest (update triggers p false)
        (marked.1, some p :: marked.2.1, marked.2.2)
      else (.error, some p :: rest, triggers)
    else
      let marked := markGuards resets active rest triggers
      (marked.1, none :: marked.2.1, marked.2.2)

/-- The loop of `handle_active_event_conditions`. -/
def markEvents (event : Ptr → RmwEvent) :
    List Ptr → (Ptr → Observed) → RmwRet × List (Option Ptr) × (Ptr → Observed)
  | [], endpoints => (.ok, [], endpoints)
  | now :: rest, endpoints =>
    match (event now).data with
    | none => (.error, some now :: rest.map some, endpoints)
    | some info =>
      let o := endpoints info
      let answer := o.endpoint.isStatusChanged o.statusChanges (event now).eventType
      let marked := markEvents event rest (update endpoints info { o with endpoint := answer.2 })
      (marked.1, (if answer.1 then some now else none) :: marked.2.1, marked.2.2)

/-! ## The rest of a wait -/

/-- An early return, or the next loop. -/
def returning (ret : RmwRet) (w : World) : EStateM.Result RmwRet World Unit :=
  if ret = .ok then .ok () w else .error ret w

section Programs

variable (reads : ReadConditions) (resets : Ptr → Bool) (event : Ptr → RmwEvent)
variable (active : List Condition)

/-- The loop over an array of the entities with read conditions. `array` is the one it goes through,
and `store` puts it back. -/
def reportReads (readCondition : Ptr → Option Condition)
    (array : World → Option (List (Option Ptr))) (store : World → List (Option Ptr) → World) :
    EStateM RmwRet World Unit := fun w =>
  match array w with
  | none => .ok () w
  | some entries =>
    let marked := markReads readCondition active entries
    returning marked.1 (store w marked.2)

/-- The subscriptions. -/
def reportSubscriptions : EStateM RmwRet World Unit :=
  reportReads active reads.subscription World.subscriptions fun w entries =>
    { w with subscriptions := some entries }

/-- The guard conditions. -/
def reportGuardConditions : EStateM RmwRet World Unit := fun w =>
  match w.guardConditions with
  | none => .ok () w
  | some entries =>
    let marked := markGuards resets active entries w.triggers
    returning marked.1 { w with guardConditions := some marked.2.1, triggers := marked.2.2 }

/-- The services. -/
def reportServices : EStateM RmwRet World Unit :=
  reportReads active reads.service World.services fun w entries =>
    { w with services := some entries }

/-- The clients. -/
def reportClients : EStateM RmwRet World Unit :=
  reportReads active reads.client World.clients fun w entries =>
    { w with clients := some entries }

/-- `handle_active_event_conditions`, of the events that were passed. -/
def handleActiveEventConditions (events : Option (List Ptr)) : EStateM RmwRet World Unit := fun w =>
  match events with
  | none => .ok () w
  | some entries =>
    let marked := markEvents event entries w.endpoints
    returning marked.1 { w with events := some marked.2.1, endpoints := marked.2.2 }

/-- The five loops. -/
def report (events : Option (List Ptr)) : EStateM RmwRet World Unit := do
  reportSubscriptions reads active
  reportGuardConditions resets active
  reportServices reads active
  reportClients reads active
  handleActiveEventConditions event events

/-- The five calls of `memset`. -/
def World.clear (w : World) : World :=
  { w with
    subscriptions := w.subscriptions.map (List.map fun _ => none)
    guardConditions := w.guardConditions.map (List.map fun _ => none)
    services := w.services.map (List.map fun _ => none)
    clients := w.clients.map (List.map fun _ => none)
    events := w.events.map (List.map fun _ => none) }

/-- `wait`, from where it has blocked. -/
def finishWait (events : Option (List Ptr)) : Woken → EStateM RmwRet World RmwRet
  | .waitSet .ok => do
    report reads resets event active events
    return .ok
  | .waitSet .timeout => do
    modify World.clear
    return .timeout
  | .waitSet _ => throw .error
  | .polling ret => do
    report reads resets event active events
    return ret

end Programs

/-! ## What the loops do -/

section Loops

variable {active : List Condition}

/-- The search stops before the end exactly at what is active. -/
theorem activeIndex_lt {condition : Condition} :
    activeIndex active condition < active.length ↔ condition ∈ active := by
  unfold activeIndex
  rw [List.findIdx_lt_length]
  constructor
  · rintro ⟨c, mem, same⟩
    exact of_decide_eq_true same ▸ mem
  · intro mem
    exact ⟨condition, mem, decide_eq_true rfl⟩

/-- An entry's condition is there and active. -/
def isActive (condition : Ptr → Option Condition) (active : List Condition) (p : Ptr) : Bool :=
  (condition p).any fun c => decide (c ∈ active)

/-- A loop that comes to its end has judged each entry by itself. -/
theorem markReads_ok {readCondition : Ptr → Option Condition} {entries marked : List (Option Ptr)}
    (returned : markReads readCondition active entries = (.ok, marked)) :
    marked = entries.map (Option.filter (isActive readCondition active)) := by
  induction entries generalizing marked with
  | nil => exact (congrArg Prod.snd returned).symm
  | cons entry rest ih =>
    cases entry with
    | none => cases (Prod.mk.inj returned).1
    | some p =>
      unfold markReads at returned
      cases has : readCondition p with
      | none =>
        rw [has] at returned
        cases (Prod.mk.inj returned).1
      | some condition =>
        have judged : Option.filter (isActive readCondition active) (some p) =
            if condition ∈ active then some p else none := by
          unfold isActive
          simp only [Option.filter_some, has, Option.any_some, decide_eq_true_eq]
        rw [has] at returned
        dsimp only at returned
        rw [List.map_cons, judged]
        split at returned
        · rename_i found
          rw [if_pos (activeIndex_lt.mp found)]
          obtain ⟨ended, rfl⟩ := Prod.mk.inj returned
          exact congrArg _ (ih (Prod.ext ended rfl))
        · rename_i missed
          rw [if_neg fun mem => missed (activeIndex_lt.mpr mem)]
          obtain ⟨ended, rfl⟩ := Prod.mk.inj returned
          exact congrArg _ (ih (Prod.ext ended rfl))

theorem mem_cons_other {p q : Ptr} (other : q ≠ p) {entries : List (Option Ptr)} :
    some q ∈ some p :: entries ↔ some q ∈ entries :=
  List.mem_cons.trans (or_iff_right fun same => other (Option.some.inj same))

/-- The loop over the guard conditions judges each entry by itself, and resets exactly the active
ones among them. -/
theorem markGuards_ok {resets : Ptr → Bool} {entries marked : List (Option Ptr)}
    {triggers triggers' : Ptr → Bool}
    (returned : markGuards resets active entries triggers = (.ok, marked, triggers')) :
    marked = entries.map (Option.filter (isActive (some ∘ .guard) active)) ∧
      ∀ p, triggers' p = if some p ∈ entries ∧ .guard p ∈ active then false else triggers p := by
  induction entries generalizing marked triggers with
  | nil =>
    obtain ⟨-, rfl, rfl⟩ := Prod.mk.inj returned |>.imp id Prod.mk.inj
    exact ⟨rfl, fun p => (if_neg fun h => absurd h.1 List.not_mem_nil).symm⟩
  | cons entry rest ih =>
    cases entry with
    | none => cases (Prod.mk.inj returned).1
    | some p =>
      have judged : Option.filter (isActive (some ∘ .guard) active) (some p) =
          if .guard p ∈ active then some p else none := by
        unfold isActive
        simp only [Option.filter_some, Function.comp_apply, Option.any_some, decide_eq_true_eq]
      unfold markGuards at returned
      rw [List.map_cons, judged]
      split at returned
      · rename_i found
        rw [activeIndex_lt] at found
        split at returned
        · obtain ⟨ended, result⟩ := Prod.mk.inj returned
          obtain ⟨rfl, rfl⟩ := Prod.mk.inj result
          obtain ⟨entries, triggers⟩ := ih (Prod.ext ended rfl)
          rw [if_pos found]
          refine ⟨congrArg _ entries, fun q => (triggers q).trans ?_⟩
          by_cases same : q = p
          · subst same
            rw [update_self, ite_self, if_pos ⟨List.mem_cons_self, found⟩]
          · rw [update_of_ne same]
            exact if_congr (and_congr_left' (mem_cons_other same).symm) rfl rfl
        · cases (Prod.mk.inj returned).1
      · rename_i missed
        rw [activeIndex_lt] at missed
        obtain ⟨ended, result⟩ := Prod.mk.inj returned
        obtain ⟨rfl, rfl⟩ := Prod.mk.inj result
        obtain ⟨entries, triggers⟩ := ih (Prod.ext ended rfl)
        rw [if_neg missed]
        refine ⟨congrArg _ entries, fun q => (triggers q).trans ?_⟩
        by_cases same : q = p
        · subst same
          rw [if_neg fun h => missed h.2, if_neg fun h => missed h.2]
        · exact if_congr (and_congr_left' (mem_cons_other same).symm) rfl rfl

/-- `is_status_changed` of an event, of endpoints as they stand. -/
def held (event : Ptr → RmwEvent) (endpoints : Ptr → Observed) (now : Ptr) : Bool :=
  (event now).data.any fun info =>
    ((endpoints info).endpoint.isStatusChanged (endpoints info).statusChanges
      (event now).eventType).1

theorem isStatusChanged_setTrigger (x : Endpoint) (statusChanges : StatusMask) (e' : EventType)
    (value : Bool) (e : Option EventType) :
    ((x.setTrigger e' value).isStatusChanged statusChanges e).1 =
      (x.isStatusChanged statusChanges e).1 := by
  unfold Endpoint.isStatusChanged
  have callback : (x.setTrigger e' value).info.hasCallback e = x.info.hasCallback e := rfl
  dsimp only
  rw [callback]
  split
  · cases e with
    | none => rfl
    | some e =>
      have reports : (x.setTrigger e' value).kind.reports e = x.kind.reports e := rfl
      dsimp only
      rw [reports]
      split <;> rfl
  · rfl

/-- Asking leaves every answer as it is. -/
theorem isStatusChanged_asked (x : Endpoint) (statusChanges : StatusMask)
    (e e' : Option EventType) :
    ((x.isStatusChanged statusChanges e).2.isStatusChanged statusChanges e').1 =
      (x.isStatusChanged statusChanges e').1 := by
  have same : (x.isStatusChanged statusChanges e).2 = x ∨
      ∃ e'', (x.isStatusChanged statusChanges e).2 = x.setTrigger e'' false := by
    unfold Endpoint.isStatusChanged
    dsimp only
    split
    · cases e with
      | none => exact .inl rfl
      | some e =>
        dsimp only
        split
        · split
          · exact .inr ⟨e, rfl⟩
          · exact .inl rfl
        · exact .inl rfl
    · exact .inl rfl
  rcases same with same | ⟨e'', same⟩
  · rw [same]
  · rw [same]
    exact isStatusChanged_setTrigger x statusChanges e'' false e'

theorem held_asked {event : Ptr → RmwEvent} {endpoints : Ptr → Observed} (info : Ptr)
    (e : Option EventType) (now : Ptr) :
    held event (update endpoints info
      { endpoints info with
        endpoint :=
          ((endpoints info).endpoint.isStatusChanged (endpoints info).statusChanges e).2 }) now =
      held event endpoints now := by
  unfold held
  refine congrArg (Option.any · (event now).data) (funext fun info' => ?_)
  by_cases same : info' = info
  · subst same
    rw [update_self]
    exact isStatusChanged_asked _ _ _ _
  · rw [update_of_ne same]

/-- The loop over the events judges each entry by itself, whatever was asked before. -/
theorem markEvents_ok {event : Ptr → RmwEvent} {entries : List Ptr} {marked : List (Option Ptr)}
    {endpoints endpoints' : Ptr → Observed}
    (returned : markEvents event entries endpoints = (.ok, marked, endpoints')) :
    marked = entries.map fun now => if held event endpoints now then some now else none := by
  induction entries generalizing marked endpoints with
  | nil => exact (Prod.mk.inj (Prod.mk.inj returned).2).1.symm
  | cons now rest ih =>
    unfold markEvents at returned
    cases has : (event now).data with
    | none =>
      rw [has] at returned
      cases (Prod.mk.inj returned).1
    | some info =>
      rw [has] at returned
      obtain ⟨ended, result⟩ := Prod.mk.inj returned
      obtain ⟨rfl, rfl⟩ := Prod.mk.inj result
      have answer : held event endpoints now =
          ((endpoints info).endpoint.isStatusChanged (endpoints info).statusChanges
            (event now).eventType).1 := by
        unfold held
        rw [has]
        rfl
      rw [List.map_cons, answer]
      refine congrArg _ ((ih (Prod.ext ended rfl)).trans ?_)
      exact List.map_congr_left fun now' _ => by rw [held_asked]

end Loops

/-! ## What a wait leaves -/

section Reports

variable (reads : ReadConditions) (resets : Ptr → Bool) (event : Ptr → RmwEvent)
variable (active : List Condition)

/-- **What is reported is what is ready.** An entry stays if its condition is active, or if its
event has changed, and is null otherwise; the guard conditions that are passed and active are
reset, and no other. -/
structure Reports (events : Option (List Ptr)) (w w' : World) : Prop where
  subscriptions : w'.subscriptions =
    w.subscriptions.map (List.map (Option.filter (isActive reads.subscription active)))
  guardConditions : w'.guardConditions =
    w.guardConditions.map (List.map (Option.filter (isActive (some ∘ .guard) active)))
  services : w'.services =
    w.services.map (List.map (Option.filter (isActive reads.service active)))
  clients : w'.clients =
    w.clients.map (List.map (Option.filter (isActive reads.client active)))
  events : w'.events =
    events.map (List.map fun now => if held event w.endpoints now then some now else none)
  triggers : ∀ p, w'.triggers p =
    if some p ∈ w.guardConditions.getD [] ∧ .guard p ∈ active then false else w.triggers p

variable {reads resets event active} {w : World}

theorem returning_ok {ret : RmwRet} {w w' : World} (returned : returning ret w = .ok () w') :
    ret = .ok ∧ w' = w := by
  unfold returning at returned
  split at returned
  · rename_i fine
    cases returned
    exact ⟨fine, rfl⟩
  · cases returned

/-- A loop over an array leaves each entry judged by itself. -/
theorem reportReads_ok {readCondition : Ptr → Option Condition}
    {array : World → Option (List (Option Ptr))} {store : World → List (Option Ptr) → World}
    {w' : World} (run : reportReads active readCondition array store w = .ok () w') :
    array w = none ∧ w' = w ∨ ∃ entries, array w = some entries ∧
      w' = store w (entries.map (Option.filter (isActive readCondition active))) := by
  unfold reportReads at run
  cases has : array w with
  | none =>
    rw [has] at run
    cases run
    exact .inl ⟨rfl, rfl⟩
  | some entries =>
    rw [has] at run
    obtain ⟨ended, rfl⟩ := returning_ok run
    exact .inr ⟨entries, rfl, congrArg (store w) (markReads_ok (Prod.ext ended rfl))⟩

theorem reportSubscriptions_ok {w' : World}
    (run : reportSubscriptions reads active w = .ok () w') :
    w' = { w with
      subscriptions :=
        w.subscriptions.map (List.map (Option.filter (isActive reads.subscription active))) } := by
  obtain ⟨subscriptions, _, _, _, _, _, _⟩ := w
  rcases reportReads_ok run with ⟨has, rfl⟩ | ⟨entries, has, rfl⟩
  · obtain rfl : subscriptions = none := has
    rfl
  · obtain rfl : subscriptions = some entries := has
    rfl

theorem reportServices_ok {w' : World} (run : reportServices reads active w = .ok () w') :
    w' = { w with
      services :=
        w.services.map (List.map (Option.filter (isActive reads.service active))) } := by
  obtain ⟨_, _, services, _, _, _, _⟩ := w
  rcases reportReads_ok run with ⟨has, rfl⟩ | ⟨entries, has, rfl⟩
  · obtain rfl : services = none := has
    rfl
  · obtain rfl : services = some entries := has
    rfl

theorem reportClients_ok {w' : World} (run : reportClients reads active w = .ok () w') :
    w' = { w with
      clients :=
        w.clients.map (List.map (Option.filter (isActive reads.client active))) } := by
  obtain ⟨_, _, _, clients, _, _, _⟩ := w
  rcases reportReads_ok run with ⟨has, rfl⟩ | ⟨entries, has, rfl⟩
  · obtain rfl : clients = none := has
    rfl
  · obtain rfl : clients = some entries := has
    rfl

theorem reportGuardConditions_ok {w' : World}
    (run : reportGuardConditions resets active w = .ok () w') :
    w' = { w with
      guardConditions :=
        w.guardConditions.map (List.map (Option.filter (isActive (some ∘ .guard) active)))
      triggers := fun p =>
        if some p ∈ w.guardConditions.getD [] ∧ .guard p ∈ active then false
        else w.triggers p } := by
  obtain ⟨_, guardConditions, _, _, _, triggers, _⟩ := w
  unfold reportGuardConditions at run
  cases guardConditions with
  | none =>
    cases run
    refine congrArg (World.mk _ _ _ _ _ · _) (funext fun p => ?_)
    exact (if_neg fun h => absurd h.1 List.not_mem_nil).symm
  | some entries =>
    obtain ⟨ended, rfl⟩ := returning_ok run
    obtain ⟨marked, reset⟩ := markGuards_ok (Prod.ext ended rfl)
    dsimp only at marked reset ⊢
    rw [marked]
    exact congrArg (World.mk _ _ _ _ _ · _) (funext reset)

theorem handleActiveEventConditions_ok {events : Option (List Ptr)} {w' : World}
    (run : handleActiveEventConditions event events w = .ok () w')
    (same : w.events = events.map (List.map some)) :
    ∃ endpoints, w' = { w with
      events :=
        events.map (List.map fun now => if held event w.endpoints now then some now else none)
      endpoints } := by
  obtain ⟨_, _, _, _, _, _, endpoints⟩ := w
  unfold handleActiveEventConditions at run
  cases events with
  | none =>
    cases run
    exact ⟨endpoints, congrArg (World.mk _ _ _ _ · _ _) same⟩
  | some entries =>
    obtain ⟨ended, rfl⟩ := returning_ok run
    have marked := congrArg some (markEvents_ok (Prod.ext ended rfl))
    exact ⟨_, congrArg (World.mk _ _ _ _ · _ _) marked⟩

/-- The five loops, where they come to their end. -/
theorem report_ok {events : Option (List Ptr)} {w' : World}
    (same : w.events = events.map (List.map some))
    (run : report reads resets event active events w = .ok () w') :
    Reports reads event active events w w' := by
  obtain ⟨_, w₁, first, run⟩ := of_bind_ok run
  obtain ⟨_, w₂, second, run⟩ := of_bind_ok run
  obtain ⟨_, w₃, third, run⟩ := of_bind_ok run
  obtain ⟨_, w₄, fourth, run⟩ := of_bind_ok run
  obtain rfl := reportSubscriptions_ok first
  obtain rfl := reportGuardConditions_ok second
  obtain rfl := reportServices_ok third
  obtain rfl := reportClients_ok fourth
  obtain ⟨endpoints, rfl⟩ := handleActiveEventConditions_ok run same
  exact ⟨rfl, rfl, rfl, rfl, rfl, fun _ => rfl⟩

/-- The arguments can be gone through: there are no null entries, the read conditions and the
endpoints of the events are there, and a guard condition that is active can be reset. -/
structure Args.Sound (a : Args) (reads : ReadConditions) (resets : Ptr → Bool)
    (event : Ptr → RmwEvent) (active : List Condition) : Prop where
  subscriptions : ∀ entry ∈ a.arrays.subscriptions,
    ∃ p c, entry = some p ∧ reads.subscription p = some c
  guardConditions : ∀ entry ∈ a.arrays.guardConditions,
    ∃ p, entry = some p ∧ (.guard p ∈ active → resets p = true)
  services : ∀ entry ∈ a.arrays.services, ∃ p c, entry = some p ∧ reads.service p = some c
  clients : ∀ entry ∈ a.arrays.clients, ∃ p c, entry = some p ∧ reads.client p = some c
  events : ∀ now ∈ a.arrays.events, (event now).data ≠ none

theorem markReads_returns {readCondition : Ptr → Option Condition} {entries : List (Option Ptr)}
    (there : ∀ entry ∈ entries, ∃ p c, entry = some p ∧ readCondition p = some c) :
    (markReads readCondition active entries).1 = .ok := by
  induction entries with
  | nil => rfl
  | cons entry rest ih =>
    obtain ⟨p, c, rfl, has⟩ := there entry List.mem_cons_self
    have rest := ih fun entry mem => there entry (.tail _ mem)
    unfold markReads
    rw [has]
    dsimp only
    split <;> exact rest

theorem markGuards_returns {entries : List (Option Ptr)}
    (there : ∀ entry ∈ entries, ∃ p, entry = some p ∧ (.guard p ∈ active → resets p = true))
    (triggers : Ptr → Bool) : (markGuards resets active entries triggers).1 = .ok := by
  induction entries generalizing triggers with
  | nil => rfl
  | cons entry rest ih =>
    obtain ⟨p, rfl, can⟩ := there entry List.mem_cons_self
    have rest := ih fun entry mem => there entry (.tail _ mem)
    unfold markGuards
    split
    · rename_i found
      rw [if_pos (can (activeIndex_lt.mp found))]
      exact rest _
    · exact rest _

theorem markEvents_returns {entries : List Ptr} (there : ∀ now ∈ entries, (event now).data ≠ none)
    (endpoints : Ptr → Observed) : (markEvents event entries endpoints).1 = .ok := by
  induction entries generalizing endpoints with
  | nil => rfl
  | cons now rest ih =>
    obtain ⟨info, has⟩ := Option.ne_none_iff_exists'.mp (there now List.mem_cons_self)
    unfold markEvents
    rw [has]
    exact ih (fun now mem => there now (.tail _ mem)) _

theorem reportReads_returns {readCondition : Ptr → Option Condition}
    {array : World → Option (List (Option Ptr))} {store : World → List (Option Ptr) → World}
    (there : ∀ entry ∈ (array w).getD [], ∃ p c, entry = some p ∧ readCondition p = some c) :
    ∃ w', reportReads active readCondition array store w = .ok () w' := by
  unfold reportReads
  cases has : array w with
  | none => exact ⟨w, rfl⟩
  | some entries =>
    rw [has] at there
    exact ⟨_, if_pos (markReads_returns there)⟩

theorem reportGuardConditions_returns
    (there : ∀ entry ∈ w.guardConditions.getD [],
      ∃ p, entry = some p ∧ (.guard p ∈ active → resets p = true)) :
    ∃ w', reportGuardConditions resets active w = .ok () w' := by
  unfold reportGuardConditions
  cases has : w.guardConditions with
  | none => exact ⟨w, rfl⟩
  | some entries =>
    rw [has] at there
    exact ⟨_, if_pos (markGuards_returns there w.triggers)⟩

theorem handleActiveEventConditions_returns {events : Option (List Ptr)}
    (there : ∀ now ∈ events.getD [], (event now).data ≠ none) :
    ∃ w', handleActiveEventConditions event events w = .ok () w' := by
  unfold handleActiveEventConditions
  cases events with
  | none => exact ⟨w, rfl⟩
  | some entries => exact ⟨_, if_pos (markEvents_returns there w.endpoints)⟩

/-- **A wait on sound arguments returns** `RMW_RET_OK`. -/
theorem wait_returns {a : Args} (sound : a.Sound reads resets event active)
    (triggers : Ptr → Bool) (endpoints : Ptr → Observed) :
    ∃ w', finishWait reads resets event active a.events (.waitSet .ok)
      (.passing a triggers endpoints) = .ok .ok w' := by
  obtain ⟨w₁, first⟩ : ∃ w', reportSubscriptions reads active
      (.passing a triggers endpoints) = .ok () w' := reportReads_returns sound.subscriptions
  have left₁ := reportSubscriptions_ok first
  obtain ⟨w₂, second⟩ : ∃ w', reportGuardConditions resets active w₁ = .ok () w' :=
    reportGuardConditions_returns (left₁ ▸ sound.guardConditions)
  have left₂ := (reportGuardConditions_ok second).trans (by rw [left₁])
  obtain ⟨w₃, third⟩ : ∃ w', reportServices reads active w₂ = .ok () w' :=
    reportReads_returns (left₂ ▸ sound.services)
  have left₃ := (reportServices_ok third).trans (by rw [left₂])
  obtain ⟨w₄, fourth⟩ : ∃ w', reportClients reads active w₃ = .ok () w' :=
    reportReads_returns (left₃ ▸ sound.clients)
  obtain ⟨w₅, fifth⟩ : ∃ w', handleActiveEventConditions event a.events w₄ = .ok () w' :=
    handleActiveEventConditions_returns sound.events
  have run : report reads resets event active a.events (.passing a triggers endpoints) =
      .ok () w₅ :=
    (bind_ok first).trans ((bind_ok second).trans ((bind_ok third).trans
      ((bind_ok fourth).trans fifth)))
  exact ⟨w₅, bind_ok run⟩

/-- Every entry of every array. -/
def World.entries (w : World) : List (Option Ptr) :=
  w.subscriptions.getD [] ++ w.guardConditions.getD [] ++ w.services.getD [] ++
    w.clients.getD [] ++ w.events.getD []

theorem clear_entries : ∀ entry ∈ w.clear.entries, entry = none := by
  have nulls (array : Option (List (Option Ptr))) (entry : Option Ptr)
      (mem : entry ∈ (array.map (List.map fun _ => none)).getD []) : entry = none := by
    cases array with
    | none => exact absurd mem List.not_mem_nil
    | some entries =>
      obtain ⟨_, _, rfl⟩ := List.mem_map.mp mem
      rfl
  intro entry mem
  unfold World.entries at mem
  simp only [List.mem_append] at mem
  rcases mem with (((mem | mem) | mem) | mem) | mem <;> exact nulls _ entry mem

/-- **What a wait reports.** Whatever is passed and whatever is active: a wait that returns
`RMW_RET_OK` reports what is ready, and after a `dds_WaitSet_wait` that timed out it answers
`RMW_RET_TIMEOUT` and leaves null pointers only. -/
theorem wait_reports (a : Args) (triggers : Ptr → Bool) (endpoints : Ptr → Observed)
    (woken : Woken) {ret : RmwRet} {w' : World}
    (returned : finishWait reads resets event active a.events woken
      (.passing a triggers endpoints) = .ok ret w') :
    (ret = .ok → Reports reads event active a.events (.passing a triggers endpoints) w') ∧
      (woken = .waitSet .timeout → ret = .timeout ∧ ∀ entry ∈ w'.entries, entry = none) := by
  cases woken with
  | polling answer =>
    obtain ⟨_, w, run, last⟩ := of_bind_ok returned
    cases last
    exact ⟨fun _ => report_ok rfl run, fun same => by cases same⟩
  | waitSet status =>
    cases status with
    | ok =>
      obtain ⟨_, w, run, last⟩ := of_bind_ok returned
      cases last
      exact ⟨fun _ => report_ok rfl run, fun same => by cases same⟩
    | timeout =>
      cases returned
      exact ⟨fun fine => RmwRet.noConfusion fine, fun _ => ⟨rfl, clear_entries⟩⟩
    | _ => cases returned

/-- One subscription twice, another once, two guard conditions and an event twice. -/
def mixedWait : Args where
  subscriptions := some [some 1, some 2, some 1]
  guardConditions := some [some 3, some 4]
  services := none
  clients := some []
  events := some [5, 5]

/-- The arrays of the mixed wait, with publishers that nothing has happened to. -/
def mixedWorld : World := .passing mixedWait (fun _ => true) fun _ => .create .publisher

/-- One of the subscriptions and one of the guard conditions are active, and the event has not
changed. -/
theorem wait_reports_mixed :
    Reports ⟨some ∘ .subscription, some ∘ .service, some ∘ .client⟩
      (fun _ => ⟨some 6, some .livelinessLost⟩) [.guard 4, .subscription 1] mixedWait.events
      mixedWorld
      { subscriptions := some [some 1, none, some 1]
        guardConditions := some [none, some 4]
        services := none
        clients := some []
        events := some [none, none]
        triggers := update (fun _ => true) 4 false
        endpoints := update (update (fun _ => .create .publisher) 6 (.create .publisher)) 6
          (.create .publisher) } := by
  have returned : finishWait ⟨some ∘ .subscription, some ∘ .service, some ∘ .client⟩
      (fun _ => true) (fun _ => ⟨some 6, some .livelinessLost⟩) [.guard 4, .subscription 1]
      mixedWait.events (.waitSet .ok) mixedWorld = .ok .ok _ := rfl
  exact (wait_reports mixedWait _ _ _ returned).1 rfl

/-- A poll that timed out goes through the arrays all the same. -/
theorem poll_reports (a : Args) (triggers : Ptr → Bool) (endpoints : Ptr → Observed)
    {ret ret' : RmwRet} {w' : World}
    (returned : finishWait reads resets event active a.events (.polling ret)
      (.passing a triggers endpoints) = .ok ret' w') :
    ret' = ret ∧ Reports reads event active a.events (.passing a triggers endpoints) w' := by
  obtain ⟨_, w, run, last⟩ := of_bind_ok returned
  cases last
  exact ⟨rfl, report_ok rfl run⟩

end Reports

end Wait
