import RmwGurumdds.Wait.WaitSet

/-!
# When a wait set is stale

What is attached when a wait blocks should be what its arguments require at that moment. A wait set
remembers its arguments but not what else it went by: which events had a callback, and which events
of an entity the enabled statuses were set for, by whichever wait set did so last.

`Watch` follows a run and keeps, beside the system, those two things: for each wait set the
attachment that still stands, and for each entity the last attachment that passed an event of it.
`Tracked` ties the system to them, and from it a wait blocks on the right conditions exactly when
neither has changed since (`blocksRight_iff_fresh`).
-/

namespace Wait

open Events Exec Function Rmw

variable (event : Ptr → RmwEvent)

/-! ## What a wait requires -/

/-- An event of `info` is among those passed. -/
def Arrays.Passes (a : Arrays) (info : Ptr) (e : EventType) : Prop :=
  ∃ p ∈ a.events, event p = { data := some info, eventType := some e }

/-- Some event of `info` is among those passed. -/
def Arrays.Names (a : Arrays) (info : Ptr) : Prop := ∃ p ∈ a.events, (event p).data = some info

instance (a : Arrays) (info : Ptr) : Decidable (a.Names event info) :=
  inferInstanceAs (Decidable (∃ p ∈ a.events, (event p).data = some info))

/-- The conditions that arguments require, where `callbacks` says which events have a callback. -/
def Arrays.Requires (a : Arrays) (callbacks : Ptr → EventType → Bool) : Condition → Prop
  | .subscription info => some info ∈ a.subscriptions
  | .guard condition => some condition ∈ a.guardConditions
  | .service info => some info ∈ a.services
  | .client info => some info ∈ a.clients
  | .event info e => a.Passes event info e ∧ callbacks info e = true
  | .status info => a.Names event info

/-- `has_callback` of every endpoint. -/
def System.hasCallback (s : System) (info : Ptr) (e : EventType) : Bool :=
  (s.endpoints info).info.hasCallback e

/-- **A wait is set up as it should be**: the conditions attached are those it requires, and the
enabled statuses of the entities cover the events passed. -/
structure System.Right (s : System) (w : Ptr) (a : Args) : Prop where
  attached : ∀ c, c ∈ (s.waitSets w).waitSet ↔ a.arrays.Requires event s.hasCallback c
  enabled : ∀ info e, a.arrays.Passes event info e → e.statusKind ∈ s.enabled info

/-- An event as `rmw_publisher_event_init` or `rmw_subscription_event_init` makes it for an endpoint
of the kind that reports the event. -/
def RmwEvent.Proper (kinds : Ptr → EndpointKind) (p : RmwEvent) : Prop :=
  ∃ info e, p = { data := some info, eventType := some e } ∧ (kinds info).supports e = true

/-- Every event that is passed is proper. -/
def Step.Proper (kinds : Ptr → EndpointKind) : Step → Prop
  | .attach _ a => ∀ p ∈ a.arrays.events, (event p).Proper kinds
  | _ => True

/-! ## What is gathered -/

section Gather

variable {event} {s : System} {kinds : Ptr → EndpointKind}

theorem names_iff {a : Arrays} (proper : ∀ p ∈ a.events, (event p).Proper kinds) {info : Ptr} :
    a.Names event info ↔ ∃ e, a.Passes event info e := by
  constructor
  · rintro ⟨p, mem, named⟩
    obtain ⟨info', e, same, -⟩ := proper p mem
    rw [same] at named
    obtain rfl := Option.some.inj named
    exact ⟨e, p, mem, same⟩
  · rintro ⟨e, p, mem, same⟩
    exact ⟨p, mem, by rw [same]⟩

/-- What the loop does with a proper event. -/
def Gathered.take (s : System) (g : Gathered) (info : Ptr) (e : EventType) : Gathered :=
  (if s.hasCallback info e then g.insertGuard info e else g).addKind info e

variable {g : Gathered} {info info' : Ptr} {e : EventType}

theorem mem_take_statusConditions {c : Condition} :
    c ∈ (g.take s info e).statusConditions ↔
      c ∈ g.statusConditions ∨ s.hasCallback info e = true ∧ c = .event info e := by
  unfold Gathered.take
  cases has : s.hasCallback info e with
  | true => simp [Gathered.addKind, Gathered.insertGuard, or_comm]
  | false => simp [Gathered.addKind]

theorem mem_take_entities :
    info' ∈ (g.take s info e).entities ↔ info' ∈ g.entities ∨ info' = info := by
  unfold Gathered.take
  split <;> simp [Gathered.addKind, Gathered.insertGuard, or_comm]

theorem mem_take_statusMap {k : StatusKind} :
    k ∈ (g.take s info e).statusMap info' ↔
      k ∈ g.statusMap info' ∨ info' = info ∧ e.statusKind = k := by
  have kept : (if s.hasCallback info e then g.insertGuard info e else g).statusMap =
      g.statusMap := by
    split <;> rfl
  unfold Gathered.take Gathered.addKind
  rw [kept]
  by_cases same : info' = info
  · subst same
    simp [getStatusKindFromRmw, eq_comm, or_comm]
  · simp [same]

theorem gatherEvents_cons {p : Ptr} {ps : List Ptr}
    (here : event p = { data := some info, eventType := some e })
    (supported : (s.endpoints info).kind.supports e = true) :
    gatherEvents event s.endpoints (p :: ps) g =
      gatherEvents event s.endpoints ps (g.take s info e) := by
  rw [gatherEvents, here]
  unfold Gathered.take System.hasCallback
  cases has : (s.endpoints info).info.hasCallback (some e) with
  | true => simp only [has, supported, if_true]
  | false => simp only [has, Bool.false_eq_true, if_false]

/-- Proper events are all gathered. -/
theorem gatherEvents_spec {ps : List Ptr} (kind : ∀ info, (s.endpoints info).kind = kinds info)
    (proper : ∀ p ∈ ps, (event p).Proper kinds) (g : Gathered) :
    ∃ g', gatherEvents event s.endpoints ps g = (.ok, g') ∧
      (∀ c, c ∈ g'.statusConditions ↔ c ∈ g.statusConditions ∨ ∃ p ∈ ps, ∃ info e,
        event p = { data := some info, eventType := some e } ∧ s.hasCallback info e = true ∧
          c = .event info e) ∧
      (∀ info, info ∈ g'.entities ↔
        info ∈ g.entities ∨ ∃ p ∈ ps, (event p).data = some info) ∧
      ∀ info k, k ∈ g'.statusMap info ↔ k ∈ g.statusMap info ∨ ∃ p ∈ ps, ∃ e,
        event p = { data := some info, eventType := some e } ∧ e.statusKind = k := by
  induction ps generalizing g with
  | nil => exact ⟨g, rfl, by simp, by simp, by simp⟩
  | cons p ps ih =>
    obtain ⟨info, e, here, supported⟩ := proper p List.mem_cons_self
    obtain ⟨g', run, conditions, entities, masks⟩ :=
      ih (fun q mem => proper q (.tail _ mem)) (g.take s info e)
    refine ⟨g', (gatherEvents_cons here ((kind info).symm ▸ supported)).trans run, ?_, ?_, ?_⟩
    · intro c
      rw [conditions, mem_take_statusConditions]
      simp [here, or_assoc]
    · intro info'
      rw [entities, mem_take_entities]
      simp [here, or_assoc, eq_comm]
    · intro info' k
      rw [masks, mem_take_statusMap]
      simp [here, or_assoc, eq_comm]

/-- **What is attached for proper events, and the enabled statuses it leaves.** -/
theorem gatherEventConditions_spec {a : Arrays} (enabled : Ptr → StatusMask)
    (kind : ∀ info, (s.endpoints info).kind = kinds info)
    (proper : ∀ p ∈ a.events, (event p).Proper kinds) :
    let gathered := gatherEventConditions event s.endpoints enabled a.events
    (∀ c, c ∈ gathered.2.1 ↔
      (∃ info e, a.Passes event info e ∧ s.hasCallback info e = true ∧ c = .event info e) ∨
        ∃ info, a.Names event info ∧ c = .status info) ∧
    (∀ info, ¬ a.Names event info → gathered.2.2 info = enabled info) ∧
    ∀ info, a.Names event info → ∀ k, k ∈ gathered.2.2 info ↔
      ∃ e, a.Passes event info e ∧ e.statusKind = k := by
  obtain ⟨g, run, conditions, entities, masks⟩ := gatherEvents_spec kind proper .empty
  have named {info : Ptr} : info ∈ g.entities ↔ a.Names event info := by
    simpa [Gathered.empty, Arrays.Names] using entities info
  have mask {info : Ptr} {k : StatusKind} : k ∈ g.statusMap info ↔
      ∃ e, a.Passes event info e ∧ e.statusKind = k := by
    rw [masks]
    constructor
    · rintro (before | ⟨p, mem, e, here, kind⟩)
      · exact absurd before (Finset.notMem_empty k)
      · exact ⟨e, ⟨p, mem, here⟩, kind⟩
    · rintro ⟨e, ⟨p, mem, here⟩, kind⟩
      exact .inr ⟨p, mem, e, here, kind⟩
  have nonempty {info : Ptr} (h : a.Names event info) : (g.statusMap info).Nonempty := by
    obtain ⟨e, passes⟩ := (names_iff proper).mp h
    exact ⟨e.statusKind, mask.mpr ⟨e, passes, rfl⟩⟩
  unfold gatherEventConditions
  rw [run]
  refine ⟨fun c => ?_, fun info unnamed => ?_, fun info h k => ?_⟩
  · simp only [Finset.mem_union, conditions, Finset.mem_image, Finset.mem_filter, named]
    constructor
    · rintro ((before | ⟨p, mem, info, e, here, has, rfl⟩) | ⟨info, ⟨h, -⟩, rfl⟩)
      · exact absurd before (Finset.notMem_empty c)
      · exact .inl ⟨info, e, ⟨p, mem, here⟩, has, rfl⟩
      · exact .inr ⟨info, h, rfl⟩
    · rintro (⟨info, e, ⟨p, mem, here⟩, has, rfl⟩ | ⟨info, h, rfl⟩)
      · exact .inl (.inr ⟨p, mem, info, e, here, has, rfl⟩)
      · exact .inr ⟨info, ⟨h, nonempty h⟩, rfl⟩
  · exact if_neg fun h => unnamed (named.mp h.1)
  · have set : (if info ∈ g.entities ∧ (g.statusMap info).Nonempty then g.statusMap info
        else enabled info) = g.statusMap info := if_pos ⟨named.mpr h, nonempty h⟩
    show k ∈ (if _ then _ else _) ↔ _
    rw [set]
    exact mask

end Gather

/-! ## Following a run -/

/-- An attachment: the arguments it was made for, and which events had a callback. -/
structure Attachment where
  arrays : Arrays
  callbacks : Ptr → EventType → Bool

/-- The arguments of an attachment, if there is one. -/
def arraysOf : Option Attachment → Arrays
  | none => .empty
  | some made => made.arrays

/-- The system, for each wait set the attachment that still stands, and for each entity the last
attachment, of any wait set, that passed an event of it. -/
structure Watch where
  system : System
  standing : Ptr → Option Attachment
  naming : Ptr → Option Attachment

/-- What a wait set remembers of the arguments. -/
def Watch.remembered (g : Watch) (w : Ptr) : Arrays := arraysOf (g.standing w)

/-- The watch on a new system. -/
def Watch.create (kinds : Ptr → EndpointKind) : Watch where
  system := .create kinds
  standing _ := none
  naming _ := none

/-- A wait attaches when its arguments are not those of the attachment that stands, and an
attachment no longer stands when a wait fails. -/
def Watch.observe (g : Watch) : Step → Watch
  | .attach w a =>
    if (g.system.waiting w).isNone ∧ g.remembered w ≠ a.arrays then
      let made : Attachment := { arrays := a.arrays, callbacks := g.system.hasCallback }
      { g with
        standing := update g.standing w (some made)
        naming := fun info => if a.arrays.Names event info then some made else g.naming info }
    else g
  | .leave w ret =>
    if (g.system.waiting w).isSome ∧ ret = .error then
      { g with standing := update g.standing w none }
    else g
  | _ => g

/-- A step of the system. -/
def Watch.step (g : Watch) (step : Step) : Watch :=
  { g.observe event step with system := g.system.step event step }

/-- The watch after a run. -/
def Watch.after (kinds : Ptr → EndpointKind) (steps : List Step) : Watch :=
  run (Watch.step event) (.create kinds) steps

/-- The watch only looks on. -/
theorem after_system (kinds : Ptr → EndpointKind) (steps : List Step) :
    (Watch.after event kinds steps).system = System.after event kinds steps :=
  run_lockstep (R := fun (g : Watch) s => g.system = s) rfl
    (fun _ _ step same => congrArg (System.step event · step) same) steps

/-! ## The invariant -/

/-- What is attached to a wait set, and what its caches and its wait go by. -/
structure Stands (info : WaitSetInfo) (standing : Option Attachment) (waiting : Option Args) :
    Prop where
  cached : info.cached = arraysOf standing
  unattached : standing = none → info.waitSet = ∅
  attached : ∀ made, standing = some made →
    ∀ c, c ∈ info.waitSet ↔ made.arrays.Requires event made.callbacks c
  waiting : ∀ a, waiting = some a → arraysOf standing = a.arrays

/-- **What the system has is what the attachments say.** -/
structure Watch.Tracked (g : Watch) (kinds : Ptr → EndpointKind) : Prop where
  kind : ∀ info, (g.system.endpoints info).kind = kinds info
  waitSet : ∀ w, Stands event (g.system.waitSets w) (g.standing w) (g.system.waiting w)
  named : ∀ w info, (g.remembered w).Names event info → (g.naming info).isSome = true
  enabled : ∀ info made, g.naming info = some made → ∀ k, k ∈ g.system.enabled info ↔
    ∃ e, made.arrays.Passes event info e ∧ e.statusKind = k

section Invariant

variable {event} {kinds : Ptr → EndpointKind} {g : Watch}

theorem stands_empty : Stands event .empty none none where
  cached := rfl
  unattached _ := rfl
  attached _ h := nomatch h
  waiting _ h := nomatch h

theorem not_names_empty {info : Ptr} : ¬ Arrays.empty.Names event info :=
  fun ⟨_, mem, _⟩ => nomatch mem

theorem create_tracked : (Watch.create kinds).Tracked event kinds where
  kind _ := rfl
  waitSet _ := stands_empty
  named _ _ h := absurd h not_names_empty
  enabled _ _ h := nomatch h

/-- Waits under way change nothing else. -/
theorem attach_of_same (tracked : g.Tracked event kinds) {w : Ptr} {a : Args}
    (same : g.remembered w = a.arrays) :
    g.system.attach event w a =
      { g.system with waiting := update g.system.waiting w (some a) } := by
  have kept : ¬ (g.system.waitSets w).needReattached a = true := by
    rw [needReattached_iff, (tracked.waitSet w).cached]
    exact not_not_intro same
  simp only [System.attach, if_neg kept]

theorem attach_of_ne (tracked : g.Tracked event kinds) {w : Ptr} {a : Args}
    (differ : g.remembered w ≠ a.arrays) :
    g.system.attach event w a =
      { g.system.reattach event w a with
        waiting := update (g.system.reattach event w a).waiting w (some a) } := by
  have changed : (g.system.waitSets w).needReattached a = true := by
    rw [needReattached_iff, (tracked.waitSet w).cached]
    exact differ
  simp only [System.attach, if_pos changed]

/-- Without events, nothing is gathered. -/
theorem reattach_eq (s : System) (w : Ptr) (a : Args) :
    s.reattach event w a =
      let gathered := gatherEventConditions event s.endpoints s.enabled a.arrays.events
      { s with
        enabled := gathered.2.2
        waitSets := update s.waitSets w
          { waitSet := a.readConditions ∪ gathered.2.1, cached := a.arrays,
            cachedStatusConditions := gathered.2.1 } } := by
  rcases events : a.events with _ | events
  · simp [System.reattach, events, Args.arrays, gatherEventConditions, gatherEvents,
      Gathered.empty]
  · simp [System.reattach, events, Args.arrays]

/-- **What a new attachment attaches, and what it leaves alone.** -/
theorem reattach_spec {s : System} {w : Ptr} {a : Args}
    (kind : ∀ info, (s.endpoints info).kind = kinds info)
    (proper : ∀ p ∈ a.arrays.events, (event p).Proper kinds) :
    ((s.reattach event w a).waitSets w).cached = a.arrays ∧
    (∀ c, c ∈ ((s.reattach event w a).waitSets w).waitSet ↔
      a.arrays.Requires event s.hasCallback c) ∧
    (∀ v, v ≠ w → (s.reattach event w a).waitSets v = s.waitSets v) ∧
    (∀ info, ¬ a.arrays.Names event info →
      (s.reattach event w a).enabled info = s.enabled info) ∧
    ∀ info, a.arrays.Names event info → ∀ k, k ∈ (s.reattach event w a).enabled info ↔
      ∃ e, a.arrays.Passes event info e ∧ e.statusKind = k := by
  have read (c : Condition) : c ∈ a.readConditions ↔
      (∃ p, some p ∈ a.arrays.subscriptions ∧ .subscription p = c) ∨
      (∃ p, some p ∈ a.arrays.guardConditions ∧ .guard p = c) ∨
      (∃ p, some p ∈ a.arrays.services ∧ .service p = c) ∨
      ∃ p, some p ∈ a.arrays.clients ∧ .client p = c := by
    simp only [Args.readConditions, mem_attachAll, Finset.notMem_empty, false_or, or_assoc]
  obtain ⟨conditions, unnamed, named⟩ := gatherEventConditions_spec s.enabled kind proper
  rw [reattach_eq]
  refine ⟨by simp, fun c => ?_, fun v other => update_of_ne other _ _, unnamed, named⟩
  simp only [update_self, Finset.mem_union, read, conditions]
  cases c with
  | event info e =>
    simp only [Arrays.Requires, reduceCtorEq, and_false, exists_false, false_or, or_false]
    constructor
    · rintro ⟨_, _, passes, has, same⟩
      cases same
      exact ⟨passes, has⟩
    · rintro ⟨passes, has⟩
      exact ⟨info, e, passes, has, rfl⟩
  | _ => simp [Arrays.Requires]

/-- What was attached stands for the arguments it was attached for. -/
theorem stands_reattached {info : WaitSetInfo} {a : Args} {callbacks : Ptr → EventType → Bool}
    (cached : info.cached = a.arrays)
    (attached : ∀ c, c ∈ info.waitSet ↔ a.arrays.Requires event callbacks c) :
    Stands event info (some { arrays := a.arrays, callbacks }) (some a) where
  cached := cached
  unattached h := nomatch h
  attached _ h := by
    obtain rfl := Option.some.inj h
    exact attached
  waiting _ h := by
    obtain rfl := Option.some.inj h
    rfl

/-- A wait on the arguments that are remembered only starts. -/
theorem tracked_attach_of_same (tracked : g.Tracked event kinds) {w : Ptr} {a : Args}
    (free : (g.system.waiting w).isNone = true) (same : g.remembered w = a.arrays) :
    (g.step event (.attach w a)).Tracked event kinds := by
  have observed : g.observe event (.attach w a) = g := if_neg fun h => h.2 same
  have stepped : g.system.step event (.attach w a) = _ :=
    (if_pos free).trans (attach_of_same tracked same)
  unfold Watch.step
  rw [observed, stepped]
  refine ⟨tracked.kind, fun v => ?_, tracked.named, tracked.enabled⟩
  show Stands event (g.system.waitSets v) (g.standing v) (update g.system.waiting w (some a) v)
  by_cases this : v = w
  · subst this
    refine { tracked.waitSet v with waiting := fun b under => ?_ }
    rw [update_self] at under
    obtain rfl := Option.some.inj under
    exact same
  · rw [update_of_ne this]
    exact tracked.waitSet v

/-- A wait on other arguments attaches what they require, and sets the enabled statuses of the
entities they name. -/
theorem tracked_attach_of_ne (tracked : g.Tracked event kinds) {w : Ptr} {a : Args}
    (free : (g.system.waiting w).isNone = true) (differ : g.remembered w ≠ a.arrays)
    (proper : ∀ p ∈ a.arrays.events, (event p).Proper kinds) :
    (g.step event (.attach w a)).Tracked event kinds := by
  have observed : g.observe event (.attach w a) = _ := if_pos ⟨free, differ⟩
  have stepped : g.system.step event (.attach w a) = _ :=
    (if_pos free).trans (attach_of_ne tracked differ)
  obtain ⟨cached, attached, others, unnamed, named⟩ :=
    reattach_spec (s := g.system) (w := w) tracked.kind proper
  have waiting : (g.system.reattach event w a).waiting = g.system.waiting := by
    rw [reattach_eq]
  have endpoints : (g.system.reattach event w a).endpoints = g.system.endpoints := by
    rw [reattach_eq]
  unfold Watch.step
  rw [observed, stepped]
  let made : Attachment := { arrays := a.arrays, callbacks := g.system.hasCallback }
  refine ⟨fun info => ?_, fun v => ?_, fun v info => ?_, fun info made' => ?_⟩
  · show ((g.system.reattach event w a).endpoints info).kind = _
    rw [endpoints]
    exact tracked.kind info
  · show Stands event ((g.system.reattach event w a).waitSets v)
      (update g.standing w (some made) v)
      (update (g.system.reattach event w a).waiting w (some a) v)
    by_cases this : v = w
    · subst this
      rw [update_self, update_self]
      exact stands_reattached cached attached
    · rw [update_of_ne this, update_of_ne this, others v this, waiting]
      exact tracked.waitSet v
  · show (arraysOf (update g.standing w (some made) v)).Names event info →
      (if a.arrays.Names event info then some made else g.naming info).isSome = true
    intro names
    split
    · rfl
    · rename_i absent
      by_cases this : v = w
      · subst this
        rw [update_self] at names
        exact absurd names absent
      · rw [update_of_ne this] at names
        exact tracked.named v info names
  · show (if a.arrays.Names event info then some made else g.naming info) = some made' →
      ∀ k, k ∈ (g.system.reattach event w a).enabled info ↔ _
    split
    · rename_i names
      intro h
      obtain rfl := Option.some.inj h
      exact named info names
    · rename_i names
      rw [unnamed info names]
      exact tracked.enabled info made'

/-- A wait that fails leaves nothing attached and remembers nothing. -/
theorem tracked_leave_of_error (tracked : g.Tracked event kinds) {w : Ptr}
    (under : (g.system.waiting w).isSome = true) :
    (g.step event (.leave w .error)).Tracked event kinds := by
  have observed : g.observe event (.leave w .error) = _ := if_pos ⟨under, rfl⟩
  have stepped : g.system.step event (.leave w .error) = g.system.leave w .error := if_pos under
  unfold Watch.step
  rw [observed, stepped, System.leave, if_pos rfl]
  refine ⟨tracked.kind, fun v => ?_, fun v info => ?_, tracked.enabled⟩
  · show Stands event (update g.system.waitSets w .empty v) (update g.standing w none v)
      (update g.system.waiting w none v)
    by_cases this : v = w
    · subst this
      rw [update_self, update_self, update_self]
      exact stands_empty
    · rw [update_of_ne this, update_of_ne this, update_of_ne this]
      exact tracked.waitSet v
  · show (arraysOf (update g.standing w none v)).Names event info → _
    by_cases this : v = w
    · subst this
      rw [update_self]
      exact fun h => absurd h not_names_empty
    · rw [update_of_ne this]
      exact tracked.named v info

/-- Any other wait leaves what it attached. -/
theorem tracked_leave_of_ne (tracked : g.Tracked event kinds) {w : Ptr} {ret : RmwRet}
    (under : (g.system.waiting w).isSome = true) (fine : ret ≠ .error) :
    (g.step event (.leave w ret)).Tracked event kinds := by
  have observed : g.observe event (.leave w ret) = g := if_neg fun h => fine h.2
  have stepped : g.system.step event (.leave w ret) = g.system.leave w ret := if_pos under
  unfold Watch.step
  rw [observed, stepped, System.leave, if_neg fine]
  refine ⟨tracked.kind, fun v => ?_, tracked.named, tracked.enabled⟩
  show Stands event (g.system.waitSets v) (g.standing v) (update g.system.waiting w none v)
  by_cases this : v = w
  · subst this
    rw [update_self]
    exact { tracked.waitSet v with waiting := fun _ h => nomatch h }
  · rw [update_of_ne this]
    exact tracked.waitSet v

theorem tracked_leave (tracked : g.Tracked event kinds) (w : Ptr) (ret : RmwRet) :
    (g.step event (.leave w ret)).Tracked event kinds := by
  by_cases under : (g.system.waiting w).isSome = true
  · by_cases failed : ret = .error
    · subst failed
      exact tracked_leave_of_error tracked under
    · exact tracked_leave_of_ne tracked under failed
  · have stepped : g.system.step event (.leave w ret) = g.system := if_neg under
    have observed : g.observe event (.leave w ret) = g := if_neg fun h => under h.1
    unfold Watch.step
    rw [observed, stepped]
    exact tracked

/-- Setting a callback leaves all of it behind. -/
theorem tracked_setCallback (tracked : g.Tracked event kinds) (info : Ptr) (e : EventType)
    (userData : UserData) (callback : Option Callback) :
    (g.step event (.setCallback info e userData callback)).Tracked event kinds := by
  refine ⟨fun info' => ?_, tracked.waitSet, tracked.named, tracked.enabled⟩
  show (update g.system.endpoints info _ info').kind = _
  by_cases this : info' = info
  · subst this
    rw [update_self, Endpoint.setOnNewEventCallback_kind]
    exact tracked.kind info'
  · rw [update_of_ne this]
    exact tracked.kind info'

theorem tracked_step (tracked : g.Tracked event kinds) {step : Step}
    (proper : step.Proper event kinds) : (g.step event step).Tracked event kinds := by
  cases step with
  | attach w a =>
    by_cases free : (g.system.waiting w).isNone = true
    · by_cases same : g.remembered w = a.arrays
      · exact tracked_attach_of_same tracked free same
      · exact tracked_attach_of_ne tracked free same proper
    · have stepped : g.system.step event (.attach w a) = g.system := if_neg free
      have observed : g.observe event (.attach w a) = g := if_neg fun h => free h.1
      unfold Watch.step
      rw [observed, stepped]
      exact tracked
  | block w => exact tracked
  | leave w ret => exact tracked_leave tracked w ret
  | setCallback info e userData callback =>
    exact tracked_setCallback tracked info e userData callback

/-- The system is tracked throughout a run. -/
theorem after_tracked {steps : List Step} (proper : ∀ step ∈ steps, step.Proper event kinds) :
    Always (fun before => (Watch.after event kinds before).Tracked event kinds) steps := by
  refine always_of_each (Q := fun _ step => step.Proper event kinds) create_tracked
    (each_const.mpr proper) fun before step tracked proper => ?_
  unfold Watch.after at tracked ⊢
  rw [run_concat]
  exact tracked_step tracked proper

end Invariant

/-! ## When a wait blocks -/

/-- **Nothing has changed since**: each event passed has a callback if it had one at the attachment
of this wait set that stands, and the last attachment of any wait set that passed an event of the
same endpoint passed one of its kind. -/
def Watch.Fresh (g : Watch) (w : Ptr) (a : Args) : Prop :=
  ∀ info e, a.arrays.Passes event info e →
    (∀ made, g.standing w = some made → g.system.hasCallback info e = made.callbacks info e) ∧
      ∀ made, g.naming info = some made →
        ∃ e', made.arrays.Passes event info e' ∧ e'.statusKind = e.statusKind

section Block

variable {event} {kinds : Ptr → EndpointKind} {g : Watch} {w : Ptr} {a : Args}

theorem passes_names {arrays : Arrays} {info : Ptr} {e : EventType}
    (passes : arrays.Passes event info e) : arrays.Names event info := by
  obtain ⟨p, mem, here⟩ := passes
  exact ⟨p, mem, by rw [here]⟩

/-- Two views of the callbacks require the same when they agree on the events passed. -/
theorem requires_congr {arrays : Arrays} {callbacks callbacks' : Ptr → EventType → Bool} :
    (∀ c, arrays.Requires event callbacks c ↔ arrays.Requires event callbacks' c) ↔
      ∀ info e, arrays.Passes event info e → callbacks' info e = callbacks info e := by
  constructor
  · intro same info e passes
    have here := same (.event info e)
    rw [Bool.eq_iff_iff]
    exact ⟨fun h => (here.mpr ⟨passes, h⟩).2, fun h => (here.mp ⟨passes, h⟩).2⟩
  · intro agree c
    cases c with
    | event info e =>
      exact and_congr_right fun passes => by rw [agree info e passes]
    | _ => exact Iff.rfl

/-- What is attached is what a wait requires exactly when its callbacks are still those of the
attachment that stands. -/
theorem attached_iff_callbacks (tracked : g.Tracked event kinds)
    (waiting : g.system.waiting w = some a) :
    (∀ c, c ∈ (g.system.waitSets w).waitSet ↔
        a.arrays.Requires event g.system.hasCallback c) ↔
      ∀ info e, a.arrays.Passes event info e → ∀ made, g.standing w = some made →
        g.system.hasCallback info e = made.callbacks info e := by
  obtain ⟨-, unattached, attached, remembers⟩ := tracked.waitSet w
  have arrays := remembers a waiting
  cases standing : g.standing w with
  | none =>
    have empty : a.arrays = .empty := by
      rw [← arrays, standing]
      rfl
    refine iff_of_true (fun c => ?_) fun _ _ _ _ h => nomatch h
    rw [unattached standing, empty]
    cases c with
    | event info e => exact iff_of_false (Finset.notMem_empty _) fun h =>
        not_names_empty (passes_names h.1)
    | status info => exact iff_of_false (Finset.notMem_empty _) not_names_empty
    | _ => exact iff_of_false (Finset.notMem_empty _) List.not_mem_nil
  | some made =>
    have same : made.arrays = a.arrays := by
      rw [← arrays, standing]
      rfl
    have attached' : (∀ c, c ∈ (g.system.waitSets w).waitSet ↔
        a.arrays.Requires event g.system.hasCallback c) ↔
        ∀ c, a.arrays.Requires event made.callbacks c ↔
          a.arrays.Requires event g.system.hasCallback c := by
      refine forall_congr' fun c => ?_
      rw [attached made standing c, same]
    rw [attached', requires_congr]
    simp only [Option.some.injEq, forall_eq']

/-- The enabled statuses cover what a wait passes exactly when the attachments that set them last
do. -/
theorem enabled_iff_naming (tracked : g.Tracked event kinds)
    (waiting : g.system.waiting w = some a) :
    (∀ info e, a.arrays.Passes event info e → e.statusKind ∈ g.system.enabled info) ↔
      ∀ info e, a.arrays.Passes event info e → ∀ made, g.naming info = some made →
        ∃ e', made.arrays.Passes event info e' ∧ e'.statusKind = e.statusKind := by
  have arrays := (tracked.waitSet w).waiting a waiting
  refine forall₂_congr fun info e => ?_
  constructor
  · intro covered passes made named
    exact (tracked.enabled info made named _).mp (covered passes)
  · intro covered passes
    have names : (g.remembered w).Names event info := by
      rw [Watch.remembered, arrays]
      exact passes_names passes
    obtain ⟨made, named⟩ := Option.isSome_iff_exists.mp (tracked.named w info names)
    exact (tracked.enabled info made named _).mpr (covered passes made named)

/-- The conditions of a wait are right exactly when nothing has changed. -/
theorem right_iff_fresh (tracked : g.Tracked event kinds)
    (waiting : g.system.waiting w = some a) : g.system.Right event w a ↔ g.Fresh event w a := by
  constructor
  · rintro ⟨attached, enabled⟩ info e passes
    have callbacks := (attached_iff_callbacks tracked waiting).mp attached
    have naming := (enabled_iff_naming tracked waiting).mp enabled
    exact ⟨callbacks info e passes, naming info e passes⟩
  · intro fresh
    constructor
    · exact (attached_iff_callbacks tracked waiting).mpr fun info e passes =>
        (fresh info e passes).1
    · exact (enabled_iff_naming tracked waiting).mpr fun info e passes =>
        (fresh info e passes).2

end Block

/-- Every wait of a run starts to block set up as it should be. -/
def BlocksRight (kinds : Ptr → EndpointKind) (steps : List Step) : Prop :=
  Each (fun before step => ∀ w a, step = .block w →
    (System.after event kinds before).waiting w = some a →
      (System.after event kinds before).Right event w a) steps

/-- Every wait of a run is fresh where it starts to block. -/
def BlocksFresh (kinds : Ptr → EndpointKind) (steps : List Step) : Prop :=
  Each (fun before step => ∀ w a, step = .block w →
    (System.after event kinds before).waiting w = some a →
      (Watch.after event kinds before).Fresh event w a) steps

/-- **When wait sets are stale.** In every run of any number of wait sets over any endpoints, each
wait starts to block with the conditions and the enabled statuses that its arguments then require
exactly when each wait is fresh where it starts to block. -/
theorem blocksRight_iff_fresh (kinds : Ptr → EndpointKind) (steps : List Step)
    (proper : ∀ step ∈ steps, step.Proper event kinds) :
    BlocksRight event kinds steps ↔ BlocksFresh event kinds steps := by
  refine forall₃_congr fun before step happens => ?_
  have tracked := after_tracked proper before ((List.prefix_append before [step]).trans happens)
  refine forall₄_congr fun w a blocks waiting => ?_
  rw [← after_system] at waiting ⊢
  exact right_iff_fresh tracked waiting

/-- A wait on the lost liveliness of a publisher. -/
def livelinessWait : Args where
  subscriptions := none
  guardConditions := none
  services := none
  clients := none
  events := some [0]

/-- A wait that times out, a callback for its event, and the same wait again. -/
def callbackBetween : List Step :=
  [.attach 0 livelinessWait, .block 0, .leave 0 .timeout,
    .setCallback 1 .livelinessLost 0 (some 7), .attach 0 livelinessWait, .block 0]

theorem blocksRight_iff_fresh_callbackBetween :
    BlocksRight (fun _ => ⟨some 1, some .livelinessLost⟩) (fun _ => .publisher) callbackBetween ↔
      BlocksFresh (fun _ => ⟨some 1, some .livelinessLost⟩) (fun _ => .publisher)
        callbackBetween := by
  refine blocksRight_iff_fresh _ _ _ fun step mem => ?_
  cases step with
  | attach w a => exact fun _ _ => ⟨1, .livelinessLost, rfl, rfl⟩
  | _ => trivial

/-- The second wait does not have the guard condition of its event. -/
theorem callbackBetween_notRight :
    ¬ BlocksRight (fun _ => ⟨some 1, some .livelinessLost⟩) (fun _ => .publisher)
      callbackBetween := by
  intro blocks
  have right := blocks (callbackBetween.take 5) (.block 0) (List.prefix_refl _) 0 livelinessWait
    rfl rfl
  have required := (right.attached (.event 1 .livelinessLost)).mpr
    ⟨⟨0, List.mem_singleton_self 0, rfl⟩, by decide⟩
  exact absurd required (by decide)

end Wait
