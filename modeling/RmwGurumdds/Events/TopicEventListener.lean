import Mathlib.Logic.Function.Basic
import RmwGurumdds.Events.Status
import RmwGurumdds.Exec.Runs
import RmwGurumdds.Rmw.Types

/-!
# Listeners of topics

DDS reports an inconsistent topic to the listener of the topic, and every endpoint of the topic
wants to hear of it. `TopicEventListener` stands between them: its table has a listener for each
topic, and a listener keeps the list of the info objects to tell. DDS finds the listener through a
pointer that the topic carries.

The pointers always agree with the table, so the listeners come to a registry of lists, one for each
topic in the table (`Registry`, `eventList_step`). But `add_event` returns where it should go on: an
info object gets onto a list only if it is there already. So the lists stay empty, and endpoints
hear of inconsistent topics exactly as long as none wants to (`inconsistent_topic_delivered_iff`).
-/

namespace Events

open Function Rmw Exec

/-! ## The table -/

/-- `TopicEventListener`. -/
structure TopicEventListener (ι : Type) where
  eventList : List ι

/-- `TopicEventListener::table_`, the listeners that are alive, and the listener context DDS keeps
for each topic. Topics are `τ` and info objects `ι`, by their addresses; `new` hands out the
addresses of listeners in order. -/
structure TopicListeners (τ ι : Type) where
  table : τ → Option Nat
  listeners : Nat → Option (TopicEventListener ι)
  listenerContext : τ → Option Nat
  next : Nat

/-- At the start. -/
def TopicListeners.empty (τ ι : Type) : TopicListeners τ ι where
  table _ := none
  listeners _ := none
  listenerContext _ := none
  next := 0

/-- A call of one of the functions that change the table. -/
inductive TopicOp (τ ι : Type) where
  | associate (topic : τ) (allocated : Bool)
  | disassociate (topic : τ)
  | add (topic : τ) (eventInfo : ι)
  | remove (topic : τ) (eventInfo : ι)

section Functions

variable {τ ι : Type} [DecidableEq τ] [DecidableEq ι]

namespace TopicListeners

/-- `new TopicEventListener{}`, at the address `next`. -/
def allocate (s : TopicListeners τ ι) : TopicListeners τ ι :=
  { s with
    listeners := update s.listeners s.next (some { eventList := [] })
    next := s.next + 1 }

/-- A listener is entered into the table and handed to DDS. -/
def enter (topic : τ) (eventListener : Nat) (s : TopicListeners τ ι) : TopicListeners τ ι :=
  { s with
    table := update s.table topic (some eventListener)
    listenerContext := update s.listenerContext topic (some eventListener) }

/-- `associate_listener`. A listener that cannot be entered is lost. -/
def associateListener (topic : τ) (allocated : Bool) (s : TopicListeners τ ι) :
    RmwRet × TopicListeners τ ι :=
  if !allocated then (.error, s)
  else
    let eventListener := s.next
    let s := s.allocate
    if (s.table topic).isSome then (.error, s) else (.ok, s.enter topic eventListener)

/-- `disassociate_Listener`. -/
def disassociateListener (topic : τ) (s : TopicListeners τ ι) : RmwRet × TopicListeners τ ι :=
  match s.table topic with
  | none => (.error, s)
  | some listener =>
    (.ok,
      { s with
        listenerContext := update s.listenerContext topic none
        table := update s.table topic none
        listeners := update s.listeners listener none })

/-- A list of a listener is replaced. -/
def setEventList (listener : Nat) (eventList : List ι) (s : TopicListeners τ ι) :
    TopicListeners τ ι :=
  { s with listeners := update s.listeners listener (some { eventList }) }

/-- `add_event`. It returns when it does not find the info object. -/
def addEvent (topic : τ) (eventInfo : ι) (s : TopicListeners τ ι) : TopicListeners τ ι :=
  match s.table topic with
  | none => s
  | some address =>
    match s.listeners address with
    | none => s
    | some listener =>
      if eventInfo ∉ listener.eventList then s
      else s.setEventList address (listener.eventList ++ [eventInfo])

/-- `remove_event`. -/
def removeEvent (topic : τ) (eventInfo : ι) (s : TopicListeners τ ι) : TopicListeners τ ι :=
  match s.table topic with
  | none => s
  | some address =>
    match s.listeners address with
    | none => s
    | some listener =>
      if eventInfo ∉ listener.eventList then s
      else s.setEventList address (listener.eventList.erase eventInfo)

/-- `on_inconsistent_topic`: the info objects whose `update_inconsistent_topic` it calls, each with
the status it passes. -/
def onInconsistentTopic (topic : τ) (status : CountStatus) (s : TopicListeners τ ι) :
    List (ι × CountStatus) :=
  match s.listenerContext topic with
  | none => []
  | some address =>
    match s.listeners address with
    | none => []
    | some listener => listener.eventList.map fun eventInfo => (eventInfo, status)

/-- One call. -/
def step (s : TopicListeners τ ι) : TopicOp τ ι → TopicListeners τ ι
  | .associate topic allocated => (s.associateListener topic allocated).2
  | .disassociate topic => (s.disassociateListener topic).2
  | .add topic eventInfo => s.addEvent topic eventInfo
  | .remove topic eventInfo => s.removeEvent topic eventInfo

/-- The `event_list_` of a topic in the table. -/
def eventList (s : TopicListeners τ ι) (topic : τ) : Option (List ι) :=
  (s.table topic).bind fun address => (s.listeners address).map (·.eventList)

end TopicListeners

end Functions

/-! ## The registry -/

/-- What the listeners are for: the list of each topic that has one. -/
abbrev Registry (τ ι : Type) := τ → Option (List ι)

section Functions

variable {τ ι : Type} [DecidableEq τ] [DecidableEq ι]

/-- One call, on the lists alone. -/
def Registry.step (r : Registry τ ι) : TopicOp τ ι → Registry τ ι
  | .associate topic allocated =>
    if allocated ∧ r topic = none then update r topic (some []) else r
  | .disassociate topic => update r topic none
  | .add topic eventInfo => update r topic
      ((r topic).map fun list => if eventInfo ∈ list then list ++ [eventInfo] else list)
  | .remove topic eventInfo => update r topic ((r topic).map (·.erase eventInfo))

end Functions

section Pointers

variable {τ ι : Type}

namespace TopicListeners

/-- Pointers lead to listeners that are alive, to a different one for each topic, and topics carry
the pointers of the table. -/
structure Sane (s : TopicListeners τ ι) : Prop where
  context_eq : ∀ topic, s.listenerContext topic = s.table topic
  alive : ∀ topic address, s.table topic = some address → (s.listeners address).isSome = true
  apart : ∀ topic topic' address,
    s.table topic = some address → s.table topic' = some address → topic = topic'
  old : ∀ topic address, s.table topic = some address → address < s.next

variable {s : TopicListeners τ ι} {topic : τ} {address : Nat}

theorem sane_empty : (TopicListeners.empty τ ι).Sane :=
  ⟨fun _ => rfl, nofun, nofun, nofun⟩

theorem eventList_of_table (here : s.table topic = some address) :
    s.eventList topic = (s.listeners address).map (·.eventList) := by
  rw [eventList, here, Option.bind_some]

theorem eventList_of_absent (absent : s.table topic = none) : s.eventList topic = none := by
  rw [eventList, absent, Option.bind_none]

theorem Sane.eventList_isSome (sane : s.Sane) :
    (s.eventList topic).isSome = (s.table topic).isSome := by
  cases here : s.table topic with
  | none => rw [eventList_of_absent here]; rfl
  | some address => rw [eventList_of_table here, Option.isSome_map, sane.alive _ _ here]; rfl

/-- DDS finds the list of the table. -/
theorem Sane.onInconsistentTopic_eq (sane : s.Sane) (status : CountStatus) :
    s.onInconsistentTopic topic status =
      ((s.eventList topic).getD []).map fun eventInfo => (eventInfo, status) := by
  rw [onInconsistentTopic, sane.context_eq]
  cases here : s.table topic with
  | none => rw [eventList_of_absent here]; rfl
  | some address =>
    rw [eventList_of_table here]
    cases found : s.listeners address with
    | none => simp [found]
    | some listener => simp [found]

end TopicListeners

end Pointers

/-! ## Refinement -/

section Refinement

namespace TopicListeners

variable {τ ι : Type} {s : TopicListeners τ ι} {topic : τ} {address : Nat}

/-- A new listener is nobody's. -/
theorem Sane.allocate (sane : s.Sane) : s.allocate.Sane ∧ s.allocate.eventList = s.eventList := by
  have other {topic : τ} {address : Nat} (here : s.table topic = some address) :
      s.allocate.listeners address = s.listeners address :=
    update_of_ne (sane.old topic address here).ne ..
  refine ⟨⟨sane.context_eq, fun topic address here => ?_, sane.apart, fun topic address here =>
    (sane.old topic address here).trans (Nat.lt_succ_self _)⟩, ?_⟩
  · rw [other here]
    exact sane.alive topic address here
  · funext topic
    cases here : s.table topic with
    | none => rw [eventList_of_absent here, eventList_of_absent (s := s.allocate) here]
    | some address =>
      rw [eventList_of_table here, eventList_of_table (s := s.allocate) here, other here]

variable [DecidableEq τ]

/-- The topic that a listener is entered for gets its list. -/
theorem Sane.enter (sane : s.Sane) {listener : TopicEventListener ι}
    (found : s.listeners address = some listener) (free : ∀ other, s.table other ≠ some address)
    (old : address < s.next) :
    (s.enter topic address).Sane ∧
      (s.enter topic address).eventList = update s.eventList topic (some listener.eventList) := by
  have entered : (s.enter topic address).table topic = some address := update_self ..
  have other {other : τ} (ne : other ≠ topic) :
      (s.enter topic address).table other = s.table other := update_of_ne ne ..
  refine ⟨⟨fun one => ?_, fun one address' here => ?_, fun one one' address' here here' => ?_,
    fun one address' here => ?_⟩, ?_⟩
  · by_cases same : one = topic
    · subst same
      exact (update_self ..).trans entered.symm
    · exact (update_of_ne same ..).trans ((sane.context_eq one).trans (other same).symm)
  · by_cases same : one = topic
    · subst same
      obtain rfl := Option.some.inj (entered.symm.trans here)
      exact Option.isSome_of_eq_some found
    · exact sane.alive one address' ((other same).symm.trans here)
  · by_cases same : one = topic
    · by_cases same' : one' = topic
      · exact same.trans same'.symm
      · subst same
        obtain rfl := Option.some.inj (entered.symm.trans here)
        exact absurd ((other same').symm.trans here') (free one')
    · by_cases same' : one' = topic
      · subst same'
        obtain rfl := Option.some.inj (entered.symm.trans here')
        exact absurd ((other same).symm.trans here) (free one)
      · exact sane.apart one one' address' ((other same).symm.trans here)
          ((other same').symm.trans here')
  · by_cases same : one = topic
    · subst same
      obtain rfl := Option.some.inj (entered.symm.trans here)
      exact old
    · exact sane.old one address' ((other same).symm.trans here)
  · funext one
    by_cases same : one = topic
    · subst same
      rw [update_self, eventList_of_table entered]
      show (s.listeners address).map _ = _
      rw [found]
      rfl
    · rw [update_of_ne same, eventList, eventList, other same]
      rfl

/-- A topic without a listener has no list, and the other lists do not depend on its listener. -/
theorem Sane.disassociateListener (sane : s.Sane) (topic : τ) :
    (s.disassociateListener topic).2.Sane ∧
      (s.disassociateListener topic).2.eventList = update s.eventList topic none := by
  unfold TopicListeners.disassociateListener
  split
  · rename_i absent
    refine ⟨sane, ?_⟩
    rw [← eventList_of_absent absent, update_eq_self]
  · rename_i address here
    have gone : update s.table topic none topic = none := update_self ..
    have other {one : τ} (ne : one ≠ topic) : update s.table topic none one = s.table one :=
      update_of_ne ne ..
    have kept {one : τ} {address' : Nat} (ne : one ≠ topic) (there : s.table one = some address') :
        update s.listeners address none address' = s.listeners address' := by
      refine update_of_ne ?_ ..
      rintro rfl
      exact ne (sane.apart _ _ _ there here)
    have ne {one : τ} {address' : Nat} (there : update s.table topic none one = some address') :
        one ≠ topic := by
      rintro rfl
      rw [gone] at there
      cases there
    refine ⟨⟨fun one => ?_, fun one address' there => ?_, fun one one' address' there there' => ?_,
      fun one address' there => ?_⟩, ?_⟩
    · by_cases same : one = topic
      · subst same
        exact (update_self ..).trans gone.symm
      · exact (update_of_ne same ..).trans ((sane.context_eq one).trans (other same).symm)
    · have was := (other (ne there)).symm.trans there
      exact (congrArg Option.isSome (kept (ne there) was)).trans (sane.alive one address' was)
    · exact sane.apart one one' address' ((other (ne there)).symm.trans there)
        ((other (ne there')).symm.trans there')
    · exact sane.old one address' ((other (ne there)).symm.trans there)
    · funext one
      by_cases same : one = topic
      · subst same
        rw [update_self, eventList_of_absent gone]
      · rw [update_of_ne same]
        cases there : s.table one with
        | none => rw [eventList_of_absent there, eventList_of_absent ((other same).trans there)]
        | some address' =>
          rw [eventList_of_table there, eventList_of_table ((other same).trans there)]
          exact congrArg _ (kept same there)

/-- A list that is replaced is replaced for its topic only. -/
theorem Sane.setEventList (sane : s.Sane) (here : s.table topic = some address) (list : List ι) :
    (s.setEventList address list).Sane ∧
      (s.setEventList address list).eventList = update s.eventList topic (some list) := by
  refine ⟨⟨sane.context_eq, fun other address' there => ?_, sane.apart, sane.old⟩, ?_⟩
  · by_cases same : address' = address
    · simp [TopicListeners.setEventList, same]
    · simpa [TopicListeners.setEventList, same] using sane.alive other address' there
  · funext other
    by_cases same : other = topic
    · subst same
      rw [update_self, eventList_of_table (s := s.setEventList address list) here]
      simp [TopicListeners.setEventList]
    · rw [update_of_ne same]
      cases there : s.table other with
      | none =>
        rw [eventList_of_absent there,
          eventList_of_absent (s := s.setEventList address list) there]
      | some address' =>
        have different : address' ≠ address := by
          rintro rfl
          exact same (sane.apart _ _ _ there here)
        rw [eventList_of_table there, eventList_of_table (s := s.setEventList address list) there]
        simp [TopicListeners.setEventList, different]

variable [DecidableEq ι]

theorem Sane.associateListener (sane : s.Sane) (topic : τ) (allocated : Bool) :
    (s.associateListener topic allocated).2.Sane ∧
      (s.associateListener topic allocated).2.eventList =
        Registry.step s.eventList (.associate topic allocated) := by
  cases allocated with
  | false => exact ⟨sane, by simp [TopicListeners.associateListener, Registry.step]⟩
  | true =>
    obtain ⟨sane', lists⟩ := sane.allocate
    have known : (s.eventList topic).isSome = (s.table topic).isSome := sane.eventList_isSome
    cases here : s.table topic with
    | some address =>
      have occupied : (s.associateListener topic true).2 = s.allocate := by
        have there : (s.allocate.table topic).isSome = true := congrArg Option.isSome here
        simp [TopicListeners.associateListener, there]
      rw [here, Option.isSome_some, Option.isSome_iff_ne_none] at known
      rw [occupied, Registry.step, if_neg fun free => known free.2]
      exact ⟨sane', lists⟩
    | none =>
      have entered : (s.associateListener topic true).2 = s.allocate.enter topic s.next := by
        have there : (s.allocate.table topic).isSome = false := congrArg Option.isSome here
        simp [TopicListeners.associateListener, there]
      rw [entered, Registry.step, if_pos ⟨rfl, eventList_of_absent here⟩, ← lists]
      exact sane'.enter (update_self ..)
        (fun other there => absurd (sane.old other s.next there) (Nat.lt_irrefl _))
        (Nat.lt_succ_self _)

/-- What both operations on the list of a topic come to: the list is replaced if the info object is
on it. -/
theorem Sane.replace (sane : s.Sane) (topic : τ) (eventInfo : ι) (change : List ι → List ι)
    {s' : TopicListeners τ ι}
    (eq : s' = match s.table topic with
      | none => s
      | some address =>
        match s.listeners address with
        | none => s
        | some listener =>
          if eventInfo ∉ listener.eventList then s
          else s.setEventList address (change listener.eventList)) :
    s'.Sane ∧ s'.eventList = update s.eventList topic
      ((s.eventList topic).map fun list => if eventInfo ∈ list then change list else list) := by
  cases here : s.table topic with
  | none =>
    have absent := eventList_of_absent here
    rw [here] at eq
    subst eq
    exact ⟨sane, by rw [absent, Option.map_none, ← absent, update_eq_self]⟩
  | some address =>
    obtain ⟨listener, found⟩ := Option.isSome_iff_exists.mp (sane.alive topic address here)
    have its : s.eventList topic = some listener.eventList := by
      rw [eventList_of_table here, found, Option.map_some]
    rw [here] at eq
    simp only [found] at eq
    rw [its, Option.map_some]
    split at eq
    · rename_i missing
      subst eq
      rw [if_neg missing, ← its, update_eq_self]
      exact ⟨sane, rfl⟩
    · rename_i there
      subst eq
      rw [if_pos (not_not.mp there)]
      exact sane.setEventList here _

/-- **The listeners refine the registry**: every call keeps the pointers in order and changes the
lists as the registry does. -/
theorem Sane.step (sane : s.Sane) (op : TopicOp τ ι) :
    (s.step op).Sane ∧ (s.step op).eventList = Registry.step s.eventList op := by
  cases op with
  | associate topic allocated => exact sane.associateListener topic allocated
  | disassociate topic => exact sane.disassociateListener topic
  | add topic eventInfo => exact sane.replace topic eventInfo (· ++ [eventInfo]) rfl
  | remove topic eventInfo =>
    obtain ⟨sane', lists⟩ := sane.replace topic eventInfo (·.erase eventInfo) rfl
    refine ⟨sane', lists.trans ?_⟩
    have same (list : List ι) : (if eventInfo ∈ list then list.erase eventInfo else list) =
        list.erase eventInfo := by
      split
      · rfl
      · exact (List.erase_of_not_mem ‹_›).symm
    simp only [same]
    rfl

end TopicListeners

end Refinement

/-! ## Runs -/

section Runs

variable {τ ι : Type}

/-- The topic is in the table, as far as the calls tell. -/
def Associated (topic : τ) : List (TopicOp τ ι) → Prop :=
  Since (· = .associate topic true) (· = .disassociate topic)

/-- The info object has been added to the topic since the topic's association, and not been removed
since. -/
def Registered (topic : τ) (eventInfo : ι) : List (TopicOp τ ι) → Prop :=
  SinceWhen (fun before op => op = .add topic eventInfo ∧ Associated topic before)
    fun op => op = .remove topic eventInfo ∨ op = .disassociate topic

variable [DecidableEq τ] [DecidableEq ι]

/-- The table after some calls. -/
def TopicListeners.after (ops : List (TopicOp τ ι)) : TopicListeners τ ι :=
  run TopicListeners.step (TopicListeners.empty τ ι) ops

/-- Every list has exactly the registered info objects, each once, and DDS reports an inconsistent
topic to each of them once and to nobody else. -/
structure Delivers (ops : List (TopicOp τ ι)) : Prop where
  lists : ∀ topic, ((TopicListeners.after ops).table topic).isSome = true →
    ∃ list, (TopicListeners.after ops).eventList topic = some list ∧ list.Nodup ∧
      ∀ eventInfo, eventInfo ∈ list ↔ Registered topic eventInfo ops
  calls : ∀ topic status, ((TopicListeners.after ops).onInconsistentTopic topic status).Nodup ∧
    ∀ call, call ∈ (TopicListeners.after ops).onInconsistentTopic topic status ↔
      ∃ eventInfo, Registered topic eventInfo ops ∧ call = (eventInfo, status)

variable {ops : List (TopicOp τ ι)} {topic : τ}

theorem sane_after : (TopicListeners.after ops).Sane :=
  run_invariant TopicListeners.sane_empty (fun _ op sane => (sane.step op).1) ops

theorem eventList_after_concat {op : TopicOp τ ι} :
    (TopicListeners.after (ops ++ [op])).eventList =
      Registry.step (TopicListeners.after ops).eventList op := by
  rw [TopicListeners.after, run_concat]
  exact (sane_after.step op).2

/-- Nothing gets onto a list. -/
theorem eventList_empty {list : List ι}
    (its : (TopicListeners.after ops).eventList topic = some list) : list = [] := by
  induction ops using List.reverseRecOn generalizing topic list with
  | nil => cases its
  | append_singleton ops op ih =>
    rw [eventList_after_concat] at its
    cases op with
    | associate other allocated =>
      rw [Registry.step] at its
      split at its
      · rw [update_apply] at its
        split at its
        · exact (Option.some.inj its).symm
        · exact ih its
      · exact ih its
    | disassociate other =>
      rw [Registry.step, update_apply] at its
      split at its
      · cases its
      · exact ih its
    | add other eventInfo =>
      rw [Registry.step, update_apply] at its
      split at its
      · obtain ⟨was, before, rfl⟩ := Option.map_eq_some_iff.mp its
        rw [ih before, if_neg List.not_mem_nil]
      · exact ih its
    | remove other eventInfo =>
      rw [Registry.step, update_apply] at its
      split at its
      · obtain ⟨was, before, rfl⟩ := Option.map_eq_some_iff.mp its
        rw [ih before, List.erase_nil]
      · exact ih its

/-- Nobody hears of an inconsistent topic. -/
theorem onInconsistentTopic_after (status : CountStatus) :
    (TopicListeners.after ops).onInconsistentTopic topic status = [] := by
  rw [sane_after.onInconsistentTopic_eq]
  cases its : (TopicListeners.after ops).eventList topic with
  | none => rfl
  | some list => rw [eventList_empty its]; rfl

/-- The listeners deliver as long as nobody is registered. -/
theorem delivers_iff :
    Delivers ops ↔ ∀ topic eventInfo, ¬ Registered (τ := τ) (ι := ι) topic eventInfo ops := by
  constructor
  · intro delivers topic eventInfo registered
    have told := (delivers.calls topic { totalCount := 0, totalCountChange := 0 }).2
      (eventInfo, { totalCount := 0, totalCountChange := 0 })
    rw [onInconsistentTopic_after] at told
    exact List.not_mem_nil (told.mpr ⟨eventInfo, registered, rfl⟩)
  · intro none
    refine ⟨fun topic here => ?_, fun topic status => ?_⟩
    · rw [← sane_after.eventList_isSome] at here
      obtain ⟨list, its⟩ := Option.isSome_iff_exists.mp here
      refine ⟨list, its, ?_⟩
      rw [eventList_empty its]
      exact ⟨List.nodup_nil, fun eventInfo => iff_of_false List.not_mem_nil (none topic eventInfo)⟩
    · rw [onInconsistentTopic_after]
      refine ⟨List.nodup_nil, fun call => iff_of_false List.not_mem_nil ?_⟩
      rintro ⟨eventInfo, registered, -⟩
      exact none topic eventInfo registered

/-- **Every list is right and every report reaches whom it should, throughout a run, exactly if the
run adds no info object to a topic that is in the table.** -/
theorem inconsistent_topic_delivered_iff :
    Always (Delivers (τ := τ) (ι := ι)) ops ↔
      Each (fun before op => ∀ topic eventInfo, op = .add topic eventInfo →
        ¬ Associated topic before) ops := by
  have start : Delivers (τ := τ) (ι := ι) [] :=
    delivers_iff.mpr fun topic eventInfo => not_sinceWhen_nil
  refine always_iff_each (I := fun _ => True) trivial start fun before op _ _ delivers => ?_
  refine ⟨fun _ => trivial, delivers_iff.trans ?_⟩
  have nobody := delivers_iff.mp delivers
  constructor
  · rintro still topic eventInfo rfl associated
    exact still topic eventInfo (sinceWhen_concat.mpr (.inl ⟨rfl, associated⟩))
  · intro harmless topic eventInfo registered
    rcases sinceWhen_concat.mp registered with ⟨added, associated⟩ | ⟨was, -⟩
    · exact harmless topic eventInfo added associated
    · exact nobody topic eventInfo was

end Runs

/-- An info object that is added to a topic in the table is on no list, and hears of nothing. -/
theorem added_event_ignored :
    ¬ Always (Delivers (τ := Nat) (ι := Nat)) [.associate 0 true, .add 0 7] := by
  intro always
  refine delivers_iff.mp always.last 0 7 ?_
  exact ⟨[.associate 0 true], _, [], rfl, ⟨rfl, [], _, [], rfl, rfl, nofun⟩, nofun⟩

end Events
