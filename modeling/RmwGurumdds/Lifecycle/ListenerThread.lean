import RmwGurumdds.Exec.Runs
import RmwGurumdds.Lifecycle.ContextImpl

/-!
# The listener thread

What `run_listener_thread` and `stop_listener_thread` do is given here again with the `std::thread`
of the context beside the rest of it. A thread object that has a thread must be joined before
another thread is moved to it, or the process terminates; a thread can return on its own, and is
then still to be joined. What the functions do to the rest of the context and how they end is as
before (`runListenerThread_impl`, `stopListenerThread_impl`).

The flag is cleared before the thread is stopped. If stopping it fails, the flag says that there is
nothing to stop, and so does every later call. `stop_listener_thread` has stopped the thread, when
it says so, exactly if no thread was lost in this way before (`stopped_iff`).
-/

namespace Lifecycle.Threaded

open Rmw Exec

/-! ## The functions -/

/-- A `std::thread`: without a thread, or with one that runs or has returned. -/
inductive StdThread where
  | none
  | running
  | returned
deriving DecidableEq, Repr

/-- A context with its `listener_thread`. -/
structure Listening where
  impl : ContextImpl
  listenerThread : StdThread

/-- How a function ends that does not return `RMW_RET_OK`. -/
inductive End where
  | ret (ret : RmwRet)
  | terminate
deriving DecidableEq, Repr

/-- Code that works on a context and its thread. -/
abbrev Code := EStateM End Listening

/-- Code that leaves the thread alone. -/
def onImpl {α : Type} (m : Impl α) : Code α := fun s =>
  match m s.impl with
  | .ok a impl => .ok a { s with impl }
  | .error ret impl => .error (.ret ret) { s with impl }

/-- A new thread is moved to `listener_thread`. -/
def moveThread : Code Unit := do
  match (← get).listenerThread with
  | .none => modify fun s => { s with listenerThread := .running }
  | _ => throw .terminate

/-- `listener_thread.join()`, in its `try` block. It fails if there is no thread. -/
def joinThread (succeeds : Bool) : Code Unit := do
  match (← get).listenerThread with
  | .none => onImpl (fail .error "Failed to join std::thread")
  | _ => do
    onImpl (check succeeds .error "Failed to join std::thread")
    modify fun s => { s with listenerThread := .none }

/-- `run_listener_thread`. -/
def runListenerThread (o : Outcomes) : Code Unit := do
  onImpl <| make (o.setup .createListenerGuardCondition) .error
    "Failed to create listener thread guard condition"
    fun handle ctx => { ctx with listenerThreadGc := handle }
  onImpl <| modify fun ctx => { ctx with threadIsRunning := true }
  if o.setup .startListenerThread then moveThread
  else onImpl do
    setErrorMsg "Failed to create std::thread"
    modify fun ctx => { ctx with threadIsRunning := false }
    throw .error

/-- `stop_listener_thread`. -/
def stopListenerThread (o : Outcomes) : Code Unit := do
  let wasRunning := (← get).impl.threadIsRunning
  onImpl <| modify fun ctx => { ctx with threadIsRunning := false }
  if wasRunning = true then do
    onImpl (check (o.teardown .triggerListenerGuardCondition) .error none)
    joinThread (o.teardown .joinListenerThread)
    onImpl (check (o.teardown .destroyListenerGuardCondition) .error none)
  else pure ()

/-! ## What the functions do -/

section Functions

variable {o : Outcomes} {s s' : Listening}

/-- Without a thread to be joined, a thread is run as it was said before. -/
theorem runListenerThread_impl (free : s.listenerThread = .none) :
    runListenerThread o s = match Lifecycle.runListenerThread o s.impl with
      | .ok _ impl => .ok () { impl, listenerThread := .running }
      | .error ret impl => .error (.ret ret) { impl, listenerThread := .none } := by
  obtain ⟨impl, thread⟩ := s
  subst free
  unfold runListenerThread Lifecycle.runListenerThread
  cases made : o.setup .createListenerGuardCondition with
  | false => rfl
  | true =>
    cases started : o.setup .startListenerThread with
    | false => rfl
    | true => rfl

/-- And one that is there is stopped so. -/
theorem stopListenerThread_impl (joinable : s.listenerThread ≠ .none) :
    ∃ thread, stopListenerThread o s = match Lifecycle.stopListenerThread o s.impl with
      | .ok _ impl => .ok () { impl, listenerThread := thread }
      | .error ret impl => .error (.ret ret) { impl, listenerThread := thread } := by
  obtain ⟨impl, thread⟩ := s
  obtain ⟨enclave, isShutdown, nodeCount, participant, publisher, subscriber, pub, sub,
    graphGuardCondition, listenerThreadGc, threadIsRunning, participants, supply, errorMsg⟩ := impl
  unfold stopListenerThread Lifecycle.stopListenerThread
  cases threadIsRunning with
  | false => exact ⟨thread, rfl⟩
  | true =>
    cases triggered : o.teardown .triggerListenerGuardCondition with
    | false => exact ⟨thread, rfl⟩
    | true =>
      cases thread with
      | none => exact absurd rfl joinable
      | running | returned =>
        cases joined : o.teardown .joinListenerThread with
        | false => exact ⟨_, rfl⟩
        | true =>
          cases destroyed : o.teardown .destroyListenerGuardCondition with
          | false => exact ⟨.none, rfl⟩
          | true => exact ⟨.none, rfl⟩

/-- A thread is moved to where none is, the flag set; or the thread stays, and the flag is cleared
where a new one could not be made. -/
theorem runListenerThread_cases : match runListenerThread o s with
    | .ok _ s' => s.listenerThread = .none ∧ s'.listenerThread = .running ∧
      s'.impl.threadIsRunning = true
    | .error (.ret _) s' => s'.listenerThread = s.listenerThread ∧
      (o.setup .createListenerGuardCondition = false ∧
          s'.impl.threadIsRunning = s.impl.threadIsRunning ∨
        o.setup .createListenerGuardCondition = true ∧ o.setup .startListenerThread = false ∧
          s'.impl.threadIsRunning = false)
    | .error .terminate _ => True := by
  obtain ⟨impl, thread⟩ := s
  unfold runListenerThread
  cases made : o.setup .createListenerGuardCondition with
  | false => exact ⟨rfl, .inl ⟨rfl, rfl⟩⟩
  | true =>
    cases started : o.setup .startListenerThread with
    | false => exact ⟨rfl, .inr ⟨rfl, rfl, rfl⟩⟩
    | true =>
      cases thread with
      | none => exact ⟨rfl, rfl, rfl⟩
      | running | returned => trivial

/-- The flag is cleared. The thread is joined, or it stays: where the flag was not set, or where
triggering or joining failed. -/
theorem stopListenerThread_cases : match stopListenerThread o s with
    | .ok _ s' => s'.impl.threadIsRunning = false ∧
      (s.impl.threadIsRunning = true ∧ o.teardown .triggerListenerGuardCondition = true ∧
          o.teardown .joinListenerThread = true ∧ s'.listenerThread = .none ∨
        s.impl.threadIsRunning = false ∧ s'.listenerThread = s.listenerThread)
    | .error (.ret _) s' => s'.impl.threadIsRunning = false ∧ s.impl.threadIsRunning = true ∧
      (o.teardown .triggerListenerGuardCondition = true ∧
          o.teardown .joinListenerThread = true ∧ s'.listenerThread = .none ∨
        (o.teardown .triggerListenerGuardCondition = false ∨
          o.teardown .joinListenerThread = false) ∧ s'.listenerThread = s.listenerThread)
    | .error .terminate _ => False := by
  obtain ⟨impl, thread⟩ := s
  obtain ⟨enclave, isShutdown, nodeCount, participant, publisher, subscriber, pub, sub,
    graphGuardCondition, listenerThreadGc, threadIsRunning, participants, supply, errorMsg⟩ := impl
  unfold stopListenerThread
  cases threadIsRunning with
  | false => exact ⟨rfl, .inr ⟨rfl, rfl⟩⟩
  | true =>
    cases triggered : o.teardown .triggerListenerGuardCondition with
    | false => exact ⟨rfl, rfl, .inr ⟨.inl rfl, rfl⟩⟩
    | true =>
      cases joined : o.teardown .joinListenerThread with
      | false =>
        cases thread with
        | none => exact ⟨rfl, rfl, .inr ⟨.inr rfl, rfl⟩⟩
        | running | returned => exact ⟨rfl, rfl, .inr ⟨.inr rfl, rfl⟩⟩
      | true =>
        cases destroyed : o.teardown .destroyListenerGuardCondition with
        | false =>
          cases thread with
          | none => exact ⟨rfl, rfl, .inl ⟨rfl, rfl, rfl⟩⟩
          | running | returned => exact ⟨rfl, rfl, .inl ⟨rfl, rfl, rfl⟩⟩
        | true =>
          cases thread with
          | none => exact ⟨rfl, rfl, .inl ⟨rfl, rfl, rfl⟩⟩
          | running | returned => exact ⟨rfl, .inl ⟨rfl, rfl, rfl, rfl⟩⟩

end Functions

/-! ## Runs -/

/-- What happens to the thread of a context: it is run, it returns, and it is stopped. -/
inductive Event where
  | run (o : Outcomes)
  | returns
  | stop (o : Outcomes)

/-- The context after a call, unless the process terminated. -/
def endOf {α : Type} : EStateM.Result End Listening α → Option Listening
  | .ok _ s => some s
  | .error (.ret _) s => some s
  | .error .terminate _ => none

/-- The thread function returns. -/
def Listening.threadReturns (s : Listening) : Listening :=
  match s.listenerThread with
  | .running => { s with listenerThread := .returned }
  | _ => s

/-- The context after an event. -/
def Listening.after (s : Listening) : Event → Option Listening
  | .run o => endOf (runListenerThread o s)
  | .returns => some s.threadReturns
  | .stop o => endOf (stopListenerThread o s)

/-- A process, from a context whose thread was never run. -/
def process (impl : ContextImpl) (events : List Event) : Option Listening :=
  Exec.run (fun s e => s.bind (·.after e)) (some { impl, listenerThread := .none }) events

/-- An event by which the context loses its thread: stopping it fails at the guard condition or the
join, or another one is to be run beside it and cannot be made. -/
def Loses (s : Listening) : Event → Prop
  | .run o => s.listenerThread ≠ .none ∧ o.setup .createListenerGuardCondition = true ∧
    o.setup .startListenerThread = false
  | .returns => False
  | .stop o => s.impl.threadIsRunning = true ∧
    (o.teardown .triggerListenerGuardCondition = false ∨ o.teardown .joinListenerThread = false)

/-- The flag tells whether there is a thread. -/
def Tracked (s : Listening) : Prop :=
  s.impl.threadIsRunning = true ↔ s.listenerThread ≠ .none

/-- There is a thread, and the flag does not tell. -/
def Lost (s : Listening) : Prop := s.impl.threadIsRunning = false ∧ s.listenerThread ≠ .none

section Steps

variable {s s' : Listening} {e : Event}

theorem threadReturns_none : s.threadReturns.listenerThread = .none ↔ s.listenerThread = .none := by
  unfold Listening.threadReturns
  cases thread : s.listenerThread with
  | running => simp
  | none | returned => simp [thread]

theorem threadReturns_impl : s.threadReturns.impl = s.impl := by
  unfold Listening.threadReturns
  split
  · rfl
  · rfl

/-- What an attempt to run a thread comes to. -/
theorem after_run {o : Outcomes} (next : s.after (.run o) = some s') :
    s.listenerThread = .none ∧ s'.listenerThread = .running ∧ s'.impl.threadIsRunning = true ∨
      s'.listenerThread = s.listenerThread ∧
        (o.setup .createListenerGuardCondition = false ∧
            s'.impl.threadIsRunning = s.impl.threadIsRunning ∨
          o.setup .createListenerGuardCondition = true ∧
            o.setup .startListenerThread = false ∧ s'.impl.threadIsRunning = false) := by
  have did := @runListenerThread_cases o s
  change endOf (runListenerThread o s) = some s' at next
  cases ended : runListenerThread o s with
  | ok a t =>
    rw [ended] at did next
    cases next
    exact .inl did
  | error way t =>
    rw [ended] at did next
    cases way with
    | terminate => cases next
    | ret ret =>
      cases next
      exact .inr did

/-- What an attempt to stop it comes to. -/
theorem after_stop {o : Outcomes} (next : s.after (.stop o) = some s') :
    s'.impl.threadIsRunning = false ∧
      (s.impl.threadIsRunning = false → s'.listenerThread = s.listenerThread) ∧
      (s.impl.threadIsRunning = true →
        o.teardown .triggerListenerGuardCondition = true ∧
            o.teardown .joinListenerThread = true ∧ s'.listenerThread = .none ∨
          (o.teardown .triggerListenerGuardCondition = false ∨
            o.teardown .joinListenerThread = false) ∧ s'.listenerThread = s.listenerThread) := by
  have did := @stopListenerThread_cases o s
  change endOf (stopListenerThread o s) = some s' at next
  cases ended : stopListenerThread o s with
  | ok a t =>
    rw [ended] at did next
    cases next
    obtain ⟨flag, ⟨set, stopped⟩ | ⟨unset, same⟩⟩ := did
    · exact ⟨flag, fun unset => by simp [set] at unset, fun _ => .inl stopped⟩
    · exact ⟨flag, fun _ => same, fun set => by simp [unset] at set⟩
  | error way t =>
    rw [ended] at did next
    cases way with
    | terminate => exact did.elim
    | ret ret =>
      cases next
      obtain ⟨flag, set, ways⟩ := did
      exact ⟨flag, fun unset => by simp [set] at unset, fun _ => ways⟩

/-- While the flag tells whether there is a thread, it goes on to, unless the thread is lost. -/
theorem Tracked.after (tracked : Tracked s) (next : s.after e = some s') :
    (¬ Loses s e → Tracked s') ∧ (Loses s e → Lost s') := by
  unfold Tracked at tracked
  cases e with
  | returns =>
    cases next
    refine ⟨fun _ => ?_, False.elim⟩
    rw [Tracked, threadReturns_impl, ne_eq, threadReturns_none]
    exact tracked
  | run o =>
    rcases after_run next with ⟨free, running, flag⟩ | ⟨same, ways⟩
    · exact ⟨fun _ => by simp [Tracked, flag, running], fun loses => absurd free loses.1⟩
    · rcases ways with ⟨unmade, flag⟩ | ⟨made, unstarted, flag⟩
      · refine ⟨fun _ => by rwa [Tracked, flag, same], fun loses => ?_⟩
        exact absurd loses.2.1 (by simp [unmade])
      · rw [Tracked, Lost, flag, same]
        refine ⟨fun kept => ?_, fun loses => ⟨rfl, loses.1⟩⟩
        exact iff_of_false Bool.false_ne_true fun there => kept ⟨there, made, unstarted⟩
  | stop o =>
    obtain ⟨flag, idle, running⟩ := after_stop next
    cases set : s.impl.threadIsRunning with
    | false =>
      rw [set] at tracked
      refine ⟨fun _ => by rwa [Tracked, flag, idle set], fun loses => ?_⟩
      exact absurd (loses.1.symm.trans set) (by simp)
    | true =>
      rcases running set with ⟨triggered, joined, stopped⟩ | ⟨failed, same⟩
      · refine ⟨fun _ => by simp [Tracked, flag, stopped], fun loses => ?_⟩
        exact absurd loses.2 (by simp [triggered, joined])
      · refine ⟨fun kept => absurd ⟨set, failed⟩ kept, fun _ => ⟨flag, ?_⟩⟩
        rw [same]
        exact tracked.mp set

/-- A thread that was lost is not found again. -/
theorem Lost.after (lost : Lost s) (next : s.after e = some s') : Lost s' := by
  obtain ⟨unset, there⟩ := lost
  cases e with
  | returns =>
    cases next
    refine ⟨by rw [threadReturns_impl, unset], ?_⟩
    rwa [ne_eq, threadReturns_none]
  | run o =>
    rcases after_run next with ⟨free, -⟩ | ⟨same, ⟨-, flag⟩ | ⟨-, -, flag⟩⟩
    · exact absurd free there
    · exact ⟨flag.trans unset, same ▸ there⟩
    · exact ⟨flag, same ▸ there⟩
  | stop o =>
    obtain ⟨flag, idle, -⟩ := after_stop next
    exact ⟨flag, idle unset ▸ there⟩

end Steps

/-- No event of a run loses the thread. -/
def NeverLoses (impl : ContextImpl) (events : List Event) : Prop :=
  Each (fun p e => ∀ s, process impl p = some s → ¬ Loses s e) events

/-- **The flag tells whether there is a thread exactly while none was lost.** -/
theorem tracked_or_lost {impl : ContextImpl} (idle : impl.threadIsRunning = false)
    (events : List Event) : ∀ s, process impl events = some s →
      (NeverLoses impl events → Tracked s) ∧ (¬ NeverLoses impl events → Lost s) := by
  induction events using List.reverseRecOn with
  | nil =>
    rintro s ⟨⟩
    refine ⟨fun _ => ?_, fun some_lost => absurd each_nil some_lost⟩
    simp [Tracked, idle]
  | append_singleton events e ih =>
    intro s' reached
    rw [process, run_concat] at reached
    obtain ⟨s, before, next⟩ := Option.bind_eq_some_iff.mp reached
    have never : NeverLoses impl (events ++ [e]) ↔ NeverLoses impl events ∧ ¬ Loses s e := by
      rw [NeverLoses, each_concat]
      refine and_congr_right fun _ => ⟨fun h => h s before, fun h t same => ?_⟩
      cases before.symm.trans same
      exact h
    obtain ⟨tracked, lost⟩ := ih s before
    rw [never]
    constructor
    · rintro ⟨earlier, now⟩
      exact ((tracked earlier).after next).1 now
    · intro some_lost
      by_cases earlier : NeverLoses impl events
      · by_cases now : Loses s e
        · exact ((tracked earlier).after next).2 now
        · exact absurd ⟨earlier, now⟩ some_lost
      · exact (lost earlier).after next

/-- **A thread that is said to be stopped is, exactly if no thread was lost before.** -/
theorem stopped_iff (impl : ContextImpl) (idle : impl.threadIsRunning = false)
    (events : List Event) (s : Listening) (reached : process impl events = some s) (o : Outcomes)
    (s' : Listening) (ok : stopListenerThread o s = .ok () s') :
    s'.listenerThread = .none ↔ NeverLoses impl events := by
  have did := @stopListenerThread_cases o s
  rw [ok] at did
  obtain ⟨tracked, lost⟩ := tracked_or_lost idle events s reached
  constructor
  · intro stopped
    by_contra some_lost
    obtain ⟨unset, there⟩ := lost some_lost
    obtain ⟨-, ⟨set, -⟩ | ⟨-, same⟩⟩ := did
    · exact absurd (set.symm.trans unset) (by simp)
    · exact there (same.symm.trans stopped)
  · intro never
    obtain ⟨-, ⟨-, -, -, stopped⟩ | ⟨unset, same⟩⟩ := did
    · exact stopped
    · rw [same]
      by_contra there
      exact absurd (((tracked never).mpr there).symm.trans unset) (by simp)

/-- A context that was just made. -/
def freshContext : ContextImpl where
  enclave := "/"
  isShutdown := false
  nodeCount := 0
  participant := none
  publisher := none
  subscriber := none
  pub := none
  sub := none
  graphGuardCondition := none
  listenerThreadGc := none
  threadIsRunning := false
  participants := []
  supply := 1
  errorMsg := none

/-- Everything succeeds. -/
def smooth : Outcomes := ⟨fun _ => true, fun _ => true⟩

/-- The thread cannot be joined. -/
def unjoinable : Outcomes := ⟨fun _ => true, fun call => call != .joinListenerThread⟩

/-- The context after its thread was run and has returned. -/
def ranContext : Listening where
  impl := { freshContext with listenerThreadGc := some 1, threadIsRunning := true, supply := 2 }
  listenerThread := .returned

/-- And after it was stopped. -/
def stoppedContext : Listening where
  impl := { freshContext with listenerThreadGc := some 1, supply := 2 }
  listenerThread := .none

theorem stopped_iff_smooth :
    stoppedContext.listenerThread = .none ↔ NeverLoses freshContext [.run smooth, .returns] :=
  stopped_iff freshContext rfl [.run smooth, .returns] ranContext rfl smooth stoppedContext rfl

/-- After a join that failed, the thread is said to be stopped, and runs. -/
theorem unjoined_said_stopped : ∃ s s',
    process freshContext [.run smooth, .stop unjoinable] = some s ∧
      stopListenerThread smooth s = .ok () s' ∧ s'.listenerThread = .running :=
  ⟨_, _, rfl, rfl, rfl⟩

end Lifecycle.Threaded
