import RmwGurumdds.Exec.Runs
import RmwGurumdds.Subscription.SubscriberInfo

/-!
# The loop of the listener thread

The nodes of other participants are told through a topic of their own. A context has a subscription
to it, and a thread that waits for samples and hands their messages to the graph. The thread wakes
when there is a sample, takes samples until there is none or one without valid data, and waits
again; it ends when it is asked to, or when waiting fails.

Samples arrive while the thread is anywhere in its loop, and it may be asked to end anywhere. Still
the graph is told of each message that is not the context's own exactly once, in the order in which
they arrived (`told_once`). And the thread gets to rest, with the graph told of everything there
was (`thread_rests`): the samples without valid data at which it stops make it wake again.
-/

namespace Lifecycle.Loop

open Rmw Store Exec Subscription

/-! ## The thread -/

/-- `rmw_dds_common::msg::ParticipantEntitiesInfo`, with its nodes. -/
structure ParticipantEntitiesInfo (ν : Type) where
  gid : Gid
  nodeEntities : ν

/-- What the thread waits for. -/
inductive ActiveCondition where
  | partInfo
  | exit
deriving DecidableEq, Repr

/-- Where the thread is: it waits, it is in `on_participant_info` with these conditions to go, or
it is past its loop. -/
inductive Place where
  | waiting
  | handling (rest : List ActiveCondition)
  | cleanup
deriving DecidableEq, Repr

/-- A context as its listener thread sees it. `graph` is the graph cache. -/
structure Listener (σ ν : Type) where
  gid : Gid
  sub : SubscriberInfo (ParticipantEntitiesInfo ν)
  graph : σ
  exitTriggered : Bool
  threadIsRunning : Bool
  place : Place
  errorMsg : Option String

/-- What happens. The thread is what waits and takes. -/
inductive Happening (ν : Type) where
  | arrive (sample : TopicSample (ParticipantEntitiesInfo ν))
  | clearFlag
  | triggerExit
  | wait (fails : Bool)
  | take (fails : Bool)

section Functions

variable {σ ν : Type} (update : ParticipantEntitiesInfo ν → σ → σ) (guidOf : Nat → Option Gid)

/-- The conditions that are active: the read condition is for samples in any state. -/
def Listener.triggered (s : Listener σ ν) : List ActiveCondition :=
  (if s.sub.topicReader.samples.isEmpty then [] else [.partInfo]) ++
    if s.exitTriggered then [.exit] else []

/-- The second loop over the active conditions, and the end of a round. -/
def Listener.handle (s : Listener σ ν) : List ActiveCondition → Listener σ ν
  | [] => { s with place := if s.threadIsRunning then .waiting else .cleanup }
  | .partInfo :: rest => { s with place := .handling rest }
  | .exit :: _ => { s with place := .cleanup, errorMsg := "unexpected active condition" }

/-- `dds_WaitSet_wait` and what follows. It goes on waiting while nothing is triggered. -/
def Listener.wait (fails : Bool) (s : Listener σ ν) : Listener σ ν :=
  if fails then { s with place := .cleanup, errorMsg := "wait failed for listener thread" }
  else if s.triggered.isEmpty then s
  else if .exit ∈ s.triggered then { s with place := .cleanup }
  else s.handle s.triggered

/-- One round of `on_participant_info`, with the conditions to go when it returns. Own messages are
passed over. -/
def Listener.take (fails : Bool) (rest : List ActiveCondition) (s : Listener σ ν) :
    Listener σ ν :=
  let (sub, took) := rmwTake guidOf fails s.sub
  if took.ret ≠ .ok then
    { s with sub, errorMsg := "failed to take discovery sample" }.handle rest
  else match took.taken, took.message with
    | true, some msg =>
      if msg.gid = s.gid then { s with sub } else { s with sub, graph := update msg s.graph }
    | _, _ => { s with sub }.handle rest

/-- One thing happens. -/
def Listener.step (s : Listener σ ν) : Happening ν → Listener σ ν
  | .arrive sample =>
    { s with sub := { s.sub with topicReader.samples := s.sub.topicReader.samples.push sample } }
  | .clearFlag => { s with threadIsRunning := false }
  | .triggerExit => { s with exitTriggered := true }
  | .wait fails => match s.place with
    | .waiting => s.wait fails
    | _ => s
  | .take fails => match s.place with
    | .handling rest => s.take update guidOf fails rest
    | _ => s

/-- The thread after some happenings. -/
def Listener.after (s : Listener σ ν) (es : List (Happening ν)) : Listener σ ν :=
  run (Listener.step update guidOf) s es

/-- The samples in the reader, in their order. -/
def Listener.queue (s : Listener σ ν) : List (TopicSample (ParticipantEntitiesInfo ν)) :=
  s.sub.topicReader.samples.map Prod.fst

/-- The samples that arrived. -/
def arrived (es : List (Happening ν)) : List (TopicSample (ParticipantEntitiesInfo ν)) :=
  es.filterMap fun
    | .arrive sample => some sample
    | _ => none

/-- What the graph makes of samples: those with valid data and not of the participant `own`, one
after the other. -/
def told (own : Gid) (graph : σ) (samples : List (TopicSample (ParticipantEntitiesInfo ν))) : σ :=
  ((samples.filter fun sample => sample.info.validData && decide (sample.message.gid ≠ own)).map
    TopicSample.message).foldl (fun graph msg => update msg graph) graph

/-- Nobody has read samples but to take them. -/
def Listener.Unread (s : Listener σ ν) : Prop :=
  ∀ item ∈ s.sub.topicReader.samples, item.2 = false

/-- The thread starts. -/
structure Listener.Starts (s : Listener σ ν) : Prop where
  unread : s.Unread
  exitTriggered : s.exitTriggered = false
  place : s.place = if s.threadIsRunning then .waiting else .cleanup

end Functions

/-! ## Steps -/

section Steps

variable {σ ν : Type} {update : ParticipantEntitiesInfo ν → σ → σ} {guidOf : Nat → Option Gid}
  {s : Listener σ ν} {own : Gid} {graph : σ}
  {samples more : List (TopicSample (ParticipantEntitiesInfo ν))}

theorem told_append :
    told update own graph (samples ++ more) =
      told update own (told update own graph samples) more := by
  rw [told, List.filter_append, List.map_append, List.foldl_append]
  rfl

theorem told_singleton (sample : TopicSample (ParticipantEntitiesInfo ν)) :
    told update own graph [sample] =
      if sample.info.validData = true ∧ sample.message.gid ≠ own then update sample.message graph
      else graph := by
  simp only [told, List.filter_cons, List.filter_nil, Bool.and_eq_true, decide_eq_true_eq]
  split <;> rfl

/-- What no message of another participant changes, none changes. -/
theorem told_invariant {P : σ → Prop} (start : P graph)
    (keeps : ∀ msg graph, msg.gid ≠ own → P graph → P (update msg graph)) :
    P (told update own graph samples) := by
  induction samples using List.reverseRecOn with
  | nil => exact start
  | append_singleton samples sample ih =>
    rw [told_append, told_singleton]
    split
    · rename_i tells
      exact keeps sample.message _ tells.2 ih
    · exact ih

@[simp] theorem queue_handle (rest : List ActiveCondition) :
    (s.handle rest).queue = s.queue := by
  rcases rest with _ | ⟨_ | _, _⟩ <;> rfl

/-- What a round of `on_participant_info` does: it fails; or there is nothing; or there is a sample,
and the thread stays for the next if it is valid. -/
inductive Listener.Took (update : ParticipantEntitiesInfo ν → σ → σ) (s : Listener σ ν)
    (fails : Bool) (rest : List ActiveCondition) (s' : Listener σ ν) : Prop
  | failed (does : fails = true)
    (is : s' = { s with errorMsg := some "failed to take discovery sample" }.handle rest)
  | nothing (does : fails = false) (empty : s.queue = []) (is : s' = s.handle rest)
  | invalid (does : fails = false) (sub : SubscriberInfo (ParticipantEntitiesInfo ν))
    (sample : TopicSample (ParticipantEntitiesInfo ν)) (bad : sample.info.validData = false)
    (samples : s.sub.topicReader.samples = (sample, false) :: sub.topicReader.samples)
    (is : s' = { s with sub }.handle rest)
  | valid (does : fails = false) (sub : SubscriberInfo (ParticipantEntitiesInfo ν))
    (sample : TopicSample (ParticipantEntitiesInfo ν)) (good : sample.info.validData = true)
    (samples : s.sub.topicReader.samples = (sample, false) :: sub.topicReader.samples)
    (is : s' = { s with sub, graph := told update s.gid s.graph [sample] })

variable (update guidOf) in
theorem take_took (unread : s.Unread) (fails : Bool) (rest : List ActiveCondition) :
    s.Took update fails rest (s.take update guidOf fails rest) := by
  cases fails with
  | true => exact .failed rfl rfl
  | false =>
    obtain ⟨gid, ⟨⟨samples, notifies⟩, mask, callback, userData⟩, graph, exit, running, place,
      msg⟩ := s
    rcases samples with _ | ⟨⟨sample, mark⟩, samples⟩
    · exact .nothing rfl rfl rfl
    · obtain rfl : mark = false := unread (sample, mark) List.mem_cons_self
      cases valid : sample.info.validData with
      | false =>
        refine .invalid rfl { topicReader := { samples, notifies }, mask, callback, userData }
          sample valid rfl ?_
        simp [Listener.take, rmwTake, Subscription.take, DataReader.takeNextSample, Marked.pop,
          tookSample, valid, Took.nothing]
      | true =>
        refine .valid rfl { topicReader := { samples, notifies }, mask, callback, userData }
          sample valid rfl ?_
        by_cases own : sample.message.gid = gid <;>
          simp [Listener.take, rmwTake, Subscription.take, DataReader.takeNextSample, Marked.pop,
            tookSample, valid, told, own]

/-- What lasts of a step of the thread: it has removed samples, and told the graph of them. -/
structure Listener.Onward (update : ParticipantEntitiesInfo ν → σ → σ) (s s' : Listener σ ν) :
    Prop where
  unread : s'.Unread
  gid : s'.gid = s.gid
  removes : ∃ removed, s.queue = removed ++ s'.queue ∧
    s'.graph = told update s.gid s.graph removed

theorem Listener.Onward.refl (unread : s.Unread) : s.Onward update s :=
  ⟨unread, rfl, [], rfl, rfl⟩

/-- Going on with the conditions changes the place of the thread and nothing that lasts. -/
theorem Listener.Onward.handle {s' : Listener σ ν} (on : s.Onward update s')
    (rest : List ActiveCondition) : s.Onward update (s'.handle rest) := by
  rcases rest with _ | ⟨_ | _, _⟩ <;> exact ⟨on.unread, on.gid, on.removes⟩

/-- One sample is removed. -/
theorem Listener.Onward.remove {s' : Listener σ ν}
    {sample : TopicSample (ParticipantEntitiesInfo ν)} (unread : s.Unread)
    (samples : s.sub.topicReader.samples = (sample, false) :: s'.sub.topicReader.samples)
    (gid : s'.gid = s.gid) (graph : s'.graph = told update s.gid s.graph [sample]) :
    s.Onward update s' := by
  refine ⟨fun item mem => unread item (samples ▸ List.mem_cons_of_mem _ mem), gid, [sample], ?_,
    graph⟩
  rw [Listener.queue, samples]
  rfl

variable (update guidOf) in
theorem onward_take (unread : s.Unread) (fails : Bool) (rest : List ActiveCondition) :
    s.Onward update (s.take update guidOf fails rest) := by
  cases take_took update guidOf unread fails rest with
  | failed _ is =>
    rw [is]
    have same : s.Onward update { s with errorMsg := some "failed to take discovery sample" } :=
      ⟨unread, rfl, [], rfl, rfl⟩
    exact same.handle rest
  | nothing _ _ is =>
    rw [is]
    exact (Listener.Onward.refl unread).handle rest
  | invalid _ sub sample bad samples is =>
    rw [is]
    have removed : s.Onward update { s with sub } :=
      .remove unread samples rfl (by simp [told, bad])
    exact removed.handle rest
  | valid _ sub sample good samples is =>
    rw [is]
    exact .remove unread samples rfl rfl

theorem onward_wait (unread : s.Unread) (fails : Bool) : s.Onward update (s.wait fails) := by
  unfold Listener.wait
  split
  · exact ⟨unread, rfl, [], rfl, rfl⟩
  · split
    · exact .refl unread
    · split
      · exact ⟨unread, rfl, [], rfl, rfl⟩
      · exact (Listener.Onward.refl unread).handle _

variable (update guidOf) in
/-- Whatever happens but that a sample arrives. -/
theorem onward_step (unread : s.Unread) {e : Happening ν} (quiet : arrived [e] = []) :
    s.Onward update (s.step update guidOf e) := by
  cases e with
  | arrive sample => cases quiet
  | clearFlag => exact ⟨unread, rfl, [], rfl, rfl⟩
  | triggerExit => exact ⟨unread, rfl, [], rfl, rfl⟩
  | wait fails =>
    rw [Listener.step]
    split
    · exact onward_wait unread fails
    · exact .refl unread
  | take fails =>
    rw [Listener.step]
    split
    · exact onward_take update guidOf unread fails _
    · exact .refl unread

/-- A sample arrives. -/
theorem queue_arrive (sample : TopicSample (ParticipantEntitiesInfo ν)) :
    (s.step update guidOf (.arrive sample)).queue = s.queue ++ [sample] := by
  simp [Listener.step, Listener.queue, Marked.push]

theorem unread_arrive (unread : s.Unread) (sample : TopicSample (ParticipantEntitiesInfo ν)) :
    (s.step update guidOf (.arrive sample)).Unread := by
  intro item mem
  rcases List.mem_append.mp mem with mem | mem
  · exact unread item mem
  · rw [List.mem_singleton.mp mem]

/-! ## What the graph is told -/

/-- The samples that have been taken are those the graph was told of, and the others are there. -/
structure Listener.Accounts (update : ParticipantEntitiesInfo ν → σ → σ) (s : Listener σ ν)
    (came : List (TopicSample (ParticipantEntitiesInfo ν))) (s' : Listener σ ν) : Prop where
  unread : s'.Unread
  gid : s'.gid = s.gid
  handled : ∃ handled, s.queue ++ came = handled ++ s'.queue ∧
    s'.graph = told update s.gid s.graph handled

variable {came : List (TopicSample (ParticipantEntitiesInfo ν))} {s' s'' : Listener σ ν}

theorem Listener.Accounts.onward (accounts : s.Accounts update came s')
    (on : s'.Onward update s'') : s.Accounts update came s'' := by
  obtain ⟨handled, samples, graph⟩ := accounts.handled
  obtain ⟨removed, samples', graph'⟩ := on.removes
  refine ⟨on.unread, on.gid.trans accounts.gid, handled ++ removed, ?_, ?_⟩
  · rw [samples, samples', List.append_assoc]
  · rw [graph', accounts.gid, graph, told_append]

/-- One thing happens. -/
theorem Listener.Accounts.step (accounts : s.Accounts update came s') (e : Happening ν) :
    s.Accounts update (came ++ arrived [e]) (s'.step update guidOf e) := by
  have quietly (quiet : arrived [e] = []) :
      s.Accounts update (came ++ arrived [e]) (s'.step update guidOf e) := by
    rw [quiet, List.append_nil]
    exact accounts.onward (onward_step update guidOf accounts.unread quiet)
  cases e with
  | arrive sample =>
    obtain ⟨handled, samples, graph⟩ := accounts.handled
    refine ⟨unread_arrive accounts.unread sample, accounts.gid, handled, ?_, graph⟩
    rw [← List.append_assoc, samples, List.append_assoc, queue_arrive]
    rfl
  | clearFlag => exact quietly rfl
  | triggerExit => exact quietly rfl
  | wait fails => exact quietly rfl
  | take fails => exact quietly rfl

theorem accounts_after (unread : s.Unread) (es : List (Happening ν)) :
    s.Accounts update (arrived es) (s.after update guidOf es) := by
  induction es using List.reverseRecOn with
  | nil => exact ⟨unread, rfl, [], by simp [arrived, Listener.after], rfl⟩
  | append_singleton es e ih =>
    rw [Listener.after, run_concat, arrived, List.filterMap_append]
    exact ih.step e

variable (update guidOf) in
theorem accounts_step (unread : s.Unread) (e : Happening ν) :
    s.Accounts update (arrived [e]) (s.step update guidOf e) :=
  accounts_after unread [e]

/-- **The graph is told of each message exactly once**, in the order in which they arrived, but for
the context's own and those that are still to be taken. -/
theorem told_once (starts : s.Starts) (es : List (Happening ν)) :
    ∃ handled, s.queue ++ arrived es = handled ++ (s.after update guidOf es).queue ∧
      (s.after update guidOf es).graph = told update s.gid s.graph handled :=
  (accounts_after starts.unread es).handled

/-! ## Rest -/

/-- The thread goes on by itself: there is something to wake for, or it is taking samples. -/
def Listener.Moves (s : Listener σ ν) : Happening ν → Prop
  | .wait fails => fails = false ∧ s.place = .waiting ∧ s.triggered ≠ []
  | .take fails => fails = false ∧ ∃ rest, s.place = .handling rest
  | _ => False

/-- Someone has asked the thread to end, or waiting failed. -/
def Happening.Ends : Happening ν → Prop
  | .clearFlag => True
  | .triggerExit => True
  | .wait fails => fails = true
  | _ => False

/-- Where a thread can be: while it handles conditions, these were all; it is not told to end by
itself, and has not ended. -/
structure Listener.Sane (asked : Prop) (s : Listener σ ν) : Prop where
  unread : s.Unread
  rest : ∀ rest, s.place = .handling rest → rest = []
  flag : ¬ asked → s.threadIsRunning = true ∧ s.exitTriggered = false ∧ s.place ≠ .cleanup

/-- How much the thread may still do by itself. -/
def Listener.rank (s : Listener σ ν) : Nat :=
  match s.place with
  | .waiting =>
    if s.triggered = [] then 0 else if s.queue = [] then 1 else 3 * s.queue.length + 3
  | .handling _ => 3 * s.queue.length + 2
  | .cleanup => 0

variable {asked : Prop}

theorem queue_eq_nil : s.queue = [] ↔ s.sub.topicReader.samples.isEmpty = true := by
  rw [Listener.queue, List.map_eq_nil_iff, List.isEmpty_iff]

/-- Without the exit condition there is the other one, and it is about a sample. -/
theorem triggered_of_notMem (exit : .exit ∉ s.triggered) (some_ : s.triggered ≠ []) :
    s.triggered = [.partInfo] ∧ s.queue ≠ [] := by
  rw [Ne, queue_eq_nil]
  unfold Listener.triggered at exit some_ ⊢
  cases h : s.exitTriggered <;> cases h' : s.sub.topicReader.samples.isEmpty <;> simp_all

/-- A thread that has gone through all conditions waits again, or ends. -/
theorem sane_handle_nil (unread : s.Unread)
    (flag : ¬ asked → s.threadIsRunning = true ∧ s.exitTriggered = false) :
    (s.handle []).Sane asked := by
  refine ⟨unread, fun rest here => ?_, fun quiet => ⟨(flag quiet).1, (flag quiet).2, ?_⟩⟩
  · simp only [Listener.handle] at here
    split at here <;> exact nomatch here
  · simp [Listener.handle, (flag quiet).1]

theorem rank_handle_nil :
    (s.handle []).rank ≤ if s.queue = [] then 1 else 3 * s.queue.length + 3 := by
  have same : (s.handle []).queue = s.queue := queue_handle []
  cases running : s.threadIsRunning with
  | false =>
    have place : (s.handle []).place = .cleanup := by simp [Listener.handle, running]
    rw [Listener.rank, place]
    exact Nat.zero_le _
  | true =>
    have place : (s.handle []).place = .waiting := by simp [Listener.handle, running]
    simp only [Listener.rank, place, same]
    split
    · exact Nat.zero_le _
    · exact Nat.le_refl _

/-- What waiting comes to, if there is something to wake for. -/
theorem wait_cases (some_ : s.triggered ≠ []) :
    (.exit ∈ s.triggered ∧ s.wait false = { s with place := .cleanup }) ∨
      (.exit ∉ s.triggered ∧ s.queue ≠ [] ∧ s.wait false = { s with place := .handling [] }) := by
  unfold Listener.wait
  rw [if_neg Bool.false_ne_true, if_neg (by simpa using some_)]
  by_cases exit : .exit ∈ s.triggered
  · exact .inl ⟨exit, if_pos exit⟩
  · obtain ⟨conditions, samples⟩ := triggered_of_notMem exit some_
    exact .inr ⟨exit, samples, by rw [if_neg exit, conditions]; rfl⟩

theorem not_mem_triggered (untriggered : s.exitTriggered = false) : .exit ∉ s.triggered := by
  unfold Listener.triggered
  cases s.sub.topicReader.samples.isEmpty <;> simp [untriggered]

/-- **Whatever happens**, the thread is where it can be. -/
theorem Listener.Sane.step (sane : s.Sane asked) {e : Happening ν} (ends : e.Ends → asked) :
    (s.step update guidOf e).Sane asked := by
  cases e with
  | arrive sample =>
    refine ⟨fun item mem => ?_, sane.rest, sane.flag⟩
    rcases List.mem_append.mp mem with mem | mem
    · exact sane.unread item mem
    · rw [List.mem_singleton.mp mem]
  | clearFlag => exact ⟨sane.unread, sane.rest, fun quiet => absurd (ends trivial) quiet⟩
  | triggerExit => exact ⟨sane.unread, sane.rest, fun quiet => absurd (ends trivial) quiet⟩
  | wait fails =>
    rw [Listener.step]
    split
    · cases fails with
      | true => exact ⟨sane.unread, nofun, fun quiet => absurd (ends rfl) quiet⟩
      | false =>
        by_cases some_ : s.triggered = []
        · rw [Listener.wait, if_neg Bool.false_ne_true, if_pos (by simp [some_])]
          exact sane
        · rcases wait_cases some_ with ⟨exit, is⟩ | ⟨-, -, is⟩
          · rw [is]
            exact ⟨sane.unread, nofun, fun quiet =>
              absurd exit (not_mem_triggered (sane.flag quiet).2.1)⟩
          · rw [is]
            refine ⟨sane.unread, fun rest here => ?_, fun quiet => ?_⟩
            · exact (Place.handling.inj here).symm
            · exact ⟨(sane.flag quiet).1, (sane.flag quiet).2.1, nofun⟩
    · exact sane
  | take fails =>
    rw [Listener.step]
    split
    · rename_i rest here
      obtain rfl := sane.rest rest here
      have unread := (onward_take update guidOf sane.unread fails []).unread
      have flag (quiet : ¬ asked) : s.threadIsRunning = true ∧ s.exitTriggered = false :=
        ⟨(sane.flag quiet).1, (sane.flag quiet).2.1⟩
      cases take_took update guidOf sane.unread fails [] with
      | failed _ is =>
        rw [is] at unread ⊢
        exact sane_handle_nil unread flag
      | nothing _ _ is =>
        rw [is] at unread ⊢
        exact sane_handle_nil unread flag
      | invalid _ sub sample bad samples is =>
        rw [is] at unread ⊢
        exact sane_handle_nil unread flag
      | valid _ sub sample good samples is =>
        rw [is] at unread ⊢
        exact ⟨unread, sane.rest, sane.flag⟩
    · exact sane

/-- **Each move of its own brings the thread nearer to rest.** -/
theorem Listener.Sane.lowers (sane : s.Sane asked) {e : Happening ν} (moves : s.Moves e) :
    (s.step update guidOf e).rank < s.rank := by
  cases e with
  | arrive sample => exact moves.elim
  | clearFlag => exact moves.elim
  | triggerExit => exact moves.elim
  | wait fails =>
    obtain ⟨rfl, waiting, some_⟩ := moves
    have before : s.rank = if s.queue = [] then 1 else 3 * s.queue.length + 3 := by
      rw [Listener.rank, waiting]
      exact if_neg some_
    have stepped : s.step update guidOf (.wait false) = s.wait false := by
      rw [Listener.step, waiting]
    rw [stepped, before]
    rcases wait_cases some_ with ⟨-, is⟩ | ⟨-, samples, is⟩
    · rw [is]
      show 0 < _
      split <;> omega
    · rw [is, if_neg samples]
      show 3 * s.queue.length + 2 < _
      omega
  | take fails =>
    obtain ⟨rfl, rest, here⟩ := moves
    obtain rfl := sane.rest rest here
    have before : s.rank = 3 * s.queue.length + 2 := by
      rw [Listener.rank, here]
    have stepped : s.step update guidOf (.take false) = s.take update guidOf false [] := by
      rw [Listener.step, here]
    have shorter {sub : SubscriberInfo (ParticipantEntitiesInfo ν)}
        {sample : TopicSample (ParticipantEntitiesInfo ν)}
        (samples : s.sub.topicReader.samples = (sample, false) :: sub.topicReader.samples) :
        s.queue.length = sub.topicReader.samples.length + 1 := by
      rw [Listener.queue, samples, List.length_map, List.length_cons]
    rw [stepped, before]
    cases take_took update guidOf sane.unread false [] with
    | failed does _ => exact nomatch does
    | nothing _ empty is =>
      rw [is]
      refine rank_handle_nil.trans_lt ?_
      rw [if_pos empty]
      omega
    | invalid _ sub sample bad samples is =>
      have after : ({ s with sub }).queue.length = sub.topicReader.samples.length :=
        List.length_map ..
      rw [is, shorter samples]
      refine rank_handle_nil.trans_lt ?_
      rw [after]
      split <;> omega
    | valid _ sub sample good samples is =>
      rw [is, shorter samples]
      have after : ({ s with sub, graph := told update s.gid s.graph [sample] }).rank =
          3 * sub.topicReader.samples.length + 2 := by
        simp [Listener.rank, here, Listener.queue]
      rw [after]
      omega

theorem sane_after (starts : s.Starts) {es : List (Happening ν)}
    (ends : ∀ e ∈ es, e.Ends → asked) (flag : s.threadIsRunning = false → asked) :
    (s.after update guidOf es).Sane asked := by
  induction es using List.reverseRecOn with
  | nil =>
    refine ⟨starts.unread, fun rest here => ?_, fun quiet => ?_⟩
    · have here : s.place = .handling rest := here
      rw [starts.place] at here
      split at here <;> exact nomatch here
    · have running : s.threadIsRunning = true := by
        by_contra stopped
        exact quiet (flag (Bool.eq_false_iff.mpr stopped))
      refine ⟨running, starts.exitTriggered, ?_⟩
      show s.place ≠ _
      rw [starts.place, if_pos running]
      exact nofun
  | append_singleton es e ih =>
    rw [Listener.after, run_concat]
    exact (ih fun f mem => ends f (List.mem_append_left _ mem)).step (ends e (by simp))

theorem rank_le : s.rank ≤ 3 * (s.queue.length + 1) := by
  unfold Listener.rank
  cases s.place with
  | waiting =>
    dsimp only
    split
    · omega
    · split <;> omega
  | handling rest => exact Nat.le_succ_of_le (Nat.le_refl _)
  | cleanup => exact Nat.zero_le _

/-- **The thread gets to rest** by itself, in three moves for each sample there is and three more:
either it has ended, and only if it was asked to or waiting failed; or it waits, nobody has asked it
to exit, and the graph was told of everything that arrived. -/
theorem thread_rests (starts : s.Starts) (es moves : List (Happening ν))
    (own : ∀ p e, p ++ [e] <+: moves → (s.after update guidOf (es ++ p)).Moves e) :
    moves.length ≤ 3 * ((s.after update guidOf es).queue.length + 1) ∧
      ((∀ e, ¬ (s.after update guidOf (es ++ moves)).Moves e) →
        (s.after update guidOf (es ++ moves)).place = .cleanup ∧
            (s.threadIsRunning = false ∨ ∃ e ∈ es, e.Ends) ∨
          (s.after update guidOf (es ++ moves)).place = .waiting ∧
            (s.after update guidOf (es ++ moves)).exitTriggered = false ∧
            (s.after update guidOf (es ++ moves)).graph =
              told update s.gid s.graph (s.queue ++ arrived es)) := by
  -- The moves are of the thread, so that it is `es` that asks, and that samples arrive in.
  have after_append (p : List (Happening ν)) : s.after update guidOf (es ++ p) =
      run (Listener.step update guidOf) (s.after update guidOf es) p := List.foldl_append ..
  have sane : (s.after update guidOf es).Sane (s.threadIsRunning = false ∨ ∃ e ∈ es, e.Ends) :=
    sane_after starts (fun e mem ends => .inr ⟨e, mem, ends⟩) .inl
  have quiet {t : Listener σ ν} {e : Happening ν} (moves : t.Moves e) : ¬ e.Ends := by
    cases e with
    | wait fails => exact fun ends => nomatch moves.1.symm.trans ends
    | take fails => exact id
    | arrive sample => exact id
    | clearFlag => exact moves.elim
    | triggerExit => exact moves.elim
  have lowers (t : Listener σ ν) (e : Happening ν)
      (sane : t.Sane (s.threadIsRunning = false ∨ ∃ e ∈ es, e.Ends)) (moves : t.Moves e) :
      (t.step update guidOf e).Sane (s.threadIsRunning = false ∨ ∃ e ∈ es, e.Ends) ∧
        (t.step update guidOf e).rank < t.rank :=
    ⟨sane.step fun ends => absurd ends (quiet moves), sane.lowers moves⟩
  obtain ⟨sane', length⟩ := length_le_measure Listener.rank lowers sane moves
    fun p e before => after_append p ▸ own p e before
  rw [← after_append] at sane'
  refine ⟨(Nat.le_add_right _ _).trans (length.trans rank_le), fun rest => ?_⟩
  have nothing : arrived moves = [] := by
    refine List.filterMap_eq_nil_iff.mpr fun e mem => ?_
    obtain ⟨before, after, split⟩ := List.append_of_mem mem
    have moved := own before e ⟨after, by simp [split]⟩
    cases e with
    | arrive sample => exact moved.elim
    | _ => rfl
  cases place : (s.after update guidOf (es ++ moves)).place with
  | cleanup =>
    refine .inl ⟨rfl, ?_⟩
    by_contra unasked
    exact (sane'.flag unasked).2.2 place
  | handling conditions => exact absurd ⟨rfl, conditions, place⟩ (rest (.take false))
  | waiting =>
    have untriggered : (s.after update guidOf (es ++ moves)).triggered = [] := by
      by_contra some_
      exact rest (.wait false) ⟨rfl, place, some_⟩
    obtain ⟨samples, exit⟩ := List.append_eq_nil_iff.mp untriggered
    have empty : (s.after update guidOf (es ++ moves)).queue = [] := by
      rw [queue_eq_nil]
      by_contra some_
      simp [some_] at samples
    have accounts : s.Accounts update (arrived (es ++ moves))
        (s.after update guidOf (es ++ moves)) := accounts_after starts.unread _
    obtain ⟨handled, all, graph⟩ := accounts.handled
    rw [empty, List.append_nil, arrived, List.filterMap_append, ← arrived, ← arrived, nothing,
      List.append_nil] at all
    refine .inr ⟨rfl, ?_, all ▸ graph⟩
    by_contra triggered
    simp [triggered] at exit

end Steps

/-! ## Samples -/

/-- A sample of a participant. -/
def sampleMessage (own : Bool) (validData : Bool) : TopicSample (ParticipantEntitiesInfo Unit) where
  message := { gid := Vector.replicate 16 (if own then 0 else 1), nodeEntities := () }
  info := { SampleInfoEx.zero with validData }
  publicationHandle := 0

/-- A context whose graph keeps the gids it is told. -/
def sampleListener : Listener (List Gid) Unit where
  gid := Vector.replicate 16 0
  sub := .create
  graph := []
  exitTriggered := false
  threadIsRunning := true
  place := .waiting
  errorMsg := none

theorem sampleListener_starts : sampleListener.Starts := ⟨nofun, rfl, rfl⟩

/-- A message of another participant comes, then one of its own, and while the thread takes the
first, a sample without valid data. -/
def sampleHappenings : List (Happening Unit) :=
  [.arrive (sampleMessage false true), .arrive (sampleMessage true true), .wait false,
    .arrive (sampleMessage false false), .take false]

theorem told_once_sample :
    ∃ handled, sampleListener.queue ++ arrived sampleHappenings = handled ++
        (sampleListener.after (fun msg gids => gids ++ [msg.gid]) (fun _ => none)
          sampleHappenings).queue ∧
      (sampleListener.after (fun msg gids => gids ++ [msg.gid]) (fun _ => none)
          sampleHappenings).graph =
        told (fun msg gids => gids ++ [msg.gid]) sampleListener.gid sampleListener.graph handled :=
  told_once sampleListener_starts sampleHappenings

/-- The thread goes on with the second message. -/
theorem thread_rests_sample :
    [Happening.take (ν := Unit) false].length ≤
        3 * ((sampleListener.after (fun msg gids => gids ++ [msg.gid]) (fun _ => none)
          sampleHappenings).queue.length + 1) ∧
      ((∀ e, ¬ (sampleListener.after (fun msg gids => gids ++ [msg.gid]) (fun _ => none)
          (sampleHappenings ++ [.take false])).Moves e) →
        (sampleListener.after (fun msg gids => gids ++ [msg.gid]) (fun _ => none)
              (sampleHappenings ++ [.take false])).place = .cleanup ∧
            (sampleListener.threadIsRunning = false ∨ ∃ e ∈ sampleHappenings, e.Ends) ∨
          (sampleListener.after (fun msg gids => gids ++ [msg.gid]) (fun _ => none)
              (sampleHappenings ++ [.take false])).place = .waiting ∧
            (sampleListener.after (fun msg gids => gids ++ [msg.gid]) (fun _ => none)
              (sampleHappenings ++ [.take false])).exitTriggered = false ∧
            (sampleListener.after (fun msg gids => gids ++ [msg.gid]) (fun _ => none)
              (sampleHappenings ++ [.take false])).graph =
              told (fun msg gids => gids ++ [msg.gid]) sampleListener.gid sampleListener.graph
                (sampleListener.queue ++ arrived sampleHappenings)) := by
  refine thread_rests sampleListener_starts sampleHappenings [.take false] fun p e before => ?_
  have empty : p = [] := by
    have length := before.length_le
    rw [List.length_append, List.length_singleton, List.length_singleton] at length
    exact List.length_eq_zero_iff.mp (by omega)
  subst empty
  obtain rfl : e = .take false := by simpa using before
  exact ⟨rfl, [], rfl⟩

end Lifecycle.Loop
