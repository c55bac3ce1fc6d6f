import RmwGurumdds.Exec.Runs
import RmwGurumdds.Subscription.SubscriberInfo

/-!
# Counting hides messages

The messages a subscription received, against those it has handed out and those it still can. A
message that arrives is kept for a take, and a take hands out the first one that is left. Counting
reads the messages, and a message that was read is no longer taken: whatever was there when messages
were counted is never handed out (`kept_iff_harmless`).
-/

namespace Subscription

open Rmw Events Store Exec

variable {α : Type}

/-! ## Taking what is left -/

/-- The messages of the samples with valid data. -/
def messages (samples : List (TopicSample α)) : List α :=
  (samples.filter fun sample => sample.info.validData).map TopicSample.message

/-- The messages that so many further calls of `rmw_take` hand out. -/
def further (guidOf : Nat → Option Gid) : Nat → SubscriberInfo α → List α
  | 0, _ => []
  | calls + 1, info =>
    (rmwTake guidOf false info).2.message.toList ++
      further guidOf calls (rmwTake guidOf false info).1

/-- The messages that can still be taken: no more calls than there are samples get any. -/
def SubscriberInfo.retrievable (guidOf : Nat → Option Gid) (info : SubscriberInfo α) : List α :=
  further guidOf info.topicReader.samples.length info

section Taking

variable {guidOf : Nat → Option Gid} {info : SubscriberInfo α} {samples rest : List (TopicSample α)}

@[simp] theorem messages_nil : messages ([] : List (TopicSample α)) = [] := rfl

@[simp] theorem messages_append :
    messages (samples ++ rest) = messages samples ++ messages rest := by
  rw [messages, List.filter_append, List.map_append]
  rfl

/-- A take hands out the first sample that was not read, if its data are valid. -/
theorem take_message (wantsInfo : Bool) :
    (take guidOf false wantsInfo info).2.message.toList = messages info.unread.head?.toList := by
  have next : info.topicReader.takeNextSample.1 = info.unread.head? := Marked.pop_fst _
  rw [take, if_neg Bool.false_ne_true, next]
  cases info.unread.head? with
  | none => rfl
  | some sample =>
    cases valid : sample.info.validData with
    | false => simp [tookSample, Took.nothing, messages, valid]
    | true => simp [tookSample, messages, valid]

/-- It leaves the others. -/
theorem take_unread (wantsInfo : Bool) :
    (take guidOf false wantsInfo info).1.unread = info.unread.tail :=
  Marked.unmarked_pop info.topicReader.samples

theorem further_eq {calls : Nat} (enough : info.unread.length ≤ calls) :
    further guidOf calls info = messages info.unread := by
  induction calls generalizing info with
  | zero =>
    have none_left : info.unread = [] := List.length_eq_zero_iff.mp (Nat.le_zero.mp enough)
    rw [none_left]
    rfl
  | succ calls ih =>
    have left : (rmwTake guidOf false info).1.unread = info.unread.tail := take_unread false
    have handed :
        (rmwTake guidOf false info).2.message.toList = messages info.unread.head?.toList :=
      take_message false
    rw [further, handed, ih (by rw [left, List.length_tail]; omega), left, ← messages_append]
    cases info.unread <;> rfl

/-- **What can still be taken are the messages that were not read.** -/
theorem SubscriberInfo.retrievable_eq : info.retrievable guidOf = messages info.unread := by
  refine further_eq ?_
  rw [SubscriberInfo.unread, Marked.unmarked, List.length_map]
  exact List.length_filter_le _ _

end Taking

/-! ## Counting -/

section Counting

variable {loanFails : Bool} {reader : DataReader α}

/-- **A read that succeeds counts what was not read, and leaves nothing that was not.** -/
theorem countUnread_reads :
    (countUnread false loanFails reader).count = reader.samples.unmarked.length ∧
      (countUnread false loanFails reader).topicReader.samples.unmarked = [] := by
  unfold countUnread rawRead
  cases unread : reader.samples.unmarked with
  | nil => exact ⟨rfl, unread⟩
  | cons sample rest => exact ⟨rfl, Marked.unmarked_markAll⟩

end Counting

/-! ## Runs -/

/-- What happens to a subscription. DDS calls the listener of `notify` only if it is set to. -/
inductive Step (α : Type) where
  | arrive (sample : TopicSample α)
  | notify (readFails loanFails : Bool)
  | setCallback (callback : Option Callback) (userData : UserData) (readFails loanFails : Bool)
      (rc : DdsReturnCode)
  | take (fails wantsInfo : Bool)

/-- A subscription, the samples it received, and the messages it has handed out. -/
structure Ledger (α : Type) where
  info : SubscriberInfo α
  received : List (TopicSample α)
  returned : List α

/-- The subscription after a step, and the calls of callbacks the step makes. -/
def SubscriberInfo.after (guidOf : Nat → Option Gid) (info : SubscriberInfo α) :
    Step α → SubscriberInfo α × List Call
  | .arrive sample =>
    ({ info with topicReader.samples := info.topicReader.samples.push sample }, [])
  | .notify readFails loanFails =>
    if info.topicReader.notifies then info.onDataAvailable readFails loanFails else (info, [])
  | .setCallback callback userData readFails loanFails rc =>
    let set := rmwSubscriptionSetOnNewMessageCallback readFails loanFails rc info userData callback
    (set.1, set.2.1)
  | .take fails wantsInfo => ((Subscription.take guidOf fails wantsInfo info).1, [])

/-- A step, entered in the ledger. -/
def Ledger.step (guidOf : Nat → Option Gid) (l : Ledger α) (step : Step α) : Ledger α :=
  { info := (l.info.after guidOf step).1
    received := match step with
      | .arrive sample => l.received ++ [sample]
      | _ => l.received
    returned := match step with
      | .take fails wantsInfo =>
        l.returned ++ (take guidOf fails wantsInfo l.info).2.message.toList
      | _ => l.returned }

/-- The ledger of a new subscription after some steps. -/
def Ledger.after (guidOf : Nat → Option Gid) (steps : List (Step α)) : Ledger α :=
  run (Ledger.step guidOf) { info := .create, received := [], returned := [] } steps

/-- **What was handed out and what can still be taken is what was received.** -/
def Ledger.Kept (guidOf : Nat → Option Gid) (l : Ledger α) : Prop :=
  messages l.received = l.returned ++ l.info.retrievable guidOf

/-- Every sample that a step tells a callback of can be taken after it. -/
def Ledger.Takeable (guidOf : Nat → Option Gid) (l : Ledger α) (step : Step α) : Prop :=
  ∀ call ∈ (l.info.after guidOf step).2, call.count ≤ (l.step guidOf step).info.unread.length

/-- A step reads the samples to count them. -/
def SubscriberInfo.Counts (info : SubscriberInfo α) : Step α → Prop
  | .notify readFails _ =>
    info.topicReader.notifies = true ∧ info.callback.isSome = true ∧ readFails = false
  | .setCallback callback _ readFails _ _ => callback.isSome = true ∧ readFails = false
  | _ => False

/-- No message is there when messages are counted. -/
def Ledger.Harmless (l : Ledger α) (step : Step α) : Prop :=
  l.info.Counts step → messages l.info.unread = []

/-- No sample is there when messages are counted, not even one without valid data. -/
def Ledger.Idle (l : Ledger α) (step : Step α) : Prop := l.info.Counts step → l.info.unread = []

section Run

variable {guidOf : Nat → Option Gid} {info : SubscriberInfo α} {l : Ledger α} {step : Step α}

/-- The listener has nothing to do with the samples. -/
theorem setListener_unread (rc : DdsReturnCode) : (info.setListener rc).1.unread = info.unread := by
  unfold SubscriberInfo.setListener
  split <;> rfl

/-- All samples that were not read are none. -/
theorem length_nonpos_iff {samples : List (TopicSample α)} :
    (samples.length : Int) ≤ 0 ↔ samples = [] := by
  rw [← List.length_eq_zero_iff]
  omega

/-- **A step that counts leaves nothing that was not read**, and tells of all that was there. -/
theorem after_of_counts (counts : info.Counts step) :
    (info.after guidOf step).1.unread = [] ∧
      ((∀ call ∈ (info.after guidOf step).2, call.count ≤ 0) ↔ info.unread = []) := by
  cases step with
  | arrive sample => exact counts.elim
  | take fails wantsInfo => exact counts.elim
  | notify readFails loanFails =>
    obtain ⟨notifies, called, rfl⟩ := counts
    obtain ⟨callback, there⟩ := Option.isSome_iff_exists.mp called
    obtain ⟨count, left⟩ := @countUnread_reads α loanFails info.topicReader
    simp only [SubscriberInfo.after, notifies, if_true, SubscriberInfo.onDataAvailable, there]
    refine ⟨left, ?_⟩
    rw [List.forall_mem_singleton, count]
    exact length_nonpos_iff
  | setCallback callback userData readFails loanFails rc =>
    obtain ⟨called, rfl⟩ := counts
    obtain ⟨callback, rfl⟩ := Option.isSome_iff_exists.mp called
    obtain ⟨count, left⟩ := @countUnread_reads α loanFails info.topicReader
    refine ⟨(setListener_unread rc).trans left, ?_⟩
    simp only [SubscriberInfo.after, rmwSubscriptionSetOnNewMessageCallback, count]
    by_cases some_unread : 0 < info.topicReader.samples.unmarked.length
    · rw [if_pos some_unread, List.forall_mem_singleton]
      exact length_nonpos_iff
    · rw [if_neg some_unread]
      have none_unread : info.unread = [] :=
        List.length_eq_zero_iff.mp (Nat.eq_zero_of_not_pos some_unread)
      exact iff_of_true nofun none_unread

/-- What becomes of the samples that were not read in a step that does not count. -/
def remaining (unread : List (TopicSample α)) : Step α → List (TopicSample α)
  | .arrive sample => unread ++ [sample]
  | .take fails _ => if fails then unread else unread.tail
  | _ => unread

/-- Every other step keeps them, but for the one it takes, and tells of none. -/
theorem after_of_not_counts (spares : ¬ info.Counts step) :
    (info.after guidOf step).1.unread = remaining info.unread step ∧
      ∀ call ∈ (info.after guidOf step).2, call.count ≤ 0 := by
  cases step with
  | arrive sample => exact ⟨Marked.unmarked_push, nofun⟩
  | take fails wantsInfo =>
    cases fails with
    | false => exact ⟨@take_unread α guidOf info wantsInfo, nofun⟩
    | true => exact ⟨rfl, nofun⟩
  | notify readFails loanFails =>
    by_cases notifies : info.topicReader.notifies = true
    · cases there : info.callback with
      | none =>
        simp only [SubscriberInfo.after, notifies, if_true, SubscriberInfo.onDataAvailable, there]
        exact ⟨rfl, nofun⟩
      | some callback =>
        have failed : readFails = true := by
          by_contra reads
          exact spares ⟨notifies, by rw [there]; rfl, Bool.eq_false_iff.mpr reads⟩
        subst failed
        simp only [SubscriberInfo.after, notifies, if_true, SubscriberInfo.onDataAvailable, there]
        refine ⟨rfl, ?_⟩
        rw [List.forall_mem_singleton]
        exact Int.le_refl 0
    · simp only [SubscriberInfo.after, notifies]
      exact ⟨rfl, nofun⟩
  | setCallback callback userData readFails loanFails rc =>
    cases callback with
    | none => exact ⟨setListener_unread rc, nofun⟩
    | some callback =>
      have failed : readFails = true := by
        by_contra reads
        exact spares ⟨rfl, Bool.eq_false_iff.mpr reads⟩
      subst failed
      exact ⟨setListener_unread rc, nofun⟩

/-- A step keeps all messages exactly if none is there when it counts. -/
theorem Ledger.Kept.step_iff (kept : l.Kept guidOf) :
    (l.step guidOf step).Kept guidOf ↔ l.Harmless step := by
  unfold Ledger.Kept at kept ⊢
  rw [SubscriberInfo.retrievable_eq] at kept ⊢
  by_cases counts : l.info.Counts step
  · have emptied : (l.step guidOf step).info.unread = [] := (after_of_counts counts).1
    have same : (l.step guidOf step).received = l.received ∧
        (l.step guidOf step).returned = l.returned := by
      cases step with
      | notify readFails loanFails => exact ⟨rfl, rfl⟩
      | setCallback callback userData readFails loanFails rc => exact ⟨rfl, rfl⟩
      | _ => exact counts.elim
    rw [emptied, same.1, same.2, kept, messages_nil, List.append_right_inj]
    exact ⟨fun none_left _ => none_left, fun harmless => harmless counts⟩
  · refine iff_of_true ?_ fun counts' => absurd counts' counts
    have left : (l.step guidOf step).info.unread = remaining l.info.unread step :=
      (after_of_not_counts counts).1
    rw [left]
    cases step with
    | arrive sample =>
      show messages (l.received ++ [sample]) = l.returned ++ messages (l.info.unread ++ [sample])
      rw [messages_append, messages_append, kept, List.append_assoc]
    | take fails wantsInfo =>
      show messages l.received =
        l.returned ++ (take guidOf fails wantsInfo l.info).2.message.toList ++ _
      cases fails with
      | true => simpa [take, Took.nothing, remaining] using kept
      | false =>
        rw [take_message, List.append_assoc, kept, ← messages_append]
        cases l.info.unread <;> rfl
    | notify readFails loanFails => exact kept
    | setCallback callback userData readFails loanFails rc => exact kept

/-- A step tells of no sample that cannot be taken exactly if no sample is there when it counts. -/
theorem takeable_iff : l.Takeable guidOf step ↔ l.Idle step := by
  unfold Ledger.Takeable Ledger.Idle
  by_cases counts : l.info.Counts step
  · obtain ⟨emptied, told⟩ := @after_of_counts α guidOf l.info step counts
    have none_left : (l.step guidOf step).info.unread = [] := emptied
    rw [none_left]
    exact told.trans ⟨fun idle _ => idle, fun idle => idle counts⟩
  · refine iff_of_true (fun call mem => ?_) fun counts' => absurd counts' counts
    exact Int.le_trans ((after_of_not_counts counts).2 call mem) (Int.natCast_nonneg _)

end Run

/-- **When counting hides no messages.** In every run of a subscription, what was handed out and
what can still be taken is throughout what was received, exactly when no message is there whenever
messages are counted. Moreover, every sample that a callback is told of can be taken, exactly when
there is no sample at all. -/
theorem kept_iff_harmless (guidOf : Nat → Option Gid) (steps : List (Step α)) :
    (Always (fun before => (Ledger.after guidOf before).Kept guidOf) steps ↔
        Each (fun before step => (Ledger.after guidOf before).Harmless step) steps) ∧
      (Always (fun before => (Ledger.after guidOf before).Kept guidOf) steps ∧
          Each (fun before step => (Ledger.after guidOf before).Takeable guidOf step) steps ↔
        Each (fun before step => (Ledger.after guidOf before).Idle step) steps) := by
  have kept : Always (fun before => (Ledger.after guidOf before).Kept guidOf) steps ↔
      Each (fun before step => (Ledger.after guidOf before).Harmless step) steps := by
    refine always_iff_each (I := fun _ => True) trivial rfl fun before step _ _ kept => ?_
    refine ⟨fun _ => trivial, ?_⟩
    have same :
        Ledger.after guidOf (before ++ [step]) = (Ledger.after guidOf before).step guidOf step :=
      run_concat
    rw [same]
    exact kept.step_iff
  refine ⟨kept, ?_⟩
  rw [kept]
  constructor
  · rintro ⟨-, takeable⟩ before step happens
    exact takeable_iff.mp (takeable before step happens)
  · intro idle
    refine ⟨fun before step happens counts => ?_, fun before step happens => ?_⟩
    · rw [idle before step happens counts]
      rfl
    · exact takeable_iff.mpr (idle before step happens)

/-- A message. -/
def hello : TopicSample String where
  message := "hello"
  info := { SampleInfoEx.zero with validData := true }
  publicationHandle := 1

/-- A message arrives at a subscription with a callback, which is told of it. -/
def helloSteps : List (Step String) :=
  [.setCallback (some 1) 0 false false .ok, .arrive hello, .notify false false]

/-- Its callback was told of one message, and no take gets it. -/
theorem hello_hidden :
    ¬ (Ledger.after (fun _ => none) helloSteps).Kept (fun _ => none) ∧
      ((Ledger.after (fun _ => none) (helloSteps.take 2)).info.after (fun _ => none)
        (.notify false false)).2 = [{ callback := 1, userData := 0, count := 1 }] ∧
      (rmwTake (fun _ => none) false
        (Ledger.after (fun _ => none) helloSteps).info).2.taken = false := by
  refine ⟨?_, rfl, rfl⟩
  unfold Ledger.Kept
  decide

end Subscription
