import Mathlib.Logic.Function.Basic
import RmwGurumdds.Exec.Runs
import RmwGurumdds.Subscription.Unread
import RmwGurumdds.Topics.Publishing

/-!
# From publishers to subscriptions

Publishers and subscriptions talk through DDS, which may delay, reorder, lose and repeat samples. A
publisher counts its calls, and each sample carries the number of the call that wrote it. What a
subscription is told of a message it takes, the gid of the writer and the number, names the call
that published it, and the message is what that call wrote (`messages_traced`). A gid is missing if
DDS does not know the writer any more.

A call that fails counts as well. So where DDS keeps the order of a writer, which says that copies
of later calls arrive later, the numbers of its messages increase at every subscription
(`numbers_increase`), and a gap says how many calls there were in between.
-/

namespace Topics

open Wire Rmw Exec Store Subscription
open Events (Callback UserData Call)

/-! ## The system -/

/-- The gids of the publishers' writers, and the handles under which each reader knows them. -/
structure Domain (ι κ : Type) where
  gid : ι → Gid
  handle : κ → ι → Nat

/-- The publishers, what became of each of their calls, the subscriptions, the samples that arrived
at their readers, and those that were taken out, with how the call that did so ended. -/
structure System (ι κ : Type) where
  publisher : ι → PublisherInfo
  published : ι → List (Option Sample)
  subscription : κ → SubscriberInfo (List Byte)
  arrived : κ → List (TopicSample (List Byte))
  taken : κ → List (TopicSample (List Byte) × Took (List Byte))

/-- A call of a publisher, or something that happens to a subscription. `guidOf` is what DDS then
knows of the writers. -/
inductive Action (ι κ : Type) where
  | publish (i : ι) (now : DdsTime) (code : String) (written : Option (List Byte))
  | publishSerialized (i : ι) (now : DdsTime) (code : String) (written : Option (List Byte))
  | subscription (r : κ) (guidOf : Nat → Option Gid) (step : Step (List Byte))

/-- The samples that arrive in a step. -/
def arrivals {α : Type} : Step α → List (TopicSample α)
  | .arrive sample => [sample]
  | _ => []

/-- The sample that a step takes out of a reader, with how the call ends. -/
def takenBy {α : Type} (guidOf : Nat → Option Gid) (info : SubscriberInfo α) :
    Step α → List (TopicSample α × Took α)
  | .take false wantsInfo => info.topicReader.takeNextSample.1.toList.map fun sample =>
      (sample, (Subscription.take guidOf false wantsInfo info).2)
  | _ => []

section System

variable {ι κ : Type} (d : Domain ι κ)

/-- The publishers and the subscriptions are there, and nothing has been published. -/
def System.start : System ι κ where
  publisher i := PublisherInfo.create (d.gid i)
  published _ := []
  subscription _ := SubscriberInfo.create
  arrived _ := []
  taken _ := []

variable [DecidableEq ι] [DecidableEq κ]

/-- A publisher's call. -/
def System.call (s : System ι κ) (i : ι) (call : PublisherInfo × Service.Sent) : System ι κ :=
  { s with
    publisher := Function.update s.publisher i call.1
    published := Function.update s.published i (s.published i ++ [call.2.sample]) }

/-- One action. -/
def System.step (s : System ι κ) : Action ι κ → System ι κ
  | .publish i now code written => s.call i (rmwPublish (s.publisher i) now code written)
  | .publishSerialized i now code written =>
    s.call i (rmwPublishSerializedMessage (s.publisher i) now code written)
  | .subscription r guidOf step =>
    { s with
      subscription := Function.update s.subscription r ((s.subscription r).after guidOf step).1
      arrived := Function.update s.arrived r (s.arrived r ++ arrivals step)
      taken := Function.update s.taken r
        (s.taken r ++ takenBy guidOf (s.subscription r) step) }

/-- The system after some actions. -/
def System.after (actions : List (Action ι κ)) : System ι κ :=
  run System.step (System.start d) actions

omit [DecidableEq ι] [DecidableEq κ]

/-- The sample at a reader is a copy of what the publisher `i` wrote in its call `k`, counted from
zero. -/
structure System.Copy (s : System ι κ) (r : κ) (sample : TopicSample (List Byte)) (i : ι) (k : Nat)
    (w : Sample) : Prop where
  wrote : (s.published i)[k]? = some (some w)
  message : sample.message = w.payload
  seq : sample.info.seq = w.info.seq
  sourceTimestamp : sample.info.sourceTimestamp = w.info.sourceTimestamp
  handle : sample.publicationHandle = d.handle r i

/-- DDS delivers copies of what was written, and tells the gid of a writer or nothing. -/
def System.Admits (s : System ι κ) : Action ι κ → Prop
  | .subscription r guidOf step =>
    (∀ sample ∈ arrivals step, sample.info.validData = true → ∃ i k w, s.Copy d r sample i k w) ∧
      ∀ i, guidOf (d.handle r i) = some (d.gid i) ∨ guidOf (d.handle r i) = none
  | _ => True

end System

/-! ## One subscription -/

section Readers

variable {α : Type} {guidOf : Nat → Option Gid} {info : SubscriberInfo α} {step : Step α}

variable (guidOf info step) in
/-- **What a step takes out of a reader, and what it leaves there unread**, are samples that were
unread before or arrive in it, in their order. -/
theorem takenBy_sublist :
    ((takenBy guidOf info step).map Prod.fst ++ (info.after guidOf step).1.unread).Sublist
      (info.unread ++ arrivals step) := by
  by_cases counts : info.Counts step
  · rw [(after_of_counts counts).1, List.append_nil]
    cases step with
    | arrive sample => exact counts.elim
    | take fails wantsInfo => exact counts.elim
    | notify readFails loanFails => exact List.nil_sublist _
    | setCallback callback userData readFails loanFails rc => exact List.nil_sublist _
  · rw [(after_of_not_counts counts).1]
    cases step with
    | arrive sample => exact List.Sublist.refl _
    | notify readFails loanFails => exact List.sublist_append_left _ _
    | setCallback callback userData readFails loanFails rc => exact List.sublist_append_left _ _
    | take fails wantsInfo =>
      cases fails with
      | true => exact List.sublist_append_left _ _
      | false =>
        have first : info.topicReader.takeNextSample.1 = info.unread.head? := Marked.pop_fst _
        simp only [takenBy, arrivals, remaining, first, List.append_nil]
        cases info.unread with
        | nil => exact List.Sublist.refl _
        | cons sample rest => exact List.Sublist.refl _

/-- A sample that is taken out is what the call that takes it out answers with. -/
theorem mem_takenBy {p : TopicSample α × Took α} (mem : p ∈ takenBy guidOf info step) :
    ∃ wantsInfo, p.2 = tookSample guidOf wantsInfo (some p.1) := by
  cases step with
  | take fails wantsInfo =>
    cases fails with
    | true => cases mem
    | false =>
      obtain ⟨sample, first, rfl⟩ := List.mem_map.mp mem
      refine ⟨wantsInfo, ?_⟩
      have first : info.topicReader.takeNextSample.1 = some sample := Option.mem_toList.mp first
      rw [← first]
      rfl
  | arrive sample => cases mem
  | notify readFails loanFails => cases mem
  | setCallback callback userData readFails loanFails rc => cases mem

end Readers

/-! ## What every action keeps -/

section Runs

variable {ι κ : Type} {d : Domain ι κ} {s : System ι κ}

/-- **What every action keeps.** A publisher numbers its calls, its samples carry the numbers, the
samples at a reader are copies, they are taken out in the order they came, and a call that takes
one out answers with it. -/
structure System.Sound (d : Domain ι κ) (s : System ι κ) : Prop where
  publisher : ∀ i, s.publisher i =
    { sequenceNumber := BitVec.ofNat 64 (s.published i).length, publisherGid := d.gid i }
  numbered : ∀ i k w, (s.published i)[k]? = some (some w) →
    ddsSnToRosSn w.info.seq = BitVec.ofNat 64 (k + 1)
  copies : ∀ r, ∀ sample ∈ s.arrived r, sample.info.validData = true →
    ∃ i k w, s.Copy d r sample i k w
  order : ∀ r, ((s.taken r).map Prod.fst ++ (s.subscription r).unread).Sublist (s.arrived r)
  answers : ∀ r, ∀ p ∈ s.taken r, ∃ guidOf wantsInfo,
    p.2 = tookSample guidOf wantsInfo (some p.1) ∧
      ∀ i, guidOf (d.handle r i) = some (d.gid i) ∨ guidOf (d.handle r i) = none

theorem System.start_sound : (System.start d).Sound d where
  publisher _ := rfl
  numbered i k w wrote := by simp [System.start] at wrote
  copies r sample mem := absurd mem List.not_mem_nil
  order r := List.Sublist.refl _
  answers r p mem := absurd mem List.not_mem_nil

/-- The number of a publisher that has counted on. -/
theorem System.Sound.next (sound : s.Sound d) (i : ι) :
    (s.publisher i).next =
      { sequenceNumber := BitVec.ofNat 64 ((s.published i).length + 1), publisherGid := d.gid i } :=
      by
  rw [sound.publisher i, PublisherInfo.next]
  congr 1
  exact (BitVec.ofNat_add ..).symm

variable [DecidableEq ι]

section Calls

variable {i j : ι} {call : PublisherInfo × Service.Sent}

theorem System.call_publisher : (s.call i call).publisher i = call.1 := Function.update_self ..

theorem System.call_published :
    (s.call i call).published i = s.published i ++ [call.2.sample] := Function.update_self ..

theorem System.call_publisher_of_ne (other : j ≠ i) :
    (s.call i call).publisher j = s.publisher j := Function.update_of_ne other ..

theorem System.call_published_of_ne (other : j ≠ i) :
    (s.call i call).published j = s.published j := Function.update_of_ne other ..

/-- What a call wrote stays written. -/
theorem System.call_wrote {k : Nat} {x : Option Sample}
    (wrote : (s.published j)[k]? = some x) : ((s.call i call).published j)[k]? = some x := by
  obtain ⟨short, -⟩ := List.getElem?_eq_some_iff.mp wrote
  rcases eq_or_ne j i with rfl | other
  · rw [System.call_published, List.getElem?_append_left short]
    exact wrote
  · rw [System.call_published_of_ne other]
    exact wrote

end Calls

/-- Both ways to publish count on, and write a sample with the new number or none. -/
theorem System.Sound.call (sound : s.Sound d) (i : ι) (now : DdsTime) (failure : String)
    (written : Option (List Byte)) :
    (s.call i ((s.publisher i).next,
      Service.write failure ((s.publisher i).next.describe now) written)).Sound d := by
  have next := sound.next i
  refine ⟨fun j => ?_, fun j k w wrote => ?_, fun r sample mem valid => ?_, sound.order,
    sound.answers⟩
  · rcases eq_or_ne j i with rfl | other
    · rw [System.call_publisher, System.call_published, List.length_append, next]
      rfl
    · rw [System.call_publisher_of_ne other, System.call_published_of_ne other]
      exact sound.publisher j
  · rcases eq_or_ne j i with rfl | other
    · rw [System.call_published] at wrote
      rcases Nat.lt_or_ge k (s.published j).length with before | now_
      · rw [List.getElem?_append_left before] at wrote
        exact sound.numbered j k w wrote
      · -- The last call is the one that wrote it.
        rw [List.getElem?_append_right now_] at wrote
        obtain ⟨last, sample⟩ := List.getElem?_eq_some_iff.mp wrote
        obtain rfl : k = (s.published j).length := by
          rw [List.length_singleton] at last
          omega
        cases written with
        | none => simp [Service.write] at sample
        | some payload =>
          obtain rfl : _ = w := by simpa [Service.write] using sample
          rw [PublisherInfo.describe, ddsSnToRosSn_rosSnToDdsSn, next]
    · rw [System.call_published_of_ne other] at wrote
      exact sound.numbered j k w wrote
  · obtain ⟨j, k, w, copy⟩ := sound.copies r sample mem valid
    exact ⟨j, k, w, { copy with wrote := System.call_wrote copy.wrote }⟩

variable [DecidableEq κ]

/-- A step of a subscription leaves the publishers and the other subscriptions alone. -/
theorem System.Sound.step_subscription (sound : s.Sound d) {r : κ} {guidOf : Nat → Option Gid}
    {step : Step (List Byte)}
    (copies : ∀ sample ∈ arrivals step, sample.info.validData = true →
      ∃ i k w, s.Copy d r sample i k w)
    (tells : ∀ i, guidOf (d.handle r i) = some (d.gid i) ∨ guidOf (d.handle r i) = none) :
    (s.step (.subscription r guidOf step)).Sound d := by
  refine ⟨sound.publisher, sound.numbered, fun q sample mem valid => ?_, fun q => ?_,
    fun q p mem => ?_⟩
  · have copy : ∃ i k w, s.Copy d q sample i k w := by
      rcases eq_or_ne q r with rfl | other
      · simp only [System.step, Function.update_self] at mem
        rcases List.mem_append.mp mem with old | new
        · exact sound.copies q sample old valid
        · exact copies sample new valid
      · simp only [System.step, Function.update_of_ne other] at mem
        exact sound.copies q sample mem valid
    obtain ⟨i, k, w, copy⟩ := copy
    exact ⟨i, k, w, { copy with }⟩
  · rcases eq_or_ne q r with rfl | other
    · simp only [System.step, Function.update_self, List.map_append, List.append_assoc]
      have now := takenBy_sublist guidOf (s.subscription q) step
      have whole := (List.Sublist.refl ((s.taken q).map Prod.fst)).append now
      rw [← List.append_assoc (List.map _ _) (s.subscription q).unread] at whole
      exact whole.trans ((sound.order q).append (List.Sublist.refl _))
    · simp only [System.step, Function.update_of_ne other]
      exact sound.order q
  · rcases eq_or_ne q r with rfl | other
    · simp only [System.step, Function.update_self] at mem
      rcases List.mem_append.mp mem with old | new
      · exact sound.answers q p old
      · obtain ⟨wantsInfo, answer⟩ := mem_takenBy new
        exact ⟨guidOf, wantsInfo, answer, tells⟩
    · simp only [System.step, Function.update_of_ne other] at mem
      exact sound.answers q p mem

/-- **An action** keeps all that. -/
theorem System.Sound.step (sound : s.Sound d) {a : Action ι κ} (admits : s.Admits d a) :
    (s.step a).Sound d := by
  cases a with
  | publish i now code written => exact sound.call i now _ written
  | publishSerialized i now code written => exact sound.call i now _ written
  | subscription r guidOf step => exact sound.step_subscription admits.1 admits.2

variable {actions : List (Action ι κ)}

/-- After every run the system is sound. -/
theorem System.after_sound
    (admits : Each (fun before a => (System.after d before).Admits d a) actions) :
    (System.after d actions).Sound d := by
  refine (always_of_each (P := fun before => (System.after d before).Sound d) System.start_sound
    admits ?_).last
  intro before a sound admitted
  rw [System.after, run_concat]
  exact sound.step admitted

/-! ## Messages -/

/-- A `Took` that delivers comes from a sample with valid data. -/
theorem tookSample_taken {α : Type} {guidOf : Nat → Option Gid} {wantsInfo : Bool}
    {sample : TopicSample α} (taken : (tookSample guidOf wantsInfo (some sample)).taken = true) :
    sample.info.validData = true ∧
      (tookSample guidOf wantsInfo (some sample)).message = some sample.message := by
  by_cases valid : sample.info.validData = true
  · simp [tookSample, valid]
  · simp [tookSample, valid, Took.nothing] at taken

/-- What is told of a message is the info of its sample. -/
theorem tookSample_messageInfo {α : Type} {guidOf : Nat → Option Gid} {wantsInfo : Bool}
    {sample : TopicSample α} {info : MessageInfo}
    (told : (tookSample guidOf wantsInfo (some sample)).messageInfo = some info) :
    sample.info.validData = true ∧ info = sample.messageInfo guidOf := by
  by_cases valid : sample.info.validData = true
  · simp only [tookSample, valid, if_true, Option.ite_none_right_eq_some, Option.some.injEq] at told
    exact ⟨valid, told.2.symm⟩
  · simp [tookSample, valid, Took.nothing] at told

/-- The gid that is told when DDS does not know the writer. -/
def unknownGid : Gid := Vector.replicate 16 0

omit [DecidableEq ι] [DecidableEq κ] in
/-- The info of a copy names the call that wrote it. -/
theorem System.Copy.info (sound : s.Sound d) {r : κ} {sample : TopicSample (List Byte)} {i : ι}
    {k : Nat} {w : Sample} (copy : s.Copy d r sample i k w) {guidOf : Nat → Option Gid}
    (tells : ∀ i, guidOf (d.handle r i) = some (d.gid i) ∨ guidOf (d.handle r i) = none) :
    (sample.messageInfo guidOf).sourceTimestamp = w.info.sourceTimestamp.toNanoseconds ∧
      (sample.messageInfo guidOf).publicationSequenceNumber = BitVec.ofNat 64 (k + 1) ∧
      ((sample.messageInfo guidOf).publisherGid = d.gid i ∨
        (sample.messageInfo guidOf).publisherGid = unknownGid) := by
  refine ⟨congrArg DdsTime.toNanoseconds copy.sourceTimestamp, ?_, ?_⟩
  · rw [TopicSample.messageInfo, copy.seq]
    exact sound.numbered i k w copy.wrote
  · rw [TopicSample.messageInfo, copy.handle]
    rcases tells i with known | unknown
    · exact .inl (by rw [known, Option.getD_some])
    · exact .inr (by rw [unknown, Option.getD_none, unknownGid])

/-- **Messages are traced.** A message that a subscription takes is what one of the calls of a
publisher wrote. If it is told of the writer, the gid and the number it is told name that call and
no other one. -/
theorem messages_traced (distinct : Function.Injective d.gid)
    (admits : Each (fun before a => (System.after d before).Admits d a) actions)
    (small : ∀ i, ((System.after d actions).published i).length < 2 ^ 63) {r : κ}
    {p : TopicSample (List Byte) × Took (List Byte)}
    (mem : p ∈ (System.after d actions).taken r) (taken : p.2.taken = true) :
    ∃ i k w, ((System.after d actions).published i)[k]? = some (some w) ∧
      p.2.message = some w.payload ∧ ∀ info, p.2.messageInfo = some info →
        info.sourceTimestamp = w.info.sourceTimestamp.toNanoseconds ∧
        info.publicationSequenceNumber.toNat = k + 1 ∧
        (info.publisherGid = unknownGid ∨ info.publisherGid = d.gid i ∧
          ∀ j l, info.publisherGid = d.gid j → info.publicationSequenceNumber.toNat = l + 1 →
            j = i ∧ l = k) := by
  have sound := System.after_sound admits
  obtain ⟨guidOf, wantsInfo, answer, tells⟩ := sound.answers r p mem
  rw [answer] at taken ⊢
  obtain ⟨valid, message⟩ := tookSample_taken taken
  have came : p.1 ∈ (System.after d actions).arrived r :=
    (sound.order r).subset (List.mem_append_left _ (List.mem_map_of_mem mem))
  obtain ⟨i, k, w, copy⟩ := sound.copies r p.1 came valid
  refine ⟨i, k, w, copy.wrote, by rw [message, copy.message], fun info told => ?_⟩
  obtain ⟨-, rfl⟩ := tookSample_messageInfo told
  obtain ⟨time, number, gid⟩ := copy.info sound tells
  have call : k < ((System.after d actions).published i).length :=
    (List.getElem?_eq_some_iff.mp copy.wrote).1
  have count := small i
  have number : (p.1.messageInfo guidOf).publicationSequenceNumber.toNat = k + 1 := by
    rw [number, BitVec.toNat_ofNat, Nat.mod_eq_of_lt (by omega)]
  refine ⟨time, number, gid.symm.imp_right fun known => ⟨known, fun j l same numbered => ?_⟩⟩
  exact ⟨distinct (same.symm.trans known), by omega⟩

/-! ## Order -/

/-- DDS keeps the order of each writer, and delivers a sample once: what arrives at a reader are
copies of what calls wrote, and of one writer the later ones are of later calls. -/
def KeepsOrder (d : Domain ι κ) (s : System ι κ) : Prop :=
  ∀ r, ∃ calls : List (ι × Nat),
    List.Forall₂ (fun sample call => ∃ w, s.Copy d r sample call.1 call.2 w)
      ((s.arrived r).filter fun sample => sample.info.validData) calls ∧
    calls.Pairwise fun earlier later => earlier.1 = later.1 → earlier.2 < later.2

/-- What is known of any two calls is known of their samples. -/
theorem pairwise_of_forall₂ {α β : Type} {P : α → β → Prop} {R : β → β → Prop} {as : List α}
    {bs : List β} (each : List.Forall₂ P as bs) (sorted : bs.Pairwise R) :
    as.Pairwise fun a a' => ∃ b b', P a b ∧ P a' b' ∧ R b b' := by
  induction each with
  | nil => exact .nil
  | @cons a b as bs first rest ih =>
    obtain ⟨before, sorted⟩ := List.pairwise_cons.mp sorted
    refine .cons (fun a' mem => ?_) (ih sorted)
    obtain ⟨i, inside, rfl⟩ := List.getElem_of_mem mem
    have inside' := rest.length_eq ▸ inside
    exact ⟨b, bs[i], first, List.forall₂_iff_get.mp rest |>.2 i inside inside',
      before _ (List.getElem_mem inside')⟩

/-- **Numbers increase.** Where DDS keeps the order of each writer, a subscription is told larger
and larger numbers of each writer it is told of. -/
theorem numbers_increase (distinct : Function.Injective d.gid)
    (admits : Each (fun before a => (System.after d before).Admits d a) actions)
    (small : ∀ i, ((System.after d actions).published i).length < 2 ^ 63)
    (ordered : KeepsOrder d (System.after d actions)) (r : κ) :
    ((System.after d actions).taken r).Pairwise fun earlier later => ∀ info info',
      earlier.2.messageInfo = some info → later.2.messageInfo = some info' →
      info.publisherGid = info'.publisherGid → info.publisherGid ≠ unknownGid →
      info.publicationSequenceNumber.toNat < info'.publicationSequenceNumber.toNat := by
  have sound := System.after_sound admits
  have taken := (List.sublist_append_left _ _).trans (sound.order r)
  obtain ⟨calls, copies, inOrder⟩ := ordered r
  have arrived := List.pairwise_filter.mp (pairwise_of_forall₂ copies inOrder)
  have sorted := List.pairwise_map.mp (arrived.sublist taken)
  refine sorted.imp_of_mem fun {p q} memP memQ wrote info info' told told' same known => ?_
  obtain ⟨guidOf, wantsInfo, answer, tells⟩ := sound.answers r p memP
  obtain ⟨guidOf', wantsInfo', answer', tells'⟩ := sound.answers r q memQ
  rw [answer] at told
  rw [answer'] at told'
  obtain ⟨valid, rfl⟩ := tookSample_messageInfo told
  obtain ⟨valid', rfl⟩ := tookSample_messageInfo told'
  obtain ⟨⟨i, k⟩, ⟨j, l⟩, ⟨w, copy⟩, ⟨w', copy'⟩, later⟩ := wrote valid valid'
  obtain ⟨-, number, gid⟩ := copy.info sound tells
  obtain ⟨-, number', gid'⟩ := copy'.info sound tells'
  -- Both are told of their writer, and it is the same one.
  have mine := gid.resolve_right known
  have yours := gid'.resolve_right (same ▸ known)
  obtain rfl : i = j := distinct (mine.symm.trans (same.trans yours))
  have before : k < l := later rfl
  have inside : l < ((System.after d actions).published i).length :=
    (List.getElem?_eq_some_iff.mp copy'.wrote).1
  have count := small i
  rw [number, number', BitVec.toNat_ofNat, BitVec.toNat_ofNat]
  dsimp only
  omega

end Runs

/-! ## Samples -/

/-- One publisher and one subscription. -/
def sampleDomain : Domain Unit Unit where
  gid _ := Vector.replicate 16 7
  handle _ _ := 1

/-- What arrives of the `n`-th call, with these bytes. -/
def sampleArrival (n : Nat) (bytes : List Byte) : TopicSample (List Byte) where
  message := bytes
  info := { SampleInfoEx.zero with validData := true, seq := rosSnToDdsSn (BitVec.ofNat 64 n) }
  publicationHandle := 1

/-- Three messages are published, of which one does not go out; the others arrive and are taken. -/
def sampleActions : List (Action Unit Unit) :=
  let guidOf := fun _ => some (Vector.replicate 16 7)
  [.publish () { sec := 0, nanosec := 0 } "ok, 0" (some [1]),
    .publishSerialized () { sec := 0, nanosec := 0 } "timeout, 10" none,
    .publishSerialized () { sec := 0, nanosec := 0 } "ok, 0" (some [3]),
    .subscription () guidOf (.arrive (sampleArrival 1 [1])),
    .subscription () guidOf (.arrive (sampleArrival 3 [3])),
    .subscription () guidOf (.take false true),
    .subscription () guidOf (.take false true)]

theorem sampleActions_admitted :
    Each (fun before a => (System.after sampleDomain before).Admits sampleDomain a)
      sampleActions := by
  show Each _ ((((((([] ++ [_]) ++ [_]) ++ [_]) ++ [_]) ++ [_]) ++ [_]) ++ [_])
  simp only [each_concat]
  refine ⟨⟨⟨⟨⟨⟨⟨each_nil, trivial⟩, trivial⟩, trivial⟩, ?_, fun _ => .inl rfl⟩,
    ?_, fun _ => .inl rfl⟩, ?_, fun _ => .inl rfl⟩, ?_, fun _ => .inl rfl⟩
  · intro sample mem valid
    obtain rfl := List.mem_singleton.mp mem
    exact ⟨(), 0, _, rfl, rfl, rfl, rfl, rfl⟩
  · intro sample mem valid
    obtain rfl := List.mem_singleton.mp mem
    exact ⟨(), 2, _, rfl, rfl, rfl, rfl, rfl⟩
  · exact fun sample mem => absurd mem List.not_mem_nil
  · exact fun sample mem => absurd mem List.not_mem_nil

theorem sampleActions_keepsOrder :
    KeepsOrder sampleDomain (System.after sampleDomain sampleActions) :=
  fun _ => ⟨[((), 0), ((), 2)],
    .cons ⟨_, rfl, rfl, rfl, rfl, rfl⟩ (.cons ⟨_, rfl, rfl, rfl, rfl, rfl⟩ .nil), by decide⟩

theorem messages_traced_sample : ∃ i k w,
    ((System.after sampleDomain sampleActions).published i)[k]? = some (some w) ∧
      some [3] = some w.payload ∧ ∀ info : MessageInfo,
        some ((sampleArrival 3 [3]).messageInfo fun _ => some (Vector.replicate 16 7)) = some info →
        info.sourceTimestamp = w.info.sourceTimestamp.toNanoseconds ∧
        info.publicationSequenceNumber.toNat = k + 1 ∧
        (info.publisherGid = unknownGid ∨ info.publisherGid = sampleDomain.gid i ∧
          ∀ j l, info.publisherGid = sampleDomain.gid j →
            info.publicationSequenceNumber.toNat = l + 1 → j = i ∧ l = k) := by
  have taken : (sampleArrival 3 [3], tookSample (fun _ => some (Vector.replicate 16 7)) true
      (some (sampleArrival 3 [3]))) ∈ (System.after sampleDomain sampleActions).taken () :=
    List.mem_cons_of_mem _ (List.mem_singleton_self _)
  exact messages_traced (fun _ _ _ => rfl) sampleActions_admitted
    (fun _ => show 3 < 2 ^ 63 by decide) taken rfl

theorem numbers_increase_sample :
    ((System.after sampleDomain sampleActions).taken ()).Pairwise fun earlier later =>
      ∀ info info', earlier.2.messageInfo = some info → later.2.messageInfo = some info' →
        info.publisherGid = info'.publisherGid → info.publisherGid ≠ unknownGid →
        info.publicationSequenceNumber.toNat < info'.publicationSequenceNumber.toNat :=
  numbers_increase (fun _ _ _ => rfl) sampleActions_admitted (fun _ => show 3 < 2 ^ 63 by decide)
    sampleActions_keepsOrder ()

end Topics
