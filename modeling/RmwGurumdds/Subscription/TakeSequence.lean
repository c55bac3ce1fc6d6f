import RmwGurumdds.Subscription.SubscriberInfo

/-!
# Taking a sequence

`rmw_take_sequence` fills two sequences of the caller with the messages of a subscription and their
infos. It asks its reader for a batch of raw samples and goes through it: a sample with valid data
is decoded into the next entry, the others are dropped. It asks again until it has as many messages
as the caller wants, or the reader has none.

Each time it asks for as many samples as the caller wants in all, however many it already has. So a
later batch can be too long for what is left, and then entries behind the end are written
(`take_sequence_within_iff`). And unlike `rmw_take_with_info` it leaves two fields of an info as
they were (`batch_take_eq_iff`).
-/

namespace Subscription

open Rmw

/-! ## The reader -/

/-- A sample as a raw take hands it out, with its bytes if there are any. -/
abbrev RawSample (ρ : Type) := TopicSample (Option ρ)

/-- What goes on in a reader around one call of `dds_DataReader_raw_take`: the samples that come in
before it, whether it fails, and how many samples it would like to hand out. -/
structure Round (ρ : Type) where
  arrivals : List (RawSample ρ)
  fails : Bool
  length : Nat

section Reader

variable {ρ α : Type}

/-- `dds_DataReader_raw_take` of samples in any state: from one up to `maxSamples` while there are
any. -/
def rawTake (maxSamples : Nat) (round : Round ρ) (queue : List (RawSample ρ)) :
    DdsReturnCode × List (RawSample ρ) × List (RawSample ρ) :=
  let queue := queue ++ round.arrivals
  if round.fails then (.error, [], queue)
  else if queue.isEmpty then (.noData, [], queue)
  else
    let length := max 1 (min round.length (min maxSamples queue.length))
    (.ok, queue.take length, queue.drop length)

/-- The samples with valid data. -/
def validSamples (samples : List (TopicSample α)) : List (TopicSample α) :=
  samples.filter fun sample => sample.info.validData

@[simp] theorem validSamples_nil : validSamples ([] : List (TopicSample α)) = [] := rfl

@[simp] theorem validSamples_append (samples rest : List (TopicSample α)) :
    validSamples (samples ++ rest) = validSamples samples ++ validSamples rest :=
  List.filter_append ..

/-- The message of a sample. -/
def TopicSample.decoded (decode : ρ → Option α) (sample : RawSample ρ) : Option α :=
  sample.message.bind decode

end Reader

/-! ## The function -/

/-- `rmw_message_sequence_t` and `rmw_message_info_sequence_t`. Memory goes on behind their ends. -/
structure Sequences (α : Type) where
  message : Nat → α
  messageSize : Nat
  messageCapacity : Nat
  messageInfo : Nat → MessageInfo
  messageInfoSize : Nat
  messageInfoCapacity : Nat

/-- What a call works on: the sequences, how many messages it has taken, and the reader. The entries
it has written to and the samples it has removed from the reader are noted besides. -/
structure Taking (ρ α : Type) extends Sequences α where
  taken : Nat
  errorMsg : Option String
  queue : List (RawSample ρ)
  written : List Nat
  removed : List (RawSample ρ)

/-- What `rmw_take_sequence` writes to an info. The sequence numbers stay. -/
def MessageInfo.fill {α : Type} (guidOf : Nat → Option Gid) (sample : TopicSample α)
    (messageInfo : MessageInfo) : MessageInfo :=
  { messageInfo with
    sourceTimestamp := sample.info.sourceTimestamp.toNanoseconds
    receivedTimestamp := sample.info.receptionTimestamp.toNanoseconds
    publisherGid := (guidOf sample.publicationHandle).getD (Vector.replicate 16 0) }

section Functions

variable {ρ α : Type} (guidOf : Nat → Option Gid) (decode : ρ → Option α)

/-- The next entry is filled with a message and its info. -/
def Taking.put (sample : RawSample ρ) (message : α) (t : Taking ρ α) : Taking ρ α :=
  { t with
    message := Function.update t.message t.taken message
    messageInfo := Function.update t.messageInfo t.taken
      ((t.messageInfo t.taken).fill guidOf sample)
    taken := t.taken + 1
    written := t.written ++ [t.taken] }

/-- The samples of a batch, one after the other: whether none of them failed. -/
def takeBatch : List (RawSample ρ) → Taking ρ α → Bool × Taking ρ α
  | [], t => (true, t)
  | sample :: batch, t =>
    if sample.info.validData then
      match sample.message with
      | none => (false, { t with errorMsg := some "failed to get message" })
      | some data =>
        match decode data with
        | none =>
          (false, { t with
            written := t.written ++ [t.taken]
            errorMsg := some "failed to deserialize message" })
        | some message => takeBatch batch (t.put guidOf sample message)
    else takeBatch batch t

/-- The end of a call. -/
def Taking.finish (t : Taking ρ α) : Taking ρ α :=
  { t with messageSize := t.taken, messageInfoSize := t.taken }

/-- The loop, with the rounds to come: how it returns, if they are enough for it to return. -/
def takeLoop (count : Nat) : List (Round ρ) → Taking ρ α → Option RmwRet × Taking ρ α
  | [], t => if t.taken < count then (none, t) else (some .ok, t.finish)
  | round :: rounds, t =>
    if t.taken < count then
      match rawTake count round t.queue with
      | (.noData, _, queue) => (some .ok, { t with queue }.finish)
      | (.ok, batch, queue) =>
        match takeBatch guidOf decode batch { t with queue, removed := t.removed ++ batch } with
        | (true, t) => takeLoop count rounds t
        | (false, t) => (some .error, t)
      | (_, _, queue) => (some .error, { t with queue, errorMsg := some "failed to take data" })
    else (some .ok, t.finish)

/-- The outputs are reset. -/
def Taking.reset (sequences : Sequences α) (queue : List (RawSample ρ)) : Taking ρ α :=
  { sequences with
    messageSize := 0
    messageInfoSize := 0
    taken := 0
    errorMsg := none
    queue
    written := []
    removed := [] }

/-- `rmw_take_sequence`, on a reader that holds `queue`. -/
def rmwTakeSequence (count : Nat) (rounds : List (Round ρ)) (sequences : Sequences α) (taken : Nat)
    (queue : List (RawSample ρ)) : Option RmwRet × Taking ρ α :=
  let t : Taking ρ α :=
    { sequences with taken, errorMsg := none, queue, written := [], removed := [] }
  if count = 0 then
    (some .invalidArgument, { t with errorMsg := some "count cannot be 0" })
  else if t.messageCapacity < count then
    (some .invalidArgument,
      { t with errorMsg := some "message sequence capacity is not sufficient" })
  else if t.messageInfoCapacity < count then
    (some .invalidArgument,
      { t with errorMsg := some "message info sequence capacity is not sufficient" })
  else takeLoop guidOf decode count rounds (Taking.reset sequences queue)

end Functions

/-! ## What is filled in -/

section Filling

variable {ρ α : Type} {guidOf : Nat → Option Gid} {decode : ρ → Option α} {start : Sequences α}
  {handled : List (RawSample ρ)} {t : Taking ρ α}

/-- The entries are those of the samples handled so far, in their order, and one was written for
each of them that is valid. -/
structure Fills (guidOf : Nat → Option Gid) (decode : ρ → Option α) (start : Sequences α)
    (handled : List (RawSample ρ)) (t : Taking ρ α) : Prop where
  taken_eq : t.taken = (validSamples handled).length
  written_eq : t.written = List.range t.taken
  entries : ∀ i sample, (validSamples handled)[i]? = some sample →
    sample.decoded decode = some (t.message i) ∧
      t.messageInfo i = (start.messageInfo i).fill guidOf sample
  others : ∀ i, t.taken ≤ i → t.messageInfo i = start.messageInfo i

theorem Fills.put (fills : Fills guidOf decode start handled t) {sample : RawSample ρ}
    (valid : sample.info.validData = true) {message : α}
    (decoded : sample.decoded decode = some message) :
    Fills guidOf decode start (handled ++ [sample]) (t.put guidOf sample message) := by
  have next : validSamples (handled ++ [sample]) = validSamples handled ++ [sample] := by
    rw [validSamples_append]
    simp [validSamples, valid]
  refine ⟨?_, ?_, fun i other entry => ?_, fun i behind => ?_⟩
  · rw [next, List.length_append, ← fills.taken_eq]
    rfl
  · show t.written ++ [t.taken] = List.range (t.taken + 1)
    rw [List.range_succ, fills.written_eq]
  · rw [next] at entry
    rcases Nat.lt_trichotomy i t.taken with earlier | rfl | later
    · rw [List.getElem?_append_left (by rw [← fills.taken_eq]; exact earlier)] at entry
      have before := fills.entries i other entry
      simpa [Taking.put, Function.update_of_ne earlier.ne] using before
    · rw [fills.taken_eq, List.getElem?_concat_length] at entry
      obtain rfl := Option.some.inj entry
      simp [Taking.put, decoded, fills.others t.taken (Nat.le_refl _)]
    · rw [List.getElem?_eq_none (by simp [← fills.taken_eq]; omega)] at entry
      cases entry
  · have later : t.taken < i := behind
    show Function.update t.messageInfo t.taken _ i = _
    rw [Function.update_of_ne later.ne']
    exact fills.others i later.le

/-- Samples without valid data leave no entry. -/
theorem Fills.skip (fills : Fills guidOf decode start handled t) {sample : RawSample ρ}
    (invalid : ¬ sample.info.validData = true) :
    Fills guidOf decode start (handled ++ [sample]) t := by
  have same : validSamples (handled ++ [sample]) = validSamples handled := by
    rw [validSamples_append]
    simp [validSamples, invalid]
  exact ⟨by rw [same, fills.taken_eq], fills.written_eq, by rw [same]; exact fills.entries,
    fills.others⟩

/-- A batch that decodes is filled in. -/
theorem takeBatch_fills {batch : List (RawSample ρ)}
    (decodes : ∀ sample ∈ batch, sample.info.validData = true →
      (sample.decoded decode).isSome = true)
    (fills : Fills guidOf decode start handled t) :
    ∃ t', takeBatch guidOf decode batch t = (true, t') ∧
      Fills guidOf decode start (handled ++ batch) t' ∧ t'.queue = t.queue ∧
      t'.removed = t.removed := by
  induction batch generalizing handled t with
  | nil => exact ⟨t, rfl, by rwa [List.append_nil], rfl, rfl⟩
  | cons sample batch ih =>
    have rest := fun other mem => decodes other (List.mem_cons_of_mem sample mem)
    rw [List.append_cons]
    by_cases valid : sample.info.validData = true
    · obtain ⟨message, decoded⟩ := Option.isSome_iff_exists.mp
        (decodes sample List.mem_cons_self valid)
      obtain ⟨data, found, result⟩ := Option.bind_eq_some_iff.mp decoded
      obtain ⟨t', run, filled, queue_eq, removed_eq⟩ := ih rest (fills.put valid decoded)
      refine ⟨t', ?_, filled, queue_eq, removed_eq⟩
      rw [takeBatch, if_pos valid, found]
      simpa only [result] using run
    · obtain ⟨t', run, filled, kept⟩ := ih rest (fills.skip valid)
      exact ⟨t', by rwa [takeBatch, if_neg valid], filled, kept⟩

end Filling

/-! ## Batches -/

section Batches

variable {ρ : Type}

/-- The batches that a reader hands out, until it fails or has nothing left. -/
def batches (count : Nat) : List (Round ρ) → List (RawSample ρ) → List (List (RawSample ρ))
  | [], _ => []
  | round :: rounds, queue =>
    match rawTake count round queue with
    | (.ok, batch, queue) => batch :: batches count rounds queue
    | _ => []

/-- As long as the batches so far, on top of `taken` messages, leave something to be wanted, the
next one does not bring more than that. -/
def FitsFrom (count taken : Nat) (bs : List (List (RawSample ρ))) : Prop :=
  ∀ k, taken + (validSamples (bs.take k).flatten).length < count →
    taken + (validSamples (bs.take (k + 1)).flatten).length ≤ count

variable {count taken : Nat} {batch : List (RawSample ρ)} {bs : List (List (RawSample ρ))}

@[simp] theorem fitsFrom_nil : FitsFrom count taken ([] : List (List (RawSample ρ))) := by
  intro k lt
  simpa using lt.le

theorem fitsFrom_of_le (enough : count ≤ taken) : FitsFrom count taken bs := by
  intro k lt
  omega

theorem fitsFrom_cons :
    FitsFrom count taken (batch :: bs) ↔
      (taken < count → taken + (validSamples batch).length ≤ count) ∧
        FitsFrom count (taken + (validSamples batch).length) bs := by
  constructor
  · intro fits
    refine ⟨fun lt => ?_, fun k lt => ?_⟩
    · simpa using fits 0 (by simpa using lt)
    · have next := fits (k + 1)
      simp only [List.take_succ_cons, List.flatten_cons, validSamples_append, List.length_append,
        ← Nat.add_assoc] at next
      exact next lt
  · rintro ⟨first, rest⟩ k lt
    cases k with
    | zero => simpa using first (by simpa using lt)
    | succ k =>
      simp only [List.take_succ_cons, List.flatten_cons, validSamples_append, List.length_append,
        ← Nat.add_assoc] at lt ⊢
      exact rest k lt

/-- The samples that come in while the rounds go on. -/
def arrivals (rounds : List (Round ρ)) : List (RawSample ρ) := (rounds.map Round.arrivals).flatten

/-- What a call of the reader comes to: it fails or has nothing, or hands out what comes first. -/
theorem rawTake_cases (count : Nat) (round : Round ρ) (queue : List (RawSample ρ)) :
    rawTake count round queue = (.error, [], queue ++ round.arrivals) ∨
      rawTake count round queue = (.noData, [], queue ++ round.arrivals) ∨
      ∃ batch rest, rawTake count round queue = (.ok, batch, rest) ∧
        batch ++ rest = queue ++ round.arrivals := by
  unfold rawTake
  dsimp only
  split
  · exact .inl rfl
  · split
    · exact .inr (.inl rfl)
    · exact .inr (.inr ⟨_, _, rfl, List.take_append_drop ..⟩)

end Batches

/-! ## The loop -/

section Loop

variable {ρ α : Type} {guidOf : Nat → Option Gid} {decode : ρ → Option α} {start : Sequences α}
  {count : Nat} {rounds : List (Round ρ)} {t : Taking ρ α}

/-- How the loop ends, for samples that decode. -/
structure LoopEnds (guidOf : Nat → Option Gid) (decode : ρ → Option α) (start : Sequences α)
    (count : Nat) (rounds : List (Round ρ)) (t : Taking ρ α)
    (r : Option RmwRet × Taking ρ α) : Prop where
  fills : Fills guidOf decode start r.2.removed r.2
  in_order : r.2.removed <+: t.removed ++ t.queue ++ arrivals rounds
  sizes : r.1 = some .ok → r.2.messageSize = r.2.taken ∧ r.2.messageInfoSize = r.2.taken
  within_iff : r.2.taken ≤ count ↔
    t.taken ≤ count ∧ FitsFrom count t.taken (batches count rounds t.queue)

theorem Fills.finish {handled : List (RawSample ρ)} (fills : Fills guidOf decode start handled t) :
    Fills guidOf decode start handled t.finish :=
  ⟨fills.taken_eq, fills.written_eq, fills.entries, fills.others⟩

theorem takeLoop_done (enough : count ≤ t.taken) :
    takeLoop guidOf decode count rounds t = (some .ok, t.finish) := by
  cases rounds with
  | nil => rw [takeLoop, if_neg (Nat.not_lt.mpr enough)]
  | cons round rounds => rw [takeLoop, if_neg (Nat.not_lt.mpr enough)]

/-- A batch that decodes is a step of the loop. -/
theorem takeLoop_batch {round : Round ρ} {batch rest : List (RawSample ρ)} {t' : Taking ρ α}
    (lt : t.taken < count) (answer : rawTake count round t.queue = (.ok, batch, rest))
    (run : takeBatch guidOf decode batch
      { t with queue := rest, removed := t.removed ++ batch } = (true, t')) :
    takeLoop guidOf decode count (round :: rounds) t = takeLoop guidOf decode count rounds t' := by
  rw [takeLoop, if_pos lt]
  simp only [answer, run]

/-- Nothing is asked for once there is enough. -/
theorem takeLoop_enough (enough : count ≤ t.taken)
    (fills : Fills guidOf decode start t.removed t) :
    LoopEnds guidOf decode start count rounds t (takeLoop guidOf decode count rounds t) := by
  rw [takeLoop_done enough]
  refine ⟨fills.finish, ?_, fun _ => ⟨rfl, rfl⟩, (and_iff_left (fitsFrom_of_le enough)).symm⟩
  rw [List.append_assoc]
  exact List.prefix_append ..

/-- A loop that stops before there is enough has what it had. -/
theorem LoopEnds.of_stop {ret : Option RmwRet} {t' : Taking ρ α} (lt : t.taken < count)
    (last : batches count rounds t.queue = []) (fills : Fills guidOf decode start t.removed t')
    (taken_eq : t'.taken = t.taken) (removed_eq : t'.removed = t.removed)
    (sizes : ret = some .ok → t'.messageSize = t'.taken ∧ t'.messageInfoSize = t'.taken) :
    LoopEnds guidOf decode start count rounds t (ret, t') where
  fills := removed_eq ▸ fills
  in_order := by
    show t'.removed <+: _
    rw [removed_eq, List.append_assoc]
    exact List.prefix_append ..
  sizes := sizes
  within_iff := by
    show t'.taken ≤ count ↔ _
    rw [taken_eq, last]
    exact iff_of_true lt.le ⟨lt.le, fitsFrom_nil⟩

/-- The batches fit from here on exactly if this one fits, and then the others do. -/
theorem fitsFrom_step {batch : List (RawSample ρ)} {bs : List (List (RawSample ρ))} {taken : Nat}
    (lt : taken < count) :
    taken + (validSamples batch).length ≤ count ∧
        FitsFrom count (taken + (validSamples batch).length) bs ↔
      taken ≤ count ∧ FitsFrom count taken (batch :: bs) := by
  rw [fitsFrom_cons]
  constructor
  · rintro ⟨le, rest⟩
    exact ⟨lt.le, fun _ => le, rest⟩
  · rintro ⟨-, first, rest⟩
    exact ⟨first lt, rest⟩

/-- **The loop fills in the valid samples in their order, and as many as it should exactly if every
batch fits.** -/
theorem takeLoop_ends
    (decodes : ∀ sample ∈ t.queue ++ arrivals rounds, sample.info.validData = true →
      (sample.decoded decode).isSome = true)
    (fills : Fills guidOf decode start t.removed t) :
    LoopEnds guidOf decode start count rounds t (takeLoop guidOf decode count rounds t) := by
  induction rounds generalizing t with
  | nil =>
    by_cases lt : t.taken < count
    · rw [takeLoop, if_pos lt]
      exact .of_stop lt rfl fills rfl rfl nofun
    · exact takeLoop_enough (Nat.le_of_not_lt lt) fills
  | cons round rounds ih =>
    by_cases lt : t.taken < count
    · rcases rawTake_cases count round t.queue with answer | answer | ⟨batch, rest, answer, split⟩
      · have last : batches count (round :: rounds) t.queue = [] := by rw [batches, answer]
        rw [takeLoop, if_pos lt]
        simp only [answer]
        exact .of_stop lt last ⟨fills.taken_eq, fills.written_eq, fills.entries, fills.others⟩ rfl
          rfl nofun
      · have last : batches count (round :: rounds) t.queue = [] := by rw [batches, answer]
        rw [takeLoop, if_pos lt]
        simp only [answer]
        exact .of_stop lt last ⟨fills.taken_eq, fills.written_eq, fills.entries, fills.others⟩ rfl
          rfl fun _ => ⟨rfl, rfl⟩
      · have stream : t.queue ++ arrivals (round :: rounds) = batch ++ rest ++ arrivals rounds := by
          rw [split, List.append_assoc]
          rfl
        have next :
            batches count (round :: rounds) t.queue = batch :: batches count rounds rest := by
          rw [batches, answer]
        have begun : Fills guidOf decode start t.removed
            { t with queue := rest, removed := t.removed ++ batch } :=
          ⟨fills.taken_eq, fills.written_eq, fills.entries, fills.others⟩
        have now : ∀ sample ∈ batch, sample.info.validData = true →
            (sample.decoded decode).isSome = true :=
          fun sample mem => decodes sample (by rw [stream]; simp [mem])
        obtain ⟨t', run, filled, queue_eq, removed_eq⟩ := takeBatch_fills now begun
        rw [takeLoop_batch lt answer run]
        have removed_eq : t'.removed = t.removed ++ batch := removed_eq
        have queue_eq : t'.queue = rest := queue_eq
        rw [← removed_eq] at filled
        have ends := ih (t := t') (fun sample mem => decodes sample (by
          rw [stream, List.append_assoc]
          rw [queue_eq] at mem
          exact List.mem_append_right _ mem)) filled
        refine ⟨ends.fills, ?_, ends.sizes, ends.within_iff.trans ?_⟩
        · rw [List.append_assoc, stream]
          simpa [removed_eq, queue_eq] using ends.in_order
        · have more : t'.taken = t.taken + (validSamples batch).length := by
            rw [filled.taken_eq, removed_eq, validSamples_append, List.length_append,
              ← fills.taken_eq]
          rw [next, queue_eq, more]
          exact fitsFrom_step lt
    · exact takeLoop_enough (Nat.le_of_not_lt lt) fills

end Loop

/-! ## Whole calls -/

section Calls

variable {ρ α : Type} {guidOf : Nat → Option Gid} {decode : ρ → Option α} {count : Nat}
  {rounds : List (Round ρ)} {sequences : Sequences α} {taken : Nat} {queue : List (RawSample ρ)}

/-- A call writes no entry from `count` on, and if it succeeds, what it says it took are the first
valid samples of the reader, and no valid sample is lost. -/
structure TakesWithin (guidOf : Nat → Option Gid) (decode : ρ → Option α) (count : Nat)
    (start : Sequences α) (stream : List (RawSample ρ)) (r : Option RmwRet × Taking ρ α) :
    Prop where
  written : ∀ i ∈ r.2.written, i < count
  sizes : r.1 = some .ok →
    r.2.messageSize = r.2.taken ∧ r.2.messageInfoSize = r.2.taken ∧ r.2.taken ≤ count
  entries : r.1 = some .ok → ∀ i < r.2.taken, ∃ sample,
    (validSamples stream)[i]? = some sample ∧ sample.decoded decode = some (r.2.message i) ∧
      r.2.messageInfo i = (start.messageInfo i).fill guidOf sample
  lossless : r.1 = some .ok →
    validSamples r.2.removed = (validSamples stream).take r.2.taken

/-- **`rmw_take_sequence` stays within the caller's sequences and takes what it should exactly if
every batch fits** into what the batches before it left. -/
theorem take_sequence_within_iff (positive : 0 < count)
    (messageCapacity : count ≤ sequences.messageCapacity)
    (messageInfoCapacity : count ≤ sequences.messageInfoCapacity)
    (decodes : ∀ sample ∈ queue ++ arrivals rounds, sample.info.validData = true →
      (sample.decoded decode).isSome = true) :
    TakesWithin guidOf decode count sequences (queue ++ arrivals rounds)
        (rmwTakeSequence guidOf decode count rounds sequences taken queue) ↔
      FitsFrom count 0 (batches count rounds queue) := by
  have begun : rmwTakeSequence guidOf decode count rounds sequences taken queue =
      takeLoop guidOf decode count rounds (Taking.reset sequences queue) := by
    unfold rmwTakeSequence
    rw [if_neg positive.ne', if_neg (Nat.not_lt.mpr messageCapacity),
      if_neg (Nat.not_lt.mpr messageInfoCapacity)]
  have fresh : Fills guidOf decode sequences [] (Taking.reset sequences queue) :=
    ⟨rfl, rfl, nofun, fun _ _ => rfl⟩
  have ends : LoopEnds guidOf decode sequences count rounds (Taking.reset sequences queue) _ :=
    takeLoop_ends decodes fresh
  rw [begun]
  generalize takeLoop guidOf decode count rounds (Taking.reset sequences queue) = r at ends
  refine Iff.trans ?_ (ends.within_iff.trans (and_iff_right (Nat.zero_le count)))
  constructor
  · intro within
    by_contra beyond
    have last : count ∈ r.2.written := by
      rw [ends.fills.written_eq, List.mem_range]
      exact Nat.lt_of_not_le beyond
    exact Nat.lt_irrefl count (within.written count last)
  · intro le
    have front : validSamples r.2.removed <+: validSamples (queue ++ arrivals rounds) :=
      ends.in_order.filter _
    refine ⟨fun i mem => ?_, fun ok => ⟨(ends.sizes ok).1, (ends.sizes ok).2, le⟩,
      fun _ i lt => ?_, fun _ => ?_⟩
    · rw [ends.fills.written_eq, List.mem_range] at mem
      exact mem.trans_le le
    · rw [ends.fills.taken_eq] at lt
      exact ⟨_, List.prefix_iff_getElem?.mp front i lt,
        ends.fills.entries i _ (List.getElem?_eq_getElem lt)⟩
    · rw [ends.fills.taken_eq]
      exact List.prefix_iff_eq_take.mp front

end Calls

/-! ## One message at a time -/

section Singles

variable {ρ α : Type} {guidOf : Nat → Option Gid} {decode : ρ → Option α} {n : Nat}
  {sequences : Sequences α} {taken : Nat} {queue : List (RawSample ρ)}
  {samples : List (TopicSample α)} {info : SubscriberInfo α}

/-- A raw sample and the same sample with its message decoded. -/
structure Decodes (decode : ρ → Option α) (raw : RawSample ρ) (sample : TopicSample α) : Prop where
  decoded_eq : raw.decoded decode = some sample.message
  info_eq : raw.info = sample.info
  publicationHandle_eq : raw.publicationHandle = sample.publicationHandle

/-- What so many calls of `rmw_take_with_info` end in. -/
def singleTakes (guidOf : Nat → Option Gid) : Nat → SubscriberInfo α → List (Took α)
  | 0, _ => []
  | calls + 1, info =>
    (rmwTakeWithInfo guidOf false info).2 ::
      singleTakes guidOf calls (rmwTakeWithInfo guidOf false info).1

/-- Each of them takes the next sample. -/
theorem singleTakes_getElem? (unread : info.topicReader.samples = samples.map (·, false))
    (valid : ∀ sample ∈ samples, sample.info.validData = true) {i : Nat} (lt : i < n)
    {sample : TopicSample α} (here : samples[i]? = some sample) :
    (singleTakes guidOf n info)[i]? = some {
      ret := .ok
      errorMsg := none
      taken := true
      message := some sample.message
      messageInfo := some (sample.messageInfo guidOf) } := by
  induction n generalizing info samples i with
  | zero => exact absurd lt (Nat.not_lt_zero i)
  | succ n ih =>
    cases samples with
    | nil => cases here
    | cons first rest =>
      have next : info.topicReader.takeNextSample =
          (some first, { info.topicReader with samples := rest.map (·, false) }) := by
        rw [DataReader.takeNextSample, unread]
        rfl
      cases i with
      | zero =>
        obtain rfl := Option.some.inj here
        have ok := valid first List.mem_cons_self
        simp [singleTakes, rmwTakeWithInfo, take, next, tookSample, ok]
      | succ i =>
        rw [singleTakes, List.getElem?_cons_succ]
        refine ih ?_ (fun sample mem => valid sample (List.mem_cons_of_mem first mem))
          (Nat.lt_of_succ_lt_succ lt) here
        simp [rmwTakeWithInfo, take, next]

/-- What the batch leaves of an info has to be what a single take writes there. -/
theorem fill_eq_iff {raw : RawSample ρ} {sample : TopicSample α}
    (same : Decodes decode raw sample) (messageInfo : MessageInfo) :
    sample.messageInfo guidOf = messageInfo.fill guidOf raw ↔
      messageInfo.publicationSequenceNumber = ddsSnToRosSn sample.info.seq ∧
        messageInfo.receptionSequenceNumber = sequenceNumberUnsupported := by
  rw [TopicSample.messageInfo, MessageInfo.fill, same.info_eq, same.publicationHandle_eq]
  simp only [MessageInfo.mk.injEq, true_and, and_true]
  exact and_congr eq_comm eq_comm

/-- A reader whose samples are all valid. -/
theorem validSamples_of_forall {samples : List (TopicSample α)}
    (valid : ∀ sample ∈ samples, sample.info.validData = true) : validSamples samples = samples :=
  List.filter_eq_self.mpr valid

/-- One batch of `n` samples is all a call for `n` messages needs. -/
theorem takeSequence_batch (positive : 0 < n) (le : n ≤ queue.length)
    (messageCapacity : n ≤ sequences.messageCapacity)
    (messageInfoCapacity : n ≤ sequences.messageInfoCapacity)
    (valid : ∀ raw ∈ queue, raw.info.validData = true)
    (decodes : ∀ raw ∈ queue, (raw.decoded decode).isSome = true) :
    ∃ t, rmwTakeSequence guidOf decode n [{ arrivals := [], fails := false, length := n }]
        sequences taken queue = (some .ok, t) ∧
      Fills guidOf decode sequences (queue.take n) t := by
  have batch : rawTake n { arrivals := [], fails := false, length := n } queue =
      (.ok, queue.take n, queue.drop n) := by
    have some : queue.isEmpty = false := by
      rw [List.isEmpty_eq_false_iff, ← List.length_pos_iff]
      exact positive.trans_le le
    have length : max 1 (min n (min n queue.length)) = n := by omega
    unfold rawTake
    dsimp only
    rw [List.append_nil, if_neg Bool.false_ne_true, some, if_neg Bool.false_ne_true, length]
  have fresh : Fills guidOf decode sequences []
      { Taking.reset sequences queue with queue := queue.drop n, removed := [] ++ queue.take n } :=
    ⟨rfl, rfl, nofun, fun _ _ => rfl⟩
  have now : ∀ raw ∈ queue.take n, raw.info.validData = true →
      (raw.decoded decode).isSome = true :=
    fun raw mem _ => decodes raw (List.mem_of_mem_take mem)
  obtain ⟨t, run, filled, -⟩ := takeBatch_fills now fresh
  rw [List.nil_append] at filled
  have all : validSamples (queue.take n) = queue.take n :=
    validSamples_of_forall fun raw mem => valid raw (List.mem_of_mem_take mem)
  have done : t.taken = n := by rw [filled.taken_eq, all, List.length_take, Nat.min_eq_left le]
  refine ⟨t.finish, ?_, filled.finish⟩
  unfold rmwTakeSequence
  rw [if_neg positive.ne', if_neg (Nat.not_lt.mpr messageCapacity),
    if_neg (Nat.not_lt.mpr messageInfoCapacity),
    takeLoop_batch (t := Taking.reset sequences queue) positive batch run, takeLoop_done done.ge]

/-- **A batch of `n` messages is what `n` single takes give exactly if the infos hold the sequence
numbers already**, which the batch does not write. -/
theorem batch_take_eq_iff (same : List.Forall₂ (Decodes decode) queue samples)
    (valid : ∀ sample ∈ samples, sample.info.validData = true)
    (unread : info.topicReader.samples = samples.map (·, false)) (le : n ≤ samples.length)
    (messageCapacity : n ≤ sequences.messageCapacity)
    (messageInfoCapacity : n ≤ sequences.messageInfoCapacity) :
    (∀ i < n, ∃ took, (singleTakes guidOf n info)[i]? = some took ∧
        took.message = some ((rmwTakeSequence guidOf decode n
          [{ arrivals := [], fails := false, length := n }] sequences taken queue).2.message i) ∧
        took.messageInfo = some ((rmwTakeSequence guidOf decode n
          [{ arrivals := [], fails := false, length := n }] sequences taken
          queue).2.messageInfo i)) ↔
      ∀ i < n, ∀ sample, samples[i]? = some sample →
        (sequences.messageInfo i).publicationSequenceNumber = ddsSnToRosSn sample.info.seq ∧
          (sequences.messageInfo i).receptionSequenceNumber = sequenceNumberUnsupported := by
  refine forall_congr' fun i => forall_congr' fun lt => ?_
  have decoded {raw : RawSample ρ} (mem : raw ∈ queue) :
      ∃ sample ∈ samples, Decodes decode raw sample := by
    obtain ⟨j, short, rfl⟩ := List.getElem_of_mem mem
    exact ⟨_, List.getElem_mem _, same.get short (same.length_eq ▸ short)⟩
  have le' : n ≤ queue.length := same.length_eq ▸ le
  have here := List.getElem?_eq_getElem (lt.trans_le le)
  have pair : Decodes decode queue[i] samples[i] := same.get (lt.trans_le le') (lt.trans_le le)
  have validRaw : ∀ raw ∈ queue, raw.info.validData = true := by
    intro raw mem
    obtain ⟨sample, sampleMem, decodes⟩ := decoded mem
    rw [decodes.info_eq]
    exact valid sample sampleMem
  obtain ⟨t, run, fills⟩ : ∃ t, rmwTakeSequence guidOf decode n
        [{ arrivals := [], fails := false, length := n }] sequences taken queue = (some .ok, t) ∧
      Fills guidOf decode sequences (queue.take n) t := by
    refine takeSequence_batch (Nat.zero_lt_of_lt lt) le' messageCapacity messageInfoCapacity
      validRaw fun raw mem => ?_
    obtain ⟨sample, -, decodes⟩ := decoded mem
    rw [decodes.decoded_eq]
    rfl
  have entry : (validSamples (queue.take n))[i]? = some queue[i] := by
    rw [validSamples_of_forall fun raw mem => validRaw raw (List.mem_of_mem_take mem),
      List.getElem?_take_of_lt lt]
    exact List.getElem?_eq_getElem _
  obtain ⟨message_eq, info_eq⟩ := fills.entries i _ entry
  have message_eq := Option.some.inj (pair.decoded_eq.symm.trans message_eq)
  rw [run, singleTakes_getElem? unread valid lt here]
  constructor
  · rintro ⟨took, found, -, infos⟩ sample here'
    obtain rfl := Option.some.inj found
    obtain rfl := Option.some.inj (here.symm.trans here')
    rw [info_eq] at infos
    exact (fill_eq_iff pair _).mp (Option.some.inj infos)
  · intro held
    refine ⟨_, rfl, congrArg some message_eq, congrArg some ?_⟩
    rw [info_eq]
    exact (fill_eq_iff pair _).mpr (held _ here)

end Singles

/-! ## Samples -/

/-- A sample of the message 7, with sequence number 1 of its writer. -/
def rawSeven : RawSample Nat where
  message := some 7
  info := { SampleInfoEx.zero with validData := true, seq := rosSnToDdsSn 1 }
  publicationHandle := 0

/-- The same sample, decoded. -/
def sampleSeven : TopicSample Nat where
  message := 7
  info := rawSeven.info
  publicationHandle := 0

/-- The message 8, from the same writer. -/
def rawEight : RawSample Nat where
  message := some 8
  info := { SampleInfoEx.zero with validData := true, seq := rosSnToDdsSn 2 }
  publicationHandle := 0

/-- The same sample, decoded. -/
def sampleEight : TopicSample Nat where
  message := 8
  info := rawEight.info
  publicationHandle := 0

/-- A subscription that has read neither. -/
def bothUnread : SubscriberInfo Nat where
  topicReader := { samples := [(sampleSeven, false), (sampleEight, false)], notifies := false }
  mask := false
  callback := none
  userData := 0

/-- Sequences for two messages. -/
def blankSequences : Sequences Nat where
  message _ := 0
  messageSize := 0
  messageCapacity := 2
  messageInfo _ := {
    sourceTimestamp := 0
    receivedTimestamp := 0
    publicationSequenceNumber := 0
    receptionSequenceNumber := 0
    publisherGid := Vector.replicate 16 0 }
  messageInfoSize := 0
  messageInfoCapacity := 2

/-- A reader that hands out one sample, and then two more that have come in. -/
def twoRounds : List (Round Nat) :=
  [{ arrivals := [rawSeven], fails := false, length := 1 },
    { arrivals := [rawSeven, rawSeven], fails := false, length := 2 }]

/-- A reader that hands out one sample at a time. -/
def oneAtATime : List (Round Nat) :=
  [{ arrivals := [rawSeven, rawEight], fails := false, length := 1 },
    { arrivals := [], fails := false, length := 1 }]

theorem take_sequence_within_sample :
    TakesWithin (fun _ => none) some 2 blankSequences ([] ++ arrivals oneAtATime)
        (rmwTakeSequence (fun _ => none) some 2 oneAtATime blankSequences 0 []) ↔
      FitsFrom 2 0 (batches 2 oneAtATime []) :=
  take_sequence_within_iff (by decide) (by decide) (by decide) (by decide)

/-- Of the second batch, the second message goes behind the end. -/
theorem take_sequence_overruns :
    ¬ TakesWithin (fun _ => none) some 2 blankSequences ([] ++ arrivals twoRounds)
        (rmwTakeSequence (fun _ => none) some 2 twoRounds blankSequences 0 []) := by
  intro within
  exact absurd (within.written 2 (by decide)) (by decide)

/-- A batch of both samples. -/
def batchOfBoth : Option RmwRet × Taking Nat Nat :=
  rmwTakeSequence (fun _ => none) some 2 [{ arrivals := [], fails := false, length := 2 }]
    blankSequences 0 [rawSeven, rawEight]

theorem batch_take_eq_sample :
    (∀ i < 2, ∃ took, (singleTakes (fun _ => none) 2 bothUnread)[i]? = some took ∧
        took.message = some (batchOfBoth.2.message i) ∧
        took.messageInfo = some (batchOfBoth.2.messageInfo i)) ↔
      ∀ i < 2, ∀ sample, [sampleSeven, sampleEight][i]? = some sample →
        (blankSequences.messageInfo i).publicationSequenceNumber = ddsSnToRosSn sample.info.seq ∧
          (blankSequences.messageInfo i).receptionSequenceNumber = sequenceNumberUnsupported :=
  batch_take_eq_iff (.cons ⟨rfl, rfl, rfl⟩ (.cons ⟨rfl, rfl, rfl⟩ .nil))
    (by simp [sampleSeven, rawSeven, sampleEight, rawEight]) rfl (by decide) (by decide)
    (by decide)

/-- The first publication's sequence number is 1, and the batch leaves the 0 that was there. -/
theorem batch_take_keeps_number :
    ¬ ∀ i < 2, ∃ took, (singleTakes (fun _ => none) 2 bothUnread)[i]? = some took ∧
      took.message = some (batchOfBoth.2.message i) ∧
      took.messageInfo = some (batchOfBoth.2.messageInfo i) := by
  intro same
  obtain ⟨took, found, -, infos⟩ := same 0 (by decide)
  obtain rfl := Option.some.inj found
  have numbers := congrArg (Option.map MessageInfo.publicationSequenceNumber) infos
  exact absurd numbers (by decide)

end Subscription
