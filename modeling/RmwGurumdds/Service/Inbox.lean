import RmwGurumdds.Exec.Runs
import RmwGurumdds.Service.Correlation
import RmwGurumdds.Subscription.SubscriberInfo

/-!
# The inboxes of services and clients

A service has a reader for requests, a client one for responses. Samples arrive at it; its owner may
have itself told of them by a callback, with their number, and takes them. The number comes from
reading the samples that were not read before, as for a subscription. But a subscription takes only
samples that were not read, and loses what it has counted; a service and a client take samples in
any state. So every sample is counted at most once, and what is counted is still there
(`counted_once`).

A client goes on taking until it gets a response of its own or there is no sample any more. It drops
what it finds on the way: responses to others, and samples without valid data. So its calls deliver
its own responses, each once and in order, and a call that delivers none leaves nothing behind
(`own_responses_delivered`).
-/

namespace Service

open Wire Cdr Rmw Store Exec
open Subscription (TopicSample DataReader DdsReturnCode checkDdsRetCode countUnread)

/-! ## Functions -/

/-- A sample as a raw take hands it out, with its bytes if there are any. -/
abbrev RawSample := TopicSample (Option (List Byte))

/-- The request reader of a service, or the response reader of a client, and its
`event_callback_data`. -/
structure Inbox where
  reader : DataReader (Option (List Byte))
  callback : Option Events.Callback
  userData : Events.UserData

/-- The `on_data_available` of both listeners: the inbox it leaves, and the calls it makes. -/
def Inbox.onDataAvailable (readFails loanFails : Bool) (inbox : Inbox) :
    Inbox × List Events.Call :=
  match inbox.callback with
  | none => (inbox, [])
  | some callback =>
    let counted := countUnread readFails loanFails inbox.reader
    ({ inbox with reader := counted.topicReader },
      [{ callback, userData := inbox.userData, count := counted.count }])

/-- `dds_DataReader_set_listener`, with the bit `dds_DATA_AVAILABLE_STATUS` of the mask. -/
def Inbox.setListener (inbox : Inbox) (mask : Bool) (rc : DdsReturnCode) : Inbox × RmwRet :=
  (if rc = .ok then { inbox with reader.notifies := mask } else inbox, checkDdsRetCode rc)

/-- What both functions that set a callback do: the inbox, the calls that are made, and how they
end. The mask starts from the statuses that have changed, and the bit is set or cleared in it. -/
def setOnNewCallback (readFails loanFails : Bool) (rc : DdsReturnCode) (inbox : Inbox)
    (userData : Events.UserData) :
    Option Events.Callback → Inbox × List Events.Call × RmwRet
  | some callback =>
    let counted := countUnread readFails loanFails inbox.reader
    let set := Inbox.setListener
      { reader := counted.topicReader, callback := some callback, userData } true rc
    (set.1, if 0 < counted.count then [{ callback, userData, count := counted.count }] else [],
      set.2)
  | none =>
    let set := Inbox.setListener { inbox with callback := none, userData := 0 } false rc
    (set.1, [], set.2)

/-- `rmw_service_set_on_new_request_callback`. -/
def rmwServiceSetOnNewRequestCallback (readFails loanFails : Bool) (rc : DdsReturnCode)
    (inbox : Inbox) (userData : Events.UserData) (callback : Option Events.Callback) :
    Inbox × List Events.Call × RmwRet :=
  setOnNewCallback readFails loanFails rc inbox userData callback

/-- `rmw_client_set_on_new_response_callback`. -/
def rmwClientSetOnNewResponseCallback (readFails loanFails : Bool) (rc : DdsReturnCode)
    (inbox : Inbox) (userData : Events.UserData) (callback : Option Events.Callback) :
    Inbox × List Events.Call × RmwRet :=
  setOnNewCallback readFails loanFails rc inbox userData callback

/-- The answers of a reader that holds `queue` to raw takes of samples in any state. The one that
`failAt` counts fails. -/
def answers : (failAt : Option Nat) → (queue : List RawSample) → List RawTake
  | some 0, _ => [.error]
  | _, [] => []
  | failAt, s :: queue => .sample s.message s.info :: answers (failAt.map Nat.pred) queue

section Functions

variable (r : Reader) (header : RmwServiceInfo) (client : ClientInfo)

/-- How many samples `rmw_take_response` takes out. -/
def responsesRemoved (message : Value) : List RawTake → Nat
  | [] => 0
  | .noData :: _ => 0
  | .error :: _ => 0
  | .sample data info :: rest =>
    if info.validData then
      match data with
      | none => 1
      | some sample =>
        match (r.identify message false sample info).target with
        | none => 1
        | some i =>
          if client.writerGuid = i.requestId.writerGuid then 1
          else responsesRemoved i.message rest + 1
    else responsesRemoved message rest + 1

/-- Whose inbox it is. -/
inductive Owner where
  | service
  | client (info : ClientInfo)

/-- A call of `rmw_take_request` or `rmw_take_response`: how it ends, and how many samples it takes
out of the reader. -/
def Owner.take (message : Value) (failAt : Option Nat) (queue : List RawSample) :
    Owner → Took × Nat
  | .service =>
    let answer := (answers failAt queue).headD .noData
    (rmwTakeRequest r header message answer, match answer with | .sample .. => 1 | _ => 0)
  | .client info =>
    (rmwTakeResponse r header info message (answers failAt queue),
      responsesRemoved r info message (answers failAt queue))

end Functions

/-! ## Runs -/

/-- What happens at an inbox. DDS calls the listener of `notify` only if it is set to. -/
inductive Post where
  | arrive (sample : RawSample)
  | notify (readFails loanFails : Bool)
  | setCallback (callback : Option Events.Callback) (userData : Events.UserData)
      (readFails loanFails : Bool) (rc : DdsReturnCode)
  | take (header : RmwServiceInfo) (message : Value) (failAt : Option Nat)

/-- A call that takes: the samples it took out, those it left, and how it ended. -/
structure Entry where
  removed : List RawSample
  left : List RawSample
  took : Took

/-- An inbox, the samples that arrived, those that were taken out with their marks, the numbers its
callbacks were called with, and the calls that took. -/
structure Mail where
  inbox : Inbox
  received : List RawSample
  consumed : Marked RawSample
  told : List Int
  log : List Entry

/-- An inbox that was just made. -/
def Mail.start : Mail where
  inbox := { reader := { samples := [], notifies := false }, callback := none, userData := 0 }
  received := []
  consumed := []
  told := []
  log := []

/-- The samples in the reader. -/
def Mail.queue (m : Mail) : List RawSample := m.inbox.reader.samples.map Prod.fst

/-- A callback was called, or some were. -/
def Mail.tell (m : Mail) (result : Inbox × List Events.Call) : Mail :=
  { m with inbox := result.1, told := m.told ++ result.2.map Events.Call.count }

/-- The first `n` samples are taken out by a call that ends so. -/
def Mail.takeOut (m : Mail) (n : Nat) (took : Took) : Mail :=
  { m with
    inbox := { m.inbox with reader.samples := m.inbox.reader.samples.drop n }
    consumed := m.consumed ++ m.inbox.reader.samples.take n
    log := m.log ++ [{ removed := m.queue.take n, left := m.queue.drop n, took }] }

section Runs

variable (r : Reader) (owner : Owner)

/-- One thing happens. -/
def Mail.step (m : Mail) : Post → Mail
  | .arrive sample =>
    { m with
      inbox := { m.inbox with reader.samples := m.inbox.reader.samples.push sample }
      received := m.received ++ [sample] }
  | .notify readFails loanFails =>
    if m.inbox.reader.notifies then m.tell (m.inbox.onDataAvailable readFails loanFails) else m
  | .setCallback callback userData readFails loanFails rc =>
    let set := setOnNewCallback readFails loanFails rc m.inbox userData callback
    m.tell (set.1, set.2.1)
  | .take header message failAt =>
    let took := owner.take r header message failAt m.queue
    m.takeOut took.2 took.1

/-- After some happenings. -/
def Mail.after (posts : List Post) : Mail := run (Mail.step r owner) .start posts

end Runs

/-! ## Counting -/

section Counting

variable {readFails loanFails : Bool} {reader : DataReader (Option (List Byte))} {inbox : Inbox}

variable (readFails loanFails reader) in
/-- What a count tells is what it has marked. -/
theorem countUnread_marked :
    let counted := countUnread readFails loanFails reader
    counted.topicReader.samples.map Prod.fst = reader.samples.map Prod.fst ∧
      counted.count + reader.samples.marked = counted.topicReader.samples.marked ∧
      counted.count ≤ reader.samples.length := by
  unfold countUnread Subscription.rawRead
  cases readFails with
  | true => exact ⟨rfl, Nat.zero_add _, Nat.zero_le _⟩
  | false =>
    have all := Marked.length_unmarked_add (q := reader.samples)
    cases unread : reader.samples.unmarked with
    | nil => exact ⟨rfl, Nat.zero_add _, Nat.zero_le _⟩
    | cons s rest =>
      rw [unread] at all
      refine ⟨Marked.map_fst_markAll, ?_, ?_⟩
      · simpa [Subscription.returnLoan] using all
      · simp only [Subscription.returnLoan, List.isEmpty_cons, Bool.false_eq_true, if_false]
        omega

/-- What the callbacks are told by a step is what it has marked, and they are told of no more than
there is. -/
structure Tells (inbox : Inbox) (result : Inbox × List Events.Call) : Prop where
  samples : result.1.reader.samples.map Prod.fst = inbox.reader.samples.map Prod.fst
  sum : (result.2.map Events.Call.count).sum + inbox.reader.samples.marked =
    result.1.reader.samples.marked
  bounded : ∀ call ∈ result.2, call.count ≤ inbox.reader.samples.length

theorem tells_onDataAvailable : Tells inbox (inbox.onDataAvailable readFails loanFails) := by
  obtain ⟨samples, sum, bounded⟩ :=
    countUnread_marked readFails loanFails inbox.reader
  unfold Inbox.onDataAvailable
  cases inbox.callback with
  | none => exact ⟨rfl, by simp, fun _ mem => absurd mem List.not_mem_nil⟩
  | some callback =>
    refine ⟨samples, ?_, fun call mem => ?_⟩
    · simpa using congrArg Int.ofNat sum
    · obtain rfl := List.mem_singleton.mp mem
      exact Int.ofNat_le.mpr bounded

theorem setListener_samples (mask : Bool) (rc : DdsReturnCode) :
    (inbox.setListener mask rc).1.reader.samples = inbox.reader.samples := by
  unfold Inbox.setListener
  split <;> rfl

theorem tells_setOnNewCallback (rc : DdsReturnCode) (userData : Events.UserData)
    (callback : Option Events.Callback) :
    Tells inbox ((setOnNewCallback readFails loanFails rc inbox userData callback).1,
      (setOnNewCallback readFails loanFails rc inbox userData callback).2.1) := by
  obtain ⟨samples, sum, bounded⟩ :=
    countUnread_marked readFails loanFails inbox.reader
  cases callback with
  | none =>
    refine ⟨?_, ?_, fun _ mem => absurd mem List.not_mem_nil⟩
    · exact congrArg (List.map Prod.fst) (setListener_samples ..)
    · simp [setOnNewCallback, setListener_samples]
  | some callback =>
    refine ⟨?_, ?_, fun call mem => ?_⟩
    · simp only [setOnNewCallback, setListener_samples]
      exact samples
    · simp only [setOnNewCallback, setListener_samples, ← sum]
      split
      · simp
      · rename_i none_
        have zero := Nat.eq_zero_of_not_pos none_
        simp [zero]
    · simp only [setOnNewCallback] at mem
      split at mem
      · obtain rfl := List.mem_singleton.mp mem
        exact Int.ofNat_le.mpr bounded
      · exact absurd mem List.not_mem_nil

end Counting

/-- The samples that arrived are those taken out and those that are there, in their order; and a
callback was told of as many as have been read. -/
structure Mail.Sound (m : Mail) : Prop where
  samples : m.consumed.map Prod.fst ++ m.queue = m.received
  sum : m.told.sum = m.consumed.marked + m.inbox.reader.samples.marked

section Sound

variable {r : Reader} {owner : Owner} {m : Mail}

theorem Mail.Sound.tell (sound : m.Sound) {result : Inbox × List Events.Call}
    (tells : Tells m.inbox result) : (m.tell result).Sound := by
  refine ⟨?_, ?_⟩
  · show m.consumed.map Prod.fst ++ result.1.reader.samples.map Prod.fst = m.received
    rw [tells.samples]
    exact sound.samples
  · show (m.told ++ result.2.map Events.Call.count).sum =
      m.consumed.marked + (result.1.reader.samples.marked : Int)
    rw [List.sum_append, sound.sum, ← tells.sum]
    omega

theorem Mail.Sound.takeOut (sound : m.Sound) (n : Nat) (took : Took) :
    (m.takeOut n took).Sound := by
  have split := List.take_append_drop n m.inbox.reader.samples
  refine ⟨?_, ?_⟩
  · show (m.consumed ++ m.inbox.reader.samples.take n).map Prod.fst ++
      (m.inbox.reader.samples.drop n).map Prod.fst = m.received
    rw [List.map_append, List.append_assoc, ← List.map_append, split]
    exact sound.samples
  · show m.told.sum = (Marked.marked (m.consumed ++ m.inbox.reader.samples.take n) : Int) +
      Marked.marked (m.inbox.reader.samples.drop n)
    rw [sound.sum, Marked.marked_append, ← congrArg Marked.marked split, Marked.marked_append]
    omega

theorem Mail.Sound.step (sound : m.Sound) (post : Post) : (m.step r owner post).Sound := by
  cases post with
  | arrive sample =>
    refine ⟨?_, ?_⟩
    · show m.consumed.map Prod.fst ++ (m.inbox.reader.samples.push sample).map Prod.fst = _
      rw [Marked.push, List.map_append, ← List.append_assoc]
      exact congrArg (· ++ [sample]) sound.samples
    · simpa [Mail.step] using sound.sum
  | notify readFails loanFails =>
    rw [Mail.step]
    split
    · exact sound.tell tells_onDataAvailable
    · exact sound
  | setCallback callback userData readFails loanFails rc =>
    exact sound.tell (tells_setOnNewCallback rc userData callback)
  | take header message failAt => exact sound.takeOut _ _

theorem Mail.sound_after (posts : List Post) : (Mail.after r owner posts).Sound :=
  run_invariant (I := Mail.Sound) ⟨rfl, rfl⟩ (fun _ post sound => sound.step post) posts

/-- A step tells of no more than there is when it is done. -/
theorem Mail.step_told (m : Mail) (post : Post) :
    ∃ new, (m.step r owner post).told = m.told ++ new ∧
      ∀ n ∈ new, n ≤ (m.step r owner post).queue.length := by
  have tell {result : Inbox × List Events.Call} (tells : Tells m.inbox result) :
      ∃ new, (m.tell result).told = m.told ++ new ∧
        ∀ n ∈ new, n ≤ (m.tell result).queue.length := by
    refine ⟨_, rfl, fun n counted => ?_⟩
    obtain ⟨call, mem, rfl⟩ := List.mem_map.mp counted
    have length : (m.tell result).queue.length = m.inbox.reader.samples.length := by
      rw [Mail.queue, Mail.tell, tells.samples, List.length_map]
    rw [length]
    exact tells.bounded call mem
  have nothing {m' : Mail} (same : m'.told = m.told) :
      ∃ new, m'.told = m.told ++ new ∧ ∀ n ∈ new, n ≤ m'.queue.length :=
    ⟨[], by rw [same, List.append_nil], fun _ mem => absurd mem List.not_mem_nil⟩
  cases post with
  | arrive sample => exact nothing rfl
  | notify readFails loanFails =>
    rw [Mail.step]
    split
    · exact tell tells_onDataAvailable
    · exact nothing rfl
  | setCallback callback userData readFails loanFails rc =>
    exact tell (tells_setOnNewCallback rc userData callback)
  | take header message failAt => exact nothing rfl

/-- **What arrives is counted once.** In the inbox of a service or a client, whatever is called and
whatever fails: the numbers its callbacks are told add up to the samples that arrived, but for those
that were taken out before they were counted and those that are not counted yet. No number is more
than there is to be taken. -/
theorem counted_once (r : Reader) (owner : Owner) (posts : List Post) :
    (Mail.after r owner posts).consumed.map Prod.fst ++ (Mail.after r owner posts).queue =
        (Mail.after r owner posts).received ∧
      (Mail.after r owner posts).told.sum +
          ((Mail.after r owner posts).consumed.unmarked.length +
            (Mail.after r owner posts).inbox.reader.samples.unmarked.length : Nat) =
        (Mail.after r owner posts).received.length ∧
      Each (fun before post => ∃ new, ((Mail.after r owner before).step r owner post).told =
          (Mail.after r owner before).told ++ new ∧
        ∀ n ∈ new, n ≤ ((Mail.after r owner before).step r owner post).queue.length) posts := by
  have sound : (Mail.after r owner posts).Sound := Mail.sound_after posts
  refine ⟨sound.samples, ?_, fun before post _ => Mail.step_told _ post⟩
  have consumed := Marked.length_unmarked_add (q := (Mail.after r owner posts).consumed)
  have there := Marked.length_unmarked_add (q := (Mail.after r owner posts).inbox.reader.samples)
  have length := congrArg List.length sound.samples
  rw [List.length_append, List.length_map, Mail.queue, List.length_map] at length
  rw [sound.sum]
  omega

end Sound

/-! ## Responses -/

/-- A response of the client's own: it is valid, it can be read, and it answers a request of the
client. -/
def Own (r : Reader) (client : ClientInfo) (s : RawSample) : Prop :=
  s.info.validData = true ∧ ∃ data before i, s.message = some data ∧
    (r.identify before false data s.info).target = some i ∧
    client.writerGuid = i.requestId.writerGuid

/-- A call has taken what is in a sample. -/
def Holds (r : Reader) (took : Took) (s : RawSample) : Prop :=
  ∃ data i, s.message = some data ∧ took.From r false data s.info i

section Responses

variable {r : Reader} {header : RmwServiceInfo} {client : ClientInfo} {message : Value}
  {queue : List RawSample} {s : RawSample}

/-- What two programs that begin alike come to, they come to from the same point. -/
theorem of_bind_ok_both {ε σ α β : Type} {x : EStateM ε σ α} {f g : α → EStateM ε σ β}
    {s s₁ s₂ : σ} {b₁ b₂ : β} (h₁ : (x >>= f) s = .ok b₁ s₁) (h₂ : (x >>= g) s = .ok b₂ s₂) :
    ∃ a s', f a s' = .ok b₁ s₁ ∧ g a s' = .ok b₂ s₂ := by
  obtain ⟨a, s', ran, rest₁⟩ := of_bind_ok h₁
  rw [bind_ok ran] at h₂
  exact ⟨a, s', rest₁, h₂⟩

/-- The envelope says the same, whatever the message is read into. -/
theorem serviceBasic_envelope {t : Target} {members : MessageMembers} {before before' : Value}
    {isRequest : Bool} {b b₁ b₂ : CdrDeserializationBuffer} {e e' : ServiceBasic}
    (h : Des.serviceBasic t members before isRequest b = .ok e b₁)
    (h' : Des.serviceBasic t members before' isRequest b = .ok e' b₂) :
    e.snHigh = e'.snHigh ∧ e.snLow = e'.snLow ∧ e.clientGuid = e'.clientGuid := by
  obtain ⟨guidLow, _, h, h'⟩ := of_bind_ok_both h h'
  obtain ⟨guidHigh, _, h, h'⟩ := of_bind_ok_both h h'
  obtain ⟨snHigh, _, h, h'⟩ := of_bind_ok_both h h'
  obtain ⟨snLow, _, h, h'⟩ := of_bind_ok_both h h'
  obtain ⟨_, _, h, h'⟩ := of_bind_ok_both h h'
  obtain ⟨v, _, -, h⟩ := of_bind_ok h
  obtain ⟨v', _, -, h'⟩ := of_bind_ok h'
  cases h
  cases h'
  exact ⟨rfl, rfl, rfl⟩

/-- Something is read only by a body that returns it. -/
theorem tryDeserialize_target {α : Type} {o : ByteOrder} {bytes : List Byte} {body : Des α} {a : α}
    (read : (tryDeserialize o bytes body).target = some a) :
    ∃ b b', CdrDeserializationBuffer.make o bytes = .ok b ∧ body b = .ok a b' := by
  unfold tryDeserialize at read
  cases made : CdrDeserializationBuffer.make o bytes with
  | error e =>
    rw [made] at read
    exact nomatch read
  | ok b =>
    rw [made] at read
    dsimp only at read
    cases run : body b with
    | ok a' b' =>
      rw [run] at read
      obtain rfl := Option.some.inj read
      exact ⟨b, b', rfl, run⟩
    | error e b' =>
      rw [run] at read
      exact nomatch read

/-- **A sample belongs to one request**, whatever its message is read into. -/
theorem identify_requestId {before before' : Value} {isRequest : Bool} {data : List Byte}
    {info : SampleInfoEx} {i i' : Identified}
    (read : (r.identify before isRequest data info).target = some i)
    (read' : (r.identify before' isRequest data info).target = some i') :
    i.requestId = i'.requestId := by
  unfold Reader.identify at read read'
  cases basic : r.serviceMappingBasic with
  | false =>
    simp only [basic, Bool.false_eq_true, if_false, Deserialized.map, Option.map_eq_some_iff]
      at read read'
    obtain ⟨_, -, rfl⟩ := read
    obtain ⟨_, -, rfl⟩ := read'
    rfl
  | true =>
    simp only [basic, if_true, Deserialized.map, Option.map_eq_some_iff] at read read'
    obtain ⟨e, read, rfl⟩ := read
    obtain ⟨e', read', rfl⟩ := read'
    unfold deserializeServiceBasic at read read'
    cases members : r.members with
    | nullptr =>
      rw [members] at read
      cases read
    | mk ns name ms =>
      rw [members] at read read'
      obtain ⟨b, _, made, run⟩ := tryDeserialize_target read
      obtain ⟨b', _, made', run'⟩ := tryDeserialize_target read'
      obtain rfl := Except.ok.inj (made.symm.trans made')
      obtain ⟨high, low, guid⟩ := serviceBasic_envelope run run'
      rw [high, low, guid]

/-- A response that is read for another client is not the client's own. -/
theorem not_own_of_read {before : Value} {data : List Byte} {i : Identified}
    (message : s.message = some data)
    (read : (r.identify before false data s.info).target = some i)
    (other : client.writerGuid ≠ i.requestId.writerGuid) : ¬ Own r client s := by
  rintro ⟨-, data', before', i', message', read', own⟩
  obtain rfl := Option.some.inj (message.symm.trans message')
  rw [identify_requestId read read'] at other
  exact other own

/-- How a call that returns `RMW_RET_OK` ends on a reader that holds `queue`, of which it takes `n`
samples: it has passed over samples, and there was one of its own or no other. -/
inductive Responded (r : Reader) (client : ClientInfo) (queue : List RawSample) (took : Took)
    (n : Nat) : Prop
  | own (passed : List RawSample) (s : RawSample) (rest : List RawSample)
    (split : queue = passed ++ s :: rest) (others : ∀ p ∈ passed, ¬ Own r client p)
    (mine : Own r client s) (holds : Holds r took s) (taken : took.taken = true)
    (count : n = passed.length + 1)
  | nothing (others : ∀ p ∈ queue, ¬ Own r client p) (taken : took.taken = false)
    (count : n = queue.length)

theorem Responded.count_le {took : Took} {n : Nat} (responded : Responded r client queue took n) :
    n ≤ queue.length := by
  cases responded with
  | own passed s rest split others mine holds taken count =>
    rw [split, count, List.length_append, List.length_cons]
    omega
  | nothing others taken count => exact count.le

/-- A sample that is passed over comes before the rest. -/
theorem Responded.cons {took : Took} {n : Nat} (responded : Responded r client queue took n)
    (other : ¬ Own r client s) : Responded r client (s :: queue) took (n + 1) := by
  cases responded with
  | own passed t rest split others mine holds taken count =>
    refine .own (s :: passed) t rest ?_ (List.forall_mem_cons.mpr ⟨other, others⟩) mine holds taken
      ?_
    · rw [split, List.cons_append]
    · rw [count, List.length_cons]
  | nothing others taken count =>
    refine .nothing (List.forall_mem_cons.mpr ⟨other, others⟩) taken ?_
    rw [count, List.length_cons]

/-- **A call of `rmw_take_response`**, by induction on what the reader holds. -/
theorem rmwTakeResponse_responded {failAt : Option Nat}
    (returned : (rmwTakeResponse r header client message (answers failAt queue)).ret = .ok .ok) :
    Responded r client queue (rmwTakeResponse r header client message (answers failAt queue))
      (responsesRemoved r client message (answers failAt queue)) := by
  induction queue generalizing message failAt with
  | nil =>
    rcases failAt with _ | _ | k
    · exact .nothing (fun _ mem => absurd mem List.not_mem_nil) rfl rfl
    · cases returned
    · exact .nothing (fun _ mem => absurd mem List.not_mem_nil) rfl rfl
  | cons s queue ih =>
    have next : failAt = some 0 ∨ answers failAt (s :: queue) =
        .sample s.message s.info :: answers (failAt.map Nat.pred) queue := by
      rcases failAt with _ | _ | k
      · exact .inr rfl
      · exact .inl rfl
      · exact .inr rfl
    rcases next with rfl | next
    · cases returned
    · rw [next] at returned ⊢
      simp only [rmwTakeResponse, responsesRemoved] at returned ⊢
      by_cases valid : s.info.validData = true
      · rw [if_pos valid] at returned ⊢
        rw [if_pos valid]
        cases data : s.message with
        | none =>
          simp only [data] at returned
          cases returned
        | some bytes =>
          cases read : (r.identify message false bytes s.info).target with
          | none =>
            simp only [data, read] at returned
            cases ret : (r.identify message false bytes s.info).ret <;>
              · rw [Took.nothing, ret] at returned
                cases returned
          | some i =>
            simp only [data, read] at returned ⊢
            by_cases own : client.writerGuid = i.requestId.writerGuid
            · rw [if_pos own, if_pos own]
              exact .own [] s queue rfl (fun _ mem => absurd mem List.not_mem_nil)
                ⟨valid, bytes, message, i, data, read, own⟩
                ⟨bytes, i, data, ⟨message, read⟩, rfl, rfl⟩ rfl rfl
            · rw [if_neg own] at returned ⊢
              rw [if_neg own]
              exact (ih returned).cons (not_own_of_read data read own)
      · rw [if_neg valid] at returned ⊢
        rw [if_neg valid]
        exact (ih returned).cons fun own => valid own.1

end Responses

/-! ## Responses of a run -/

/-- The responses that calls have reported, in their order. -/
def delivered (log : List Entry) : List Took :=
  (log.map Entry.took).filter fun took => took.taken

/-- A call has ended on a reader as it should. -/
def Entry.Right (r : Reader) (client : ClientInfo) (e : Entry) : Prop :=
  Responded r client (e.removed ++ e.left) e.took e.removed.length

section Log

variable {r : Reader} {client : ClientInfo} {log : List Entry} {e : Entry}

open Classical in
/-- A call that ended as it should delivers the client's own response among those it took out, if
there is one. -/
theorem Entry.Right.delivers (right : e.Right r client) :
    List.Forall₂ (Holds r) (delivered [e]) (e.removed.filter fun s => decide (Own r client s)) ∧
      (e.took.taken = false → e.left = []) := by
  have none_own {samples : List RawSample} (others : ∀ p ∈ samples, ¬ Own r client p) :
      samples.filter (fun s => decide (Own r client s)) = [] :=
    List.filter_eq_nil_iff.mpr fun p mem => by simpa using others p mem
  cases right with
  | own passed s rest split others mine holds taken count =>
    have removed : e.removed = passed ++ [s] := by
      rw [← List.singleton_append, ← List.append_assoc] at split
      exact (List.append_inj split (by simp [count])).1
    refine ⟨?_, fun untaken => absurd (taken.symm.trans untaken) (by decide)⟩
    rw [removed, List.filter_append, none_own others]
    simpa [delivered, taken, mine] using holds
  | nothing others taken count =>
    rw [List.length_append] at count
    refine ⟨?_, fun _ => List.length_eq_zero_iff.mp (by omega)⟩
    rw [none_own fun p mem => others p (List.mem_append_left _ mem)]
    simp [delivered, taken]

open Classical in
theorem delivers_of_entries (right : ∀ e ∈ log, e.Right r client) :
    List.Forall₂ (Holds r) (delivered log)
      ((log.flatMap Entry.removed).filter fun s => decide (Own r client s)) := by
  induction log with
  | nil => exact .nil
  | cons e log ih =>
    have now := (right e List.mem_cons_self).delivers.1
    have later := ih fun e mem => right e (List.mem_cons_of_mem _ mem)
    have split : delivered (e :: log) = delivered [e] ++ delivered log := by
      simp [delivered, ← List.filter_append]
    rw [split, List.flatMap_cons, List.filter_append]
    exact List.rel_append now later

end Log

/-- The samples taken out are those that the calls took out, and each call ended as its function
does. -/
structure Mail.Logged (r : Reader) (client : ClientInfo) (m : Mail) : Prop where
  consumed : m.consumed.map Prod.fst = m.log.flatMap Entry.removed
  right : ∀ e ∈ m.log, e.took.ret = .ok .ok → e.Right r client

section Delivery

variable {r : Reader} {client : ClientInfo} {m : Mail}

theorem Mail.Logged.step (logged : m.Logged r client) (post : Post) :
    (m.step r (.client client) post).Logged r client := by
  cases post with
  | arrive sample => exact ⟨logged.consumed, logged.right⟩
  | notify readFails loanFails =>
    rw [Mail.step]
    split
    · exact ⟨logged.consumed, logged.right⟩
    · exact logged
  | setCallback callback userData readFails loanFails rc => exact ⟨logged.consumed, logged.right⟩
  | take header message failAt =>
    refine ⟨?_, fun e mem returned => ?_⟩
    · simp only [Mail.step, Mail.takeOut, List.map_append, List.flatMap_append,
        List.flatMap_singleton, logged.consumed]
      rw [Mail.queue, List.map_take]
    · rcases List.mem_append.mp mem with mem | mem
      · exact logged.right e mem returned
      · obtain rfl := List.mem_singleton.mp mem
        have responded : Responded r client m.queue
            (Owner.take r header message failAt m.queue (.client client)).1
            (Owner.take r header message failAt m.queue (.client client)).2 :=
          rmwTakeResponse_responded returned
        rw [Entry.Right, List.take_append_drop, List.length_take,
          Nat.min_eq_left responded.count_le]
        exact responded

open Classical in
/-- **A client's calls deliver its own responses.** In every run of the inbox of a client, in both
mappings, whatever arrives, is counted and is taken: while the calls of `rmw_take_response` return
`RMW_RET_OK`, those that report a response deliver the client's own among the samples taken out, one
each and in order. These are a beginning of what arrived, and all of it when a call reports none. -/
theorem own_responses_delivered (r : Reader) (client : ClientInfo) (posts : List Post)
    (returned : ∀ e ∈ (Mail.after r (.client client) posts).log, e.took.ret = .ok .ok) :
    List.Forall₂ (Holds r) (delivered (Mail.after r (.client client) posts).log)
        (((Mail.after r (.client client) posts).consumed.map Prod.fst).filter
          fun s => decide (Own r client s)) ∧
      (Mail.after r (.client client) posts).consumed.map Prod.fst ++
          (Mail.after r (.client client) posts).queue =
        (Mail.after r (.client client) posts).received ∧
      ∀ e ∈ (Mail.after r (.client client) posts).log, e.took.taken = false → e.left = [] := by
  have logged : (Mail.after r (.client client) posts).Logged r client :=
    run_invariant (I := Mail.Logged r client) ⟨rfl, fun _ mem => absurd mem List.not_mem_nil⟩
      (fun _ post logged => logged.step post) posts
  have right (e : Entry) (mem : e ∈ (Mail.after r (.client client) posts).log) :
      e.Right r client := logged.right e mem (returned e mem)
  refine ⟨?_, (Mail.sound_after posts).samples, fun e mem => (right e mem).delivers.2⟩
  rw [logged.consumed]
  exact delivers_of_entries right

end Delivery

/-! ## Samples -/

/-- A response with one byte, to a client. -/
def oneByteResponse (writerGuid : Gid) : RawSample where
  message := some [0, 1, 0, 0, 5]
  info := { (RequestId.mk writerGuid 1).describe { sec := 0, nanosec := 0 } with validData := true }
  publicationHandle := 0

/-- A response to someone else and one of its own arrive at a client. They are counted, and it takes
twice. -/
def samplePosts : List Post :=
  [.arrive (oneByteResponse (Vector.replicate 16 0)), .arrive (oneByteResponse sampleGuid),
    .setCallback (some 1) 0 false false .ok, .take sampleHeader (.message []) none,
    .take sampleHeader (.message []) none]

open Classical in
theorem own_responses_delivered_sample :
    List.Forall₂ (Holds sampleReader)
        (delivered (Mail.after sampleReader (.client (.create sampleGuid)) samplePosts).log)
        (((Mail.after sampleReader (.client (.create sampleGuid)) samplePosts).consumed.map
          Prod.fst).filter fun s => decide (Own sampleReader (.create sampleGuid) s)) ∧
      (Mail.after sampleReader (.client (.create sampleGuid)) samplePosts).consumed.map Prod.fst ++
          (Mail.after sampleReader (.client (.create sampleGuid)) samplePosts).queue =
        (Mail.after sampleReader (.client (.create sampleGuid)) samplePosts).received ∧
      ∀ e ∈ (Mail.after sampleReader (.client (.create sampleGuid)) samplePosts).log,
        e.took.taken = false → e.left = [] :=
  own_responses_delivered sampleReader (.create sampleGuid) samplePosts (by decide +kernel)

/-- The first call delivers, the second finds nothing, and the callback was told of two. -/
example :
    ((Mail.after sampleReader (.client (.create sampleGuid)) samplePosts).log.map
        fun e => (e.took.taken, e.removed.length)) = [(true, 2), (false, 0)] ∧
      (Mail.after sampleReader (.client (.create sampleGuid)) samplePosts).told = [2] := by
  decide +kernel

end Service
