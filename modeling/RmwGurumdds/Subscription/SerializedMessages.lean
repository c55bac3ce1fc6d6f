import RmwGurumdds.Cdr.MemoryLength
import RmwGurumdds.Cdr.RmwSerialize
import RmwGurumdds.Exec.Runs
import RmwGurumdds.Subscription.SubscriberInfo

/-!
# Serialized messages

A user keeps a serialized message over many calls: `rmw_serialize` writes a message into it, and
`take_serialized` the next message of a subscription. Both set its length and make its buffer larger
where that is needed. Everyone who reads it later reads as many bytes as the length says.

Both set the length before they know whether the buffer can grow, and `rmw_serialize` the capacity
as well. A message is consistent after a call exactly if the buffer was large enough or could grow
(`consistent_after_iff`), and so throughout a run exactly if every call could make room.
-/

namespace Subscription

open Wire Rmw Cdr Exec

/-! ## Taking -/

/-- What DDS does in a call of `take_serialized`: which sequences it creates, how the raw take ends,
and the first sample with its size. -/
structure RawTaken where
  dataValues : Bool
  sampleInfos : Bool
  sampleSizes : Bool
  ret : DdsReturnCode
  sample : TopicSample (Option (List Byte))
  sampleSize : BitVec 32

/-- How a call of `take_serialized` ends. -/
structure TookSerialized where
  ret : RmwRet
  errorMsg : Option String
  taken : Bool
  messageInfo : Option MessageInfo
  serializedMessage : SerializedMessage

/-- Nothing is taken. -/
def TookSerialized.nothing (ret : RmwRet) (errorMsg : Option String)
    (serializedMessage : SerializedMessage) : TookSerialized where
  ret := ret
  errorMsg := errorMsg
  taken := false
  messageInfo := none
  serializedMessage := serializedMessage

/-- `std::memcpy` to the buffer, where its memory is large enough. -/
def copyIn (bytes : List Byte) (m : SerializedMessage) : SerializedMessage :=
  { m with buffer := m.buffer.map fun mem => (poke mem 0 bytes).getD mem }

/-- The length is set, and the buffer resized if it is too small. `resize` is
`rmw_serialized_message_resize`. -/
def makeRoom (resize : SerializedMessage → Nat → RmwRet × SerializedMessage) (size : Nat)
    (m : SerializedMessage) : RmwRet × SerializedMessage :=
  if m.bufferCapacity < size then resize { m with bufferLength := size } size
  else (.ok, { m with bufferLength := size })

/-- `take_serialized`. -/
def takeSerialized (guidOf : Nat → Option Gid)
    (resize : SerializedMessage → Nat → RmwRet × SerializedMessage) (wantsInfo : Bool)
    (raw : RawTaken) (serializedMessage : SerializedMessage) : TookSerialized :=
  if !raw.dataValues then
    .nothing .error "failed to create data sequence" serializedMessage
  else if !raw.sampleInfos then
    .nothing .error "failed to create sample info sequence" serializedMessage
  else if !raw.sampleSizes then
    .nothing .error "failed to create sample size sequence" serializedMessage
  else
    match raw.ret with
    | .noData => .nothing .ok none serializedMessage
    | .ok =>
      if raw.sample.info.validData then
        match raw.sample.message with
        | none => .nothing .error "failed to take data" serializedMessage
        | some sample =>
          let sampleSize := raw.sampleSize.toNat
          match makeRoom resize sampleSize serializedMessage with
          | (.ok, serializedMessage) =>
            { ret := .ok
              errorMsg := none
              taken := true
              messageInfo := if wantsInfo then some (raw.sample.messageInfo guidOf) else none
              serializedMessage := copyIn (sample.take sampleSize) serializedMessage }
          -- The message was set by the resize.
          | (ret, serializedMessage) => .nothing ret none serializedMessage
      else .nothing .ok none serializedMessage
    | _ => .nothing .error "failed to take data" serializedMessage

/-! ## Calls -/

/-- A call on a serialized message, with what it is given and how others behave in it. -/
inductive MessageCall where
  | serialize (lang : LanguageKind) (o : ByteOrder) (allocate : Nat → Option (List Byte))
      (ts : Option MessageMembers) (rosMessage : Value)
  | takeSerialized (guidOf : Nat → Option Gid)
      (resize : SerializedMessage → Nat → RmwRet × SerializedMessage) (wantsInfo : Bool)
      (raw : RawTaken)

/-- The message after a call. -/
def afterCall (m : SerializedMessage) : MessageCall → SerializedMessage
  | .serialize lang o allocate ts rosMessage =>
    (rmwSerialize lang o allocate ts rosMessage m).serializedMessage
  | .takeSerialized guidOf resize wantsInfo raw =>
    (takeSerialized guidOf resize wantsInfo raw m).serializedMessage

/-- The length is within the capacity, and the buffer is as large as the capacity says. -/
def Consistent (m : SerializedMessage) : Prop :=
  m.bufferLength ≤ m.bufferCapacity ∧
    match m.buffer with
    | none => m.bufferCapacity = 0
    | some mem => mem.length = m.bufferCapacity

/-- `rmw_serialized_message_resize` as it is documented: the capacity is what was asked for, and a
longer length is cut off; or nothing is changed. -/
structure Resizes (resize : SerializedMessage → Nat → RmwRet × SerializedMessage) : Prop where
  succeeds : ∀ m n m', resize m n = (.ok, m') → m'.bufferCapacity = n ∧
    m'.bufferLength = min m.bufferLength n ∧ m'.buffer.map List.length = some n
  fails : ∀ m n ret m', resize m n = (ret, m') → ret ≠ .ok → m' = m

/-- The others of a call behave as they are documented. -/
def MessageCall.Documented : MessageCall → Prop
  | .serialize _ _ allocate _ _ => ∀ n mem, allocate n = some mem → mem.length = n
  | .takeSerialized _ resize _ _ => Resizes resize

/-- The size that a call needs the buffer to have, if it comes to that. -/
def MessageCall.needs : MessageCall → Option Nat
  | .serialize _ _ _ none _ => none
  | .serialize lang o _ (some members) rosMessage =>
    match (getSerializedSize lang o members (some rosMessage)).ret with
    | .error _ => none
    | .ok ssize => if ssize < 0 then none else some ssize.toNat
  | .takeSerialized _ _ _ raw =>
    if raw.dataValues && raw.sampleInfos && raw.sampleSizes && raw.ret = .ok &&
      raw.sample.info.validData && raw.sample.message.isSome then some raw.sampleSize.toNat
    else none

/-- The allocator, or the resize, succeeds for a size. -/
def MessageCall.Grants (m : SerializedMessage) (size : Nat) : MessageCall → Prop
  | .serialize _ _ allocate _ _ => (allocate size).isSome = true
  | .takeSerialized _ resize _ _ => (resize { m with bufferLength := size } size).1 = .ok

/-- A call that needs a larger buffer gets one. -/
def MakesRoom (m : SerializedMessage) (call : MessageCall) : Prop :=
  ∀ size, call.needs = some size → m.bufferCapacity < size → call.Grants m size

section Consistency

variable {m m' : SerializedMessage}

/-- Of the buffer, only its length matters. -/
theorem consistent_iff : Consistent m ↔ m.bufferLength ≤ m.bufferCapacity ∧
    (m.buffer.map List.length).getD 0 = m.bufferCapacity := by
  unfold Consistent
  cases m.buffer with
  | none => simp [eq_comm]
  | some mem => simp

theorem copyIn_length (bytes : List Byte) :
    (copyIn bytes m).buffer.map List.length = m.buffer.map List.length := by
  unfold copyIn
  cases m.buffer with
  | none => rfl
  | some mem =>
    cases stored : poke mem 0 bytes with
    | none => simp [stored]
    | some mem' => simp [stored, poke_length stored]

theorem consistent_copyIn (bytes : List Byte) : Consistent (copyIn bytes m) ↔ Consistent m := by
  rw [consistent_iff, consistent_iff, copyIn_length]
  rfl

/-- A length that the buffer holds. -/
theorem consistent_length (consistent : Consistent m) {size : Nat}
    (fits : size ≤ m.bufferCapacity) : Consistent { m with bufferLength := size } :=
  ⟨fits, consistent.2⟩

/-- Room that was made is there, or the message is not consistent. -/
theorem consistent_makeRoom {resize : SerializedMessage → Nat → RmwRet × SerializedMessage}
    (documented : Resizes resize) (consistent : Consistent m) (size : Nat) :
    (Consistent (makeRoom resize size m).2 ↔ (makeRoom resize size m).1 = .ok) ∧
      ((makeRoom resize size m).1 = .ok ↔ (m.bufferCapacity < size →
        (resize { m with bufferLength := size } size).1 = .ok)) := by
  unfold makeRoom
  by_cases small : m.bufferCapacity < size
  · rw [if_pos small]
    refine ⟨?_, fun ok _ => ok, fun grants => grants small⟩
    cases resized : resize { m with bufferLength := size } size with
    | mk ret m' =>
      by_cases ok : ret = .ok
      · subst ok
        obtain ⟨capacity, length, buffer⟩ := documented.succeeds _ _ _ resized
        refine iff_of_true (consistent_iff.mpr ⟨?_, ?_⟩) rfl
        · rw [length, capacity]
          exact min_le_right _ _
        · rw [buffer, capacity]
          rfl
      · refine iff_of_false (fun kept => ?_) ok
        rw [documented.fails _ _ _ _ resized ok] at kept
        exact absurd kept.1 (Nat.not_le.mpr small)
  · rw [if_neg small]
    exact ⟨iff_of_true (consistent_length consistent (Nat.le_of_not_lt small)) rfl,
      iff_of_true rfl fun less => absurd less small⟩

/-- What `rmw_serialize` reserves is there, or the message is not consistent. -/
theorem consistent_reserve {allocate : Nat → Option (List Byte)}
    (documented : ∀ n mem, allocate n = some mem → mem.length = n) (consistent : Consistent m)
    (size : Nat) : Consistent (m.reserve allocate size) ↔
      (m.bufferCapacity < size → (allocate size).isSome = true) := by
  unfold SerializedMessage.reserve
  by_cases small : m.bufferCapacity < size
  · rw [if_pos small, consistent_iff]
    cases allocated : allocate size with
    | none =>
      refine iff_of_false ?_ fun grants => absurd (grants small) (by simp)
      rintro ⟨-, capacity⟩
      have zero : 0 = size := capacity
      omega
    | some mem =>
      exact iff_of_true ⟨le_rfl, documented size mem allocated⟩ fun _ => rfl
  · rw [if_neg small]
    exact iff_of_true (consistent_length consistent (Nat.le_of_not_lt small))
      fun less => absurd less small

/-- A call that needs no buffer has nothing to make. -/
theorem makesRoom_of_needless {call : MessageCall} (needless : call.needs = none) :
    MakesRoom m call := by
  intro size needed
  rw [needless] at needed
  cases needed

/-- A call has one size to make room for. -/
theorem makesRoom_iff {call : MessageCall} {size : Nat} (needed : call.needs = some size) :
    MakesRoom m call ↔ (m.bufferCapacity < size → call.Grants m size) := by
  constructor
  · exact fun room => room size needed
  · intro grants size' needed'
    rw [needed] at needed'
    cases needed'
    exact grants

theorem consistent_serialize {lang : LanguageKind} {o : ByteOrder}
    {allocate : Nat → Option (List Byte)}
    (documented : ∀ n mem, allocate n = some mem → mem.length = n) (consistent : Consistent m)
    (ts : Option MessageMembers) (rosMessage : Value) :
    Consistent (rmwSerialize lang o allocate ts rosMessage m).serializedMessage ↔
      MakesRoom m (.serialize lang o allocate ts rosMessage) := by
  cases ts with
  | none => exact iff_of_true consistent (makesRoom_of_needless rfl)
  | some members =>
    cases sized : (getSerializedSize lang o members (some rosMessage)).ret with
    | error e =>
      simp only [rmwSerialize, sized]
      exact iff_of_true consistent (makesRoom_of_needless (by simp [MessageCall.needs, sized]))
    | ok ssize =>
      by_cases negative : ssize < 0
      · simp only [rmwSerialize, sized, if_pos negative]
        exact iff_of_true consistent
          (makesRoom_of_needless (by simp [MessageCall.needs, sized, negative]))
      · have needed : (MessageCall.serialize lang o allocate (some members) rosMessage).needs =
            some ssize.toNat := by
          simp [MessageCall.needs, sized, negative]
        rw [makesRoom_iff needed]
        simp only [rmwSerialize, sized, if_neg negative]
        refine Iff.trans ?_ (consistent_reserve documented consistent ssize.toNat)
        -- Writing does not change how much memory there is.
        rw [consistent_iff, consistent_iff, serializeRosToCdr_length]

/-- Either no sample is handed out, and the message is not looked at, or there is one, and what
happens to the message is a matter of room. -/
theorem takeSerialized_cases (guidOf : Nat → Option Gid)
    (resize : SerializedMessage → Nat → RmwRet × SerializedMessage) (wantsInfo : Bool)
    (raw : RawTaken) (m : SerializedMessage) :
    ((MessageCall.takeSerialized guidOf resize wantsInfo raw).needs = none ∧
      (takeSerialized guidOf resize wantsInfo raw m).serializedMessage = m) ∨
    ∃ bytes, (MessageCall.takeSerialized guidOf resize wantsInfo raw).needs =
        some raw.sampleSize.toNat ∧
      (takeSerialized guidOf resize wantsInfo raw m).serializedMessage =
        if (makeRoom resize raw.sampleSize.toNat m).1 = .ok then
          copyIn bytes (makeRoom resize raw.sampleSize.toNat m).2
        else (makeRoom resize raw.sampleSize.toNat m).2 := by
  obtain ⟨dataValues, sampleInfos, sampleSizes, ret, ⟨message, info, handle⟩, sampleSize⟩ := raw
  cases dataValues with
  | false => exact .inl ⟨rfl, rfl⟩
  | true => ?_
  cases sampleInfos with
  | false => exact .inl ⟨rfl, rfl⟩
  | true => ?_
  cases sampleSizes with
  | false => exact .inl ⟨rfl, rfl⟩
  | true => ?_
  cases ret with
  | noData | error | timeout | other => exact .inl ⟨rfl, rfl⟩
  | ok => ?_
  by_cases valid : info.validData = true
  case neg =>
    refine .inl ⟨?_, ?_⟩
    · simp [MessageCall.needs, valid]
    · simp [takeSerialized, valid, TookSerialized.nothing]
  cases message with
  | none =>
    refine .inl ⟨?_, ?_⟩
    · simp [MessageCall.needs]
    · simp [takeSerialized, valid, TookSerialized.nothing]
  | some bytes =>
    refine .inr ⟨bytes.take sampleSize.toNat, by simp [MessageCall.needs, valid], ?_⟩
    simp only [takeSerialized, valid, Bool.not_true, Bool.false_eq_true, if_false, if_true]
    obtain ⟨ret, m'⟩ := makeRoom resize sampleSize.toNat m
    cases ret <;> rfl

theorem consistent_takeSerialized {guidOf : Nat → Option Gid}
    {resize : SerializedMessage → Nat → RmwRet × SerializedMessage} (documented : Resizes resize)
    (consistent : Consistent m) (wantsInfo : Bool) (raw : RawTaken) :
    Consistent (takeSerialized guidOf resize wantsInfo raw m).serializedMessage ↔
      MakesRoom m (.takeSerialized guidOf resize wantsInfo raw) := by
  obtain ⟨needless, same⟩ | ⟨bytes, needed, after⟩ :=
    takeSerialized_cases guidOf resize wantsInfo raw m
  · rw [same]
    exact iff_of_true consistent (makesRoom_of_needless needless)
  · obtain ⟨room, grants⟩ := consistent_makeRoom documented consistent raw.sampleSize.toNat
    rw [makesRoom_iff needed, after]
    refine Iff.trans ?_ (room.trans grants)
    split
    · exact consistent_copyIn bytes
    · rfl

/-- **A call leaves a consistent message consistent exactly if it makes room.** -/
theorem consistent_after_iff (consistent : Consistent m) {call : MessageCall}
    (documented : call.Documented) : Consistent (afterCall m call) ↔ MakesRoom m call := by
  cases call with
  | serialize lang o allocate ts rosMessage =>
    exact consistent_serialize documented consistent ts rosMessage
  | takeSerialized guidOf resize wantsInfo raw =>
    exact consistent_takeSerialized documented consistent wantsInfo raw

end Consistency

/-- **A serialized message is consistent throughout a run exactly if each call that needs a larger
buffer gets one.** -/
theorem consistent_throughout_iff (start : SerializedMessage) (consistent : Consistent start)
    (calls : List MessageCall) (documented : ∀ call ∈ calls, call.Documented) :
    Always (fun p => Consistent (run afterCall start p)) calls ↔
      Each (fun p call => MakesRoom (run afterCall start p) call) calls := by
  refine always_iff_each (I := fun _ => True) trivial consistent ?_
  intro p call before _ kept
  have mem : call ∈ calls := before.subset (by simp)
  refine ⟨fun _ => trivial, ?_⟩
  rw [run_concat]
  exact consistent_after_iff kept (documented call mem)

section Sample

/-- A message with one number in it. -/
def numberMessage : MessageMembers :=
  .mk "pkg__msg" "Number" [.mk "id" .uint16 false 0 false .nullptr]

/-- It is serialized into a message without a buffer. -/
def serializeNumber (allocate : Nat → Option (List Byte)) : MessageCall :=
  .serialize .c .little allocate (some numberMessage) (.message [.prim .uint16 7])

/-- A sample of twelve bytes is taken after it. -/
def takeTwelve (resize : SerializedMessage → Nat → RmwRet × SerializedMessage) : MessageCall :=
  .takeSerialized (fun _ => none) resize false {
    dataValues := true
    sampleInfos := true
    sampleSizes := true
    ret := .ok
    sample := {
      message := some (List.replicate 12 1)
      info := { SampleInfoEx.zero with validData := true }
      publicationHandle := 1 }
    sampleSize := 12 }

/-- A resize that finds memory. -/
def growing (m : SerializedMessage) (n : Nat) : RmwRet × SerializedMessage :=
  (.ok, {
    buffer := some (List.replicate n 0)
    bufferLength := min m.bufferLength n
    bufferCapacity := n })

theorem growing_resizes : Resizes growing where
  succeeds m n m' resized := by
    cases resized
    simp
  fails m n ret m' resized failed := by
    cases resized
    exact absurd rfl failed

/-- A message that was just initialised. -/
def emptyMessage : SerializedMessage := { buffer := none, bufferLength := 0, bufferCapacity := 0 }

theorem consistent_throughout_iff_growing :
    Always (fun p => Consistent (run afterCall emptyMessage p))
        [serializeNumber fun n => some (List.replicate n 0), takeTwelve growing] ↔
      Each (fun p call => MakesRoom (run afterCall emptyMessage p) call)
        [serializeNumber fun n => some (List.replicate n 0), takeTwelve growing] := by
  refine consistent_throughout_iff emptyMessage ⟨le_rfl, rfl⟩ _ ?_
  intro call mem
  rcases List.mem_cons.mp mem with rfl | mem
  · intro n block allocated
    rw [← Option.some.inj allocated, List.length_replicate]
  · rw [List.mem_singleton.mp mem]
    exact growing_resizes

/-- Without memory, `rmw_serialize` leaves no buffer and a capacity of eight, and a failed resize a
length of twelve. -/
theorem consistent_lost :
    ¬ Consistent (run afterCall emptyMessage [serializeNumber fun _ => none]) ∧
      (run afterCall emptyMessage [serializeNumber fun _ => none]).bufferCapacity = 8 ∧
      ¬ Consistent (run afterCall emptyMessage [takeTwelve fun m _ => (.badAlloc, m)]) := by
  refine ⟨?_, rfl, ?_⟩
  · rintro ⟨-, backed⟩
    have zero : 8 = 0 := backed
    exact absurd zero (by decide)
  · rintro ⟨within, -⟩
    exact absurd within (by decide)

end Sample

end Subscription
