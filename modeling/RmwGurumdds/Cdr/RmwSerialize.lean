import RmwGurumdds.Cdr.Handled
import RmwGurumdds.Cdr.Strict
import RmwGurumdds.Rmw.Types

/-!
# `rmw_serialize` and `rmw_deserialize`

What the middleware interface offers of the codec. A message is counted, the buffer of the caller is
made large enough, and the message is written into it; or it is read from the caller's bytes.

A `std::runtime_error` of the codec becomes `RMW_RET_ERROR`. A member the codec does not handle
makes neither do so: the writer's `std::logic_error` leaves `rmw_serialize` from the counting pass,
which has no handler at all, and the reader passes over it and returns `RMW_RET_OK` if the bytes
last (`unsupported_contained_iff`). An array that a 32-bit counter does not get through keeps the
counting pass for ever.
-/

namespace Cdr

open Wire Exec Rmw

/-! ## Functions -/

/-- `rmw_serialized_message_t`. The buffer is the memory behind the pointer, if it is not null. -/
structure SerializedMessage where
  buffer : Option (List Byte)
  bufferLength : Nat
  bufferCapacity : Nat

/-- The memory is as large as the capacity says. -/
def SerializedMessage.Backed (m : SerializedMessage) : Prop :=
  ∀ mem, m.buffer = some mem → m.bufferCapacity ≤ mem.length

/-- The length is set, and a buffer that is too small is replaced by one that `allocate` answers. -/
def SerializedMessage.reserve (m : SerializedMessage) (allocate : Nat → Option (List Byte))
    (size : Nat) : SerializedMessage :=
  if m.bufferCapacity < size then
    { buffer := allocate size, bufferLength := size, bufferCapacity := size }
  else { m with bufferLength := size }

/-- How a call of `rmw_serialize` ends. -/
structure RmwSerialized where
  ret : Except Exn RmwRet
  errorMsg : Option String
  serializedMessage : SerializedMessage

/-- `rmw_serialize`. `ts` is the description behind the type support, if it is one of the two this
implementation knows. -/
def rmwSerialize (lang : LanguageKind) (o : ByteOrder) (allocate : Nat → Option (List Byte))
    (ts : Option MessageMembers) (rosMessage : Value) (serializedMessage : SerializedMessage) :
    RmwSerialized :=
  match ts with
  | none =>
    { ret := .ok .error, errorMsg := some "type support not from this implementation",
      serializedMessage }
  | some members =>
    match (getSerializedSize lang o members (some rosMessage)).ret with
    | .error e => { ret := .error e, errorMsg := none, serializedMessage }
    | .ok ssize =>
      if ssize < 0 then
        { ret := .ok .error, errorMsg := some "failed to get size of serialized message",
          serializedMessage }
      else
        let size := ssize.toNat
        let room := serializedMessage.reserve allocate size
        let res := serializeRosToCdr lang o members rosMessage room.buffer size
        { ret := res.ret.map fun ok => if ok then .ok else .error
          errorMsg := res.errorMsg
          serializedMessage := { room with buffer := res.ddsMessage } }

/-- How a call of `rmw_deserialize` ends. -/
structure RmwDeserialized where
  ret : Except Exn RmwRet
  errorMsg : Option String
  target : Option Value

/-- `rmw_deserialize` of the bytes in the serialized message. -/
def rmwDeserialize (t : Target) (ts : Option MessageMembers) (serializedMessage : List Byte)
    (rosMessage : Value) : RmwDeserialized :=
  match ts with
  | none =>
    { ret := .ok .error, errorMsg := some "type support not from this implementation",
      target := none }
  | some members =>
    let res := deserializeCdrToRos t members rosMessage serializedMessage
    { ret := res.ret.map fun ok => if ok then .ok else .error
      errorMsg := res.errorMsg
      target := res.target }

/-! ## Members that are not handled -/

/-- A call ends with `RMW_RET_OK` or with `RMW_RET_ERROR`, and with the latter where its walk
reached a member that is not handled. -/
structure Contained (ret : Except Exn RmwRet) (reached : Prop) : Prop where
  returns : ret = .ok .ok ∨ ret = .ok .error
  error : reached → ret = .ok .error

section Serialize

variable {lang : LanguageKind} {o : ByteOrder} {allocate : Nat → Option (List Byte)}
variable {d : MessageMembers} {v : Value} {serializedMessage : SerializedMessage}

/-- A buffer that was made large enough is. -/
theorem reserve_backed (allocates : ∀ n mem, allocate n = some mem → n ≤ mem.length)
    (backed : serializedMessage.Backed) {size : Nat} {mem : List Byte}
    (there : (serializedMessage.reserve allocate size).buffer = some mem) : size ≤ mem.length := by
  unfold SerializedMessage.reserve at there
  split at there
  · exact allocates size mem there
  · rename_i enough
    exact (Nat.le_of_not_lt enough).trans (backed mem there)

/-- What is caught makes a function return false. -/
theorem caught_runtime (message : String) {e : Exn} (runtime : e.isRuntime = true) :
    (caught message e).1 = .ok false := by
  cases e with
  | runtimeError what => rfl
  | _ => exact absurd runtime Bool.false_ne_true

/-- A writing pass that goes on to its end returns, with the message written or not. -/
theorem trySerialize_returns {body : Ser Unit} (goes : Goes true body true)
    {buffer : Option (List Byte)} {n : Nat} (there : ∀ mem, buffer = some mem → n ≤ mem.length)
    (small : n < 2 ^ 63) :
    (trySerialize o buffer n body).ret = .ok true ∨
      (trySerialize o buffer n body).ret = .ok false := by
  cases buffer with
  | none => exact .inr rfl
  | some mem =>
    have enough := there mem rfl
    unfold trySerialize
    by_cases room : cdrHeaderSize ≤ n
    · have length := header_drop_length o (room.trans enough)
      have ready : CdrSerializationBuffer.Ready true
          { offset := 0, size := n - cdrHeaderSize, mem := header o ++ mem.drop cdrHeaderSize } :=
        ⟨nofun, fun _ => Nat.zero_le _, fun _ => (Nat.sub_le _ _).trans_lt small,
          fun _ => by dsimp only; omega⟩
      rw [make_true o enough room]
      dsimp only
      cases run : body { offset := 0, size := n - cdrHeaderSize,
                         mem := header o ++ mem.drop cdrHeaderSize } with
      | ok a b => exact .inl rfl
      | error e b =>
        have ends := goes.error _ e b ready run
        unfold Exn.Ends at ends
        split at ends
        · rename_i runtime
          exact .inr (caught_runtime _ runtime)
        · cases ends
    · have made : CdrSerializationBuffer.make true o (some mem) n =
          .error (.runtimeError "Insufficient buffer size") := if_pos (Nat.lt_of_not_le room)
      rw [made]
      exact .inr rfl

/-- The counting pass starts in a buffer that is ready. -/
theorem counting_ready :
    CdrSerializationBuffer.Ready false { offset := 0, size := 2 ^ 64 - 1, mem := [] } :=
  ⟨fun _ => rfl, nofun, nofun, nofun⟩

/-- What a `ssize_t` that is not negative was cast from. -/
theorem ssizeT_nonneg {n : Nat} (h : ¬ ssizeT (sizeT n) < 0) :
    (ssizeT (sizeT n)).toNat < 2 ^ 63 := by
  unfold ssizeT sizeT at h ⊢
  split at h <;> omega

/-- **A message whose members are all handled is serialized, or there is no room**, if the loops
over its arrays end. -/
theorem rmwSerialize_of_passes (allocates : ∀ n mem, allocate n = some mem → n ≤ mem.length)
    (backed : serializedMessage.Backed) (linked : d.linked = true) (fits : d.fits v = true)
    (stored : d.stored v = true) (passes : d.sends (MessageMember.passes lang) v = true) :
    (rmwSerialize lang o allocate (some d) v serializedMessage).ret = .ok .ok ∨
      (rmwSerialize lang o allocate (some d) v serializedMessage).ret = .ok .error := by
  have goes (S : Bool) : Goes S (Ser.serialize S lang o d v true) true := by
    have whole : Goes S (Ser.serialize S lang o d v true) (d.sends (MessageMember.passes lang) v) :=
      goes_serialize linked fits stored
    rwa [passes] at whole
  cases d with
  | nullptr => exact absurd linked Bool.false_ne_true
  | mk ns name ms =>
    unfold rmwSerialize getSerializedSize CdrSerializationBuffer.make
    dsimp only
    cases run : Ser.serialize false lang o (.mk ns name ms) v true
        { offset := 0, size := 2 ^ 64 - 1, mem := [] } with
    | error e b =>
      have ends := (goes false).error _ e b counting_ready run
      unfold Exn.Ends at ends
      split at ends <;> cases ends
    | ok a b =>
      dsimp only
      split
      · exact .inr rfl
      · rename_i nonneg
        have written := trySerialize_returns (o := o) (goes true)
          (fun mem there => reserve_backed allocates backed there) (ssizeT_nonneg nonneg)
        unfold serializeRosToCdr
        dsimp only
        rcases written with whole | short
        · rw [whole]
          exact .inl rfl
        · rw [short]
          exact .inr rfl

/-- **A member that is not handled leaves `rmw_serialize` as an exception**, or a loop of the
counting pass does not end. -/
theorem rmwSerialize_of_not_passes (linked : d.linked = true) (fits : d.fits v = true)
    (stored : d.stored v = true) (passes : d.sends (MessageMember.passes lang) v = false) :
    ∃ e, (rmwSerialize lang o allocate (some d) v serializedMessage).ret = .error e := by
  have goes : Goes false (Ser.serialize false lang o d v true)
      (d.sends (MessageMember.passes lang) v) := goes_serialize linked fits stored
  rw [passes] at goes
  cases d with
  | nullptr => exact absurd linked Bool.false_ne_true
  | mk ns name ms =>
    unfold rmwSerialize getSerializedSize CdrSerializationBuffer.make
    dsimp only
    cases run : Ser.serialize false lang o (.mk ns name ms) v true
        { offset := 0, size := 2 ^ 64 - 1, mem := [] } with
    | error e b => exact ⟨e, rfl⟩
    | ok a b => exact absurd (goes.ok _ a b counting_ready run).2 Bool.false_ne_true

/-- `rmw_serialize` contains its errors exactly if every member it comes upon is handled and the
loops over arrays end. -/
theorem rmwSerialize_contained_iff
    (allocates : ∀ n mem, allocate n = some mem → n ≤ mem.length)
    (backed : serializedMessage.Backed) (linked : d.linked = true) (fits : d.fits v = true)
    (stored : d.stored v = true) :
    Contained (rmwSerialize lang o allocate (some d) v serializedMessage).ret
      (d.handled v = false) ↔ d.handled v = true ∧ d.ends lang v = true := by
  rw [← passes_iff]
  cases passes : d.sends (MessageMember.passes lang) v with
  | false =>
    obtain ⟨e, leaves⟩ :
        ∃ e, (rmwSerialize lang o allocate (some d) v serializedMessage).ret = .error e :=
      rmwSerialize_of_not_passes linked fits stored passes
    refine iff_of_false (fun contained => ?_) Bool.false_ne_true
    rcases contained.returns with returns | returns
    · cases leaves.symm.trans returns
    · cases leaves.symm.trans returns
  | true =>
    have handled : d.handled v = true := (passes_iff.mp passes).1
    refine iff_of_true ⟨rmwSerialize_of_passes allocates backed linked fits stored passes,
      fun reached => ?_⟩ rfl
    exact absurd (reached.symm.trans handled) Bool.false_ne_true

end Serialize

section Deserialize

variable {t : Target} {d : MessageMembers} {output : Value} {bytes : List Byte}

/-- `rmw_deserialize` contains its errors exactly if the containers take the sizes in the bytes, and
the bytes end before the message does or reach no member that is not handled. -/
theorem rmwDeserialize_contained_iff (init : t.Initialises) (linked : d.linked = true)
    (bound : bytes.length < 2 ^ 63) :
    Contained (rmwDeserialize t (some d) bytes output).ret (d.Reaches t output bytes) ↔
      (∀ f ∈ d.lengthFields t bytes, t.Takes f) ∧
        ¬ (d.whole t bytes = true ∧ d.met t bytes = true) := by
  have returns := returns_iff_takes output init (fun _ => linked) bound
  by_cases takes : ∀ f ∈ d.lengthFields t bytes, t.Takes f
  rotate_left
  · refine iff_of_false (fun contained => takes (returns.mp ?_)) fun both => takes both.1
    unfold rmwDeserialize at contained
    cases result : (deserializeCdrToRos t d output bytes).ret with
    | ok whole => cases whole <;> simp
    | error e =>
      have leaves := contained.returns
      dsimp only at leaves
      rw [result] at leaves
      rcases leaves with ok | fails <;> contradiction
  rw [and_iff_right takes]
  have true_iff : (deserializeCdrToRos t d output bytes).ret = .ok true ↔ _ :=
    deserializeCdrToRos_true_iff init bound takes
  have reaches : d.Reaches t output bytes ↔ _ := reaches_iff init bound takes
  rw [← true_iff, ← reaches]
  unfold rmwDeserialize
  dsimp only
  rcases returns.mpr takes with ok | fails
  · rw [ok]
    refine ⟨fun contained both => ?_, fun apart => ⟨.inl rfl, fun reached => ?_⟩⟩
    · cases contained.error both.2
    · exact absurd ⟨rfl, reached⟩ apart
  · rw [fails]
    exact iff_of_true ⟨.inr rfl, fun _ => rfl⟩ fun both => by cases both.1

end Deserialize

/-- **When a member that is not handled is contained.** `rmw_serialize` does what it should exactly
with the messages in which the writer comes upon no such member, and upon no array it does not get
through; and `rmw_deserialize` exactly with the bytes that reach none, or end before the message
does, and in which no length is more than a C++ container takes. -/
theorem unsupported_contained_iff (lang : LanguageKind) (o : ByteOrder) (d : MessageMembers)
    (v : Value) (allocate : Nat → Option (List Byte)) (serializedMessage : SerializedMessage)
    (t : Target) (output : Value) (bytes : List Byte)
    (allocates : ∀ n mem, allocate n = some mem → n ≤ mem.length)
    (backed : serializedMessage.Backed) (linked : d.linked = true) (fits : d.fits v = true)
    (stored : d.stored v = true) (init : t.Initialises) (bound : bytes.length < 2 ^ 63) :
    (Contained (rmwSerialize lang o allocate (some d) v serializedMessage).ret
        (d.handled v = false) ↔ d.handled v = true ∧ d.ends lang v = true) ∧
      (Contained (rmwDeserialize t (some d) bytes output).ret (d.Reaches t output bytes) ↔
        (∀ f ∈ d.lengthFields t bytes, t.Takes f) ∧
          ¬ (d.whole t bytes = true ∧ d.met t bytes = true)) :=
  ⟨rmwSerialize_contained_iff allocates backed linked fits stored,
    rmwDeserialize_contained_iff init linked bound⟩

/-- A message type with a number and a sequence of messages that hold a long double. -/
def someWides : MessageMembers :=
  .mk "pkg__msg" "Wides"
    [ .mk "id" .uint16 false 0 false .nullptr,
      .mk "wides" .message true 0 false
        (.mk "pkg__msg" "Wide" [.mk "x" .longDouble false 0 false .nullptr]) ]

/-- An empty sequence is written and read, and no long double is reached. -/
theorem unsupported_contained_iff_empty :
    (Contained (rmwSerialize .c .little (fun n => some (List.replicate n 0)) (some someWides)
          (.message [.prim .uint16 7, .array []]) ⟨none, 0, 0⟩).ret
        (someWides.handled (.message [.prim .uint16 7, .array []]) = false) ↔
        someWides.handled (.message [.prim .uint16 7, .array []]) = true ∧
          someWides.ends .c (.message [.prim .uint16 7, .array []]) = true) ∧
      (Contained (rmwDeserialize (cxxTarget .little) (some someWides)
          [0, 1, 0, 0, 7, 0, 0, 0, 0, 0, 0, 0] (.message [])).ret
        (someWides.Reaches (cxxTarget .little) (.message [])
          [0, 1, 0, 0, 7, 0, 0, 0, 0, 0, 0, 0]) ↔
        (∀ f ∈ someWides.lengthFields (cxxTarget .little) [0, 1, 0, 0, 7, 0, 0, 0, 0, 0, 0, 0],
            (cxxTarget .little).Takes f) ∧
          ¬ (someWides.whole (cxxTarget .little) [0, 1, 0, 0, 7, 0, 0, 0, 0, 0, 0, 0] = true ∧
            someWides.met (cxxTarget .little) [0, 1, 0, 0, 7, 0, 0, 0, 0, 0, 0, 0] = true)) :=
  unsupported_contained_iff .c .little someWides (.message [.prim .uint16 7, .array []])
    (fun n => some (List.replicate n 0)) ⟨none, 0, 0⟩ (cxxTarget .little) (.message [])
    [0, 1, 0, 0, 7, 0, 0, 0, 0, 0, 0, 0]
    (fun n mem same => by rw [← Option.some.inj same, List.length_replicate])
    (fun mem there => by cases there) (by decide) (by decide) (by decide) nofun (by decide)

/-- One long double leaves the writer as an exception, and the reader takes the message for
whole. -/
theorem longDouble_notContained :
    ¬ Contained (rmwSerialize .c .little (fun n => some (List.replicate n 0)) (some someWides)
        (.message [.prim .uint16 7, .array [.message [default]]]) ⟨none, 0, 0⟩).ret
      (someWides.handled (.message [.prim .uint16 7, .array [.message [default]]]) = false) ∧
    ¬ Contained (rmwDeserialize (cTarget .little) (some someWides)
        [0, 1, 0, 0, 7, 0, 0, 0, 1, 0, 0, 0] (.message [])).ret
      (someWides.Reaches (cTarget .little) (.message [])
        [0, 1, 0, 0, 7, 0, 0, 0, 1, 0, 0, 0]) := by
  have leaves : (rmwSerialize .c .little (fun n => some (List.replicate n 0)) (some someWides)
      (.message [.prim .uint16 7, .array [.message [default]]]) ⟨none, 0, 0⟩).ret =
      .error (.logicError "This should not be rechable") := rfl
  have passes : (rmwDeserialize (cTarget .little) (some someWides)
      [0, 1, 0, 0, 7, 0, 0, 0, 1, 0, 0, 0] (.message [])).ret = .ok .ok := rfl
  refine ⟨fun contained => ?_, fun contained => ?_⟩
  · have ends := contained.error rfl
    rw [leaves] at ends
    cases ends
  · have ends := contained.error ⟨_, rfl⟩
    rw [passes] at ends
    cases ends

end Cdr
