import RmwGurumdds.Cdr.Containers

/-!
# The two readers against each other

The C and the C++ reader of one message type, on one byte string, which may be anything. Both walk
the same format and check the same bounds; they part over strings, where the C++ reader wants the
last byte to be the terminator and the C reader drops it unseen.

So there is a message **on the wire**, in which a string keeps its last byte, and each reader
answers what it makes of that message (`chooses_parses`): the C reader always, the C++ reader if
every string in it is terminated. `decoders_agree_iff` is the comparison.
-/

namespace Cdr

open Wire Exec

/-! ## Messages on the wire -/

/-- `ok` holds of the bytes of every string a member holds itself. -/
def MessageMember.stringsOk (ok : List Byte → Bool) (member : MessageMember) (v : Value) : Bool :=
  decide (member.kind ≠ .string) ||
    if member.isArray then v.elems.all fun e => ok e.toStr else ok v.toStr

/-- A string without its last byte. -/
def trimLeaf (member : MessageMember) (e : Value) : Value :=
  if member.kind = .string then .string e.toStr.dropLast else e

/-- A string is empty or its last byte is the terminator. -/
def terminated (bs : List Byte) : Bool := bs.isEmpty || bs.getLast? == some 0

/-- The message on the wire: what the bytes are read as, if every string keeps its last byte. -/
def MessageMembers.onWire (d : MessageMembers) (o : ByteOrder) (bytes : List Byte) : Option Value :=
  payload (d.parser (swapped o bytes) o some) bytes

/-- Every string in a message on the wire is terminated. -/
def MessageMembers.terminated (d : MessageMembers) (v : Value) : Bool :=
  d.every (MessageMember.stringsOk Cdr.terminated) v

section Choosing

variable {swap : Bool} {o : ByteOrder} {slot : List Byte → Option (List Byte)}
  {ok : List Byte → Bool}

/-- What a reader makes of the bytes of a string: it drops the last one, if they are `ok`. -/
structure Slot (ok : List Byte → Bool) (slot : List Byte → Option (List Byte)) : Prop where
  empty : ok [] = true
  bytes : ∀ bs, bs ≠ [] → slot bs = if ok bs then some bs.dropLast else none

theorem slot_terminated : Slot terminated terminatedSlot where
  empty := rfl
  bytes bs some := by
    have last : terminated bs = (bs.getLast? == .some 0) := by
      cases bs with
      | nil => exact absurd rfl some
      | cons b bs => rfl
    simp only [terminatedSlot, last, beq_iff_eq]

theorem slot_unchecked : Slot (fun _ => true) uncheckedSlot := ⟨rfl, fun _ _ => rfl⟩

theorem chooses_string (reads : Slot ok slot) :
    Chooses (stringParser swap o some) ok List.dropLast (stringParser swap o slot) := by
  refine Chooses.bind fun n => ?_
  by_cases zero : n.toNat = 0
  · rw [if_pos zero, if_pos zero]
    intro bs off
    rw [Parser.pure_run, Option.bind_some, if_pos reads.empty]
    rfl
  · rw [if_neg zero, if_neg zero]
    intro bs off
    by_cases fits : off + n.toNat ≤ bs.length
    · have taken : Parser.take n.toNat bs off =
          some ((bs.drop off).take n.toNat, off + n.toNat) := if_pos fits
      have full : (bs.drop off).take n.toNat ≠ [] := by
        intro empty
        have length := congrArg List.length empty
        rw [List.length_take, List.length_drop, List.length_nil] at length
        omega
      rw [Parser.bind_some taken, Parser.bind_some taken, reads.bytes _ full]
      show _ = Option.bind (some _) _
      rw [Option.bind_some]
      split <;> rfl
    · have short : Parser.take n.toNat bs off = none := if_neg fits
      rw [Parser.bind_none short, Parser.bind_none short]
      rfl

/-- What is asked of an element. -/
def MessageMember.elementOk (ok : List Byte → Bool) (nestedOk : Value → Bool)
    (member : MessageMember) (e : Value) : Bool :=
  if member.kind = .message then nestedOk e else decide (member.kind ≠ .string) || ok e.toStr

/-- What is asked of a member is asked of its elements. -/
theorem MessageMember.every_stringsOk (m : MessageMember) (v : Value) :
    m.every (MessageMember.stringsOk ok) v =
      if m.isArray then
        v.elems.all (m.elementOk ok (m.members.every (MessageMember.stringsOk ok)))
      else m.elementOk ok (m.members.every (MessageMember.stringsOk ok)) v := by
  rw [MessageMember.every_eq, MessageMember.stringsOk]
  unfold MessageMember.elementOk
  by_cases message : m.kind = .message
  · simp [message]
  · by_cases string : m.kind = .string
    · simp [string]
    · simp [message, string]

/-- An element that is no string and no message is taken as it is. -/
theorem chooses_leaf {m : MessageMember} {p : Parser Value} {nestedOk : Value → Bool}
    {nestedTrim : Value → Value} (leaf : m.kind ≠ .message) (noString : m.kind ≠ .string) :
    Chooses p (m.elementOk ok nestedOk) (m.mapElement trimLeaf nestedTrim) p := by
  refine (Chooses.refl p).congr (fun e => ?_) fun e => ?_
  · rw [MessageMember.elementOk, if_neg leaf, decide_eq_true noString, Bool.true_or]
  · rw [MessageMember.mapElement, if_neg leaf, trimLeaf, if_neg noString]
    rfl

theorem chooses_element {m : MessageMember} {inArray : Bool} {p q : Parser Value}
    {nestedOk : Value → Bool} {nestedTrim : Value → Value} (reads : Slot ok slot)
    (h : Chooses p nestedOk nestedTrim q) :
    Chooses (m.kind.parser swap o some inArray p) (m.elementOk ok nestedOk)
      (m.mapElement trimLeaf nestedTrim) (m.kind.parser swap o slot inArray q) := by
  by_cases message : m.kind = .message
  · rw [message]
    exact h.congr (fun e => (if_pos message).symm) fun e => (if_pos message).symm
  · by_cases string : m.kind = .string
    · rw [string]
      refine (chooses_string reads).map (fun s => ?_) fun s => ?_
      · rw [MessageMember.elementOk, if_neg message, string]
        rfl
      · rw [MessageMember.mapElement, if_neg message, trimLeaf, if_pos string]
        rfl
    · have same : m.kind.parser swap o slot inArray q = m.kind.parser swap o some inArray p := by
        cases kind : m.kind with
        | message => exact absurd kind message
        | string => exact absurd kind string
        | _ => rfl
      rw [same]
      exact chooses_leaf message string

theorem chooses_member {m : MessageMember} (reads : Slot ok slot)
    (h : Chooses (m.members.parser swap o some) (m.members.every (MessageMember.stringsOk ok))
      (m.members.map trimLeaf) (m.members.parser swap o slot)) :
    Chooses (m.parser swap o some) (m.every (MessageMember.stringsOk ok)) (m.map trimLeaf)
      (m.parser swap o slot) := by
  have element : ∀ inArray, Chooses
      (m.kind.parser swap o some inArray (m.members.parser swap o some))
      (m.elementOk ok (m.members.every (MessageMember.stringsOk ok)))
      (m.mapElement trimLeaf (m.members.map trimLeaf))
      (m.kind.parser swap o slot inArray (m.members.parser swap o slot)) :=
    fun _ => chooses_element reads h
  rw [MessageMember.parser_eq, MessageMember.parser_eq]
  by_cases isArray : m.isArray = true
  · have elements : ∀ n, Chooses
        (Value.array <$> Parser.times n
          (m.kind.parser swap o some true (m.members.parser swap o some)))
        (m.every (MessageMember.stringsOk ok)) (m.map trimLeaf)
        (Value.array <$> Parser.times n
          (m.kind.parser swap o slot true (m.members.parser swap o slot))) := by
      refine fun n => ((element true).times n).map (fun es => ?_) fun es => ?_
      · rw [MessageMember.every_stringsOk, if_pos isArray, Value.elems]
      · rw [MessageMember.map_eq, if_pos isArray, Value.elems]
    rw [if_pos isArray, if_pos isArray]
    by_cases isSequence : m.isSequence = true
    · rw [arrayParser_sequence isSequence, arrayParser_sequence isSequence]
      exact Chooses.bind elements
    · rw [arrayParser_fixed isSequence, arrayParser_fixed isSequence]
      exact elements m.arraySize
  · rw [if_neg isArray, if_neg isArray]
    refine (element false).congr (fun v => ?_) fun v => ?_
    · rw [MessageMember.every_stringsOk, if_neg isArray]
    · rw [MessageMember.map_eq, if_neg isArray]

/-- **A reader answers what it makes of the message on the wire.** -/
theorem chooses_parses (reads : Slot ok slot) (d : MessageMembers) :
    Chooses (d.parser swap o some) (d.every (MessageMember.stringsOk ok)) (d.map trimLeaf)
      (d.parser swap o slot) := by
  have fields : ∀ ms : List MessageMember, (∀ m ∈ ms, Chooses (m.parser swap o some)
      (m.every (MessageMember.stringsOk ok)) (m.map trimLeaf) (m.parser swap o slot)) →
      Chooses (fieldsParser swap o some ms) (fieldsEvery (MessageMember.stringsOk ok) ms)
        (fieldsMap trimLeaf ms) (fieldsParser swap o slot ms) := by
    intro ms
    induction ms with
    | nil =>
      intro _ bs off
      rfl
    | cons m ms ih =>
      intro each
      exact (each m List.mem_cons_self).cons (ih fun m' hm => each m' (List.mem_cons_of_mem _ hm))
  induction d using MessageMembers.induct (Q := fun m => Chooses (m.parser swap o some)
      (m.every (MessageMember.stringsOk ok)) (m.map trimLeaf) (m.parser swap o slot)) with
  | null => exact fun _ _ => rfl
  | mk ns name ms ih => exact (fields ms ih).map (fun _ => rfl) fun _ => rfl
  | member m ih => exact chooses_member reads ih

/-- What a parser chooses, it chooses behind a header. -/
theorem payload_chooses {α β : Type} {p : Parser α} {q : Parser β} {ok : α → Bool} {g : α → β}
    (h : Chooses p ok g q) (bytes : List Byte) :
    payload q bytes = (payload p bytes).bind fun a => if ok a then some (g a) else none := by
  unfold payload
  split
  · rfl
  · rw [h]
    cases p (bytes.drop cdrHeaderSize) 0 with
    | none => rfl
    | some r =>
      simp only [Option.bind_some, Option.map_some]
      split <;> rfl

end Choosing

/-! ## The readers -/

section Readers

variable {t : Target} {d : MessageMembers} {bytes : List Byte}

/-- The C reader answers the message on the wire, whatever its strings end in. -/
theorem answer_c (lang : t.lang = .c) :
    d.answer t bytes = (d.onWire t.order bytes).map (d.map trimLeaf) := by
  have every : ∀ v, d.every (MessageMember.stringsOk fun _ => true) v = true := fun v =>
    d.every_mono (fun m v _ => by simp [MessageMember.stringsOk]) v (d.every_true v)
  rw [MessageMembers.answer, lang, slotOf, payload_chooses (chooses_parses slot_unchecked d),
    MessageMembers.onWire]
  simp only [every, if_true]
  exact Option.map_eq_bind.symm

/-- The C++ reader answers it if its strings are terminated. -/
theorem answer_cxx (lang : t.lang = .cxx) :
    d.answer t bytes = (d.onWire t.order bytes).bind fun v =>
      if d.terminated v then some (d.map trimLeaf v) else none := by
  rw [MessageMembers.answer, lang, slotOf, payload_chooses (chooses_parses slot_terminated d),
    MessageMembers.onWire]
  rfl

/-- **The C and the C++ reader, exactly.** On any bytes they succeed or fail together, and with the
same message, if and only if every string of the message on the wire is terminated. Both are given
the sizes they ask for. -/
theorem decoders_agree_iff (tc tcxx : Target) (d : MessageMembers) (outputC outputCxx : Value)
    (bytes : List Byte) (c : tc.lang = .c) (cxx : tcxx.lang = .cxx) (order : tc.order = tcxx.order)
    (rt : tc.runtime.Succeeds) (takes : ∀ f ∈ d.lengthFields tcxx bytes, tcxx.Takes f)
    (readable : d.readable = true) (bound : bytes.length < 2 ^ 63) :
    let inC := deserializeCdrToRos tc d outputC bytes
    let inCxx := deserializeCdrToRos tcxx d outputCxx bytes
    ((inC.ret = .ok true ↔ inCxx.ret = .ok true) ∧
        (inC.ret = .ok true → inCxx.ret = .ok true → inC.target = inCxx.target)) ↔
      ∀ v, d.onWire tc.order bytes = some v → d.terminated v = true := by
  have readC := deserializeCdrToRos_spec outputC (fun _ => rt) readable bound fun f _ =>
    takes_c c f
  have readCxx := deserializeCdrToRos_spec (t := tcxx) outputCxx
    (fun h => absurd (cxx.symm.trans h) nofun) readable bound takes
  rw [answer_c c] at readC
  rw [answer_cxx cxx, ← order] at readCxx
  simp only [readC.1, readC.2, readCxx.1, readCxx.2, Except.ok.injEq]
  cases d.onWire tc.order bytes with
  | none => simp
  | some v => by_cases ends : d.terminated v = true <;> simp [ends]

end Readers

/-- A message type with one string. -/
def oneString : MessageMembers :=
  .mk "pkg__msg" "Text" [.mk "data" .string false 0 false .nullptr]

theorem decoders_agree_iff_sample :
    let inC := deserializeCdrToRos (cTarget .little) oneString (.message [.string []])
      [0, 1, 0, 0, 2, 0, 0, 0, 0x41, 0]
    let inCxx := deserializeCdrToRos (cxxTarget .little) oneString (.message [.string []])
      [0, 1, 0, 0, 2, 0, 0, 0, 0x41, 0]
    ((inC.ret = .ok true ↔ inCxx.ret = .ok true) ∧
        (inC.ret = .ok true → inCxx.ret = .ok true → inC.target = inCxx.target)) ↔
      ∀ v, oneString.onWire .little [0, 1, 0, 0, 2, 0, 0, 0, 0x41, 0] = some v →
        oneString.terminated v = true :=
  decoders_agree_iff (cTarget .little) (cxxTarget .little) oneString (.message [.string []])
    (.message [.string []]) [0, 1, 0, 0, 2, 0, 0, 0, 0x41, 0] rfl rfl rfl roomyRuntime_succeeds
    (by decide) (by decide) (by decide)

/-- A string of the one byte `A`: the C reader takes it for the empty string, the C++ reader for
nothing. -/
theorem decoders_differ :
    oneString.readable = true ∧
      (deserializeCdrToRos (cTarget .little) oneString (.message [.string []])
        [0, 1, 0, 0, 1, 0, 0, 0, 0x41]).ret = .ok true ∧
      (deserializeCdrToRos (cTarget .little) oneString (.message [.string []])
        [0, 1, 0, 0, 1, 0, 0, 0, 0x41]).target = some (.message [.string []]) ∧
      (deserializeCdrToRos (cxxTarget .little) oneString (.message [.string []])
        [0, 1, 0, 0, 1, 0, 0, 0, 0x41]).ret = .ok false := by
  refine ⟨?_, ?_, ?_, ?_⟩ <;> rfl

end Cdr
