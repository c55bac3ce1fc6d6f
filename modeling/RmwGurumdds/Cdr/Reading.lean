import RmwGurumdds.Cdr.MessageDeserializer

/-!
# What the deserializer reads

The counterpart of the format for the reading side: the parser of a message type, with no buffer,
no target and no counter. An array is its elements, a sequence is as many of them as its length
says, and the two languages differ in one place only, in what they make of the bytes of a string
(`slotOf`).

`gets_deserialize` is the refinement: on a description the codec handles, whose fixed arrays have
sizes a `uint32_t` counts, the deserializer reads what the parser parses, whatever the target held,
unless a C++ container does not take a size it is given (`Gets`).
-/

namespace Cdr

open Wire Exec

/-! ## Parsers of messages -/

/-- What a language makes of the bytes of a string. -/
def slotOf : LanguageKind → List Byte → Option (List Byte)
  | .c => uncheckedSlot
  | .cxx => terminatedSlot

/-- One element, standing alone or in an array. -/
def Kind.parser (swap : Bool) (o : ByteOrder) (slot : List Byte → Option (List Byte))
    (inArray : Bool) (nested : Parser Value) : Kind → Parser Value
  | .boolean =>
    (fun x => .boolean (x != 0)) <$> (received swap .uint8 <$> Parser.word o .uint8)
  | .primitive w =>
    Value.prim w <$>
      ((if inArray then receivedElement swap w else received swap w) <$> Parser.word o w)
  | .wchar => Value.prim .uint16 <$> (received swap .uint16 <$> Parser.word o .uint16)
  | .string => Value.string <$> stringParser swap o slot
  | .wstring => Value.wstring <$> u16stringParser swap o
  | .message => nested
  | .unsupported => Parser.fail

/-- An array: a sequence names its length, a fixed array has its own. -/
def arrayParser (swap : Bool) (o : ByteOrder) (member : MessageMember) (element : Parser Value) :
    Parser Value := do
  let n ← if member.isSequence then
      BitVec.toNat <$> (received swap .uint32 <$> Parser.word o .uint32)
    else pure member.arraySize
  Value.array <$> Parser.times n element

mutual

/-- A message. -/
def MessageMembers.parser (swap : Bool) (o : ByteOrder) (slot : List Byte → Option (List Byte)) :
    MessageMembers → Parser Value
  | .nullptr => Parser.fail
  | .mk _ _ ms => Value.message <$> fieldsParser swap o slot ms

def fieldsParser (swap : Bool) (o : ByteOrder) (slot : List Byte → Option (List Byte)) :
    List MessageMember → Parser (List Value)
  | [] => pure []
  | m :: ms => do
    let v ← m.parser swap o slot
    let vs ← fieldsParser swap o slot ms
    return v :: vs

/-- A member. -/
def MessageMember.parser (swap : Bool) (o : ByteOrder) (slot : List Byte → Option (List Byte)) :
    MessageMember → Parser Value
  | .mk name typeId isArray arraySize isUpperBound members =>
    if isArray then
      arrayParser swap o (.mk name typeId isArray arraySize isUpperBound members)
        (typeId.kind.parser swap o slot true (members.parser swap o slot))
    else typeId.kind.parser swap o slot false (members.parser swap o slot)

end

theorem MessageMember.parser_eq (swap : Bool) (o : ByteOrder)
    (slot : List Byte → Option (List Byte)) (m : MessageMember) :
    m.parser swap o slot =
      if m.isArray then
        arrayParser swap o m (m.kind.parser swap o slot true (m.members.parser swap o slot))
      else m.kind.parser swap o slot false (m.members.parser swap o slot) := by
  cases m
  rfl

theorem arrayParser_sequence {swap : Bool} {o : ByteOrder} {m : MessageMember}
    {element : Parser Value} (h : m.isSequence = true) :
    arrayParser swap o m element =
      BitVec.toNat <$> (received swap .uint32 <$> Parser.word o .uint32) >>= fun n =>
        Value.array <$> Parser.times n element := by
  rw [arrayParser, if_pos h]

theorem arrayParser_fixed {swap : Bool} {o : ByteOrder} {m : MessageMember}
    {element : Parser Value} (h : ¬ m.isSequence = true) :
    arrayParser swap o m element = Value.array <$> Parser.times m.arraySize element := by
  rw [arrayParser, if_neg h, pure_bind]

/-! ## The deserializer reads what the parser parses -/

/-- A member the codec handles and whose size, if it is a fixed array, a `uint32_t` counts. -/
def MessageMember.readable (member : MessageMember) : Bool :=
  decide (member.kind ≠ .unsupported) &&
    (member.isSequence || decide (member.arraySize < 2 ^ 32))

/-- Every member is one the decoders of both languages treat as the description says. -/
def MessageMembers.readable (d : MessageMembers) : Bool := d.all MessageMember.readable

/-! ### Reading into containers -/

/-- On every buffer of this byte order `m` reads what `p` parses, or a container throws. -/
def Gets {α : Type} (swap : Bool) (m : Des α) (p : Parser α) : Prop :=
  ∀ b : CdrDeserializationBuffer, b.Valid → b.swap = swap →
    ReadsAt m p b ∨ ∃ e c, m b = .error (.container e) c

section Rules

variable {swap : Bool} {α β : Type} {m : Des α} {p : Parser α}

theorem Reads.gets (h : Reads swap m p) : Gets swap m p :=
  fun b valid hs => .inl (h b valid hs)

theorem Gets.pure (a : α) : Gets swap (Pure.pure a) (Pure.pure a) := (Reads.pure a).gets

/-- A container that throws in either part throws in the whole. -/
theorem Gets.bind {k : α → Des β} {q : α → Parser β} (hm : Gets swap m p)
    (hk : ∀ a, Gets swap (k a) (q a)) : Gets swap (m >>= k) (p >>= q) := by
  intro b valid hs
  rcases hm b valid hs with first | ⟨e, c, refused⟩
  · by_cases refuses : ∃ e c, (m >>= k) b = .error (.container e) c
    · exact .inr refuses
    · refine .inl (first.bind fun a b' run _ later => ?_)
      refine (hk a b' later.valid (later.swap_eq.trans hs)).resolve_right ?_
      rintro ⟨e, c, refused⟩
      exact refuses ⟨e, c, (bind_ok run).trans refused⟩
  · exact .inr ⟨e, c, bind_error refused⟩

theorem Gets.map (g : α → β) (h : Gets swap m p) :
    Gets swap (m >>= fun a => Pure.pure (g a)) (g <$> p) :=
  h.bind fun a => Gets.pure (g a)

theorem Gets.loop {body : Nat → Des α} (h : ∀ i, Gets swap (body i) p) :
    ∀ n i, Gets swap (loop body n i) (Parser.times n p)
  | 0, _ => Gets.pure []
  | n + 1, i => (h i).bind fun _ => (Gets.loop h n (i + 1)).bind fun _ => Gets.pure _

end Rules

section Refinement

variable {swap : Bool} {t : Target} {m : MessageMember} {α : Type}

theorem gets_for32 {body : Nat → Des α} {p : Parser α} {n : Nat} (small : n < 2 ^ 32)
    (h : ∀ i, Gets swap (body i) p) : Gets swap (Des.for32 n body) (Parser.times n p) := by
  rw [Des.for32_eq_loop small]
  exact Gets.loop h n 0

/-- A step in the log moves nothing. -/
theorem reads_resized (swap : Bool) (n : Nat) :
    Reads swap (Des.note (.resized n)) (pure ()) :=
  fun b valid _ => ⟨{ b with log := .resized n :: b.log }, rfl,
    ⟨⟨valid.inside, valid.backed, valid.bounded, List.forall_mem_cons.mpr ⟨rfl, valid.sound⟩⟩,
      rfl, rfl, rfl, Nat.le_refl _⟩, rfl⟩

/-- The size in front of a sequence. -/
theorem reads_sequenceSize (swap : Bool) (t : Target) : Reads swap (Des.sequenceSize t)
    (BitVec.toNat <$> (received swap .uint32 <$> Parser.word t.order .uint32)) := by
  have whole : Reads swap (Des.sequenceSize t) _ := (reads_word (o := t.order) .uint32).bind
    fun size => (reads_resized swap size.toNat).bind fun _ => Reads.pure size.toNat
  simp only [pure_bind] at whole
  rwa [bind_pure_comp] at whole

/-- The size in front of a sequence, and what follows it. -/
theorem gets_sequenceSize {k : Nat → Des α} {q : Nat → Parser α}
    (h : ∀ n, n < 2 ^ 32 → Gets swap (k n) (q n)) :
    Gets swap (Des.sequenceSize t >>= k)
      (BitVec.toNat <$> (received swap .uint32 <$> Parser.word t.order .uint32) >>= q) := by
  have read : Reads swap (Des.word t.order .uint32) _ := reads_word .uint32
  have whole := read.gets.bind fun size =>
    (reads_resized swap size.toNat).gets.bind fun _ => h size.toNat size.isLt
  simp only [Des.sequenceSize, bind_assoc, pure_bind, bind_map_left] at whole ⊢
  exact whole

/-- The container of a member takes the size, or it throws. -/
theorem gets_resize (swap : Bool) (t : Target) (m : MessageMember) (n : Nat) :
    Gets swap (Des.resize t m n) (pure ()) := by
  unfold Des.resize
  cases t.lang with
  | c => exact .pure ()
  | cxx =>
    dsimp only
    cases t.runtime.vectorResize m n with
    | none => exact .pure ()
    | some e => exact fun b _ _ => .inr ⟨e, b, rfl⟩

/-- What follows a container that takes the size. -/
theorem gets_resized {n : Nat} {x : Des α} {p : Parser α} (h : Gets swap x p) :
    Gets swap (do Des.resize t m n; x) p := by
  have whole := (gets_resize swap t m n).bind fun _ => h
  rwa [pure_bind] at whole

/-- An array whose elements a counted loop reads. -/
theorem gets_array {read : Nat → Des Value} {p : Parser Value} {n : Nat} (small : n < 2 ^ 32)
    (h : ∀ i, Gets swap (read i) p) :
    Gets swap (do return .array (← Des.for32 n read)) (Value.array <$> Parser.times n p) :=
  (gets_for32 small h).map Value.array

/-- A fixed array that is read whole keeps nothing of the target. -/
theorem gets_overwrite {read : Des (List Value)} {p : Parser Value} (output : Value)
    (h : Gets swap read (Parser.times m.arraySize p)) :
    Gets swap (do return m.overwrite output (← read))
      (Value.array <$> Parser.times m.arraySize p) := by
  have whole := h.map (m.overwrite output)
  have same : m.overwrite output <$> Parser.times m.arraySize p =
      Value.array <$> Parser.times m.arraySize p := by
    funext bs off
    rw [Parser.map_run, Parser.map_run]
    cases parsed : Parser.times m.arraySize p bs off with
    | none => rfl
    | some r =>
      have length := Parser.times_length parsed
      have rest : (output.elems.take m.arraySize).drop r.1.length = [] :=
        List.drop_eq_nil_of_le (by rw [length]; exact List.length_take_le _ _)
      rw [Option.map_some, Option.map_some, MessageMember.overwrite, rest, List.append_nil]
  rwa [same] at whole

variable {output : Value}

theorem sequenceInit_eq (rt : t.runtime.Succeeds) (n : Nat) : Des.sequenceInit t n = pure () :=
  if_pos (rt.sequenceInit n)

/-- The size a fixed array has is a size a `uint32_t` counts. -/
theorem readable_fixed (readable : m.readable = true) (fixed : ¬ m.isSequence = true) :
    m.arraySize < 2 ^ 32 := by
  rw [MessageMember.readable, Bool.and_eq_true, Bool.or_eq_true, decide_eq_true_eq,
    decide_eq_true_eq] at readable
  exact readable.2.resolve_left fixed

theorem reads_boolean (swap : Bool) (t : Target) : Reads swap (Des.boolean t)
    ((fun x => Value.boolean (x != 0)) <$> (received swap .uint8 <$> Parser.word t.order .uint8)) :=
  (reads_word .uint8).map _

theorem reads_wchar (swap : Bool) (t : Target) : Reads swap (Des.wchar t)
    (Value.prim .uint16 <$> (received swap .uint16 <$> Parser.word t.order .uint16)) :=
  (reads_word .uint16).map _

theorem gets_readBoolean (rt : t.lang = .c → t.runtime.Succeeds) (readable : m.readable = true)
    (kind : m.kind = .boolean) :
    Gets swap (Des.readBoolean t m output) (m.parser swap t.order (slotOf t.lang)) := by
  rw [MessageMember.parser_eq, kind]
  unfold Des.readBoolean
  by_cases isArray : m.isArray = true
  · rw [if_pos isArray, if_pos isArray]
    by_cases isSequence : m.isSequence = true
    · rw [if_pos isSequence, arrayParser_sequence isSequence]
      refine gets_sequenceSize fun n small => ?_
      have elements := gets_array small fun _ => (reads_boolean swap t).gets
      cases lang : t.lang with
      | c =>
        rw [sequenceInit_eq (rt lang), pure_bind]
        exact elements
      | cxx => exact gets_resized elements
    · rw [if_neg isSequence, arrayParser_fixed isSequence]
      exact gets_array (readable_fixed readable isSequence) fun _ => (reads_boolean _ _).gets
  · rw [if_neg isArray, if_neg isArray]
    exact (reads_boolean _ _).gets

theorem gets_readWchar (rt : t.lang = .c → t.runtime.Succeeds) (readable : m.readable = true)
    (kind : m.kind = .wchar) :
    Gets swap (Des.readWchar t m output) (m.parser swap t.order (slotOf t.lang)) := by
  rw [MessageMember.parser_eq, kind]
  unfold Des.readWchar
  by_cases isArray : m.isArray = true
  · rw [if_pos isArray, if_neg (by rw [isArray]; exact Bool.false_ne_true)]
    by_cases isSequence : m.isSequence = true
    · rw [if_pos isSequence, if_pos isSequence, arrayParser_sequence isSequence]
      cases lang : t.lang with
      | c =>
        refine gets_sequenceSize fun n small => ?_
        rw [sequenceInit_eq (rt lang), pure_bind]
        exact gets_array small fun _ => (reads_wchar _ _).gets
      | cxx =>
        exact gets_sequenceSize fun n small =>
          gets_resized (gets_array small fun _ => (reads_wchar _ _).gets)
    · rw [if_neg isSequence, if_neg isSequence, arrayParser_fixed isSequence]
      have elements := gets_array (readable_fixed readable isSequence) fun _ =>
        (reads_wchar swap t).gets
      cases t.lang <;> exact elements
  · rw [if_neg isArray, if_pos (by rw [Bool.eq_false_iff.mpr isArray]; rfl)]
    exact (reads_wchar _ _).gets

/-- `resize_function` in C++ leaves as many elements as it is asked for. -/
theorem resizeFunction_length (lang : t.lang = .cxx) (size : Nat) (old : List Value) :
    (t.resizeFunction m size old).length = size := by
  rw [Target.resizeFunction, lang]
  simp

theorem gets_readElements {read : Value → Des Value} {empty : Value} {p : Parser Value}
    (rt : t.lang = .c → t.runtime.Succeeds) (readable : m.readable = true)
    (h : ∀ old, Gets swap (read old) p) :
    Gets swap (Des.readElements t read empty m output)
      (if m.isArray then arrayParser swap t.order m p else p) := by
  unfold Des.readElements
  by_cases isArray : m.isArray = true
  · by_cases isSequence : m.isSequence = true
    · rw [if_pos isArray, arrayParser_sequence isSequence]
      cases lang : t.lang with
      | c =>
        simp only [isArray, isSequence, if_true]
        refine gets_sequenceSize fun n small => ?_
        rw [sequenceInit_eq (rt lang), pure_bind]
        exact gets_array small fun _ => h _
      | cxx =>
        simp only [isArray, isSequence, if_true]
        refine gets_sequenceSize fun n small => ?_
        refine gets_resized ?_
        rw [resizeFunction_length lang, uint32T_of_lt small]
        exact gets_array small fun _ => h _
    · have small := readable_fixed readable isSequence
      rw [if_pos isArray, arrayParser_fixed isSequence]
      cases t.lang with
      | c =>
        simp only [isArray, if_true, if_neg isSequence]
        exact gets_array small fun _ => h _
      | cxx =>
        simp only [isArray, if_true, if_neg isSequence, uint32T_of_lt small]
        exact gets_overwrite output (gets_for32 small fun _ => h _)
  · rw [if_neg isArray]
    cases t.lang <;> simpa only [if_neg isArray] using h output

theorem reads_stringOver (rt : t.lang = .c → t.runtime.Succeeds) (old : Value) :
    Reads swap (Des.stringOver t old)
      (Value.string <$> stringParser swap t.order (slotOf t.lang)) := by
  unfold Des.stringOver
  cases lang : t.lang with
  | c => exact (reads_string fun s => if_pos ((rt lang).stringAssignn _)).map Value.string
  | cxx => exact (reads_string fun _ => rfl).map Value.string

theorem reads_wstringOver (rt : t.lang = .c → t.runtime.Succeeds) (old : Value) :
    Reads swap (Des.wstringOver t old) (Value.wstring <$> u16stringParser swap t.order) := by
  unfold Des.wstringOver
  cases lang : t.lang with
  | c => exact (reads_u16string (rt lang).wstringResize).map Value.wstring
  | cxx => exact (reads_u16string fun _ => rfl).map Value.wstring

/-- An array of words that is copied. -/
theorem reads_copied (swap : Bool) (t : Target) (w : Word) {n : Nat} (small : n < 2 ^ 32) :
    Reads swap (do return (← Des.copyArr t.order w n).map (Value.prim w))
      (Parser.times n (Value.prim w <$> (receivedElement swap w <$> Parser.word t.order w))) := by
  rw [Parser.times_map]
  exact (reads_copyArr w small).map (List.map (Value.prim w))

theorem gets_readPrimitive {w : Word} (rt : t.lang = .c → t.runtime.Succeeds)
    (readable : m.readable = true) (kind : m.kind = .primitive w) :
    Gets swap (Des.readPrimitive t w m output) (m.parser swap t.order (slotOf t.lang)) := by
  rw [MessageMember.parser_eq, kind]
  unfold Des.readPrimitive
  by_cases isArray : m.isArray = true
  · rw [if_pos isArray, if_neg (by rw [isArray]; exact Bool.false_ne_true)]
    by_cases isSequence : m.isSequence = true
    · rw [if_pos isSequence, arrayParser_sequence isSequence]
      refine gets_sequenceSize fun n small => ?_
      have elements := ((reads_copied swap t w small).map Value.array).gets
      rw [bind_assoc] at elements
      cases lang : t.lang with
      | c =>
        rw [sequenceInit_eq (rt lang), pure_bind]
        exact elements
      | cxx => exact gets_resized elements
    · have small := readable_fixed readable isSequence
      rw [if_neg isSequence, arrayParser_fixed isSequence, uint32T_of_lt small]
      have elements := gets_overwrite output (reads_copied swap t w small).gets
      rw [bind_assoc] at elements
      exact elements
  · rw [if_neg isArray, if_pos (by rw [Bool.eq_false_iff.mpr isArray]; rfl)]
    exact ((reads_word w).map (Value.prim w)).gets

theorem gets_readStructArr {nested : Value → Des Value} {p : Parser Value}
    (rt : t.lang = .c → t.runtime.Succeeds) (readable : m.readable = true)
    (h : ∀ old, Gets swap (nested old) p) :
    Gets swap (Des.readStructArr t nested m output)
      (if m.isArray then arrayParser swap t.order m p else p) := by
  unfold Des.readStructArr
  by_cases isArray : m.isArray = true
  · rw [if_pos isArray, if_pos isArray]
    by_cases isSequence : m.isSequence = true
    · rw [if_pos isSequence, arrayParser_sequence isSequence]
      refine gets_sequenceSize fun n small => ?_
      have length : (t.resizeFunction m n output.elems).length = n := by
        unfold Target.resizeFunction
        cases lang : t.lang with
        | c => simp [(rt lang).sequenceInit n]
        | cxx => simp
      refine gets_resized ?_
      simp only [length, uint32T_of_lt small]
      exact gets_array small fun _ => h _
    · have small := readable_fixed readable isSequence
      rw [if_neg isSequence, arrayParser_fixed isSequence, uint32T_of_lt small]
      exact gets_overwrite output (gets_for32 small fun _ => h _)
  · rw [if_neg isArray, if_neg isArray]
    exact h output

/-- **A member is read as its parser says**, if the containers take it. -/
theorem gets_deserializeMember {nested : Value → Des Value}
    (rt : t.lang = .c → t.runtime.Succeeds) (readable : m.readable = true)
    (h : m.kind = .message →
      ∀ old, Gets swap (nested old) (m.members.parser swap t.order (slotOf t.lang))) :
    Gets swap (Des.deserializeMember t nested m output)
      (m.parser swap t.order (slotOf t.lang)) := by
  unfold Des.deserializeMember
  cases kind : m.kind with
  | boolean => exact gets_readBoolean rt readable kind
  | primitive w => exact gets_readPrimitive rt readable kind
  | wchar => exact gets_readWchar rt readable kind
  | string =>
    rw [MessageMember.parser_eq, kind]
    exact gets_readElements rt readable fun old => (reads_stringOver rt old).gets
  | wstring =>
    rw [MessageMember.parser_eq, kind]
    exact gets_readElements rt readable fun old => (reads_wstringOver rt old).gets
  | message =>
    rw [MessageMember.parser_eq, kind]
    exact gets_readStructArr rt readable (h kind)
  | unsupported =>
    rw [MessageMember.readable, kind] at readable
    exact nomatch readable

/-- The fields of a message are read one after another. -/
theorem gets_deserializeFields : ∀ (ms : List MessageMember) (outputs : List Value),
    (∀ m ∈ ms, ∀ output, Gets swap
      (Des.deserializeMember t (Des.deserialize t m.members) m output)
      (m.parser swap t.order (slotOf t.lang))) →
    Gets swap (Des.deserializeFields t ms outputs) (fieldsParser swap t.order (slotOf t.lang) ms)
  | [], _, _ => Gets.pure []
  | m :: ms, outputs, h => by
    have first := h m List.mem_cons_self (outputs.headD default)
    have rest := gets_deserializeFields ms outputs.tail fun m' hm =>
      h m' (List.mem_cons_of_mem _ hm)
    cases m
    exact first.bind fun _ => rest.bind fun _ => Gets.pure _

/-- **The deserializer reads what the parser parses, whatever the target held**, if the containers
take it. -/
theorem gets_deserialize (rt : t.lang = .c → t.runtime.Succeeds) (d : MessageMembers) :
    d.readable = true → ∀ output,
      Gets swap (Des.deserialize t d output) (d.parser swap t.order (slotOf t.lang)) := by
  induction d using MessageMembers.induct (Q := fun m => m.all MessageMember.readable = true →
      ∀ output, Gets swap (Des.deserializeMember t (Des.deserialize t m.members) m output)
        (m.parser swap t.order (slotOf t.lang))) with
  | null => exact fun readable => nomatch readable
  | mk ns name ms ih =>
    intro readable output
    have fields := gets_deserializeFields ms output.fields fun m hm =>
      ih m hm (membersAll_iff.mp readable m hm)
    exact fields.map Value.message
  | member m ih readable output =>
    rw [MessageMember.all_eq, Bool.and_eq_true] at readable
    refine gets_deserializeMember rt readable.1 fun kind => ih ?_
    have nested := readable.2
    rwa [if_pos kind] at nested

end Refinement

end Cdr
