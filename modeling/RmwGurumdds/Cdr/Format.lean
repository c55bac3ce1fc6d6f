import RmwGurumdds.Cdr.MessageSerializer

/-!
# The format the serializer writes

What a message is on the wire, said once for each element kind and each shape, with no buffer and
no pass: the layout of a message is the layouts of its fields one after another, an array is its
elements, and a sequence is its length before its elements. The position-dependent gaps between
them are the layout's own business.

The two introspection languages share this format but for arrays of wide characters, where the C
writer has a format of its own (`arrayElementLayout`).

`emits_serialize` is the refinement: on a well-typed message whose members the codec handles and
whose arrays a 32-bit counter counts, the serializer puts down its layout, in both passes.
-/

namespace Cdr

open Wire Exec

/-! ## Layouts of messages -/

/-- One element. -/
def Kind.layout (o : ByteOrder) (nested : Value → Layout) : Kind → Value → Layout
  | .boolean, v => Layout.word o .uint8 (boolByte v.toBool)
  | .primitive w, v => Layout.word o w (v.toWord w)
  | .wchar, v => Layout.word o .uint16 (v.toWord .uint16)
  | .string, v =>
    Layout.word o .uint32 (BitVec.ofNat _ (v.toStr.length + 1)) ++ Layout.bytes (v.toStr ++ [0])
  | .wstring, v =>
    Layout.word o .uint32 (BitVec.ofNat _ v.toU16Str.length) ++
      Layout.concat (v.toU16Str.map (Layout.word o .uint16))
  | .message, v => nested v
  | .unsupported, _ => Layout.empty

/-- One element of an array. The C writer widens the wide characters of a sequence and leaves those
of a fixed array out. -/
def arrayElementLayout (lang : LanguageKind) (o : ByteOrder) (isSequence : Bool)
    (nested : Value → Layout) (kind : Kind) (v : Value) : Layout :=
  match lang, kind with
  | .c, .wchar =>
    if isSequence then Layout.word o .uint32 ((v.toWord .uint16).setWidth _) else Layout.empty
  | _, _ => kind.layout o nested v

/-- An array: its length if it is a sequence, and its elements. -/
def arrayLayout (o : ByteOrder) (isSequence : Bool) (element : Value → Layout) (es : List Value) :
    Layout :=
  (if isSequence then Layout.word o .uint32 (BitVec.ofNat _ es.length) else Layout.empty) ++
    Layout.concat (es.map element)

mutual

/-- A message. -/
def MessageMembers.layout (lang : LanguageKind) (o : ByteOrder) : MessageMembers → Value → Layout
  | .nullptr, _ => Layout.empty
  | .mk _ _ ms, v => fieldsLayout lang o ms v.fields

def fieldsLayout (lang : LanguageKind) (o : ByteOrder) : List MessageMember → List Value → Layout
  | [], _ => Layout.empty
  | m :: ms, vs => m.layout lang o (vs.headD default) ++ fieldsLayout lang o ms vs.tail

/-- A member. -/
def MessageMember.layout (lang : LanguageKind) (o : ByteOrder) : MessageMember → Value → Layout
  | .mk name typeId isArray arraySize isUpperBound members, v =>
    if isArray then
      let isSequence :=
        (MessageMember.mk name typeId isArray arraySize isUpperBound members).isSequence
      arrayLayout o isSequence
        (arrayElementLayout lang o isSequence (members.layout lang o) typeId.kind) v.elems
    else typeId.kind.layout o (members.layout lang o) v

end

/-- The layout of a member, in terms of its fields. -/
theorem MessageMember.layout_eq (lang : LanguageKind) (o : ByteOrder) (m : MessageMember)
    (v : Value) :
    m.layout lang o v =
      if m.isArray then
        arrayLayout o m.isSequence
          (arrayElementLayout lang o m.isSequence (m.members.layout lang o) m.kind) v.elems
      else m.kind.layout o (m.members.layout lang o) v := by
  cases m
  rfl

/-- What the whole of `serialize` writes: a message and the gap to the next multiple of four. -/
def messageLayout (lang : LanguageKind) (o : ByteOrder) (d : MessageMembers) (v : Value) : Layout :=
  d.layout lang o v ++ Layout.align Word.uint32.bytes

/-! ## The serializer writes the format -/

section Refinement

variable {S : Bool} {o : ByteOrder}

theorem getConst_array {es : List Value} {j : Nat} (h : j < es.length) :
    getConst (.array es) (0 + j) = es[j] := by
  rw [getConst, Value.elems, Nat.zero_add, List.getElem?_eq_getElem h, Option.getD_some]

/-- A counted loop over a countable list puts down what its rounds put down. -/
theorem emits_for32 (write : Value → Ser Unit) {f : Value → Layout} {es : List Value}
    (count : es.length < 2 ^ 32) (h : ∀ e ∈ es, Emits S (write e) (f e)) :
    Emits S (Ser.for32 es.length fun i => write (getConst (.array es) i))
      (Layout.concat (es.map f)) := by
  have rounds : Emits S (loop (fun i => write (getConst (.array es) i)) es.length 0)
      (Layout.concat (es.map f)) := Emits.loop es 0 fun j hj => by
    rw [getConst_array hj]
    exact h _ (List.getElem_mem hj)
  intro b valid bound
  rw [Ser.for32, bind_ok (get_run b), counted_eq_loop count]
  exact (rounds.andThen fun _ => Emits.pure ()) b valid bound

/-- The size in front of the elements. -/
theorem emits_countSequence (m : MessageMember) (n : Nat) :
    Emits S (Ser.countSequence S o m n)
      (if m.isSequence then Layout.word o .uint32 (BitVec.ofNat _ n) else Layout.empty) := by
  unfold Ser.countSequence
  split
  · exact emits_count o n
  · exact Emits.pure ()

variable {m : MessageMember} {es : List Value}

/-- A well-typed array has as many elements as its accessor says. -/
theorem sizeFunction_array (typed : m.lengthTyped es.length = true) :
    m.sizeFunction (.array es) = es.length := by
  unfold MessageMember.sizeFunction
  split
  · rfl
  · rename_i fixed
    exact (MessageMember.lengthTyped_fixed (Bool.eq_false_iff.mpr fixed) typed).symm

/-- The array branch of the C++ writer. -/
theorem emits_array_cxx (write : Value → Ser Unit) {f : Value → Layout}
    (typed : m.lengthTyped es.length = true) (count : es.length < 2 ^ 32)
    (h : ∀ e ∈ es, Emits S (write e) (f e)) :
    Emits S (do
        let size := uint32T (m.sizeFunction (.array es))
        Ser.countSequence S o m size
        Ser.for32 size fun i => write (getConst (.array es) i))
      (arrayLayout o m.isSequence f es) := by
  rw [sizeFunction_array typed, uint32T_of_lt count]
  exact (emits_countSequence m _).bind fun _ => emits_for32 _ count h

/-- The array branch of the C writer. -/
theorem emits_array_c (write : Value → Ser Unit) {f : Value → Layout}
    (typed : m.lengthTyped es.length = true) (count : es.length < 2 ^ 32)
    (h : ∀ e ∈ es, Emits S (write e) (f e)) :
    Emits S (if m.isSequence then do
          Ser.count S o es.length
          Ser.for32 es.length fun i => write (getConst (.array es) i)
        else Ser.for32 m.arraySize fun i => write (getConst (.array es) i))
      (arrayLayout o m.isSequence f es) := by
  unfold arrayLayout
  split
  · exact (emits_count o _).bind fun _ => emits_for32 _ count h
  · rename_i fixed
    rw [← MessageMember.lengthTyped_fixed (Bool.eq_false_iff.mpr fixed) typed, empty_append]
    exact emits_for32 _ count h

variable {lang : LanguageKind} {v : Value}

/-- The two languages share the format of an element but for wide characters. -/
theorem arrayElementLayout_eq {kind : Kind} (h : kind ≠ .wchar) (isSequence : Bool)
    (nested : Value → Layout) :
    arrayElementLayout lang o isSequence nested kind = kind.layout o nested := by
  funext e
  cases lang with
  | c =>
    cases kind with
    | wchar => exact absurd rfl h
    | _ => rfl
  | cxx => cases kind <;> rfl

/-- Members that are written element by element in both languages. -/
theorem emits_serializeElements {write : Value → Ser Unit} (typed : m.typed v = true)
    (count : m.arrayCountable v = true) (narrow : m.kind ≠ .wchar)
    (h : ∀ e, Emits S (write e) (m.kind.layout o (m.members.layout lang o) e)) :
    Emits S (Ser.serializeElements S lang o write m v) (m.layout lang o v) := by
  rw [MessageMember.layout_eq, arrayElementLayout_eq narrow]
  by_cases isArray : m.isArray = true
  · obtain ⟨es, rfl, length, -⟩ := MessageMember.typed_array isArray typed
    have small := MessageMember.arrayCountable_array isArray count
    cases lang with
    | c =>
      simp only [Ser.serializeElements, isArray, if_true]
      exact emits_array_c write length small fun e _ => h e
    | cxx =>
      simp only [Ser.serializeElements, isArray, if_true]
      exact emits_array_cxx _ length small fun e _ => h e
  · rw [if_neg isArray]
    cases lang <;> simpa only [Ser.serializeElements, if_neg isArray] using h v

theorem emits_serializeBoolean (kind : m.kind = .boolean) (typed : m.typed v = true)
    (count : m.arrayCountable v = true) :
    Emits S (Ser.serializeBoolean S lang o m v) (m.layout lang o v) := by
  rw [MessageMember.layout_eq, arrayElementLayout_eq (by rw [kind]; exact nofun)]
  have write : ∀ e : Value, Emits S (Ser.word S o .uint8 (boolByte e.toBool))
      (m.kind.layout o (m.members.layout lang o) e) := by
    intro e
    rw [kind]
    exact emits_word o .uint8 _
  unfold Ser.serializeBoolean
  by_cases isArray : m.isArray = true
  · obtain ⟨es, rfl, length, -⟩ := MessageMember.typed_array isArray typed
    have small := MessageMember.arrayCountable_array isArray count
    rw [if_pos isArray, if_pos isArray]
    cases lang with
    | c =>
      exact emits_array_c (fun e => Ser.word S o .uint8 (boolByte e.toBool)) length small
        fun e _ => write e
    | cxx =>
      have ranged : Emits S
          (loop (fun i => Ser.word S o .uint8 (boolByte (getConst (.array es) i).toBool))
            es.length 0)
          (Layout.concat (es.map _)) := Emits.loop es 0 fun j hj => by
        rw [getConst_array hj]
        exact write _
      by_cases isSequence : m.isSequence = true
      · simp only [arrayLayout, isSequence, if_true]
        exact (emits_count o _).bind fun _ => ranged.andThen fun _ => Emits.pure ()
      · simp only [arrayLayout, isSequence, sizeFunction_array length, uint32T_of_lt small,
          Bool.false_eq_true, if_false, empty_append]
        exact emits_for32 (fun e => Ser.word S o .uint8 (boolByte e.toBool)) small
          fun e _ => write e
  · rw [if_neg isArray, if_neg isArray]
    exact write v

/-- Layouts of nothing. -/
theorem concat_empty : ∀ es : List Value, Layout.concat (es.map fun _ => Layout.empty) = .empty
  | [] => rfl
  | _ :: es => by rw [List.map_cons, concat_cons, concat_empty es, empty_append]

theorem emits_serializeWchar (kind : m.kind = .wchar) (typed : m.typed v = true)
    (count : m.arrayCountable v = true) :
    Emits S (Ser.serializeWchar S lang o m v) (m.layout lang o v) := by
  rw [MessageMember.layout_eq, kind]
  unfold Ser.serializeWchar
  by_cases isArray : m.isArray = true
  · obtain ⟨es, rfl, length, -⟩ := MessageMember.typed_array isArray typed
    have small := MessageMember.arrayCountable_array isArray count
    rw [if_pos isArray, if_pos isArray]
    cases lang with
    | c =>
      by_cases isSequence : m.isSequence = true
      · have rounds := emits_for32 (S := S)
          (fun e => Ser.word S o .uint32 ((e.toWord .uint16).setWidth _))
          small fun e _ => emits_word o .uint32 _
        simp only [arrayLayout, isSequence, if_true]
        exact (emits_count o _).bind fun _ => rounds
      · simp only [arrayLayout, isSequence, Bool.false_eq_true, if_false, empty_append]
        have nothing := concat_empty es
        show Emits S _ (Layout.concat (es.map fun _ => Layout.empty))
        rw [nothing]
        exact Emits.pure ()
    | cxx =>
      exact emits_array_cxx (fun e => Ser.word S o .uint16 (e.toWord .uint16))
        length small fun e _ => emits_word o .uint16 _
  · rw [if_neg isArray, if_neg isArray]
    exact emits_word o .uint16 _

theorem emits_serializePrimitive {w : Word} (kind : m.kind = .primitive w)
    (typed : m.typed v = true) (count : m.arrayCountable v = true) :
    Emits S (Ser.serializePrimitive S lang o w m v) (m.layout lang o v) := by
  rw [MessageMember.layout_eq, arrayElementLayout_eq (by rw [kind]; exact nofun), kind]
  unfold Ser.serializePrimitive
  by_cases isArray : m.isArray = true
  · obtain ⟨es, rfl, length, -⟩ := MessageMember.typed_array isArray typed
    have small := MessageMember.arrayCountable_array isArray count
    have copied : Emits S (Ser.copyArr S o w (es.map (Value.toWord w)) es.length)
        (Layout.concat (es.map (Kind.layout o (m.members.layout lang o) (.primitive w)))) := by
      have whole := emits_copyArr (S := S) o w (es.map (Value.toWord w))
      rwa [List.length_map, List.map_map] at whole
    rw [if_pos isArray, if_pos isArray]
    cases lang with
    | c =>
      by_cases isSequence : m.isSequence = true
      · simp only [arrayLayout, isSequence, if_true]
        exact (emits_count o _).bind fun _ => copied
      · simp only [arrayLayout, isSequence, Bool.false_eq_true, if_false, empty_append,
          ← MessageMember.lengthTyped_fixed (Bool.eq_false_iff.mpr isSequence) length]
        exact copied
    | cxx =>
      rw [sizeFunction_array length, uint32T_of_lt small]
      exact (emits_countSequence m _).bind fun _ => copied
  · rw [if_neg isArray, if_neg isArray]
    exact emits_word o w _

theorem emits_serializeStructArr {nested : Value → Ser Unit} (kind : m.kind = .message)
    (typed : m.typed v = true) (count : m.every MessageMember.writable v = true)
    (h : ∀ e, m.members.typed e = true → m.members.writable e = true →
      Emits S (nested e) (m.members.layout lang o e)) :
    Emits S (Ser.serializeStructArr S o nested m v) (m.layout lang o v) := by
  rw [MessageMember.every_eq, if_pos kind, Bool.and_eq_true] at count
  rw [MessageMember.layout_eq, arrayElementLayout_eq (by rw [kind]; exact nofun), kind]
  unfold Ser.serializeStructArr
  by_cases isArray : m.isArray = true
  · obtain ⟨es, rfl, length, each⟩ := MessageMember.typed_array isArray typed
    have small := MessageMember.arrayCountable_array isArray (Bool.and_eq_true_iff.mp count.1).2
    rw [if_pos isArray, List.all_eq_true] at count
    rw [kind] at each
    rw [if_pos isArray, if_pos isArray]
    exact emits_array_cxx _ length small fun e he => h e (each e he) (count.2 e he)
  · rw [MessageMember.typed_scalar (Bool.eq_false_iff.mpr isArray), kind] at typed
    rw [if_neg isArray] at count
    rw [if_neg isArray, if_neg isArray]
    exact h v typed count.2

/-- **A member's bytes are its layout.** -/
theorem emits_serializeMember {nested : Value → Ser Unit}
    (typed : m.typed v = true) (count : m.every MessageMember.writable v = true)
    (h : m.kind = .message → ∀ e, m.members.typed e = true → m.members.writable e = true →
      Emits S (nested e) (m.members.layout lang o e)) :
    Emits S (Ser.serializeMember S lang o nested m v) (m.layout lang o v) := by
  obtain ⟨handled, here⟩ : m.kind ≠ .unsupported ∧ m.arrayCountable v = true := by
    rw [MessageMember.every_eq, Bool.and_eq_true, MessageMember.writable, Bool.and_eq_true,
      decide_eq_true_eq] at count
    exact count.1
  unfold Ser.serializeMember
  cases kind : m.kind with
  | boolean => exact emits_serializeBoolean kind typed here
  | primitive w => exact emits_serializePrimitive kind typed here
  | wchar => exact emits_serializeWchar kind typed here
  | string =>
    exact emits_serializeElements typed here (by rw [kind]; exact nofun) fun e => by
      rw [kind]
      exact emits_string o e.toStr
  | wstring =>
    exact emits_serializeElements typed here (by rw [kind]; exact nofun) fun e => by
      rw [kind]
      exact emits_u16string o e.toU16Str
  | message => exact emits_serializeStructArr kind typed count (h kind)
  | unsupported => exact absurd kind handled

/-- The fields of a message are written one after another. -/
theorem emits_serializeFields : ∀ (ms : List MessageMember) (vs : List Value),
    (∀ m ∈ ms, ∀ v, m.typed v = true → m.every MessageMember.writable v = true →
      Emits S (Ser.serializeMember S lang o (Ser.serializeMembers S lang o m.members) m v)
        (m.layout lang o v)) →
    fieldsTyped ms vs = true → fieldsEvery MessageMember.writable ms vs = true →
    Emits S (Ser.serializeFields S lang o ms vs) (fieldsLayout lang o ms vs)
  | [], [], _, _, _ => Emits.pure ()
  | m :: ms, v :: vs, h, typed, count => by
    rw [fieldsTyped, Bool.and_eq_true] at typed
    rw [fieldsEvery, Bool.and_eq_true] at count
    have first := h m List.mem_cons_self v typed.1 count.1
    have rest := emits_serializeFields ms vs (fun m' hm => h m' (List.mem_cons_of_mem _ hm))
      typed.2 count.2
    cases m
    exact first.bind fun _ => rest
  | [], _ :: _, _, typed, _ => nomatch typed
  | _ :: _, [], _, typed, _ => nomatch typed

/-- **A message's bytes are its layout.** -/
theorem emits_serializeMembers (d : MessageMembers) : ∀ v, d.typed v = true →
    d.writable v = true → Emits S (Ser.serializeMembers S lang o d v) (d.layout lang o v) := by
  induction d using MessageMembers.induct (Q := fun m => ∀ v, m.typed v = true →
      m.every MessageMember.writable v = true →
      Emits S (Ser.serializeMember S lang o (Ser.serializeMembers S lang o m.members) m v)
        (m.layout lang o v)) with
  | null => exact fun v typed _ => nomatch typed
  | mk ns name ms ih =>
    intro v typed count
    cases v with
    | message vs => exact emits_serializeFields ms vs ih typed count
    | _ => exact nomatch typed
  | member m ih v typed count => exact emits_serializeMember typed count fun _ => ih

/-- **The serializer writes the format, in both passes.** -/
theorem emits_serialize (lang : LanguageKind) {d : MessageMembers} (typed : d.typed v = true)
    (writable : d.writable v = true) :
    Emits S (Ser.serialize S lang o d v true) (messageLayout lang o d v) :=
  (emits_serializeMembers d v typed writable).bind fun _ => emits_roundup .uint32

end Refinement

end Cdr
