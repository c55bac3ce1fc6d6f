import RmwGurumdds.Cdr.TypeSupportCommon
import RmwGurumdds.Wire.Weight

/-!
# The two writers against each other

The C and the C++ writer of one message type, on one message. They share every format but one: the
C writer widens the wide characters of a sequence to 32 bits and leaves those of a fixed array out,
so the two agree on a message without such elements (`layout_eq_of_wideFree`).

The converse is a matter of weights. A sequence of wide characters makes the C message longer, a
fixed array makes it shorter, and the two may cancel, so lengths alone tell nothing. `tilted` asks
for a weight under which neither kind of element makes the C message lighter; then only messages
without such elements weigh the same in both languages (`heavier_layout`). A weight of one tilts
messages without fixed arrays of wide characters, and a weight that makes `0xff` negative tilts the
messages whose wide characters in arrays are all `0xffff` (`paint`), which every type with such
elements has.
-/

namespace Cdr

open Wire Exec

/-! ## Messages without wide characters in arrays -/

/-- An array of wide characters. -/
def MessageMember.isWideArray (member : MessageMember) : Bool :=
  member.isArray && decide (member.kind = .wchar)

/-- The member is no array of wide characters, or one without elements. -/
def MessageMember.wideFree (member : MessageMember) (v : Value) : Bool :=
  !member.isWideArray || v.elems.isEmpty

/-- No array of wide characters in a message has an element. -/
def MessageMembers.wideFree (d : MessageMembers) (v : Value) : Bool :=
  d.every MessageMember.wideFree v

/-- No array of wide characters of one shape, sequence or fixed, in a message has an element. -/
def MessageMembers.wideFreeIn (isSequence : Bool) (d : MessageMembers) (v : Value) : Bool :=
  d.every (fun m v => decide (m.isSequence ≠ isSequence) || m.wideFree v) v

section Layouts

variable {o : ByteOrder}

/-- **The two writers share the format of a message without wide characters in arrays.** -/
theorem layout_eq_of_wideFree (d : MessageMembers) : ∀ v, d.typed v = true →
    d.wideFree v = true → d.layout .c o v = d.layout .cxx o v := by
  refine d.typed_induct (P := fun d v => d.wideFree v = true → d.layout .c o v = d.layout .cxx o v)
    (Q := fun m v => m.every MessageMember.wideFree v = true → m.layout .c o v = m.layout .cxx o v)
    (R := fun ms vs => fieldsEvery MessageMember.wideFree ms vs = true →
      fieldsLayout .c o ms vs = fieldsLayout .cxx o ms vs)
    (fun _ _ _ _ fields => fields) (fun _ => rfl) ?_ ?_
  · intro m ms v vs first rest free
    rw [fieldsEvery, Bool.and_eq_true] at free
    rw [fieldsLayout, fieldsLayout]
    exact congrArg₂ Layout.append (first free.1) (rest free.2)
  · intro m v typed ih free
    rw [MessageMember.every_eq, Bool.and_eq_true] at free
    obtain ⟨here, nested⟩ := free
    rw [MessageMember.layout_eq, MessageMember.layout_eq]
    by_cases isArray : m.isArray = true
    · obtain ⟨es, rfl, -, each⟩ := MessageMember.typed_array isArray typed
      rw [if_pos isArray, if_pos isArray]
      by_cases wide : m.kind = .wchar
      · have empty : es = [] := by
          simpa [MessageMember.wideFree, MessageMember.isWideArray, isArray, wide, Value.elems]
            using here
        rw [empty]
        rfl
      · rw [arrayElementLayout_eq wide, arrayElementLayout_eq wide, arrayLayout, arrayLayout]
        refine congrArg (fun elements => _ ++ Layout.concat elements)
          (List.map_congr_left fun e he => ?_)
        cases kind : m.kind with
        | message =>
          rw [if_pos kind, if_pos isArray, List.all_eq_true] at nested
          exact ih e (m.typed_nested kind (each e he)) (nested e he)
        | _ => rfl
    · rw [MessageMember.typed_scalar (Bool.eq_false_iff.mpr isArray)] at typed
      rw [if_neg isArray, if_neg isArray]
      cases kind : m.kind with
      | message =>
        rw [if_pos kind, if_neg isArray] at nested
        exact ih v (m.typed_nested kind typed) nested
      | _ => rfl

/-! ## Weights that tell the two writers apart -/

variable {w : Byte → Int}

/-- What the two bytes of a wide character weigh. -/
def wideWeight (w : Byte → Int) (e : Value) : Int :=
  weigh w ((digits 2 (e.toWord .uint16).toNat).map some)

/-- Neither an element of a sequence of wide characters nor one of a fixed array makes the C message
lighter than the C++ one. -/
def MessageMember.tilted (w : Byte → Int) (member : MessageMember) (v : Value) : Bool :=
  !member.isWideArray ||
    if member.isSequence then v.elems.isEmpty || decide (0 < w 0)
    else v.elems.all fun e => decide (wideWeight w e < 0)

theorem weigh_wide (e : Value) (off : Nat) :
    weigh w (Layout.word o .uint16 (e.toWord .uint16) off) = wideWeight w e :=
  weigh_word w o _ _ off

/-- A wide character in a 32-bit word has two zero bytes more. -/
theorem weigh_widened (e : Value) (off : Nat) :
    weigh w (Layout.word o .uint32 ((e.toWord .uint16).setWidth _) off) =
      wideWeight w e + 2 * w 0 := by
  have small : (e.toWord .uint16).toNat < 65536 := (e.toWord .uint16).isLt
  have same : ((e.toWord .uint16).setWidth Word.uint32.bits).toNat = (e.toWord .uint16).toNat :=
    BitVec.toNat_setWidth_of_le (by decide)
  rw [weigh_word, same, wideWeight]
  generalize (e.toWord .uint16).toNat = n at small
  have high : n / 256 / 256 = 0 := by omega
  simp only [Word.bytes, digits, high, Nat.zero_div, List.map_cons, List.map_nil, weigh_cons_some,
    weigh_nil]
  show _ + (_ + (w 0 + (w 0 + 0))) = _
  omega

/-- An element outside arrays of wide characters weighs the same in both languages. -/
theorem heavier_kind {kind : Kind} {nested nested' : Value → Layout} {P : Prop} {e : Value}
    (h : kind = .message → Heavier w P (nested e) (nested' e)) (h' : kind ≠ .message → P) :
    Heavier w P (kind.layout o nested e) (kind.layout o nested' e) := by
  cases kind with
  | message => exact h rfl
  | boolean => exact .refl (.word _ _ _) (h' nofun)
  | primitive w' => exact .refl (.word _ _ _) (h' nofun)
  | wchar => exact .refl (.word _ _ _) (h' nofun)
  | string => exact .refl (.append (.word _ _ _) (.bytes _)) (h' nofun)
  | wstring =>
    exact .refl (.append (.word _ _ _) (.concat _ fun x _ => .word o .uint16 x)) (h' nofun)
  | unsupported => exact .refl .empty (h' nofun)

/-- An array of wide characters is heavier in C when it has elements. -/
theorem heavier_wideArray {m : MessageMember} {es : List Value} {nested nested' : Value → Layout}
    (wide : m.isWideArray = true) (tilted : m.tilted w (.array es) = true) :
    Heavier w (es = [])
      (arrayLayout o m.isSequence (arrayElementLayout .c o m.isSequence nested .wchar) es)
      (arrayLayout o m.isSequence (arrayElementLayout .cxx o m.isSequence nested' .wchar) es) := by
  rw [MessageMember.tilted, wide, Bool.not_true, Bool.false_or, Value.elems] at tilted
  have none : (∀ e ∈ es, False) → es = [] := fun h => List.eq_nil_iff_forall_not_mem.mpr h
  by_cases isSequence : m.isSequence = true
  · rw [if_pos isSequence, Bool.or_eq_true, List.isEmpty_iff, decide_eq_true_eq] at tilted
    simp only [arrayLayout, isSequence, if_true]
    refine ((Heavier.refl (P := True) (.word _ _ _) trivial).append
      (.concat (P := fun _ => False) es fun e he off off' => ?_)).imp fun h => none h.2
    have positive : 0 < w 0 := tilted.resolve_left (List.ne_nil_of_mem he)
    rw [show arrayElementLayout .c o true nested .wchar e =
        Layout.word o .uint32 ((e.toWord .uint16).setWidth _) from rfl, weigh_widened]
    rw [show arrayElementLayout .cxx o true nested' .wchar e =
        Layout.word o .uint16 (e.toWord .uint16) from rfl, weigh_wide]
    exact ⟨by omega, by omega⟩
  · rw [if_neg isSequence, List.all_eq_true] at tilted
    simp only [arrayLayout, isSequence, Bool.false_eq_true, if_false]
    refine ((Heavier.refl (P := True) .empty trivial).append (.concat (P := fun _ => False) es
      fun e he off off' => ?_)).imp fun h => none h.2
    have negative : wideWeight w e < 0 := of_decide_eq_true (tilted e he)
    rw [show arrayElementLayout .c o false nested .wchar e = Layout.empty from rfl, empty_apply,
      weigh_nil]
    rw [show arrayElementLayout .cxx o false nested' .wchar e =
        Layout.word o .uint16 (e.toWord .uint16) from rfl, weigh_wide]
    exact ⟨by omega, by omega⟩

/-- **Under a tilted weight the C message is the heavier one, and strictly unless no array of wide
characters has an element.** -/
theorem heavier_layout (d : MessageMembers) : ∀ v, d.typed v = true →
    d.every (MessageMember.tilted w) v = true →
    Heavier w (d.wideFree v = true) (d.layout .c o v) (d.layout .cxx o v) := by
  refine d.typed_induct
    (P := fun d v => d.every (MessageMember.tilted w) v = true →
      Heavier w (d.wideFree v = true) (d.layout .c o v) (d.layout .cxx o v))
    (Q := fun m v => m.every (MessageMember.tilted w) v = true →
      Heavier w (m.every MessageMember.wideFree v = true) (m.layout .c o v) (m.layout .cxx o v))
    (R := fun ms vs => fieldsEvery (MessageMember.tilted w) ms vs = true →
      Heavier w (fieldsEvery MessageMember.wideFree ms vs = true) (fieldsLayout .c o ms vs)
        (fieldsLayout .cxx o ms vs))
    (fun _ _ _ _ fields => fields) (fun _ => .refl .empty rfl) ?_ ?_
  · intro m ms v vs first rest tilted
    rw [fieldsEvery, Bool.and_eq_true] at tilted
    rw [fieldsEvery, Bool.and_eq_true]
    exact (first tilted.1).append (rest tilted.2)
  · intro m v typed ih tilted
    rw [MessageMember.every_eq, Bool.and_eq_true] at tilted
    obtain ⟨here, nested⟩ := tilted
    rw [MessageMember.every_eq, Bool.and_eq_true, MessageMember.layout_eq, MessageMember.layout_eq]
    by_cases isArray : m.isArray = true
    · obtain ⟨es, rfl, -, each⟩ := MessageMember.typed_array isArray typed
      simp only [if_pos isArray, Value.elems]
      by_cases wide : m.kind = .wchar
      · have isWideArray : m.isWideArray = true := by
          simp [MessageMember.isWideArray, isArray, wide]
        rw [wide]
        refine (heavier_wideArray isWideArray here).imp fun empty => ⟨?_, rfl⟩
        simp [MessageMember.wideFree, empty, Value.elems]
      · have free : m.wideFree (.array es) = true := by
          simp [MessageMember.wideFree, MessageMember.isWideArray, wide]
        rw [arrayElementLayout_eq wide, arrayElementLayout_eq wide, arrayLayout, arrayLayout]
        refine ((Heavier.refl (P := True) ?_ trivial).append (.concat
          (P := fun e => m.kind = .message → m.members.wideFree e = true) es fun e he =>
            heavier_kind (fun kind => ?_) fun leaf kind => absurd kind leaf)).imp
          fun h => ⟨free, ?_⟩
        · split
          · exact .word _ _ _
          · exact .empty
        · rw [if_pos kind, if_pos isArray, List.all_eq_true] at nested
          exact (ih e (m.typed_nested kind (each e he)) (nested e he)).imp fun free _ => free
        · split
          · rename_i kind
            exact List.all_eq_true.mpr fun e he => h.2 e he kind
          · rfl
    · have free : m.wideFree v = true := by
        simp [MessageMember.wideFree, MessageMember.isWideArray, isArray]
      rw [MessageMember.typed_scalar (Bool.eq_false_iff.mpr isArray)] at typed
      simp only [if_neg isArray]
      refine heavier_kind (fun kind => ?_) fun leaf => ⟨free, if_neg leaf⟩
      rw [if_pos kind, if_neg isArray] at nested
      refine (ih v (m.typed_nested kind typed) nested).imp fun nestedFree => ⟨free, ?_⟩
      rw [if_pos kind]
      exact nestedFree

/-! ## Painting -/

/-- An element with the wide characters in arrays all `0xffff`. -/
def paintLeaf (member : MessageMember) (e : Value) : Value :=
  if member.isWideArray then .prim .uint16 0xffff else e

/-- A message with the wide characters in arrays all `0xffff`. -/
def MessageMembers.paint (d : MessageMembers) (v : Value) : Value := d.map paintLeaf v

theorem isWideArray_iff {m : MessageMember} :
    m.isWideArray = true ↔ m.isArray = true ∧ m.kind = .wchar := by
  rw [MessageMember.isWideArray, Bool.and_eq_true, decide_eq_true_eq]

/-- An array has as many elements after painting as before. -/
theorem paint_length {m : MessageMember} (isArray : m.isArray = true) (v : Value) :
    (m.map paintLeaf v).elems.length = v.elems.length := by
  rw [MessageMember.map_eq, if_pos isArray, Value.elems, List.length_map]

theorem paint_typed {d : MessageMembers} {v : Value} (typed : d.typed v = true) :
    d.typed (d.paint v) = true := by
  refine d.typed_map (fun m e _ typedE => ?_) v typed
  unfold paintLeaf
  split
  · rename_i wide
    rw [(isWideArray_iff.mp wide).2]
    rfl
  · exact typedE

theorem paint_arraysCountable {d : MessageMembers} {v : Value} (typed : d.typed v = true) :
    d.arraysCountable (d.paint v) = d.arraysCountable v := by
  refine d.every_map (fun m v _ => ?_) v typed
  unfold MessageMember.arrayCountable
  cases isArray : m.isArray with
  | true => rw [paint_length isArray]
  | false => rfl

theorem paint_wideFree {d : MessageMembers} {v : Value} (typed : d.typed v = true) :
    d.wideFree (d.paint v) = d.wideFree v := by
  refine d.every_map (fun m v _ => ?_) v typed
  unfold MessageMember.wideFree
  cases wide : m.isWideArray with
  | true =>
    rw [Bool.eq_iff_iff, Bool.or_eq_true, Bool.or_eq_true, List.isEmpty_iff, List.isEmpty_iff,
      ← List.length_eq_zero_iff, paint_length (isWideArray_iff.mp wide).1, List.length_eq_zero_iff]
  | false => rfl

/-- The weight that tells painted messages apart. -/
def paintWeight (b : Byte) : Int := if b = 0xff then -1 else 1

/-- **A painted message is tilted.** -/
theorem paint_tilted {d : MessageMembers} {v : Value} (typed : d.typed v = true) :
    d.every (MessageMember.tilted paintWeight) (d.paint v) = true := by
  refine (d.every_map (P := fun _ _ => true) (fun m v typedV => ?_) v typed).trans (d.every_true v)
  unfold MessageMember.tilted
  cases wide : m.isWideArray with
  | false => rfl
  | true =>
    obtain ⟨isArray, kind⟩ := isWideArray_iff.mp wide
    have leaf : m.mapElement paintLeaf (m.members.map paintLeaf) =
        fun _ => .prim .uint16 0xffff := by
      funext e
      rw [MessageMember.mapElement, if_neg (by rw [kind]; decide), paintLeaf, if_pos wide]
    rw [MessageMember.map_eq, if_pos isArray, leaf, Value.elems, Bool.not_true, Bool.false_or]
    split
    · exact Bool.or_eq_true_iff.mpr (.inr (decide_eq_true (by decide)))
    · exact List.all_eq_true.mpr (List.forall_mem_map.mpr fun _ _ => by decide)

/-- Painting changes no size. -/
theorem paint_sameSize (lang : LanguageKind) (d : MessageMembers) : ∀ v, d.typed v = true →
    SameSize (d.layout lang o (d.paint v)) (d.layout lang o v) := by
  refine d.typed_induct
    (P := fun d v => SameSize (d.layout lang o (d.map paintLeaf v)) (d.layout lang o v))
    (Q := fun m v => SameSize (m.layout lang o (m.map paintLeaf v)) (m.layout lang o v))
    (R := fun ms vs => SameSize (fieldsLayout lang o ms (fieldsMap paintLeaf ms vs))
      (fieldsLayout lang o ms vs))
    (fun _ _ _ _ fields => fields) (.refl _) (fun m ms v vs first rest => first.append rest) ?_
  intro m v typed ih
  rw [MessageMember.layout_eq, MessageMember.layout_eq, MessageMember.map_eq]
  by_cases isArray : m.isArray = true
  · obtain ⟨es, rfl, -, each⟩ := MessageMember.typed_array isArray typed
    simp only [if_pos isArray, Value.elems, arrayLayout, List.length_map]
    refine (SameSize.refl _).append (.concat es fun e he => ?_)
    rw [MessageMember.mapElement]
    by_cases message : m.kind = .message
    · have nested := ih e (m.typed_nested message (each e he))
      rw [if_pos message, message, arrayElementLayout_eq (by decide : Kind.message ≠ .wchar)]
      exact nested
    · rw [if_neg message, paintLeaf]
      by_cases wide : m.isWideArray = true
      · rw [if_pos wide, (isWideArray_iff.mp wide).2]
        cases lang with
        | cxx => exact SameSize.word o .uint16 _ _
        | c =>
          cases m.isSequence with
          | true => exact SameSize.word o .uint32 _ _
          | false => exact SameSize.refl Layout.empty
      · rw [if_neg wide]
        exact .refl _
  · have scalar := Bool.eq_false_iff.mpr isArray
    rw [MessageMember.typed_scalar scalar] at typed
    simp only [if_neg isArray]
    rw [MessageMember.mapElement]
    by_cases message : m.kind = .message
    · have nested := ih v (m.typed_nested message typed)
      rw [if_pos message, message]
      exact nested
    · rw [if_neg message, paintLeaf, if_neg fun wide => isArray (isWideArray_iff.mp wide).1]
      exact .refl _

end Layouts

/-! ## The writers themselves -/

/-- A message either writer can write: well-typed, with arrays a 32-bit counter counts, and with
encodings that are no larger than an object in memory. -/
structure Encodable (o : ByteOrder) (d : MessageMembers) (v : Value) : Prop where
  typed : d.typed v = true
  count : d.arraysCountable v = true
  bound : ∀ lang, encodedSize lang o d v < 2 ^ 63

/-- The C and the C++ writer announce the same size for a message, and leave the same behind in
every buffer of that size. -/
def SameEncoding (o : ByteOrder) (d : MessageMembers) (v : Value) : Prop :=
  ∃ size : Nat, (∀ lang, (getSerializedSize lang o d (some v)).ret = .ok size) ∧
    ∀ mem : List Byte, mem.length = size →
      serializeRosToCdr .c o d v (some mem) size = serializeRosToCdr .cxx o d v (some mem) size

section Writers

variable {o : ByteOrder} {d : MessageMembers} {v : Value}

/-- The writers encode a message the same exactly when they go through the same cells. -/
theorem sameEncoding_iff (supported : d.supported = true) (encodable : Encodable o d v) :
    SameEncoding o d v ↔ messageLayout .c o d v 0 = messageLayout .cxx o d v 0 := by
  have sized : ∀ lang, (getSerializedSize lang o d (some v)).ret = .ok (encodedSize lang o d v) :=
    fun lang => by
      rw [getSerializedSize_spec encodable.typed
        (MessageMembers.writable_of_supported supported encodable.count) (encodable.bound lang)]
  have wrote : ∀ lang (mem : List Byte), mem.length = encodedSize lang o d v →
      serializeRosToCdr lang o d v (some mem) mem.length =
        { ret := .ok true, errorMsg := none,
          ddsMessage := some (written o mem (messageLayout lang o d v 0)),
          offset := (messageLayout lang o d v 0).length } := by
    intro lang mem length
    have bound := encodable.bound lang
    have spec := serializeRosToCdr_spec mem encodable.typed
      (MessageMembers.writable_of_supported supported encodable.count) bound
      (Nat.le_refl _) (by omega)
    rwa [if_pos length.symm.le] at spec
  constructor
  · rintro ⟨size, announced, same⟩
    have size_eq : ∀ lang, encodedSize lang o d v = size := by
      intro lang
      have both := (sized lang).symm.trans (announced lang)
      exact Int.ofNat_inj.mp (Except.ok.inj both)
    have length : (messageLayout .c o d v 0).length = (messageLayout .cxx o d v 0).length :=
      Nat.add_left_cancel ((size_eq .c).trans (size_eq .cxx).symm)
    refine cells_eq_of_overlay (header o) (Nat.le_refl _) length fun x => ?_
    let n := (messageLayout .c o d v 0).length
    let mem : List Byte := List.replicate cdrHeaderSize 0 ++ List.replicate n x
    have memLength : mem.length = size := by
      rw [← size_eq .c, List.length_append, List.length_replicate, List.length_replicate]
      rfl
    have run := same mem memLength
    rw [← memLength, wrote .c mem (memLength.trans (size_eq .c).symm),
      wrote .cxx mem (memLength.trans (size_eq .cxx).symm)] at run
    have bytes := Option.some.inj (congrArg Serialized.ddsMessage run)
    have rest : mem.drop cdrHeaderSize = List.replicate n x := by
      show (List.replicate cdrHeaderSize 0 ++ List.replicate n x).drop cdrHeaderSize = _
      rw [List.drop_append_of_le_length (by rw [List.length_replicate]), List.drop_replicate,
        Nat.sub_self]
      rfl
    rw [written, written, rest] at bytes
    exact bytes
  · intro same
    have size_eq : encodedSize .c o d v = encodedSize .cxx o d v := by
      rw [encodedSize, same, encodedSize]
    refine ⟨encodedSize .cxx o d v, fun lang => ?_, fun mem length => ?_⟩
    · cases lang with
      | c => rw [sized, size_eq]
      | cxx => exact sized .cxx
    · rw [← length, wrote .c mem (length.trans size_eq.symm), wrote .cxx mem length, same]

/-- A tilted message that both writers encode the same has no wide characters in arrays. -/
theorem wideFree_of_sameEncoding {w : Byte → Int} (supported : d.supported = true)
    (encodable : Encodable o d v) (tilted : d.every (MessageMember.tilted w) v = true)
    (same : SameEncoding o d v) : d.wideFree v = true := by
  have heavier := (heavier_layout (o := o) d v encodable.typed tilted).append
    (Heavier.refl (P := True) (Steady.align Word.uint32.bytes) trivial)
  exact (heavier.of_eq ((sameEncoding_iff supported encodable).mp same)).1

/-- Painting keeps a message encodable. -/
theorem Encodable.paint (encodable : Encodable o d v) : Encodable o d (d.paint v) where
  typed := paint_typed encodable.typed
  count := (paint_arraysCountable encodable.typed).trans encodable.count
  bound lang := by
    have size := (paint_sameSize (o := o) lang d v encodable.typed).append
      (SameSize.refl (Layout.align Word.uint32.bytes))
    rw [encodedSize, messageLayout, size 0]
    exact encodable.bound lang

end Writers

/-- A message without wide characters in arrays of one shape is tilted by the sign of the other. -/
theorem tilted_of_wideFreeIn {isSequence : Bool} {d : MessageMembers} {v : Value}
    (free : d.wideFreeIn isSequence v = true) :
    d.every (MessageMember.tilted fun _ => if isSequence then -1 else 1) v = true := by
  refine d.every_mono (fun m v free => ?_) v free
  unfold MessageMember.wideFree at free
  unfold MessageMember.tilted
  revert free
  cases m.isWideArray with
  | false => exact fun _ => rfl
  | true =>
    cases m.isSequence <;> cases isSequence <;> intro free
    · have empty : v.elems = [] := by simpa using free
      rw [empty]
      rfl
    · exact List.all_eq_true.mpr fun e _ => by simp [wideWeight, weigh, digits]
    · simp
    · have empty : v.elems = [] := by simpa using free
      rw [empty]
      rfl

/-- **The C and the C++ writer, exactly.** They encode every message without wide characters in
arrays the same. They encode no other message the same that has wide characters in arrays of one
shape only. And they encode every message of a type the same if and only if no message of the type
has wide characters in arrays. -/
theorem encoders_agree_iff (o : ByteOrder) (d : MessageMembers) (supported : d.supported = true) :
    (∀ v, Encodable o d v → d.wideFree v = true → SameEncoding o d v) ∧
      (∀ v isSequence, Encodable o d v → d.wideFreeIn isSequence v = true →
        (SameEncoding o d v ↔ d.wideFree v = true)) ∧
      ((∀ v, Encodable o d v → SameEncoding o d v) ↔
        ∀ v, Encodable o d v → d.wideFree v = true) := by
  have enough : ∀ v, Encodable o d v → d.wideFree v = true → SameEncoding o d v := by
    intro v encodable free
    refine (sameEncoding_iff supported encodable).mpr ?_
    rw [messageLayout, messageLayout, layout_eq_of_wideFree d v encodable.typed free]
  refine ⟨enough, fun v isSequence encodable one => ⟨fun same => ?_, enough v encodable⟩,
    fun all v encodable => ?_, fun all v encodable => enough v encodable (all v encodable)⟩
  · exact wideFree_of_sameEncoding supported encodable (tilted_of_wideFreeIn one) same
  · rw [← paint_wideFree encodable.typed]
    exact wideFree_of_sameEncoding supported encodable.paint (paint_tilted encodable.typed)
      (all _ encodable.paint)

/-- A message type with one array of wide characters: a sequence, or a fixed array of two. -/
def wideCharacters (isSequence : Bool) : MessageMembers :=
  .mk "pkg__msg" "Wide" [.mk "data" .wchar true (if isSequence then 0 else 2) false .nullptr]

/-- Two wide characters. -/
def twoWideCharacters : Value := .message [.array [.prim .uint16 0x00e9, .prim .uint16 0x00e8]]

theorem encoders_agree_iff_sample :
    (∀ v, Encodable .little sampleMembers v → sampleMembers.wideFree v = true →
        SameEncoding .little sampleMembers v) ∧
      (∀ v isSequence, Encodable .little sampleMembers v →
        sampleMembers.wideFreeIn isSequence v = true →
        (SameEncoding .little sampleMembers v ↔ sampleMembers.wideFree v = true)) ∧
      ((∀ v, Encodable .little sampleMembers v → SameEncoding .little sampleMembers v) ↔
        ∀ v, Encodable .little sampleMembers v → sampleMembers.wideFree v = true) :=
  encoders_agree_iff .little sampleMembers (by decide)

/-- The fixed array is missing from the C message, and the sequence is twice as wide in it. -/
theorem encoders_differ :
    (wideCharacters false).supported = true ∧
      (wideCharacters false).typed twoWideCharacters = true ∧
      (getSerializedSize .c .little (wideCharacters false) (some twoWideCharacters)).ret = .ok 4 ∧
      (getSerializedSize .cxx .little (wideCharacters false) (some twoWideCharacters)).ret =
        .ok 8 ∧
      (serializeRosToCdr .cxx .little (wideCharacters false) twoWideCharacters
        (some (List.replicate 8 0)) 8).ddsMessage = some [0, 1, 0, 0, 0xe9, 0, 0xe8, 0] ∧
      (serializeRosToCdr .c .little (wideCharacters true) twoWideCharacters
        (some (List.replicate 16 0)) 16).ddsMessage =
          some [0, 1, 0, 0, 2, 0, 0, 0, 0xe9, 0, 0, 0, 0xe8, 0, 0, 0] ∧
      (serializeRosToCdr .cxx .little (wideCharacters true) twoWideCharacters
        (some (List.replicate 12 0)) 12).ddsMessage =
          some [0, 1, 0, 0, 2, 0, 0, 0, 0xe9, 0, 0xe8, 0] := by
  refine ⟨?_, ?_, ?_, ?_, ?_, ?_, ?_⟩ <;> rfl

end Cdr
