import RmwGurumdds.Cdr.Containers

/-!
# Reading what was written

The parser of a message type against its layout: on every memory that holds what a writer put
down, the parser answers the value the writer was given, up to one thing. When the two hosts have
different byte orders, an element of an array of 64-bit words arrives as its upper half
(`arrivedElement`), since `copy_arr` reverses the bytes of its lower half only; scalars of the same
width and arrays of any other arrive whole.

`decodes_message` states it for every description and value; `arrived_eq_iff` says for which values
nothing is lost.
-/

namespace Cdr

open Wire Exec

/-! ## Words -/

theorem digits_bswap16 (x : BitVec 16) :
    digits 2 (bswap16 x).toNat = (digits 2 x.toNat).reverse := by
  simp only [digits_eq_map, ofNat_div_eq_extract, List.range, List.range.loop, List.map,
    List.reverse_cons, List.reverse_nil, List.nil_append, List.cons_append, List.cons.injEq,
    and_true]
  refine ⟨?_, ?_⟩ <;> (ext i hi; interval_cases i <;> simp [bswap16])

theorem digits_bswap32 (x : BitVec 32) :
    digits 4 (bswap32 x).toNat = (digits 4 x.toNat).reverse := by
  simp only [digits_eq_map, ofNat_div_eq_extract, List.range, List.range.loop, List.map,
    List.reverse_cons, List.reverse_nil, List.nil_append, List.cons_append, List.cons.injEq,
    and_true]
  refine ⟨?_, ?_, ?_, ?_⟩ <;> (ext i hi; interval_cases i <;> simp [bswap32])

theorem digits_bswap64 (x : BitVec 64) :
    digits 8 (bswap64 x).toNat = (digits 8 x.toNat).reverse := by
  simp only [digits_eq_map, ofNat_div_eq_extract, List.range, List.range.loop, List.map,
    List.reverse_cons, List.reverse_nil, List.nil_append, List.cons_append, List.cons.injEq,
    and_true]
  refine ⟨?_, ?_, ?_, ?_, ?_, ?_, ?_, ?_⟩ <;> (ext i hi; interval_cases i <;> simp [bswap64])

/-- The swaps reverse the bytes of a word. -/
theorem reverses_bswap : ∀ w : Word, Reverses w (bswap w)
  | .uint8 => fun _ => rfl
  | .uint16 => digits_bswap16
  | .uint32 => digits_bswap32
  | .uint64 => digits_bswap64

/-- Reversing the bytes of the lower half of a word whose bytes are already reversed leaves its
upper half. -/
theorem bswapElement_bswap64 (x : BitVec 64) :
    (bswap32 (BitVec.setWidth 32 (bswap64 x))).setWidth 64 = x >>> 32 := by
  have low : digits 4 (BitVec.setWidth 32 (bswap64 x)).toNat =
      (digits 4 (x.toNat / 256 ^ 4)).reverse := by
    have whole := digits_bswap64 x
    rw [digits_add 4 4, digits_add 4 4 x.toNat, List.reverse_append] at whole
    rw [BitVec.toNat_setWidth]
    exact (digits_mod 4 _).trans (List.append_inj whole (by simp)).1
  have same : digits 4 (bswap32 (BitVec.setWidth 32 (bswap64 x))).toNat =
      digits 4 (x.toNat / 256 ^ 4) := by
    rw [digits_bswap32, low, List.reverse_reverse]
  have bound := x.isLt
  apply BitVec.eq_of_toNat_eq
  have value := congrArg ofDigits same
  rw [ofDigits_digits 4 _ (BitVec.isLt _), ofDigits_digits 4 _ (by omega)] at value
  rw [BitVec.toNat_setWidth, value, BitVec.toNat_ushiftRight, Nat.shiftRight_eq_div_pow]
  omega

/-- What an array element is on the other side: the upper half of a 64-bit word, if the byte orders
differ. -/
def arrivedElement (swap : Bool) : (w : Word) → BitVec w.bits → BitVec w.bits
  | .uint64, x => if swap then (x : BitVec 64) >>> 32 else x
  | .uint32, x => x
  | .uint16, x => x
  | .uint8, x => x

section Words

variable (o o' : ByteOrder) (w : Word) (x : BitVec w.bits)

/-- A word arrives whole. -/
theorem received_load :
    received (decide (o ≠ o')) w (o'.load w (o.store w x)) = x := by
  by_cases same : o = o'
  · rw [received, if_neg (by simp [same]), same, ByteOrder.load_store]
  · rw [received, if_pos (by simp [same]),
      ByteOrder.load_store_swapped (reverses_bswap w) same, (reverses_bswap w).involutive]

/-- An array element arrives as `arrivedElement` says. -/
theorem receivedElement_load :
    receivedElement (decide (o ≠ o')) w (o'.load w (o.store w x)) =
      arrivedElement (decide (o ≠ o')) w x := by
  by_cases same : o = o'
  · rw [receivedElement, if_neg (by simp [same]), same, ByteOrder.load_store]
    cases w <;> simp [arrivedElement]
  · have whole := received_load o o' w x
    rw [received, if_pos (by simp [same])] at whole
    rw [receivedElement, if_pos (by simp [same])]
    cases w with
    | uint64 =>
      rw [ByteOrder.load_store_swapped (reverses_bswap _) same, arrivedElement,
        if_pos (by simp [same])]
      exact bswapElement_bswap64 x
    | _ => exact whole

end Words

/-! ## Messages on arrival -/

/-- An element on arrival. -/
def arrivedLeaf (swap : Bool) (member : MessageMember) (e : Value) : Value :=
  match member.kind with
  | .primitive w => if member.isArray then .prim w (arrivedElement swap w (e.toWord w)) else e
  | _ => e

/-- A message on arrival. -/
def MessageMembers.arrived (swap : Bool) (d : MessageMembers) (v : Value) : Value :=
  d.map (arrivedLeaf swap) v

section Decoding

variable {o o' : ByteOrder} {slot : List Byte → Option (List Byte)}

/-- A length reads back as the length it was written for. -/
theorem decodes_count {n : Nat} (small : n < 2 ^ 32) :
    Decodes (BitVec.toNat <$> (received (decide (o ≠ o')) .uint32 <$> Parser.word o' .uint32))
      (Layout.word o .uint32 (BitVec.ofNat _ n)) n := by
  have word := (Decodes.word o o' .uint32 (BitVec.ofNat _ n)).map
    (received (decide (o ≠ o')) .uint32)
  rw [received_load] at word
  have nat := word.map BitVec.toNat
  rwa [BitVec.toNat_ofNat, Nat.mod_eq_of_lt (show n < 2 ^ Word.uint32.bits from small)] at nat

theorem decodes_word (w : Word) (x : BitVec w.bits) :
    Decodes (received (decide (o ≠ o')) w <$> Parser.word o' w) (Layout.word o w x) x := by
  have word := (Decodes.word o o' w x).map (received (decide (o ≠ o')) w)
  rwa [received_load] at word

theorem decodes_element (w : Word) (x : BitVec w.bits) :
    Decodes (receivedElement (decide (o ≠ o')) w <$> Parser.word o' w) (Layout.word o w x)
      (arrivedElement (decide (o ≠ o')) w x) := by
  have word := (Decodes.word o o' w x).map (receivedElement (decide (o ≠ o')) w)
  rwa [receivedElement_load] at word

/-- A string reads back, whichever way its terminator is treated. -/
theorem decodes_string (drops : ∀ s, slot (s ++ [0]) = some s) {s : List Byte}
    (small : s.length < 2 ^ 32 - 1) :
    Decodes (stringParser (decide (o ≠ o')) o' slot)
      (Layout.word o .uint32 (BitVec.ofNat _ (s.length + 1)) ++ Layout.bytes (s ++ [0])) s := by
  have toNat : (BitVec.ofNat Word.uint32.bits (s.length + 1)).toNat = s.length + 1 := by
    rw [BitVec.toNat_ofNat]
    exact Nat.mod_eq_of_lt (show s.length + 1 < 2 ^ 32 by omega)
  refine (decodes_word .uint32 _).bind ?_
  rw [toNat, if_neg (Nat.succ_ne_zero _)]
  have slice := Decodes.take (s ++ [0])
  rw [List.length_append, List.length_singleton] at slice
  refine slice.andThen ?_
  rw [drops]
  exact Decodes.pure s

theorem decodes_u16string {s : List Char16} (small : s.length < 2 ^ 32) :
    Decodes (u16stringParser (decide (o ≠ o')) o')
      (Layout.word o .uint32 (BitVec.ofNat _ s.length) ++
        Layout.concat (s.map (Layout.word o .uint16))) s := by
  have toNat : (BitVec.ofNat Word.uint32.bits s.length).toNat = s.length := by
    rw [BitVec.toNat_ofNat]
    exact Nat.mod_eq_of_lt (show s.length < 2 ^ 32 from small)
  refine (decodes_word .uint32 _).bind ?_
  rw [toNat]
  have words := Decodes.times (p := received (decide (o ≠ o')) .uint16 <$> Parser.word o' .uint16)
    (f := Layout.word o .uint16) (g := id) s fun x _ => decodes_word .uint16 x
  rwa [List.map_id] at words

/-- One element reads back. -/
theorem decodes_leaf {m : MessageMember} {inArray : Bool} (shape : m.isArray = inArray)
    (drops : ∀ s, slot (s ++ [0]) = some s) {nested : Parser Value} {nestedLayout : Value → Layout}
    {nestedArrived : Value → Value} {e : Value}
    (typed : m.kind.typed m.members.typed e = true) (count : e.countable = true)
    (h : m.kind = .message → Decodes nested (nestedLayout e) (nestedArrived e)) :
    Decodes (m.kind.parser (decide (o ≠ o')) o' slot inArray nested)
      (m.kind.layout o nestedLayout e)
      (m.mapElement (arrivedLeaf (decide (o ≠ o'))) nestedArrived e) := by
  rw [Value.countable, Bool.and_eq_true, decide_eq_true_eq, decide_eq_true_eq] at count
  unfold MessageMember.mapElement arrivedLeaf
  rw [shape]
  cases kind : m.kind with
  | message => exact h kind
  | unsupported => rw [kind] at typed; exact nomatch typed
  | boolean =>
    rw [kind] at typed
    cases e with
    | boolean b =>
      have decodes : Decodes (Kind.parser (decide (o ≠ o')) o' slot inArray nested .boolean) _
          (Value.boolean (boolByte b != 0)) := (decodes_word .uint8 (boolByte b)).map _
      cases b <;> exact decodes
    | _ => exact nomatch typed
  | primitive w =>
    rw [kind] at typed
    cases e with
    | prim w' x =>
      obtain rfl : w = w' := beq_iff_eq.mp typed
      simp only [Kind.parser, Kind.layout, Value.toWord_prim, reduceCtorEq, if_false]
      cases inArray with
      | false => exact (decodes_word w x).map (Value.prim w)
      | true => exact (decodes_element w x).map (Value.prim w)
    | _ => exact nomatch typed
  | wchar =>
    rw [kind] at typed
    cases e with
    | prim w' x =>
      obtain rfl : w' = .uint16 := beq_iff_eq.mp typed
      simp only [Kind.parser, Kind.layout, Value.toWord_prim]
      exact (decodes_word .uint16 x).map (Value.prim .uint16)
    | _ => exact nomatch typed
  | string =>
    rw [kind] at typed
    cases e with
    | string s => exact (decodes_string drops count.1).map Value.string
    | _ => exact nomatch typed
  | wstring =>
    rw [kind] at typed
    cases e with
    | wstring s => exact (decodes_u16string count.2).map Value.wstring
    | _ => exact nomatch typed

/-- The C++ writer has no format of its own for wide characters. -/
theorem arrayElementLayout_cxx (isSequence : Bool) (nested : Value → Layout) (kind : Kind) :
    arrayElementLayout .cxx o isSequence nested kind = kind.layout o nested := by
  cases kind <;> rfl

/-- An array reads back when its elements do. -/
theorem decodes_array {m : MessageMember} {element : Parser Value} {f : Value → Layout}
    {g : Value → Value} {es : List Value} (length : m.lengthTyped es.length = true)
    (small : es.length < 2 ^ 32) (h : ∀ e ∈ es, Decodes element (f e) (g e)) :
    Decodes (arrayParser (decide (o ≠ o')) o' m element) (arrayLayout o m.isSequence f es)
      (.array (es.map g)) := by
  have elements := (Decodes.times es h).map Value.array
  unfold arrayLayout
  by_cases isSequence : m.isSequence = true
  · rw [arrayParser_sequence isSequence, if_pos isSequence]
    exact (decodes_count small).bind elements
  · rw [arrayParser_fixed isSequence, if_neg isSequence, empty_append,
      ← MessageMember.lengthTyped_fixed (Bool.eq_false_iff.mpr isSequence) length]
    exact elements

/-- A member reads back. -/
theorem decodes_member (drops : ∀ s, slot (s ++ [0]) = some s) {m : MessageMember} {v : Value}
    (typed : m.typed v = true) (count : m.every MessageMember.countable v = true)
    (h : ∀ e, m.members.typed e = true → m.members.countable e = true →
      Decodes (m.members.parser (decide (o ≠ o')) o' slot) (m.members.layout .cxx o e)
        (m.members.arrived (decide (o ≠ o')) e)) :
    Decodes (m.parser (decide (o ≠ o')) o' slot) (m.layout .cxx o v)
      (m.map (arrivedLeaf (decide (o ≠ o'))) v) := by
  rw [MessageMember.every_eq, Bool.and_eq_true] at count
  rw [MessageMember.parser_eq, MessageMember.layout_eq, MessageMember.map_eq]
  by_cases isArray : m.isArray = true
  · obtain ⟨es, rfl, length, each⟩ := MessageMember.typed_array isArray typed
    obtain ⟨small, counts⟩ := MessageMember.countable_array isArray count.1
    rw [if_pos isArray, if_pos isArray, if_pos isArray, arrayElementLayout_cxx]
    refine decodes_array length small fun e he => ?_
    refine decodes_leaf isArray drops (each e he) (counts e he) fun kind => ?_
    have nested := count.2
    rw [if_pos kind, if_pos isArray, List.all_eq_true] at nested
    exact h e (m.typed_nested kind (each e he)) (nested e he)
  · rw [MessageMember.typed_scalar (Bool.eq_false_iff.mpr isArray)] at typed
    have here := count.1
    rw [MessageMember.countable, if_neg isArray] at here
    rw [if_neg isArray, if_neg isArray, if_neg isArray]
    refine decodes_leaf (Bool.eq_false_iff.mpr isArray) drops typed here fun kind => ?_
    have nested := count.2
    rw [if_pos kind, if_neg isArray] at nested
    exact h v (m.typed_nested kind typed) nested

/-- The fields of a message read back one after another. -/
theorem decodes_fields : ∀ (ms : List MessageMember) (vs : List Value),
    (∀ m ∈ ms, ∀ v, m.typed v = true → m.every MessageMember.countable v = true →
      Decodes (m.parser (decide (o ≠ o')) o' slot) (m.layout .cxx o v)
        (m.map (arrivedLeaf (decide (o ≠ o'))) v)) →
    fieldsTyped ms vs = true → fieldsEvery MessageMember.countable ms vs = true →
    Decodes (fieldsParser (decide (o ≠ o')) o' slot ms) (fieldsLayout .cxx o ms vs)
      (fieldsMap (arrivedLeaf (decide (o ≠ o'))) ms vs)
  | [], [], _, _, _ => Decodes.pure []
  | m :: ms, v :: vs, h, typed, count => by
    rw [fieldsTyped, Bool.and_eq_true] at typed
    rw [fieldsEvery, Bool.and_eq_true] at count
    have first := h m List.mem_cons_self v typed.1 count.1
    have rest := decodes_fields ms vs (fun m' hm => h m' (List.mem_cons_of_mem _ hm))
      typed.2 count.2
    exact first.bind (rest.andThen (Decodes.pure _))
  | [], _ :: _, _, typed, _ => nomatch typed
  | _ :: _, [], _, typed, _ => nomatch typed

/-- **The parser of a message type inverts its layout.** -/
theorem decodes_message (drops : ∀ s, slot (s ++ [0]) = some s) (d : MessageMembers) :
    ∀ v, d.typed v = true → d.countable v = true →
      Decodes (d.parser (decide (o ≠ o')) o' slot) (d.layout .cxx o v)
        (d.arrived (decide (o ≠ o')) v) := by
  induction d using MessageMembers.induct (Q := fun m => ∀ v, m.typed v = true →
      m.every MessageMember.countable v = true →
      Decodes (m.parser (decide (o ≠ o')) o' slot) (m.layout .cxx o v)
        (m.map (arrivedLeaf (decide (o ≠ o'))) v)) with
  | null => exact fun v typed _ => nomatch typed
  | mk ns name ms ih =>
    intro v typed count
    cases v with
    | message vs => exact (decodes_fields ms vs ih typed count).map Value.message
    | _ => exact nomatch typed
  | member m ih v typed count => exact decodes_member drops typed count ih

end Decoding

/-! ## What is lost between byte orders -/

/-- The elements of an array of 64-bit words are zero. -/
def MessageMember.wideArrayZero (member : MessageMember) (v : Value) : Bool :=
  !(member.isArray && decide (member.kind = .primitive .uint64)) ||
    v.elems.all fun e => e.toWord .uint64 == 0

/-- Every element of every array of 64-bit words in a message is zero. -/
def MessageMembers.wideArraysZero (d : MessageMembers) (v : Value) : Bool :=
  d.every MessageMember.wideArrayZero v

/-- Only zero is its own upper half. -/
theorem shiftRight_eq_self_iff (x : BitVec 64) : x >>> 32 = x ↔ x = 0 := by
  constructor
  · intro h
    have nat := congrArg BitVec.toNat h
    rw [BitVec.toNat_ushiftRight, Nat.shiftRight_eq_div_pow] at nat
    have zero : x.toNat = 0 := by omega
    exact BitVec.eq_of_toNat_eq zero
  · rintro rfl
    decide

/-- An array element arrives as it was sent unless it loses its lower half. -/
theorem arrivedElement_eq_iff (w : Word) (x : BitVec w.bits) :
    arrivedElement true w x = x ↔ (w = .uint64 → x = 0) := by
  cases w with
  | uint64 => exact (shiftRight_eq_self_iff x).trans ⟨fun h _ => h, fun h => h rfl⟩
  | _ => exact iff_of_true rfl nofun

/-- **A message arrives as it was sent, between hosts of different byte orders, exactly when every
element of every array of 64-bit words is zero.** -/
theorem arrived_eq_iff (d : MessageMembers) (v : Value) (typed : d.typed v = true) :
    d.arrived true v = v ↔ d.wideArraysZero v = true := by
  refine d.map_eq_self_iff (fun m v message => ?_) (fun m v isArray _ _ => ?_)
    (fun m es isArray _ typed => ?_) v typed
  · simp [MessageMember.wideArrayZero, message]
  · refine iff_of_true ?_ (by simp [MessageMember.wideArrayZero, isArray])
    cases kind : m.kind <;> simp [arrivedLeaf, kind, isArray]
  · obtain ⟨_, array, -, each⟩ := MessageMember.typed_array isArray typed
    obtain rfl := Value.array.inj array
    unfold MessageMember.wideArrayZero arrivedLeaf
    cases kind : m.kind with
    | primitive w =>
      rw [kind] at each
      have leaf : ∀ e ∈ es,
          (Value.prim w (arrivedElement true w (e.toWord w)) = e ↔
            (w = .uint64 → e.toWord w = 0)) := by
        intro e he
        have typedE := each e he
        cases e with
        | prim w' x =>
          obtain rfl : w = w' := beq_iff_eq.mp typedE
          rw [Value.toWord_prim, ← arrivedElement_eq_iff]
          exact ⟨fun h => eq_of_heq (Value.prim.inj h).2, congrArg (Value.prim w)⟩
        | _ => exact nomatch typedE
      simp only [isArray, if_true]
      rw [forall₂_congr leaf]
      by_cases wide : w = .uint64
      · subst wide
        simp [Value.elems, List.all_eq_true]
      · simp [wide]
    | _ => simp

/-- Between hosts of the same byte order, a message arrives as it was sent. -/
theorem arrived_same (d : MessageMembers) (v : Value) (typed : d.typed v = true) :
    d.arrived false v = v := by
  refine (d.map_eq_self_iff (P := fun _ _ => true) (fun _ _ _ => rfl) (fun m v isArray _ _ => ?_)
    (fun m es isArray _ typed => ?_) v typed).mpr (d.every_true v)
  · refine iff_of_true ?_ rfl
    cases kind : m.kind <;> simp [arrivedLeaf, kind, isArray]
  · refine iff_of_true (fun e he => ?_) rfl
    obtain ⟨_, array, -, each⟩ := MessageMember.typed_array isArray typed
    obtain rfl := Value.array.inj array
    have typedE := each e he
    unfold arrivedLeaf
    cases kind : m.kind with
    | primitive w =>
      rw [kind] at typedE
      cases e with
      | prim w' x =>
        obtain rfl : w = w' := beq_iff_eq.mp typedE
        cases w <;> simp [arrivedElement, isArray]
      | _ => exact nomatch typedE
    | _ => rfl

/-! ## Whole buffers -/

/-- The bytes behind the header hold what was written. -/
theorem holds_written (o : ByteOrder) {mem : List Byte} {cells : List Cell}
    (fits : cdrHeaderSize + cells.length ≤ mem.length) :
    Holds ((written o mem cells).drop cdrHeaderSize) 0 cells := by
  refine Holds.drop ?_
  rw [written, Nat.add_zero]
  exact holds_overlay (by rw [header_drop_length o (by omega)]; exact fits)

/-- A header names the byte order of the writer. -/
theorem swapped_written (o o' : ByteOrder) (mem : List Byte) (cells : List Cell) :
    swapped o' (written o mem cells) = decide (o ≠ o') := by
  have byte : (written o mem cells)[cdrHeaderEndianIdx]? = some (cdrSystemEndian o) := by
    rw [written, overlay_getElem?]
    rfl
  rw [swapped, byte]
  cases o <;> cases o' <;> decide

/-- Both languages drop the terminator of a string. -/
theorem slotOf_terminator (lang : LanguageKind) (s : List Byte) :
    slotOf lang (s ++ [0]) = some s := by
  cases lang with
  | c => rw [slotOf, uncheckedSlot, List.dropLast_concat]
  | cxx => rw [slotOf, terminatedSlot, if_pos List.getLast?_concat, List.dropLast_concat]

/-- **A reader whose parser inverts a layout answers what was written**, whatever follows it. -/
theorem tryDeserialize_written {α : Type} {o o' : ByteOrder} {mem : List Byte} {f g : Layout}
    {body : Des α} {p : Parser α} {ok : α → Prop} {a : α}
    (reads : ReadsWhere (decide (o ≠ o')) ok body p) (good : ok a) (decodes : Decodes p f a)
    (fits : cdrHeaderSize + ((f ++ g) 0).length ≤ mem.length) (bound : mem.length < 2 ^ 63) :
    (tryDeserialize o' (written o mem ((f ++ g) 0)) body).ret = .ok true ∧
      (tryDeserialize o' (written o mem ((f ++ g) 0)) body).target = some a := by
  have size := written_length o mem ((f ++ g) 0) (by omega)
  have holds := holds_written o fits
  rw [append_apply, holds_append, ← append_apply] at holds
  have parsed := decodes _ _ holds.1
  have answer : payload p (written o mem ((f ++ g) 0)) = some a := by
    rw [payload, if_neg (by omega), parsed]
    rfl
  rw [← swapped_written o o' mem ((f ++ g) 0)] at reads
  have spec := tryDeserialize_spec
    (reads (.start o' _) (start_valid o' (size.trans_lt bound)) rfl a _ parsed good)
  rw [answer] at spec
  exact spec

/-- **What a deserializer answers on the bytes of a serializer.** -/
theorem deserialize_written {t : Target} {d : MessageMembers} {v : Value} {o : ByteOrder}
    {mem : List Byte} (output : Value) (rt : t.Succeeds)
    (readable : d.readable = true) (typed : d.typed v = true) (count : d.countable v = true)
    (length : mem.length = encodedSize .cxx o d v) (bound : encodedSize .cxx o d v < 2 ^ 63) :
    let bytes := written o mem (messageLayout .cxx o d v 0)
    (deserializeCdrToRos t d output bytes).ret = .ok true ∧
      (deserializeCdrToRos t d output bytes).target =
        some (d.arrived (decide (o ≠ t.order)) v) := by
  cases d with
  | nullptr => exact nomatch typed
  | mk ns name ms =>
    have good : (MessageMembers.mk ns name ms).bounded
        ((MessageMembers.mk ns name ms).arrived (decide (o ≠ t.order)) v) = true := by
      rw [MessageMembers.arrived, bounded_map]
      exact bounded_of_typed _ v typed
    exact tryDeserialize_written (reads_deserialize rt readable output) good
      (decodes_message (slotOf_terminator t.lang) _ v typed count) length.symm.le
      (length.trans_lt bound)

/-- **Round trip.** A C++ message serialized into a buffer of the announced size, and deserialized
from those bytes on a host of the same byte order, is the message again, whatever the target
held. -/
theorem roundTrip (t : Target) (d : MessageMembers) (v output : Value) (rt : t.Succeeds)
    (readable : d.readable = true) (typed : d.typed v = true) (count : d.countable v = true)
    (bound : encodedSize .cxx t.order d v < 2 ^ 63) :
    ∃ size : Nat, (getSerializedSize .cxx t.order d (some v)).ret = .ok size ∧
      ∀ mem : List Byte, mem.length = size →
        let s := serializeRosToCdr .cxx t.order d v (some mem) size
        s.ret = .ok true ∧ ∃ bytes, s.ddsMessage = some bytes ∧
          let r := deserializeCdrToRos t d output bytes
          r.ret = .ok true ∧ r.target = some v := by
  have supported : d.supported = true :=
    d.all_mono (fun m h => (Bool.and_eq_true_iff.mp h).1) readable
  have arrays := MessageMembers.arraysCountable_of_countable count
  refine ⟨encodedSize .cxx t.order d v, ?_, fun mem length => ?_⟩
  · rw [getSerializedSize_spec typed (MessageMembers.writable_of_supported supported arrays) bound]
  have spec := serializeRosToCdr_spec mem typed
    (MessageMembers.writable_of_supported supported arrays) bound length.symm.le
    (by omega)
  rw [if_pos (Nat.le_refl _)] at spec
  have same : d.arrived (decide (t.order ≠ t.order)) v = v := by
    rw [decide_eq_false (fun h => h rfl)]
    exact arrived_same d v typed
  have back := deserialize_written output rt readable typed count length bound
  rw [same] at back
  rw [spec]
  exact ⟨rfl, _, rfl, back⟩

theorem roundTrip_sample :
    ∃ size : Nat,
      (getSerializedSize .cxx .little sampleMembers (some sampleMessage)).ret = .ok size ∧
      ∀ mem : List Byte, mem.length = size →
        let s := serializeRosToCdr .cxx .little sampleMembers sampleMessage (some mem) size
        s.ret = .ok true ∧ ∃ bytes, s.ddsMessage = some bytes ∧
          let r := deserializeCdrToRos (cxxTarget .little) sampleMembers (.message []) bytes
          r.ret = .ok true ∧ r.target = some sampleMessage :=
  roundTrip (cxxTarget .little) sampleMembers sampleMessage (.message [])
    (cxxTarget_succeeds .little) (by decide) (by decide) (by decide) (by decide +kernel)

/-- A message type with one fixed array of `n` bytes. -/
def byteArray (n : Nat) : MessageMembers :=
  .mk "pkg__msg" "Bytes" [.mk "data" .uint8 true n false .nullptr]

/-- The message of that type that holds one byte everywhere. -/
def filled (n : Nat) (x : BitVec Word.uint8.bits) : Value :=
  .message [.array (List.replicate n (.prim .uint8 x))]

theorem filled_typed {n : Nat} (pos : n ≠ 0) (x : BitVec Word.uint8.bits) :
    (byteArray n).typed (filled n x) = true := by
  simp [byteArray, filled, MessageMembers.typed, fieldsTyped, MessageMember.typed_eq,
    MessageMember.isArray, MessageMember.lengthTyped, MessageMember.isSequence,
    MessageMember.arraySize, MessageMember.isUpperBound, MessageMember.kind,
    MessageMember.typeId, TypeId.kind, Kind.typed, pos]

theorem filled_inj {n : Nat} (pos : n ≠ 0) {x y : BitVec Word.uint8.bits}
    (same : filled n x = filled n y) : x = y := by
  obtain ⟨n, rfl⟩ := Nat.exists_eq_succ_of_ne_zero pos
  have both : x = y ∧ (n = 0 ∨ x = y) := by simpa [filled, List.replicate_succ] using same
  exact both.1

/-- A fixed array whose size a `uint32_t` counts to zero is not written. -/
theorem serialize_byteArray {n : Nat} (zero : uint32T n = 0) (pos : n ≠ 0) (S : Bool)
    (o : ByteOrder) (x : BitVec Word.uint8.bits) :
    Ser.serialize S .cxx o (byteArray n) (filled n x) true = Ser.roundup 4 := by
  simp [Ser.serialize, byteArray, Ser.serializeMembers, Ser.serializeFields, Ser.serializeMember,
    MessageMember.kind, MessageMember.typeId, TypeId.kind, Ser.serializePrimitive,
    MessageMember.isArray, MessageMember.sizeFunction, MessageMember.isSequence,
    MessageMember.arraySize, MessageMember.isUpperBound, Ser.countSequence, Ser.copyArr, zero, pos]

/-- Nor is it read. -/
theorem deserialize_byteArray {n : Nat} (zero : uint32T n = 0) (pos : n ≠ 0) (o : ByteOrder)
    (x : BitVec Word.uint8.bits) :
    Des.deserialize (cxxTarget o) (byteArray n) (filled n x) = pure (filled n x) := by
  simp [byteArray, filled, Des.deserialize, Des.deserializeFields, Des.deserializeMember,
    MessageMember.kind, MessageMember.typeId, TypeId.kind, Des.readPrimitive,
    MessageMember.isArray, MessageMember.isSequence, MessageMember.arraySize,
    MessageMember.isUpperBound, Des.copyArr, MessageMember.overwrite, Value.fields, Value.elems,
    zero, pos]

/-- Such an array takes no bytes, and a target keeps its own. -/
theorem roundTrip_byteArray {n : Nat} (zero : uint32T n = 0) (pos : n ≠ 0) (o : ByteOrder)
    (x y : BitVec Word.uint8.bits) :
    (getSerializedSize .cxx o (byteArray n) (some (filled n x))).ret = .ok 4 ∧
      (serializeRosToCdr .cxx o (byteArray n) (filled n x) (some [0, 0, 0, 0]) 4).ret = .ok true ∧
      (serializeRosToCdr .cxx o (byteArray n) (filled n x) (some [0, 0, 0, 0]) 4).ddsMessage =
        some (header o) ∧
      (deserializeCdrToRos (cxxTarget o) (byteArray n) (filled n y) (header o)).target =
        some (filled n y) := by
  have sized : (getSerializedSize .cxx o (byteArray n) (some (filled n x))).ret = .ok 4 := by
    have run := serialize_byteArray zero pos false o x
    rw [byteArray] at run ⊢
    unfold getSerializedSize CdrSerializationBuffer.make
    dsimp only
    rw [run]
    rfl
  have serialized : serializeRosToCdr .cxx o (byteArray n) (filled n x) (some [0, 0, 0, 0]) 4 =
      trySerialize o (some [0, 0, 0, 0]) 4
        (Ser.serialize true .cxx o (byteArray n) (filled n x) true) := rfl
  have deserialized : deserializeCdrToRos (cxxTarget o) (byteArray n) (filled n y) (header o) =
      tryDeserialize o (header o) (Des.deserialize (cxxTarget o) (byteArray n) (filled n y)) := rfl
  rw [serialized, deserialized, serialize_byteArray zero pos, deserialize_byteArray zero pos]
  refine ⟨sized, ?_⟩
  cases o <;> exact ⟨rfl, rfl, rfl⟩

/-- The sequences and strings in a message have lengths the wire's 32-bit count holds. -/
def MessageMembers.sequencesCountable (d : MessageMembers) (v : Value) : Bool :=
  d.every (fun m v => m.isArray && !m.isSequence || m.countable v) v

/-- An array of 2^32 bytes is one: its round trip yields the target's bytes, not the message's. -/
theorem roundTrip_hugeArray :
    (byteArray (2 ^ 32)).supported = true ∧
      (byteArray (2 ^ 32)).typed (filled (2 ^ 32) 1) = true ∧
      (byteArray (2 ^ 32)).sequencesCountable (filled (2 ^ 32) 1) = true ∧
      ∃ bytes,
        (getSerializedSize .cxx .little (byteArray (2 ^ 32)) (some (filled (2 ^ 32) 1))).ret =
          .ok 4 ∧
        (serializeRosToCdr .cxx .little (byteArray (2 ^ 32)) (filled (2 ^ 32) 1)
          (some [0, 0, 0, 0]) 4).ddsMessage = some bytes ∧
        (deserializeCdrToRos (cxxTarget .little) (byteArray (2 ^ 32)) (filled (2 ^ 32) 0)
          bytes).target ≠ some (filled (2 ^ 32) 1) := by
  obtain ⟨size, -, bytes, target⟩ :=
    roundTrip_byteArray (n := 2 ^ 32) (by decide) (by decide) .little 1 0
  refine ⟨rfl, filled_typed (by decide) 1, rfl, _, size, bytes, ?_⟩
  rw [target]
  intro same
  exact absurd (filled_inj (by decide) (Option.some.inj same)) (by decide)

/-- **Cross-endian decoding, exactly.** Between hosts of different byte orders a C++ message always
decodes, and to the message sent if and only if every element of its arrays of 64-bit words is
zero. -/
theorem crossEndian_iff (t : Target) (o : ByteOrder) (d : MessageMembers) (v output : Value)
    (mem : List Byte) (rt : t.Succeeds) (other : o ≠ t.order)
    (readable : d.readable = true) (typed : d.typed v = true) (count : d.countable v = true)
    (bound : encodedSize .cxx o d v < 2 ^ 63) (length : mem.length = encodedSize .cxx o d v) :
    ∃ bytes, (serializeRosToCdr .cxx o d v (some mem) mem.length).ret = .ok true ∧
      (serializeRosToCdr .cxx o d v (some mem) mem.length).ddsMessage = some bytes ∧
      (deserializeCdrToRos t d output bytes).ret = .ok true ∧
      ((deserializeCdrToRos t d output bytes).target = some v ↔ d.wideArraysZero v = true) := by
  have supported : d.supported = true :=
    d.all_mono (fun m h => (Bool.and_eq_true_iff.mp h).1) readable
  have arrays := MessageMembers.arraysCountable_of_countable count
  have spec := serializeRosToCdr_spec mem typed
    (MessageMembers.writable_of_supported supported arrays) bound (Nat.le_refl _)
    (by omega)
  rw [if_pos length.symm.le] at spec
  have back := deserialize_written output rt readable typed count length bound
  rw [spec]
  refine ⟨_, rfl, rfl, back.1, ?_⟩
  rw [back.2, Option.some.injEq, decide_eq_true other, arrived_eq_iff d v typed]

/-- A message type with one sequence of 64-bit words. -/
def wideSequence : MessageMembers :=
  .mk "pkg__msg" "Wide" [.mk "data" .uint64 true 0 false .nullptr]

/-- The word 1, sent from a little-endian host to a big-endian one, arrives as 0. -/
theorem crossEndian_wideSequence :
    ∃ bytes, (serializeRosToCdr .cxx .little wideSequence
        (.message [.array [.prim .uint64 1]]) (some (List.replicate 20 0)) 20).ret = .ok true ∧
      (serializeRosToCdr .cxx .little wideSequence
        (.message [.array [.prim .uint64 1]]) (some (List.replicate 20 0)) 20).ddsMessage =
          some bytes ∧
      (deserializeCdrToRos (cxxTarget .big) wideSequence (.message [.array []]) bytes).target =
        some (.message [.array [.prim .uint64 0]]) ∧
      (deserializeCdrToRos (cxxTarget .big) wideSequence (.message [.array []]) bytes).target ≠
        some (.message [.array [.prim .uint64 1]]) := by
  have target : (deserializeCdrToRos (cxxTarget .big) wideSequence (.message [.array []])
      [0, 1, 0, 0, 1, 0, 0, 0, 0, 0, 0, 0, 1, 0, 0, 0, 0, 0, 0, 0]).target =
        some (.message [.array [.prim .uint64 0]]) := rfl
  refine ⟨[0, 1, 0, 0, 1, 0, 0, 0, 0, 0, 0, 0, 1, 0, 0, 0, 0, 0, 0, 0], rfl, rfl, target, ?_⟩
  rw [target]
  intro same
  have word := congrArg
    (Option.map fun v : Value => (v.fields.headD default).elems.map (Value.toWord .uint64)) same
  exact absurd word (by decide)

theorem crossEndian_iff_sample :
    ∃ bytes, (serializeRosToCdr .cxx .big sampleMembers sampleMessage
        (some (List.replicate 64 0)) (List.replicate 64 (0 : Byte)).length).ret = .ok true ∧
      (serializeRosToCdr .cxx .big sampleMembers sampleMessage (some (List.replicate 64 0))
        (List.replicate 64 (0 : Byte)).length).ddsMessage = some bytes ∧
      (deserializeCdrToRos (cxxTarget .little) sampleMembers (.message []) bytes).ret = .ok true ∧
      ((deserializeCdrToRos (cxxTarget .little) sampleMembers (.message []) bytes).target =
        some sampleMessage ↔ sampleMembers.wideArraysZero sampleMessage = true) :=
  crossEndian_iff (cxxTarget .little) .big sampleMembers sampleMessage (.message [])
    (List.replicate 64 0) (cxxTarget_succeeds .little) (by decide) (by decide) (by decide)
    (by decide) (by decide +kernel) (by decide +kernel)

end Cdr
