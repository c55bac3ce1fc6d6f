import RmwGurumdds.Cdr.TypeSupportCommon

/-!
# Messages with members the codec does not handle

A description may name types the codec has no case for, at any depth, and a message of it may hold
anything there (`MessageMembers.fits`). Which of these members the writer comes upon depends on the
message: one behind an empty sequence is never reached (`MessageMembers.handled`).

There is another way not to return. Some loops of the C branches count in 32 bits to a length of
64, and on a longer array they begin again for ever (`MessageMembers.ends`). The counting pass
checks no bounds, so nothing stops it there; the writing pass is only begun where the counting pass
has ended.

`Goes` is the judgement of both passes. A pass returns where all it comes upon is handled and all
its loops end, or else runs out of memory; where not, it ends in a way that nothing catches.
-/

namespace Cdr

open Wire Exec

/-! ## What a message holds -/

/-- The member is of a kind the codec handles. -/
def MessageMember.handled (m : MessageMember) : Bool := decide (m.kind ≠ .unsupported)

/-- A message with as many fields as its type. -/
def MessageMembers.wide : MessageMembers → Value → Bool
  | .mk _ _ ms, .message vs => vs.length == ms.length
  | _, _ => false

/-- An element of the member. One that is not handled may be anything. -/
def MessageMember.elementFits (m : MessageMember) (e : Value) : Bool :=
  !m.handled || m.kind.typed m.members.wide e

/-- What the member holds, but for what is in nested messages. -/
def MessageMember.fits (m : MessageMember) (v : Value) : Bool :=
  if m.isArray then
    match v with
    | .array es => m.lengthTyped es.length && es.all m.elementFits
    | _ => false
  else m.elementFits v

/-- The value is one of this message type, where members that are not handled hold anything. -/
def MessageMembers.fits (d : MessageMembers) (v : Value) : Bool :=
  d.wide v && d.every MessageMember.fits v

/-- A string that memory has room for. -/
def Value.stored (v : Value) : Bool :=
  decide (v.toStr.length < 2 ^ 60) && decide (v.toU16Str.length < 2 ^ 60)

/-- Memory has room for what the member holds: addresses have fewer than 60 bits. -/
def MessageMember.stored (_ : MessageMember) (v : Value) : Bool :=
  v.stored && decide (v.elems.length < 2 ^ 60) && v.elems.all Value.stored

/-- Memory has room for the message. -/
def MessageMembers.stored (d : MessageMembers) (v : Value) : Bool := d.every MessageMember.stored v

/-! ## What the writer comes upon -/

/-- What the writer goes through of a member: of an array of messages, as many elements as are left
of its length in 32 bits. -/
def MessageMember.sent (m : MessageMember) (v : Value) : List Value :=
  if m.isArray then v.elems.take (uint32T v.elems.length) else [v]

mutual

/-- `P` holds of every member the writer comes upon in a message. -/
def MessageMembers.sends (P : MessageMember → Value → Bool) : MessageMembers → Value → Bool
  | .nullptr, _ => true
  | .mk _ _ ms, v => fieldsSend P ms v.fields

def fieldsSend (P : MessageMember → Value → Bool) : List MessageMember → List Value → Bool
  | [], _ => true
  | m :: ms, vs => m.sends P (vs.headD default) && fieldsSend P ms vs.tail

def MessageMember.sends (P : MessageMember → Value → Bool) : MessageMember → Value → Bool
  | .mk name typeId isArray arraySize isUpperBound members, v =>
    P (.mk name typeId isArray arraySize isUpperBound members) v &&
      if typeId.kind = .message then
        ((MessageMember.mk name typeId isArray arraySize isUpperBound members).sent v).all
          (members.sends P)
      else true

end

/-- Every member the writer comes upon is handled. -/
def MessageMembers.handled (d : MessageMembers) (v : Value) : Bool :=
  d.sends (fun m _ => m.handled) v

/-- The loop over the member's elements ends. The C branches of these kinds take a `uint32_t` up to
the `size_t` that a length is, or to the size of a fixed array. -/
def MessageMember.ends (lang : LanguageKind) (m : MessageMember) (v : Value) : Bool :=
  match lang, m.kind with
  | .c, .boolean | .c, .string | .c, .wstring => m.arrayCountable v
  | .c, .wchar => !m.isSequence || m.arrayCountable v
  | _, _ => true

/-- Every loop the writer comes upon ends. -/
def MessageMembers.ends (lang : LanguageKind) (d : MessageMembers) (v : Value) : Bool :=
  d.sends (MessageMember.ends lang) v

section Sends

variable {P P' : MessageMember → Value → Bool}

theorem MessageMember.sends_eq (m : MessageMember) (v : Value) :
    m.sends P v =
      (P m v && if m.kind = .message then (m.sent v).all (m.members.sends P) else true) := by
  cases m
  rfl

/-- What is sent is among the elements. -/
theorem MessageMember.every_sent {m : MessageMember} {v e : Value} (message : m.kind = .message)
    (every : m.every P v = true) (mem : e ∈ m.sent v) : m.members.every P e = true := by
  unfold MessageMember.sent at mem
  rw [MessageMember.every_eq, Bool.and_eq_true, if_pos message] at every
  have nested := every.2
  by_cases isArray : m.isArray = true
  · rw [if_pos isArray] at mem
    rw [if_pos isArray, List.all_eq_true] at nested
    exact nested e (List.mem_of_mem_take mem)
  · rw [if_neg isArray] at mem nested
    rwa [List.mem_singleton.mp mem]

theorem fieldsSend_and_iff : ∀ (ms : List MessageMember) (vs : List Value),
    (∀ m ∈ ms, ∀ v, m.sends (fun m v => P m v && P' m v) v = true ↔
      m.sends P v = true ∧ m.sends P' v = true) →
    (fieldsSend (fun m v => P m v && P' m v) ms vs = true ↔
      fieldsSend P ms vs = true ∧ fieldsSend P' ms vs = true)
  | [], _, _ => iff_of_true rfl ⟨rfl, rfl⟩
  | m :: ms, vs, h => by
    simp only [fieldsSend, Bool.and_eq_true]
    rw [h m List.mem_cons_self, fieldsSend_and_iff ms vs.tail fun m' hm => h m' (.tail _ hm)]
    exact and_and_and_comm

/-- Two properties of every member the writer comes upon. -/
theorem MessageMembers.sends_and_iff (d : MessageMembers) : ∀ v,
    d.sends (fun m v => P m v && P' m v) v = true ↔
      d.sends P v = true ∧ d.sends P' v = true := by
  induction d using MessageMembers.induct (Q := fun m => ∀ v,
      m.sends (fun m v => P m v && P' m v) v = true ↔
        m.sends P v = true ∧ m.sends P' v = true) with
  | null => exact fun _ => iff_of_true rfl ⟨rfl, rfl⟩
  | mk ns name ms ih => exact fun v => fieldsSend_and_iff ms v.fields ih
  | member m ih v =>
    simp only [MessageMember.sends_eq, Bool.and_eq_true]
    by_cases message : m.kind = .message
    · simp only [if_pos message, List.all_eq_true, ih, imp_and, forall_and]
      exact and_and_and_comm
    · simp only [if_neg message, and_true]

end Sends

section Shape

variable {m : MessageMember} {v : Value}

theorem MessageMember.fits_array (isArray : m.isArray = true) (fits : m.fits v = true) :
    ∃ es, v = .array es ∧ m.lengthTyped es.length = true := by
  unfold MessageMember.fits at fits
  rw [if_pos isArray] at fits
  cases v with
  | array es =>
    rw [Bool.and_eq_true] at fits
    exact ⟨es, rfl, fits.1⟩
  | _ => exact absurd fits Bool.false_ne_true

/-- What is known of the lengths a writer meets in an array. -/
structure MessageMember.Bounded (m : MessageMember) (v : Value) : Prop where
  size : m.sizeFunction v = v.elems.length
  arraySize : m.isSequence = false → m.arraySize = v.elems.length
  elems : v.elems.length < 2 ^ 60
  stored : ∀ e ∈ v.elems, e.stored = true

theorem MessageMember.bounded_of_fits (isArray : m.isArray = true) (fits : m.fits v = true)
    (stored : m.stored v = true) : m.Bounded v := by
  obtain ⟨es, rfl, length⟩ := MessageMember.fits_array isArray fits
  rw [MessageMember.stored, Bool.and_eq_true, Bool.and_eq_true, List.all_eq_true] at stored
  exact ⟨sizeFunction_array length,
    fun fixed => (MessageMember.lengthTyped_fixed fixed length).symm,
    of_decide_eq_true stored.1.2, stored.2⟩

/-- An element a writer reads is stored, also one that is not there. -/
theorem MessageMember.Bounded.getConst (bounded : m.Bounded v) (i : Nat) :
    (getConst v i).stored = true := by
  unfold Cdr.getConst
  cases there : v.elems[i]? with
  | none => rfl
  | some e => exact bounded.stored e (List.mem_of_getElem? there)

theorem MessageMember.arrayCountable_eq (isArray : m.isArray = true) :
    m.arrayCountable v = decide (v.elems.length < 2 ^ 32) := by
  rw [MessageMember.arrayCountable, isArray]
  rfl

theorem MessageMember.arrayCountable_scalar (scalar : ¬ m.isArray = true) :
    m.arrayCountable v = true := by
  rw [MessageMember.arrayCountable, Bool.eq_false_iff.mpr scalar]
  rfl

end Shape

/-! ## How a pass goes -/

/-- A `std::runtime_error`. -/
def Exn.isRuntime : Exn → Bool
  | .runtimeError _ => true
  | _ => false

/-- A buffer that a pass may be in: the writing pass stands inside memory that is there. -/
structure CdrSerializationBuffer.Ready (S : Bool) (b : CdrSerializationBuffer) : Prop where
  unbounded : S = false → b.size = 2 ^ 64 - 1
  inside : S = true → b.offset ≤ b.size
  bounded : S = true → b.size < 2 ^ 63
  backed : S = true → cdrHeaderSize + b.size ≤ b.mem.length

/-- How a pass may raise: a `std::runtime_error` where bounds are checked, and anything else where
not `p`. -/
def Exn.Ends (S p : Bool) (e : Exn) : Prop := if e.isRuntime then S = true else p = false

/-- From a buffer that is ready, `m` leaves one where it returns, and returns only if `p`. -/
structure Goes {α : Type} (S : Bool) (m : Ser α) (p : Bool) : Prop where
  ok : ∀ b a b', b.Ready S → m b = .ok a b' → b'.Ready S ∧ p = true
  error : ∀ b e b', b.Ready S → m b = .error e b' → e.Ends S p

section Rules

variable {α β : Type} {S : Bool} {m : Ser α} {p q : Bool}

/-- Fewer passes are to return. -/
theorem Exn.Ends.mono {e : Exn} (ends : e.Ends S p) (fewer : p = false → q = false) :
    e.Ends S q := by
  unfold Exn.Ends at ends ⊢
  by_cases runtime : e.isRuntime = true
  · rwa [if_pos runtime] at ends ⊢
  · rw [if_neg runtime] at ends ⊢
    exact fewer ends

theorem Goes.pure (a : α) : Goes S (Pure.pure a) true where
  ok b _ _ ready run := by
    cases run
    exact ⟨ready, rfl⟩
  error b _ _ _ run := by cases run

theorem Goes.and_true (h : Goes S m p) : Goes S m (p && true) := by rwa [Bool.and_true]

/-- An exception that nothing catches. -/
theorem Goes.throw {e : Exn} (uncaught : e.isRuntime = false) :
    Goes S (throw e : Ser α) false where
  ok b _ _ _ run := by cases run
  error b _ _ _ run := by
    cases run
    unfold Exn.Ends
    rw [uncaught, if_neg Bool.false_ne_true]

/-- What follows goes on where what came before returned. -/
theorem Goes.bind {k : α → Ser β} (h : Goes S m p) (hk : ∀ a, Goes S (k a) q) :
    Goes S (m >>= k) (p && q) where
  ok b x b' ready run := by
    obtain ⟨a, mid, first, rest⟩ := of_bind_ok run
    obtain ⟨ready', here⟩ := h.ok b a mid ready first
    obtain ⟨ready'', after⟩ := (hk a).ok mid x b' ready' rest
    exact ⟨ready'', Bool.and_eq_true_iff.mpr ⟨here, after⟩⟩
  error b e b' ready run := by
    cases first : m b with
    | error e' mid =>
      cases (bind_error first).symm.trans run
      exact (h.error b e b' ready first).mono fun not => by rw [not, Bool.false_and]
    | ok a mid =>
      rw [bind_ok first] at run
      have ready' := (h.ok b a mid ready first).1
      exact ((hk a).error mid e b' ready' run).mono fun not => by rw [not, Bool.and_false]

/-- A loop over a list goes as its rounds go. -/
theorem Goes.loop {body : Nat → Ser α} {ps : Value → Bool} : ∀ (es : List Value) (i : Nat),
    (∀ j (inside : j < es.length), Goes S (body (i + j)) (ps es[j])) →
      Goes S (loop body es.length i) (es.all ps)
  | [], _, _ => .pure []
  | e :: es, i, h => by
    have rest := Goes.loop es (i + 1) fun j inside => by
      have next := h (j + 1) (Nat.succ_lt_succ inside)
      rwa [← Nat.add_assoc, Nat.add_right_comm, List.getElem_cons_succ] at next
    rw [List.all_cons, ← Bool.and_true (es.all ps)]
    exact (h 0 (Nat.succ_pos _)).bind fun _ => rest.bind fun _ => .pure _

/-- A loop whose rounds all return. -/
theorem Goes.loop_all {body : Nat → Ser α} (h : ∀ i, Goes S (body i) true) :
    ∀ rounds i, Goes S (Exec.loop body rounds i) true
  | 0, _ => .pure []
  | rounds + 1, i => (h i).bind fun _ => (Goes.loop_all h rounds (i + 1)).bind fun _ => .pure _

/-- A loop that begins again for ever does not return, whatever fuel it is given. -/
theorem Goes.spin {modulus : Nat} {body : Nat → Ser α} (h : ∀ i, Goes S (body i) true) :
    ∀ fuel i, Goes S (Exec.spin .diverges modulus body fuel i : Ser β) false
  | 0, _ => .throw rfl
  | fuel + 1, i => (h i).bind fun _ => Goes.spin h fuel _

theorem Goes.get : Goes S (get : Ser CdrSerializationBuffer) true where
  ok b _ _ ready run := by
    cases run
    exact ⟨ready, rfl⟩
  error b _ _ _ run := by cases run

theorem Goes.for32 {bound : Nat} {body : Nat → Ser Unit} (small : bound < 2 ^ 32)
    (h : Goes S (Exec.loop body bound 0) p) : Goes S (Ser.for32 bound body) p := by
  have whole : Goes S _ (true && (p && true)) := Goes.get.bind fun b => by
    have rounds : Goes S (Exec.counted .diverges (2 ^ 32) (b.size + 1) bound body) p := by
      rwa [counted_eq_loop small]
    exact rounds.bind fun _ => .pure ()
  rwa [Bool.true_and, Bool.and_true] at whole

/-- A counted loop returns if its counter reaches the bound. -/
theorem Goes.for32_all {bound : Nat} {body : Nat → Ser Unit} (h : ∀ i, Goes S (body i) true) :
    Goes S (Ser.for32 bound body) (decide (bound < 2 ^ 32)) := by
  by_cases small : bound < 2 ^ 32
  · rw [decide_eq_true small]
    exact .for32 small (.loop_all h bound 0)
  · rw [decide_eq_false small]
    refine Goes.get.bind fun b => ?_
    have spun : Goes S (Exec.counted .diverges (2 ^ 32) (b.size + 1) bound body) false := by
      unfold Exec.counted
      rw [if_neg small]
      exact .spin h _ 0
    exact spun.bind fun _ => .pure ()

end Rules

/-! ### Operations -/

section Operations

variable {S : Bool} {o : ByteOrder}

/-- An offset that is not past the size leaves a buffer ready. -/
theorem CdrSerializationBuffer.Ready.advance {b : CdrSerializationBuffer} (ready : b.Ready S)
    {cnt : Nat} {mem : List Byte} (length : mem.length = b.mem.length)
    (within : S = true → sizeT (b.offset + cnt) ≤ b.size) :
    CdrSerializationBuffer.Ready S
      { toCdrBuffer := b.toCdrBuffer.advance cnt, mem } where
  unbounded := ready.unbounded
  inside := within
  bounded := ready.bounded
  backed writing := length ▸ ready.backed writing

theorem goes_advance {b : CdrSerializationBuffer} {cnt : Nat} {a : Unit}
    {b' : CdrSerializationBuffer} (ready : b.Ready S)
    (within : S = true → sizeT (b.offset + cnt) ≤ b.size) (run : Ser.advance cnt b = .ok a b') :
    b'.Ready S := by
  cases run
  exact ready.advance rfl within

/-- Room is left to be aligned, or there is none. -/
theorem goes_roundup (align : Nat) : Goes S (Ser.roundup align) true where
  ok b a b' ready run := by
    rw [Ser.roundup, bind_ok (get_run b)] at run
    split at run
    · cases run
    · rename_i within
      refine ⟨goes_advance ready (fun _ => ?_) run, rfl⟩
      exact Nat.le_of_not_lt fun past => within (decide_eq_true past)
  error b e b' ready run := by
    rw [Ser.roundup, bind_ok (get_run b)] at run
    split at run
    · rename_i past
      cases run
      show S = true
      cases S with
      | true => rfl
      | false =>
        -- No sum of the counting pass is past its size, wrapped as it may be.
        unfold CdrBuffer.exceeds sizeT at past
        rw [ready.unbounded rfl, decide_eq_true_eq] at past
        omega
    · cases run

/-- Bytes are stored, or there is no room for them. -/
theorem goes_put {cnt : Nat} {bs : List Byte} (length : bs.length = cnt) (small : cnt < 2 ^ 63) :
    Goes S (Ser.put S cnt bs) true := by
  cases S with
  | false => exact ⟨fun b a b' ready run => ⟨goes_advance ready nofun run, rfl⟩, nofun⟩
  | true =>
    have run (b : CdrSerializationBuffer) (ready : b.Ready true) : Ser.put true cnt bs b =
        if b.exceeds cnt then .error outOfBuffer b
        else .ok () { toCdrBuffer := b.toCdrBuffer.advance cnt
                      mem := overlay b.mem (cdrHeaderSize + b.offset) (bs.map some) } := by
      have inside := ready.inside rfl
      have bounded := ready.bounded rfl
      have backed := ready.backed rfl
      by_cases past : b.exceeds cnt = true
      · rw [if_pos past]
        refine bind_error ?_
        rw [Ser.check, bind_ok (get_run b), if_pos past]
        rfl
      · rw [if_neg past]
        have within : b.offset + cnt ≤ b.size := by
          rw [CdrBuffer.exceeds_eq (by omega), decide_eq_true_eq] at past
          exact Nat.le_of_not_lt past
        have passes : Ser.check cnt b = .ok () b := by
          rw [Ser.check, bind_ok (get_run b), if_neg past]
          rfl
        have stores : Ser.store bs b = .ok () { b with
            mem := overlay b.mem (cdrHeaderSize + b.offset) (bs.map some) } := by
          rw [Ser.store, bind_ok (get_run b), poke_eq (by omega)]
          rfl
        rw [Ser.put, bind_ok passes, bind_ok stores]
        rfl
    refine ⟨fun b a b' ready done => ?_, fun b e b' ready done => ?_⟩
    · rw [run b ready] at done
      split at done
      · cases done
      · rename_i past
        cases done
        refine ⟨ready.advance (overlay_length _ _ _) fun _ => ?_, rfl⟩
        exact Nat.le_of_not_lt fun past' => past (decide_eq_true past')
    · rw [run b ready] at done
      split at done
      · cases done
        rfl
      · cases done

theorem goes_word (w : Word) (x : BitVec w.bits) : Goes S (Ser.word S o w x) true :=
  (goes_roundup _).bind fun _ =>
    goes_put (o.store_length w x) (w.bytes_le.trans_lt (by decide))

theorem goes_count (n : Nat) : Goes S (Ser.count S o n) true := goes_word _ _

theorem goes_string {s : List Byte} (stored : s.length < 2 ^ 60) :
    Goes S (Ser.string S o s) true := by
  refine (goes_count _).bind fun _ => (goes_roundup _).bind fun _ => goes_put ?_ (by omega)
  exact List.length_append

theorem goes_u16string {s : List Char16} (stored : s.length < 2 ^ 60) :
    Goes S (Ser.u16string S o s) true := by
  have length := o.flatMap_store_length .uint16 s
  have wide : s.length * Word.uint16.bytes < 2 ^ 61 := by
    show s.length * 2 < 2 ^ 61
    omega
  refine (goes_count _).bind fun _ => (goes_roundup _).bind fun _ => ?_
  rw [sizeT_of_lt (by omega)]
  exact goes_put length (by omega)

/-- The first words of an array are copied. -/
theorem goes_copyArr {w : Word} {arr : List (BitVec w.bits)} {cnt : Nat} (there : cnt ≤ arr.length)
    (stored : arr.length < 2 ^ 60) : Goes S (Ser.copyArr S o w arr cnt) true := by
  have length := o.flatMap_store_length w (arr.take cnt)
  rw [List.length_take_of_le there] at length
  have wide : cnt * w.bytes ≤ cnt * 8 := Nat.mul_le_mul_left cnt w.bytes_le
  unfold Ser.copyArr
  split
  · exact .pure ()
  · rw [sizeT_of_lt (by omega)]
    exact (goes_roundup _).bind fun _ => goes_put length (by omega)

theorem goes_countSequence (m : MessageMember) (n : Nat) :
    Goes S (Ser.countSequence S o m n) true := by
  unfold Ser.countSequence
  split
  · exact goes_count n
  · exact .pure ()

end Operations

/-! ### One writer for each kind of member -/

section Members

variable {S : Bool} {lang : LanguageKind} {o : ByteOrder} {m : MessageMember} {v : Value}

/-- The array branch of the C writers. -/
theorem goes_array_c (bounded : m.Bounded v) {body : Nat → Ser Unit}
    (h : ∀ i, Goes S (body i) true) :
    Goes S (if m.isSequence then do
        Ser.count S o v.elems.length
        Ser.for32 v.elems.length body
      else Ser.for32 m.arraySize body) (decide (v.elems.length < 2 ^ 32)) := by
  split
  · exact (goes_count _).bind fun _ => .for32_all h
  · rename_i fixed
    rw [← bounded.arraySize (Bool.eq_false_of_not_eq_true fixed)]
    exact .for32_all h

/-- The array branch of the C++ writers. -/
theorem goes_array_cxx {body : Nat → Ser Unit} (h : ∀ i, Goes S (body i) true) :
    Goes S (do
      let size := uint32T (m.sizeFunction v)
      Ser.countSequence S o m size
      Ser.for32 size body) true :=
  (goes_countSequence m _).bind fun _ => .for32 (uint32T_lt _) (.loop_all h _ 0)

/-- What the C branches of some writers come to, and the C++ branches of all. -/
def LanguageKind.countable (lang : LanguageKind) (m : MessageMember) (v : Value) : Bool :=
  match lang with
  | .c => m.arrayCountable v
  | .cxx => true

theorem goes_serializeElements {write : Value → Ser Unit}
    (bounded : m.isArray = true → m.Bounded v) (stored : v.stored = true)
    (h : ∀ e : Value, e.stored = true → Goes S (write e) true) :
    Goes S (Ser.serializeElements S lang o write m v) (lang.countable m v) := by
  unfold Ser.serializeElements LanguageKind.countable
  cases lang with
  | c =>
    dsimp only
    by_cases isArray : m.isArray = true
    · rw [if_pos isArray, MessageMember.arrayCountable_eq isArray]
      exact goes_array_c (bounded isArray) fun i => h _ ((bounded isArray).getConst i)
    · rw [if_neg isArray, MessageMember.arrayCountable_scalar isArray]
      exact h v stored
  | cxx =>
    dsimp only
    split
    · exact goes_array_cxx fun i => h _ ((bounded ‹_›).getConst i)
    · exact h v stored

theorem goes_serializeBoolean (bounded : m.isArray = true → m.Bounded v) :
    Goes S (Ser.serializeBoolean S lang o m v) (lang.countable m v) := by
  unfold Ser.serializeBoolean LanguageKind.countable
  by_cases isArray : m.isArray = true
  · rw [if_pos isArray]
    cases lang with
    | c =>
      dsimp only
      rw [MessageMember.arrayCountable_eq isArray]
      exact goes_array_c (bounded isArray) fun _ => goes_word _ _
    | cxx =>
      dsimp only
      split
      · exact (goes_count _).bind fun _ =>
          (Goes.loop_all (fun _ => goes_word _ _) _ _).bind fun _ => .pure ()
      · exact .for32 (uint32T_lt _) (.loop_all (fun _ => goes_word _ _) _ 0)
  · rw [if_neg isArray]
    cases lang with
    | c =>
      dsimp only
      rw [MessageMember.arrayCountable_scalar isArray]
      exact goes_word _ _
    | cxx => exact goes_word _ _

theorem goes_serializeWchar :
    Goes S (Ser.serializeWchar S lang o m v)
      (match lang with
        | .c => !m.isSequence || m.arrayCountable v
        | .cxx => true) := by
  unfold Ser.serializeWchar
  by_cases isArray : m.isArray = true
  · rw [if_pos isArray]
    cases lang with
    | c =>
      dsimp only
      rw [MessageMember.arrayCountable_eq isArray]
      by_cases isSequence : m.isSequence = true
      · rw [if_pos isSequence, isSequence]
        exact (goes_count _).bind fun _ => .for32_all fun _ => goes_word _ _
      · rw [if_neg isSequence, Bool.eq_false_iff.mpr isSequence]
        exact .pure ()
    | cxx => exact goes_array_cxx fun _ => goes_word _ _
  · rw [if_neg isArray]
    cases lang with
    | c =>
      dsimp only
      rw [MessageMember.arrayCountable_scalar isArray, Bool.or_true]
      exact goes_word _ _
    | cxx => exact goes_word _ _

theorem goes_serializePrimitive (w : Word) (bounded : m.isArray = true → m.Bounded v) :
    Goes S (Ser.serializePrimitive S lang o w m v) true := by
  unfold Ser.serializePrimitive
  split
  · rename_i isArray
    have size := (bounded isArray).size
    have length : (v.elems.map (Value.toWord w)).length = v.elems.length := List.length_map _
    have stored : (v.elems.map (Value.toWord w)).length < 2 ^ 60 :=
      length ▸ (bounded isArray).elems
    cases lang with
    | c =>
      dsimp only
      split
      · exact (goes_count _).bind fun _ => goes_copyArr length.ge stored
      · rename_i fixed
        rw [(bounded isArray).arraySize (Bool.eq_false_of_not_eq_true fixed)]
        exact goes_copyArr length.ge stored
    | cxx =>
      refine (goes_countSequence m _).bind fun _ => goes_copyArr ?_ stored
      rw [size, length]
      exact Nat.mod_le _ _
  · exact goes_word _ _

/-- Messages are gone through as far as each of them is. -/
theorem goes_serializeStructArr {nested : Value → Ser Unit} {p : Value → Bool}
    (fits : m.fits v = true) (h : ∀ e ∈ m.sent v, Goes S (nested e) (p e)) :
    Goes S (Ser.serializeStructArr S o nested m v) ((m.sent v).all p) := by
  unfold Ser.serializeStructArr
  by_cases isArray : m.isArray = true
  · obtain ⟨es, rfl, length⟩ := MessageMember.fits_array isArray fits
    have sent : m.sent (.array es) = es.take (uint32T es.length) := if_pos isArray
    have few : (es.take (uint32T es.length)).length = uint32T es.length :=
      List.length_take_of_le (Nat.mod_le _ _)
    rw [sent] at h ⊢
    rw [if_pos isArray, sizeFunction_array length]
    refine (goes_countSequence m _).bind fun _ => .for32 (uint32T_lt _) ?_
    have rounds : Goes S (loop (fun i => nested (getConst (.array es) i))
        (es.take (uint32T es.length)).length 0) ((es.take (uint32T es.length)).all p) := by
      refine Goes.loop _ 0 fun j inside => ?_
      have there : j < es.length := inside.trans_le (List.length_take_le' _ _)
      have same : (es.take (uint32T es.length))[j] = es[j] := List.getElem_take
      rw [getConst_array there, ← same]
      exact h _ (List.getElem_mem inside)
    rwa [few] at rounds
  · have sent : m.sent v = [v] := if_neg isArray
    rw [sent] at h ⊢
    rw [if_neg isArray, List.all_cons, List.all_nil, Bool.and_true]
    exact h v (List.mem_singleton_self v)

/-- The writer comes upon a member that is handled, and its loop ends. -/
def MessageMember.passes (lang : LanguageKind) (m : MessageMember) (v : Value) : Bool :=
  m.handled && m.ends lang v

/-- **A member is gone through where it is handled and its loop ends, and so is what is nested in
it.** -/
theorem goes_serializeMember {nested : Value → Ser Unit} (fits : m.fits v = true)
    (stored : m.stored v = true)
    (h : m.kind = .message → ∀ e ∈ m.sent v,
      Goes S (nested e) (m.members.sends (MessageMember.passes lang) e)) :
    Goes S (Ser.serializeMember S lang o nested m v) (m.sends (MessageMember.passes lang) v) := by
  have bounded := fun isArray => MessageMember.bounded_of_fits isArray fits stored
  have string : v.stored = true := by
    rw [MessageMember.stored, Bool.and_eq_true, Bool.and_eq_true] at stored
    exact stored.1.1
  rw [MessageMember.sends_eq]
  unfold MessageMember.passes MessageMember.handled MessageMember.ends Ser.serializeMember
  cases kind : m.kind with
  | boolean => cases lang <;> exact (goes_serializeBoolean bounded).and_true
  | primitive w => cases lang <;> exact (goes_serializePrimitive w bounded).and_true
  | wchar => cases lang <;> exact goes_serializeWchar.and_true
  | string =>
    have each (e : Value) (stored : e.stored = true) : Goes S (Ser.string S o e.toStr) true :=
      goes_string (of_decide_eq_true (Bool.and_eq_true_iff.mp stored).1)
    cases lang <;> exact (goes_serializeElements bounded string each).and_true
  | wstring =>
    have each (e : Value) (stored : e.stored = true) : Goes S (Ser.u16string S o e.toU16Str) true :=
      goes_u16string (of_decide_eq_true (Bool.and_eq_true_iff.mp stored).2)
    cases lang <;> exact (goes_serializeElements bounded string each).and_true
  | message => cases lang <;> exact goes_serializeStructArr fits (h kind)
  | unsupported => exact .throw rfl

/-! ### The walk -/

theorem goes_serializeFields : ∀ (ms : List MessageMember) (vs : List Value),
    (∀ m ∈ ms, ∀ v, m.every MessageMember.fits v = true → m.every MessageMember.stored v = true →
      Goes S (Ser.serializeMember S lang o (Ser.serializeMembers S lang o m.members) m v)
        (m.sends (MessageMember.passes lang) v)) →
    fieldsEvery MessageMember.fits ms vs = true → fieldsEvery MessageMember.stored ms vs = true →
    Goes S (Ser.serializeFields S lang o ms vs) (fieldsSend (MessageMember.passes lang) ms vs)
  | [], _, _, _, _ => .pure ()
  | m :: ms, vs, h, fits, stored => by
    rw [fieldsEvery, Bool.and_eq_true] at fits stored
    have first := h m List.mem_cons_self _ fits.1 stored.1
    have rest := goes_serializeFields ms vs.tail (fun m' hm => h m' (.tail _ hm)) fits.2 stored.2
    cases m
    exact first.bind fun _ => rest

/-- **A message is gone through exactly if every member the writer comes upon is handled and every
loop ends.** -/
theorem goes_serializeMembers (d : MessageMembers) : d.linked = true → ∀ v,
    d.every MessageMember.fits v = true → d.stored v = true →
    Goes S (Ser.serializeMembers S lang o d v) (d.sends (MessageMember.passes lang) v) := by
  induction d using MessageMembers.induct (Q := fun m => m.all (fun _ => true) = true → ∀ v,
      m.every MessageMember.fits v = true → m.every MessageMember.stored v = true →
      Goes S (Ser.serializeMember S lang o (Ser.serializeMembers S lang o m.members) m v)
        (m.sends (MessageMember.passes lang) v)) with
  | null => exact fun linked => absurd linked Bool.false_ne_true
  | mk ns name ms ih =>
    exact fun linked v => goes_serializeFields ms v.fields
      fun m hm => ih m hm (membersAll_iff.mp linked m hm)
  | member m ih linked v fits stored =>
    rw [MessageMember.all_eq, Bool.true_and] at linked
    have here := fits
    have room := stored
    rw [MessageMember.every_eq, Bool.and_eq_true] at here room
    refine goes_serializeMember here.1 room.1 fun message e sent => ?_
    rw [if_pos message] at linked
    exact ih linked e (MessageMember.every_sent message fits sent)
      (MessageMember.every_sent message stored sent)

/-- The same of the whole walk, with the gap at its end. -/
theorem goes_serialize {d : MessageMembers} (linked : d.linked = true) (fits : d.fits v = true)
    (stored : d.stored v = true) :
    Goes S (Ser.serialize S lang o d v true) (d.sends (MessageMember.passes lang) v) := by
  have every := (Bool.and_eq_true_iff.mp fits).2
  have members : Goes S (Ser.serializeMembers S lang o d v) _ :=
    goes_serializeMembers d linked v every stored
  have whole := members.bind fun _ => goes_roundup Word.uint32.bytes
  rwa [Bool.and_true] at whole

/-- **A pass returns only where every member it comes upon is handled and every loop ends.** -/
theorem passes_iff {d : MessageMembers} :
    d.sends (MessageMember.passes lang) v = true ↔ d.handled v = true ∧ d.ends lang v = true :=
  d.sends_and_iff v

end Members

end Cdr
