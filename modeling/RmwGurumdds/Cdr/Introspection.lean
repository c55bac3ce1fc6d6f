import RmwGurumdds.Wire.Bytes

/-!
# Message descriptions and message values

The type support library hands the codec a description of each message type: a tree of members,
each with a type id, a shape (scalar, fixed array, bounded or unbounded sequence) and, for a nested
message, the description of that message. The tree comes in two instantiations, one for each
introspection language, with the same fields; `LanguageKind` tells the code which one it runs on.

A message in memory is a `Value`: what the accessors of a description reach, without the offsets
they reach it by. The C and the C++ representation of a message are the same `Value`, which is what
makes the two languages comparable.

The codec is a walk over the description, so everything here and above it is an induction on the
description (`MessageMembers.induct`) that meets the value on the way.
-/

namespace Cdr

open Wire

/-! ## Descriptions -/

/-- The introspection language a codec template is instantiated for. -/
inductive LanguageKind where
  | c
  | cxx
deriving DecidableEq, Repr

/-- The `ROS_TYPE_*` constants. `other` is an id outside the table. -/
inductive TypeId where
  | float
  | double
  | longDouble
  | char
  | wchar
  | boolean
  | octet
  | uint8
  | int8
  | uint16
  | int16
  | uint32
  | int32
  | uint64
  | int64
  | string
  | wstring
  | message
  | other (id : Nat)
deriving DecidableEq, Repr

mutual

/-- One member of a message: `members` describes the nested message, null for other types. -/
inductive MessageMember where
  | mk (name : String) (typeId : TypeId) (isArray : Bool) (arraySize : Nat)
      (isUpperBound : Bool) (members : MessageMembers)

/-- A message type, or the null handle. -/
inductive MessageMembers where
  | nullptr
  | mk (messageNamespace messageName : String) (members : List MessageMember)

end

namespace MessageMember

def typeId : MessageMember → TypeId
  | .mk _ typeId _ _ _ _ => typeId

def isArray : MessageMember → Bool
  | .mk _ _ isArray _ _ _ => isArray

def arraySize : MessageMember → Nat
  | .mk _ _ _ arraySize _ _ => arraySize

def isUpperBound : MessageMember → Bool
  | .mk _ _ _ _ isUpperBound _ => isUpperBound

def members : MessageMember → MessageMembers
  | .mk _ _ _ _ _ members => members

/-- `!array_size_ || is_upper_bound_`: the array is a sequence. -/
def isSequence (member : MessageMember) : Bool :=
  member.arraySize == 0 || member.isUpperBound

end MessageMember

/-- **Induction over descriptions.** A description has a property when its members do, and a member
when the description nested in it does. -/
theorem MessageMembers.induct {P : MessageMembers → Prop} {Q : MessageMember → Prop}
    (null : P .nullptr) (mk : ∀ ns name ms, (∀ m ∈ ms, Q m) → P (.mk ns name ms))
    (member : ∀ m : MessageMember, P m.members → Q m) (d : MessageMembers) : P d :=
  MessageMembers.rec (motive_1 := Q) (motive_2 := P) (motive_3 := fun ms => ∀ m ∈ ms, Q m)
    (fun name typeId isArray arraySize isUpperBound members =>
      member (.mk name typeId isArray arraySize isUpperBound members))
    null mk (fun _ h => absurd h List.not_mem_nil)
    (fun _ _ hm hms => List.forall_mem_cons.mpr ⟨hm, hms⟩) d

/-! ## What the codec does with a type -/

/-- The cases both switches of the codec tell apart. -/
inductive Kind where
  | boolean
  | primitive (w : Word)
  | wchar
  | string
  | wstring
  | message
  | unsupported
deriving DecidableEq, Repr

/-- The case a type id falls into. -/
def TypeId.kind : TypeId → Kind
  | .boolean => .boolean
  | .char | .octet | .uint8 | .int8 => .primitive .uint8
  | .uint16 | .int16 => .primitive .uint16
  | .float | .uint32 | .int32 => .primitive .uint32
  | .double | .uint64 | .int64 => .primitive .uint64
  | .wchar => .wchar
  | .string => .string
  | .wstring => .wstring
  | .message => .message
  | .longDouble | .other _ => .unsupported

/-- The case a member falls into. -/
def MessageMember.kind (member : MessageMember) : Kind := member.typeId.kind

/-! ## Values -/

/-- A wide character. -/
abbrev Char16 := BitVec Word.uint16.bits

/-- What a message holds. A string is its characters without the terminator; a wide character is a
16-bit word. -/
inductive Value where
  | boolean (b : Bool)
  | prim (w : Word) (x : BitVec w.bits)
  | string (s : List Byte)
  | wstring (s : List Char16)
  | message (fields : List Value)
  | array (elems : List Value)

instance : Inhabited Value := ⟨.boolean false⟩

namespace Value

def toBool : Value → Bool
  | .boolean b => b
  | _ => false

def toWord (w : Word) : Value → BitVec w.bits
  | .prim w' x => if h : w' = w then h ▸ x else 0
  | _ => 0

def toStr : Value → List Byte
  | .string s => s
  | _ => []

def toU16Str : Value → List Char16
  | .wstring s => s
  | _ => []

def fields : Value → List Value
  | .message fields => fields
  | _ => []

def elems : Value → List Value
  | .array elems => elems
  | _ => []

@[simp] theorem toWord_prim (w : Word) (x : BitVec w.bits) : (Value.prim w x).toWord w = x :=
  dif_pos rfl

end Value

/-! ## Well-typed values -/

/-- A value of the element type of a kind. `nested` judges the values of a nested message. -/
def Kind.typed (nested : Value → Bool) : Kind → Value → Bool
  | .boolean, .boolean _ => true
  | .primitive w, .prim w' _ => w == w'
  | .wchar, .prim w' _ => w' == .uint16
  | .string, .string _ => true
  | .wstring, .wstring _ => true
  | .message, v => nested v
  | _, _ => false

/-- A sequence of this size is within the bound of the member, if it has one. -/
def MessageMember.bounds (m : MessageMember) (n : Nat) : Bool :=
  !m.isUpperBound || decide (n ≤ m.arraySize)

/-- The number of elements an array of this shape may have. -/
def MessageMember.lengthTyped (member : MessageMember) (n : Nat) : Bool :=
  if member.isSequence then !member.isUpperBound || decide (n ≤ member.arraySize)
  else n == member.arraySize

mutual

/-- The value is one of this message type. -/
def MessageMembers.typed : MessageMembers → Value → Bool
  | .mk _ _ ms, .message vs => fieldsTyped ms vs
  | _, _ => false

def fieldsTyped : List MessageMember → List Value → Bool
  | [], [] => true
  | m :: ms, v :: vs => m.typed v && fieldsTyped ms vs
  | _, _ => false

/-- The value is one this member may hold. -/
def MessageMember.typed : MessageMember → Value → Bool
  | .mk name typeId isArray arraySize isUpperBound members, v =>
    if isArray then
      match v with
      | .array es =>
        (MessageMember.mk name typeId isArray arraySize isUpperBound members).lengthTyped es.length
          && es.all (typeId.kind.typed members.typed)
      | _ => false
    else typeId.kind.typed members.typed v

end

/-- What a member may hold, in terms of its fields. -/
theorem MessageMember.typed_eq (m : MessageMember) (v : Value) :
    m.typed v =
      if m.isArray then
        match v with
        | .array es => m.lengthTyped es.length && es.all (m.kind.typed m.members.typed)
        | _ => false
      else m.kind.typed m.members.typed v := by
  cases m
  rfl

/-- Members that are not arrays hold one element. -/
theorem MessageMember.typed_scalar {m : MessageMember} (h : m.isArray = false) (v : Value) :
    m.typed v = m.kind.typed m.members.typed v := by
  rw [MessageMember.typed_eq, h, if_neg Bool.false_ne_true]

/-- The elements of a member of a message type are messages of that type. -/
theorem MessageMember.typed_nested {m : MessageMember} (message : m.kind = .message) {e : Value}
    (typed : m.kind.typed m.members.typed e = true) : m.members.typed e = true := by
  rwa [message] at typed

/-- Array members hold a list of elements. -/
theorem MessageMember.typed_array {m : MessageMember} (h : m.isArray = true) {v : Value}
    (typed : m.typed v = true) :
    ∃ es, v = .array es ∧ m.lengthTyped es.length = true ∧
      ∀ e ∈ es, m.kind.typed m.members.typed e = true := by
  rw [MessageMember.typed_eq, if_pos h] at typed
  cases v with
  | array es =>
    rw [Bool.and_eq_true, List.all_eq_true] at typed
    exact ⟨es, rfl, typed.1, typed.2⟩
  | _ => exact nomatch typed

/-- The number of elements of a fixed array is in its description. -/
theorem MessageMember.lengthTyped_fixed {m : MessageMember} (h : m.isSequence = false) {n : Nat}
    (typed : m.lengthTyped n = true) : n = m.arraySize := by
  rw [MessageMember.lengthTyped, h] at typed
  exact beq_iff_eq.mp typed

/-- **Induction over well-typed messages.** A message has a property when its fields do, one after
another, and a member's value when the values of the description nested in it do. -/
theorem MessageMembers.typed_induct {P : MessageMembers → Value → Prop}
    {Q : MessageMember → Value → Prop} {R : List MessageMember → List Value → Prop}
    (message : ∀ ns name ms vs, R ms vs → P (.mk ns name ms) (.message vs)) (nil : R [] [])
    (cons : ∀ m ms v vs, Q m v → R ms vs → R (m :: ms) (v :: vs))
    (member : ∀ (m : MessageMember) v, m.typed v = true →
      (∀ e, m.members.typed e = true → P m.members e) → Q m v)
    (d : MessageMembers) : ∀ v, d.typed v = true → P d v := by
  have fields : ∀ (ms : List MessageMember) (vs : List Value),
      (∀ m ∈ ms, ∀ v, m.typed v = true → Q m v) → fieldsTyped ms vs = true → R ms vs := by
    intro ms
    induction ms with
    | nil =>
      intro vs _ typed
      cases vs with
      | nil => exact nil
      | cons v vs => exact nomatch typed
    | cons m ms ih =>
      intro vs each typed
      cases vs with
      | nil => exact nomatch typed
      | cons v vs =>
        rw [fieldsTyped, Bool.and_eq_true] at typed
        exact cons m ms v vs (each m List.mem_cons_self v typed.1)
          (ih vs (fun m' hm => each m' (List.mem_cons_of_mem _ hm)) typed.2)
  induction d using MessageMembers.induct (Q := fun m => ∀ v, m.typed v = true → Q m v) with
  | null => exact fun v typed => nomatch typed
  | mk ns name ms ih =>
    intro v typed
    cases v with
    | message vs => exact message ns name ms vs (fields ms vs ih typed)
    | _ => exact nomatch typed
  | member m ih v typed => exact member m v typed ih

/-! ## Properties of every member -/

mutual

/-- `P` holds of every member a message type has, at any depth, and no handle on the way is null. -/
def MessageMembers.all (P : MessageMember → Bool) : MessageMembers → Bool
  | .nullptr => false
  | .mk _ _ ms => membersAll P ms

def membersAll (P : MessageMember → Bool) : List MessageMember → Bool
  | [] => true
  | m :: ms => m.all P && membersAll P ms

/-- `P` holds of this member and of every member nested in it. -/
def MessageMember.all (P : MessageMember → Bool) : MessageMember → Bool
  | .mk name typeId isArray arraySize isUpperBound members =>
    P (.mk name typeId isArray arraySize isUpperBound members) &&
      if typeId.kind = .message then members.all P else true

end

theorem MessageMember.all_eq (P : MessageMember → Bool) (m : MessageMember) :
    m.all P = (P m && if m.kind = .message then m.members.all P else true) := by
  cases m
  rfl

theorem membersAll_iff {P : MessageMember → Bool} {ms : List MessageMember} :
    membersAll P ms = true ↔ ∀ m ∈ ms, m.all P = true := by
  induction ms with
  | nil => exact iff_of_true rfl fun _ h => absurd h List.not_mem_nil
  | cons m ms ih => rw [membersAll, Bool.and_eq_true, ih, List.forall_mem_cons]

/-- A stronger property holds of fewer descriptions. -/
theorem MessageMembers.all_mono {P P' : MessageMember → Bool} (h : ∀ m, P m = true → P' m = true)
    (d : MessageMembers) : d.all P = true → d.all P' = true := by
  induction d using MessageMembers.induct (Q := fun m => m.all P = true → m.all P' = true) with
  | null => exact id
  | mk ns name ms ih =>
    intro all
    exact membersAll_iff.mpr fun m hm => ih m hm (membersAll_iff.mp all m hm)
  | member m ih all =>
    rw [MessageMember.all_eq, Bool.and_eq_true] at all ⊢
    refine ⟨h m all.1, ?_⟩
    split
    · rename_i kind
      exact ih (by rw [← all.2, if_pos kind])
    · rfl

/-- No null handle is reached. -/
def MessageMembers.linked (d : MessageMembers) : Bool := d.all fun _ => true

/-- Every member is of a kind the codec handles. -/
def MessageMembers.supported (d : MessageMembers) : Bool :=
  d.all fun m => decide (m.kind ≠ .unsupported)

mutual

/-- `P` holds of every member a message has, at any depth, with the value the member holds. -/
def MessageMembers.every (P : MessageMember → Value → Bool) : MessageMembers → Value → Bool
  | .nullptr, _ => true
  | .mk _ _ ms, v => fieldsEvery P ms v.fields

def fieldsEvery (P : MessageMember → Value → Bool) : List MessageMember → List Value → Bool
  | [], _ => true
  | m :: ms, vs => m.every P (vs.headD default) && fieldsEvery P ms vs.tail

/-- `P` holds of this member's value and of every member nested in it. -/
def MessageMember.every (P : MessageMember → Value → Bool) : MessageMember → Value → Bool
  | .mk name typeId isArray arraySize isUpperBound members, v =>
    P (.mk name typeId isArray arraySize isUpperBound members) v &&
      if typeId.kind = .message then
        if isArray then v.elems.all (members.every P) else members.every P v
      else true

end

theorem MessageMember.every_eq (P : MessageMember → Value → Bool) (m : MessageMember) (v : Value) :
    m.every P v =
      (P m v &&
        if m.kind = .message then
          if m.isArray then v.elems.all (m.members.every P) else m.members.every P v
        else true) := by
  cases m
  rfl

section Mono

variable {P P' : MessageMember → Value → Bool}

theorem fieldsEvery_mono : ∀ (ms : List MessageMember) (vs : List Value),
    (∀ m ∈ ms, ∀ v, m.every P v = true → m.every P' v = true) →
    fieldsEvery P ms vs = true → fieldsEvery P' ms vs = true := by
  intro ms
  induction ms with
  | nil => exact fun _ _ _ => rfl
  | cons m ms ih =>
    intro vs each every
    rw [fieldsEvery, Bool.and_eq_true] at every ⊢
    exact ⟨each m List.mem_cons_self _ every.1,
      ih vs.tail (fun m' hm => each m' (List.mem_cons_of_mem _ hm)) every.2⟩

theorem MessageMember.every_mono {m : MessageMember} {v : Value}
    (here : P m v = true → P' m v = true)
    (inside : m.kind = .message → ∀ v, m.members.every P v = true → m.members.every P' v = true)
    (every : m.every P v = true) : m.every P' v = true := by
  rw [MessageMember.every_eq, Bool.and_eq_true] at every ⊢
  refine ⟨here every.1, ?_⟩
  have nested := every.2
  by_cases kind : m.kind = .message
  · have inside := inside kind
    rw [if_pos kind] at nested ⊢
    by_cases isArray : m.isArray = true
    · rw [if_pos isArray, List.all_eq_true] at nested ⊢
      exact fun e he => inside e (nested e he)
    · rw [if_neg isArray] at nested ⊢
      exact inside v nested
  · rw [if_neg kind]

/-- What follows from a property of the description and one of the message holds of the message. -/
theorem MessageMembers.every_mono_of_all {A : MessageMember → Bool}
    (h : ∀ m v, A m = true → P m v = true → P' m v = true) (d : MessageMembers) :
    d.all A = true → ∀ v, d.every P v = true → d.every P' v = true := by
  induction d using MessageMembers.induct (Q := fun m => m.all A = true → ∀ v,
      m.every P v = true → m.every P' v = true) with
  | null => exact fun _ _ _ => rfl
  | mk ns name ms ih =>
    exact fun all v every => fieldsEvery_mono ms v.fields
      (fun m hm => ih m hm (membersAll_iff.mp all m hm)) every
  | member m ih all v every =>
    rw [MessageMember.all_eq, Bool.and_eq_true] at all
    refine MessageMember.every_mono (h m v all.1) (fun kind => ih ?_) every
    rw [← all.2, if_pos kind]

/-- A stronger property holds of fewer messages. -/
theorem MessageMembers.every_mono (h : ∀ m v, P m v = true → P' m v = true) (d : MessageMembers) :
    ∀ v, d.every P v = true → d.every P' v = true := by
  induction d using MessageMembers.induct (Q := fun m => ∀ v, m.every P v = true →
      m.every P' v = true) with
  | null => exact fun _ _ => rfl
  | mk ns name ms ih => exact fun v every => fieldsEvery_mono ms v.fields ih every
  | member m ih v every => exact MessageMember.every_mono (h m v) (fun _ => ih) every

end Mono

theorem MessageMembers.every_true (d : MessageMembers) :
    ∀ v, d.every (fun _ _ => true) v = true := by
  have fields : ∀ (ms : List MessageMember) (vs : List Value),
      (∀ m ∈ ms, ∀ v, m.every (fun _ _ => true) v = true) →
      fieldsEvery (fun _ _ => true) ms vs = true := by
    intro ms
    induction ms with
    | nil => exact fun _ _ => rfl
    | cons m ms ih =>
      intro vs each
      rw [fieldsEvery, each m List.mem_cons_self, Bool.true_and]
      exact ih vs.tail fun m' hm => each m' (List.mem_cons_of_mem _ hm)
  induction d using MessageMembers.induct (Q := fun m => ∀ v,
      m.every (fun _ _ => true) v = true) with
  | null => exact fun _ => rfl
  | mk ns name ms ih => exact fun v => fields ms v.fields ih
  | member m ih v =>
    rw [MessageMember.every_eq, Bool.true_and]
    split
    · split
      · exact List.all_eq_true.mpr fun e _ => ih e
      · exact ih v
    · rfl

/-! ## Changing every element -/

/-- The function that changes an element: `g` on the elements themselves, `nested` on messages. -/
def MessageMember.mapElement (g : MessageMember → Value → Value) (nested : Value → Value)
    (member : MessageMember) (e : Value) : Value :=
  if member.kind = .message then nested e else g member e

mutual

/-- A message with `g` applied to every element in it, at any depth. -/
def MessageMembers.map (g : MessageMember → Value → Value) : MessageMembers → Value → Value
  | .nullptr, v => v
  | .mk _ _ ms, v => .message (fieldsMap g ms v.fields)

def fieldsMap (g : MessageMember → Value → Value) : List MessageMember → List Value → List Value
  | [], _ => []
  | m :: ms, vs => m.map g (vs.headD default) :: fieldsMap g ms vs.tail

def MessageMember.map (g : MessageMember → Value → Value) : MessageMember → Value → Value
  | .mk name typeId isArray arraySize isUpperBound members, v =>
    let change := (MessageMember.mk name typeId isArray arraySize isUpperBound members).mapElement
      g (members.map g)
    if isArray then .array (v.elems.map change) else change v

end

theorem MessageMember.map_eq (g : MessageMember → Value → Value) (m : MessageMember) (v : Value) :
    m.map g v =
      if m.isArray then .array (v.elems.map (m.mapElement g (m.members.map g)))
      else m.mapElement g (m.members.map g) v := by
  cases m
  rfl

/-- A list is its image exactly when every element is its own. -/
theorem list_map_eq_self {α : Type} {g : α → α} {es : List α} :
    es.map g = es ↔ ∀ e ∈ es, g e = e := by
  have h := List.map_inj_left (l := es) (f := g) (g := id)
  rwa [List.map_id] at h

/-- **A message is unchanged exactly when its elements are.** `P` says of a member when its own
elements are. -/
theorem MessageMembers.map_eq_self_iff {g : MessageMember → Value → Value}
    {P : MessageMember → Value → Bool} (skip : ∀ m v, m.kind = .message → P m v = true)
    (scalar : ∀ m v, m.isArray = false → m.kind ≠ .message → m.typed v = true →
      (g m v = v ↔ P m v = true))
    (array : ∀ m es, m.isArray = true → m.kind ≠ .message → m.typed (.array es) = true →
      ((∀ e ∈ es, g m e = e) ↔ P m (.array es) = true)) (d : MessageMembers) :
    ∀ v, d.typed v = true → (d.map g v = v ↔ d.every P v = true) := by
  refine d.typed_induct (P := fun d v => d.map g v = v ↔ d.every P v = true)
    (Q := fun m v => m.map g v = v ↔ m.every P v = true)
    (R := fun ms vs => fieldsMap g ms vs = vs ↔ fieldsEvery P ms vs = true) ?_ (iff_of_true rfl rfl)
    ?_ ?_
  · intro ns name ms vs fields
    show Value.message _ = Value.message vs ↔ _
    rw [Value.message.injEq]
    exact fields
  · intro m ms v vs first rest
    rw [fieldsMap, fieldsEvery, Bool.and_eq_true, List.cons.injEq]
    exact and_congr first rest
  · intro m v typed ih
    rw [MessageMember.map_eq, MessageMember.every_eq]
    by_cases isArray : m.isArray = true
    · obtain ⟨es, rfl, -, each⟩ := MessageMember.typed_array isArray typed
      rw [if_pos isArray, if_pos isArray, Value.array.injEq, Value.elems, list_map_eq_self]
      by_cases message : m.kind = .message
      · rw [if_pos message, skip m _ message, Bool.true_and, List.all_eq_true]
        refine forall₂_congr fun e he => ?_
        rw [MessageMember.mapElement, if_pos message]
        exact ih e (m.typed_nested message (each e he))
      · rw [if_neg message, Bool.and_true, ← array m es isArray message typed]
        exact forall₂_congr fun e _ => by rw [MessageMember.mapElement, if_neg message]
    · have typedV := typed
      rw [MessageMember.typed_scalar (Bool.eq_false_iff.mpr isArray)] at typedV
      rw [if_neg isArray, if_neg isArray]
      by_cases message : m.kind = .message
      · rw [if_pos message, skip m _ message, Bool.true_and, MessageMember.mapElement,
          if_pos message]
        exact ih v (m.typed_nested message typedV)
      · rw [if_neg message, Bool.and_true, MessageMember.mapElement, if_neg message]
        exact scalar m v (Bool.eq_false_iff.mpr isArray) message typed

/-- A well-typed message stays one when its elements keep their types. -/
theorem MessageMembers.typed_map {g : MessageMember → Value → Value}
    (keeps : ∀ (m : MessageMember) (e : Value), m.kind ≠ .message →
      m.kind.typed m.members.typed e = true → m.kind.typed m.members.typed (g m e) = true)
    (d : MessageMembers) : ∀ v, d.typed v = true → d.typed (d.map g v) = true := by
  refine d.typed_induct (P := fun d v => d.typed (d.map g v) = true)
    (Q := fun m v => m.typed (m.map g v) = true)
    (R := fun ms vs => fieldsTyped ms (fieldsMap g ms vs) = true) (fun _ _ _ _ fields => fields) rfl
    (fun m ms v vs first rest => Bool.and_eq_true_iff.mpr ⟨first, rest⟩) ?_
  intro m v typed ih
  have element : ∀ e, m.kind.typed m.members.typed e = true →
      m.kind.typed m.members.typed (m.mapElement g (m.members.map g) e) = true := by
    intro e typed
    unfold MessageMember.mapElement
    by_cases message : m.kind = .message
    · rw [if_pos message]
      rw [message] at typed ⊢
      exact ih e typed
    · rw [if_neg message]
      exact keeps m e message typed
  rw [MessageMember.map_eq]
  by_cases isArray : m.isArray = true
  · obtain ⟨es, rfl, length, each⟩ := MessageMember.typed_array isArray typed
    rw [if_pos isArray, MessageMember.typed_eq, if_pos isArray, Value.elems]
    simp only [List.length_map, length, List.all_map, Bool.true_and, List.all_eq_true,
      Function.comp_apply]
    exact fun e he => element e (each e he)
  · have scalar := Bool.eq_false_iff.mpr isArray
    rw [MessageMember.typed_scalar scalar] at typed
    rw [if_neg isArray, MessageMember.typed_scalar scalar]
    exact element v typed

/-- What `P'` says of a changed message is what `P` says of the message, when it is so for every
member. -/
theorem MessageMembers.every_map {g : MessageMember → Value → Value}
    {P P' : MessageMember → Value → Bool}
    (h : ∀ (m : MessageMember) (v : Value), m.typed v = true → P' m (m.map g v) = P m v)
    (d : MessageMembers) : ∀ v, d.typed v = true → d.every P' (d.map g v) = d.every P v := by
  refine d.typed_induct (P := fun d v => d.every P' (d.map g v) = d.every P v)
    (Q := fun m v => m.every P' (m.map g v) = m.every P v)
    (R := fun ms vs => fieldsEvery P' ms (fieldsMap g ms vs) = fieldsEvery P ms vs)
    (fun _ _ _ _ fields => fields) rfl ?_ ?_
  · intro m ms v vs first rest
    rw [fieldsMap, fieldsEvery, fieldsEvery]
    exact congrArg₂ and first rest
  intro m v typed ih
  rw [MessageMember.every_eq, MessageMember.every_eq, h m v typed]
  congr 1
  by_cases message : m.kind = .message
  · have nested : m.mapElement g (m.members.map g) = m.members.map g := by
      funext e
      exact if_pos message
    rw [if_pos message, if_pos message, MessageMember.map_eq, nested]
    by_cases isArray : m.isArray = true
    · obtain ⟨es, rfl, -, each⟩ := MessageMember.typed_array isArray typed
      rw [if_pos isArray, if_pos isArray, if_pos isArray, Value.elems, Value.elems, List.all_map,
        Bool.eq_iff_iff, List.all_eq_true, List.all_eq_true]
      refine forall₂_congr fun e he => ?_
      rw [Function.comp_apply, ih e (m.typed_nested message (each e he))]
    · rw [MessageMember.typed_scalar (Bool.eq_false_iff.mpr isArray)] at typed
      rw [if_neg isArray, if_neg isArray, if_neg isArray]
      exact ih v (m.typed_nested message typed)
  · rw [if_neg message, if_neg message]

/-! ## Countable lengths -/

/-- An array has a length a 32-bit counter holds. -/
def MessageMember.arrayCountable (member : MessageMember) (v : Value) : Bool :=
  !member.isArray || decide (v.elems.length < 2 ^ 32)

theorem MessageMember.arrayCountable_array {m : MessageMember} (h : m.isArray = true)
    {es : List Value} (count : m.arrayCountable (.array es) = true) : es.length < 2 ^ 32 := by
  rw [MessageMember.arrayCountable, h] at count
  exact of_decide_eq_true count

/-- Every array in a message has a length a 32-bit counter holds. -/
def MessageMembers.arraysCountable (d : MessageMembers) (v : Value) : Bool :=
  d.every MessageMember.arrayCountable v

/-- The member is of a kind the codec handles, and an array has a length a 32-bit counter holds. -/
def MessageMember.writable (member : MessageMember) (v : Value) : Bool :=
  decide (member.kind ≠ .unsupported) && member.arrayCountable v

/-- Every member reached in a message is writable. -/
def MessageMembers.writable (d : MessageMembers) (v : Value) : Bool :=
  d.every MessageMember.writable v

/-- A description the codec handles has only writable messages, but for their arrays. -/
theorem MessageMembers.writable_of_supported {d : MessageMembers} {v : Value}
    (supported : d.supported = true) (count : d.arraysCountable v = true) :
    d.writable v = true :=
  d.every_mono_of_all (fun _ _ handled count => Bool.and_eq_true_iff.mpr ⟨handled, count⟩)
    supported v count

/-- The strings in an element have a length the wire's 32-bit count holds. -/
def Value.countable (v : Value) : Bool :=
  decide (v.toStr.length < 2 ^ 32 - 1) && decide (v.toU16Str.length < 2 ^ 32)

/-- The lengths in a member's value are lengths the wire's 32-bit count holds. -/
def MessageMember.countable (member : MessageMember) (v : Value) : Bool :=
  if member.isArray then decide (v.elems.length < 2 ^ 32) && v.elems.all Value.countable
  else v.countable

theorem MessageMember.countable_array {m : MessageMember} (h : m.isArray = true) {es : List Value}
    (count : m.countable (.array es) = true) :
    es.length < 2 ^ 32 ∧ ∀ e ∈ es, e.countable = true := by
  rw [MessageMember.countable, if_pos h, Bool.and_eq_true, decide_eq_true_eq,
    List.all_eq_true] at count
  exact count

/-- Every length in a message is one the wire's 32-bit count holds. -/
def MessageMembers.countable (d : MessageMembers) (v : Value) : Bool :=
  d.every MessageMember.countable v

theorem MessageMembers.arraysCountable_of_countable {d : MessageMembers} {v : Value}
    (count : d.countable v = true) : d.arraysCountable v = true := by
  refine d.every_mono (fun m v count => ?_) v count
  unfold MessageMember.arrayCountable
  unfold MessageMember.countable at count
  cases isArray : m.isArray with
  | false => rfl
  | true =>
    rw [isArray, if_pos rfl, Bool.and_eq_true] at count
    exact count.1

end Cdr
