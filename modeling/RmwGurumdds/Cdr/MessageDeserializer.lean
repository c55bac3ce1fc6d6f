import RmwGurumdds.Cdr.CdrDeserializationBuffer

/-!
# The message deserializer

`MessageDeserializer<MessageMembersT>`: the walk that reads a message out of a deserialization
buffer into a target the caller owns. The target is a `Value` like the message read, and a field
the code does not write keeps what it had; a target that lacks a field is taken to hold a fresh
one there.

What the libraries answer is an argument (`Runtime`). The code looks at some of the answers of the C
runtime and not at others. A C++ container throws when it does not take a size: the vector of a
bounded sequence beyond its bound, and every one when there is no memory. A string is no longer than
the bytes received, and there is memory for a copy of it.
-/

namespace Cdr

open Wire Exec

/-- The answers of the C runtime library and of the C++ containers, by the length they are asked
for. -/
structure Runtime where
  /-- `rosidl_runtime_c__*__Sequence__init`. -/
  sequenceInit : Nat → Bool
  /-- `rosidl_runtime_c__String__assignn`. -/
  stringAssignn : Nat → Bool
  /-- `rosidl_runtime_c__U16String__resize`. -/
  wstringResize : Nat → Bool
  /-- What `resize` of the vector of a member throws, if it throws. -/
  vectorResize : MessageMember → Nat → Option ContainerError

/-- A C runtime that has the memory it is asked for. -/
structure Runtime.Succeeds (rt : Runtime) : Prop where
  sequenceInit : ∀ n, rt.sequenceInit n = true
  stringAssignn : ∀ n, rt.stringAssignn n = true
  wstringResize : ∀ n, rt.wstringResize n = true

/-- What a decoder is compiled and linked into: the introspection language it is instantiated for,
the byte order of the host, the libraries, and the element a resized array starts with. -/
structure Target where
  lang : LanguageKind
  order : ByteOrder
  runtime : Runtime
  fresh : MessageMember → Value

/-- A fixed array after its first elements are written: the others are still there. -/
def MessageMember.overwrite (member : MessageMember) (output : Value) (elems : List Value) :
    Value :=
  .array (elems ++ (output.elems.take member.arraySize).drop elems.length)

/-- What `resize_function` leaves. The C one frees the sequence and initialises it anew, and its
answer is not looked at. -/
def Target.resizeFunction (t : Target) (member : MessageMember) (size : Nat) (old : List Value) :
    List Value :=
  match t.lang with
  | .c => if t.runtime.sequenceInit size then List.replicate size (t.fresh member) else []
  | .cxx => (List.range size).map fun i => old[i]?.getD (t.fresh member)

namespace Des

/-- `for (uint32_t i = 0; i < bound; i++)`. A round reads at least one byte, so the bounds checks
end a counter that wraps. -/
def for32 {α : Type} (bound : Nat) (body : Nat → Des α) : Des (List α) := do
  let b ← get
  counted .diverges (2 ^ 32) (b.size + 1) bound body

/-- A bound the counter reaches makes it a loop of that many rounds. -/
theorem for32_eq_loop {α : Type} {bound : Nat} (small : bound < 2 ^ 32) (body : Nat → Des α) :
    for32 bound body = loop body bound 0 := by
  funext b
  rw [for32, bind_ok (get_run b), counted_eq_loop small]

variable (t : Target)

/-- The size in front of a sequence. -/
def sequenceSize : Des Nat := do
  let size ← word t.order .uint32
  note (.resized size.toNat)
  return size.toNat

/-- `rosidl_runtime_c__*__Sequence__init`, with the answer checked. -/
def sequenceInit (size : Nat) : Des Unit :=
  if t.runtime.sequenceInit size then pure ()
  else throw (.runtimeError "Failed to initialize sequence")

/-- Whether `resize_function` returns. The C one does, whatever it was asked for. -/
def resize (member : MessageMember) (size : Nat) : Des Unit :=
  match t.lang with
  | .c => pure ()
  | .cxx =>
    match t.runtime.vectorResize member size with
    | none => pure ()
    | some e => throw (.container e)

/-- A `bool` behind a byte. -/
def boolean : Des Value := do
  let data ← word t.order .uint8
  return .boolean (data != 0)

/-- A wide character. -/
def wchar : Des Value := do
  let data ← word t.order .uint16
  return .prim .uint16 data

/-- `read_boolean`. -/
def readBoolean (member : MessageMember) (_output : Value) : Des Value :=
  if member.isArray then
    if member.isSequence then do
      let size ← sequenceSize t
      match t.lang with
      | .c => do
        sequenceInit t size
        return .array (← for32 size fun _ => boolean t)
      | .cxx => do
        resize t member size
        return .array (← for32 size fun _ => boolean t)
    else return .array (← for32 member.arraySize fun _ => boolean t)
  else boolean t

/-- `read_wchar`. -/
def readWchar (member : MessageMember) (_output : Value) : Des Value :=
  if !member.isArray then wchar t
  else
    match t.lang with
    | .c =>
      if member.isSequence then do
        let size ← sequenceSize t
        sequenceInit t size
        return .array (← for32 size fun _ => wchar t)
      else return .array (← for32 member.arraySize fun _ => wchar t)
    | .cxx =>
      if member.isSequence then do
        let size ← sequenceSize t
        resize t member size
        return .array (← for32 size fun _ => wchar t)
      else return .array (← for32 member.arraySize fun _ => wchar t)

/-- What `read_string` and `read_wstring` share: `read` reads one element over an old one, and
`empty` is the element `init` leaves behind. The C++ branch counts the elements of a fixed array in
a `uint32_t`. -/
def readElements (read : Value → Des Value) (empty : Value) (member : MessageMember)
    (output : Value) : Des Value :=
  match t.lang with
  | .c =>
    if member.isArray then
      if member.isSequence then do
        let size ← sequenceSize t
        sequenceInit t size
        return .array (← for32 size fun _ => read empty)
      else return .array (← for32 member.arraySize fun i => read (output.elems[i]?.getD empty))
    else read output
  | .cxx =>
    if member.isArray then
      if member.isSequence then do
        let size ← sequenceSize t
        resize t member size
        let elems := t.resizeFunction member size output.elems
        return .array (← for32 (uint32T elems.length) fun i => read (elems[i]?.getD empty))
      else do
        let elems ← for32 (uint32T member.arraySize) fun i => read (output.elems[i]?.getD empty)
        return member.overwrite output elems
    else read output

/-- One string over an old one: the C runtime may fail to assign it. -/
def stringOver (old : Value) : Des Value :=
  match t.lang with
  | .c => do
    let s ← string t.order false fun s =>
      if t.runtime.stringAssignn s.length then s else old.toStr
    return .string s
  | .cxx => do
    let s ← string t.order true id
    return .string s

/-- One wide string. -/
def wstringOver (_old : Value) : Des Value :=
  match t.lang with
  | .c => do
    let s ← u16string t.order t.runtime.wstringResize
    return .wstring s
  | .cxx => do
    let s ← u16string t.order fun _ => true
    return .wstring s

/-- `read_string`. -/
def readString : MessageMember → Value → Des Value :=
  readElements t (stringOver t) (.string [])

/-- `read_wstring`. -/
def readWstring : MessageMember → Value → Des Value :=
  readElements t (wstringOver t) (.wstring [])

/-- `read_primitive`. The size of a fixed array goes through a `uint32_t` in both languages. -/
def readPrimitive (w : Word) (member : MessageMember) (output : Value) : Des Value :=
  if !member.isArray then do
    let x ← word t.order w
    return .prim w x
  else
    if member.isSequence then do
      let size ← sequenceSize t
      match t.lang with
      | .c => do
        sequenceInit t size
        return .array ((← copyArr t.order w size).map (Value.prim w))
      | .cxx => do
        resize t member size
        return .array ((← copyArr t.order w size).map (Value.prim w))
    else do
      let xs ← copyArr t.order w (uint32T member.arraySize)
      return member.overwrite output (xs.map (Value.prim w))

/-- `read_struct_arr`. `nested` is `deserialize` on the description of the nested message. -/
def readStructArr (nested : Value → Des Value) (member : MessageMember) (output : Value) :
    Des Value :=
  if member.isArray then
    if member.isSequence then do
      let size ← sequenceSize t
      resize t member size
      let elems := t.resizeFunction member size output.elems
      return .array
        (← for32 (uint32T elems.length) fun i => nested (elems[i]?.getD (t.fresh member)))
    else do
      let elems ← for32 (uint32T member.arraySize) fun i =>
        nested (output.elems[i]?.getD (t.fresh member))
      return member.overwrite output elems
  else nested output

/-- The switch of `deserialize` on one member. A type it does not know is passed over. -/
def deserializeMember (nested : Value → Des Value) (member : MessageMember) (output : Value) :
    Des Value :=
  match member.kind with
  | .boolean => readBoolean t member output
  | .primitive w => readPrimitive t w member output
  | .wchar => readWchar t member output
  | .string => readString t member output
  | .wstring => readWstring t member output
  | .message => readStructArr t nested member output
  | .unsupported => pure output

mutual

/-- `deserialize`. -/
def deserialize : MessageMembers → Value → Des Value
  | .nullptr, _ => throw .outOfBounds
  | .mk _ _ ms, output => do
    let fields ← deserializeFields ms output.fields
    return .message fields

/-- The loop of `deserialize` over the members and their fields. -/
def deserializeFields : List MessageMember → List Value → Des (List Value)
  | [], _ => pure []
  | .mk name typeId isArray arraySize isUpperBound members :: ms, outputs => do
    let field ← deserializeMember t (deserialize members)
      (.mk name typeId isArray arraySize isUpperBound members) (outputs.headD default)
    let fields ← deserializeFields ms outputs.tail
    return field :: fields

end

end Des

end Cdr
