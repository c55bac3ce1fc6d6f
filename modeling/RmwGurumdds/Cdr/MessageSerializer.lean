import RmwGurumdds.Cdr.CdrSerializationBuffer

/-!
# The message serializer

`MessageSerializer<SERIALIZE, MessageMembersT>`: the walk that writes a message into a
serialization buffer. It is one template over two flags, `SERIALIZE` and the introspection
language, and the branches on the language are kept as the source has them, member kind by member
kind, since nothing else in the repository says that they agree.

A message is read through the accessors of its description. `size_function` answers the number of
elements behind a member, `get_const_function` and plain pointer arithmetic the element itself.
-/

namespace Cdr

open Wire Exec

/-- `size_function`: the length of a sequence, the declared size of a fixed array. -/
def MessageMember.sizeFunction (member : MessageMember) (input : Value) : Nat :=
  if member.isSequence then input.elems.length else member.arraySize

/-- `get_const_function`. -/
def getConst (input : Value) (i : Nat) : Value := input.elems[i]?.getD default

/-- The representation of a `bool`. -/
def boolByte (b : Bool) : BitVec Word.uint8.bits := if b then 1 else 0

namespace Ser

/-- `for (uint32_t i = 0; i < bound; i++)`. A round writes at least one byte, so a buffer that
checks its bounds ends a counter that wraps. -/
def for32 (bound : Nat) (body : Nat → Ser Unit) : Ser Unit := do
  let b ← get
  let _ ← counted .diverges (2 ^ 32) (b.size + 1) bound body
  pure ()

variable (S : Bool) (lang : LanguageKind) (o : ByteOrder)

/-- The size in front of the elements, if the member is a sequence. -/
def countSequence (member : MessageMember) (size : Nat) : Ser Unit :=
  if member.isSequence then count S o size else pure ()

/-- `serialize_boolean`. -/
def serializeBoolean (member : MessageMember) (input : Value) : Ser Unit :=
  if member.isArray then
    match lang with
    | .c =>
      if member.isSequence then do
        count S o input.elems.length
        for32 input.elems.length fun i => word S o .uint8 (boolByte (getConst input i).toBool)
      else
        for32 member.arraySize fun i => word S o .uint8 (boolByte (getConst input i).toBool)
    | .cxx =>
      if member.isSequence then do
        count S o input.elems.length
        -- A range-based loop: it has no counter that could wrap.
        let _ ← loop (fun i => word S o .uint8 (boolByte (getConst input i).toBool))
          input.elems.length 0
        pure ()
      else
        for32 (uint32T (member.sizeFunction input)) fun i =>
          word S o .uint8 (boolByte (getConst input i).toBool)
  else word S o .uint8 (boolByte input.toBool)

/-- `serialize_wchar`. The C branch writes 32-bit words for a sequence and nothing for a fixed
array. -/
def serializeWchar (member : MessageMember) (input : Value) : Ser Unit :=
  if member.isArray then
    match lang with
    | .c =>
      if member.isSequence then do
        count S o input.elems.length
        for32 input.elems.length fun i =>
          word S o .uint32 (((getConst input i).toWord .uint16).setWidth _)
      else pure ()
    | .cxx => do
      let size := uint32T (member.sizeFunction input)
      countSequence S o member size
      for32 size fun i => word S o .uint16 ((getConst input i).toWord .uint16)
  else word S o .uint16 (input.toWord .uint16)

/-- What `serialize_string` and `serialize_wstring` share: `write` writes one element. -/
def serializeElements (write : Value → Ser Unit) (member : MessageMember) (input : Value) :
    Ser Unit :=
  match lang with
  | .c =>
    if member.isArray then
      if member.isSequence then do
        count S o input.elems.length
        for32 input.elems.length fun i => write (getConst input i)
      else for32 member.arraySize fun i => write (getConst input i)
    else write input
  | .cxx =>
    if member.isArray then do
      let size := uint32T (member.sizeFunction input)
      countSequence S o member size
      for32 size fun i => write (getConst input i)
    else write input

/-- `serialize_string`. -/
def serializeString : MessageMember → Value → Ser Unit :=
  serializeElements S lang o fun v => string S o v.toStr

/-- `serialize_wstring`. -/
def serializeWstring : MessageMember → Value → Ser Unit :=
  serializeElements S lang o fun v => u16string S o v.toU16Str

/-- `serialize_primitive`. The C branch copies as many elements as there are, the C++ branch as
many as a `uint32_t` counts. -/
def serializePrimitive (w : Word) (member : MessageMember) (input : Value) : Ser Unit :=
  if member.isArray then
    match lang with
    | .c =>
      if member.isSequence then do
        count S o input.elems.length
        copyArr S o w (input.elems.map (Value.toWord w)) input.elems.length
      else copyArr S o w (input.elems.map (Value.toWord w)) member.arraySize
    | .cxx => do
      let size := uint32T (member.sizeFunction input)
      countSequence S o member size
      copyArr S o w (input.elems.map (Value.toWord w)) size
  else word S o w (input.toWord w)

/-- `serialize_struct_arr`. `nested` is `serialize` on the description of the nested message. -/
def serializeStructArr (nested : Value → Ser Unit) (member : MessageMember) (input : Value) :
    Ser Unit :=
  if member.isArray then do
    let size := uint32T (member.sizeFunction input)
    countSequence S o member size
    for32 size fun i => nested (getConst input i)
  else nested input

/-- The switch of `serialize` on one member. -/
def serializeMember (nested : Value → Ser Unit) (member : MessageMember) (input : Value) :
    Ser Unit :=
  match member.kind with
  | .boolean => serializeBoolean S lang o member input
  | .primitive w => serializePrimitive S lang o w member input
  | .wchar => serializeWchar S lang o member input
  | .string => serializeString S lang o member input
  | .wstring => serializeWstring S lang o member input
  | .message => serializeStructArr S o nested member input
  | .unsupported => throw (.logicError "This should not be rechable")

mutual

/-- `serialize` with `roundup_` off, as it is on every nested message. -/
def serializeMembers : MessageMembers → Value → Ser Unit
  | .nullptr, _ => throw .outOfBounds
  | .mk _ _ ms, input => serializeFields ms input.fields

/-- The loop of `serialize` over the members and their fields. -/
def serializeFields : List MessageMember → List Value → Ser Unit
  | [], _ => pure ()
  | .mk name typeId isArray arraySize isUpperBound members :: ms, vs => do
    serializeMember S lang o (serializeMembers members)
      (.mk name typeId isArray arraySize isUpperBound members) (vs.headD default)
    serializeFields ms vs.tail

end

/-- `serialize`. -/
def serialize (members : MessageMembers) (input : Value) (roundup_ : Bool) : Ser Unit := do
  serializeMembers S lang o members input
  if roundup_ then roundup 4 else pure ()

end Ser

end Cdr
