import RmwGurumdds.Cdr.Safety
import RmwGurumdds.Exec.Lockstep
import RmwGurumdds.Wire.Scan

/-!
# The length fields of a message

Every sequence on the wire has its length in front, and what a decoder does with a sequence depends
on nothing else that the sender chose. `MessageMembers.lengthFields` collects the length fields a
decoder meets in a byte string, in order, whether it gets to the end of the message or not; each one
knows the member it belongs to and whether the elements it announces are all there.

`Scans` says of a reader that it goes the way of a scan: it sizes its sequences by the length fields
the scan meets and no others, returns where the scan ends and raises where it is stuck, unless the
container of one of these sequences throws. The rules here are those of the ways to build a reader.
-/

namespace Cdr

open Wire Exec

/-! ## Length fields -/

/-- The length in front of a sequence. -/
structure LengthField where
  member : MessageMember
  count : Nat
  /-- The elements it announces are all there. -/
  complete : Bool

/-- The container of the member takes the size announced. In C there is none that throws. -/
def Target.Takes (t : Target) (f : LengthField) : Prop :=
  t.lang = .cxx → t.runtime.vectorResize f.member f.count = none

instance (t : Target) (f : LengthField) : Decidable (t.Takes f) :=
  inferInstanceAs (Decidable (_ → _))

section Scan

variable (swap : Bool) (t : Target)

/-- The parser of a length. -/
def lengthParser : Parser Nat :=
  BitVec.toNat <$> (received swap .uint32 <$> Parser.word t.order .uint32)

/-- The parser of a wide string, which the C runtime may not have the memory for. -/
def Target.wstringParser : Parser (List Char16) := do
  let n ← received swap .uint32 <$> Parser.word t.order .uint32
  if n.toNat = 0 ∨ (match t.lang with
      | .c => t.runtime.wstringResize n.toNat
      | .cxx => true) = true then
    Parser.times n.toNat (received swap .uint16 <$> Parser.word t.order .uint16)
  else Parser.fail

/-- One element. A type the decoder does not know takes no bytes. -/
def Target.elementScan (nested : Scan LengthField) : Kind → Scan LengthField
  | .boolean => .skip (Parser.word t.order .uint8)
  | .primitive w => .skip (Parser.word t.order w)
  | .wchar => .skip (Parser.word t.order .uint16)
  | .string => .skip (stringParser swap t.order (slotOf t.lang))
  | .wstring => .skip (t.wstringParser swap)
  | .message => nested
  | .unsupported => .skip (pure ())

/-- How many elements of a fixed array are read. Some loops count them in a `uint32_t` that wraps
before it gets there, and others compare with a size that has wrapped. -/
def Target.fixedRounds (member : MessageMember) : Option Nat :=
  match member.kind, t.lang with
  | .boolean, _ | .wchar, _ | .string, .c | .wstring, .c =>
    if member.arraySize < 2 ^ 32 then some member.arraySize else none
  | _, _ => some (uint32T member.arraySize)

/-- A fixed array. -/
def Target.fixedScan (member : MessageMember) (element : Scan LengthField) : Scan LengthField :=
  match t.fixedRounds member with
  | some rounds => .times rounds element
  | none => .stuck

/-- A member, whose elements are as given. -/
def Target.memberScan (member : MessageMember) (element : Scan LengthField) : Scan LengthField :=
  if member.kind = .unsupported then .skip (pure ())
  else if member.isArray then
    if member.isSequence then
      .counted (lengthParser swap t) (LengthField.mk member) fun n => .times n element
    else t.fixedScan member element
  else element

mutual

/-- A message. -/
def MessageMembers.scan : MessageMembers → Scan LengthField
  | .nullptr => .stuck
  | .mk _ _ ms => fieldsScan ms

def fieldsScan : List MessageMember → Scan LengthField
  | [] => .skip (pure ())
  | m :: ms => m.scan.andThen (fieldsScan ms)

def MessageMember.scan : MessageMember → Scan LengthField
  | .mk name typeId isArray arraySize isUpperBound members =>
    t.memberScan swap (.mk name typeId isArray arraySize isUpperBound members)
      (t.elementScan swap members.scan typeId.kind)

end

theorem MessageMember.scan_eq (m : MessageMember) :
    m.scan swap t = t.memberScan swap m (t.elementScan swap (m.members.scan swap t) m.kind) := by
  cases m
  rfl

end Scan

/-- The length fields a decoder meets in these bytes. -/
def MessageMembers.lengthFields (t : Target) (d : MessageMembers) (bytes : List Byte) :
    List LengthField :=
  if bytes.length < cdrHeaderSize then []
  else (d.scan (swapped t.order bytes) t (bytes.drop cdrHeaderSize) 0).items

/-! ## What the decoder sizes -/

/-- The number of elements a step sizes a sequence to. -/
def Event.resize? : Event → Option Nat
  | .resized count => some count
  | _ => none

/-- The sizes sequences of the target were given, the last one first. -/
def CdrDeserializationBuffer.sizes (b : CdrDeserializationBuffer) : List Nat :=
  b.log.filterMap Event.resize?

/-- A reader that sizes no sequence. -/
abbrev Sizeless {α : Type} (m : Des α) : Prop := Keeps CdrDeserializationBuffer.sizes m

section Sizeless

variable {α : Type} {o : ByteOrder}

theorem sizeless_note {e : Event} (other : e.resize? = none) : Sizeless (Des.note e) :=
  .modify fun b => by
    show List.filterMap _ _ = _
    rw [List.filterMap_cons_none other]
    rfl

theorem sizeless_advance (cnt : Nat) : Sizeless (Des.advance cnt) := .modify fun _ => rfl

theorem sizeless_check (cnt : Nat) : Sizeless (Des.check cnt) :=
  Keeps.get.bind fun _ => (sizeless_note rfl).bind fun _ => .ite .throw .pure

theorem sizeless_roundup (align : Nat) : Sizeless (Des.roundup align) :=
  Keeps.get.bind fun _ => (sizeless_check _).bind fun _ => sizeless_advance _

theorem sizeless_load (start n : Nat) : Sizeless (Des.load start n) :=
  Keeps.get.bind fun _ => .ite .pure .throw

theorem sizeless_word (w : Word) : Sizeless (Des.word o w) :=
  (sizeless_roundup _).bind fun _ => (sizeless_check _).bind fun _ => Keeps.get.bind fun _ =>
    (sizeless_load _ _).bind fun _ => (sizeless_advance _).bind fun _ => .pure

theorem sizeless_checkTerminator (terminated : Bool) (strSize : Nat) :
    Sizeless (Des.checkTerminator terminated strSize) :=
  .ite (Keeps.get.bind fun _ => (sizeless_load _ _).bind fun _ => .ite .pure .throw) .pure

theorem sizeless_string (terminated : Bool) (assign : List Byte → List Byte) :
    Sizeless (Des.string o terminated assign) :=
  (sizeless_word _).bind fun _ => (sizeless_roundup _).bind fun _ => .ite .pure <|
    (sizeless_check _).bind fun _ => (sizeless_checkTerminator _ _).bind fun _ =>
      Keeps.get.bind fun _ => (sizeless_load _ _).bind fun _ => (sizeless_advance _).bind fun _ =>
        .pure

theorem sizeless_u16string (resize : Nat → Bool) : Sizeless (Des.u16string o resize) :=
  (sizeless_word _).bind fun _ => (sizeless_roundup _).bind fun _ => .ite .pure <|
    (sizeless_check _).bind fun _ => .ite (Keeps.get.bind fun _ =>
      (Keeps.loop (fun _ => (sizeless_load _ _).bind fun _ => .pure) _ _).bind fun _ =>
        (sizeless_advance _).bind fun _ => .pure) .throw

theorem sizeless_copyArr (w : Word) (cnt : Nat) : Sizeless (Des.copyArr o w cnt) :=
  .ite .pure <| (sizeless_roundup _).bind fun _ => (sizeless_check _).bind fun _ =>
    Keeps.get.bind fun _ => (Keeps.ite
      (Keeps.loop (fun _ => (sizeless_load _ _).bind fun _ => .pure) _ _)
      ((sizeless_load _ _).bind fun _ => .pure)).bind fun _ => (sizeless_advance _).bind fun _ =>
        .pure

theorem sizeless_for32 {body : Nat → Des α} (bound : Nat) (h : ∀ i, Sizeless (body i)) :
    Sizeless (Des.for32 bound body) :=
  Keeps.get.bind fun _ => .counted h

end Sizeless

/-! ## The refinement -/

/-- The run from `b` to `c` sized a sequence for each of these length fields and for no other, and
the containers took the sizes. -/
structure CdrDeserializationBuffer.Met (b : CdrDeserializationBuffer) (t : Target)
    (c : CdrDeserializationBuffer) (fs : List LengthField) : Prop where
  sizes : c.sizes = (fs.map LengthField.count).reverse ++ b.sizes
  takes : ∀ f ∈ fs, t.Takes f

/-- From the state `b`, `m` sizes its sequences by the length fields `s` meets, returns where `s`
stops and raises where `s` is stuck; or a container does not take the length in one of these fields.
What `m` returns and what `s` met are related by `Q`. -/
structure ScansAt {α : Type} (t : Target) (m : Des α) (s : Scan LengthField)
    (Q : α → List LengthField → Prop) (b : CdrDeserializationBuffer) : Prop where
  ok : ∀ a c, m b = .ok a c → b.Later c ∧ (s b.buf b.offset).next = some c.offset ∧
    b.Met t c (s b.buf b.offset).items ∧ Q a (s b.buf b.offset).items
  error : ∀ e c, m b = .error e c →
    e.isContainer = false ∧ (s b.buf b.offset).next = none ∧ b.Met t c (s b.buf b.offset).items ∨
      e.isContainer = true ∧ ∃ f ∈ (s b.buf b.offset).items, ¬ t.Takes f

/-- The same, on every buffer of this byte order. -/
def Scans {α : Type} (swap : Bool) (t : Target) (m : Des α) (s : Scan LengthField)
    (Q : α → List LengthField → Prop) : Prop :=
  ∀ b : CdrDeserializationBuffer, b.Valid → b.swap = swap → ScansAt t m s Q b

section Rules

variable {α β : Type} {swap : Bool} {t : Target} {m : Des α} {s s' : Scan LengthField}
variable {Q Q' : α → List LengthField → Prop} {R : β → List LengthField → Prop}

theorem CdrDeserializationBuffer.Met.none {b c : CdrDeserializationBuffer}
    (same : c.sizes = b.sizes) : b.Met t c [] :=
  ⟨same, fun _ met => absurd met List.not_mem_nil⟩

theorem CdrDeserializationBuffer.Met.append {b c d : CdrDeserializationBuffer}
    {fs gs : List LengthField} (h : b.Met t c fs) (h' : c.Met t d gs) : b.Met t d (fs ++ gs) where
  sizes := by
    rw [h'.sizes, h.sizes, List.map_append, List.reverse_append, List.append_assoc]
  takes := List.forall_mem_append.mpr ⟨h.takes, h'.takes⟩

theorem Scans.weaken (h : Scans swap t m s Q) (post : ∀ a fs, Q a fs → Q' a fs) :
    Scans swap t m s Q' := by
  intro b valid hs
  refine ⟨fun a c run => ?_, (h b valid hs).error⟩
  obtain ⟨later, stops, met, q⟩ := (h b valid hs).ok a c run
  exact ⟨later, stops, met, post _ _ q⟩

/-- What reads what a parser parses, and sizes nothing, goes the parser's way. -/
theorem Scans.of_reads {p : Parser α} (reads : Reads swap m p) (sizeless : Sizeless m) :
    Scans swap t m (.skip p) fun a fs => fs = [] ∧ ∃ bs off next, p bs off = some (a, next) := by
  intro b valid hs
  have run := reads b valid hs
  unfold ReadsAt at run
  cases parsed : p b.buf b.offset with
  | none =>
    rw [parsed] at run
    obtain ⟨what, c, fails, -⟩ := run
    refine ⟨fun a c' run' => ?_, fun e c' run' => ?_⟩
    · cases fails.symm.trans run'
    · cases fails.symm.trans run'
      exact .inl ⟨rfl, by rw [Scan.skip, parsed]; rfl, .none ((sizeless _).error rfl fails)⟩
  | some r =>
    rw [parsed] at run
    obtain ⟨c, returns, later, moved⟩ := run
    refine ⟨fun a c' run' => ?_, fun e c' run' => ?_⟩
    · cases returns.symm.trans run'
      exact ⟨later, by rw [Scan.skip, parsed, moved]; rfl, .none ((sizeless _).ok rfl run'), rfl,
        _, _, _, parsed⟩
    · cases returns.symm.trans run'

/-- It goes the way of any scan that skips what is parsed. -/
theorem Scans.skips {p : Parser α} (reads : Reads swap m p) (sizeless : Sizeless m)
    (way : Scan.skip p = s) : Scans swap t m s fun _ fs => fs = [] := by
  subst way
  exact (Scans.of_reads reads sizeless).weaken fun _ _ q => q.1

theorem Scans.pure (a : α) :
    Scans swap t (Pure.pure a : Des α) (.skip (Pure.pure () : Parser Unit)) fun a' fs =>
      a' = a ∧ fs = [] := by
  refine fun b valid _ => ⟨fun a' c run => ?_, fun e c run => ?_⟩
  · cases run
    exact ⟨.refl valid, rfl, .none rfl, rfl, rfl⟩
  · cases run

theorem Scans.throw {e : Exn} (caught : e.isContainer = false) :
    Scans swap t (throw e : Des α) .stuck Q := by
  refine fun b _ _ => ⟨fun a c run => ?_, fun e' c run => ?_⟩
  · cases run
  · cases run
    exact .inl ⟨caught, rfl, .none rfl⟩

/-- What never returns, sizes nothing and fills no container goes no way. -/
theorem Scans.stuck (never : ∀ b a c, m b ≠ .ok a c) (sizeless : Sizeless m)
    (safe : Safe False 0 m) : Scans swap t m .stuck Q := by
  refine fun b valid _ => ⟨fun a c run => absurd run (never b a c), fun e c run => .inl ?_⟩
  obtain ⟨-, -, ⟨what, rfl⟩ | ⟨none, -⟩⟩ := (safe b.buf 0).error ⟨valid, rfl, Nat.zero_le _⟩ run
  · exact ⟨rfl, rfl, .none ((sizeless _).error rfl run)⟩
  · exact none.elim

/-- **One reader after another goes the way of one scan after another.** -/
theorem Scans.bind {k : α → Des β} (h : Scans swap t m s Q)
    (hk : ∀ a fs, Q a fs → Scans swap t (k a) s' fun x gs => R x (fs ++ gs)) :
    Scans swap t (m >>= k) (s.andThen s') R := by
  intro b valid hs
  have first := h b valid hs
  cases run : m b with
  | error e c =>
    refine ⟨fun x d whole => ?_, fun e' d whole => ?_⟩
    · cases (bind_error run).symm.trans whole
    · cases (bind_error run).symm.trans whole
      rcases first.error e c run with ⟨caught, stuck, met⟩ | ⟨container, f, met, refused⟩
      · rw [Scan.andThen_none stuck]
        exact .inl ⟨caught, stuck, met⟩
      · exact .inr ⟨container, f, Scan.mem_andThen_left met, refused⟩
  | ok a c =>
    obtain ⟨later, stops, met, q⟩ := first.ok a c run
    have second := hk a _ q c later.valid (later.swap_eq.trans hs)
    refine ⟨fun x d whole => ?_, fun e d whole => ?_⟩
    · rw [bind_ok run] at whole
      obtain ⟨later', stops', met', r⟩ := second.ok x d whole
      rw [later.buf_eq] at stops' met' r
      rw [Scan.andThen_some stops]
      exact ⟨later.trans later', stops', met.append met', r⟩
    · rw [bind_ok run] at whole
      have ends := second.error e d whole
      rw [later.buf_eq] at ends
      rw [Scan.andThen_some stops]
      rcases ends with ⟨caught, stuck, met'⟩ | ⟨container, f, met', refused⟩
      · exact .inl ⟨caught, stuck, met.append met'⟩
      · exact .inr ⟨container, f, List.mem_append_right _ met', refused⟩

/-- A reader that makes something of what it read. -/
theorem Scans.map (g : α → β) (h : Scans swap t m s fun a fs => R (g a) fs) :
    Scans swap t (do return g (← m)) s R := by
  intro b valid hs
  refine ⟨fun x d whole => ?_, fun e d whole => ?_⟩
  · obtain ⟨a, c, run, done⟩ := bind_eq_ok.mp whole
    cases done
    exact (h b valid hs).ok a d run
  · cases run : m b with
    | ok a c => cases (bind_ok run).symm.trans whole
    | error e' c =>
      cases (bind_error run).symm.trans whole
      exact (h b valid hs).error e d run

/-- A loop goes the way of its rounds, one after another. -/
theorem Scans.loop {body : Nat → Des α} {Q : Nat → α → List LengthField → Prop}
    {R : List α → List LengthField → Prop} (h : ∀ i, Scans swap t (body i) s (Q i)) (nil : R [] [])
    (cons : ∀ i a as fs gs, Q i a fs → R as gs → R (a :: as) (fs ++ gs)) :
    ∀ rounds i, Scans swap t (loop body rounds i) (.times rounds s) fun as fs =>
      as.length = rounds ∧ R as fs := by
  intro rounds
  induction rounds with
  | zero =>
    refine fun i => (Scans.pure []).weaken ?_
    rintro as fs ⟨rfl, rfl⟩
    exact ⟨rfl, nil⟩
  | succ rounds ih =>
    refine fun i => (h i).bind fun a fs q => Scans.map (a :: ·) ((ih (i + 1)).weaken ?_)
    rintro as gs ⟨length, r⟩
    exact ⟨congrArg Nat.succ length, cons i a as fs gs q r⟩

end Rules

end Cdr
