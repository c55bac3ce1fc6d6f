import RmwGurumdds.Cdr.Locality
import RmwGurumdds.Cdr.Containers

/-!
# What a length field may ask for

A decoder takes the length in front of a sequence as it comes. The C readers do not compare it with
the bound of the sequence, and no reader compares it with the bytes that are left before the
sequence is sized, as the readers of wide strings do before they size a string.

Both are therefore properties of the sender's bytes, and both are settled here exactly: a decoded
message respects its bounds when the length fields do (`bounded_iff`), and a decoder sizes nothing
beyond its input when the length fields whose elements are missing ask for nothing beyond it
(`sizes_fit_iff`). A sequence whose elements are all there is no danger, for they take bytes.
-/

namespace Cdr

open Wire Exec

/-! ## Bounds -/

def LengthField.inBounds (f : LengthField) : Bool := f.member.bounds f.count

/-- **A decoded message respects its bounds exactly when the length fields in its bytes do.** -/
theorem bounded_iff (t : Target) (d : MessageMembers) (output v : Value) (bytes : List Byte)
    (_inC : t.lang = .c) (init : ∀ n, t.runtime.sequenceInit n = true)
    (kept : d.Kept MessageMember.bounds t output) (bound : bytes.length < 2 ^ 63)
    (whole : (deserializeCdrToRos t d output bytes).ret = .ok true)
    (decoded : (deserializeCdrToRos t d output bytes).target = some v) :
    d.bounded v = true ↔ ∀ f ∈ d.lengthFields t bytes, f.inBounds = true := by
  obtain ⟨there, header, v', b, run, result⟩ := deserializeCdrToRos_true whole
  rw [result] at decoded
  obtain rfl := Option.some.inj decoded
  have walk := scans_deserialize (P := MessageMember.bounds) (fun _ => init) d output _
    (start_valid t.order bound) rfl
  obtain ⟨-, -, -, told⟩ := walk.ok v' b run
  rw [MessageMembers.lengthFields, if_neg (Nat.not_lt.mpr header)]
  exact told kept

theorem bounded_iff_sample :
    boundedBytes.bounded (.message [.array [.prim .uint8 7]]) = true ↔
      ∀ f ∈ boundedBytes.lengthFields (cTarget .little) [0, 1, 0, 0, 1, 0, 0, 0, 7],
        f.inBounds = true :=
  bounded_iff (cTarget .little) boundedBytes (.message []) _ _ rfl (fun _ => rfl)
    (.inl (by decide)) (by decide) rfl rfl

/-- Three bytes where two are allowed are received. -/
theorem bounded_overrun :
    let r := deserializeCdrToRos (cTarget .little) boundedBytes (.message [.array []])
      [0, 1, 0, 0, 3, 0, 0, 0, 7, 8, 9]
    r.ret = .ok true ∧ ∃ v, r.target = some v ∧ boundedBytes.bounded v = false :=
  ⟨rfl, _, rfl, by decide⟩

/-! ## Sizes -/

/-- A member that takes at least a byte on the wire, if the messages nested in it do. The size of a
fixed array is counted in a `uint32_t`. -/
def MessageMember.encoded (m : MessageMember) : Bool :=
  decide (m.kind ≠ .unsupported) && (!m.isArray || m.isSequence || uint32T m.arraySize != 0)

/-- A message with a member that takes a byte. -/
def MessageMembers.encoded : MessageMembers → Bool
  | .nullptr => false
  | .mk _ _ ms => ms.any MessageMember.encoded

/-- Every nested message takes at least a byte on the wire. -/
def MessageMembers.solid (d : MessageMembers) : Bool :=
  d.all fun m => decide (m.kind ≠ .message) || m.members.encoded

/-- A length whose elements are there is no more than the bytes are. -/
def LengthField.Fits (len : Nat) (f : LengthField) : Prop := f.complete = true → f.count ≤ len

section Fits

variable {swap : Bool} {t : Target} {m : MessageMember}

theorem wstring_within :
    Scan.Within LengthField.Fits 4 (.skip (t.wstringParser swap) : Scan LengthField) := by
  unfold Target.wstringParser
  cases t.lang with
  | c => exact .skip (moves_u16string swap t.order _) (local_u16string swap t.order _)
  | cxx =>
    exact .skip (moves_u16string swap t.order fun _ => true)
      (local_u16string swap t.order fun _ => true)

/-- An element takes a byte, if a message does. -/
theorem element_within {nested : Scan LengthField} (known : m.kind ≠ .unsupported)
    (h : m.kind = .message → Scan.Within LengthField.Fits 1 nested) :
    Scan.Within LengthField.Fits 1 (t.elementScan swap nested m.kind) := by
  have word : ∀ w : Word, Scan.Within LengthField.Fits 1
      (.skip (Parser.word t.order w) : Scan LengthField) := fun w =>
    (Scan.Within.skip (Moves.word t.order w) (.word t.order w)).weaken w.bytes_pos
  cases kind : m.kind with
  | boolean => exact word .uint8
  | primitive w => exact word w
  | wchar => exact word .uint16
  | string =>
    exact (Scan.Within.skip (moves_stringParser swap t.order _)
      (local_stringParser swap t.order _)).weaken (by decide)
  | wstring => exact wstring_within.weaken (by decide)
  | message => exact h kind
  | unsupported => exact absurd kind known

/-- A fixed array of elements that take a byte takes one, unless its size has wrapped to nothing. -/
theorem fixedScan_within {element : Scan LengthField}
    (h : Scan.Within LengthField.Fits 1 element) :
    Scan.Within LengthField.Fits (if uint32T m.arraySize = 0 then 0 else 1)
      (t.fixedScan m element) := by
  have rounds : ∀ n, t.fixedRounds m = some n → uint32T m.arraySize ≤ n := by
    intro n same
    unfold Target.fixedRounds at same
    split at same
    all_goals
      first
      | obtain rfl := Option.some.inj same
        exact Nat.le_refl _
      | split at same
        · obtain rfl := Option.some.inj same
          exact Nat.mod_le _ _
        · cases same
  unfold Target.fixedScan
  cases wraps : t.fixedRounds m with
  | none => exact .stuck _
  | some n =>
    have enough := rounds n wraps
    refine (h.times n).weaken ?_
    split <;> omega

/-- **A member's length fields fit**, and it moves if it is one that takes a byte. -/
theorem member_within {element : Scan LengthField}
    (h : m.kind ≠ .unsupported → Scan.Within LengthField.Fits 1 element) :
    Scan.Within LengthField.Fits (if m.encoded then 1 else 0) (t.memberScan swap m element) := by
  unfold Target.memberScan MessageMember.encoded
  by_cases known : m.kind = .unsupported
  · rw [if_pos known, known]
    exact .skip (.pure ()) (.pure ())
  · rw [if_neg known]
    have moves := h known
    by_cases isArray : m.isArray = true
    · rw [if_pos isArray]
      by_cases isSequence : m.isSequence = true
      · rw [if_pos isSequence]
        have length : Moves 4 (lengthParser swap t) := ((Moves.word t.order .uint32).map _).map _
        have rests : (lengthParser swap t).Local := (local_size swap t.order).map _
        refine (Scan.Within.counted length rests (fun n => ?_) fun n there len fits => fits).weaken
          (by split <;> omega)
        have run := moves.times n
        rwa [Nat.mul_one] at run
      · rw [if_neg isSequence]
        refine (fixedScan_within moves).weaken ?_
        by_cases zero : uint32T m.arraySize = 0
        · simp [zero, isArray, isSequence]
        · rw [if_neg zero]
          split <;> omega
    · rw [if_neg isArray]
      exact moves.weaken (by split <;> omega)

theorem fieldsScan_within : ∀ ms : List MessageMember,
    (∀ m ∈ ms, Scan.Within LengthField.Fits (if m.encoded then 1 else 0) (m.scan swap t)) →
    Scan.Within LengthField.Fits (if ms.any MessageMember.encoded then 1 else 0)
      (fieldsScan swap t ms)
  | [], _ => .skip (.pure ()) (.pure ())
  | m :: ms, h => by
    have rest := fieldsScan_within ms fun m' hm => h m' (List.mem_cons_of_mem _ hm)
    refine ((h m List.mem_cons_self).andThen rest).weaken ?_
    rw [List.any_cons]
    cases m.encoded <;> cases ms.any MessageMember.encoded <;> decide

/-- **In a solid description, a length field whose elements are there fits the bytes.** -/
theorem scan_within (d : MessageMembers) : d.solid = true →
    Scan.Within LengthField.Fits (if d.encoded then 1 else 0) (d.scan swap t) := by
  induction d using MessageMembers.induct (Q := fun m =>
      m.all (fun m => decide (m.kind ≠ .message) || m.members.encoded) = true →
      Scan.Within LengthField.Fits (if m.encoded then 1 else 0) (m.scan swap t)) with
  | null => exact fun solid => nomatch solid
  | mk ns name ms ih =>
    exact fun solid => fieldsScan_within ms fun m hm => ih m hm (membersAll_iff.mp solid m hm)
  | member m ih solid =>
    rw [MessageMember.all_eq, Bool.and_eq_true, Bool.or_eq_true, decide_eq_true_eq] at solid
    rw [MessageMember.scan_eq]
    refine member_within fun known => element_within known fun kind => ?_
    have nested := solid.2
    rw [if_pos kind] at nested
    have moves := ih nested
    rwa [if_pos (solid.1.resolve_left fun other => other kind)] at moves

end Fits

/-- **A decoder sizes nothing beyond its input exactly when the lengths whose elements are missing
ask for nothing beyond it.** However the decoder ends and in whatever language, the sizes it gave to
sequences are within the number of bytes of the payload if and only if those of the sequences it
could not finish are. It is given the sizes it asks for. -/
theorem sizes_fit_iff (t : Target) (d : MessageMembers) (output : Value) (bytes : List Byte)
    (init : t.Initialises) (takes : ∀ f ∈ d.lengthFields t bytes, t.Takes f)
    (solid : d ≠ .nullptr → d.solid = true) (bound : bytes.length < 2 ^ 63) :
    (∀ b, (deserializeCdrToRos t d output bytes).buffer = some b →
        ∀ n ∈ b.sizes, n ≤ bytes.length - cdrHeaderSize) ↔
      ∀ f ∈ d.lengthFields t bytes, f.complete = false →
        f.count ≤ bytes.length - cdrHeaderSize := by
  unfold MessageMembers.lengthFields at takes ⊢
  by_cases there : d = .nullptr
  · rw [there]
    refine iff_of_true nofun fun f met => ?_
    split at met
    · exact absurd met List.not_mem_nil
    · exact absurd met List.not_mem_nil
  rw [deserializeCdrToRos_eq t there]
  by_cases short : bytes.length < cdrHeaderSize
  · rw [tryDeserialize_short short, if_pos short]
    exact iff_of_true nofun fun f met => absurd met List.not_mem_nil
  rw [if_neg short] at takes ⊢
  have walk := scans_deserialize (P := MessageMember.bounds) init d output
    (.start t.order bytes) (start_valid t.order bound) rfl
  have within : Scan.Within _ _ (d.scan (swapped t.order bytes) t) := scan_within d (solid there)
  have fits := (within (bytes.drop cdrHeaderSize) 0 (Nat.zero_le _)).2
  rw [List.length_drop] at fits
  -- However the walk ends, it has sized a sequence for each length field met.
  obtain ⟨b, buffer, sizes⟩ : ∃ b, (tryDeserialize t.order bytes
      (Des.deserialize t d output)).buffer = some b ∧
      b.sizes = ((d.scan (swapped t.order bytes) t (bytes.drop cdrHeaderSize) 0).items.map
        LengthField.count).reverse := by
    cases run : Des.deserialize t d output (.start t.order bytes) with
    | ok v b =>
      obtain ⟨-, -, met, -⟩ := walk.ok v b run
      rw [tryDeserialize_ok short run]
      exact ⟨b, rfl, met.sizes.trans (List.append_nil _)⟩
    | error e b =>
      have met := (walk.error e b run).resolve_right fun ⟨_, f, met, refuses⟩ =>
        refuses (takes f met)
      rw [tryDeserialize_error short run]
      exact ⟨b, rfl, met.2.2.sizes.trans (List.append_nil _)⟩
  rw [buffer]
  constructor
  · intro within f met _
    refine within b rfl f.count ?_
    rw [sizes]
    exact List.mem_reverse.mpr (List.mem_map_of_mem met)
  · rintro within _ ⟨⟩ n among
    rw [sizes] at among
    obtain ⟨f, met, rfl⟩ := List.mem_map.mp (List.mem_reverse.mp among)
    cases complete : f.complete with
    | true => exact fits f met complete
    | false => exact within f met complete

/-- A message type with a sequence of truth values. -/
def someFlags : MessageMembers :=
  .mk "pkg__msg" "Flags" [.mk "flags" .boolean true 0 false .nullptr]

theorem sizes_fit_iff_sample :
    (∀ b, (deserializeCdrToRos (cTarget .little) someFlags (.message [])
        [0, 1, 0, 0, 2, 0, 0, 0, 1]).buffer = some b → ∀ n ∈ b.sizes, n ≤ 9 - cdrHeaderSize) ↔
      ∀ f ∈ someFlags.lengthFields (cTarget .little) [0, 1, 0, 0, 2, 0, 0, 0, 1],
        f.complete = false → f.count ≤ 9 - cdrHeaderSize :=
  sizes_fit_iff (cTarget .little) someFlags (.message []) [0, 1, 0, 0, 2, 0, 0, 0, 1]
    (fun _ _ => rfl) (by decide) (fun _ => by decide) (by decide)

/-- Four bytes make a receiver ask for two thousand million elements. -/
theorem sizes_overrun :
    let r := deserializeCdrToRos (cTarget .little) someFlags (.message [])
      [0, 1, 0, 0, 0xff, 0xff, 0xff, 0x7f]
    r.ret = .ok false ∧ ∃ b, r.buffer = some b ∧ b.size = 4 ∧ 0x7fffffff ∈ b.sizes :=
  ⟨rfl, _, rfl, rfl, by decide⟩

end Cdr
