import RmwGurumdds.Cdr.Scanning

/-!
# What the containers take

A C++ container that does not take the size in a length field throws what nobody catches. A decoder
is therefore what its walk says exactly where they take them: it returns if and only if every length
field it meets is one they take (`decoder_safe_iff`), and then it returns what the parser of its
type answers (`deserializeCdrToRos_spec`).

A vector takes every size within the bound of its sequence. So do the vectors of a message that was
written, and the reading half of a round trip needs no more (`reads_deserialize`).
-/

namespace Cdr

open Wire Exec

variable {t : Target} {d : MessageMembers} {bytes : List Byte}

/-! ## The length fields met -/

/-- The libraries have the memory they are asked for, and a vector takes every size within the bound
of its sequence. -/
structure Target.Succeeds (t : Target) : Prop where
  c : t.lang = .c → t.runtime.Succeeds
  cxx : t.lang = .cxx → ∀ m n, MessageMember.bounds m n = true → t.runtime.vectorResize m n = none

theorem cTarget_succeeds (o : ByteOrder) : (cTarget o).Succeeds :=
  ⟨fun _ => roomyRuntime_succeeds, nofun⟩

theorem cxxTarget_succeeds (o : ByteOrder) : (cxxTarget o).Succeeds :=
  ⟨nofun, fun _ _ _ within => if_pos (.inr within)⟩

theorem Target.Succeeds.initialises (rt : t.Succeeds) : t.Initialises :=
  fun lang => (rt.c lang).sequenceInit

/-- Every bounded sequence in the message, at any depth, is within its bound. -/
def MessageMembers.bounded (d : MessageMembers) (v : Value) : Bool :=
  d.every (sizeOk MessageMember.bounds) v

/-- In C no container throws. -/
theorem takes_c (lang : t.lang = .c) (f : LengthField) : t.Takes f :=
  fun cxx => nomatch lang.symm.trans cxx

/-- A reader whose containers take what it met has read what was parsed. -/
theorem Gets.readsAt {α : Type} {swap : Bool} {m : Des α} {p : Parser α} {s : Scan LengthField}
    {Q : α → List LengthField → Prop} {b : CdrDeserializationBuffer} (gets : Gets swap m p)
    (scans : Scans swap t m s Q) (valid : b.Valid) (hs : b.swap = swap)
    (takes : ∀ f ∈ (s b.buf b.offset).items, t.Takes f) : ReadsAt m p b := by
  rcases gets b valid hs with reads | ⟨e, c, refused⟩
  · exact reads
  · rcases (scans b valid hs).error _ c refused with ⟨none, -⟩ | ⟨-, f, met, refuses⟩
    · cases none
    · exact absurd (takes f met) refuses

/-! ## Within the bounds -/

section Bounds

/-- The same target, with containers that take every size. -/
def Target.generous (t : Target) : Target :=
  { t with runtime := { t.runtime with vectorResize := fun _ _ => none } }

theorem fieldsScan_generous {swap : Bool} : ∀ ms : List MessageMember,
    (∀ m ∈ ms, m.scan swap t.generous = m.scan swap t) →
    fieldsScan swap t.generous ms = fieldsScan swap t ms
  | [], _ => rfl
  | m :: ms, h => by
    rw [fieldsScan, fieldsScan, h m List.mem_cons_self,
      fieldsScan_generous ms fun m' hm => h m' (List.mem_cons_of_mem _ hm)]

/-- What is met does not depend on what the containers take. -/
theorem scan_generous (swap : Bool) (d : MessageMembers) :
    d.scan swap t.generous = d.scan swap t := by
  induction d using MessageMembers.induct
    (Q := fun m => m.scan swap t.generous = m.scan swap t) with
  | null => rfl
  | mk ns name ms ih => exact fieldsScan_generous ms ih
  | member m ih =>
    rw [MessageMember.scan_eq, MessageMember.scan_eq, ih]
    rfl

/-- **The deserializer reads every message whose sequences are within their bounds**, whatever the
target held. The length fields in front of such a message are within the bounds, too, as a reader
with containers that take everything tells. -/
theorem reads_deserialize {swap : Bool} (rt : t.Succeeds) (readable : d.readable = true)
    (output : Value) :
    ReadsWhere swap (fun v => d.bounded v = true) (Des.deserialize t d output)
      (d.parser swap t.order (slotOf t.lang)) := by
  intro b valid hs v off answer bounded
  have generous : Scans swap t.generous (Des.deserialize t.generous d output) _ _ :=
    scans_deserialize (P := MessageMember.bounds) (t := t.generous) rt.initialises d output
  have init : t.generous.lang = .c → t.generous.runtime.Succeeds := fun lang =>
    ⟨(rt.c lang).sequenceInit, (rt.c lang).stringAssignn, (rt.c lang).wstringResize⟩
  have reads := (gets_deserialize init d readable output).readsAt generous valid hs
    fun f _ _ => rfl
  have answer' : d.parser swap t.generous.order (slotOf t.generous.lang) b.buf b.offset =
      some (v, off) := answer
  rw [ReadsAt, answer'] at reads
  obtain ⟨c, run, -⟩ := reads
  obtain ⟨-, -, -, told⟩ := (generous b valid hs).ok v c run
  have within := (told (.inl readable)).mp bounded
  rw [scan_generous] at within
  exact (gets_deserialize rt.c d readable output).readsAt
    (scans_deserialize (P := MessageMember.bounds) rt.initialises d output) valid hs
    fun f met lang => rt.cxx lang f.member f.count (within f met)

/-- A well-typed message is within its bounds. -/
theorem bounded_of_typed (d : MessageMembers) : ∀ v, d.typed v = true → d.bounded v = true := by
  refine d.typed_induct (P := fun d v => d.bounded v = true)
    (Q := fun m v => m.every (sizeOk MessageMember.bounds) v = true)
    (R := fun ms vs => fieldsEvery (sizeOk MessageMember.bounds) ms vs = true)
    (fun _ _ _ _ fields => fields) rfl (fun m ms v vs first rest => ?_) fun m v typed ih => ?_
  · rw [fieldsEvery, Bool.and_eq_true]
    exact ⟨first, rest⟩
  · rw [MessageMember.every_eq, Bool.and_eq_true]
    by_cases isArray : m.isArray = true
    · obtain ⟨es, rfl, length, each⟩ := MessageMember.typed_array isArray typed
      refine ⟨?_, ?_⟩
      · rw [sizeOk, isArray, Bool.true_and]
        by_cases isSequence : m.isSequence = true
        · rw [MessageMember.lengthTyped, if_pos isSequence] at length
          rw [isSequence]
          exact length
        · rw [Bool.eq_false_iff.mpr isSequence]
          rfl
      · split
        · rename_i message
          rw [Value.elems, List.all_eq_true]
          exact fun e he => ih e (m.typed_nested message (each e he))
        · rfl
    · refine ⟨by rw [sizeOk, Bool.eq_false_iff.mpr isArray]; rfl, ?_⟩
      split
      · rename_i message
        rw [MessageMember.typed_scalar (Bool.eq_false_iff.mpr isArray)] at typed
        exact ih v (m.typed_nested message typed)
      · rfl

/-- Its elements may change, as long as they stay. -/
theorem bounded_map (g : MessageMember → Value → Value) (d : MessageMembers) :
    ∀ v, d.bounded (d.map g v) = d.bounded v := by
  have fields : ∀ (ms : List MessageMember) (vs : List Value),
      (∀ m ∈ ms, ∀ v, m.every (sizeOk MessageMember.bounds) (m.map g v) =
        m.every (sizeOk MessageMember.bounds) v) →
      fieldsEvery (sizeOk MessageMember.bounds) ms (fieldsMap g ms vs) =
        fieldsEvery (sizeOk MessageMember.bounds) ms vs := by
    intro ms
    induction ms with
    | nil => exact fun _ _ => rfl
    | cons m ms ih =>
      intro vs each
      rw [fieldsMap, fieldsEvery, fieldsEvery, List.headD_cons, List.tail_cons,
        each m List.mem_cons_self, ih vs.tail fun m' hm => each m' (List.mem_cons_of_mem _ hm)]
  induction d using MessageMembers.induct (Q := fun m => ∀ v,
      m.every (sizeOk MessageMember.bounds) (m.map g v) =
        m.every (sizeOk MessageMember.bounds) v) with
  | null => exact fun _ => rfl
  | mk ns name ms ih => exact fun v => fields ms v.fields ih
  | member m ih v =>
    rw [MessageMember.map_eq, MessageMember.every_eq, MessageMember.every_eq]
    by_cases isArray : m.isArray = true
    · rw [if_pos isArray, sizeOk, sizeOk, Value.elems, List.length_map]
      congr 1
      split
      · rename_i message
        rw [List.all_map]
        congr 1
        funext e
        rw [Function.comp_apply, MessageMember.mapElement, if_pos message]
        exact ih e
      · rfl
    · rw [if_neg isArray, sizeOk, sizeOk, Bool.eq_false_iff.mpr isArray]
      congr 1
      split
      · rename_i message
        rw [MessageMember.mapElement, if_pos message]
        exact ih v
      · rfl

end Bounds

/-! ## The decoder -/

/-- The message a decoder takes the bytes for, if it takes them for one. -/
def MessageMembers.answer (d : MessageMembers) (t : Target) (bytes : List Byte) : Option Value :=
  payload (d.parser (swapped t.order bytes) t.order (slotOf t.lang)) bytes

/-- **Deserializing a message returns what the parser of its type answers.** -/
theorem deserializeCdrToRos_spec (output : Value) (rt : t.lang = .c → t.runtime.Succeeds)
    (readable : d.readable = true) (bound : bytes.length < 2 ^ 63)
    (takes : ∀ f ∈ d.lengthFields t bytes, t.Takes f) :
    (deserializeCdrToRos t d output bytes).ret = .ok (d.answer t bytes).isSome ∧
      (deserializeCdrToRos t d output bytes).target = d.answer t bytes := by
  have there : d ≠ .nullptr := by
    rintro rfl
    cases readable
  rw [deserializeCdrToRos_eq t there]
  by_cases short : bytes.length < cdrHeaderSize
  · rw [tryDeserialize_short short, MessageMembers.answer, payload, if_pos short]
    exact ⟨rfl, rfl⟩
  rw [MessageMembers.lengthFields, if_neg short] at takes
  refine tryDeserialize_spec ?_
  exact (gets_deserialize rt d readable output).readsAt
    (scans_deserialize (P := MessageMember.bounds) (fun lang => (rt lang).sequenceInit) d output)
    (start_valid t.order bound) rfl takes

/-- A decoder returns exactly if the containers take the sizes it meets. -/
theorem returns_iff_takes (output : Value) (init : t.Initialises)
    (linked : d ≠ .nullptr → d.linked = true) (bound : bytes.length < 2 ^ 63) :
    ((deserializeCdrToRos t d output bytes).ret = .ok true ∨
        (deserializeCdrToRos t d output bytes).ret = .ok false) ↔
      ∀ f ∈ d.lengthFields t bytes, t.Takes f := by
  have ends := decoder_ends t d output linked bound
  unfold MessageMembers.lengthFields
  by_cases there : d = .nullptr
  · rw [there]
    refine iff_of_true (.inr rfl) fun f met => ?_
    split at met
    · exact absurd met List.not_mem_nil
    · exact absurd met List.not_mem_nil
  rw [deserializeCdrToRos_eq t there] at ends ⊢
  by_cases short : bytes.length < cdrHeaderSize
  · rw [tryDeserialize_short short, if_pos short]
    exact iff_of_true (.inr rfl) fun f met => absurd met List.not_mem_nil
  rw [if_neg short]
  have walk := scans_deserialize (P := MessageMember.bounds) init d output (.start t.order bytes)
    (start_valid t.order bound) rfl
  cases run : Des.deserialize t d output (.start t.order bytes) with
  | ok v b =>
    rw [tryDeserialize_ok short run]
    exact iff_of_true (.inl rfl) (walk.ok v b run).2.2.1.takes
  | error e b =>
    rw [tryDeserialize_error short run] at ends ⊢
    rcases walk.error e b run with ⟨caught, -, met⟩ | ⟨container, f, met, refuses⟩
    · refine iff_of_true (ends.imp_right fun ends => ends.resolve_right ?_) met.takes
      rintro ⟨-, c, throws⟩
      rw [caught_container throws] at caught
      cases caught
    · refine iff_of_false (fun returns => ?_) fun takes => refuses (takes f met)
      cases e with
      | container c => rcases returns with whole | fails <;> contradiction
      | _ => cases container

/-- **A decoder ends inside the bytes, and it returns exactly if the containers take the sizes.** In
either language, whatever the runtime library answers and whatever the sizes in the description, it
reads inside the bytes at every step; it returns true or false if and only if no container throws at
one of the length fields it meets. -/
theorem decoder_safe_iff (t : Target) (d : MessageMembers) (output : Value) (bytes : List Byte)
    (linked : d ≠ .nullptr → d.linked = true) (bound : bytes.length < 2 ^ 63) :
    (deserializeCdrToRos t d output bytes).Inside bytes ∧
      ((deserializeCdrToRos t d output bytes).Sound bytes ↔
        ∀ f ∈ d.lengthFields t bytes, t.Takes f) := by
  have inside := decoder_inside t d output linked bound
  cases lang : t.lang with
  | c =>
    have returns := (decoder_ends t d output linked bound).imp_right fun ends =>
      ends.resolve_right fun throws => nomatch lang.symm.trans throws.1
    exact ⟨inside, fun _ f _ => takes_c lang f, fun _ => ⟨inside, returns⟩⟩
  | cxx =>
    have init : t.Initialises := fun c => nomatch lang.symm.trans c
    have returns := returns_iff_takes output init linked bound
    exact ⟨inside, fun sound => returns.mp sound.returns, fun takes => ⟨inside, returns.mpr takes⟩⟩

/-- A message type with a sequence of at most two bytes. -/
def boundedBytes : MessageMembers :=
  .mk "pkg__msg" "Bounded" [.mk "data" .uint8 true 2 true .nullptr]

theorem decoder_safe_iff_sample :
    (deserializeCdrToRos (cxxTarget .big) sampleMembers (.message [])
        [0, 1, 0, 0, 1, 0, 0, 0, 0xff, 0xff, 0xff, 0xff]).Inside
        [0, 1, 0, 0, 1, 0, 0, 0, 0xff, 0xff, 0xff, 0xff] ∧
      ((deserializeCdrToRos (cxxTarget .big) sampleMembers (.message [])
          [0, 1, 0, 0, 1, 0, 0, 0, 0xff, 0xff, 0xff, 0xff]).Sound
          [0, 1, 0, 0, 1, 0, 0, 0, 0xff, 0xff, 0xff, 0xff] ↔
        ∀ f ∈ sampleMembers.lengthFields (cxxTarget .big)
            [0, 1, 0, 0, 1, 0, 0, 0, 0xff, 0xff, 0xff, 0xff],
          (cxxTarget .big).Takes f) :=
  decoder_safe_iff (cxxTarget .big) sampleMembers (.message []) _ (fun _ => by decide) (by decide)

/-- Three bytes where two are allowed: the vector throws, and the decoder does not return. -/
theorem decoder_throws :
    ¬ (deserializeCdrToRos (cxxTarget .little) boundedBytes (.message [.array []])
      [0, 1, 0, 0, 3, 0, 0, 0, 7, 8, 9]).Sound [0, 1, 0, 0, 3, 0, 0, 0, 7, 8, 9] := by
  have throws : (deserializeCdrToRos (cxxTarget .little) boundedBytes (.message [.array []])
      [0, 1, 0, 0, 3, 0, 0, 0, 7, 8, 9]).ret = .error (.container .lengthError) := rfl
  intro sound
  rcases sound.returns with whole | fails
  · cases throws.symm.trans whole
  · cases throws.symm.trans fails

end Cdr
