import RmwGurumdds.Cdr.Containers

/-!
# What the decoder passes over

The writer raises a `std::logic_error` at a member it does not handle. The reader has an empty
branch there and goes on with the next member. The **strict** reader is the same walk with the
writer's branch, and tells whether the reader comes upon such a member in these bytes
(`MessageMembers.Reaches`).

Which members a reader comes upon is a matter of the bytes: of what the sequences in front of a
member have for a length, and of where the bytes end. `MessageMembers.meets` says it of the bytes
alone, along the scan of the description, and `reaches_iff` that it says the same.
-/

namespace Cdr

open Wire Exec

/-! ## The strict walk -/

namespace Des

/-- `deserializeMember`, with the writer's branch for a type that is not handled. -/
def strictMember (t : Target) (nested : Value → Des Value) (member : MessageMember)
    (output : Value) : Des Value :=
  if member.kind = .unsupported then throw (.logicError "This should not be rechable")
  else deserializeMember t nested member output

mutual

/-- `deserialize` with that branch. -/
def strict (t : Target) : MessageMembers → Value → Des Value
  | .nullptr, _ => throw .outOfBounds
  | .mk _ _ ms, output => do
    let fields ← strictFields t ms output.fields
    return .message fields

def strictFields (t : Target) : List MessageMember → List Value → Des (List Value)
  | [], _ => pure []
  | .mk name typeId isArray arraySize isUpperBound members :: ms, outputs => do
    let field ← strictMember t (strict t members)
      (.mk name typeId isArray arraySize isUpperBound members) (outputs.headD default)
    let fields ← strictFields t ms outputs.tail
    return field :: fields

end

end Des

/-- The decoder's walk over these bytes reaches a member it does not handle. -/
def MessageMembers.Reaches (d : MessageMembers) (t : Target) (output : Value)
    (bytes : List Byte) : Prop :=
  ∃ what, (tryDeserialize t.order bytes (Des.strict t d output)).ret = .error (.logicError what)

/-! ## Meeting a member -/

/-- Whether something is met from a position in the bytes on. -/
abbrev Meeting := List Byte → Nat → Bool

namespace Meeting

def never : Meeting := fun _ _ => false

/-- Met at once, or behind where the scan stops. -/
def behind (p : Meeting) (s : Scan LengthField) (q : Meeting) : Meeting := fun bs off =>
  p bs off || match (s bs off).next with
    | none => false
    | some mid => q bs mid

/-- Met in one of so many elements. -/
def among (p : Meeting) (s : Scan LengthField) : Nat → Meeting
  | 0 => never
  | n + 1 => p.behind s (among p s n)

/-- Met in the elements that a length announces. -/
def counted (p : Meeting) (s : Scan LengthField) (length : Parser Nat) : Meeting := fun bs off =>
  match length bs off with
  | none => false
  | some (n, mid) => p.among s n bs mid

end Meeting

section Meets

variable (swap : Bool) (t : Target)

/-- What is met in a member whose elements are messages. -/
def Target.meets (member : MessageMember) (p : Meeting) (s : Scan LengthField) : Meeting :=
  if member.isArray then
    if member.isSequence then p.counted s (lengthParser swap t)
    else p.among s (uint32T member.arraySize)
  else p

mutual

/-- From this position on, a member that is not handled is met. -/
def MessageMembers.meets : MessageMembers → Meeting
  | .nullptr => .never
  | .mk _ _ ms => fieldsMeet ms

def fieldsMeet : List MessageMember → Meeting
  | [] => .never
  | m :: ms => m.meets.behind (m.scan swap t) (fieldsMeet ms)

def MessageMember.meets : MessageMember → Meeting
  | .mk name typeId isArray arraySize isUpperBound members =>
    match typeId.kind with
    | .unsupported => fun _ _ => true
    | .message =>
      t.meets swap (.mk name typeId isArray arraySize isUpperBound members) members.meets
        (members.scan swap t)
    | _ => .never

end

end Meets

/-! ## The refinement -/

/-- A `std::logic_error`. -/
def Exn.isLogic : Exn → Bool
  | .logicError _ => true
  | _ => false

/-- From the state `b`, `m` raises a logic error where `p` meets something, and goes the way of `s`
where it does not; or a container does not take a length that `s` meets. -/
structure MeetsAt {α : Type} (t : Target) (m : Des α) (s : Scan LengthField) (p : Meeting)
    (b : CdrDeserializationBuffer) : Prop where
  ok : ∀ a c, m b = .ok a c →
    b.Later c ∧ (s b.buf b.offset).next = some c.offset ∧ p b.buf b.offset = false
  error : ∀ e c, m b = .error e c →
    p b.buf b.offset = e.isLogic ∧ (e.isLogic = false → (s b.buf b.offset).next = none) ∨
      ∃ f ∈ (s b.buf b.offset).items, ¬ t.Takes f

/-- The same, on every buffer of this byte order. -/
def Meets {α : Type} (swap : Bool) (t : Target) (m : Des α) (s : Scan LengthField)
    (p : Meeting) : Prop :=
  ∀ b : CdrDeserializationBuffer, b.Valid → b.swap = swap → MeetsAt t m s p b

section Rules

variable {α β : Type} {swap : Bool} {t : Target} {m : Des α} {s s' : Scan LengthField}
  {p q : Meeting}

/-- A reader that goes the way of a scan, and raises no logic error, meets nothing. -/
theorem Meets.of_scans {Q : α → List LengthField → Prop} {thrown : Prop} (h : Scans swap t m s Q)
    (safe : Safe thrown 0 m) : Meets swap t m s .never := by
  intro b valid hs
  refine ⟨fun a c run => ?_, fun e c run => ?_⟩
  · obtain ⟨later, stops, -⟩ := (h b valid hs).ok a c run
    exact ⟨later, stops, rfl⟩
  · rcases (h b valid hs).error e c run with ⟨caught, stuck, -⟩ | ⟨-, refused⟩
    · obtain ⟨-, -, ⟨what, rfl⟩ | ⟨-, _, rfl⟩⟩ :=
        (safe b.buf 0).error (s := b) ⟨valid, rfl, Nat.zero_le _⟩ run
      · exact .inl ⟨rfl, fun _ => stuck⟩
      · cases caught
    · exact .inr refused

theorem Meets.pure (a : α) : Meets swap t (Pure.pure a : Des α) (.skip (Pure.pure () : Parser Unit))
    .never := .of_scans (.pure a) (show Safe False 0 _ from .pure a)

/-- What is met behind is met where what came before returned. -/
theorem Meets.bind {k : α → Des β} (h : Meets swap t m s p) (hk : ∀ a, Meets swap t (k a) s' q) :
    Meets swap t (m >>= k) (s.andThen s') (p.behind s q) := by
  intro b valid hs
  have first := h b valid hs
  cases run : m b with
  | error e c =>
    refine ⟨fun x d whole => ?_, fun e' d whole => ?_⟩
    · cases (bind_error run).symm.trans whole
    · cases (bind_error run).symm.trans whole
      rcases first.error e c run with ⟨met, stuck⟩ | ⟨f, among, refuses⟩
      · rw [Meeting.behind, met]
        cases logic : e.isLogic with
        | true => exact .inl ⟨rfl, fun h => absurd h.symm Bool.false_ne_true⟩
        | false =>
          have stuck := stuck logic
          rw [Scan.andThen_none stuck, stuck]
          exact .inl ⟨rfl, fun _ => rfl⟩
      · exact .inr ⟨f, Scan.mem_andThen_left among, refuses⟩
  | ok a c =>
    obtain ⟨later, stops, missed⟩ := first.ok a c run
    have second := hk a c later.valid (later.swap_eq.trans hs)
    have after : p.behind s q b.buf b.offset = q b.buf c.offset := by
      rw [Meeting.behind, missed, stops]
      rfl
    refine ⟨fun x d whole => ?_, fun e d whole => ?_⟩
    · rw [bind_ok run] at whole
      obtain ⟨later', stops', missed'⟩ := second.ok x d whole
      rw [later.buf_eq] at stops' missed'
      rw [Scan.andThen_some stops, after]
      exact ⟨later.trans later', stops', missed'⟩
    · rw [bind_ok run] at whole
      have ends := second.error e d whole
      rw [later.buf_eq] at ends
      rw [Scan.andThen_some stops, after]
      exact ends.imp_right fun ⟨f, among, refuses⟩ =>
        ⟨f, List.mem_append_right _ among, refuses⟩

/-- A reader that makes something of what it read. -/
theorem Meets.map (g : α → β) (h : Meets swap t m s p) : Meets swap t (do return g (← m)) s p := by
  intro b valid hs
  refine ⟨fun x d whole => ?_, fun e d whole => ?_⟩
  · obtain ⟨a, c, run, done⟩ := bind_eq_ok.mp whole
    cases done
    exact (h b valid hs).ok a d run
  · cases run : m b with
    | ok a c => cases (bind_ok run).symm.trans whole
    | error e' c =>
      cases (bind_error run).symm.trans whole
      exact (h b valid hs).error e d run

/-- A loop meets what one of its rounds meets. -/
theorem Meets.loop {body : Nat → Des α} (h : ∀ i, Meets swap t (body i) s p) :
    ∀ rounds i, Meets swap t (loop body rounds i) (.times rounds s) (p.among s rounds)
  | 0, _ => .pure []
  | rounds + 1, i => (h i).bind fun a => (Meets.loop h rounds (i + 1)).map (a :: ·)

theorem Meets.for32 {body : Nat → Des α} {n : Nat} (small : n < 2 ^ 32)
    (h : ∀ i, Meets swap t (body i) s p) :
    Meets swap t (Des.for32 n body) (.times n s) (p.among s n) := by
  rw [Des.for32_eq_loop small]
  exact Meets.loop h n 0

variable {length : MessageMember}

/-- What a length announces. -/
theorem Meets.counted {k : Nat → Des β}
    (h : ∀ n, n < 2 ^ 32 → Meets swap t (k n) (.times n s) (p.among s n)) :
    Meets swap t (do let n ← Des.sequenceSize t; Des.resize t length n; k n)
      (.counted (lengthParser swap t) (LengthField.mk length) fun n => .times n s)
      (p.counted s (lengthParser swap t)) := by
  intro b valid hs
  have run : ReadsAt (Des.sequenceSize t) (lengthParser swap t) b :=
    reads_sequenceSize swap t b valid hs
  unfold ReadsAt at run
  cases answer : lengthParser swap t b.buf b.offset with
  | none =>
    rw [answer] at run
    obtain ⟨what, c, fails, -⟩ := run
    refine ⟨fun x d whole => ?_, fun e d whole => ?_⟩
    · cases (bind_error fails).symm.trans whole
    · cases (bind_error fails).symm.trans whole
      rw [Meeting.counted, Scan.counted, answer]
      exact .inl ⟨rfl, fun _ => rfl⟩
  | some r =>
    obtain ⟨n, mid⟩ := r
    rw [answer] at run
    obtain ⟨c, returns, later, rfl⟩ := run
    by_cases takes : t.Takes ⟨length, n, true⟩
    · have rest := h n (lengthParser_lt answer) c later.valid (later.swap_eq.trans hs)
      refine ⟨fun x d whole => ?_, fun e d whole => ?_⟩
      · rw [bind_ok returns, resize_takes takes, pure_bind] at whole
        obtain ⟨later', stops, missed⟩ := rest.ok x d whole
        rw [later.buf_eq] at stops missed
        rw [Meeting.counted, Scan.counted, answer]
        exact ⟨later.trans later', stops, missed⟩
      · rw [bind_ok returns, resize_takes takes, pure_bind] at whole
        have ends := rest.error e d whole
        rw [later.buf_eq] at ends
        rw [Meeting.counted, Scan.counted, answer]
        refine ends.imp_right ?_
        rintro ⟨f, among, refuses⟩
        exact ⟨f, List.mem_cons_of_mem _ among, refuses⟩
    · obtain ⟨e, throws⟩ := resize_refuses takes
      refine ⟨fun x d whole => ?_, fun e' d whole => ?_⟩
      · rw [bind_ok returns, bind_error (throws c)] at whole
        cases whole
      · rw [Scan.counted, answer]
        exact .inr ⟨_, List.mem_cons_self, takes⟩

end Rules

/-! ## The walk meets what it reaches -/

section Walk

variable {swap : Bool} {t : Target}

theorem MessageMember.meets_eq (m : MessageMember) :
    m.meets swap t = match m.kind with
      | .unsupported => fun _ _ => true
      | .message => t.meets swap m (m.members.meets swap t) (m.members.scan swap t)
      | _ => .never := by
  cases m
  rfl

/-- A member that holds no messages meets nothing. -/
theorem meets_plain (init : t.Initialises) {m : MessageMember} (known : m.kind ≠ .unsupported)
    (plain : m.kind ≠ .message) (nested : Value → Des Value) (output : Value) :
    Meets swap t (Des.strictMember t nested m output) (m.scan swap t) .never := by
  have walk : Scans swap t (Des.deserializeMember t (Des.deserialize t m.members) m output) _ _ :=
    scans_deserializeMember (P := fun _ _ => true) init (scans_deserialize init m.members)
  have same : Des.strictMember t nested m output =
      Des.deserializeMember t (Des.deserialize t m.members) m output := by
    rw [Des.strictMember, if_neg known]
    unfold Des.deserializeMember
    cases kind : m.kind with
    | message => exact absurd kind plain
    | _ => rfl
  rw [same]
  exact .of_scans walk (safe_judgement.deserializeMember t m output (safe_resize t m) fun kind =>
    absurd kind plain)

theorem meets_readStructArr (init : t.Initialises) {m : MessageMember} (kind : m.kind = .message)
    {nested : Value → Des Value} {p : Meeting} (output : Value)
    (h : ∀ e, Meets swap t (nested e) (m.members.scan swap t) p) :
    Meets swap t (Des.readStructArr t nested m output) (t.memberScan swap m (m.members.scan swap t))
      (t.meets swap m p (m.members.scan swap t)) := by
  have known : m.kind ≠ .unsupported := by rw [kind]; exact Kind.noConfusion
  rw [Target.memberScan, if_neg known]
  unfold Des.readStructArr Target.meets
  by_cases isArray : m.isArray = true
  · rw [if_pos isArray, if_pos isArray, if_pos isArray]
    by_cases isSequence : m.isSequence = true
    · rw [if_pos isSequence, if_pos isSequence, if_pos isSequence]
      refine Meets.counted fun n small => ?_
      dsimp only
      rw [init.length, uint32T_of_lt small]
      exact (Meets.for32 small fun i => h _).map Value.array
    · have rounds : t.fixedRounds m = some (uint32T m.arraySize) := by
        rw [Target.fixedRounds, kind]
      rw [if_neg isSequence, if_neg isSequence, if_neg isSequence, Target.fixedScan, rounds]
      exact (Meets.for32 (uint32T_lt _) fun i => h _).map (m.overwrite output)
  · rw [if_neg isArray, if_neg isArray, if_neg isArray]
    exact h output

theorem meets_strictFields : ∀ (ms : List MessageMember) (outputs : List Value),
    (∀ m ∈ ms, ∀ output, Meets swap t (Des.strictMember t (Des.strict t m.members) m output)
      (m.scan swap t) (m.meets swap t)) →
    Meets swap t (Des.strictFields t ms outputs) (fieldsScan swap t ms) (fieldsMeet swap t ms)
  | [], _, _ => .pure []
  | m :: ms, outputs, h => by
    have first := h m List.mem_cons_self (outputs.headD default)
    have rest := meets_strictFields ms outputs.tail fun m' hm => h m' (.tail _ hm)
    cases m
    exact first.bind fun field => rest.map (field :: ·)

/-- **The strict walk raises exactly where something is met.** -/
theorem meets_strict (init : t.Initialises) (d : MessageMembers) : ∀ output,
    Meets swap t (Des.strict t d output) (d.scan swap t) (d.meets swap t) := by
  induction d using MessageMembers.induct (Q := fun m => ∀ output,
      Meets swap t (Des.strictMember t (Des.strict t m.members) m output) (m.scan swap t)
        (m.meets swap t)) with
  | null =>
    refine fun output b valid hs => ⟨fun a c run => ?_, fun e c run => ?_⟩
    · cases run
    · cases run
      exact .inl ⟨rfl, fun _ => rfl⟩
  | mk ns name ms ih =>
    exact fun output => (meets_strictFields ms output.fields ih).map Value.message
  | member m ih output =>
    by_cases known : m.kind = .unsupported
    · rw [Des.strictMember, if_pos known, MessageMember.meets_eq, known]
      refine fun b valid hs => ⟨fun a c run => ?_, fun e c run => ?_⟩
      · cases run
      · cases run
        exact .inl ⟨rfl, fun h => absurd h.symm Bool.false_ne_true⟩
    · by_cases message : m.kind = .message
      · rw [Des.strictMember, if_neg known, MessageMember.meets_eq, MessageMember.scan_eq, message]
        unfold Des.deserializeMember
        rw [message]
        exact meets_readStructArr init message output ih
      · have plain : Meets swap t (Des.strictMember t (Des.strict t m.members) m output) _ _ :=
          meets_plain init known message _ output
        rw [MessageMember.meets_eq]
        cases kind : m.kind with
        | unsupported => exact absurd kind known
        | message => exact absurd kind message
        | _ => exact plain

end Walk

/-- The bytes reach a member that is not handled, behind their header. -/
def MessageMembers.met (t : Target) (d : MessageMembers) (bytes : List Byte) : Bool :=
  !decide (bytes.length < cdrHeaderSize) &&
    d.meets (swapped t.order bytes) t (bytes.drop cdrHeaderSize) 0

/-- The bytes do not end before the message does. -/
def MessageMembers.whole (t : Target) (d : MessageMembers) (bytes : List Byte) : Bool :=
  !decide (bytes.length < cdrHeaderSize) &&
    (d.scan (swapped t.order bytes) t (bytes.drop cdrHeaderSize) 0).next.isSome

section Entry

variable {t : Target} {d : MessageMembers} {output : Value} {bytes : List Byte}

/-- A logic error is not caught, and nothing else looks like one. -/
theorem caught_logic_iff (message : String) (e : Exn) :
    (∃ what, (caught message e).1 = .error (.logicError what)) ↔ e.isLogic = true := by
  cases e with
  | logicError what => exact iff_of_true ⟨what, rfl⟩ rfl
  | _ => exact iff_of_false (fun ⟨_, h⟩ => by cases h) Bool.false_ne_true

/-- **The decoder reaches what is met in the bytes**, if the containers take the sizes in them. -/
theorem reaches_iff (init : t.Initialises) (bound : bytes.length < 2 ^ 63)
    (takes : ∀ f ∈ d.lengthFields t bytes, t.Takes f) :
    d.Reaches t output bytes ↔ d.met t bytes = true := by
  unfold MessageMembers.Reaches MessageMembers.met
  by_cases short : bytes.length < cdrHeaderSize
  · rw [tryDeserialize_short short, decide_eq_true short]
    refine iff_of_false ?_ Bool.false_ne_true
    rintro ⟨_, thrown⟩
    cases thrown
  rw [decide_eq_false short, Bool.not_false, Bool.true_and]
  rw [MessageMembers.lengthFields, if_neg short] at takes
  have walk := meets_strict init d output (.start t.order bytes) (start_valid t.order bound) rfl
  cases run : Des.strict t d output (.start t.order bytes) with
  | ok v b =>
    have missed : d.meets (swapped t.order bytes) t (bytes.drop cdrHeaderSize) 0 = false :=
      (walk.ok v b run).2.2
    rw [tryDeserialize_ok short run, missed]
    refine iff_of_false ?_ Bool.false_ne_true
    rintro ⟨_, thrown⟩
    cases thrown
  | error e b =>
    have met : d.meets (swapped t.order bytes) t (bytes.drop cdrHeaderSize) 0 = e.isLogic := by
      rcases walk.error e b run with ⟨met, -⟩ | ⟨f, among, refuses⟩
      · exact met
      · exact absurd (takes f among) refuses
    rw [tryDeserialize_error short run, met]
    exact caught_logic_iff _ e

/-- It returns true then exactly if the bytes do not end before the message does. -/
theorem deserializeCdrToRos_true_iff (init : t.Initialises) (bound : bytes.length < 2 ^ 63)
    (takes : ∀ f ∈ d.lengthFields t bytes, t.Takes f) :
    (deserializeCdrToRos t d output bytes).ret = .ok true ↔ d.whole t bytes = true := by
  unfold MessageMembers.whole
  by_cases there : d = .nullptr
  · rw [there]
    refine iff_of_false (fun h => by cases h) fun h => ?_
    exact Bool.false_ne_true (Bool.and_eq_true_iff.mp h).2
  rw [deserializeCdrToRos_eq t there]
  by_cases short : bytes.length < cdrHeaderSize
  · rw [tryDeserialize_short short, decide_eq_true short]
    exact iff_of_false (fun h => by cases h) Bool.false_ne_true
  rw [decide_eq_false short, Bool.not_false, Bool.true_and]
  rw [MessageMembers.lengthFields, if_neg short] at takes
  have walk := scans_deserialize (P := fun _ _ => true) init d output (.start t.order bytes)
    (start_valid t.order bound) rfl
  cases run : Des.deserialize t d output (.start t.order bytes) with
  | ok v b =>
    have stops : (d.scan (swapped t.order bytes) t (bytes.drop cdrHeaderSize) 0).next =
      some b.offset := (walk.ok v b run).2.1
    rw [tryDeserialize_ok short run, stops]
    exact iff_of_true rfl rfl
  | error e b =>
    have stuck : (d.scan (swapped t.order bytes) t (bytes.drop cdrHeaderSize) 0).next = none := by
      rcases walk.error e b run with ⟨-, stuck, -⟩ | ⟨-, f, among, refuses⟩
      · exact stuck
      · exact absurd (takes f among) refuses
    rw [tryDeserialize_error short run, stuck]
    exact iff_of_false (caught_ne_true _ _) Bool.false_ne_true

end Entry

end Cdr
