import RmwGurumdds.Cdr.LengthFields

/-!
# The decoder follows the length fields

The deserializer goes the way of the scan of its description, reader by reader: on every byte
string, for every description, in both languages and however it ends, it sizes its sequences by the
length fields the scan meets. In C++ the container of one of them may throw, and then the decoder
ends there.

Where it returns, the value shows it: whatever is asked of the sizes of sequences (`P`) holds of the
message exactly when it holds of the length fields. Parts of the target a decoder does not write, as
it passes over types it does not know and cuts the size of a very large fixed array, have to satisfy
`P` beforehand.
-/

namespace Cdr

open Wire Exec

/-! ## Pieces -/

/-- The C runtime initialises a sequence to the length it is asked for. -/
def Target.Initialises (t : Target) : Prop := t.lang = .c → ∀ n, t.runtime.sequenceInit n = true

/-- What the length fields met have to do with the value of a member that holds no messages: a
sequence has met its own. -/
def MessageMember.Plain (m : MessageMember) (v : Value) (fs : List LengthField) : Prop :=
  if m.isArray = true ∧ m.isSequence = true then fs = [⟨m, v.elems.length, true⟩] else fs = []

section Pieces

variable {swap : Bool} {t : Target} {m : MessageMember} {element : Scan LengthField}

theorem resize_c (lang : t.lang = .c) (n : Nat) : Des.resize t m n = Pure.pure () := by
  rw [Des.resize, lang]

theorem Target.Initialises.eq_pure (init : t.Initialises) (lang : t.lang = .c) (n : Nat) :
    Des.sequenceInit t n = Pure.pure () := if_pos (init lang n)

/-- `resize_function` leaves as many elements as it is asked for. -/
theorem Target.Initialises.length (init : t.Initialises) (n : Nat) (old : List Value) :
    (t.resizeFunction m n old).length = n := by
  unfold Target.resizeFunction
  cases lang : t.lang with
  | c => simp [init lang n]
  | cxx => simp

/-- A container that takes the size is resized. -/
theorem resize_takes {n : Nat} {there : Bool} (takes : t.Takes ⟨m, n, there⟩) :
    Des.resize t m n = Pure.pure () := by
  unfold Des.resize
  cases lang : t.lang with
  | c => rfl
  | cxx =>
    have answer : t.runtime.vectorResize m n = none := takes lang
    simp only [answer]

/-- A container that does not take it throws. -/
theorem resize_refuses {n : Nat} {there : Bool} (refuses : ¬ t.Takes ⟨m, n, there⟩) :
    ∃ e, ∀ b, Des.resize t m n b = .error (.container e) b := by
  unfold Target.Takes at refuses
  rw [Classical.not_imp] at refuses
  obtain ⟨lang, throws⟩ := refuses
  obtain ⟨e, answer⟩ := Option.ne_none_iff_exists'.mp throws
  refine ⟨e, fun b => ?_⟩
  simp only [Des.resize, lang, answer]
  rfl

/-- A length is one a `uint32_t` holds. -/
theorem lengthParser_lt {bs : List Byte} {off n mid : Nat}
    (h : lengthParser swap t bs off = some (n, mid)) : n < 2 ^ 32 := by
  rw [lengthParser, Parser.map_run] at h
  obtain ⟨⟨size, last⟩, -, same⟩ := Option.map_eq_some_iff.mp h
  cases same
  exact size.isLt

/-- The size that is read is noted. -/
theorem sizes_sequenceSize {b c : CdrDeserializationBuffer} {n : Nat}
    (returns : Des.sequenceSize t b = .ok n c) : c.sizes = n :: b.sizes := by
  obtain ⟨size, mid, word, rest⟩ := of_bind_ok returns
  obtain ⟨_, _, noted, last⟩ := of_bind_ok rest
  cases noted
  cases last
  exact congrArg (size.toNat :: ·) ((sizeless_word .uint32 _).ok rfl word)

/-- None is noted that cannot be read. -/
theorem sizes_sequenceSize_error {b c : CdrDeserializationBuffer} {e : Exn}
    (fails : Des.sequenceSize t b = .error e c) : c.sizes = b.sizes := by
  unfold Des.sequenceSize at fails
  cases word : Des.word t.order .uint32 b with
  | ok size mid =>
    rw [bind_ok word] at fails
    cases fails
  | error e mid =>
    rw [bind_error word] at fails
    cases fails
    exact (sizeless_word .uint32 _).error rfl word

/-- A length, and what it is the length of. -/
theorem scans_sequence {k : Nat → Des Value} {run : Nat → Scan LengthField}
    {R : Value → List LengthField → Prop}
    (h : ∀ n, n < 2 ^ 32 → Scans swap t (k n) (run n) fun v fs => R v (⟨m, n, true⟩ :: fs)) :
    Scans swap t (do let n ← Des.sequenceSize t; Des.resize t m n; k n)
      (.counted (lengthParser swap t) (LengthField.mk m) run) R := by
  intro b valid hs
  have read : ReadsAt (Des.sequenceSize t) (lengthParser swap t) b :=
    reads_sequenceSize swap t b valid hs
  unfold ReadsAt at read
  cases answer : lengthParser swap t b.buf b.offset with
  | none =>
    rw [answer] at read
    obtain ⟨what, c, fails, -⟩ := read
    refine ⟨fun v d ends => ?_, fun e d ends => ?_⟩
    · cases (bind_error fails).symm.trans ends
    · cases (bind_error fails).symm.trans ends
      rw [Scan.counted, answer]
      exact .inl ⟨rfl, rfl, .none (sizes_sequenceSize_error fails)⟩
  | some r =>
    obtain ⟨n, mid⟩ := r
    rw [answer] at read
    obtain ⟨c, returns, later, rfl⟩ := read
    by_cases takes : t.Takes ⟨m, n, true⟩
    · have met : ∀ there, b.Met t c [⟨m, n, there⟩] := fun _ =>
        ⟨sizes_sequenceSize returns, List.forall_mem_singleton.mpr takes⟩
      have rest := h n (lengthParser_lt answer) c later.valid (later.swap_eq.trans hs)
      refine ⟨fun v d ends => ?_, fun e d ends => ?_⟩
      · rw [bind_ok returns, resize_takes takes, pure_bind] at ends
        obtain ⟨later', stops, met', r⟩ := rest.ok v d ends
        rw [later.buf_eq] at stops met' r
        rw [Scan.counted, answer]
        dsimp only
        rw [stops]
        exact ⟨later.trans later', rfl, (met _).append met', r⟩
      · rw [bind_ok returns, resize_takes takes, pure_bind] at ends
        have ends := rest.error e d ends
        rw [later.buf_eq] at ends
        rw [Scan.counted, answer]
        rcases ends with ⟨caught, stuck, met'⟩ | ⟨container, f, met', refused⟩
        · exact .inl ⟨caught, stuck, (met _).append met'⟩
        · exact .inr ⟨container, f, List.mem_cons_of_mem _ met', refused⟩
    · obtain ⟨e, throws⟩ := resize_refuses takes
      refine ⟨fun v d ends => ?_, fun e' d ends => ?_⟩
      · rw [bind_ok returns, bind_error (throws c)] at ends
        cases ends
      · rw [bind_ok returns, bind_error (throws c)] at ends
        cases ends
        rw [Scan.counted, answer]
        exact .inr ⟨rfl, _, List.mem_cons_self, takes⟩

/-- Elements in a loop whose counter gets there. -/
theorem scans_elements {body : Nat → Des Value} {n : Nat} (small : n < 2 ^ 32)
    (h : ∀ i, Scans swap t (body i) element fun _ fs => fs = []) :
    Scans swap t (Des.for32 n body) (.times n element) fun vs fs => vs.length = n ∧ fs = [] := by
  rw [Des.for32_eq_loop small]
  exact Scans.loop h rfl (fun _ _ _ _ _ none none' => by rw [none, none']; rfl) n 0

/-- A fixed array whose loop compares with its size. -/
theorem scans_fixed {body : Nat → Des Value}
    (rounds : t.fixedRounds m = if m.arraySize < 2 ^ 32 then some m.arraySize else none)
    (h : ∀ i, Scans swap t (body i) element fun _ fs => fs = [])
    (sizeless : ∀ i, Sizeless (body i)) (safe : ∀ i, Safe False 1 (body i)) :
    Scans swap t (Des.for32 m.arraySize body) (t.fixedScan m element) fun _ fs => fs = [] := by
  rw [Target.fixedScan, rounds]
  by_cases small : m.arraySize < 2 ^ 32
  · rw [if_pos small]
    exact (scans_elements small h).weaken fun _ _ q => q.2
  · rw [if_neg small]
    refine .stuck (fun b vs c run => ?_) (sizeless_for32 _ sizeless) (.for32 _ safe)
    rw [Des.for32, bind_ok (get_run b), counted, if_neg small] at run
    exact spin_ne_ok _ _ _ run

theorem plain_scalar {x : Des Value} (known : m.kind ≠ .unsupported) (scalar : ¬ m.isArray = true)
    (h : Scans swap t x element fun _ fs => fs = []) :
    Scans swap t x (t.memberScan swap m element) m.Plain := by
  rw [Target.memberScan, if_neg known, if_neg scalar]
  refine h.weaken fun v fs none => ?_
  rw [MessageMember.Plain, if_neg fun both => scalar both.1, none]

theorem plain_sequence {k : Nat → Des (List Value)} (known : m.kind ≠ .unsupported)
    (isArray : m.isArray = true) (isSequence : m.isSequence = true)
    (h : ∀ n, n < 2 ^ 32 → Scans swap t (k n) (.times n element) fun vs fs =>
      vs.length = n ∧ fs = []) :
    Scans swap t (do let n ← Des.sequenceSize t; Des.resize t m n; return .array (← k n))
      (t.memberScan swap m element) m.Plain := by
  rw [Target.memberScan, if_neg known, if_pos isArray, if_pos isSequence]
  refine scans_sequence fun n small => Scans.map Value.array ((h n small).weaken ?_)
  rintro vs fs ⟨rfl, rfl⟩
  rw [MessageMember.Plain, if_pos ⟨isArray, isSequence⟩]
  rfl

theorem plain_fixed {x : Des (List Value)} (g : List Value → Value) (known : m.kind ≠ .unsupported)
    (isArray : m.isArray = true) (fixed : ¬ m.isSequence = true)
    (h : Scans swap t x (t.fixedScan m element) fun _ fs => fs = []) :
    Scans swap t (do return g (← x)) (t.memberScan swap m element) m.Plain := by
  rw [Target.memberScan, if_neg known, if_pos isArray, if_neg fixed]
  refine Scans.map g (h.weaken fun vs fs none => ?_)
  rw [MessageMember.Plain, if_neg fun both => fixed both.2, none]

end Pieces

/-! ## One reader for each kind of member -/

section Readers

variable {swap : Bool} {t : Target} {m : MessageMember} {output : Value}

theorem scans_boolean (swap : Bool) (t : Target) :
    Scans swap t (Des.boolean t) (.skip (Parser.word t.order .uint8)) fun _ fs => fs = [] :=
  .skips (reads_boolean swap t) ((sizeless_word .uint8).bind fun _ => .pure)
    (by rw [Scan.skip_map, Scan.skip_map])

theorem scans_wchar (swap : Bool) (t : Target) :
    Scans swap t (Des.wchar t) (.skip (Parser.word t.order .uint16)) fun _ fs => fs = [] :=
  .skips (reads_wchar swap t) ((sizeless_word .uint16).bind fun _ => .pure)
    (by rw [Scan.skip_map, Scan.skip_map])

theorem scans_readBoolean (init : t.Initialises) (kind : m.kind = .boolean) :
    Scans swap t (Des.readBoolean t m output)
      (t.memberScan swap m (.skip (Parser.word t.order .uint8))) m.Plain := by
  have known : m.kind ≠ .unsupported := by rw [kind]; exact nofun
  have rounds : t.fixedRounds m = if m.arraySize < 2 ^ 32 then some m.arraySize else none := by
    rw [Target.fixedRounds, kind]
  unfold Des.readBoolean
  by_cases isArray : m.isArray = true
  · rw [if_pos isArray]
    by_cases isSequence : m.isSequence = true
    · rw [if_pos isSequence]
      have elements := plain_sequence (t := t) known isArray isSequence fun n small =>
        scans_elements small fun _ => scans_boolean swap t
      cases lang : t.lang with
      | c => simpa only [init.eq_pure lang, resize_c lang, pure_bind] using elements
      | cxx => exact elements
    · rw [if_neg isSequence]
      exact plain_fixed _ known isArray isSequence <| scans_fixed rounds
        (fun _ => scans_boolean swap t) (fun _ => (sizeless_word .uint8).bind fun _ => .pure)
        fun _ => safe_judgement.boolean t
  · rw [if_neg isArray]
    exact plain_scalar known isArray (scans_boolean swap t)

theorem scans_readWchar (init : t.Initialises) (kind : m.kind = .wchar) :
    Scans swap t (Des.readWchar t m output)
      (t.memberScan swap m (.skip (Parser.word t.order .uint16))) m.Plain := by
  have known : m.kind ≠ .unsupported := by rw [kind]; exact nofun
  have rounds : t.fixedRounds m = if m.arraySize < 2 ^ 32 then some m.arraySize else none := by
    rw [Target.fixedRounds, kind]
  unfold Des.readWchar
  by_cases isArray : m.isArray = true
  · rw [if_neg (by rw [isArray]; exact Bool.false_ne_true)]
    by_cases isSequence : m.isSequence = true
    · have elements := plain_sequence (t := t) known isArray isSequence fun n small =>
        scans_elements small fun _ => scans_wchar swap t
      rw [if_pos isSequence, if_pos isSequence]
      cases lang : t.lang with
      | c => simpa only [init.eq_pure lang, resize_c lang, pure_bind] using elements
      | cxx => exact elements
    · have elements := plain_fixed (t := t) Value.array known isArray isSequence <|
        scans_fixed rounds (fun _ => scans_wchar swap t)
          (fun _ => (sizeless_word .uint16).bind fun _ => .pure)
          fun _ => (safe_judgement.wchar t).mono (by decide)
      rw [if_neg isSequence, if_neg isSequence]
      cases t.lang <;> exact elements
  · rw [if_pos (by rw [Bool.eq_false_iff.mpr isArray]; rfl)]
    exact plain_scalar known isArray (scans_wchar swap t)

/-- Strings and wide strings: `read` reads one of them over an old one. -/
theorem scans_readElements {read : Value → Des Value} {empty : Value}
    {element : Scan LengthField} (init : t.Initialises) (known : m.kind ≠ .unsupported)
    (rounds : t.fixedRounds m = match t.lang with
      | .c => if m.arraySize < 2 ^ 32 then some m.arraySize else none
      | .cxx => some (uint32T m.arraySize))
    (h : ∀ old, Scans swap t (read old) element fun _ fs => fs = [])
    (sizeless : ∀ old, Sizeless (read old)) (safe : ∀ old, Safe False 1 (read old)) :
    Scans swap t (Des.readElements t read empty m output) (t.memberScan swap m element)
      m.Plain := by
  unfold Des.readElements
  by_cases isArray : m.isArray = true
  · by_cases isSequence : m.isSequence = true
    · cases lang : t.lang with
      | c =>
        have elements := plain_sequence (t := t) known isArray isSequence fun n small =>
          scans_elements small fun _ => h empty
        simpa only [isArray, isSequence, if_true, init.eq_pure lang, resize_c lang, pure_bind]
          using elements
      | cxx =>
        simp only [isArray, isSequence, if_true]
        refine plain_sequence (k := fun n => do
          let elems := t.resizeFunction m n output.elems
          Des.for32 (uint32T elems.length) fun i => read (elems[i]?.getD empty))
          known isArray isSequence fun n small => ?_
        dsimp only
        rw [init.length, uint32T_of_lt small]
        exact scans_elements small fun _ => h _
    · cases lang : t.lang with
      | c =>
        rw [lang] at rounds
        simp only [isArray, if_true, if_neg isSequence]
        exact plain_fixed _ known isArray isSequence <| scans_fixed rounds (fun _ => h _)
          (fun _ => sizeless _) fun _ => safe _
      | cxx =>
        rw [lang] at rounds
        simp only [isArray, if_true, if_neg isSequence]
        refine plain_fixed _ known isArray isSequence ?_
        rw [Target.fixedScan, rounds]
        exact (scans_elements (uint32T_lt _) fun _ => h _).weaken fun _ _ q => q.2
  · have scalar := plain_scalar (t := t) known isArray (h output)
    cases t.lang <;> simpa only [if_neg isArray] using scalar

/-- What the runtime makes of the bytes of a string does not move the position. -/
theorem skip_stringParser (swap : Bool) (o : ByteOrder) (slot : List Byte → Option (List Byte))
    (assign : List Byte → List Byte) :
    (Scan.skip (stringParser swap o fun bs => (slot bs).map assign) : Scan LengthField) =
      .skip (stringParser swap o slot) := by
  have same : stringParser swap o (fun bs => (slot bs).map assign) =
      (do
        let n ← received swap .uint32 <$> Parser.word o .uint32
        if n.toNat = 0 then pure [] else assign <$> do
          let bs ← Parser.take n.toNat
          Parser.ofOption (slot bs)) := by
    unfold stringParser
    congr 1
    funext n
    split
    · rfl
    · rw [map_bind]
      congr 1
      funext bs
      exact Parser.ofOption_map assign (slot bs)
  funext bs off
  rw [Scan.skip, Scan.skip, same, stringParser]
  cases length : (received swap .uint32 <$> Parser.word o .uint32) bs off with
  | none => rw [Parser.bind_none length, Parser.bind_none length]
  | some r =>
    rw [Parser.bind_some length, Parser.bind_some length]
    split
    · rfl
    · rw [Parser.map_run, Option.map_map]
      rfl

theorem sizeless_stringOver (t : Target) (old : Value) : Sizeless (Des.stringOver t old) := by
  unfold Des.stringOver
  cases t.lang with
  | c => exact (sizeless_string false _).bind fun _ => .pure
  | cxx => exact (sizeless_string true id).bind fun _ => .pure

theorem scans_stringOver (swap : Bool) (t : Target) (old : Value) :
    Scans swap t (Des.stringOver t old) (.skip (stringParser swap t.order (slotOf t.lang)))
      fun _ fs => fs = [] := by
  have sizeless := sizeless_stringOver t old
  unfold Des.stringOver at sizeless ⊢
  cases lang : t.lang with
  | c =>
    rw [lang] at sizeless
    exact .skips ((reads_assigned_string false _).map Value.string) sizeless
      (by rw [Scan.skip_map, skip_stringParser]; rfl)
  | cxx =>
    rw [lang] at sizeless
    exact .skips ((reads_assigned_string true _).map Value.string) sizeless
      (by rw [Scan.skip_map, skip_stringParser]; rfl)

theorem sizeless_wstringOver (t : Target) (old : Value) : Sizeless (Des.wstringOver t old) := by
  unfold Des.wstringOver
  cases t.lang with
  | c => exact (sizeless_u16string _).bind fun _ => .pure
  | cxx => exact (sizeless_u16string _).bind fun _ => .pure

theorem scans_wstringOver (swap : Bool) (t : Target) (old : Value) :
    Scans swap t (Des.wstringOver t old) (.skip (t.wstringParser swap)) fun _ fs => fs = [] := by
  have sizeless := sizeless_wstringOver t old
  unfold Des.wstringOver at sizeless ⊢
  unfold Target.wstringParser
  cases lang : t.lang with
  | c =>
    rw [lang] at sizeless
    exact .skips ((reads_resized_u16string _).map Value.wstring) sizeless (by rw [Scan.skip_map])
  | cxx =>
    rw [lang] at sizeless
    exact .skips ((reads_resized_u16string _).map Value.wstring) sizeless (by rw [Scan.skip_map])

theorem scans_copyArr (swap : Bool) (o : ByteOrder) (w : Word) {n : Nat} (small : n < 2 ^ 32) :
    Scans swap t (Des.copyArr o w n) (.times n (.skip (Parser.word o w))) fun xs fs =>
      xs.length = n ∧ fs = [] := by
  have reads := Scans.of_reads (t := t) (reads_copyArr w small : Reads swap (Des.copyArr o w n) _)
    (sizeless_copyArr w n)
  rw [Scan.skip_times, Scan.skip_map] at reads
  refine reads.weaken ?_
  rintro xs fs ⟨none, bs, off, next, answer⟩
  exact ⟨Parser.times_length answer, none⟩

theorem scans_readPrimitive {w : Word} (init : t.Initialises) (kind : m.kind = .primitive w) :
    Scans swap t (Des.readPrimitive t w m output)
      (t.memberScan swap m (.skip (Parser.word t.order w))) m.Plain := by
  have known : m.kind ≠ .unsupported := by rw [kind]; exact nofun
  have copied : ∀ n, n < 2 ^ 32 → Scans swap t
      (do return (← Des.copyArr t.order w n).map (Value.prim w))
      (.times n (.skip (Parser.word t.order w))) fun vs fs => vs.length = n ∧ fs = [] :=
    fun n small => Scans.map _ <| (scans_copyArr swap t.order w small).weaken fun xs fs q =>
      ⟨(List.length_map _).trans q.1, q.2⟩
  unfold Des.readPrimitive
  by_cases isArray : m.isArray = true
  · rw [if_neg (by rw [isArray]; exact Bool.false_ne_true)]
    by_cases isSequence : m.isSequence = true
    · rw [if_pos isSequence]
      have elements := plain_sequence (t := t) known isArray isSequence copied
      simp only [bind_assoc, pure_bind] at elements
      cases lang : t.lang with
      | c => simpa only [init.eq_pure lang, resize_c lang, pure_bind] using elements
      | cxx => exact elements
    · have rounds : t.fixedRounds m = some (uint32T m.arraySize) := by
        rw [Target.fixedRounds, kind]
      rw [if_neg isSequence]
      have elements := plain_fixed (t := t) (m.overwrite output) known isArray isSequence
        (x := do return (← Des.copyArr t.order w (uint32T m.arraySize)).map (Value.prim w)) <| by
          rw [Target.fixedScan, rounds]
          exact (copied _ (uint32T_lt _)).weaken fun _ _ q => q.2
      simp only [bind_assoc, pure_bind] at elements
      exact elements
  · rw [if_pos (by rw [Bool.eq_false_iff.mpr isArray]; rfl)]
    exact plain_scalar known isArray <| .skips ((reads_word w).map (Value.prim w))
      ((sizeless_word w).bind fun _ => .pure) (by rw [Scan.skip_map, Scan.skip_map])

end Readers

/-! ## The walk -/

/-- `P` holds of the member and the size of its sequence, if it is one. -/
def sizeOk (P : MessageMember → Nat → Bool) (m : MessageMember) (v : Value) : Bool :=
  !(m.isArray && m.isSequence) || P m v.elems.length

section Walk

variable {swap : Bool} {t : Target} {m : MessageMember} {output : Value}
variable {P : MessageMember → Nat → Bool}

/-- The elements a resized array starts with are as `P` wants them. -/
def Target.FreshOk (P : MessageMember → Nat → Bool) (t : Target) : Prop :=
  ∀ m : MessageMember, m.members.every (sizeOk P) (t.fresh m) = true

/-- What a decoder leaves of a target is as `P` wants it, if it leaves any. -/
def MessageMembers.Kept (P : MessageMember → Nat → Bool) (t : Target) (d : MessageMembers)
    (output : Value) : Prop :=
  d.readable = true ∨ d.every (sizeOk P) output = true ∧ t.FreshOk P

def MessageMember.Kept (P : MessageMember → Nat → Bool) (t : Target) (m : MessageMember)
    (output : Value) : Prop :=
  m.all MessageMember.readable = true ∨ m.every (sizeOk P) output = true ∧ t.FreshOk P

/-- The sequences in a value are as `P` wants them exactly when the length fields met are. -/
def Tells (P : MessageMember → Nat → Bool) (kept : Prop) (ok : Value → Bool) (v : Value)
    (fs : List LengthField) : Prop :=
  kept → (ok v = true ↔ ∀ f ∈ fs, P f.member f.count = true)

/-- A member that holds no messages tells by its own length field. -/
theorem MessageMember.Plain.tells {v : Value} {fs : List LengthField} (h : m.Plain v fs)
    (plain : m.kind ≠ .message) (kept : Prop) : Tells P kept (m.every (sizeOk P)) v fs := by
  intro _
  rw [MessageMember.every_eq, if_neg plain, Bool.and_true, sizeOk]
  unfold MessageMember.Plain at h
  by_cases sequence : m.isArray = true ∧ m.isSequence = true
  · rw [if_pos sequence] at h
    rw [h, sequence.1, sequence.2, List.forall_mem_singleton]
    rfl
  · rw [if_neg sequence] at h
    rw [h]
    refine iff_of_true ?_ fun _ met => absurd met List.not_mem_nil
    rw [← Bool.and_eq_true, Bool.not_eq_true] at sequence
    rw [sequence]
    rfl

section Nested

variable (kind : m.kind = .message) (kept : m.Kept P t output)
include kind kept

theorem MessageMember.Kept.nested :
    m.members.readable = true ∨
      (if m.isArray then output.elems.all (m.members.every (sizeOk P))
        else m.members.every (sizeOk P) output) = true ∧ t.FreshOk P := by
  refine kept.imp (fun readable => ?_) fun within => ⟨?_, within.2⟩
  · rw [MessageMember.all_eq, Bool.and_eq_true, if_pos kind] at readable
    exact readable.2
  · have every := within.1
    rw [MessageMember.every_eq, Bool.and_eq_true, if_pos kind] at every
    exact every.2

theorem MessageMember.Kept.scalar (scalar : ¬ m.isArray = true) : m.members.Kept P t output := by
  have nested := kept.nested kind
  rwa [if_neg scalar] at nested

/-- An element of an array, or a fresh one. -/
theorem MessageMember.Kept.element (isArray : m.isArray = true) {olds : List Value}
    (among : ∀ old ∈ olds, old ∈ output.elems ∨ old = t.fresh m) (i : Nat) :
    m.members.Kept P t (olds[i]?.getD (t.fresh m)) := by
  refine (kept.nested kind).imp id fun within => ⟨?_, within.2⟩
  have every := within.1
  rw [if_pos isArray, List.all_eq_true] at every
  cases there : olds[i]? with
  | none => exact within.2 m
  | some old =>
    rcases among old (List.mem_of_getElem? there) with mem | rfl
    · exact every old mem
    · exact within.2 m

end Nested

/-- The elements a resized array starts with are old or fresh. -/
theorem mem_resizeFunction {n : Nat} {olds : List Value} {old : Value}
    (h : old ∈ t.resizeFunction m n olds) : old ∈ olds ∨ old = t.fresh m := by
  unfold Target.resizeFunction at h
  cases lang : t.lang with
  | c =>
    rw [lang] at h
    dsimp only at h
    split at h
    · exact .inr (List.eq_of_mem_replicate h)
    · exact absurd h List.not_mem_nil
  | cxx =>
    rw [lang] at h
    obtain ⟨i, -, rfl⟩ := List.mem_map.mp h
    cases there : olds[i]? with
    | none => exact .inr rfl
    | some old => exact .inl (List.mem_of_getElem? there)

/-- A run of messages over old ones tells what each of them does. -/
theorem scans_messages {nested : Value → Des Value} {n : Nat} (small : n < 2 ^ 32)
    (old : Nat → Value)
    (h : ∀ e, Scans swap t (nested e) (m.members.scan swap t)
      (Tells P (m.members.Kept P t e) (m.members.every (sizeOk P)))) :
    Scans swap t (Des.for32 n fun i => nested (old i)) (.times n (m.members.scan swap t))
      fun vs fs => vs.length = n ∧ ((∀ i, m.members.Kept P t (old i)) →
        (vs.all (m.members.every (sizeOk P)) = true ↔
          ∀ f ∈ fs, P f.member f.count = true)) := by
  rw [Des.for32_eq_loop small]
  refine Scans.loop (fun i => h (old i)) (fun _ => iff_of_true rfl fun _ met =>
    absurd met List.not_mem_nil) (fun i a as fs gs one many kept => ?_) n 0
  rw [List.all_cons, Bool.and_eq_true, List.forall_mem_append]
  exact and_congr (one (kept i)) (many kept)

/-- A fixed array of messages keeps what it does not overwrite. -/
theorem tells_overwrite (kind : m.kind = .message) (kept : m.Kept P t output)
    (isArray : m.isArray = true) (fixed : ¬ m.isSequence = true) {vs : List Value}
    (length : vs.length = uint32T m.arraySize) :
    m.every (sizeOk P) (m.overwrite output vs) = true ↔
      vs.all (m.members.every (sizeOk P)) = true := by
  have shape : sizeOk P m (m.overwrite output vs) = true := by
    rw [sizeOk, Bool.eq_false_iff.mpr fixed, Bool.and_false]
    rfl
  rw [MessageMember.every_eq, shape, Bool.true_and, if_pos kind, if_pos isArray,
    MessageMember.overwrite, Value.elems, List.all_append, Bool.and_eq_true]
  refine and_iff_left ?_
  rcases kept with readable | within
  · rw [MessageMember.all_eq, Bool.and_eq_true] at readable
    have small := uint32T_of_lt (readable_fixed readable.1 fixed)
    rw [length, small, List.drop_eq_nil_of_le (List.length_take_le _ _)]
    rfl
  · have every := within.1
    rw [MessageMember.every_eq, Bool.and_eq_true, if_pos kind, if_pos isArray,
      List.all_eq_true] at every
    exact List.all_eq_true.mpr fun e among =>
      every.2 e (List.mem_of_mem_take (List.mem_of_mem_drop among))

theorem scans_readStructArr {nested : Value → Des Value} (init : t.Initialises)
    (kind : m.kind = .message)
    (h : ∀ e, Scans swap t (nested e) (m.members.scan swap t)
      (Tells P (m.members.Kept P t e) (m.members.every (sizeOk P)))) :
    Scans swap t (Des.readStructArr t nested m output)
      (t.memberScan swap m (m.members.scan swap t))
      (Tells P (m.Kept P t output) (m.every (sizeOk P))) := by
  have known : m.kind ≠ .unsupported := by rw [kind]; exact nofun
  rw [Target.memberScan, if_neg known]
  unfold Des.readStructArr
  by_cases isArray : m.isArray = true
  · rw [if_pos isArray, if_pos isArray]
    by_cases isSequence : m.isSequence = true
    · rw [if_pos isSequence, if_pos isSequence]
      refine scans_sequence fun n small => ?_
      dsimp only
      rw [init.length, uint32T_of_lt small]
      refine Scans.map Value.array ((scans_messages small _ h).weaken ?_)
      rintro vs fs ⟨rfl, told⟩ kept
      rw [MessageMember.every_eq, if_pos kind, if_pos isArray, Bool.and_eq_true,
        List.forall_mem_cons, sizeOk, isArray, isSequence]
      exact and_congr Iff.rfl (told (kept.element kind isArray fun _ => mem_resizeFunction))
    · have rounds : t.fixedRounds m = some (uint32T m.arraySize) := by
        rw [Target.fixedRounds, kind]
      rw [if_neg isSequence, if_neg isSequence, Target.fixedScan, rounds]
      refine Scans.map (m.overwrite output) ((scans_messages (uint32T_lt _) _ h).weaken ?_)
      rintro vs fs ⟨length, told⟩ kept
      rw [tells_overwrite kind kept isArray isSequence length]
      exact told (kept.element kind isArray fun _ => .inl)
  · rw [if_neg isArray, if_neg isArray]
    refine (h output).weaken fun v fs told kept => ?_
    have shape : sizeOk P m v = true := by
      rw [sizeOk, Bool.eq_false_iff.mpr isArray]
      rfl
    rw [MessageMember.every_eq, shape, Bool.true_and, if_pos kind, if_neg isArray]
    exact told (kept.scalar kind isArray)

/-- **The reader of a member goes the way of its scan**, whatever its kind and shape. -/
theorem scans_deserializeMember {nested : Value → Des Value} (init : t.Initialises)
    (h : ∀ e, Scans swap t (nested e) (m.members.scan swap t)
      (Tells P (m.members.Kept P t e) (m.members.every (sizeOk P)))) :
    Scans swap t (Des.deserializeMember t nested m output) (m.scan swap t)
      (Tells P (m.Kept P t output) (m.every (sizeOk P))) := by
  have plain : ∀ {x : Des Value} {s : Scan LengthField}, m.kind ≠ .message →
      Scans swap t x s m.Plain →
        Scans swap t x s (Tells P (m.Kept P t output) (m.every (sizeOk P))) :=
    fun other scans => scans.weaken fun v fs q => q.tells other _
  rw [MessageMember.scan_eq]
  unfold Des.deserializeMember
  cases kind : m.kind with
  | boolean => exact plain (by rw [kind]; exact nofun) (scans_readBoolean init kind)
  | primitive w => exact plain (by rw [kind]; exact nofun) (scans_readPrimitive init kind)
  | wchar => exact plain (by rw [kind]; exact nofun) (scans_readWchar init kind)
  | string =>
    refine plain (by rw [kind]; exact nofun) (scans_readElements init (by rw [kind]; exact nofun) ?_
      (scans_stringOver swap t) (sizeless_stringOver t) (safe_judgement.stringOver t))
    rw [Target.fixedRounds, kind]
    cases t.lang <;> rfl
  | wstring =>
    refine plain (by rw [kind]; exact nofun) (scans_readElements init (by rw [kind]; exact nofun) ?_
      (scans_wstringOver swap t) (sizeless_wstringOver t) (safe_judgement.wstringOver t))
    rw [Target.fixedRounds, kind]
    cases t.lang <;> rfl
  | message => exact scans_readStructArr init kind h
  | unsupported =>
    rw [Target.memberScan, if_pos kind]
    refine (Scans.pure output).weaken ?_
    rintro v fs ⟨rfl, rfl⟩ kept
    refine iff_of_true ?_ fun _ met => absurd met List.not_mem_nil
    refine (kept.resolve_left fun readable => ?_).1
    rw [MessageMember.all_eq, MessageMember.readable, kind] at readable
    cases readable

theorem scans_deserializeFields : ∀ (ms : List MessageMember) (outputs : List Value),
    (∀ m ∈ ms, ∀ output, Scans swap t
      (Des.deserializeMember t (Des.deserialize t m.members) m output) (m.scan swap t)
      (Tells P (m.Kept P t output) (m.every (sizeOk P)))) →
    Scans swap t (Des.deserializeFields t ms outputs) (fieldsScan swap t ms) fun vs fs =>
      membersAll MessageMember.readable ms = true ∨
          fieldsEvery (sizeOk P) ms outputs = true ∧ t.FreshOk P →
        (fieldsEvery (sizeOk P) ms vs = true ↔ ∀ f ∈ fs, P f.member f.count = true)
  | [], _, _ => (Scans.pure []).weaken fun vs fs q _ => by
    rw [q.1, q.2]
    exact iff_of_true rfl fun _ met => absurd met List.not_mem_nil
  | m :: ms, outputs, h => by
    have first := h m List.mem_cons_self (outputs.headD default)
    have rest := scans_deserializeFields ms outputs.tail fun m' hm =>
      h m' (List.mem_cons_of_mem _ hm)
    have both := first.bind (R := fun vs fs => membersAll MessageMember.readable (m :: ms) = true ∨
        fieldsEvery (sizeOk P) (m :: ms) outputs = true ∧ t.FreshOk P →
        (fieldsEvery (sizeOk P) (m :: ms) vs = true ↔ ∀ f ∈ fs, P f.member f.count = true))
      fun v fs told => Scans.map (v :: ·) (rest.weaken fun vs gs tolds kept => by
        rw [fieldsEvery, Bool.and_eq_true, List.forall_mem_append]
        rw [membersAll, fieldsEvery, Bool.and_eq_true, Bool.and_eq_true] at kept
        exact and_congr (told (kept.imp And.left fun within => ⟨within.1.1, within.2⟩))
          (tolds (kept.imp And.right fun within => ⟨within.1.2, within.2⟩)))
    cases m
    exact both

/-- **The deserializer goes the way of the scan.** It sizes sequences by the length fields the scan
meets and by no others, and ends where it ends; and where it returns, the sequences of the message
have the sizes in these fields. -/
theorem scans_deserialize (init : t.Initialises) (d : MessageMembers) : ∀ output,
    Scans swap t (Des.deserialize t d output) (d.scan swap t)
      (Tells P (d.Kept P t output) (d.every (sizeOk P))) := by
  induction d using MessageMembers.induct (Q := fun m => ∀ output,
      Scans swap t (Des.deserializeMember t (Des.deserialize t m.members) m output) (m.scan swap t)
        (Tells P (m.Kept P t output) (m.every (sizeOk P)))) with
  | null => exact fun output => .throw rfl
  | mk ns name ms ih =>
    exact fun output => Scans.map Value.message
      ((scans_deserializeFields ms output.fields ih).weaken fun vs fs told kept => told kept)
  | member m ih output => exact scans_deserializeMember init ih

end Walk

end Cdr
