import RmwGurumdds.Cdr.MessageDeserializer

/-!
# Judgements on readers

The deserializer is built from few operations in few ways: one reader after another, a choice by
the description, a counted loop. A judgement that each of them keeps therefore holds of the whole
walk, whatever the description, the target, the runtime and the bytes. That induction is made here
once; a property of the deserializer is then its rules and nothing else. What a container throws is
not part of them: whether a judgement holds of `resize` depends on the target (`resizes`).

A judgement carries a number of bytes: `J n m` says, besides what it is about, that `m` moves at
least `n` bytes. The loops over fixed arrays of 2^32 elements and more, whose counters wrap, have no
other reason to end.
-/

namespace Cdr

open Wire Exec

/-- A judgement that the ways of building a reader keep, with one rule for each of them. -/
structure Judgement (J : ∀ {α : Type}, Nat → Des α → Prop) : Prop where
  pure : ∀ {α : Type} (a : α), J 0 (pure a)
  throw : ∀ {α : Type} (what : String), J 0 (throw (.runtimeError what) : Des α)
  /-- Moving further is moving far enough. -/
  mono : ∀ {α : Type} {n n' : Nat} {m : Des α}, J n m → n' ≤ n → J n' m
  bind : ∀ {α β : Type} {n n' : Nat} {m : Des α} {k : α → Des β},
    J n m → (∀ a, J n' (k a)) → J (n + n') (m >>= k)
  word : ∀ (o : ByteOrder) (w : Word), J w.bytes (Des.word o w)
  string : ∀ (o : ByteOrder) (terminated : Bool) (assign : List Byte → List Byte),
    J 4 (Des.string o terminated assign)
  u16string : ∀ (o : ByteOrder) (resize : Nat → Bool), J 4 (Des.u16string o resize)
  copyArr : ∀ (o : ByteOrder) (w : Word) {cnt : Nat}, cnt < 2 ^ 32 → J 0 (Des.copyArr o w cnt)
  resized : ∀ count : Nat, J 0 (Des.note (.resized count))
  /-- A loop whose counter may wrap. -/
  for32 : ∀ {α : Type} (bound : Nat) {body : Nat → Des α}, (∀ i, J 1 (body i)) →
    J 0 (Des.for32 bound body)
  for32_small : ∀ {α : Type} {bound : Nat} {body : Nat → Des α}, bound < 2 ^ 32 →
    (∀ i, J 0 (body i)) → J 0 (Des.for32 bound body)

namespace Judgement

variable {J : ∀ {α : Type}, Nat → Des α → Prop} (rules : Judgement @J)
variable (t : Target) (m : MessageMember) (output : Value)
include rules

theorem map {α β : Type} {n : Nat} {x : Des α} (g : α → β) (h : J n x) :
    J n (x >>= fun a => Pure.pure (g a)) := rules.bind h fun a => rules.pure (g a)

/-! ## Pieces -/

/-- The size in front of a sequence is one a `uint32_t` counts. -/
theorem sequence {k : Nat → Des Value} (h : ∀ n, n < 2 ^ 32 → J 0 (k n)) :
    J 0 (Des.sequenceSize t >>= k) := by
  have whole : J 4 (do
      let size ← Des.word t.order .uint32
      Des.note (.resized size.toNat)
      k size.toNat) :=
    rules.bind (rules.word t.order .uint32) fun size => rules.bind (rules.resized size.toNat)
      fun _ => h size.toNat size.isLt
  have same : (Des.sequenceSize t >>= k) = (do
      let size ← Des.word t.order .uint32
      Des.note (.resized size.toNat)
      k size.toNat) := by
    simp only [Des.sequenceSize, bind_assoc, pure_bind]
  rw [same]
  exact rules.mono whole (Nat.zero_le 4)

/-- A runtime that does not initialise a sequence ends the decoder. -/
theorem sequenceInit (n : Nat) : J 0 (Des.sequenceInit t n) := by
  unfold Des.sequenceInit
  split
  · exact rules.pure ()
  · exact rules.throw _

theorem boolean : J 1 (Des.boolean t) := rules.map _ (rules.word t.order .uint8)

theorem wchar : J 2 (Des.wchar t) := rules.map _ (rules.word t.order .uint16)

/-- An array of elements that take bytes, whatever its bound. -/
theorem array {body : Nat → Des Value} (bound : Nat) (h : ∀ i, J 1 (body i)) :
    J 0 (do return Value.array (← Des.for32 bound body)) := rules.map _ (rules.for32 bound h)

/-! ## One reader for each kind of member -/

theorem stringOver (old : Value) : J 1 (Des.stringOver t old) := by
  unfold Des.stringOver
  cases t.lang with
  | c => exact rules.mono (rules.map _ (rules.string t.order false _)) (by decide)
  | cxx => exact rules.mono (rules.map _ (rules.string t.order true _)) (by decide)

theorem wstringOver (old : Value) : J 1 (Des.wstringOver t old) := by
  unfold Des.wstringOver
  cases t.lang with
  | c => exact rules.mono (rules.map _ (rules.u16string t.order _)) (by decide)
  | cxx => exact rules.mono (rules.map _ (rules.u16string t.order _)) (by decide)

section Readers

variable (resizes : ∀ n, J 0 (Des.resize t m n))
include resizes

/-- What a container that takes the size is filled with. -/
theorem filled {x : Des Value} (n : Nat) (h : J 0 x) : J 0 (do Des.resize t m n; x) :=
  rules.bind (resizes n) fun _ => h

theorem readBoolean : J 0 (Des.readBoolean t m output) := by
  have elements := fun n => rules.array n fun _ => rules.boolean t
  unfold Des.readBoolean
  split
  · split
    · refine rules.sequence t fun n _ => ?_
      cases t.lang with
      | c => exact rules.bind (rules.sequenceInit t n) fun _ => elements n
      | cxx => exact rules.filled t m resizes n (elements n)
    · exact elements m.arraySize
  · exact rules.mono (rules.boolean t) (Nat.zero_le 1)

theorem readWchar : J 0 (Des.readWchar t m output) := by
  have elements := fun n => rules.array n fun _ =>
    rules.mono (rules.wchar t) (by decide : 1 ≤ 2)
  unfold Des.readWchar
  split
  · exact rules.mono (rules.wchar t) (Nat.zero_le 2)
  · cases t.lang with
    | c =>
      dsimp only
      split
      · exact rules.sequence t fun n _ => rules.bind (rules.sequenceInit t n) fun _ => elements n
      · exact elements m.arraySize
    | cxx =>
      dsimp only
      split
      · exact rules.sequence t fun n _ => rules.filled t m resizes n (elements n)
      · exact elements m.arraySize

theorem readElements {read : Value → Des Value} (empty : Value) (h : ∀ old, J 1 (read old)) :
    J 0 (Des.readElements t read empty m output) := by
  have elements := fun n (old : Nat → Value) => rules.array n fun i => h (old i)
  have scalar := rules.mono (h output) (Nat.zero_le 1)
  unfold Des.readElements
  cases t.lang with
  | c =>
    dsimp only
    split
    · split
      · exact rules.sequence t fun n _ => rules.bind (rules.sequenceInit t n) fun _ =>
          elements n fun _ => empty
      · exact elements m.arraySize _
    · exact scalar
  | cxx =>
    dsimp only
    split
    · split
      · exact rules.sequence t fun n _ => rules.filled t m resizes n (elements _ _)
      · exact rules.map _ (rules.for32 _ fun i => h _)
    · exact scalar

theorem readPrimitive (w : Word) : J 0 (Des.readPrimitive t w m output) := by
  have copied := fun n (small : n < 2 ^ 32) (g : List (BitVec w.bits) → Value) =>
    rules.map g (rules.copyArr t.order w small)
  unfold Des.readPrimitive
  split
  · exact rules.mono (rules.map _ (rules.word t.order w)) (Nat.zero_le _)
  · split
    · refine rules.sequence t fun n small => ?_
      cases t.lang with
      | c => exact rules.bind (rules.sequenceInit t n) fun _ => copied n small _
      | cxx => exact rules.filled t m resizes n (copied n small _)
    · exact copied _ (uint32T_lt _) _

theorem readStructArr {nested : Value → Des Value} (h : ∀ old, J 0 (nested old)) :
    J 0 (Des.readStructArr t nested m output) := by
  have elements := fun n (old : Nat → Value) (g : List Value → Value) =>
    rules.map g (rules.for32_small (uint32T_lt n) fun i => h (old i))
  unfold Des.readStructArr
  split
  · split
    · exact rules.sequence t fun n _ => rules.filled t m resizes n (elements _ _ _)
    · exact elements _ _ _
  · exact h output

/-! ## The walk -/

/-- A judgement holds of the reader of a member, whatever its kind and shape. -/
theorem deserializeMember {nested : Value → Des Value}
    (h : m.kind = .message → ∀ old, J 0 (nested old)) :
    J 0 (Des.deserializeMember t nested m output) := by
  unfold Des.deserializeMember
  cases kind : m.kind with
  | boolean => exact rules.readBoolean t m output resizes
  | primitive w => exact rules.readPrimitive t m output resizes w
  | wchar => exact rules.readWchar t m output resizes
  | string => exact rules.readElements t m output resizes _ (rules.stringOver t)
  | wstring => exact rules.readElements t m output resizes _ (rules.wstringOver t)
  | message => exact rules.readStructArr t m output resizes (h kind)
  | unsupported => exact rules.pure output

end Readers

variable {t}

theorem deserializeFields : ∀ (ms : List MessageMember) (outputs : List Value),
    (∀ m ∈ ms, ∀ output, J 0 (Des.deserializeMember t (Des.deserialize t m.members) m output)) →
    J 0 (Des.deserializeFields t ms outputs)
  | [], _, _ => rules.pure []
  | m :: ms, outputs, h => by
    have first := h m List.mem_cons_self (outputs.headD default)
    have rest := deserializeFields ms outputs.tail fun m' hm =>
      h m' (List.mem_cons_of_mem _ hm)
    cases m
    exact rules.bind first fun _ => rules.bind rest fun _ => rules.pure _

/-- **A judgement holds of the deserializer** if it holds of the containers, unless the description
has a null handle. -/
theorem deserialize (resizes : ∀ m n, J 0 (Des.resize t m n)) (d : MessageMembers) :
    d.linked = true → ∀ output,
    J 0 (Des.deserialize t d output) := by
  induction d using MessageMembers.induct (Q := fun m => m.all (fun _ => true) = true →
      ∀ output, J 0 (Des.deserializeMember t (Des.deserialize t m.members) m output)) with
  | null => exact fun linked => nomatch linked
  | mk ns name ms ih =>
    intro linked output
    exact rules.bind (rules.deserializeFields ms output.fields fun m hm =>
      ih m hm (membersAll_iff.mp linked m hm)) fun _ => rules.pure _
  | member m ih linked output =>
    rw [MessageMember.all_eq, Bool.true_and] at linked
    refine rules.deserializeMember t m output (resizes m) fun kind => ih ?_
    rwa [if_pos kind] at linked

end Judgement

end Cdr
