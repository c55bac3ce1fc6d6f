import RmwGurumdds.Wire.Locality

/-!
# Scans

A parser that fails has nothing to tell. A **scan** walks over the bytes like a parser, but what it
comes upon it reports either way: the items met, in order, and the position after the last byte if
the bytes do not end before. A count in front of a run of elements makes one item, which also tells
whether the whole run is there.

`Within n s` collects what a scan of real bytes is good for: it moves at least `n` bytes and never
past the end, and a count whose run is there is no more than the bytes, if an element is a byte or
more.
-/

namespace Wire

variable {α ε : Type}

/-- What a scan comes upon from a position on, and where it stops if the bytes do not end before. -/
structure Found (ε : Type) where
  items : List ε
  next : Option Nat
deriving DecidableEq, Repr

/-- A walk over the byte string from a position on. -/
def Scan (ε : Type) := List Byte → Nat → Found ε

namespace Scan

/-! ## Combinators -/

/-- A parser's way, with nothing to report. -/
def skip (p : Parser α) : Scan ε := fun bs off => ⟨[], (p bs off).map Prod.snd⟩

/-- No way at all. -/
def stuck : Scan ε := fun _ _ => ⟨[], none⟩

/-- One scan after another. -/
def andThen (s s' : Scan ε) : Scan ε := fun bs off =>
  match (s bs off).next with
  | none => s bs off
  | some mid => ⟨(s bs off).items ++ (s' bs mid).items, (s' bs mid).next⟩

/-- The same scan `n` times. -/
def times : Nat → Scan ε → Scan ε
  | 0, _ => skip (pure ())
  | n + 1, s => s.andThen (times n s)

/-- A count and the run it announces. -/
def counted (count : Parser Nat) (item : Nat → Bool → ε) (run : Nat → Scan ε) : Scan ε :=
  fun bs off =>
    match count bs off with
    | none => ⟨[], none⟩
    | some (n, mid) =>
      ⟨item n (run n bs mid).next.isSome :: (run n bs mid).items, (run n bs mid).next⟩

theorem andThen_some {s s' : Scan ε} {bs : List Byte} {off mid : Nat}
    (h : (s bs off).next = some mid) :
    s.andThen s' bs off = ⟨(s bs off).items ++ (s' bs mid).items, (s' bs mid).next⟩ := by
  rw [andThen, h]

theorem andThen_none {s s' : Scan ε} {bs : List Byte} {off : Nat} (h : (s bs off).next = none) :
    s.andThen s' bs off = s bs off := by
  rw [andThen, h]

/-- What the first of two scans meets, both meet. -/
theorem mem_andThen_left {s s' : Scan ε} {bs : List Byte} {off : Nat} {e : ε}
    (h : e ∈ (s bs off).items) : e ∈ (s.andThen s' bs off).items := by
  cases stops : (s bs off).next with
  | none => rwa [andThen_none stops]
  | some mid =>
    rw [andThen_some stops]
    exact List.mem_append_left _ h

/-- A parser's answers are not the scan's concern. -/
theorem skip_map {β : Type} (g : α → β) (p : Parser α) :
    (skip (g <$> p) : Scan ε) = skip p := by
  funext bs off
  rw [skip, skip, Parser.map_run, Option.map_map]
  rfl

theorem skip_bind {β : Type} (p : Parser α) (q : Parser β) :
    (skip (p >>= fun _ => q) : Scan ε) = (skip p).andThen (skip q) := by
  funext bs off
  cases first : p bs off with
  | none =>
    rw [andThen_none (by rw [skip, first]; rfl), skip, Parser.bind_none first, skip, first]
    rfl
  | some r =>
    have stops : (skip p bs off : Found ε).next = some r.2 := by
      rw [skip, first]
      rfl
    rw [andThen_some stops, skip, Parser.bind_some first]
    rfl

/-- Skipping a run is skipping its elements. -/
theorem skip_times (p : Parser α) : ∀ n, (skip (Parser.times n p) : Scan ε) = times n (skip p)
  | 0 => rfl
  | n + 1 => by
    rw [times, ← skip_times p n, ← skip_bind]
    funext bs off
    rw [Parser.times, skip, skip]
    cases first : p bs off with
    | none => rw [Parser.bind_none first, Parser.bind_none first]
    | some r =>
      rw [Parser.bind_some first, Parser.bind_some first, bind_pure_comp, Parser.map_run,
        Option.map_map]
      rfl

/-! ## Inside the bytes -/

/-- A scan that moves at least `n` bytes and stops inside them. `sized` says of an item met on a
byte string of this length that it is as it should be. -/
def Within (sized : Nat → ε → Prop) (n : Nat) (s : Scan ε) : Prop :=
  ∀ bs off, off ≤ bs.length →
    (∀ next, (s bs off).next = some next → off + n ≤ next ∧ next ≤ bs.length) ∧
      ∀ e ∈ (s bs off).items, sized bs.length e

variable {sized : Nat → ε → Prop} {n n' : Nat} {s s' : Scan ε}

theorem Within.weaken (h : Within sized n s) (le : n' ≤ n) : Within sized n' s :=
  fun bs off inside =>
    ⟨fun next stops => ⟨(Nat.add_le_add_left le off).trans ((h bs off inside).1 next stops).1,
      ((h bs off inside).1 next stops).2⟩, (h bs off inside).2⟩

theorem Within.skip {p : Parser α} (moves : Moves n p) (rests : p.Local) :
    Within sized n (skip p) := by
  intro bs off inside
  refine ⟨fun next stops => ?_, fun e met => absurd met List.not_mem_nil⟩
  obtain ⟨⟨a, last⟩, answer, rfl⟩ := Option.map_eq_some_iff.mp stops
  refine ⟨moves bs off a last answer, ?_⟩
  have again := (rests bs off a last answer).2 bs inside fun _ _ _ => rfl
  by_cases far : last ≤ bs.length
  · exact far
  · rw [if_neg far, answer] at again
    cases again

theorem Within.stuck (n : Nat) : Within sized n (stuck : Scan ε) :=
  fun _ _ _ => ⟨nofun, fun _ met => absurd met List.not_mem_nil⟩

theorem Within.andThen (h : Within sized n s) (h' : Within sized n' s') :
    Within sized (n + n') (s.andThen s') := by
  intro bs off inside
  obtain ⟨stops, met⟩ := h bs off inside
  cases first : (s bs off).next with
  | none =>
    rw [andThen_none first]
    exact ⟨fun _ there => absurd there (first ▸ nofun), met⟩
  | some mid =>
    obtain ⟨forward, inside'⟩ := stops mid first
    obtain ⟨stops', met'⟩ := h' bs mid inside'
    rw [andThen_some first]
    refine ⟨fun next there => ⟨?_, (stops' next there).2⟩, fun e among => ?_⟩
    · have forward' := (stops' next there).1
      omega
    · rcases List.mem_append.mp among with here | after
      · exact met e here
      · exact met' e after

/-- Elements of a byte or more take as many bytes as they are. -/
theorem Within.times (h : Within sized n s) : ∀ rounds, Within sized (rounds * n) (times rounds s)
  | 0 => by
    rw [Nat.zero_mul]
    exact .skip (.pure ()) (.pure ())
  | rounds + 1 => by
    rw [Nat.succ_mul, Nat.add_comm]
    exact h.andThen (Within.times h rounds)

/-- **A count whose run is there is within the bytes.** -/
theorem Within.counted {count : Parser Nat} {item : Nat → Bool → ε} {run : Nat → Scan ε}
    (moves : Moves n count) (rests : count.Local) (h : ∀ k, Within sized k (run k))
    (small : ∀ k there len, (there = true → k ≤ len) → sized len (item k there)) :
    Within sized n (counted count item run) := by
  intro bs off inside
  rw [Scan.counted]
  cases answer : count bs off with
  | none => exact ⟨nofun, fun _ met => absurd met List.not_mem_nil⟩
  | some r =>
    obtain ⟨k, mid⟩ := r
    have within : Within sized n (Scan.skip count) := .skip moves rests
    have skipped := (within bs off inside).1 mid (by rw [Scan.skip, answer]; rfl)
    obtain ⟨stops, met⟩ := h k bs mid skipped.2
    dsimp only
    refine ⟨fun next there => ⟨?_, (stops next there).2⟩, ?_⟩
    · have forward := (stops next there).1
      omega
    · refine List.forall_mem_cons.mpr ⟨small k _ _ fun there => ?_, met⟩
      obtain ⟨next, there⟩ := Option.isSome_iff_exists.mp there
      have bounds := stops next there
      omega

end Scan

end Wire
