import RmwGurumdds.Wire.Layout

/-!
# Positioned parsers

The reader's side of a positioned layout. A **parser** takes the whole byte string and the position
it stands at, and either fails or answers a value and the position after it; it never looks past
the end.

`Decodes p f a` says that `p` inverts the layout `f` with answer `a`: on every memory that agrees
with the cells of `f`, whatever the gaps hold, `p` answers `a` and stops where the cells stop. The
relation follows the combinators, so a format's round trip is an induction over its description.
`Chooses p ok g q` compares two parsers of one format, of which one turns away some of the answers
of the other.
-/

namespace Wire

/-- A reader of the byte string from a position on. -/
def Parser (α : Type) := List Byte → Nat → Option (α × Nat)

variable {α β : Type}

/-! ## Combinators -/

namespace Parser

protected def pure (a : α) : Parser α := fun _ off => some (a, off)

protected def bind (p : Parser α) (k : α → Parser β) : Parser β := fun bs off =>
  match p bs off with
  | none => none
  | some (a, next) => k a bs next

instance : Monad Parser where
  pure := Parser.pure
  bind := Parser.bind

/-- No answer. -/
def fail : Parser α := fun _ _ => none

/-- An answer if there is one. -/
def ofOption : Option α → Parser α
  | none => fail
  | some a => pure a

/-- The next multiple of `a`, if the byte string reaches it. -/
def align (a : Nat) : Parser Unit := fun bs off =>
  if off + padding a off ≤ bs.length then some ((), off + padding a off) else none

/-- The next `n` bytes. -/
def take (n : Nat) : Parser (List Byte) := fun bs off =>
  if off + n ≤ bs.length then some ((bs.drop off).take n, off + n) else none

/-- A word, aligned to its own size. -/
def word (o : ByteOrder) (w : Word) : Parser (BitVec w.bits) := do
  align w.bytes
  let bs ← take w.bytes
  return o.load w bs

/-- The same parser `n` times. -/
def times : Nat → Parser α → Parser (List α)
  | 0, _ => pure []
  | n + 1, p => do
    let a ← p
    let as ← times n p
    return a :: as

theorem pure_run (a : α) (bs : List Byte) (off : Nat) :
    (pure a : Parser α) bs off = some (a, off) := rfl

theorem bind_some {p : Parser α} {k : α → Parser β} {bs : List Byte} {off next : Nat} {a : α}
    (h : p bs off = some (a, next)) : (p >>= k) bs off = k a bs next := by
  show Parser.bind p k bs off = _
  rw [Parser.bind, h]

theorem bind_none {p : Parser α} {k : α → Parser β} {bs : List Byte} {off : Nat}
    (h : p bs off = none) : (p >>= k) bs off = none := by
  show Parser.bind p k bs off = _
  rw [Parser.bind, h]

/-- A sequence that answers answered in the middle. -/
theorem of_bind_some {p : Parser α} {k : α → Parser β} {bs : List Byte} {off last : Nat} {b : β}
    (h : (p >>= k) bs off = some (b, last)) :
    ∃ a next, p bs off = some (a, next) ∧ k a bs next = some (b, last) := by
  cases first : p bs off with
  | none => rw [bind_none first] at h; exact nomatch h
  | some r => exact ⟨r.1, r.2, rfl, by rw [← h, bind_some first]⟩

theorem map_run (g : α → β) (p : Parser α) (bs : List Byte) (off : Nat) :
    (g <$> p) bs off = (p bs off).map fun r => (g r.1, r.2) := by
  show Parser.bind p (fun a => pure (g a)) bs off = _
  rw [Parser.bind]
  cases p bs off <;> rfl

theorem ofOption_map (g : α → β) (a : Option α) : ofOption (a.map g) = g <$> ofOption a := by
  funext bs off
  cases a <;> rfl

instance : LawfulMonad Parser := LawfulMonad.mk' _
  (fun p => by
    funext bs off
    show Parser.bind p (fun a => pure a) bs off = _
    rw [Parser.bind]
    cases p bs off <;> rfl)
  (fun _ _ => rfl)
  (fun p k l => by
    funext bs off
    show Parser.bind (Parser.bind p k) l bs off = Parser.bind p (fun a => k a >>= l) bs off
    rw [Parser.bind, Parser.bind, Parser.bind]
    cases p bs off <;> rfl)

theorem word_run (o : ByteOrder) (w : Word) (bs : List Byte) (off : Nat) :
    word o w bs off =
      if off + padding w.bytes off + w.bytes ≤ bs.length then
        some (o.load w ((bs.drop (off + padding w.bytes off)).take w.bytes),
          off + padding w.bytes off + w.bytes)
      else none := by
  unfold word
  by_cases gap : off + padding w.bytes off ≤ bs.length
  · rw [bind_some (show align w.bytes bs off = some ((), _) from if_pos gap)]
    by_cases fits : off + padding w.bytes off + w.bytes ≤ bs.length
    · rw [bind_some (show take w.bytes bs _ = some (_, _) from if_pos fits), if_pos fits, pure_run]
    · rw [bind_none (show take w.bytes bs _ = none from if_neg fits), if_neg fits]
  · rw [bind_none (show align w.bytes bs off = none from if_neg gap), if_neg (by omega)]

/-- Words of one width, the first of them aligned, are one run of bytes. -/
theorem times_word_aligned (o : ByteOrder) (w : Word) (bs : List Byte) :
    ∀ (n off : Nat), off % w.bytes = 0 → off ≤ bs.length →
      times n (word o w) bs off =
        if off + n * w.bytes ≤ bs.length then
          some (o.words w n (bs.drop off), off + n * w.bytes)
        else none
  | 0, off, _, inside => by
    rw [if_pos (by omega), Nat.zero_mul]
    rfl
  | n + 1, off, aligned, _ => by
    have split : (n + 1) * w.bytes = w.bytes + n * w.bytes := by rw [Nat.succ_mul, Nat.add_comm]
    have first := word_run o w bs off
    rw [padding_eq_zero aligned, Nat.add_zero] at first
    unfold times
    by_cases here : off + w.bytes ≤ bs.length
    · rw [if_pos here] at first
      have rest := times_word_aligned o w bs n (off + w.bytes)
        (by rw [Nat.add_mod_right, aligned]) here
      rw [bind_some first]
      by_cases fits : off + w.bytes + n * w.bytes ≤ bs.length
      · rw [if_pos fits] at rest
        rw [bind_some rest, if_pos (by omega), pure_run, ByteOrder.words, List.drop_drop, split,
          Nat.add_assoc]
      · rw [if_neg fits] at rest
        rw [bind_none rest, if_neg (by omega)]
    · rw [if_neg here] at first
      rw [bind_none first, if_neg (by omega)]

/-- A run of words without a gap. -/
def block (o : ByteOrder) (w : Word) (n : Nat) : Parser (List (BitVec w.bits)) :=
  o.words w n <$> take (n * w.bytes)

theorem block_run (o : ByteOrder) (w : Word) (n : Nat) (bs : List Byte) (off : Nat) :
    block o w n bs off =
      if off + n * w.bytes ≤ bs.length then
        some (o.words w n (bs.drop off), off + n * w.bytes)
      else none := by
  rw [block, map_run, take]
  by_cases fits : off + n * w.bytes ≤ bs.length
  · rw [if_pos fits, if_pos fits, Option.map_some, ByteOrder.words_take]
  · rw [if_neg fits, if_neg fits, Option.map_none]

/-- **Words of one width are a gap and one run of bytes.** -/
theorem times_word (o : ByteOrder) (w : Word) (n : Nat) :
    times (n + 1) (word o w) = (align w.bytes >>= fun _ => block o w (n + 1)) := by
  funext bs off
  have aligned := padding_aligns w.bytes_pos off
  by_cases gap : off + padding w.bytes off ≤ bs.length
  · have head : word o w bs off = word o w bs (off + padding w.bytes off) := by
      rw [word_run, word_run, padding_eq_zero aligned, Nat.add_zero]
    rw [bind_some (show align w.bytes bs off = some ((), _) from if_pos gap), block_run,
      ← times_word_aligned o w bs _ _ aligned gap]
    unfold times
    show Parser.bind _ _ _ _ = Parser.bind _ _ _ _
    rw [Parser.bind, Parser.bind, head]
  · have head : word o w bs off = none := by rw [word_run, if_neg (by omega)]
    rw [bind_none (show align w.bytes bs off = none from if_neg gap)]
    exact bind_none head

/-- Mapping every answer is mapping the list of answers. -/
theorem times_map (g : α → β) (p : Parser α) :
    ∀ n, times n (g <$> p) = List.map g <$> times n p
  | 0 => rfl
  | n + 1 => by
    unfold times
    simp only [times_map g p n, map_bind, bind_map_left, map_pure, List.map_cons]

/-- Aligning twice is aligning once. -/
theorem align_align {a : Nat} (h : 0 < a) (k : Unit → Parser α) :
    (align a >>= fun _ => align a >>= k) = align a >>= k := by
  funext bs off
  by_cases gap : off + padding a off ≤ bs.length
  · have first : align a bs off = some ((), off + padding a off) := if_pos gap
    rw [bind_some first, bind_some first]
    exact bind_some
      (by rw [align, padding_eq_zero (padding_aligns h off), Nat.add_zero, if_pos gap])
  · have first : align a bs off = none := if_neg gap
    rw [bind_none first, bind_none first]

/-- A gap in front of the gap of the first word is none. -/
theorem align_times_word (o : ByteOrder) (w : Word) {n : Nat} (h : 0 < n) (g : BitVec w.bits → α) :
    (align w.bytes >>= fun _ => times n (g <$> word o w)) = times n (g <$> word o w) := by
  obtain ⟨n, rfl⟩ := Nat.exists_eq_succ_of_ne_zero (Nat.ne_of_gt h)
  rw [times_map, times_word, map_bind, align_align w.bytes_pos]

/-- After a word there is no gap to any alignment the word's own is a multiple of. -/
theorem word_align {γ : Type} (o : ByteOrder) (w : Word) {a : Nat} (h : w.bytes % a = 0)
    (g : BitVec w.bits → α) (q : α → Parser γ) :
    ((g <$> word o w) >>= fun x => align a >>= fun _ => q x) = (g <$> word o w) >>= q := by
  funext bs off
  have aligned := padding_aligns w.bytes_pos off
  have run := map_run g (word o w) bs off
  rw [word_run] at run
  by_cases fits : off + padding w.bytes off + w.bytes ≤ bs.length
  · have next : padding a (off + padding w.bytes off + w.bytes) = 0 := by
      apply padding_eq_zero
      obtain ⟨k, hk⟩ := Nat.dvd_of_mod_eq_zero aligned
      obtain ⟨j, hj⟩ := Nat.dvd_of_mod_eq_zero h
      rw [hk, ← Nat.mul_succ, hj, Nat.mul_assoc, Nat.mul_mod_right]
    rw [if_pos fits] at run
    rw [bind_some run, bind_some run]
    exact bind_some (by rw [align, next, Nat.add_zero, if_pos fits])
  · rw [if_neg fits] at run
    rw [bind_none run, bind_none run]

theorem times_length {n : Nat} {p : Parser α} {bs : List Byte} {as : List α} :
    ∀ {off last : Nat}, times n p bs off = some (as, last) → as.length = n := by
  induction n generalizing as with
  | zero =>
    intro off last h
    rw [times, pure_run] at h
    obtain ⟨rfl, -⟩ := Prod.mk.inj (Option.some.inj h)
    rfl
  | succ n ih =>
    intro off last h
    obtain ⟨a, next, -, rest⟩ := of_bind_some h
    obtain ⟨tail, after, many, done⟩ := of_bind_some rest
    rw [pure_run] at done
    obtain ⟨rfl, -⟩ := Prod.mk.inj (Option.some.inj done)
    rw [List.length_cons, ih many]

end Parser

/-! ## Moving forward -/

/-- Every answer comes at least `n` bytes further on. -/
def Moves (n : Nat) (p : Parser α) : Prop :=
  ∀ bs off a next, p bs off = some (a, next) → off + n ≤ next

theorem Moves.weaken {n n' : Nat} {p : Parser α} (h : Moves n p) (le : n' ≤ n) : Moves n' p :=
  fun bs off a next parsed => (Nat.add_le_add_left le off).trans (h bs off a next parsed)

theorem Moves.pure (a : α) : Moves 0 (pure a : Parser α) := by
  intro bs off a' next h
  obtain ⟨-, rfl⟩ := Prod.mk.inj (Option.some.inj h)
  exact Nat.le_refl _

theorem Moves.fail (n : Nat) : Moves n (Parser.fail : Parser α) := fun _ _ _ _ h => nomatch h

theorem Moves.ofOption : ∀ a : Option α, Moves 0 (Parser.ofOption a)
  | none => .fail 0
  | some a => .pure a

theorem Moves.bind {n n' : Nat} {p : Parser α} {k : α → Parser β} (hp : Moves n p)
    (hk : ∀ a, Moves n' (k a)) : Moves (n + n') (p >>= k) := by
  intro bs off b last h
  obtain ⟨a, next, first, rest⟩ := Parser.of_bind_some h
  have := hp bs off a next first
  have := hk a bs next b last rest
  omega

theorem Moves.map {n : Nat} {p : Parser α} (g : α → β) (h : Moves n p) : Moves n (g <$> p) := by
  rw [← bind_pure_comp]
  exact h.bind fun a => .pure (g a)

theorem Moves.word (o : ByteOrder) (w : Word) : Moves w.bytes (Parser.word o w) := by
  intro bs off x next h
  rw [Parser.word_run] at h
  split at h
  · obtain ⟨-, rfl⟩ := Prod.mk.inj (Option.some.inj h)
    omega
  · exact nomatch h

theorem Moves.take (n : Nat) : Moves n (Parser.take n) := by
  intro bs off b next h
  rw [Parser.take] at h
  split at h
  · obtain ⟨-, rfl⟩ := Prod.mk.inj (Option.some.inj h)
    exact Nat.le_refl _
  · exact nomatch h

theorem Moves.times {p : Parser α} (h : Moves 0 p) : ∀ n, Moves 0 (Parser.times n p)
  | 0 => .pure []
  | n + 1 => h.bind fun _ => (Moves.times h n).bind fun _ => .pure _

/-! ## Inverting a layout -/

/-- `p` answers `a` on every memory that agrees with `f`, and stops where `f` stops. -/
def Decodes (p : Parser α) (f : Layout) (a : α) : Prop :=
  ∀ bs off, Holds bs off (f off) → p bs off = some (a, off + (f off).length)

theorem Decodes.pure (a : α) : Decodes (pure a) Layout.empty a := fun _ _ _ => rfl

theorem Decodes.bind {p : Parser α} {k : α → Parser β} {f g : Layout} {a : α} {b : β}
    (hp : Decodes p f a) (hk : Decodes (k a) g b) : Decodes (p >>= k) (f ++ g) b := by
  intro bs off holds
  rw [append_apply, holds_append] at holds
  rw [Parser.bind_some (hp bs off holds.1), hk bs _ holds.2, append_length, Nat.add_assoc]

theorem Decodes.map {p : Parser α} {f : Layout} {a : α} (g : α → β) (h : Decodes p f a) :
    Decodes (g <$> p) f (g a) := by
  intro bs off holds
  rw [Parser.map_run, h bs off holds]
  rfl

/-- A sequence whose second part writes nothing. -/
theorem Decodes.andThen {p : Parser α} {k : α → Parser β} {f : Layout} {a : α} {b : β}
    (hp : Decodes p f a) (hk : Decodes (k a) Layout.empty b) : Decodes (p >>= k) f b := by
  have both := hp.bind hk
  rwa [append_empty] at both

theorem Decodes.take (bs : List Byte) : Decodes (Parser.take bs.length) (Layout.bytes bs) bs := by
  intro mem off holds
  have fits := holds.fits
  rw [bytes_apply, List.length_map] at fits
  rw [Parser.take, if_pos fits, Holds.slice holds, bytes_apply, List.length_map]

/-- A word reads back as the reading host sees it. -/
theorem Decodes.word (o o' : ByteOrder) (w : Word) (x : BitVec w.bits) :
    Decodes (Parser.word o' w) (Layout.word o w x) (o'.load w (o.store w x)) := by
  intro bs off holds
  have fits := holds.fits
  rw [word_length] at fits
  rw [Layout.word, append_apply, holds_append, align_length] at holds
  have slice := Holds.slice holds.2
  rw [ByteOrder.store_length] at slice
  rw [Parser.word_run, if_pos (by omega), slice, word_length, Nat.add_assoc]

/-- The same parser inverts the same layout as often as it stands there. -/
theorem Decodes.times {p : Parser α} {f : β → Layout} {g : β → α} :
    ∀ xs : List β, (∀ x ∈ xs, Decodes p (f x) (g x)) →
      Decodes (Parser.times xs.length p) (Layout.concat (xs.map f)) (xs.map g)
  | [], _ => Decodes.pure []
  | x :: xs, h => by
    have rest := Decodes.times xs fun y hy => h y (List.mem_cons_of_mem x hy)
    exact (h x List.mem_cons_self).bind (rest.andThen (Decodes.pure _))

/-! ## Choosing among answers -/

/-- `q` answers `g a` wherever `p` answers an `a` that is `ok`, and nothing elsewhere. -/
def Chooses (p : Parser α) (ok : α → Bool) (g : α → β) (q : Parser β) : Prop :=
  ∀ bs off, q bs off = (p bs off).bind fun r => if ok r.1 then some (g r.1, r.2) else none

section Chooses

variable {γ δ : Type} {p : Parser α} {q : Parser β} {ok : α → Bool} {g : α → β}

/-- Every answer is as good as itself. -/
theorem Chooses.refl (p : Parser α) : Chooses p (fun _ => true) id p := by
  intro bs off
  cases p bs off <;> rfl

theorem Chooses.congr {ok' : α → Bool} {g' : α → β} (h : Chooses p ok g q)
    (same : ∀ a, ok a = ok' a) (same' : ∀ a, g a = g' a) : Chooses p ok' g' q := by
  rwa [← funext same, ← funext same']

theorem Chooses.map {ok' : γ → Bool} {g' : γ → δ} {k : α → γ} {k' : β → δ} (h : Chooses p ok g q)
    (same : ∀ a, ok' (k a) = ok a) (same' : ∀ a, g' (k a) = k' (g a)) :
    Chooses (k <$> p) ok' g' (k' <$> q) := by
  intro bs off
  rw [Parser.map_run, Parser.map_run, h bs off]
  cases p bs off with
  | none => rfl
  | some r =>
    simp only [Option.map_some, Option.bind_some, same, same']
    split <;> rfl

/-- What comes before does not matter. -/
theorem Chooses.bind {x : Parser γ} {k : γ → Parser α} {k' : γ → Parser β}
    (h : ∀ c, Chooses (k c) ok g (k' c)) : Chooses (x >>= k) ok g (x >>= k') := by
  intro bs off
  cases first : x bs off with
  | none => rw [Parser.bind_none first, Parser.bind_none first]; rfl
  | some r => rw [Parser.bind_some first, Parser.bind_some first]; exact h r.1 bs r.2

/-- One answer after another: the whole list is chosen when each is. -/
theorem Chooses.cons [Inhabited α] {ps : Parser (List α)} {qs : Parser (List β)}
    {oks : List α → Bool} {gs : List α → List β} (h : Chooses p ok g q)
    (hs : Chooses ps oks gs qs) :
    Chooses (do let a ← p; let as ← ps; return a :: as)
      (fun as => ok (as.headD default) && oks as.tail)
      (fun as => g (as.headD default) :: gs as.tail)
      (do let b ← q; let bs ← qs; return b :: bs) := by
  intro bs off
  have first := h bs off
  cases answer : p bs off with
  | none =>
    rw [answer] at first
    rw [Parser.bind_none answer, Parser.bind_none first]
    rfl
  | some r =>
    rw [answer, Option.bind_some] at first
    rw [Parser.bind_some answer]
    have rest := hs bs r.2
    cases tail : ps bs r.2 with
    | none =>
      rw [tail] at rest
      rw [Parser.bind_none tail]
      by_cases good : ok r.1 = true
      · rw [if_pos good] at first
        rw [Parser.bind_some first, Parser.bind_none rest]
        rfl
      · rw [if_neg good] at first
        rw [Parser.bind_none first]
        rfl
    | some rs =>
      rw [tail, Option.bind_some] at rest
      rw [Parser.bind_some tail, Parser.pure_run, Option.bind_some]
      by_cases good : ok r.1 = true
      · rw [if_pos good] at first
        rw [Parser.bind_some first]
        by_cases goods : oks rs.1 = true
        · rw [if_pos goods] at rest
          rw [Parser.bind_some rest, if_pos (by simp [good, goods]), Parser.pure_run]
          rfl
        · rw [if_neg goods] at rest
          rw [Parser.bind_none rest, if_neg (by simp [goods])]
      · rw [if_neg good] at first
        rw [Parser.bind_none first, if_neg (by simp [good])]

theorem Chooses.times [Inhabited α] (h : Chooses p ok g q) :
    ∀ n, Chooses (Parser.times n p) (fun as => as.all ok) (List.map g) (Parser.times n q)
  | 0 => fun _ _ => rfl
  | n + 1 => by
    intro bs off
    have whole := (h.cons (h.times n)) bs off
    unfold Parser.times
    rw [whole]
    cases run : (do let a ← p; let as ← Parser.times n p; return a :: as : Parser _) bs off with
    | none => rfl
    | some r =>
      obtain ⟨answers, last⟩ := r
      obtain ⟨a, next, -, rest⟩ := Parser.of_bind_some run
      obtain ⟨as, _, -, done⟩ := Parser.of_bind_some rest
      obtain ⟨rfl, rfl⟩ := Prod.mk.inj (Option.some.inj done)
      rfl

end Chooses

end Wire
