import RmwGurumdds.Wire.Parser

/-!
# Locality

A parser is **local** when its answer rests on the bytes it stops behind and on no others: on every
byte string that agrees with its own so far, it answers the same if that string reaches as far, and
nothing if the string ends before. Both halves are one statement, because they have one reason: a
parser looks at the length of its input only to fail.
-/

namespace Wire

variable {α β : Type}

/-- The second byte string agrees with the first below `n`, as far as it reaches. -/
def Agree (n : Nat) (bs bs' : List Byte) : Prop := ∀ i < n, i < bs'.length → bs'[i]? = bs[i]?

theorem Agree.mono {n n' : Nat} {bs bs' : List Byte} (h : Agree n bs bs') (le : n' ≤ n) :
    Agree n' bs bs' := fun i lt => h i (lt.trans_le le)

/-- Whatever comes after the first bytes. -/
theorem Agree.of_take {n : Nat} {bs bs' : List Byte} (same : bs'.take n = bs.take n) :
    Agree n bs bs' := by
  intro i lt _
  have there := congrArg (fun l => l[i]?) same
  rwa [List.getElem?_take_of_lt lt, List.getElem?_take_of_lt lt] at there

/-- Whatever is cut off. -/
theorem agree_take (n m : Nat) (bs : List Byte) : Agree n bs (bs.take m) := by
  intro i _ inside
  exact List.getElem?_take_of_lt (inside.trans_le (List.length_take_le m bs))

/-- Slices that lie where both strings agree are the same. -/
theorem Agree.slice {n off k : Nat} {bs bs' : List Byte} (h : Agree n bs bs') (fits : off + k ≤ n)
    (reaches : n ≤ bs'.length) : (bs'.drop off).take k = (bs.drop off).take k := by
  apply List.ext_getElem?
  intro i
  by_cases lt : i < k
  · rw [List.getElem?_take_of_lt lt, List.getElem?_take_of_lt lt, List.getElem?_drop,
      List.getElem?_drop]
    exact h (off + i) (by omega) (by omega)
  · rw [List.getElem?_take_eq_none (Nat.le_of_not_lt lt),
      List.getElem?_take_eq_none (Nat.le_of_not_lt lt)]

namespace Parser

/-- The answers of `p` rest on the bytes it stops behind. -/
def Local (p : Parser α) : Prop :=
  ∀ bs off a next, p bs off = some (a, next) →
    off ≤ next ∧ ∀ bs', off ≤ bs'.length → Agree next bs bs' →
      p bs' off = if next ≤ bs'.length then some (a, next) else none

theorem Local.pure (a : α) : (pure a : Parser α).Local := by
  intro bs off a' next answer
  obtain ⟨rfl, rfl⟩ := Prod.mk.inj (Option.some.inj answer)
  exact ⟨Nat.le_refl _, fun bs' reaches _ => (if_pos reaches).symm⟩

theorem Local.fail : (fail : Parser α).Local := by
  intro bs off a next answer
  cases answer

theorem Local.ofOption : ∀ a : Option α, (ofOption a).Local
  | none => .fail
  | some a => .pure a

/-- **Locality composes**: a string that ends in the first part fails there, and one that ends in
the second has the first part whole. -/
theorem Local.bind {p : Parser α} {k : α → Parser β} (hp : p.Local) (hk : ∀ a, (k a).Local) :
    (p >>= k).Local := by
  intro bs off b last answer
  obtain ⟨a, next, first, rest⟩ := of_bind_some answer
  obtain ⟨forward, again⟩ := hp bs off a next first
  obtain ⟨forward', again'⟩ := hk a bs next b last rest
  refine ⟨forward.trans forward', fun bs' reaches agree => ?_⟩
  have head := again bs' reaches (agree.mono forward')
  by_cases far : next ≤ bs'.length
  · rw [if_pos far] at head
    rw [bind_some head, again' bs' far agree]
  · rw [if_neg far] at head
    rw [bind_none head, if_neg (by omega)]

theorem Local.map {p : Parser α} (g : α → β) (h : p.Local) : (g <$> p).Local := by
  rw [← bind_pure_comp]
  exact h.bind fun a => .pure (g a)

theorem Local.align (a : Nat) : (align a).Local := by
  intro bs off u next answer
  unfold Parser.align at answer
  split at answer
  · obtain ⟨-, rfl⟩ := Prod.mk.inj (Option.some.inj answer)
    exact ⟨Nat.le_add_right _ _, fun bs' _ _ => rfl⟩
  · cases answer

theorem Local.take (n : Nat) : (take n).Local := by
  intro bs off a next answer
  unfold Parser.take at answer
  split at answer
  · obtain ⟨rfl, rfl⟩ := Prod.mk.inj (Option.some.inj answer)
    refine ⟨Nat.le_add_right _ _, fun bs' _ agree => ?_⟩
    unfold Parser.take
    by_cases far : off + n ≤ bs'.length
    · rw [if_pos far, if_pos far, agree.slice (Nat.le_refl _) far]
    · rw [if_neg far, if_neg far]
  · cases answer

theorem Local.word (o : ByteOrder) (w : Word) : (word o w).Local :=
  (Local.align w.bytes).bind fun _ => (Local.take w.bytes).bind fun _ => .pure _

theorem Local.times {p : Parser α} (h : p.Local) : ∀ n, (times n p).Local
  | 0 => .pure []
  | n + 1 => h.bind fun _ => (h.times n).bind fun _ => .pure _

end Parser

end Wire
