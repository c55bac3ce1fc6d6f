import Mathlib.Data.Set.Insert

/-!
# Keyed tables

A store keeps several tables, each with at most one entry for a key. An entry is put in where there
is none (`emplace`) and taken out where there is one (`erase`); both leave every other key and every
other table alone.

A `KeyedStore` is any state that can be looked at as such tables, and whose two operations answer
whether they changed anything. `Lawful` says that it is nothing more.
-/

namespace Store

variable {σ ι κ α : Type}

/-- A family of tables. -/
abbrev Tables (ι κ α : Type) := ι → κ → Option α

/-- The keys of a table. -/
def Tables.keys (t : Tables ι κ α) (i : ι) : Set κ := {k | (t i k).isSome = true}

theorem Tables.mem_keys {t : Tables ι κ α} {i : ι} {k : κ} :
    k ∈ t.keys i ↔ (t i k).isSome = true := Iff.rfl

section Operations

variable [DecidableEq ι] [DecidableEq κ]

/-- An entry is put in where there is none. -/
def Tables.emplace (t : Tables ι κ α) (i : ι) (k : κ) (a : α) : Tables ι κ α :=
  fun j l => if j = i ∧ l = k then some ((t j l).getD a) else t j l

/-- An entry is taken out. -/
def Tables.erase (t : Tables ι κ α) (i : ι) (k : κ) : Tables ι κ α :=
  fun j l => if j = i ∧ l = k then none else t j l

variable {t : Tables ι κ α} {i j : ι} {k l : κ} {a : α}

@[simp] theorem Tables.mem_keys_emplace :
    l ∈ (t.emplace i k a).keys j ↔ (j = i ∧ l = k) ∨ l ∈ t.keys j := by
  rw [mem_keys, mem_keys, emplace]
  split
  · rename_i here
    simp [here]
  · rename_i elsewhere
    simp [elsewhere]

@[simp] theorem Tables.mem_keys_erase :
    l ∈ (t.erase i k).keys j ↔ l ∈ t.keys j ∧ ¬ (j = i ∧ l = k) := by
  rw [mem_keys, mem_keys, erase]
  split
  · rename_i here
    simp [here]
  · rename_i elsewhere
    simp [elsewhere]

/-- An entry that is there stays as it is. -/
theorem Tables.emplace_of_mem (present : k ∈ t.keys i) : t.emplace i k a = t := by
  funext j l
  rw [emplace]
  split
  · rename_i here
    obtain ⟨rfl, rfl⟩ := here
    obtain ⟨b, entry⟩ := Option.isSome_iff_exists.mp present
    rw [entry, Option.getD_some]
  · rfl

theorem Tables.erase_of_notMem (absent : k ∉ t.keys i) : t.erase i k = t := by
  funext j l
  rw [erase]
  split
  · rename_i here
    obtain ⟨rfl, rfl⟩ := here
    exact (Option.not_isSome_iff_eq_none.mp absent).symm
  · rfl

/-- Taking out what was put in where there was nothing leaves nothing behind. -/
theorem Tables.erase_emplace (absent : k ∉ t.keys i) : (t.emplace i k a).erase i k = t := by
  funext j l
  rw [erase, emplace]
  split
  · rename_i here
    obtain ⟨rfl, rfl⟩ := here
    exact (Option.not_isSome_iff_eq_none.mp absent).symm
  · rfl

/-- A state that keeps tables, with the two operations that change them. Both answer whether they
did. -/
structure KeyedStore (σ ι κ α : Type) where
  tables : σ → Tables ι κ α
  add : ι → κ → α → σ → Bool × σ
  remove : ι → κ → σ → Bool × σ

/-- The operations do what they are named after: adding fails only on a key that is there, removing
only on one that is not, and neither touches another key or another table. -/
structure KeyedStore.Lawful (S : KeyedStore σ ι κ α) : Prop where
  add_fst : ∀ i k a s, (S.add i k a s).1 = !(S.tables s i k).isSome
  add_snd : ∀ i k a s, S.tables (S.add i k a s).2 = (S.tables s).emplace i k a
  remove_fst : ∀ i k s, (S.remove i k s).1 = (S.tables s i k).isSome
  remove_snd : ∀ i k s, S.tables (S.remove i k s).2 = (S.tables s).erase i k

/-- The tables themselves are a store. -/
def Tables.store : KeyedStore (Tables ι κ α) ι κ α where
  tables := id
  add i k a t := (!(t i k).isSome, t.emplace i k a)
  remove i k t := ((t i k).isSome, t.erase i k)

theorem Tables.store_lawful : (Tables.store : KeyedStore (Tables ι κ α) ι κ α).Lawful :=
  ⟨fun _ _ _ _ => rfl, fun _ _ _ _ => rfl, fun _ _ _ => rfl, fun _ _ _ => rfl⟩

end Operations

end Store
