/-!
# Writing over arrays

Output arrays hold something before a call.  The next layer writes some of the elements
and leaves the others alone.

## Main definitions

* `overlay` — the array after the writes.
* `overwrite` — the array with another array copied over its beginning.
* `onto` — elements of one list applied to those of another.

## Main results

* `getElem?_overwrite`, `getElem?_overwrite_of_le`, `take_overwrite` — what stands where after an
  array was copied.
* `getElem?_onto` — what stands where after elements were applied.
-/

namespace HandleLayer

/-- The array after the writes: an element without a write, and one beyond the last
write, is left alone. -/
def overlay {α : Type} : (old : List α) → (writes : List (Option α)) → List α
  | [], _ => []
  | x :: xs, [] => x :: xs
  | x :: xs, w :: ws => w.getD x :: overlay xs ws

/-- The array `old` with `new` copied over its beginning. -/
def overwrite {α : Type} (old new : List α) : List α := overlay old (new.map some)

/-- The list `ys` with each element changed by the element of `xs` at its place, if there
is one. -/
def onto {α β : Type} (f : α → β → β) : List α → List β → List β
  | [], ys => ys
  | _ :: _, [] => []
  | x :: xs, y :: ys => f x y :: onto f xs ys

@[simp] theorem onto_nil {α β : Type} (f : α → β → β) (ys : List β) : onto f [] ys = ys := rfl

@[simp] theorem onto_nil_right {α β : Type} (f : α → β → β) (xs : List α) :
    onto f xs [] = [] := by
  cases xs <;> rfl

@[simp] theorem onto_cons {α β : Type} (f : α → β → β) (x : α) (xs : List α) (y : β)
    (ys : List β) : onto f (x :: xs) (y :: ys) = f x y :: onto f xs ys := rfl

@[simp] theorem length_onto {α β : Type} (f : α → β → β) (xs : List α) (ys : List β) :
    (onto f xs ys).length = ys.length := by
  induction ys generalizing xs with
  | nil => simp
  | cons y ys ih => cases xs <;> simp [ih]

theorem getElem?_onto {α β : Type} (f : α → β → β) (xs : List α) (ys : List β) (i : Nat) :
    (onto f xs ys)[i]? = (ys[i]?).map fun y => (xs[i]?).elim y (f · y) := by
  induction ys generalizing xs i with
  | nil => rw [onto_nil_right]; rfl
  | cons y ys ih =>
    cases xs with
    | nil => rw [onto_nil]; cases (y :: ys)[i]? <;> rfl
    | cons x xs =>
      cases i with
      | zero => rfl
      | succ i => exact ih xs i

@[simp] theorem overlay_nil {α : Type} (ws : List (Option α)) : overlay [] ws = [] := rfl

@[simp] theorem overlay_nil_right {α : Type} (xs : List α) : overlay xs [] = xs := by
  cases xs <;> rfl

@[simp] theorem overlay_cons {α : Type} (x : α) (xs : List α) (w : Option α)
    (ws : List (Option α)) : overlay (x :: xs) (w :: ws) = w.getD x :: overlay xs ws := rfl

@[simp] theorem length_overlay {α : Type} (xs : List α) (ws : List (Option α)) :
    (overlay xs ws).length = xs.length := by
  induction xs generalizing ws with
  | nil => rfl
  | cons x xs ih => cases ws <;> simp [ih]

theorem overwrite_of_length_eq {α : Type} {old new : List α} (h : old.length = new.length) :
    overwrite old new = new := by
  unfold overwrite
  induction old generalizing new with
  | nil => cases new <;> simp_all
  | cons x xs ih => cases new <;> simp_all

theorem getElem?_overwrite {α : Type} {old new : List α} {i : Nat} (hold : i < old.length)
    (hnew : i < new.length) : (overwrite old new)[i]? = new[i]? := by
  unfold overwrite
  induction old generalizing new i with
  | nil => exact absurd hold (Nat.not_lt_zero i)
  | cons x xs ih =>
    cases new with
    | nil => exact absurd hnew (Nat.not_lt_zero i)
    | cons y ys =>
      cases i with
      | zero => rfl
      | succ i => exact ih (Nat.lt_of_succ_lt_succ hold) (Nat.lt_of_succ_lt_succ hnew)

theorem getElem?_overwrite_of_le {α : Type} {old new : List α} {i : Nat} (h : new.length ≤ i) :
    (overwrite old new)[i]? = old[i]? := by
  unfold overwrite
  induction old generalizing new i with
  | nil => rfl
  | cons x xs ih =>
    cases new with
    | nil => rfl
    | cons y ys =>
      cases i with
      | zero => cases h
      | succ i => exact ih (Nat.le_of_succ_le_succ h)

/-- What was written over the beginning of an array stands there. -/
theorem take_overwrite {α : Type} {old new : List α} {n : Nat}
    (h : new.length = (old.take n).length) : (overwrite old new).take n = new := by
  unfold overwrite
  induction old generalizing new n with
  | nil =>
    rw [List.take_nil] at h
    rw [overlay_nil, List.take_nil, List.eq_nil_of_length_eq_zero h]
  | cons x old ih =>
    cases n with
    | zero => rw [List.take_zero, List.eq_nil_of_length_eq_zero h]
    | succ n =>
      cases new with
      | nil => cases h
      | cons y new =>
        rw [List.map_cons, overlay_cons, List.take_succ_cons, ih (Nat.succ.inj h), Option.getD_some]

/-- What is written past the end of an array is lost. -/
theorem overwrite_take_length {α : Type} (old new : List α) :
    overwrite old (new.take old.length) = overwrite old new := by
  unfold overwrite
  induction old generalizing new with
  | nil => rfl
  | cons x old ih =>
    cases new with
    | nil => rfl
    | cons y new =>
      rw [List.length_cons, List.take_succ_cons, List.map_cons, List.map_cons, overlay_cons,
        overlay_cons, ih]

theorem overwrite_take_length_take {α : Type} (old new : List α) (n : Nat) :
    overwrite old (new.take (old.take n).length) = overwrite old (new.take n) := by
  rw [List.length_take, Nat.min_comm, ← List.take_take, overwrite_take_length]

/-- What stands in an array already is written over itself. -/
theorem overwrite_take {α : Type} (old : List α) (n : Nat) :
    overwrite old (old.take n) = old := by
  unfold overwrite
  induction old generalizing n with
  | nil => rfl
  | cons x old ih =>
    cases n with
    | zero => rfl
    | succ n =>
      rw [List.take_succ_cons, List.map_cons, overlay_cons, ih, Option.getD_some]

end HandleLayer
