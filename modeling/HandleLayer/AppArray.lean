/-!
# Arrays of the application

The application passes an array as a pointer and a count.  The pointer may be null with
any count, and a pointer that is not null may come with the count zero; the layer keeps
both facts apart.

## Main definitions

* `AppArray` — a null pointer with its count, or the elements.
* `AppArray.map`, `AppArray.toList`, `AppArray.count` — the copy with each element
  replaced, what can be read, and what the application said.
-/

namespace HandleLayer

/-- A pointer and a count, as the application passes them. -/
inductive AppArray (α : Type) where
  /-- A null pointer with the count that came beside it. -/
  | null (count : Nat)
  /-- A pointer to the elements, whose number is the count. -/
  | elems (xs : List α)
  deriving DecidableEq, Repr

namespace AppArray

variable {α β : Type}

instance : Inhabited (AppArray α) := ⟨null 0⟩

/-- The count beside the pointer. -/
def count : AppArray α → Nat
  | null n => n
  | elems xs => xs.length

/-- The elements that can be read; a null pointer has none. -/
def toList : AppArray α → List α
  | null _ => []
  | elems xs => xs

/-- A copy with every element replaced: a null pointer stays null and keeps its count. -/
def map (f : α → β) : AppArray α → AppArray β
  | null n => null n
  | elems xs => elems (xs.map f)

/-- Whether the pointer is null. -/
def isNull : AppArray α → Bool
  | null _ => true
  | elems _ => false

@[simp] theorem count_null (n : Nat) : (null n : AppArray α).count = n := rfl

@[simp] theorem count_elems (xs : List α) : (elems xs).count = xs.length := rfl

@[simp] theorem toList_null (n : Nat) : (null n : AppArray α).toList = [] := rfl

@[simp] theorem toList_elems (xs : List α) : (elems xs).toList = xs := rfl

@[simp] theorem map_null (f : α → β) (n : Nat) : (null n : AppArray α).map f = null n := rfl

@[simp] theorem map_elems (f : α → β) (xs : List α) :
    (elems xs).map f = elems (xs.map f) := rfl

@[simp] theorem count_map (f : α → β) (a : AppArray α) : (a.map f).count = a.count := by
  cases a <;> simp

@[simp] theorem toList_map (f : α → β) (a : AppArray α) :
    (a.map f).toList = a.toList.map f := by
  cases a <;> simp

@[simp] theorem isNull_map (f : α → β) (a : AppArray α) : (a.map f).isNull = a.isNull := by
  cases a <;> rfl

@[simp] theorem map_id (a : AppArray α) : a.map id = a := by
  cases a <;> simp

end AppArray

end HandleLayer
