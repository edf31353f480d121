import HandleLayer.Handle
import Std.Data.ExtTreeSet

/-!
# Sets of handles

A finite set of handles is determined by its members and always gone through in ascending
order.

## Main definitions

* `HandleSet` — finite sets of handles.
* `HandleSet.removeAll` — the members of a list taken out.

## Main results

* `HandleSet.mem_removeAll` — taking out through membership.
* `HandleSet.pairwise_toList` — the order in which a set is gone through.
-/

namespace HandleLayer

/-- A finite set of handles; two sets with the same members are equal. -/
abbrev HandleSet := Std.ExtTreeSet Handle

namespace HandleSet

/-- The set without any of `hs`. -/
def removeAll (s : HandleSet) (hs : List Handle) : HandleSet := hs.foldl .erase s

@[simp] theorem mem_removeAll {s : HandleSet} {hs : List Handle} {x : Handle} :
    x ∈ s.removeAll hs ↔ x ∈ s ∧ x ∉ hs := by
  unfold removeAll
  induction hs generalizing s with
  | nil => simp
  | cons h hs ih =>
    have hne : ¬compare h x = .eq ↔ ¬x = h := by
      rw [Std.LawfulEqCmp.compare_eq_iff_eq, eq_comm]
    simp only [List.foldl_cons, ih, Std.ExtTreeSet.mem_erase, hne, List.mem_cons, not_or]
    grind

/-- The members come in ascending order. -/
theorem pairwise_toList (s : HandleSet) : s.toList.Pairwise (· < ·) :=
  s.ordered_toList.imp Std.compare_eq_lt.1

end HandleSet

end HandleLayer
