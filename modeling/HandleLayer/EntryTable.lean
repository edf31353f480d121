import HandleLayer.Command

/-!
# Tables of entry points

The next layer is reached through entry points that were looked up by name once.  A call
to one that was not found does nothing.

## Main definitions

* `EntryTable`, `EntryTable.provides` — the entry points that were found.
* `EntryTable.instancePoints`, `EntryTable.devicePoints` — what is looked up.
* `EntryTable.unresolved` — the names of those that were not found.
-/

namespace HandleLayer

/-- The entry points of the next layer that can be called. -/
structure EntryTable where
  provided : List Command
  deriving DecidableEq, Repr, Inhabited

namespace EntryTable

/-- The entry points that are looked up for an instance. -/
def instancePoints : List Command := Command.all.filter Command.isInstanceLevel

/-- The entry points that are looked up for a device. -/
def devicePoints : List Command := Command.all.filter fun c => !c.isInstanceLevel

/-- The table of those entry points that the next layer knows. -/
def load (points : List Command) (knows : Command → Bool) : EntryTable :=
  ⟨points.filter knows⟩

/-- The table without entry points. -/
def empty : EntryTable := ⟨[]⟩

/-- Whether the entry point can be called. -/
def provides (t : EntryTable) (c : Command) : Bool := t.provided.contains c

/-- The names of the entry points that were looked up in vain, in order. -/
def unresolved (t : EntryTable) (points : List Command) : List String :=
  (points.filter fun c => !t.provides c).map Command.name

@[simp] theorem provides_empty (c : Command) : empty.provides c = false := rfl

theorem provides_load (points : List Command) (knows : Command → Bool) (c : Command) :
    (load points knows).provides c = true ↔ c ∈ points ∧ knows c = true := by
  simp [load, provides]

end EntryTable

end HandleLayer
