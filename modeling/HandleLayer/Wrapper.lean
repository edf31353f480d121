import HandleLayer.AppArray
import HandleLayer.SurrogateMap

/-!
# Wrapping, switched on or off

Handle wrapping is a feature that may be off.  Then every operation is the identity and
the map is never touched.  The null handle passes through untouched in either case.

## Main definitions

* `Wrapper` — the surrogate map with the switch.
* `wrapNew`, `wrapDisplay` — real handles on their way to the application.
* `unwrap`, `unwrapOrKeep`, `pop`, `erase` — surrogates on their way to the next layer.
-/

namespace HandleLayer

/-- The surrogate map with the switch that decides whether it is used. -/
structure Wrapper where
  /-- Whether handles are wrapped. -/
  enabled : Bool
  /-- The surrogates. -/
  map : SurrogateMap

namespace Wrapper

/-- A wrapper over the empty map. -/
def new (enabled : Bool) : Wrapper := ⟨enabled, .empty⟩

instance : Inhabited Wrapper := ⟨new true⟩

/-- Whether a handle is passed through untouched. -/
def passes (w : Wrapper) (h : Handle) : Bool := !w.enabled || h == 0

/-- A fresh surrogate for a newly created object. -/
def wrapNew (w : Wrapper) (real : Handle) : Handle × Wrapper :=
  if w.passes real then (real, w)
  else
    let (surrogate, map) := w.map.wrap real
    (surrogate, { w with map })

/-- The one surrogate of a handle that the next layer reports again and again. -/
def wrapDisplay (w : Wrapper) (real : Handle) : Handle × Wrapper :=
  if w.passes real then (real, w)
  else
    let (surrogate, map) := w.map.wrapUnique real
    (surrogate, { w with map })

/-- The real handle behind `h`; a handle that is no live surrogate becomes null. -/
def unwrap (w : Wrapper) (h : Handle) : Handle :=
  if w.passes h then h else (w.map.unwrap h).getD 0

/-- The real handle behind `h`, or `h` itself when it is no live surrogate. -/
def unwrapOrKeep (w : Wrapper) (h : Handle) : Handle :=
  if w.passes h then h else (w.map.unwrap h).getD h

/-- Removes `h` and answers the real handle behind it; a handle that is no live
surrogate becomes null. -/
def pop (w : Wrapper) (h : Handle) : Handle × Wrapper :=
  if w.passes h then (h, w)
  else
    let (real, map) := w.map.pop h
    (real.getD 0, { w with map })

/-- Removes `h`, if it is a live surrogate. -/
def erase (w : Wrapper) (h : Handle) : Wrapper :=
  if w.passes h then w else { w with map := (w.map.erase h).2 }

/-- Removes every one of the handles. -/
def eraseMany (w : Wrapper) (hs : List Handle) : Wrapper := hs.foldl erase w

/-- Fresh surrogates for the handles, minted in order. -/
def wrapNewMany (w : Wrapper) : List Handle → List Handle × Wrapper
  | [] => ([], w)
  | real :: reals =>
    let (surrogate, w) := w.wrapNew real
    let (surrogates, w) := w.wrapNewMany reals
    (surrogate :: surrogates, w)

/-- The kept surrogates of the handles, looked up or minted in order. -/
def wrapDisplayMany (w : Wrapper) : List Handle → List Handle × Wrapper
  | [] => ([], w)
  | real :: reals =>
    let (surrogate, w) := w.wrapDisplay real
    let (surrogates, w) := w.wrapDisplayMany reals
    (surrogate :: surrogates, w)

/-! ### Null handles and the switch -/

@[simp] theorem unwrap_zero (w : Wrapper) : w.unwrap 0 = 0 := by simp [unwrap, passes]

@[simp] theorem unwrapOrKeep_zero (w : Wrapper) : w.unwrapOrKeep 0 = 0 := by
  simp [unwrapOrKeep, passes]

@[simp] theorem wrapNew_zero (w : Wrapper) : w.wrapNew 0 = (0, w) := by simp [wrapNew, passes]

theorem unwrap_of_disabled {w : Wrapper} (hw : w.enabled = false) (h : Handle) :
    w.unwrap h = h := by
  simp [unwrap, passes, hw]

theorem unwrapOrKeep_of_disabled {w : Wrapper} (hw : w.enabled = false) (h : Handle) :
    w.unwrapOrKeep h = h := by
  simp [unwrapOrKeep, passes, hw]

theorem wrapNew_of_disabled {w : Wrapper} (hw : w.enabled = false) (h : Handle) :
    w.wrapNew h = (h, w) := by
  simp [wrapNew, passes, hw]

theorem erase_of_disabled {w : Wrapper} (hw : w.enabled = false) (h : Handle) :
    w.erase h = w := by
  simp [erase, passes, hw]

end Wrapper

end HandleLayer
