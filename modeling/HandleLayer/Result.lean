/-!
# Results of calls

Every command with a result returns a number.  A few of them steer the layer; all others
are passed on as they are.
-/

namespace HandleLayer

/-- The result of a call. -/
structure Result where
  /-- The number of the result in the interface. -/
  code : Int
  deriving DecidableEq, Repr, Inhabited

namespace Result

/-- The call did what it was asked to do. -/
def success : Result := ⟨0⟩

/-- An array was too small for everything there was to report. -/
def incomplete : Result := ⟨5⟩

/-- The next layer does not have the entry point. -/
def extensionNotPresent : Result := ⟨-7⟩

/-- A validation object asked to skip the call. -/
def validationFailed : Result := ⟨-1000011001⟩

/-- The work goes on after the call, under a deferred operation. -/
def operationDeferred : Result := ⟨1000268002⟩

/-- The results after which an enumeration has written its count and elements. -/
def reports (r : Result) : Bool := r == success || r == incomplete

end Result

end HandleLayer
