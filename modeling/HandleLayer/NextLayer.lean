import HandleLayer.Identity
import HandleLayer.Request.Device
import HandleLayer.Request.Instance

/-!
# The next layer

Below the layer is another one, or a driver.  Nothing is known of it but that it answers
calls, from a state of its own.  An answer is a result together with writes into the
output storage of the caller; elements that it does not write keep what they held.

## Main definitions

* `Request`, `Call` — what the next layer is asked.
* `Outputs`, `Reply`, `Reply.write` — output storage, and what an answer leaves in it.
* `Outputs.first`, `Outputs.present` — the handles that a call is to give, and others shown in
  their places.
* `NextLayer` — a next layer with states of a type.
-/

namespace HandleLayer

/-- What an object of the next layer is asked. -/
inductive Request
  | ofInstance (request : InstanceRequest)
  | ofDevice (request : DeviceRequest)
  deriving DecidableEq, Repr

/-- The command of a request. -/
def Request.command : Request → Command
  | .ofInstance r => r.command
  | .ofDevice r => r.command

/-- A call that reaches the next layer. -/
structure Call where
  /-- The instance or device that the call is made on. -/
  object : Handle
  request : Request
  /-- The number of slots in the output array; none is a null pointer. -/
  room : Option Nat
  deriving DecidableEq, Repr

/-! ### Output storage -/

/-- A slot for a tool.  The type and the chain of the slot belong to the application. -/
structure ToolSlot where
  sType : Int
  chain : List Block
  tool : Tool
  deriving DecidableEq, Repr, Inhabited

/-- The slot with the tool in it replaced. -/
def ToolSlot.put (t : Tool) (s : ToolSlot) : ToolSlot := { s with tool := t }

/-- Storage of the application for the outputs of a call; a call uses some of it. -/
structure Outputs where
  /-- The array of handles; none is a null pointer. -/
  slots : Option (List Handle) := none
  /-- The chains of the call that have outputs in them, one for each thing asked for. -/
  chains : List (List Block) := []
  /-- The number of elements of an enumeration. -/
  count : UInt32 := 0
  /-- The array of tools; none is a null pointer. -/
  tools : Option (List ToolSlot) := none
  /-- The number of an image. -/
  index : UInt32 := 0
  /-- The results for each swapchain; none is a null pointer. -/
  results : Option (List Result) := none
  /-- The size of an acceleration structure. -/
  size : UInt64 := 0
  apiVersion : ApiVersion := 0
  deriving DecidableEq, Repr, Inhabited

namespace Outputs

/-- The handles in the first `count` slots; a null pointer has none. -/
def first (count : Nat) (out : Outputs) : List Handle := (out.slots.getD []).take count

/-- The storage with other handles in the first slots. -/
def present (hs : List Handle) (out : Outputs) : Outputs :=
  { out with slots := out.slots.map (overwrite · hs) }

@[simp] theorem slots_present (hs : List Handle) (out : Outputs) :
    (out.present hs).slots = out.slots.map (overwrite · hs) := rfl

@[simp] theorem present_first (count : Nat) (out : Outputs) :
    out.present (out.first count) = out := by
  have hslots : out.slots.map (overwrite · (out.first count)) = out.slots := by
    unfold first
    cases out.slots with
    | none => rfl
    | some slots => exact congrArg some (overwrite_take slots count)
  unfold present
  rw [hslots]

theorem first_of_null {out : Outputs} (h : out.slots = none) (count : Nat) :
    out.first count = [] := by
  unfold first
  rw [h]
  exact List.take_nil

/-- An array that is no longer than asked for is read as a whole. -/
theorem first_of_length_le {out : Outputs} {hs : List Handle} {count : Nat}
    (hslots : out.slots = some hs) (hlength : hs.length ≤ count) : out.first count = hs := by
  unfold first
  rw [hslots]
  exact List.take_of_length_le hlength

/-- What is shown in the first slots is found there. -/
theorem first_present {hs : List Handle} {count : Nat} {out : Outputs}
    (h : hs.length = (out.first count).length) : (out.present hs).first count = hs := by
  cases hslots : out.slots with
  | none =>
    rw [first_of_null hslots] at h
    rw [first_of_null (by rw [slots_present, hslots]; rfl), List.eq_nil_of_length_eq_zero h]
  | some slots =>
    unfold first at h
    unfold first present
    rw [hslots] at h ⊢
    exact take_overwrite h

end Outputs

/-- Outputs of an earlier call that the next layer writes now. -/
structure LateWrite where
  /-- The place that the earlier call named. -/
  batch : BatchId
  slots : List (Option Handle)
  fills : List (List BlockFill)
  deriving DecidableEq, Repr

/-- An answer of the next layer.  What is not said is not written. -/
structure Reply where
  result : Result := .success
  slots : List (Option Handle) := []
  /-- What is written into the chains of the call. -/
  fills : List (List BlockFill) := []
  count : Option UInt32 := none
  tools : List Tool := []
  index : Option UInt32 := none
  results : List (Option Result) := []
  size : Option UInt64 := none
  apiVersion : Option ApiVersion := none
  late : List LateWrite := []
  deriving DecidableEq, Repr, Inhabited

namespace Reply

/-- What a call comes to whose entry point the next layer does not have. -/
def missing (c : Command) : Reply :=
  { result := if c.returnsResult then .extensionNotPresent else .success }

/-- The answer with the result that the entry point has; one without a result always
succeeds. -/
def ofCommand (c : Command) (r : Reply) : Reply :=
  { r with result := if c.returnsResult then r.result else .success }

/-- The chains handed down, as the next layer leaves them. -/
def fillChains (r : Reply) (sent : List Chain) : List Chain :=
  onto (fun ws c => c.fill ws) r.fills sent

/-- The output storage after an answer to a call with the chains `sent`. -/
def write (r : Reply) (sent : List Chain) (out : Outputs) : Outputs where
  slots := out.slots.map (overlay · r.slots)
  chains := onto Chain.settle (r.fillChains sent) out.chains
  count := r.count.getD out.count
  tools := out.tools.map (onto ToolSlot.put r.tools)
  index := r.index.getD out.index
  results := out.results.map (overlay · r.results)
  size := r.size.getD out.size
  apiVersion := r.apiVersion.getD out.apiVersion

end Reply

/-- A next layer: how it answers a call in a state, and the state after it. -/
class NextLayer (σ : Type) where
  answer : Call → σ → Reply × σ

end HandleLayer
