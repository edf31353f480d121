import HandleLayer.Proofs.Ids
import HandleLayer.Proofs.Naming
import HandleLayer.Proofs.Programs

/-!
# Programs of an application

An application goes on from what earlier calls have answered: it names objects by the
output slots in which their handles came.  A ledger says which object came in which slot
and which objects are gone, whatever their handles are.

## Main definitions

* `Obj`, `Ledger` — the objects of an application, and what has become of them.
* `Source`, `ProgramCall` — where a handle comes from, and one call of a program.
* `Ledger.permits` — the names that a call may use.
* `Ledger.next` — what a call makes and what it does away with.
* `ProgramCall.perform`, `runProgram` — a call of a program, and all of them in turn.
* `Ledger.honours`, `isAdmissible` — what is expected of the next layer, and of a program
  together with it.
-/

namespace HandleLayer

/-! ### Objects -/

/-- The kinds of object that belong to another one. -/
inductive ChildKind
  | set
  | image
  | primary
  | secondary
  deriving DecidableEq

/-- An object of an application, by how it came into being. -/
inductive Obj
  /-- What the null handle stands for. -/
  | null
  /-- The object made by the call with this number. -/
  | made (call : Nat)
  /-- An object that belongs to another one, by the number of the call and its place in the
  output.  Every call that reports the images of a swapchain reports the same ones; the
  number of their call is zero. -/
  | child (owner : Obj) (kind : ChildKind) (call index : Nat)
  deriving DecidableEq

namespace Obj

/-- Whether an object is a command buffer. -/
def isBuffer : Obj → Bool
  | child _ .primary _ _ => true
  | child _ .secondary _ _ => true
  | _ => false

/-- Whether an object is a secondary command buffer. -/
def isSecondary : Obj → Bool
  | child _ .secondary _ _ => true
  | _ => false

theorem exists_of_isSecondary {o : Obj} (h : o.isSecondary = true) :
    ∃ pool call index, o = child pool .secondary call index := by
  cases o with
  | child pool kind call index =>
    cases kind with
    | secondary => exact ⟨pool, call, index, rfl⟩
    | _ => exact absurd h Bool.false_ne_true
  | _ => exact absurd h Bool.false_ne_true

/-- Whether an object belongs to `owner`. -/
def isChildOf (owner : Obj) : Obj → Bool
  | child owner' _ _ _ => owner' == owner
  | _ => false

/-- The number of the call that an object is named after. -/
def call : Obj → Nat
  | made call => call
  | child _ _ call _ => call
  | null => 0

end Obj

/-- What has become of the objects of an application. -/
structure Ledger where
  /-- The objects in the output slots of every call so far. -/
  slots : List (List Obj)
  /-- Those that are destroyed or freed, or whose owner is destroyed or reset. -/
  gone : List Obj

/-! ### Calls -/

/-- Where a handle of a request comes from. -/
inductive Source
  | null
  /-- An output slot of an earlier call. -/
  | slot (call index : Nat)
  /-- A dispatchable handle that no call of the program has made. -/
  | outside (h : Handle)
  deriving DecidableEq

/-- What a call has come to: its result, and the output storage afterwards. -/
abbrev Outcome := Result × Outputs

/-- The handle in an output slot; one that is not there is null. -/
def Outcome.slot (index : Nat) (o : Outcome) : Handle := ((o.2.slots.getD [])[index]?).getD 0

/-- The handle in an output slot of the call with this number. -/
def slotOf (outcomes : List Outcome) (call index : Nat) : Handle :=
  ((outcomes[call]?).map (Outcome.slot index)).getD 0

theorem slotOf_append_of_lt {outcomes : List Outcome} {call : Nat} (hlt : call < outcomes.length)
    (o : Outcome) (index : Nat) :
    slotOf (outcomes ++ [o]) call index = slotOf outcomes call index := by
  unfold slotOf
  rw [List.getElem?_append_left hlt]

theorem slotOf_append_self (outcomes : List Outcome) (o : Outcome) (index : Nat) :
    slotOf (outcomes ++ [o]) outcomes.length index = o.slot index := by
  unfold slotOf
  rw [List.getElem?_append_right (Nat.le_refl _), Nat.sub_self]
  rfl

/-- The handle that the application passes. -/
def Source.value (outcomes : List Outcome) : Source → Handle
  | null => 0
  | slot call index => slotOf outcomes call index
  | outside h => h

/-- Whether a handle does not come from a call of the program. -/
def Source.isOutside : Source → Bool
  | outside _ => true
  | null | slot .. => false

/-- One call of a program: a request in which handles are mere names, where they come
from, and the output storage. -/
structure ProgramCall where
  template : DeviceRequest
  source : Handle → Source
  out : Outputs

/-- The request that the application makes. -/
def ProgramCall.request (outcomes : List Outcome) (c : ProgramCall) : DeviceRequest :=
  c.template.mapHandles fun n => (c.source n).value outcomes

theorem ProgramCall.command_request (c : ProgramCall) (outcomes : List Outcome) :
    (c.request outcomes).command = c.template.command := DeviceRequest.command_mapHandles _ _

theorem ProgramCall.isCovered_request (c : ProgramCall) (outcomes : List Outcome) :
    (c.request outcomes).isCovered = c.template.isCovered := DeviceRequest.isCovered_mapHandles _ _

/-- The handles of objects in the output slots after a call; they come first. -/
def DeviceRequest.produced : DeviceRequest → Outcome → List Handle
  | .create _, (result, out) => if result = .success then out.first 1 else []
  | .allocateSets _ layouts, (result, out) =>
    if result = .success then out.first layouts.count else []
  | .allocateCommandBuffers _ _ count, (result, out) =>
    if result = .success then out.first count.toNat else []
  | .getSwapchainImages _, (result, out) =>
    if result.reports then out.first out.count.toNat else []
  | _, _ => []

/-- A call that is skipped makes nothing. -/
theorem DeviceRequest.produced_of_skipped (r : DeviceRequest) (out : Outputs) :
    r.produced (.validationFailed, out) = [] := by
  cases r <;> rfl

/-- What a call makes does not depend on the handles in it. -/
theorem DeviceRequest.produced_mapHandles (f : Handle → Handle) (r : DeviceRequest) (o : Outcome) :
    (r.mapHandles f).produced o = r.produced o := by
  cases r with
  | allocateSets pool layouts =>
    show (if o.1 = .success then o.2.first (layouts.map f).count else []) = _
    rw [AppArray.count_map]
    rfl
  | _ => rfl

namespace Ledger

/-- Nothing has happened yet. -/
def empty : Ledger := ⟨[], []⟩

/-- The number of calls so far. -/
def size (L : Ledger) : Nat := L.slots.length

/-- All objects that there have been. -/
def objects (L : Ledger) : List Obj := L.slots.flatten

/-- Whether an object may still be named. -/
def isAlive (L : Ledger) (o : Obj) : Bool := L.objects.contains o && !L.gone.contains o

/-- The object at a place. -/
def at? (L : Ledger) (call index : Nat) : Option Obj :=
  (L.slots[call]?).bind fun os => os[index]?

/-- The object that a handle from a source stands for. -/
def object (L : Ledger) : Source → Obj
  | .slot call index => (L.at? call index).getD .null
  | _ => .null

/-- The objects that belong to `owner`. -/
def children (L : Ledger) (owner : Obj) : List Obj := L.objects.filter (Obj.isChildOf owner)

/-- Whether a name may be used in its place.  The handles of objects that matter must come
from calls, and the objects must not be gone; a handle that is ignored must be null. -/
def permits (L : Ledger) (source : Handle → Source) : HandleUse × Handle → Bool
  | (.wrapped, n) =>
    source n == .null || L.isAlive (L.object (source n)) && !(L.object (source n)).isBuffer
  | (.owner, n) => L.isAlive (L.object (source n)) && !(L.object (source n)).isBuffer
  | (.commandBuffer, n) =>
    source n == .null || L.isAlive (L.object (source n)) && (L.object (source n)).isBuffer
  | (.dispatchable, n) => (source n).isOutside
  | (.inherited buffer, n) =>
    source n == .null ||
      L.isAlive (L.object (source buffer)) && (L.object (source buffer)).isSecondary &&
        (L.isAlive (L.object (source n)) && !(L.object (source n)).isBuffer)
  | (.labelled, n) =>
    source n == .null || (source n).isOutside || L.isAlive (L.object (source n))
  | (.ignored, n) => source n == .null

theorem isAlive_iff {L : Ledger} {o : Obj} :
    L.isAlive o = true ↔ o ∈ L.objects ∧ o ∉ L.gone := by
  simp [isAlive]

section Permits

variable {L : Ledger} {source : Handle → Source} {n : Handle}

theorem permits_wrapped : L.permits source (.wrapped, n) = true ↔
    source n = .null ∨ (L.object (source n) ∈ L.objects ∧ L.object (source n) ∉ L.gone) ∧
      (L.object (source n)).isBuffer = false := by
  simp [permits, isAlive_iff]

theorem permits_owner : L.permits source (.owner, n) = true ↔
    (L.object (source n) ∈ L.objects ∧ L.object (source n) ∉ L.gone) ∧
      (L.object (source n)).isBuffer = false := by
  simp [permits, isAlive_iff]

theorem permits_commandBuffer : L.permits source (.commandBuffer, n) = true ↔
    source n = .null ∨ (L.object (source n) ∈ L.objects ∧ L.object (source n) ∉ L.gone) ∧
      (L.object (source n)).isBuffer = true := by
  simp [permits, isAlive_iff]

theorem permits_inherited {buffer : Handle} :
    L.permits source (.inherited buffer, n) = true ↔ source n = .null ∨
      ((L.object (source buffer) ∈ L.objects ∧ L.object (source buffer) ∉ L.gone) ∧
        (L.object (source buffer)).isSecondary = true) ∧
      (L.object (source n) ∈ L.objects ∧ L.object (source n) ∉ L.gone) ∧
        (L.object (source n)).isBuffer = false := by
  simp [permits, isAlive_iff]

theorem permits_labelled : L.permits source (.labelled, n) = true ↔
    source n = .null ∨ (source n).isOutside = true ∨
      L.object (source n) ∈ L.objects ∧ L.object (source n) ∉ L.gone := by
  simp [permits, isAlive_iff, or_assoc]

end Permits

/-- The object in one of the first output slots of the next call, if there is one. -/
def name (L : Ledger) (c : ProgramCall) (index : Nat) : Obj :=
  match c.template with
  | .create _ => .made L.size
  | .allocateSets pool _ => .child (L.object (c.source pool)) .set L.size index
  | .allocateCommandBuffers pool level _ =>
    .child (L.object (c.source pool)) (if level = .secondary then .secondary else .primary)
      L.size index
  | .getSwapchainImages swapchain => .child (L.object (c.source swapchain)) .image 0 index
  | _ => .null

/-- The objects that the next call makes or reports. -/
def made (L : Ledger) (c : ProgramCall) (o : Outcome) : List Obj :=
  (List.range (c.template.produced o).length).map (L.name c)

/-- The objects that the next call does away with. -/
def lost (L : Ledger) (c : ProgramCall) (o : Outcome) : List Obj :=
  match c.template with
  | .destroy _ n => L.object (c.source n) :: L.children (L.object (c.source n))
  | .releaseConfiguration n => if o.1 = .success then [L.object (c.source n)] else []
  | .resetDescriptorPool pool _ =>
    if o.1 = .success then L.children (L.object (c.source pool)) else []
  | .freeSets _ sets =>
    if o.1 = .success then sets.toList.map fun n => L.object (c.source n) else []
  | .freeCommandBuffers _ buffers => buffers.toList.map fun n => L.object (c.source n)
  | _ => []

/-- The ledger after a call. -/
def next (L : Ledger) (c : ProgramCall) (o : Outcome) : Ledger :=
  ⟨L.slots ++ [L.made c o], L.gone ++ L.lost c o⟩

end Ledger

/-! ### Runs -/

section Runs

variable {σ : Type} [NextLayer σ]

/-- A call of a program, after others. -/
def ProgramCall.run (p : List Outcome × Layer Tracked σ) (c : ProgramCall) :
    Outcome × Layer Tracked σ :=
  (Device.perform (c.request p.1) c.out).run p.2

/-- A call of a program, added to those before. -/
def ProgramCall.perform (p : List Outcome × Layer Tracked σ) (c : ProgramCall) :
    List Outcome × Layer Tracked σ :=
  (p.1 ++ [(c.run p).1], (c.run p).2)

/-- The calls of a program in turn. -/
def runProgram (program : List ProgramCall) (p : List Outcome × Layer Tracked σ) :
    List Outcome × Layer Tracked σ :=
  program.foldl ProgramCall.perform p

/-- A new device where another one was, with handles wrapped or not. -/
def Layer.fresh (wraps : Bool) (s : Layer Tracked σ) : Layer Tracked σ :=
  { object := s.object.withOwn .empty
    world := { s.world with wrapper := .new wraps, trace := #[] } }

/-! ### What is expected -/

/-- Whether a dispatchable handle is none of the first `ids` ids. -/
def isApart (ids : Nat) (h : Handle) : Bool := (List.range ids).all fun n => idAt n != h

/-- Whether the handles of a call that come from outside are no surrogates. -/
def ProgramCall.isApart (ids : Nat) (c : ProgramCall) : Bool :=
  c.template.names.all fun p =>
    match c.source p.2 with
    | .outside h => HandleLayer.isApart ids h
    | .null | .slot .. => true

/-- The handle of a command buffer. -/
def Obj.buffer (outcomes : List Outcome) : Obj → Handle
  | child _ _ call index => slotOf outcomes call index
  | _ => 0

/-- Whether an answer is as the next layer has to give it.  No handle that it makes is
null; the images of a swapchain are the first ones of a fixed list; command buffers differ
from each other, from all that may still be named, and from surrogates. -/
def Ledger.honours (L : Ledger) (fixed : Obj → List Handle) (ids : Nat)
    (outcomes : List Outcome) (c : ProgramCall) (o : Outcome) : Bool :=
  let handles := c.template.produced o
  !handles.contains 0 &&
    match c.template with
    | .getSwapchainImages swapchain =>
      handles.isPrefixOf (fixed (L.object (c.source swapchain)))
    | .allocateCommandBuffers .. =>
      decide handles.Nodup && handles.all (isApart ids) &&
        L.objects.all fun b =>
          !(L.isAlive b && b.isBuffer) || !handles.contains (b.buffer outcomes)
    | _ => true

/-- Whether a program, run from here, names only what it may name, and whether the next
layer answers it as it has to. -/
def isAdmissible (fixed : Obj → List Handle) (ids : Nat) :
    List ProgramCall → Ledger → List Outcome × Layer Tracked σ → Bool
  | [], _, _ => true
  | c :: rest, L, p =>
    c.template.isCovered && c.template.names.all (L.permits c.source) && c.isApart ids &&
      L.honours fixed ids p.1 c (c.run p).1 &&
      isAdmissible fixed ids rest (L.next c (c.run p).1) (c.perform p)

/-- A call that names only what it may name, and that is answered as it has to be. -/
structure ProgramCall.IsAdmissible (fixed : Obj → List Handle) (ids : Nat) (L : Ledger)
    (p : List Outcome × Layer Tracked σ) (c : ProgramCall) : Prop where
  covered : c.template.isCovered = true
  permitted : ∀ n ∈ c.template.names, L.permits c.source n = true
  apart : c.isApart ids = true
  honoured : L.honours fixed ids p.1 c (c.run p).1 = true

theorem isAdmissible_cons {fixed : Obj → List Handle} {ids : Nat} {c : ProgramCall}
    {program : List ProgramCall} {L : Ledger} {p : List Outcome × Layer Tracked σ} :
    isAdmissible fixed ids (c :: program) L p = true ↔ c.IsAdmissible fixed ids L p ∧
      isAdmissible fixed ids program (L.next c (c.run p).1) (c.perform p) = true := by
  rw [isAdmissible]
  simp only [Bool.and_eq_true, List.all_eq_true]
  constructor
  · rintro ⟨⟨⟨⟨hcovered, hpermitted⟩, hapart⟩, hhonoured⟩, hrest⟩
    exact ⟨⟨hcovered, hpermitted, hapart, hhonoured⟩, hrest⟩
  · rintro ⟨⟨hcovered, hpermitted, hapart, hhonoured⟩, hrest⟩
    exact ⟨⟨⟨⟨hcovered, hpermitted⟩, hapart⟩, hhonoured⟩, hrest⟩

end Runs

end HandleLayer
