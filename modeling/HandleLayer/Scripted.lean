import HandleLayer.NextLayer

/-!
# A scripted next layer

A next layer that answers as it is told.  It numbers the objects that it creates, and
finishes deferred pipelines at the first query that it lets succeed; everything else it
reads off a script, which can be exchanged between calls.

## Main definitions

* `Script` — what the next calls are to answer.
* `Script.fills` — what is written into the outputs of a chain.
* `Scripted` — the script, and what has to be remembered between calls.
-/

namespace HandleLayer

/-- What a scripted layer answers; what is left out has a default. -/
structure Script where
  result : Option Result := none
  /-- The handles that are created or reported. -/
  handles : Option (List (Option Handle)) := none
  /-- The tools that are reported. -/
  tools : List Tool := []
  /-- The feedback of the first pipeline of a call. -/
  feedback : Option Feedback := none
  /-- The first Metal object that is exported. -/
  metal : Option UInt64 := none
  index : UInt32 := 0
  results : List (Option Result) := []
  size : UInt64 := 0
  deriving DecidableEq, Repr, Inhabited

namespace Script

/-- The result of a call without a result of its own accord. -/
def resultOr (s : Script) (default : Result) : Result := s.result.getD default

/-! ### Outputs in chains -/

/-- The feedback of the pipeline with number `i`. -/
def pipelineFeedback (i : Nat) (f : Feedback) : Feedback :=
  { f with duration := f.duration + i.toUInt64 }

/-- The feedback of the stage with number `k` of that pipeline. -/
def stageFeedback (i k : Nat) (f : Feedback) : Feedback :=
  { f with duration := f.duration + i.toUInt64 + 100 * (k.toUInt64 + 1) }

/-- What is written into one block of the chain with number `i`, after `exports` other
blocks that Metal objects are exported to. -/
def blockFill (s : Script) (i exports : Nat) : Block → BlockFill
  | .feedback _ stages =>
    { pipeline := s.feedback.map (pipelineFeedback i)
      stages := (List.range stages.toList.length).map fun k =>
        s.feedback.map (stageFeedback i k) }
  | b =>
    if b.exportsMetal then { metal := s.metal.map (· + 16 * exports.toUInt64) } else {}

/-- What is written into blocks that follow `exports` others that Metal objects are
exported to. -/
def fillsFrom (s : Script) (i : Nat) : (exports : Nat) → List Block → List BlockFill
  | _, [] => []
  | exports, b :: rest =>
    s.blockFill i exports b
      :: s.fillsFrom i (if b.exportsMetal then exports + 1 else exports) rest

/-- What is written into the outputs of the chain with number `i`. -/
def fills (s : Script) (i : Nat) (blocks : List Block) : List BlockFill :=
  s.fillsFrom i 0 blocks

/-- What is written into the outputs of several chains. -/
def fillsOf (s : Script) (chains : List Chain) : List (List BlockFill) :=
  chains.zipIdx.map fun (c, i) => s.fills i c.blocks

end Script

/-- Pipelines whose creation was put off. -/
structure Postponed where
  /-- The device that they are created on. -/
  device : Handle
  /-- The operation, as the application names it. -/
  operation : Handle
  batch : BatchId
  /-- The number of slots in the output array; none is a null pointer. -/
  room : Option Nat
  chains : List Chain
  deriving DecidableEq, Repr

/-- The state of a scripted layer. -/
structure Scripted where
  script : Script := {}
  /-- The deferred operation that the application names in the current call. -/
  operation : Handle := 0
  /-- The handle of the object that is created next. -/
  nextReal : Handle := 0x100000
  /-- The version of every physical device. -/
  versions : Table Handle ApiVersion := .empty
  /-- The work put off, oldest first. -/
  postponed : List Postponed := []

namespace Scripted

/-- New handles for so many objects. -/
def mint : Nat → Scripted → List Handle × Scripted
  | 0, s => ([], s)
  | n + 1, s =>
    let (hs, t) := mint n { s with nextReal := s.nextReal + 0x10 }
    (s.nextReal :: hs, t)

/-- The handles written to the output array of a call that creates objects: those of the
script, or new ones if the call succeeds. -/
def createHandles (room : Option Nat) (result : Result) (s : Scripted) :
    List (Option Handle) × Scripted :=
  match room, s.script.handles with
  | none, _ => ([], s)
  | some _, some handles => (handles, s)
  | some n, none =>
    if result = .success then
      let (hs, s) := mint n s
      (hs.map some, s)
    else ([], s)

/-- The answer to a call that creates objects. -/
def create (room : Option Nat) (fills : List (List BlockFill)) (s : Scripted) :
    Reply × Scripted :=
  let result := s.script.resultOr .success
  let (slots, s) := s.createHandles room result
  ({ result, slots, fills }, s)

/-- The result and the count of an enumeration with `total` elements in all. -/
def enumerate (room : Option Nat) (total : Nat) (s : Scripted) : Reply :=
  match room with
  | none => { result := s.script.resultOr .success, count := some total.toUInt32 }
  | some n =>
    { result := s.script.resultOr (if n < total then .incomplete else .success)
      count := some (min n total).toUInt32 }

/-- The answer to a call that reports handles. -/
def reportHandles (room : Option Nat) (s : Scripted) : Reply :=
  let handles := (s.script.handles.getD []).map fun h => h.getD 0
  { s.enumerate room handles.length with slots := handles.map some }

/-- The answer to a call that reports tools. -/
def reportTools (room : Option Nat) (s : Scripted) : Reply :=
  { s.enumerate room s.script.tools.length with tools := s.script.tools }

/-- The answer to a call with a result and nothing else. -/
def acknowledge (s : Scripted) : Reply := { result := s.script.resultOr .success }

/-- Finishes work that was put off.  A script gives the handles of all of it in one
row. -/
def finish (given : Option (List (Option Handle))) : List Postponed → Scripted →
    List LateWrite × Scripted
  | [], s => ([], s)
  | p :: rest, s =>
    let n := p.room.getD 0
    let (slots, s) :=
      match given with
      | some handles => (handles.take n, s)
      | none =>
        let (hs, s) := mint n s
        (hs.map some, s)
    let (writes, s) := finish (given.map (·.drop n)) rest s
    (⟨p.batch, slots, s.script.fillsOf p.chains⟩ :: writes, s)

/-- Whether the work was put off under the current operation of a device. -/
def isCurrent (device : Handle) (s : Scripted) (p : Postponed) : Bool :=
  p.device == device && p.operation == s.operation

/-- The answer to a call that asks for the result of an operation. -/
def await (device : Handle) (s : Scripted) : Reply × Scripted :=
  let result := s.script.resultOr .success
  if result = .success then
    let (late, t) := finish s.script.handles (s.postponed.filter (s.isCurrent device)) s
    ({ result, late },
      { t with postponed := t.postponed.filter fun p => !s.isCurrent device p })
  else ({ result }, s)

/-- Forgets the work that was put off under an operation of a device. -/
def forget (device operation : Handle) (s : Scripted) : Scripted :=
  { s with postponed :=
      s.postponed.filter fun p => !(p.device == device && p.operation == operation) }

/-- The answer to a call that creates ray tracing pipelines, which may be put off. -/
def createRayTracing (device : Handle) (batch : BatchId) (room : Option Nat)
    (chains : List Chain) (s : Scripted) : Reply × Scripted :=
  if s.script.result = some .operationDeferred then
    (s.acknowledge,
      if s.operation = 0 then s
      else { s with postponed := s.postponed ++ [⟨device, s.operation, batch, room, chains⟩] })
  else s.create room (s.script.fillsOf chains)

/-- The answer to a call on an instance. -/
def answerInstance (room : Option Nat) (s : Scripted) : InstanceRequest → Reply
  | .physicalDeviceProperties physicalDevice =>
    { apiVersion := some ((s.versions.get? physicalDevice).getD 0) }
  | .displays .. => s.reportHandles room
  | .modes .. => s.reportHandles room
  | .tools .. => s.reportTools room
  | _ => {}

/-- The answer to a call on a device. -/
def answerDevice (device : Handle) (r : DeviceRequest) (room : Option Nat)
    (s : Scripted) : Reply × Scripted :=
  match r with
  | .create _ => s.create room []
  | .allocateSets .. => s.create room []
  | .allocateCommandBuffers .. => s.create room []
  | .createGraphicsPipelines .. => s.create room (s.script.fillsOf r.chains)
  | .createComputePipelines .. => s.create room (s.script.fillsOf r.chains)
  | .createRayTracingPipelines batch .. => s.createRayTracing device batch room r.chains
  | .getSwapchainImages _ => (s.reportHandles room, s)
  | .acquireNextImage .. => ({ s.acknowledge with index := some s.script.index }, s)
  | .present .. => ({ s.acknowledge with results := s.script.results }, s)
  | .joinOperation _ => s.await device
  | .queryOperation _ => s.await device
  | .getBuildSizes .. => ({ size := some s.script.size }, s)
  | .exportMetalObjects _ => ({ fills := s.script.fillsOf r.chains }, s)
  | _ => (s.acknowledge, s)

instance : NextLayer Scripted where
  answer call s :=
    match call.request with
    | .ofInstance r => (s.answerInstance call.room r, s)
    | .ofDevice r => s.answerDevice call.object r call.room

end Scripted

end HandleLayer
