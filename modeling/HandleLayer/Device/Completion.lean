import HandleLayer.Device.Objects

/-!
# Completion of deferred operations

An operation completes at the first query that reports success.  Then everything that
waits for it happens once, in order; an operation that is destroyed before takes it all
with it.

## Main definitions

* `publishPipelines` — surrogates for pipelines that the next layer has produced.
* `completeOperation`, `discardOperation` — the two ends of a record.
* `receive`, `awaitOperation` — late outputs, and the calls that may bring them.
-/

namespace HandleLayer

namespace Device

variable {σ : Type}

/-- Surrogates for the pipelines of the next layer, each one announced; a null slot stays
null. -/
def publishPipelines : List Handle → DeviceM σ (List Handle)
  | [] => return []
  | real :: reals => do
    let h ← wrapNew real
    announceCreated .pipeline h
    let hs ← publishPipelines reals
    return h :: hs

/-- Copies the outputs of kept inputs back. -/
def settleInputs : Retained → DeviceM σ Unit
  | .chains batch copies => modifyBatch batch (Batch.settle copies)
  | _ => return

/-- Runs an action that waited; the pipelines that exist from then on. -/
def runCompletion : Completion → DeviceM σ (List Handle)
  | .release inputs => do
    settleInputs inputs
    emit [.completed inputs, .dropped inputs]
    return []
  | .publish batch produced => do
    let hs ← publishPipelines produced
    modifyBatch batch (Batch.publish hs)
    return hs.filter (· ≠ 0)

/-- Runs the actions in order; all the pipelines that exist from then on. -/
def runCompletions : List Completion → DeviceM σ (List Handle)
  | [] => return []
  | c :: cs => do
    let hs ← runCompletion c
    let rest ← runCompletions cs
    return hs ++ rest

/-- Tells the first validation object of a kind, if there is one, of the pipelines. -/
def notifyReady (operation : Handle) (pipelines : List Handle) (kind : ObjectKind) :
    DeviceM σ Unit := do
  tell ((← validationChain).get? kind).toList (.pipelinesReady operation pipelines)

/-- Takes note of the result of an operation.  Success completes it, if anything waits
for it; any other result leaves everything as it is. -/
def completeOperation (operation : Handle) (result : Result) : DeviceM σ Unit := do
  if result = .success then
    match (← getOwn).deferred.get? operation with
    | none => return
    | some p =>
      -- the record goes first: a second success will find nothing to complete
      modifyOwn (Tracked.modifyDeferred (·.erase operation))
      let pipelines ← runCompletions p.completions
      p.postChecks.forM (notifyReady operation pipelines)

/-- Gives up what waits for an operation. -/
def discardOperation (operation : Handle) : DeviceM σ Unit := do
  match (← getOwn).deferred.get? operation with
  | none => return
  | some p =>
    modifyOwn (Tracked.modifyDeferred (·.erase operation))
    note [.operationDropped operation]
    -- nothing is copied back, and pipelines that were produced are never shown
    emit (p.retained.map .dropped)

/-- Takes in outputs that the next layer writes late: into what the layer keeps for the
place, and straight into the storage of the application where that was handed down. -/
def receive (w : LateWrite) : DeviceM σ Unit := do
  if ← wrapping then
    modifyOwn (Tracked.modifyDeferred (DeferredOperations.receive w))
    -- the copies hold the handles and outputs; only blocks handed down by reference
    -- are storage of the application
    match (← getOwn).deferred.copies? w.batch with
    | none => return
    | some copies => modifyBatch w.batch (Batch.share copies)
  else
    modifyBatch w.batch (Batch.receive w)

/-- Asks for the result of an operation, which completes it on success. -/
def awaitOperation [NextLayer σ] (r : DeviceRequest) (operation : Handle) (out : Outputs) :
    DeviceM σ (Result × Outputs) := do
  let (_, reply) ← send r none
  reply.late.forM receive
  completeOperation operation reply.result
  return (reply.result, out)

end Device

end HandleLayer
