import HandleLayer.Device.Completion

/-!
# Pipelines and builds

Pipelines are created several at a time.  Ray tracing pipelines and builds of acceleration
structures may be deferred; then the copies that the next layer works on are kept, and
its pipelines go to an array of the layer until the operation completes.

## Main definitions

* `createPipelines`, `createRayTracingPipelines`, `buildStructures`.
-/

namespace HandleLayer

namespace Device

variable {σ : Type} [NextLayer σ]

/-- The output storage with surrogates for the pipelines in its first slots.  The array may
go on behind the pipelines asked for, and there it is left alone. -/
def publishOutputs (count : Nat) (out : Outputs) : DeviceM σ Outputs := do
  let hs ← publishPipelines (out.first count)
  return out.present hs

/-- Creates graphics or compute pipelines, as many as there are infos.  Whatever the result
is, every slot of theirs that is not null afterwards holds a surrogate. -/
def createPipelines (r : DeviceRequest) (count : Nat) (out : Outputs) :
    DeviceM σ (Result × Outputs) := do
  let (result, out) ← relay r out
  if ← wrapping then
    return (result, ← publishOutputs count out)
  else
    -- pipelines that are not wrapped are not announced either
    return (result, out)

/-- Whether a call has put its work off under an operation of the application. -/
def isDeferred (result : Result) (operation : Handle) : Bool :=
  result == .operationDeferred && operation != 0

/-- Creates ray tracing pipelines while handles are wrapped.  The next layer writes into
an array of the layer; when the work is deferred, array and copies wait for the
operation. -/
def createRayTracingWrapped (batch : BatchId) (operation cache : Handle)
    (infos : AppArray RayTracingInfo) (out : Outputs) : DeviceM σ (Result × Outputs) := do
  let (sent, reply) ←
    send (.createRayTracingPipelines batch operation cache infos) (some infos.count)
  let produced := overlay (List.replicate infos.count 0) reply.slots
  let copies := reply.fillChains sent.chains
  if isDeferred reply.result operation then
    -- who intercepts the creation is told later, whoever intercepts the query
    let watchers := (← validationChain).intercepting .createRayTracingPipelinesKhr
    modifyOwn (Tracked.modifyDeferred (.add operation
      [.publish batch produced, .release (.chains batch copies)]
      (watchers.map ValidationObject.kind)))
    return (reply.result, { out with chains := onto Chain.appAfter copies out.chains })
  else
    let out ← publishOutputs infos.count
      { out with
        slots := out.slots.map (overwrite · produced)
        chains := onto Chain.settle copies out.chains }
    return (reply.result, out)

/-- Creates ray tracing pipelines. -/
def createRayTracingPipelines (batch : BatchId) (operation cache : Handle)
    (infos : AppArray RayTracingInfo) (out : Outputs) : DeviceM σ (Result × Outputs) := do
  if ← wrapping then
    createRayTracingWrapped batch operation cache infos out
  else
    relay (.createRayTracingPipelines batch operation cache infos) out

/-- Builds acceleration structures on the host; copies of a deferred build are kept. -/
def buildStructures (operation : Handle) (infos : AppArray BuildInfo)
    (ranges : Option (List (List BuildRange))) (out : Outputs) :
    DeviceM σ (Result × Outputs) := do
  let (sent, reply) ← send (.buildStructures operation infos ranges) none
  if (← wrapping) ∧ isDeferred reply.result operation then
    modifyOwn (Tracked.modifyDeferred (.add operation [.release (.builds sent)] []))
  return (reply.result, out)

end Device

end HandleLayer
