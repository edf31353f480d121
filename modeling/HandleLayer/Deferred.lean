import HandleLayer.NextLayer
import HandleLayer.Validation.Kind

/-!
# Deferred operations

The next layer may put off the work of a call and finish it under a deferred operation.
Until the operation reports success the layer keeps what the call was given, and what is
left to do then.

## Main definitions

* `Retained`, `Completion` — inputs that are kept, and the actions that wait.
* `PendingOperation`, `DeferredOperations` — the record of an operation, and all records
  under the handles of the application.
* `DeferredOperations.receive` — outputs that the next layer writes late.
-/

namespace HandleLayer

/-- Inputs of a call that are kept until its operation completes. -/
inductive Retained
  /-- Copies of chains.  Their outputs are copied back to the application's chains at the
  place named. -/
  | chains (batch : BatchId) (copies : List Chain)
  /-- The copies in a request to build, as it went down. -/
  | builds (sent : DeviceRequest)
  /-- Inputs known by a number alone. -/
  | other (number : Nat)
  deriving DecidableEq, Repr

/-- An action that waits for an operation to complete. -/
inductive Completion
  /-- Drops inputs. -/
  | release (inputs : Retained)
  /-- Wraps the pipelines that the next layer has produced and hands them to the
  application at the place named. -/
  | publish (batch : BatchId) (produced : List Handle)
  deriving DecidableEq, Repr

/-- What waits for one operation. -/
structure PendingOperation where
  /-- The actions in the order in which they run. -/
  completions : List Completion := []
  /-- The kinds of validation object to be told of the pipelines afterwards. -/
  postChecks : List ObjectKind := []
  deriving DecidableEq, Repr, Inhabited

/-- The outputs of a completion after a late write to the place it belongs to. -/
def Completion.receive (w : LateWrite) : Completion → Completion
  | .publish batch produced =>
    .publish batch (if batch = w.batch then overlay produced w.slots else produced)
  | .release (.chains batch copies) =>
    .release (.chains batch
      (if batch = w.batch then onto (fun ws c => c.fill ws) w.fills copies else copies))
  | c => c

/-- The copies of chains that a completion keeps for a place. -/
def Completion.copies? (batch : BatchId) : Completion → Option (List Chain)
  | .release (.chains batch' copies) => if batch' = batch then some copies else none
  | _ => none

namespace PendingOperation

/-- The record with further actions and kinds at the end. -/
def add (completions : List Completion) (postChecks : List ObjectKind)
    (p : PendingOperation) : PendingOperation :=
  ⟨p.completions ++ completions, p.postChecks ++ postChecks⟩

/-- The inputs that are kept. -/
def retained (p : PendingOperation) : List Retained :=
  p.completions.filterMap fun
    | .release inputs => some inputs
    | .publish .. => none

end PendingOperation

/-- The operations that have not reported success yet, under the handles of the
application. -/
structure DeferredOperations where
  pending : Table Handle PendingOperation

namespace DeferredOperations

/-- No operation is pending. -/
def empty : DeferredOperations := ⟨.empty⟩

instance : Inhabited DeferredOperations := ⟨empty⟩

/-- What waits for an operation, if anything does. -/
def get? (d : DeferredOperations) (operation : Handle) : Option PendingOperation :=
  d.pending.get? operation

/-- Whether anything waits for an operation. -/
def isPending (d : DeferredOperations) (operation : Handle) : Bool :=
  d.pending.contains operation

/-- The number of operations that something waits for. -/
def size (d : DeferredOperations) : Nat := d.pending.size

/-- Whether nothing waits. -/
def isEmpty (d : DeferredOperations) : Bool := d.pending.isEmpty

/-- Lets further actions wait for an operation, and kinds be told afterwards. -/
def add (operation : Handle) (completions : List Completion)
    (postChecks : List ObjectKind) (d : DeferredOperations) : DeferredOperations :=
  ⟨d.pending.insert operation
    (((d.get? operation).getD {}).add completions postChecks)⟩

/-- Forgets an operation. -/
def erase (operation : Handle) (d : DeferredOperations) : DeferredOperations :=
  ⟨d.pending.erase operation⟩

/-- What waits, after the next layer has written outputs late. -/
def receive (w : LateWrite) (d : DeferredOperations) : DeferredOperations :=
  ⟨d.pending.mapValues fun _ p =>
    { p with completions := p.completions.map (Completion.receive w) }⟩

/-- The copies of chains that are kept for a place. -/
def copies? (d : DeferredOperations) (batch : BatchId) : Option (List Chain) :=
  d.pending.values.findSome? fun p => p.completions.findSome? (Completion.copies? batch)

@[simp] theorem get?_empty (operation : Handle) : empty.get? operation = none := rfl

theorem get?_erase (d : DeferredOperations) (operation operation' : Handle) :
    (d.erase operation).get? operation'
      = if operation = operation' then none else d.get? operation' :=
  Table.get?_erase d.pending operation operation'

theorem get?_add (d : DeferredOperations) (operation operation' : Handle)
    (completions : List Completion) (postChecks : List ObjectKind) :
    (d.add operation completions postChecks).get? operation'
      = if operation = operation' then
          some (((d.get? operation).getD {}).add completions postChecks)
        else d.get? operation' :=
  Table.get?_insert d.pending operation operation' _

end DeferredOperations

end HandleLayer
