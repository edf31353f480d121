import HandleLayer.Deferred
import HandleLayer.EntryTable
import HandleLayer.Validation.Registry

/-!
# Dispatch of calls

In front of every instance and every device of the next layer stands an object of this
one.  It brings each call before the validation objects, hands it on, and announces the
handles that come and go.  An instance and its devices share one surrogate map.

## Main definitions

* `Event` — what can be seen from outside while a call runs.
* `World`, `Dispatch`, `Layer` — what all objects share, one object, and both.
* `CallM` — programs that run while a call is served.
* `askToSkip`, `intercept` — a call brought before the validation objects.
* `announceCreated`, `announceDestroyed` — handles announced to all of them.
* `forward` — a call to the next layer.

## Main results

* `run_modifyWorld` and its like — each elementary program through the state.
-/

namespace HandleLayer

/-- What can be seen from outside while a call runs. -/
inductive Event
  /-- The beginning or the end of a handle is announced to all validation objects, however
  many there are. -/
  | announced (hook : Hook)
  /-- A validation object is told something. -/
  | told (object : ValidationObject) (hook : Hook)
  /-- The next layer is called. -/
  | call (call : Call)
  /-- Something is written to the log. -/
  | notice (notice : Notice)
  /-- Kept inputs see their operation complete. -/
  | completed (inputs : Retained)
  /-- Kept inputs are given up. -/
  | dropped (inputs : Retained)
  deriving DecidableEq, Repr

/-- Output storage of the application that is written after a call has returned. -/
structure Batch where
  /-- The array of handles; none is a null pointer. -/
  slots : Option (List Handle)
  chains : List (List Block)
  deriving DecidableEq, Repr, Inhabited

namespace Batch

/-- The storage after the next layer itself has written into it. -/
def receive (w : LateWrite) (b : Batch) : Batch where
  slots := b.slots.map (overlay · w.slots)
  chains := onto (fun ws blocks => Chain.fillBlocks blocks ws) w.fills b.chains

/-- The storage with handles written to its array. -/
def publish (handles : List Handle) (b : Batch) : Batch :=
  { b with slots := b.slots.map (overwrite · handles) }

/-- The storage with the shared blocks as they are in the chains handed down. -/
def share (copies : List Chain) (b : Batch) : Batch :=
  { b with chains := onto Chain.appAfter copies b.chains }

/-- The storage with the outputs of the copies taken over. -/
def settle (copies : List Chain) (b : Batch) : Batch :=
  { b with chains := onto Chain.settle copies b.chains }

end Batch

/-- What the objects of an instance and of its devices share: the surrogates, storage of
the application, the validation objects and the next layer. -/
structure World (σ : Type) where
  wrapper : Wrapper
  memory : Table BatchId Batch
  behaviour : Behaviour
  /-- The state of the next layer. -/
  below : σ
  /-- What was seen from outside so far, oldest first. -/
  trace : Array Event

/-- The object in front of one instance or device, with state `δ` of its own. -/
structure Dispatch (δ : Type) where
  /-- The instance or device in the next layer. -/
  handle : Handle
  apiVersion : ApiVersion
  table : EntryTable
  registry : Registry
  own : δ

/-- An object together with what it shares with others. -/
structure Layer (δ σ : Type) where
  object : Dispatch δ
  world : World σ

/-- Programs that run while a call to an object is served. -/
abbrev CallM (δ σ : Type) := StateM (Layer δ σ)

variable {δ σ α : Type}

/-! ### Access to the state -/

/-- Changes what the objects share. -/
def modifyWorld (f : World σ → World σ) : CallM δ σ Unit :=
  modify fun s => { s with world := f s.world }

/-- Changes what the object has of its own. -/
def modifyOwn (f : δ → δ) : CallM δ σ Unit :=
  modify fun s => { s with object := { s.object with own := f s.object.own } }

/-- Changes the storage of the application at a place. -/
def modifyBatch (batch : BatchId) (f : Batch → Batch) : CallM δ σ Unit :=
  modifyWorld fun w => { w with memory := w.memory.modify batch f }

/-- Lets events be seen. -/
def emit (events : List Event) : CallM δ σ Unit :=
  modifyWorld fun w => { w with trace := w.trace ++ events }

@[simp] theorem run_modifyWorld (f : World σ → World σ) (s : Layer δ σ) :
    (modifyWorld f).run s = ((), { s with world := f s.world }) := rfl

@[simp] theorem run_modifyOwn (f : δ → δ) (s : Layer δ σ) :
    (modifyOwn f : CallM δ σ Unit).run s
      = ((), { s with object := { s.object with own := f s.object.own } }) := rfl

@[simp] theorem run_emit (events : List Event) (s : Layer δ σ) :
    (emit events : CallM δ σ Unit).run s
      = ((), { s with world := { s.world with trace := s.world.trace ++ events } }) := rfl

/-- What the object has of its own. -/
def getOwn : CallM δ σ δ := do return (← get).object.own

/-- Whether handles are wrapped. -/
def wrapping : CallM δ σ Bool := do return (← get).world.wrapper.enabled

/-- The chain of validation objects that a call is brought before. -/
def validationChain : CallM δ σ ValidationChain := do return (← get).object.registry.chain

/-! ### Surrogates -/

/-- A fresh surrogate for a handle of the next layer. -/
def wrapNew (real : Handle) : CallM δ σ Handle := do
  let (h, wrapper) := (← get).world.wrapper.wrapNew real
  modifyWorld fun w => { w with wrapper }
  return h

/-- Fresh surrogates for handles of the next layer, minted in order. -/
def wrapNewMany (reals : List Handle) : CallM δ σ (List Handle) := do
  let (hs, wrapper) := (← get).world.wrapper.wrapNewMany reals
  modifyWorld fun w => { w with wrapper }
  return hs

/-- The kept surrogates for displays of the next layer. -/
def wrapDisplayMany (reals : List Handle) : CallM δ σ (List Handle) := do
  let (hs, wrapper) := (← get).world.wrapper.wrapDisplayMany reals
  modifyWorld fun w => { w with wrapper }
  return hs

/-- Removes a surrogate. -/
def eraseHandle (h : Handle) : CallM δ σ Unit :=
  modifyWorld fun w => { w with wrapper := w.wrapper.erase h }

@[simp] theorem run_wrapNew (real : Handle) (s : Layer δ σ) :
    (wrapNew real : CallM δ σ Handle).run s
      = ((s.world.wrapper.wrapNew real).1,
          { s with world := { s.world with wrapper := (s.world.wrapper.wrapNew real).2 } }) :=
  rfl

@[simp] theorem run_eraseHandle (h : Handle) (s : Layer δ σ) :
    (eraseHandle h : CallM δ σ Unit).run s
      = ((), { s with world := { s.world with wrapper := s.world.wrapper.erase h } }) := rfl

/-! ### Validation objects -/

/-- Tells one validation object something. -/
def notify (hook : Hook) (object : ValidationObject) : CallM δ σ Unit :=
  emit [.told object hook]

/-- Tells validation objects something, one after the other. -/
def tell (objects : List ValidationObject) (hook : Hook) : CallM δ σ Unit :=
  objects.forM (notify hook)

/-- Announces something to every validation object. -/
def announce (hook : Hook) : CallM δ σ Unit := do
  emit [.announced hook]
  tell (← validationChain).objects hook

/-- Tells every validation object that a handle exists from now on; the null handle is
never announced. -/
def announceCreated (type : ObjectType) (h : Handle) : CallM δ σ Unit := do
  if h ≠ 0 then
    announce (.created type h)

/-- Tells every validation object that a handle is gone; the null handle is never
announced. -/
def announceDestroyed (type : ObjectType) (h : Handle) : CallM δ σ Unit := do
  if h ≠ 0 then
    announce (.destroyed type h)

/-- Asks a validation object about a call; whether it wants to skip the call. -/
def ask (command : Command) (object : ValidationObject) : CallM δ σ Bool := do
  notify (.validate command) object
  return (← get).world.behaviour.vetoes object.id command

/-- Asks the objects of a chain that intercept a command, one after the other; whether any
wants to skip the call. -/
def askToSkip (chain : ValidationChain) (command : Command) : CallM δ σ Bool :=
  -- an object that wants to skip the call does not keep the others from being asked
  (chain.intercepting command).foldlM
    (fun skip object => return (← ask command object) || skip) false

/-- Brings a call before the validation objects that intercept it: all are asked, and
unless one asks to skip the call they are told before and after it. -/
def intercept (command : Command) (skipped : α) (body : CallM δ σ (Result × α)) :
    CallM δ σ (Result × α) := do
  let chain ← validationChain
  if ← askToSkip chain command then
    return (.validationFailed, skipped)
  else
    tell (chain.intercepting command) (.before command)
    let (result, a) ← body
    tell (chain.intercepting command) (.after command result)
    return (result, a)

/-! ### The next layer -/

/-- Writes notices to the log. -/
def note (notices : List Notice) : CallM δ σ Unit := emit (notices.map .notice)

/-- Calls the next layer, if it has the entry point. -/
def forward [NextLayer σ] (request : Request) (room : Option Nat) : CallM δ σ Reply := do
  let s ← get
  if s.object.table.provides request.command then
    let call : Call := ⟨s.object.handle, request, room⟩
    let (reply, below) := NextLayer.answer call s.world.below
    emit [.call call]
    modifyWorld fun w => { w with below }
    return reply.ofCommand request.command
  else
    return .missing request.command

end HandleLayer
