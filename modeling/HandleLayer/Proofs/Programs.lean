import HandleLayer.Device

/-!
# Programs, one step after the other

What a program does to the state is known from what its parts do.  The elementary parts
are described by equations; the rest is put together from them.

## Main definitions

* `World.see`, `Layer.see`, `Layer.ask` — the state after events were seen, and after the
  next layer was called.
* `toldEach`, `toldBefore` — objects told something one after the other, and what they are
  told before a call.
* `Layer.reply` — the answer of the next layer to a request.
* `DeviceRequest.roomBelow` — the room for handles that a call reaches the next layer with.

## Main results

* `run_bind`, `run_bind_of`, `run_forM_cons` — one program after another.
* `run_tell`, `run_announce` — validation objects told something one after the other.
* `run_askToSkip` — every object that intercepts a command is asked.
* `run_intercept_of_vetoes`, `run_intercept` — a call that is skipped, and one that is not.
* `run_forward`, `Device.run_send`, `Device.run_relay` — requests handed down.
-/

namespace HandleLayer

variable {δ σ α β : Type}

/-- What objects share, after further events were seen. -/
def World.see (events : List Event) (w : World σ) : World σ :=
  { w with trace := w.trace ++ events }

@[simp] theorem World.see_nil (w : World σ) : w.see [] = w := by
  simp [World.see]

@[simp] theorem World.see_see (events events' : List Event) (w : World σ) :
    (w.see events).see events' = w.see (events ++ events') := by
  have htrace : w.trace ++ events ++ events' = w.trace ++ (events ++ events') :=
    Array.ext' (by simp)
  simp only [World.see, htrace]

namespace Layer

/-- The state after further events were seen. -/
def see (events : List Event) (s : Layer δ σ) : Layer δ σ :=
  { s with world := s.world.see events }

@[simp] theorem see_nil (s : Layer δ σ) : s.see [] = s := by
  simp [see]

@[simp] theorem see_see (events events' : List Event) (s : Layer δ σ) :
    (s.see events).see events' = s.see (events ++ events') := by
  simp [see]

end Layer

/-- The object with something else of its own. -/
def Dispatch.withOwn (own : δ) (d : Dispatch δ) : Dispatch δ := { d with own }

/-- The state in which the object has something else of its own. -/
def Layer.withOwn (own : δ) (s : Layer δ σ) : Layer δ σ :=
  { s with object := s.object.withOwn own }

@[simp] theorem Layer.withOwn_own (s : Layer δ σ) : s.withOwn s.object.own = s := rfl

/-! ### Parts of programs -/

theorem run_bind (p : CallM δ σ α) (f : α → CallM δ σ β) (s : Layer δ σ) :
    (p >>= f).run s = (f (p.run s).1).run (p.run s).2 := rfl

/-- What follows a program goes on from where it ends. -/
theorem run_bind_of {p : CallM δ σ α} {s s' : Layer δ σ} {a : α} (hp : p.run s = (a, s'))
    (f : α → CallM δ σ β) : (p >>= f).run s = (f a).run s' := by
  rw [run_bind, hp]

/-- A loop goes on from where its first round ends. -/
theorem run_forM_cons (f : β → CallM δ σ Unit) (b : β) (bs : List β) (s : Layer δ σ) :
    ((b :: bs).forM f).run s = (bs.forM f).run ((f b).run s).2 := rfl

theorem run_pure (a : α) (s : Layer δ σ) : (pure a : CallM δ σ α).run s = (a, s) := rfl

theorem run_getOwn (s : Layer δ σ) :
    (getOwn : CallM δ σ δ).run s = (s.object.own, s) := rfl

theorem run_wrapping (s : Layer δ σ) :
    (wrapping : CallM δ σ Bool).run s = (s.world.wrapper.enabled, s) := rfl

theorem run_validationChain (s : Layer δ σ) :
    (validationChain : CallM δ σ ValidationChain).run s = (s.object.registry.chain, s) := rfl

theorem run_note (notices : List Notice) (s : Layer δ σ) :
    (note notices : CallM δ σ Unit).run s = ((), s.see (notices.map .notice)) := rfl

/-! ### Validation objects -/

/-- Each of the objects is told something, in order. -/
def toldEach (objects : List ValidationObject) (hook : Hook) : List Event :=
  objects.map fun o => .told o hook

/-- What objects are told before a call that none of them skips. -/
def toldBefore (objects : List ValidationObject) (command : Command) : List Event :=
  toldEach objects (.validate command) ++ toldEach objects (.before command)

/-- What is looked for among other events is not found where objects are told something. -/
theorem filterMap_toldEach {f : Event → Option β} {hook : Hook}
    (htold : ∀ o, f (.told o hook) = none) (objects : List ValidationObject) :
    (toldEach objects hook).filterMap f = [] := by
  rw [toldEach, List.filterMap_map]
  exact List.filterMap_eq_nil_iff.2 fun o _ => htold o

theorem filterMap_toldBefore {f : Event → Option β} (htold : ∀ o hook, f (.told o hook) = none)
    (objects : List ValidationObject) (command : Command) :
    (toldBefore objects command).filterMap f = [] := by
  rw [toldBefore, List.filterMap_append, filterMap_toldEach fun o => htold o _,
    filterMap_toldEach fun o => htold o _]
  rfl

theorem run_tell (objects : List ValidationObject) (hook : Hook) (s : Layer δ σ) :
    (tell objects hook : CallM δ σ Unit).run s = ((), s.see (toldEach objects hook)) := by
  unfold tell
  induction objects generalizing s with
  | nil => exact congrArg (Prod.mk ()) (Layer.see_nil s).symm
  | cons o os ih =>
    have hfirst : ((notify hook o : CallM δ σ Unit).run s).2 = s.see [.told o hook] := rfl
    rw [run_forM_cons, hfirst, ih, Layer.see_see]
    rfl

theorem run_announce (hook : Hook) (s : Layer δ σ) :
    (announce hook : CallM δ σ Unit).run s
      = ((), s.see (.announced hook :: toldEach s.object.registry.chain.objects hook)) := by
  have hemit : (emit [.announced hook] : CallM δ σ Unit).run s
      = ((), s.see [.announced hook]) := rfl
  unfold announce
  rw [run_bind_of hemit, run_bind_of (run_validationChain _), run_tell, Layer.see_see]
  rfl

/-- **Every one of the objects is asked**, whatever the others have answered. -/
theorem run_foldlM_ask (command : Command) (objects : List ValidationObject) (skip : Bool)
    (s : Layer δ σ) :
    (objects.foldlM (fun skip object => return (← ask command object) || skip) skip :
        CallM δ σ Bool).run s
      = ((objects.any fun o => s.world.behaviour.vetoes o.id command) || skip,
          s.see (toldEach objects (.validate command))) := by
  induction objects generalizing skip s with
  | nil => exact congrArg (Prod.mk skip) (Layer.see_nil s).symm
  | cons o os ih =>
    have hone : (do return (← ask command o) || skip : CallM δ σ Bool).run s
        = (s.world.behaviour.vetoes o.id command || skip, s.see [.told o (.validate command)]) :=
      rfl
    rw [List.foldlM_cons, run_bind_of hone, ih, Layer.see_see, List.any_cons]
    refine Prod.ext ?_ rfl
    show (_ || (_ || _)) = (_ || _ || _)
    rw [Bool.or_left_comm, Bool.or_assoc]
    rfl

/-- Asking the objects of a chain tells each of them, and comes to whether any of them wants to
skip the call. -/
theorem run_askToSkip (chain : ValidationChain) (command : Command) (s : Layer δ σ) :
    (askToSkip chain command : CallM δ σ Bool).run s
      = (chain.vetoes s.world.behaviour command,
          s.see (toldEach (chain.intercepting command) (.validate command))) := by
  unfold askToSkip
  rw [run_foldlM_ask, Bool.or_false]
  rfl

/-- A skipped call leaves nothing behind but the questions to the objects. -/
theorem run_intercept_of_vetoes {command : Command} {skipped : α}
    {body : CallM δ σ (Result × α)} {s : Layer δ σ}
    (h : s.object.registry.chain.vetoes s.world.behaviour command = true) :
    (intercept command skipped body).run s
      = ((.validationFailed, skipped),
          s.see (toldEach (s.object.registry.chain.intercepting command) (.validate command))) := by
  unfold intercept
  rw [run_bind_of (run_validationChain s), run_bind_of (run_askToSkip _ _ s), if_pos h]
  rfl

/-- A call that no object asks to skip is run between the announcements of its beginning
and its end. -/
theorem run_intercept {command : Command} {skipped : α} {body : CallM δ σ (Result × α)}
    {s : Layer δ σ}
    (h : s.object.registry.chain.vetoes s.world.behaviour command = false) :
    (intercept command skipped body).run s
      = let objects := s.object.registry.chain.intercepting command
        let t := body.run (s.see (toldBefore objects command))
        (t.1, t.2.see (toldEach objects (.after command t.1.1))) := by
  have hnot : ¬ s.object.registry.chain.vetoes s.world.behaviour command = true := by
    rw [h]
    exact Bool.false_ne_true
  unfold intercept
  rw [run_bind_of (run_validationChain s), run_bind_of (run_askToSkip _ _ s), if_neg hnot,
    run_bind_of (run_tell _ _ _), Layer.see_see, run_bind]
  dsimp only
  rw [run_bind_of (run_tell _ _ _)]
  rfl

/-! ### Requests handed down -/

namespace Layer

variable [NextLayer σ]

/-- The answer of the next layer to a request, if it has the entry point. -/
def reply (s : Layer δ σ) (request : Request) (room : Option Nat) : Reply :=
  if s.object.table.provides request.command then
    (NextLayer.answer ⟨s.object.handle, request, room⟩ s.world.below).1.ofCommand
      request.command
  else .missing request.command

/-- The state after a request was handed down. -/
def ask (s : Layer δ σ) (request : Request) (room : Option Nat) : Layer δ σ :=
  if s.object.table.provides request.command then
    { s with world := { s.world.see [.call ⟨s.object.handle, request, room⟩] with
        below := (NextLayer.answer ⟨s.object.handle, request, room⟩ s.world.below).2 } }
  else s

@[simp] theorem object_ask (s : Layer δ σ) (request : Request) (room : Option Nat) :
    (s.ask request room).object = s.object := by
  unfold ask
  split <;> rfl

@[simp] theorem wrapper_ask (s : Layer δ σ) (request : Request) (room : Option Nat) :
    (s.ask request room).world.wrapper = s.world.wrapper := by
  unfold ask
  split <;> rfl

@[simp] theorem memory_ask (s : Layer δ σ) (request : Request) (room : Option Nat) :
    (s.ask request room).world.memory = s.world.memory := by
  unfold ask
  split <;> rfl

end Layer

theorem run_forward [NextLayer σ] (request : Request) (room : Option Nat) (s : Layer δ σ) :
    (forward request room : CallM δ σ Reply).run s
      = (s.reply request room, s.ask request room) := by
  have hget : (get : CallM δ σ (Layer δ σ)).run s = (s, s) := rfl
  unfold forward
  rw [run_bind_of hget]
  unfold Layer.reply Layer.ask
  split <;> rfl

/-- An array goes down element by element; a null pointer stays null with its count. -/
theorem value_resolveArray {α : Type} (resolve : α → Noted α) (a : AppArray α) :
    (resolveArray resolve a).value = a.map fun x => (resolve x).value := by
  cases a with
  | null n => rfl
  | elems xs => exact congrArg AppArray.elems List.map_map

theorem toList_value_resolveArray {α : Type} (resolve : α → Noted α) (a : AppArray α) :
    (resolveArray resolve a).value.toList = a.toList.map fun x => (resolve x).value := by
  rw [value_resolveArray, AppArray.toList_map]

namespace DeviceRequest

/-- The number of output slots that the next layer is given.  Some calls have no storage of
their own for handles, and ray tracing pipelines go to an array of the layer while handles
are wrapped. -/
def roomBelow (wrapping : Bool) (r : DeviceRequest) (out : Outputs) : Option Nat :=
  match r with
  | createRayTracingPipelines _ _ _ infos =>
    if wrapping then some infos.count else out.slots.map List.length
  | destroy .. | freeCommandBuffers .. | joinOperation _ | queryOperation _
  | buildStructures .. => none
  | _ => out.slots.map List.length

theorem command_resolve (w : Wrapper) (s : Shadows) (r : DeviceRequest) :
    (r.resolve w s).value.command = r.command := by
  unfold resolve
  split
  · rfl
  · cases r with
    | create info =>
      show (info.resolve w).value.command = info.command
      cases info <;> rfl
    | labelObject extension type object label => cases extension <;> cases label <;> rfl
    | _ => rfl

end DeviceRequest

namespace Device

/-- The first object of a kind, if there is one, is told of pipelines. -/
theorem run_notifyReady (operation : Handle) (pipelines : List Handle) (kind : ObjectKind)
    (s : Layer Tracked σ) :
    (notifyReady operation pipelines kind).run s = ((), s.see
      (toldEach (s.object.registry.chain.get? kind).toList
        (.pipelinesReady operation pipelines))) := by
  unfold notifyReady
  rw [run_bind_of (run_validationChain s), run_tell]

variable [NextLayer σ]

/-- The state after a request of the application was resolved, which leaves notices, and
handed down. -/
def sent (r : DeviceRequest) (room : Option Nat) (s : Layer Tracked σ) : Layer Tracked σ :=
  let resolved := r.resolve s.world.wrapper s.object.own.toShadows
  (s.see (resolved.notices.map .notice)).ask (.ofDevice resolved.value) room

/-- The answer of the next layer to a request of the application. -/
def answer (r : DeviceRequest) (room : Option Nat) (s : Layer Tracked σ) : Reply :=
  s.reply (.ofDevice (r.resolve s.world.wrapper s.object.own.toShadows).value) room

theorem run_send (r : DeviceRequest) (room : Option Nat) (s : Layer Tracked σ) :
    (send r room).run s
      = (((r.resolve s.world.wrapper s.object.own.toShadows).value, answer r room s),
          sent r room s) := by
  have hrun : (send r room).run s
      = StateT.run (do
          let resolved := r.resolve s.world.wrapper s.object.own.toShadows
          note resolved.notices
          let reply ← forward (.ofDevice resolved.value) room
          return (resolved.value, reply) : DeviceM σ (DeviceRequest × Reply)) s := rfl
  rw [hrun, run_bind_of (run_note _ s), run_bind_of (run_forward _ _ _)]
  rfl

theorem run_relay (r : DeviceRequest) (out : Outputs) (s : Layer Tracked σ) :
    (relay r out).run s
      = (((answer r (out.slots.map List.length) s).result,
            (answer r (out.slots.map List.length) s).write
              (r.resolve s.world.wrapper s.object.own.toShadows).value.chains out),
          sent r (out.slots.map List.length) s) := by
  unfold relay
  rw [run_bind_of (run_send _ _ s)]
  rfl

@[simp] theorem object_sent (r : DeviceRequest) (room : Option Nat) (s : Layer Tracked σ) :
    (sent r room s).object = s.object := Layer.object_ask _ _ _

@[simp] theorem wrapper_sent (r : DeviceRequest) (room : Option Nat) (s : Layer Tracked σ) :
    (sent r room s).world.wrapper = s.world.wrapper := Layer.wrapper_ask _ _ _

@[simp] theorem memory_sent (r : DeviceRequest) (room : Option Nat) (s : Layer Tracked σ) :
    (sent r room s).world.memory = s.world.memory := Layer.memory_ask _ _ _

end Device

end HandleLayer
