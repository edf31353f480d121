import HandleLayer.Proofs.Waiting

/-!
# What completion comes to

Work that a call puts off waits in the record of an operation.  Once the operation reports
success, everything in the record is done in order, and the record is gone.  What is done is
said here in one go: all the surrogates are minted first and then dealt out to the actions,
although the layer takes one action after the other.

## Main definitions

* `producedBy`, `deal` — all the pipelines of actions, and the actions with the surrogates of
  theirs.
* `Layer.complete` — the state after an operation has completed.
* `Layer.takeIn` — the state after outputs were written late.
* `DeferredOperations.Shares` — storage in which blocks that are shared may have changed.
* `Layer.Idles` — changes of the state that are nothing but talk.
* `DeviceRequest.work`, `Device.PutsOff` — what waits for a call whose work is put off, and
  what such a call comes to.

## Main results

* `Device.run_completeOperation` — what taking note of a result comes to.
* `Device.run_serve_of_isDeferred`, `Device.run_serve_of_not_isDeferred` — the creation of ray
  tracing pipelines, put off and done at once.
* `Device.run_perform_of_awaits` — **what asking for the result of an operation comes to.**
* `Device.putsOff_perform` — **what a call comes to whose work is put off.**
* `Device.get?_perform_of_none` — where nothing waits, nothing waits until a call puts work off.
-/

namespace HandleLayer

variable {σ : Type}

/-! ### Actions with their surrogates -/

namespace Completion

/-- The pipelines that an action hands to the application. -/
def produced : Completion → List Handle
  | .publish _ reals => reals
  | .release _ => []

/-- The storage of the application after an action, when `hs` are the surrogates of its
pipelines. -/
def store (hs : List Handle) (m : Table BatchId Batch) : Completion → Table BatchId Batch
  | .publish batch _ => m.modify batch (Batch.publish hs)
  | .release (.chains batch copies) => m.modify batch (Batch.settle copies)
  | .release _ => m

/-- What is seen of an action, when `hs` are the surrogates of its pipelines. -/
def seen (objects : List ValidationObject) (hs : List Handle) : Completion → List Event
  | .publish _ _ => births objects .pipeline hs
  | .release inputs => [.completed inputs, .dropped inputs]

end Completion

/-- The actions, with surrogates dealt out to them in order. -/
def deal : List Completion → List Handle → List (Completion × List Handle)
  | [], _ => []
  | c :: cs, hs => (c, hs.take c.produced.length) :: deal cs (hs.drop c.produced.length)

/-- All the pipelines of actions, in the order in which they are handed out. -/
def producedBy (cs : List Completion) : List Handle := cs.flatMap Completion.produced

/-- The storage of the application after actions. -/
def storage (dealt : List (Completion × List Handle)) (m : Table BatchId Batch) :
    Table BatchId Batch :=
  dealt.foldl (fun m p => p.1.store p.2 m) m

/-- What is seen of actions. -/
def sights (objects : List ValidationObject) (dealt : List (Completion × List Handle)) :
    List Event :=
  dealt.flatMap fun p => p.1.seen objects p.2

theorem deal_cons (c : Completion) (cs : List Completion) {hs : List Handle}
    (h : hs.length = c.produced.length) (hs' : List Handle) :
    deal (c :: cs) (hs ++ hs') = (c, hs) :: deal cs hs' := by
  rw [deal, ← h, List.take_left, List.drop_left]

/-- The state after actions with these surrogates; the wrapper is `w`. -/
def Layer.after (w : Wrapper) (dealt : List (Completion × List Handle)) (s : Layer Tracked σ) :
    Layer Tracked σ :=
  { s with
    world := { s.world.see (sights s.object.registry.chain.objects dealt) with
      wrapper := w
      memory := storage dealt s.world.memory } }

theorem Layer.after_nil (s : Layer Tracked σ) : s.after s.world.wrapper [] = s := by
  have hnone : sights s.object.registry.chain.objects [] = [] := rfl
  unfold Layer.after
  rw [hnone, World.see_nil]
  rfl

theorem Layer.after_after (w w' : Wrapper) (dealt dealt' : List (Completion × List Handle))
    (s : Layer Tracked σ) : (s.after w dealt).after w' dealt' = s.after w' (dealt ++ dealt') := by
  have hsights : sights s.object.registry.chain.objects (dealt ++ dealt')
      = sights s.object.registry.chain.objects dealt
        ++ sights s.object.registry.chain.objects dealt' := List.flatMap_append
  have hstorage : storage (dealt ++ dealt') s.world.memory
      = storage dealt' (storage dealt s.world.memory) := List.foldl_append
  unfold Layer.after
  rw [hsights, hstorage, ← World.see_see]
  rfl

/-- The state after actions: surrogates are minted for all their pipelines and dealt out. -/
def Layer.finish (cs : List Completion) (s : Layer Tracked σ) : Layer Tracked σ :=
  let minted := s.world.wrapper.wrapNewMany (producedBy cs)
  s.after minted.2 (deal cs minted.1)

/-- The first object of each of these kinds is told of the pipelines of an operation. -/
def toldReady (c : ValidationChain) (operation : Handle) (pipelines : List Handle)
    (kinds : List ObjectKind) : List Event :=
  kinds.flatMap fun kind => toldEach (c.get? kind).toList (.pipelinesReady operation pipelines)

/-- What is looked for among other events is not found there. -/
theorem filterMap_toldReady {β : Type} {f : Event → Option β} {operation : Handle}
    {pipelines : List Handle}
    (htold : ∀ o, f (.told o (.pipelinesReady operation pipelines)) = none)
    (c : ValidationChain) (kinds : List ObjectKind) :
    (toldReady c operation pipelines kinds).filterMap f = [] := by
  rw [toldReady, List.filterMap_flatMap]
  exact List.flatMap_eq_nil_iff.2 fun kind _ => filterMap_toldEach htold _

theorem silent_toldReady (c : ValidationChain) (operation : Handle) (pipelines : List Handle)
    (kinds : List ObjectKind) : Silent (toldReady c operation pipelines kinds) :=
  ⟨filterMap_toldReady (fun _ => rfl) c kinds, filterMap_toldReady (fun _ => rfl) c kinds⟩

/-- The state after an operation has completed for which `p` waited.  The record is gone,
the actions are done, and one object of every kind noted is told of all the pipelines that
exist now. -/
def Layer.complete (operation : Handle) (p : PendingOperation) (s : Layer Tracked σ) :
    Layer Tracked σ :=
  let hs := (s.world.wrapper.wrapNewMany (producedBy p.completions)).1
  ((s.withDeferred (s.object.own.deferred.erase operation)).finish p.completions).see
    (toldReady s.object.registry.chain operation (hs.filter (· ≠ 0)) p.postChecks)

/-- The state after the result of an operation was noted. -/
def Layer.settle (operation : Handle) (result : Result) (s : Layer Tracked σ) :
    Layer Tracked σ :=
  if result = .success then
    match s.object.own.deferred.get? operation with
    | none => s
    | some p => s.complete operation p
  else s

/-- The output storage with surrogates for the pipelines in its first slots. -/
def Outputs.publish (w : Wrapper) (count : Nat) (out : Outputs) : Outputs :=
  out.present (w.wrapNewMany (out.first count)).1

/-- Where the array is as long as asked for, every slot holds a surrogate. -/
theorem Outputs.slots_publish_of_length {w : Wrapper} {count : Nat} {out : Outputs}
    {reals : List Handle} (hslots : out.slots = some reals) (hlength : reals.length = count) :
    (out.publish w count).slots = some (w.wrapNewMany reals).1 := by
  unfold publish
  rw [first_of_length_le hslots (Nat.le_of_eq hlength), slots_present, hslots, Option.map_some,
    overwrite_of_length_eq (w.length_wrapNewMany reals).symm]

/-- The state after surrogates for pipelines were minted and announced. -/
def Layer.publish (reals : List Handle) (s : Layer Tracked σ) : Layer Tracked σ :=
  (s.withWrapper (s.world.wrapper.wrapNewMany reals).2).see
    (births s.object.registry.chain.objects .pipeline (s.world.wrapper.wrapNewMany reals).1)

namespace Device

theorem run_publishPipelines (reals : List Handle) (s : Layer Tracked σ) :
    (publishPipelines reals).run s
      = ((s.world.wrapper.wrapNewMany reals).1,
          (s.withWrapper (s.world.wrapper.wrapNewMany reals).2).see
            (births s.object.registry.chain.objects .pipeline
              (s.world.wrapper.wrapNewMany reals).1)) := by
  induction reals generalizing s with
  | nil => exact congrArg (Prod.mk []) (Layer.see_nil s).symm
  | cons real reals ih =>
    unfold publishPipelines
    have hbirths := births_cons s.object.registry.chain.objects .pipeline
      (s.world.wrapper.wrapNew real).1
      ((s.world.wrapper.wrapNew real).2.wrapNewMany reals).1
    rw [run_bind_of (run_wrapNew real s), run_bind_of (run_announceCreated _ _ _), run_bind, ih,
      run_pure, Wrapper.wrapNewMany]
    dsimp only
    rw [hbirths, ← Layer.see_see]
    rfl

theorem run_publishOutputs (count : Nat) (out : Outputs) (s : Layer Tracked σ) :
    (publishOutputs count out).run s
      = (out.publish s.world.wrapper count, s.publish (out.first count)) := by
  unfold publishOutputs
  rw [run_bind_of (run_publishPipelines _ s)]
  rfl

theorem run_runCompletion (c : Completion) (s : Layer Tracked σ) :
    let minted := s.world.wrapper.wrapNewMany c.produced
    (runCompletion c).run s
      = (minted.1.filter (· ≠ 0), s.after minted.2 [(c, minted.1)]) := by
  intro minted
  cases c with
  | release inputs => cases inputs <;> rfl
  | publish batch reals =>
    have hsights : sights s.object.registry.chain.objects [(.publish batch reals, minted.1)]
        = births s.object.registry.chain.objects .pipeline minted.1 := List.append_nil _
    unfold runCompletion Layer.after
    rw [run_bind_of (run_publishPipelines _ s), hsights]
    rfl

/-- One action after the other comes to the same as all of them at once. -/
theorem run_runCompletions (cs : List Completion) (s : Layer Tracked σ) :
    (runCompletions cs).run s
      = ((s.world.wrapper.wrapNewMany (producedBy cs)).1.filter (· ≠ 0), s.finish cs) := by
  induction cs generalizing s with
  | nil => exact congrArg (Prod.mk []) s.after_nil.symm
  | cons c cs ih =>
    -- the surrogates of the first action are the first ones that are minted
    have hlength := s.world.wrapper.length_wrapNewMany c.produced
    have hproduced : producedBy (c :: cs) = c.produced ++ producedBy cs := List.flatMap_cons
    unfold runCompletions Layer.finish
    rw [run_bind_of (run_runCompletion c s), run_bind, ih, run_pure, hproduced,
      Wrapper.wrapNewMany_append]
    dsimp only
    rw [deal_cons c cs hlength, List.filter_append, Layer.finish, Layer.after_after]
    rfl

/-- **What taking note of a result comes to.** -/
theorem run_completeOperation (operation : Handle) (result : Result) (s : Layer Tracked σ) :
    (completeOperation operation result).run s = ((), s.settle operation result) := by
  have htold : ∀ (pipelines : List Handle) (kinds : List ObjectKind) (t : Layer Tracked σ),
      (kinds.forM (notifyReady operation pipelines)).run t
        = ((), t.see (toldReady t.object.registry.chain operation pipelines kinds)) := by
    intro pipelines kinds
    induction kinds with
    | nil => exact fun t => congrArg (Prod.mk ()) t.see_nil.symm
    | cons kind kinds ih =>
      intro t
      rw [run_forM_cons, run_notifyReady, ih, Layer.see_see]
      rfl
  unfold completeOperation Layer.settle
  split
  · rw [run_bind_of (run_getOwn s)]
    cases hp : s.object.own.deferred.get? operation with
    | none => rfl
    | some p =>
      dsimp only
      rw [run_bind_of (run_modifyOwn _ s), run_bind_of (run_runCompletions _ _), htold]
      rfl
  · rfl

end Device

/-! ### Late outputs -/

/-- The storage of the application after outputs were written late, when `d` is what waits
then. -/
def LateWrite.storage (w : LateWrite) (d : DeferredOperations) (m : Table BatchId Batch) :
    Table BatchId Batch :=
  match d.copies? w.batch with
  | none => m
  | some copies => m.modify w.batch (Batch.share copies)

/-- The state after outputs were written late. -/
def Layer.takeIn (s : Layer Tracked σ) (w : LateWrite) : Layer Tracked σ :=
  let d := s.object.own.deferred.receive w
  { s.withDeferred d with
    world := { s.world with memory := w.storage d s.world.memory } }

theorem Device.run_receive (w : LateWrite) {s : Layer Tracked σ}
    (hw : s.world.wrapper.enabled = true) : (receive w).run s = ((), s.takeIn w) := by
  unfold receive Layer.takeIn LateWrite.storage
  rw [run_bind_of (run_wrapping s), if_pos hw, run_bind_of (run_modifyOwn _ s),
    run_bind_of (run_getOwn _)]
  dsimp only [Tracked.modifyDeferred]
  cases hcopies : (s.object.own.deferred.receive w).copies? w.batch with
  | none => rfl
  | some copies => rfl

/-- Storage in which nothing may have changed but blocks that the next layer writes itself:
arrays are as they were, and so is every place for which no copies of chains are kept. -/
structure DeferredOperations.Shares (d : DeferredOperations) (m m' : Table BatchId Batch) :
    Prop where
  slots : ∀ batch, (m'.get? batch).map Batch.slots = (m.get? batch).map Batch.slots
  others : ∀ batch, d.copies? batch = none → m'.get? batch = m.get? batch

namespace DeferredOperations

variable {d : DeferredOperations} {m m' m'' : Table BatchId Batch}

theorem Shares.refl (d : DeferredOperations) (m : Table BatchId Batch) : d.Shares m m :=
  ⟨fun _ => rfl, fun _ _ => rfl⟩

theorem Shares.trans (h : d.Shares m m') (h' : d.Shares m' m'') : d.Shares m m'' :=
  ⟨fun batch => (h'.slots batch).trans (h.slots batch),
    fun batch hnone => (h'.others batch hnone).trans (h.others batch hnone)⟩

theorem Shares.congr {d' : DeferredOperations} (h : d'.Shares m m')
    (hcopies : ∀ batch, (d'.copies? batch).isSome = (d.copies? batch).isSome) : d.Shares m m' := by
  refine ⟨h.slots, fun batch hnone => h.others batch ?_⟩
  have hsome := hcopies batch
  rw [hnone, Option.isSome_none, Option.isSome_eq_false_iff] at hsome
  exact Option.isNone_iff_eq_none.1 hsome

/-- A late write keeps copies for the places for which there were any. -/
theorem isSome_copies?_receive (d : DeferredOperations) (w : LateWrite) (batch : BatchId) :
    ((d.receive w).copies? batch).isSome = (d.copies? batch).isSome := by
  have hvalues : ∀ e : DeferredOperations, (e.copies? batch).isSome
      = (e.pending.values.map fun p => (p.outlines? batch).isSome).any id := by
    intro e
    rw [copies?, List.isSome_findSome?, List.any_map]
    refine congrArg e.pending.values.any (funext fun p => ?_)
    exact (Option.isSome_map).symm
  -- a late write keeps the records under their keys, and fills the outlines in each
  rw [hvalues, hvalues]
  refine congrArg (List.any · id) (Table.map_values_congr fun k => ?_)
  have hget : (d.receive w).pending.get? k
      = (d.pending.get? k).map (PendingOperation.receiveAll [w]) := d.get?_receive w k
  rw [hget, Option.map_map]
  refine congrArg (Option.map · _) (funext fun p => ?_)
  exact (congrArg Option.isSome (PendingOperation.outlines?_receive w batch p)).trans
    Option.isSome_map

theorem shares_storage (w : LateWrite) (d : DeferredOperations) (m : Table BatchId Batch) :
    d.Shares m (w.storage d m) := by
  unfold LateWrite.storage
  split
  · exact .refl d m
  · next copies hcopies =>
    refine ⟨fun batch => ?_, fun batch hnone => ?_⟩
    · rw [Table.get?_modify]
      split
      · rw [Option.map_map]
        rfl
      · rfl
    · have hne : batch ≠ w.batch := fun heq => by rw [heq, hcopies] at hnone; cases hnone
      rw [Table.get?_modify, if_neg hne]

end DeferredOperations

namespace Layer

/-- The state after several late writes. -/
def takeInAll (s : Layer Tracked σ) (late : List LateWrite) : Layer Tracked σ :=
  late.foldl takeIn s

/-- What late writes leave alone. -/
structure TakesIn (late : List LateWrite) (s t : Layer Tracked σ) : Prop where
  object : t.object = s.object.withOwn (s.object.own.withDeferred t.object.own.deferred)
  deferred : ∀ operation, t.object.own.deferred.get? operation
    = (s.object.own.deferred.get? operation).map (PendingOperation.receiveAll late)
  wrapper : t.world.wrapper = s.world.wrapper
  trace : t.world.trace = s.world.trace
  memory : s.object.own.deferred.Shares s.world.memory t.world.memory
  copies : ∀ batch, (t.object.own.deferred.copies? batch).isSome
    = (s.object.own.deferred.copies? batch).isSome

theorem takesIn_takeInAll (late : List LateWrite) (s : Layer Tracked σ) :
    TakesIn late s (s.takeInAll late) := by
  induction late generalizing s with
  | nil =>
    refine ⟨rfl, fun operation => ?_, rfl, rfl, .refl _ _, fun _ => rfl⟩
    have hid : PendingOperation.receiveAll [] = id := funext PendingOperation.receiveAll_nil
    rw [hid, Option.map_id]
    rfl
  | cons w late ih =>
    have hrest := ih (s.takeIn w)
    have hcopies := s.object.own.deferred.isSome_copies?_receive w
    refine ⟨hrest.object, fun operation => ?_, hrest.wrapper, hrest.trace, ?_,
      fun batch => (hrest.copies batch).trans (hcopies batch)⟩
    · have hfirst : (s.takeIn w).object.own.deferred.get? operation = _ :=
        s.object.own.deferred.get?_receive w operation
      refine (hrest.deferred operation).trans ?_
      rw [hfirst, Option.map_map]
      refine congrArg (Option.map · _) (funext fun p => ?_)
      exact p.receiveAll_receiveAll [w] late
    · have hfirst := DeferredOperations.shares_storage w
        (s.object.own.deferred.receive w) s.world.memory
      exact (hfirst.congr hcopies).trans (hrest.memory.congr hcopies)

end Layer

theorem Device.run_forM_receive (late : List LateWrite) {s : Layer Tracked σ}
    (hw : s.world.wrapper.enabled = true) :
    (late.forM receive).run s = ((), s.takeInAll late) := by
  induction late generalizing s with
  | nil => rfl
  | cons w late ih =>
    have hw' : (s.takeIn w).world.wrapper.enabled = true := hw
    rw [run_forM_cons, run_receive w hw, ih hw']
    rfl

/-! ### Nothing but talk -/

/-- A change of the state that leaves surrogates alone, and the storage of the application as
far as the next layer does; nothing is seen but what is part of any call. -/
structure Layer.Idles (s t : Layer Tracked σ) : Prop where
  wrapper : t.world.wrapper = s.world.wrapper
  memory : s.object.own.deferred.Shares s.world.memory t.world.memory
  copies : ∀ batch, (t.object.own.deferred.copies? batch).isSome
    = (s.object.own.deferred.copies? batch).isSome
  events : ∃ es, es.all Event.isRoutine = true ∧ t.world.events = s.world.events ++ es

namespace Layer.Idles

variable {s t u : Layer Tracked σ}

theorem trans (h : s.Idles t) (h' : t.Idles u) : s.Idles u := by
  obtain ⟨es, hroutine, hes⟩ := h.events
  obtain ⟨es', hroutine', hes'⟩ := h'.events
  refine ⟨h'.wrapper.trans h.wrapper, h.memory.trans (h'.memory.congr h.copies),
    fun batch => (h'.copies batch).trans (h.copies batch), es ++ es', ?_, ?_⟩
  · rw [List.all_append, hroutine, hroutine']
    rfl
  · rw [hes', hes, List.append_assoc]

theorem see {es : List Event} (hes : es.all Event.isRoutine = true) (s : Layer Tracked σ) :
    s.Idles (s.see es) :=
  ⟨rfl, .refl _ _, fun _ => rfl, es, hes, World.events_see es s.world⟩

theorem of_takesIn {late : List LateWrite} (h : TakesIn late s t) : s.Idles t := by
  refine ⟨h.wrapper, h.memory, h.copies, [], rfl, ?_⟩
  rw [World.events, h.trace, List.append_nil]
  rfl

theorem sent [NextLayer σ] (r : DeviceRequest) (room : Option Nat) (s : Layer Tracked σ) :
    s.Idles (Device.sent r room s) := by
  have hmemory : (Device.sent r room s).world.memory = s.world.memory := Device.memory_sent r room s
  refine ⟨Device.wrapper_sent r room s, ?_, fun batch => ?_, Device.exists_events_sent r room s⟩
  · rw [hmemory]
    exact .refl _ _
  · rw [Device.object_sent]

end Layer.Idles

/-! ### Calls that ask for a result -/

namespace Device

/-- What the validation objects are told before a call that is not skipped. -/
def opening (r : DeviceRequest) (s : Layer Tracked σ) : List Event :=
  toldBefore (s.object.registry.chain.intercepting r.command) r.command

/-- What the validation objects are told after a call that was not skipped. -/
def closing (r : DeviceRequest) (result : Result) (s : Layer Tracked σ) : List Event :=
  toldEach (s.object.registry.chain.intercepting r.command) (.after r.command result)

variable [NextLayer σ]

/-- The request as it goes down in a call that is not skipped, and the answer. -/
def exchange (r : DeviceRequest) (s : Layer Tracked σ) : DeviceRequest × Reply :=
  ((r.resolve s.world.wrapper s.object.own.toShadows).value,
    answer r r.handleCount? (s.see (opening r s)))

/-- The state after a call was announced, its request went down and the next layer has
answered. -/
def lowered (r : DeviceRequest) (s : Layer Tracked σ) : Layer Tracked σ :=
  sent r r.handleCount? (s.see (opening r s))

theorem idles_lowered (r : DeviceRequest) (s : Layer Tracked σ) : s.Idles (lowered r s) :=
  (Layer.Idles.see (all_isRoutine_toldBefore _ _) s).trans (.sent r r.handleCount? _)

@[simp] theorem memory_lowered (r : DeviceRequest) (s : Layer Tracked σ) :
    (lowered r s).world.memory = s.world.memory := memory_sent _ _ _

@[simp] theorem object_lowered (r : DeviceRequest) (s : Layer Tracked σ) :
    (lowered r s).object = s.object := object_sent _ _ _

/-- **What asking for the result of an operation comes to**, when no object asks to skip
the call: late outputs are taken in, then the result is noted. -/
theorem run_perform_of_awaits {r : DeviceRequest} {operation : Handle}
    {s : Layer Tracked σ} (hr : r.awaits? = some operation)
    (hw : s.world.wrapper.enabled = true) (out : Outputs)
    (hveto : s.object.registry.chain.vetoes s.world.behaviour r.command = false) :
    let result := (exchange r s).2.result
    (perform r out).run s
      = ((result, out),
          (((lowered r s).takeInAll (exchange r s).2.late).settle operation result).see
            (closing r result s)) := by
  intro result
  -- such requests are served alike, and nothing is done before or afterwards
  have hparts : s.object.own.prepared r = s.object.own ∧ s.object.own.lost r = [] ∧
      serve r out = (awaitOperation r operation out : DeviceM σ _) ∧ r.handleCount? = none ∧
      ∀ result out, conclude r result out = (Pure.pure () : DeviceM σ Unit) := by
    cases r with
    | joinOperation other | queryOperation other =>
      cases hr
      exact ⟨rfl, rfl, rfl, rfl, fun _ _ => rfl⟩
    | _ => cases hr
  obtain ⟨hprepared, hlost, hserve, hroom, hconclude⟩ := hparts
  have hsent : (lowered r s).world.wrapper.enabled = true := by
    rw [lowered, wrapper_sent]
    exact hw
  have hawait : (awaitOperation r operation out).run (s.see (opening r s))
      = ((result, out),
          ((lowered r s).takeInAll (exchange r s).2.late).settle operation result) := by
    have hsend : (send r none).run (s.see (opening r s)) = (exchange r s, lowered r s) := by
      rw [run_send, exchange, lowered, hroom]
      rfl
    unfold awaitOperation
    rw [run_bind_of hsend]
    dsimp only
    rw [run_bind_of (run_forM_receive _ hsent), run_bind_of (run_completeOperation _ _ _)]
    rfl
  rw [run_perform hveto, hprepared, hlost, hserve]
  unfold opening at hawait
  dsimp only [List.nil_append, Layer.withOwn_own] at hawait ⊢
  rw [hawait, hconclude]
  rfl

/-- A call that is not skipped has the result that its service has. -/
theorem vetoes_eq_false_of_result {r : DeviceRequest} {out : Outputs} {s : Layer Tracked σ}
    {result : Result} (h : ((perform r out).run s).1.1 = result)
    (hresult : result ≠ .validationFailed) :
    s.object.registry.chain.vetoes s.world.behaviour r.command = false := by
  refine Bool.eq_false_iff.2 fun hveto => hresult ?_
  rw [← h, run_perform_of_vetoes hveto]

variable {operation : Handle}

/-- **Where nothing waits, or the operation is not done yet, asking for its result is but
talk.** -/
theorem idles_perform_of_awaits {r : DeviceRequest} {out : Outputs} {s : Layer Tracked σ}
    (hr : r.awaits? = some operation) (hw : s.world.wrapper.enabled = true)
    (h : s.object.own.deferred.get? operation = none ∨
      ((perform r out).run s).1.1 ≠ .success) : s.Idles ((perform r out).run s).2 := by
  cases hveto : s.object.registry.chain.vetoes s.world.behaviour r.command with
  | true =>
    have hskipped : ((perform r out).run s).2
        = s.see (toldEach (s.object.registry.chain.intercepting r.command)
            (.validate r.command)) := by
      rw [run_perform_of_vetoes hveto]
      cases r with
      | joinOperation other | queryOperation other => rfl
      | _ => cases hr
    rw [hskipped]
    exact .see (all_isRoutine_toldEach (fun _ => rfl) _) s
  | false =>
    have hrun := run_perform_of_awaits hr hw out hveto
    dsimp only at hrun
    have htaken := Layer.takesIn_takeInAll (exchange r s).2.late (lowered r s)
    have hsettle : ((lowered r s).takeInAll (exchange r s).2.late).settle operation
        (exchange r s).2.result = (lowered r s).takeInAll (exchange r s).2.late := by
      unfold Layer.settle
      split
      · next hsuccess =>
        have hnone : s.object.own.deferred.get? operation = none := by
          refine h.resolve_right fun hresult => hresult ?_
          rw [hrun, hsuccess]
        rw [htaken.deferred operation, object_lowered, hnone]
        rfl
      · rfl
    rw [hrun, hsettle]
    exact ((idles_lowered r s).trans (.of_takesIn htaken)).trans
      (.see (all_isRoutine_toldEach (fun _ => rfl) _) _)

/-- **The call that completes an operation**: late outputs may come with it, then everything
that waits is done. -/
theorem complete_perform_of_awaits {r : DeviceRequest} {out : Outputs} {s : Layer Tracked σ}
    {p : PendingOperation} (hr : r.awaits? = some operation)
    (hw : s.world.wrapper.enabled = true)
    (hresult : ((perform r out).run s).1.1 = .success)
    (hp : s.object.own.deferred.get? operation = some p) :
    let p' := p.receiveAll (exchange r s).2.late
    ∃ t : Layer Tracked σ, s.Idles t ∧ t.object.own.deferred.get? operation = some p' ∧
      ((perform r out).run s).2 = (t.complete operation p').see (closing r .success s) := by
  intro p'
  have hveto := vetoes_eq_false_of_result hresult (by decide)
  have hrun := run_perform_of_awaits hr hw out hveto
  dsimp only at hrun
  have hsuccess : (exchange r s).2.result = .success := by rw [hrun] at hresult; exact hresult
  have htaken := Layer.takesIn_takeInAll (exchange r s).2.late (lowered r s)
  have hwaits : ((lowered r s).takeInAll (exchange r s).2.late).object.own.deferred.get? operation
      = some p' := by
    rw [htaken.deferred operation, object_lowered, hp]
    rfl
  refine ⟨_, (idles_lowered r s).trans (.of_takesIn htaken), hwaits, ?_⟩
  rw [hrun, hsuccess]
  unfold Layer.settle
  rw [if_pos rfl, hwaits]

end Device

/-! ### Calls whose work is put off -/

/-- What waits for a call whose work is put off, which went down as `sent`: a build keeps what
it was given; pipelines keep their chains, and are handed out before those are copied back. -/
def DeviceRequest.work (r sent : DeviceRequest) (reply : Reply) : List Completion :=
  match r with
  | .createRayTracingPipelines batch _ _ infos =>
    [.publish batch (overlay (List.replicate infos.count 0) reply.slots),
      .release (.chains batch (reply.fillChains sent.chains))]
  | .buildStructures .. => [.release (.builds sent)]
  | _ => []

/-- The kinds of validation object that are told of the pipelines of a call whose work is put
off. -/
def DeviceRequest.watchers (chain : ValidationChain) : DeviceRequest → List ObjectKind
  | .createRayTracingPipelines .. =>
    (chain.intercepting .createRayTracingPipelinesKhr).map ValidationObject.kind
  | _ => []

/-- The output storage once a call has returned whose work is put off: what the next layer
has written into blocks of the application is there. -/
def Outputs.untilThen (sent : DeviceRequest) (reply : Reply) (out : Outputs) : Outputs :=
  { out with chains := onto Chain.appAfter (reply.fillChains sent.chains) out.chains }

namespace Device

variable [NextLayer σ] {operation : Handle}

/-- The service of a call whose work is put off. -/
theorem run_serve_of_isDeferred {r : DeviceRequest} {t : Layer Tracked σ}
    (hr : r.defers? = some operation) (hw : t.world.wrapper.enabled = true) (out : Outputs)
    (h : isDeferred (answer r r.handleCount? t).result operation = true) :
    let down := (r.resolve t.world.wrapper t.object.own.toShadows).value
    let reply := answer r r.handleCount? t
    (serve r out).run t
      = ((reply.result, out.untilThen down reply),
          (sent r r.handleCount? t).withDeferred (t.object.own.deferred.add operation
            (r.work down reply) (r.watchers t.object.registry.chain))) := by
  intro down reply
  have hrun : (serve r out).run t
      = ((reply.result, out.untilThen down reply),
          (sent r r.handleCount? t).withDeferred
            ((sent r r.handleCount? t).object.own.deferred.add operation (r.work down reply)
              (r.watchers (sent r r.handleCount? t).object.registry.chain))) := by
    cases r with
    | createRayTracingPipelines batch other cache infos =>
      cases hr
      show (createRayTracingPipelines batch operation cache infos out).run t = _
      unfold createRayTracingPipelines createRayTracingWrapped
      rw [run_bind_of (run_wrapping t), if_pos hw, run_bind_of (run_send _ _ t)]
      exact congrArg (StateT.run · _) (if_pos h)
    | buildStructures other infos ranges =>
      cases hr
      -- a build has no chains to give back
      have hchains : down.chains = [] := by
        show (DeviceRequest.resolve _ _ _).value.chains = []
        unfold DeviceRequest.resolve
        split <;> rfl
      have hput : out.untilThen down reply = out := by
        unfold Outputs.untilThen Reply.fillChains
        rw [hchains, onto_nil_right]
        rfl
      show (buildStructures operation infos ranges out).run t = _
      unfold buildStructures
      rw [run_bind_of (run_send _ _ t), run_bind_of (run_wrapping _), wrapper_sent, hput]
      exact congrArg (StateT.run · _) (if_pos ⟨hw, h⟩)
    | _ => cases hr
  rwa [object_sent] at hrun

/-- **What a creation comes to that is not put off.** -/
theorem run_serve_of_not_isDeferred {batch : BatchId} {cache : Handle}
    {infos : AppArray RayTracingInfo} {t : Layer Tracked σ} (ht : t.world.wrapper.enabled = true)
    (out : Outputs) :
    let r : DeviceRequest := .createRayTracingPipelines batch operation cache infos
    let down := (r.resolve t.world.wrapper t.object.own.toShadows).value
    let reply := answer r (some infos.count) t
    let written := { out with
      slots := out.slots.map (overwrite · (overlay (List.replicate infos.count 0) reply.slots))
      chains := onto Chain.settle (reply.fillChains down.chains) out.chains }
    isDeferred reply.result operation = false →
    (serve r out).run t = ((reply.result, written.publish t.world.wrapper infos.count),
      (sent r (some infos.count) t).publish (written.first infos.count)) := by
  intro r down reply written hdeferred
  show (createRayTracingPipelines batch operation cache infos out).run t = _
  unfold createRayTracingPipelines createRayTracingWrapped
  rw [run_bind_of (run_wrapping t), if_pos ht, run_bind_of (run_send _ _ t)]
  dsimp only
  split
  · next htrue => exact absurd htrue (Bool.eq_false_iff.1 hdeferred)
  · rw [run_bind_of (run_publishOutputs _ _ _), run_pure, wrapper_sent]

theorem serve_of_not_isDeferred {r : DeviceRequest} {t : Layer Tracked σ}
    (hr : r.defers? = some operation) (hw : t.world.wrapper.enabled = true) (out : Outputs)
    (h : isDeferred (answer r r.handleCount? t).result operation = false) :
    ((serve r out).run t).1.1 = (answer r r.handleCount? t).result ∧
      ((serve r out).run t).2.object.own.deferred = t.object.own.deferred := by
  -- once the request has gone down, what follows has nothing to do with what waits
  have hserve : ∃ q : DeviceM σ (Result × Outputs), Ignores q ∧
      (∀ s, (q.run s).1.1 = (answer r r.handleCount? t).result) ∧
      (serve r out).run t = q.run (sent r r.handleCount? t) := by
    cases r with
    | createRayTracingPipelines batch other cache infos =>
      cases hr
      refine ⟨?q, ?ignores, ?result, ?run⟩
      case run =>
        show (createRayTracingPipelines batch operation cache infos out).run t = _
        unfold createRayTracingPipelines createRayTracingWrapped
        rw [run_bind_of (run_wrapping t), if_pos hw, run_bind_of (run_send _ _ t)]
        dsimp only
        split
        · next hdeferred => exact absurd hdeferred (Bool.eq_false_iff.1 h)
        · rfl
      case ignores => exact (ignores_publishOutputs _ _).bind fun _ => .pure _
      case result => exact fun _ => rfl
    | buildStructures other infos ranges =>
      cases hr
      refine ⟨_, .pure (_, out), fun _ => rfl, ?_⟩
      show (buildStructures operation infos ranges out).run t = _
      unfold buildStructures
      rw [run_bind_of (run_send _ _ t), run_bind_of (run_wrapping _)]
      exact congrArg (StateT.run · _) (if_neg fun hboth => Bool.eq_false_iff.1 h hboth.2)
    | _ => cases hr
  obtain ⟨q, hq, hresult, hrun⟩ := hserve
  rw [hrun]
  exact ⟨hresult _, by rw [hq.deferred_eq, object_sent]⟩

/-- What a call comes to whose work is put off: it waits, the arrays of the application are as
they were, no surrogate is new, and nothing is seen but what is part of any call. -/
structure PutsOff (r : DeviceRequest) (operation : Handle) (out : Outputs)
    (s : Layer Tracked σ) (u : (Result × Outputs) × Layer Tracked σ) : Prop where
  outcome : u.1 = (.operationDeferred, out.untilThen (exchange r s).1 (exchange r s).2)
  object : u.2.object = s.object.withOwn (s.object.own.withDeferred
    (s.object.own.deferred.add operation (r.work (exchange r s).1 (exchange r s).2)
      (r.watchers s.object.registry.chain)))
  wrapper : u.2.world.wrapper = s.world.wrapper
  memory : u.2.world.memory = stored r u.1.2 s.world.memory
  events : ∃ es, es.all Event.isRoutine = true ∧ u.2.world.events = s.world.events ++ es

/-- The parts of a call whose work may be put off. -/
theorem run_perform_of_defers {r : DeviceRequest} {s : Layer Tracked σ}
    (hr : r.defers? = some operation) (out : Outputs)
    (hveto : s.object.registry.chain.vetoes s.world.behaviour r.command = false) :
    let u := (serve r out).run (s.see (opening r s))
    (perform r out).run s
      = (u.1, { u.2.see (closing r u.1.1 s) with
          world := { u.2.world.see (closing r u.1.1 s) with
            memory := stored r u.1.2 u.2.world.memory } }) := by
  intro u
  have hparts : s.object.own.prepared r = s.object.own ∧ s.object.own.lost r = [] ∧
      ∀ (outcome : Result × Outputs) (t : Layer Tracked σ),
        (conclude r outcome.1 outcome.2).run t = ((), { t with
          world := { t.world with memory := stored r outcome.2 t.world.memory } }) := by
    cases r with
    | createRayTracingPipelines => exact ⟨rfl, rfl, fun _ _ => rfl⟩
    | buildStructures => exact ⟨rfl, rfl, fun _ _ => rfl⟩
    | _ => cases hr
  obtain ⟨hprepared, hlost, hconclude⟩ := hparts
  rw [run_perform hveto, hprepared, hlost]
  dsimp only [List.nil_append, Layer.withOwn_own]
  rw [hconclude]
  rfl

/-- **What a call comes to whose work is put off.** -/
theorem putsOff_perform {r : DeviceRequest} {out : Outputs} {s : Layer Tracked σ}
    (hr : r.defers? = some operation) (hoperation : operation ≠ 0)
    (hw : s.world.wrapper.enabled = true)
    (hresult : ((perform r out).run s).1.1 = .operationDeferred) :
    PutsOff r operation out s ((perform r out).run s) := by
  have hveto := vetoes_eq_false_of_result hresult (by decide)
  have hrun := run_perform_of_defers hr out hveto
  have hdeferred : isDeferred (exchange r s).2.result operation = true := by
    cases hnot : isDeferred (exchange r s).2.result operation with
    | true => rfl
    | false =>
      -- the result would be the answer of the next layer, and so the work would be put off
      have hserved : ((serve r out).run (s.see (opening r s))).1.1 = (exchange r s).2.result :=
        (serve_of_not_isDeferred (t := s.see (opening r s)) hr hw out hnot).1
      have hreply : (exchange r s).2.result = .operationDeferred := by
        rw [← hserved, ← hresult, hrun]
      simp [isDeferred, hreply, hoperation] at hnot
  have hserve : (serve r out).run (s.see (opening r s))
      = (((exchange r s).2.result, out.untilThen (exchange r s).1 (exchange r s).2),
          (lowered r s).withDeferred _) :=
    run_serve_of_isDeferred (t := s.see (opening r s)) hr hw out hdeferred
  have hreply : (exchange r s).2.result = .operationDeferred := by
    rw [hrun, hserve] at hresult
    exact hresult
  have hidles := idles_lowered r s
  obtain ⟨es, hroutine, hes⟩ := hidles.events
  rw [hrun, hserve, hreply]
  refine ⟨rfl, ?_, hidles.wrapper, ?_, es ++ closing r .operationDeferred s, ?_, ?_⟩
  · show (lowered r s).object.withOwn ((lowered r s).object.own.withDeferred _) = _
    rw [object_lowered]
    rfl
  · exact congrArg (stored r _) (memory_lowered r s)
  · rw [List.all_append, hroutine, Bool.true_and]
    exact all_isRoutine_toldEach (fun _ => rfl) _
  · rw [← List.append_assoc, ← hes]
    exact World.events_see _ _

/-! ### Nothing waits -/

/-- Destroying an operation gives up what waits for it, even if the call is skipped. -/
theorem get?_perform_destroy (out : Outputs) (s : Layer Tracked σ) :
    ((perform (.destroy .deferredOperation operation) out).run s).2.object.own.deferred.get?
      operation = none := by
  -- the record goes before any object is asked
  have herased : (s.object.own.prepared (.destroy .deferredOperation operation)).deferred.get?
      operation = none := by
    refine (DeferredOperations.get?_erase _ _ _).trans ?_
    rw [if_pos rfl]
  cases hveto : s.object.registry.chain.vetoes s.world.behaviour
      (DeviceRequest.destroy .deferredOperation operation).command with
  | true =>
    rw [run_perform_of_vetoes hveto]
    exact herased
  | false =>
    rw [run_perform hveto]
    dsimp only
    rw [(ignores_conclude _ _ _).deferred_eq]
    refine (congrArg (DeferredOperations.get? · operation) ?_).trans herased
    exact (ignores_serve rfl rfl out).deferred_eq _

/-- A call whose work could have been put off, but was not. -/
theorem get?_perform_of_defers {r : DeviceRequest} {out : Outputs} {s : Layer Tracked σ}
    (hr : r.defers? = some operation) (hw : s.world.wrapper.enabled = true)
    (hnone : s.object.own.deferred.get? operation = none)
    (hresult : ((perform r out).run s).1.1 ≠ .operationDeferred) :
    ((perform r out).run s).2.object.own.deferred.get? operation = none := by
  cases hveto : s.object.registry.chain.vetoes s.world.behaviour r.command with
  | true =>
    have hprepared : s.object.own.prepared r = s.object.own := by
      cases r with
      | createRayTracingPipelines | buildStructures => rfl
      | _ => cases hr
    rw [run_perform_of_vetoes hveto, hprepared]
    exact hnone
  | false =>
    have hrun := run_perform_of_defers hr out hveto
    have hnot : isDeferred (exchange r s).2.result operation = false := by
      refine Bool.eq_false_iff.2 fun hdeferred => hresult ?_
      have hserve := run_serve_of_isDeferred (t := s.see (opening r s)) hr hw out hdeferred
      rw [isDeferred, Bool.and_eq_true, beq_iff_eq] at hdeferred
      rw [hrun, hserve]
      exact hdeferred.1
    have hserved := serve_of_not_isDeferred (t := s.see (opening r s)) hr hw out hnot
    rw [hrun]
    exact (congrArg (DeferredOperations.get? · operation) hserved.2).trans hnone

/-- Where nothing waits, nothing waits until a call puts work off. -/
theorem get?_perform_of_none {r : DeviceRequest} {out : Outputs} {s : Layer Tracked σ}
    (hw : s.world.wrapper.enabled = true)
    (hnone : s.object.own.deferred.get? operation = none)
    (hputs : ¬ (r.defers? = some operation ∧
      ((perform r out).run s).1.1 = .operationDeferred)) :
    ((perform r out).run s).2.object.own.deferred.get? operation = none := by
  by_cases hr : r.defers? = some operation
  · exact get?_perform_of_defers hr hw hnone fun hresult => hputs ⟨hr, hresult⟩
  · -- no change that other requests make lets anything wait for the operation
    refine (edited_perform r out s).invariant
      (P := fun t => t.deferred.get? operation = none) ?_ hnone
    intro f hf t ht
    have hadd : ∀ {other completions kinds}, r.defers? = some other →
        (t.deferred.add other completions kinds).get? operation = none := by
      intro other completions kinds hother
      have hne : other ≠ operation := fun heq => hr (hother.trans (congrArg some heq))
      rw [DeferredOperations.get?_add, if_neg hne, ht]
    have herase : ∀ other, (t.deferred.erase other).get? operation = none := by
      intro other
      rw [DeferredOperations.get?_erase]
      split
      · rfl
      · exact ht
    cases hf with
    | discard other => exact herase other
    | complete => exact herase _
    | deferPipelines batch other cache infos completions kinds => exact hadd rfl
    | deferBuilds other infos ranges completions => exact hadd rfl
    | receive h w =>
      refine (t.deferred.get?_receive w operation).trans ?_
      rw [ht]
      rfl
    | remember info h => cases info <;> exact ht
    | _ => exact ht

end Device

end HandleLayer
