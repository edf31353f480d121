import Mathlib.Data.List.Nodup
import HandleLayer.Proofs.CopyBack
import HandleLayer.Proofs.DeferralRuns
import HandleLayer.Proofs.FailedCalls
import HandleLayer.Proofs.HandingDown

/-!
# At once or later

The creation of ray tracing pipelines may be put off under an operation.  The next layer then
writes into an array and into copies of chains that the layer keeps, and only when the operation
is done are surrogates minted, handed out and announced and outputs copied back.  When nothing is
put off all this happens within the call, and in another order.  What the application has in the
end does not depend on which of the two it was.

## Main definitions

* `Chain.Fits` — copies that are not longer than the chains they were made of.
* `Layer.Holds` — an operation for which the pipelines of one call wait, and nothing else.
* `ValidationChain.IsAsked` — chains whose objects were asked what they intercept.
* `readyIn` — the announcements of pipelines that are ready.

## Main results

* `Layer.Holds.takeInAll` — late writes come to the copies and, where blocks are shared, to the
  application.
* `Layer.Holds.complete` — what completion comes to when the pipelines of one call wait.
* `deferral_keeps_outcome` — **whether a creation is put off makes no difference in the end.**
-/

namespace HandleLayer

variable {σ : Type}

/-! ### Kept copies -/

theorem Table.mem_values {κ ν : Type} [Ord κ] [Std.TransOrd κ] [Std.LawfulEqOrd κ]
    {t : Table κ ν} {v : ν} : v ∈ t.values ↔ ∃ k, t.get? k = some v := by
  rw [values, List.mem_map]
  constructor
  · rintro ⟨⟨k, v'⟩, hmem, rfl⟩
    exact ⟨k, Std.ExtTreeMap.mem_toList_iff_getElem?_eq_some.1 hmem⟩
  · rintro ⟨k, hk⟩
    exact ⟨⟨k, v⟩, Std.ExtTreeMap.mem_toList_iff_getElem?_eq_some.2 hk, rfl⟩

namespace DeferredOperations

variable {d : DeferredOperations} {operation : Handle} {batch : BatchId}

/-- Where no copies are kept for a place, no record keeps any. -/
theorem outlines?_of_copies? (hnone : d.copies? batch = none) {p : PendingOperation}
    (hp : d.get? operation = some p) : p.outlines? batch = none := by
  have hall := List.findSome?_eq_none_iff.1 hnone p (Table.mem_values.2 ⟨operation, hp⟩)
  rw [PendingOperation.outlines?, hall, Option.map_none]

/-- The copies that are kept for a place, where only one record keeps any. -/
theorem copies?_of_get? {p : PendingOperation} (hp : d.get? operation = some p)
    (halone : ∀ other q, other ≠ operation → d.get? other = some q → q.outlines? batch = none) :
    d.copies? batch = p.completions.findSome? (Completion.copies? batch) := by
  have hnone : ∀ other q, other ≠ operation → d.get? other = some q →
      q.completions.findSome? (Completion.copies? batch) = none := fun other q hne hq =>
    Option.map_eq_none_iff.1 (halone other q hne hq)
  cases hfound : d.copies? batch with
  | none =>
    exact (List.findSome?_eq_none_iff.1 hfound p (Table.mem_values.2 ⟨operation, hp⟩)).symm
  | some copies =>
    obtain ⟨q, hq, hcopies⟩ := List.exists_of_findSome?_eq_some hfound
    obtain ⟨other, hother⟩ := Table.mem_values.1 hq
    by_cases heq : other = operation
    · subst heq
      obtain rfl : q = p := Option.some.inj (hother.symm.trans hp)
      exact hcopies.symm
    · rw [hnone other q heq hother] at hcopies
      cases hcopies

end DeferredOperations

namespace Chain

/-- Sharing twice is sharing once, with what is shared then. -/
theorem appAfter_appAfter {c c' : Chain} {app : List Block}
    (hlength : c'.copied.length = c.copied.length) (hle : c.copied.length ≤ app.length) :
    c'.appAfter (c.appAfter app) = c'.appAfter app := by
  have htake : (app.take c.copied.length).length = c.copied.length := List.length_take_of_le hle
  rw [appAfter, appAfter, appAfter, hlength, List.take_left' htake]

/-- Sharing before copying back makes no difference. -/
theorem settle_appAfter {c c' : Chain} {app : List Block}
    (hlength : c'.copied.length = c.copied.length) (hle : c.copied.length ≤ app.length) :
    c'.settle (c.appAfter app) = c'.settle app :=
  congrArg (copyBack c'.copied) (appAfter_appAfter hlength hle)

/-- Chains handed down for chains of the application; the copied parts are not longer than
those are. -/
def Fits (copies : List Chain) (app : List (List Block)) : Prop :=
  List.Forall₂ (fun c blocks => c.copied.length ≤ blocks.length) copies app

/-- The lengths of the copied parts of chains. -/
def extents (copies : List Chain) : List Nat := copies.map fun c => c.copied.length

theorem extents_fill (fills : List (List BlockFill)) (copies : List Chain) :
    extents (onto (fun ws c => c.fill ws) fills copies) = extents copies := by
  induction copies generalizing fills with
  | nil => rw [onto_nil_right]
  | cons c copies ih =>
    cases fills with
    | nil => rfl
    | cons ws fills =>
      exact congrArg₂ List.cons (length_fillBlocks c.copied ws) (ih fills)

theorem Fits.congr {copies copies' : List Chain} {app : List (List Block)} (h : Fits copies app)
    (hextents : extents copies' = extents copies) : Fits copies' app := by
  have hlengths : ∀ cs : List Chain, Fits cs app ↔
      List.Forall₂ (fun n blocks => n ≤ blocks.length) (extents cs) app := fun cs =>
    (List.forall₂_map_left_iff (R := fun n (blocks : List Block) => n ≤ blocks.length)).symm
  rw [hlengths, hextents]
  exact (hlengths copies).1 h

/-- What is shared beforehand does not matter to what overwrites it. -/
theorem Fits.onto_appAfter {f : Chain → List Block → List Block}
    (hf : ∀ {c c' : Chain} {blocks : List Block}, c'.copied.length = c.copied.length →
      c.copied.length ≤ blocks.length → f c' (c.appAfter blocks) = f c' blocks)
    {copies copies' : List Chain} {app : List (List Block)} (h : Fits copies app)
    (hextents : extents copies' = extents copies) :
    onto f copies' (onto Chain.appAfter copies app) = onto f copies' app := by
  induction h generalizing copies' with
  | nil => rw [onto_nil_right]
  | @cons c blocks copies app hle _ ih =>
    cases copies' with
    | nil => cases hextents
    | cons c' copies' =>
      obtain ⟨hlength, hextents⟩ := List.cons.inj hextents
      rw [onto_cons, onto_cons, onto_cons, hf hlength hle, ih hextents]

/-- Copies of chains are not longer than the chains. -/
theorem fits_copy (w : Wrapper) (app : List (List Block)) :
    Fits (app.map fun blocks => (copy w blocks).value) app := by
  rw [Fits, List.forall₂_map_left_iff]
  exact List.forall₂_same.2 fun blocks _ => length_copied_le w blocks

end Chain

/-! ### While pipelines wait -/

/-- The pipelines of one call wait for an operation.  Nothing else waits for it, and no other
record keeps chains for the place that the call has named; the array there is as it was, and so
are the chains, but for blocks that are shared. -/
structure Layer.Holds (operation : Handle) (batch : BatchId) (slots : List Handle)
    (app : List (List Block)) (produced : List Handle) (copies : List Chain)
    (kinds : List ObjectKind) (s : Layer Tracked σ) : Prop where
  record : s.object.own.deferred.get? operation
    = some ⟨[.publish batch produced, .release (.chains batch copies)], kinds⟩
  alone : ∀ other p, other ≠ operation → s.object.own.deferred.get? other = some p →
    p.outlines? batch = none
  fits : Chain.Fits copies app
  memory : s.world.memory.get? batch = some ⟨some slots, onto Chain.appAfter copies app⟩

namespace Layer.Holds

variable {operation : Handle} {batch : BatchId} {slots produced : List Handle}
  {app : List (List Block)} {copies : List Chain} {kinds : List ObjectKind} {s : Layer Tracked σ}

/-- A late write to the place of the call goes to what is kept, and as far as blocks are shared
to the application. -/
theorem takeIn (h : Holds operation batch slots app produced copies kinds s) (w : LateWrite) :
    ∃ produced' copies', Holds operation batch slots app produced' copies' kinds (s.takeIn w) := by
  let produced' := if batch = w.batch then overlay produced w.slots else produced
  let copies' :=
    if batch = w.batch then onto (fun ws c => c.fill ws) w.fills copies else copies
  have hget := s.object.own.deferred.get?_receive w
  have hrecord : (s.takeIn w).object.own.deferred.get? operation
      = some ⟨[.publish batch produced', .release (.chains batch copies')], kinds⟩ := by
    refine (hget operation).trans ?_
    rw [h.record]
    rfl
  have halone : ∀ other p, other ≠ operation →
      (s.takeIn w).object.own.deferred.get? other = some p → p.outlines? batch = none := by
    intro other p hne hp
    obtain ⟨q, hq, rfl⟩ := Option.map_eq_some_iff.1 ((hget other).symm.trans hp)
    rw [PendingOperation.outlines?_receive, h.alone other q hne hq, Option.map_none]
  have hextents : Chain.extents copies' = Chain.extents copies := by
    show Chain.extents (if batch = w.batch then _ else _) = _
    split
    · exact Chain.extents_fill w.fills copies
    · rfl
  refine ⟨produced', copies', hrecord, halone, h.fits.congr hextents, ?_⟩
  show (w.storage (s.takeIn w).object.own.deferred s.world.memory).get? batch = _
  unfold LateWrite.storage
  by_cases hbatch : batch = w.batch
  · have hkept : (s.takeIn w).object.own.deferred.copies? batch = some copies' := by
      rw [DeferredOperations.copies?_of_get? hrecord halone]
      simp only [List.findSome?_cons, Completion.copies?, if_true]
    rw [← hbatch, hkept]
    dsimp only
    rw [Table.get?_modify, if_pos rfl, h.memory, Option.map_some, Batch.share,
      h.fits.onto_appAfter Chain.appAfter_appAfter hextents]
  · have hsame : copies' = copies := if_neg hbatch
    rw [hsame]
    split
    · exact h.memory
    · rw [Table.get?_modify, if_neg hbatch, h.memory]

theorem takeInAll (h : Holds operation batch slots app produced copies kinds s)
    (late : List LateWrite) :
    ∃ produced' copies',
      Holds operation batch slots app produced' copies' kinds (s.takeInAll late) := by
  induction late generalizing s produced copies with
  | nil => exact ⟨produced, copies, h⟩
  | cons w late ih =>
    obtain ⟨produced', copies', h'⟩ := h.takeIn w
    exact ih h'

/-- **What completion comes to when the pipelines of one call wait.** -/
theorem complete (h : Holds operation batch slots app produced copies kinds s)
    (hlength : slots.length = produced.length) :
    let minted := s.world.wrapper.wrapNewMany produced
    let t := s.complete operation
      ⟨[.publish batch produced, .release (.chains batch copies)], kinds⟩
    t.world.wrapper = minted.2 ∧
      t.world.memory.get? batch = some ⟨some minted.1, onto Chain.settle copies app⟩ ∧
      t.world.events = s.world.events ++
        (births s.object.registry.chain.objects .pipeline minted.1 ++
          [.completed (.chains batch copies), .dropped (.chains batch copies)] ++
          toldReady s.object.registry.chain operation (minted.1.filter (· ≠ 0)) kinds) := by
  intro minted t
  have hproduced : producedBy [.publish batch produced, .release (.chains batch copies)]
      = produced := List.append_nil produced
  have hdeal : deal [.publish batch produced, .release (.chains batch copies)] minted.1
      = [(.publish batch produced, minted.1), (.release (.chains batch copies), [])] := by
    have hminted : minted.1.length = produced.length := s.world.wrapper.length_wrapNewMany produced
    have hfirst : deal _ (minted.1 ++ []) = _ :=
      deal_cons (.publish batch produced) [.release (.chains batch copies)] hminted []
    rwa [List.append_nil] at hfirst
  have hfinish : t = (((s.withDeferred (s.object.own.deferred.erase operation)).after minted.2
      [(.publish batch produced, minted.1), (.release (.chains batch copies), [])]).see
        (toldReady s.object.registry.chain operation (minted.1.filter (· ≠ 0)) kinds)) := by
    show Layer.complete operation _ s = _
    unfold Layer.complete Layer.finish
    dsimp only
    rw [hproduced]
    exact congrArg (fun dealt => Layer.see _ (Layer.after _ dealt _)) hdeal
  have hslots : overwrite slots minted.1 = minted.1 := by
    refine overwrite_of_length_eq ?_
    rw [hlength]
    exact (s.world.wrapper.length_wrapNewMany produced).symm
  rw [hfinish]
  refine ⟨rfl, ?_, ?_⟩
  · show ((s.world.memory.modify batch (Batch.publish minted.1)).modify batch
      (Batch.settle copies)).get? batch = _
    rw [Table.get?_modify, if_pos rfl, Table.get?_modify, if_pos rfl, h.memory]
    simp only [Option.map_some, Batch.publish, Batch.settle, hslots]
    rw [h.fits.onto_appAfter Chain.settle_appAfter rfl]
  · refine (World.events_see _ _).trans ?_
    rw [← List.append_assoc]
    refine congrArg (· ++ _) ((World.events_see _ s.world).trans ?_)
    simp [sights, Completion.seen]
    rfl

end Layer.Holds

/-! ### Announcements -/

/-- The announcements of pipelines that are ready. -/
def readyIn (events : List Event) : List Event := events.filter fun e => e.ready?.isSome

/-- What is part of any call announces nothing. -/
theorem silent_of_isRoutine {es : List Event} (h : es.all Event.isRoutine = true) : Silent es := by
  refine silent_of_forall fun e he => ?_
  have hroutine := List.all_eq_true.1 h e he
  cases e with
  | announced => cases hroutine
  | _ => exact ⟨rfl, rfl⟩

theorem readyIn_of_isRoutine {es : List Event} (h : es.all Event.isRoutine = true) :
    readyIn es = [] := by
  refine List.filter_eq_nil_iff.2 fun e he => ?_
  rw [Event.ready?_of_isRoutine (List.all_eq_true.1 h e he)]
  exact Bool.false_ne_true

@[simp] theorem readyIn_append (es es' : List Event) :
    readyIn (es ++ es') = readyIn es ++ readyIn es' := List.filter_append ..

theorem readyIn_births (objects : List ValidationObject) (type : ObjectType)
    (hs : List Handle) : readyIn (births objects type hs) = [] := by
  refine List.filter_eq_nil_iff.2 fun e he => ?_
  obtain ⟨hook, hmem, he⟩ := List.mem_flatMap.1 he
  obtain ⟨h, -, rfl⟩ := List.mem_map.1 hmem
  rcases List.mem_cons.1 he with rfl | he
  · exact Bool.false_ne_true
  · obtain ⟨o, -, rfl⟩ := List.mem_map.1 he
    exact Bool.false_ne_true

theorem readyIn_toldReady (c : ValidationChain) (operation : Handle) (pipelines : List Handle)
    (kinds : List ObjectKind) :
    readyIn (toldReady c operation pipelines kinds) = toldReady c operation pipelines kinds := by
  refine List.filter_eq_self.2 fun e he => ?_
  obtain ⟨kind, -, he⟩ := List.mem_flatMap.1 he
  obtain ⟨o, -, rfl⟩ := List.mem_map.1 he
  rfl

/-! ### Put off -/

namespace Layer

/-- The state with another state of the next layer. -/
def withBelow {δ : Type} (below : σ) (s : Layer δ σ) : Layer δ σ :=
  { s with world := { s.world with below } }

end Layer

namespace Device

variable [NextLayer σ] {batch : BatchId} {operation cache : Handle}
  {infos : AppArray RayTracingInfo} {out : Outputs} {s : Layer Tracked σ}

omit [NextLayer σ] in
/-- The chains of the application are handed down as copies that fit them. -/
theorem fits_fillChains {r : DeviceRequest} (hs : s.world.wrapper.enabled = true)
    (hchains : r.chains = out.chains.map Chain.ofApp) (reply : Reply) :
    Chain.Fits (reply.fillChains
      (r.resolve s.world.wrapper s.object.own.toShadows).value.chains) out.chains := by
  have hresolve : r.resolve s.world.wrapper s.object.own.toShadows
      = r.resolveWrapped s.world.wrapper s.object.own.toShadows :=
    DeviceRequest.resolve_of_enabled hs _ r
  have hcopies : (r.resolve s.world.wrapper s.object.own.toShadows).value.chains
      = out.chains.map fun blocks => (Chain.copy s.world.wrapper blocks).value := by
    rw [hresolve, DeviceRequest.chains_resolveWrapped, hchains, List.map_map]
    rfl
  rw [hcopies]
  exact (Chain.fits_copy s.world.wrapper out.chains).congr (Chain.extents_fill reply.fills _)

/-- A creation that is put off under an operation of its own, with storage of its own. -/
theorem holds_of_putsOff {slots : List Handle} (hs : s.world.wrapper.enabled = true)
    (hchains : (DeviceRequest.createRayTracingPipelines batch operation cache infos).chains
      = out.chains.map Chain.ofApp)
    (hslots : out.slots = some slots)
    (hnone : s.object.own.deferred.get? operation = none)
    (hcopies : s.object.own.deferred.copies? batch = none)
    {u : (Result × Outputs) × Layer Tracked σ}
    (hputs : PutsOff (.createRayTracingPipelines batch operation cache infos) operation out s u) :
    let e := exchange (.createRayTracingPipelines batch operation cache infos) s
    Layer.Holds operation batch slots out.chains
      (overlay (List.replicate infos.count 0) e.2.slots) (e.2.fillChains e.1.chains)
      ((s.object.registry.chain.intercepting .createRayTracingPipelinesKhr).map
        ValidationObject.kind) u.2 := by
  intro e
  let r : DeviceRequest := .createRayTracingPipelines batch operation cache infos
  have hadd : u.2.object.own.deferred = s.object.own.deferred.add operation (r.work e.1 e.2)
      (r.watchers s.object.registry.chain) := by
    rw [hputs.object]
    rfl
  refine ⟨?_, fun other p hne hp => ?_, fits_fillChains hs hchains e.2, ?_⟩
  · rw [hadd, DeferredOperations.get?_add, if_pos rfl, hnone]
    rfl
  · rw [hadd, DeferredOperations.get?_add, if_neg hne.symm] at hp
    exact DeferredOperations.outlines?_of_copies? hcopies hp
  · rw [hputs.memory, hputs.outcome]
    refine (Table.get?_insert_self _ _ _).trans ?_
    rw [← hslots]
    rfl

/-- **The call that reports the operation done**, when the pipelines of one call wait for it. -/
theorem completes_of_holds {slots produced produced' : List Handle} {copies copies' : List Chain}
    {app : List (List Block)} {kinds : List ObjectKind} {q : DeviceRequest} {out : Outputs}
    (hq : q.awaits? = some operation) (hs : s.world.wrapper.enabled = true)
    (hresult : ((perform q out).run s).1.1 = .success)
    (h : Layer.Holds operation batch slots app produced copies kinds s)
    (hlate : [.publish batch produced', .release (.chains batch copies')]
      = [.publish batch produced, .release (.chains batch copies)].map
          (Completion.receiveAll (exchange q s).2.late))
    (hlength : slots.length = produced'.length) :
    let minted := s.world.wrapper.wrapNewMany produced'
    let world := ((perform q out).run s).2.world
    world.wrapper = minted.2 ∧
      world.memory.get? batch = some ⟨some minted.1, onto Chain.settle copies' app⟩ ∧
      createdIn world.events = createdIn s.world.events ++
        (minted.1.filter (· ≠ 0)).map (ObjectType.pipeline, ·) ∧
      readyIn world.events = readyIn s.world.events ++
        toldReady s.object.registry.chain operation (minted.1.filter (· ≠ 0)) kinds := by
  intro minted world
  have hveto := vetoes_eq_false_of_result hresult (by decide)
  have hrun := run_perform_of_awaits hq hs out hveto
  dsimp only at hrun
  have hsuccess : (exchange q s).2.result = .success := by rw [hrun] at hresult; exact hresult
  -- what waits now is what waited before, with what was written late
  have hlowered : Layer.Holds operation batch slots app produced copies kinds (lowered q s) := by
    refine ⟨?_, ?_, h.fits, ?_⟩
    · rw [object_lowered]
      exact h.record
    · rw [object_lowered]
      exact h.alone
    · rw [memory_lowered]
      exact h.memory
  obtain ⟨produced₂, copies₂, hholds⟩ := hlowered.takeInAll (exchange q s).2.late
  have htaken := Layer.takesIn_takeInAll (exchange q s).2.late (lowered q s)
  generalize (lowered q s).takeInAll (exchange q s).2.late = t at hrun hholds htaken
  have hwaits := htaken.deferred operation
  rw [hholds.record, hlowered.record, Option.map_some, PendingOperation.receiveAll,
    ← hlate] at hwaits
  obtain ⟨rfl, rfl⟩ : produced₂ = produced' ∧ copies₂ = copies' := by simpa using hwaits
  obtain ⟨es, hroutine, hes⟩ := (idles_lowered q s).events
  have hwrapper : t.world.wrapper = s.world.wrapper :=
    htaken.wrapper.trans (idles_lowered q s).wrapper
  have hevents : t.world.events = s.world.events ++ es :=
    (congrArg Array.toList htaken.trace).trans hes
  have hregistry : t.object.registry = s.object.registry := by
    rw [htaken.object, object_lowered]
    rfl
  obtain ⟨hminted, hmemory, hseen⟩ := hholds.complete hlength
  have hworld : world = (t.complete operation
      ⟨[.publish batch produced₂, .release (.chains batch copies₂)], kinds⟩).world.see
        (closing q .success s) := by
    show ((perform q out).run s).2.world = _
    rw [hrun, hsuccess]
    unfold Layer.settle
    rw [if_pos rfl, hholds.record]
    rfl
  rw [hwrapper] at hminted hmemory hseen
  rw [hevents, hregistry] at hseen
  refine ⟨?wrapper, ?memory, ?created, ?ready⟩
  case wrapper =>
    rw [hworld]
    exact hminted
  case memory =>
    rw [hworld]
    exact hmemory
  case created =>
    rw [hworld, World.events_see, hseen]
    have htold : createdIn (toldReady s.object.registry.chain operation
        ((s.world.wrapper.wrapNewMany produced₂).1.filter (· ≠ 0)) kinds) = [] :=
      (silent_toldReady _ _ _ kinds).1
    have hkept : createdIn [.completed (.chains batch copies₂), .dropped (.chains batch copies₂)]
        = [] := rfl
    have hclosing : createdIn (closing q .success s) = [] := (silent_toldEach _ _).1
    simp only [createdIn_append, (silent_of_isRoutine hroutine).1, createdIn_births, htold, hkept,
      hclosing, List.append_nil]
    rfl
  case ready =>
    rw [hworld, World.events_see, hseen]
    have hkept : readyIn [.completed (.chains batch copies₂), .dropped (.chains batch copies₂)]
        = [] := rfl
    have hclosing : readyIn (closing q .success s) = [] :=
      readyIn_of_isRoutine (all_isRoutine_toldEach (fun _ => rfl) _)
    simp only [readyIn_append, readyIn_of_isRoutine hroutine, readyIn_births, readyIn_toldReady,
      hkept, hclosing, List.append_nil, List.nil_append]
    rfl

/-! ### At once -/

/-- What a creation has come to that was not put off: all pipelines have surrogates, and all
outputs were copied back. -/
structure Creates (batch : BatchId) (produced : List Handle) (copies : List Chain)
    (out : Outputs) (s : Layer Tracked σ) (u : (Result × Outputs) × Layer Tracked σ) : Prop where
  outcome : u.1.2.slots = some (s.world.wrapper.wrapNewMany produced).1 ∧
    u.1.2.chains = onto Chain.settle copies out.chains
  wrapper : u.2.world.wrapper = (s.world.wrapper.wrapNewMany produced).2
  memory : u.2.world.memory.get? batch = some ⟨u.1.2.slots, u.1.2.chains⟩
  created : createdIn u.2.world.events = createdIn s.world.events ++
    ((s.world.wrapper.wrapNewMany produced).1.filter (· ≠ 0)).map (ObjectType.pipeline, ·)

theorem creates_of_not_deferred {slots : List Handle} (hs : s.world.wrapper.enabled = true)
    (hslots : out.slots = some slots) (hlength : slots.length = infos.count)
    (hveto : s.object.registry.chain.vetoes s.world.behaviour .createRayTracingPipelinesKhr
      = false) :
    let r : DeviceRequest := .createRayTracingPipelines batch operation cache infos
    let e := exchange r s
    ((perform r out).run s).1.1 ≠ .operationDeferred →
    Creates batch (overlay (List.replicate infos.count 0) e.2.slots) (e.2.fillChains e.1.chains)
      out s ((perform r out).run s) := by
  intro r e hresult
  have hdefers : r.defers? = some operation := rfl
  have hrun := run_perform_of_defers hdefers out hveto
  have hdeferred : isDeferred e.2.result operation = false := by
    refine Bool.eq_false_iff.2 fun htrue => hresult ?_
    have hserve := run_serve_of_isDeferred (t := s.see (opening r s)) (r := r) rfl hs out htrue
    rw [isDeferred, Bool.and_eq_true, beq_iff_eq] at htrue
    rw [hrun, hserve]
    exact htrue.1
  let produced := overlay (List.replicate infos.count 0) e.2.slots
  let written : Outputs :=
    { out with
      slots := out.slots.map (overwrite · produced)
      chains := onto Chain.settle (e.2.fillChains e.1.chains) out.chains }
  have hproduced : produced.length = infos.count := by simp [produced]
  -- the array is as long as the layer's own, which takes its place
  have hwritten : written.slots = some produced := by
    show out.slots.map _ = _
    rw [hslots, Option.map_some, overwrite_of_length_eq (hlength.trans hproduced.symm)]
  have hserve : (serve r out).run (s.see (opening r s))
      = ((e.2.result, written.publish s.world.wrapper infos.count),
          (lowered r s).publish produced) := by
    rw [← Outputs.first_of_length_le hwritten (Nat.le_of_eq hproduced)]
    exact run_serve_of_not_isDeferred (t := s.see (opening r s)) hs out hdeferred
  obtain ⟨es, hroutine, hes⟩ := (idles_lowered r s).events
  have hwrapper : (lowered r s).world.wrapper = s.world.wrapper := (idles_lowered r s).wrapper
  have hpublish : ∀ produced, ((lowered r s).publish produced).world.events
      = s.world.events ++ es ++ births s.object.registry.chain.objects .pipeline
          (s.world.wrapper.wrapNewMany produced).1 := by
    intro produced
    refine (World.events_see _ _).trans ?_
    rw [hwrapper, object_lowered]
    exact congrArg (· ++ _) hes
  rw [hrun, hserve]
  refine ⟨⟨Outputs.slots_publish_of_length hwritten hproduced, rfl⟩, ?_,
    Table.get?_insert_self _ _ _, ?_⟩
  · show ((lowered r s).world.wrapper.wrapNewMany _).2 = _
    rw [hwrapper]
  · refine (congrArg createdIn ((World.events_see _ _).trans
      (congrArg (· ++ _) (hpublish _)))).trans ?_
    rw [createdIn_append, createdIn_append, createdIn_append, (silent_of_isRoutine hroutine).1,
      createdIn_births, List.append_nil]
    refine (congrArg (_ ++ ·) (silent_toldEach _ _).1).trans ?_
    exact List.append_nil _

end Device

/-! ### Chains of objects -/

namespace ValidationChain

/-- A chain whose objects were asked at one time what they intercept. -/
def IsAsked (c : ValidationChain) : Prop := ∃ b, c = .new b c.objects

/-- Where no two objects are of one kind, each is the first of its kind. -/
theorem get?_kind {c : ValidationChain} (hnodup : (c.objects.map ValidationObject.kind).Nodup)
    {o : ValidationObject} (ho : o ∈ c.objects) : c.get? o.kind = some o := by
  have hsome : (c.get? o.kind).isSome = true :=
    List.find?_isSome.2 ⟨o, ho, decide_eq_true rfl⟩
  obtain ⟨o', ho'⟩ := Option.isSome_iff_exists.1 hsome
  have hkind : o'.kind = o.kind := by
    rw [get?] at ho'
    simpa using List.find?_some ho'
  rw [ho', List.inj_on_of_nodup_map hnodup (List.mem_of_find?_eq_some ho') ho hkind]

/-- Telling the first object of each kind that intercepts a command is telling each object that
does. -/
theorem toldReady_kind {c : ValidationChain} (hc : c.IsAsked)
    (hnodup : (c.objects.map ValidationObject.kind).Nodup) (command : Command)
    (operation : Handle) (pipelines : List Handle) :
    toldReady c operation pipelines ((c.intercepting command).map ValidationObject.kind)
      = toldEach (c.intercepting command) (.pipelinesReady operation pipelines) := by
  obtain ⟨b, hb⟩ := hc
  rw [toldReady, List.flatMap_map, toldEach, List.map_eq_flatMap]
  refine List.flatMap_congr fun o ho => ?_
  have hmem : o ∈ c.objects := by
    rw [hb, intercepting_new] at ho
    exact (List.mem_filter.1 ho).1
  rw [get?_kind hnodup hmem]
  rfl

end ValidationChain

/-- **Whatever happens, the objects in front of a device were asked at one time.** -/
theorem System.isAsked_act [NextLayer σ] {s : System σ}
    (hs : ∀ d ∈ s.devices, d.registry.chain.IsAsked) (a : Action σ) :
    ∀ d ∈ (s.act a).devices, d.registry.chain.IsAsked := by
  -- the objects of a device are asked anew together, when one of them is released
  have hmodify : ∀ (device : Option Nat) (q : ValidationObject → Bool),
      ∀ d ∈ (s.modifyRegistry device (Registry.releaseIf q)).devices,
        d.registry.chain.IsAsked := by
    intro device q d hd
    cases device with
    | none => exact hs d hd
    | some k =>
      obtain ⟨i, hi⟩ := List.mem_iff_getElem?.1 hd
      have hi' : (s.devices.modify k fun d =>
          { d with registry := d.registry.releaseIf q s.world.behaviour })[i]? = some d := hi
      rw [List.getElem?_modify] at hi'
      obtain ⟨d', hd', rfl⟩ := Option.map_eq_some_iff.1 hi'
      split
      · exact ⟨s.world.behaviour, rfl⟩
      · exact hs d' (List.mem_of_getElem? hd')
  cases a with
  | callDevice k r out =>
    cases hdevice : s.devices[k]? with
    | none =>
      rw [act_of_no_device hdevice]
      exact hs
    | some device =>
      rw [act_of_device hdevice]
      intro d hd
      rcases List.mem_or_eq_of_mem_set hd with hold | rfl
      · exact hs d hold
      · rw [(Device.registry_perform r out ⟨device, s.world⟩).1]
        exact hs device (List.mem_of_getElem? hdevice)
  | createDevice physicalDevice device table objects =>
    intro d hd
    let fresh := ((Instance.startDevice physicalDevice device table objects).run
      ⟨s.host, s.world⟩).1
    have hd' : d ∈ s.devices ++ [fresh] := hd
    have hfresh : fresh.registry = _ :=
      (Instance.registry_startDevice physicalDevice device table objects ⟨s.host, s.world⟩).1
    rcases List.mem_append.1 hd' with hold | hnew
    · exact hs d hold
    · rw [List.mem_singleton.1 hnew, hfresh]
      exact ⟨s.world.behaviour, rfl⟩
  | release device kind => exact hmodify device _
  | releaseAll device => exact hmodify device _
  | _ => exact hs

theorem System.isAsked_run [NextLayer σ] {s : System σ}
    (hs : ∀ d ∈ s.devices, d.registry.chain.IsAsked) (actions : List (Action σ)) :
    ∀ d ∈ (s.run actions).devices, d.registry.chain.IsAsked := by
  induction actions generalizing s with
  | nil => exact hs
  | cons a actions ih => exact ih (isAsked_act hs a)

/-! ### Both ways -/

/-- Put off or not, the descriptions go down once, with real handles. -/
theorem Device.calls_createRayTracing [NextLayer σ] {batch : BatchId} {operation cache : Handle}
    {infos : AppArray RayTracingInfo} {s : Layer Tracked σ} (hs : s.world.wrapper.enabled = true)
    (hveto : s.object.registry.chain.vetoes s.world.behaviour .createRayTracingPipelinesKhr
      = false) (out : Outputs) :
    let r : DeviceRequest := .createRayTracingPipelines batch operation cache infos
    ((perform r out).run s).2.world.calls = s.world.calls ++
      if s.object.table.provides r.command then
        [⟨s.object.handle, .ofDevice (exchange r s).1, some infos.count⟩]
      else [] := by
  intro r
  exact asked_perform_of_asksOnce (r := r) hs
    (asksOnce_createRayTracingPipelines batch operation cache infos out) rfl hveto

/-- **Whether a creation is put off makes no difference in the end.**  Take a system that wraps
handles, whatever has happened to it, and the creation of ray tracing pipelines with an array to
hold them and chains of any shape, under an operation for which nothing waits; the storage that
it names is that of no other call that waits.

Say it is put off, and the next call asks for the result of the operation, is not skipped and
reports success.  Then say that the same creation is made at once instead, and the next layer
produces the pipelines and outputs in chains that it has produced by then in the other case.  The
descriptions go down alike.  The same surrogates are minted in the same order, the array and the
chains of the application come to hold the same, with null where the next layer left null, and
the same pipelines are announced in the same order; until the operation is done there is nothing
of this.  If no two validation objects are of one kind, exactly those that intercept the creation
are told of the pipelines that are ready, one after the other and once each. -/
theorem deferral_keeps_outcome [NextLayer σ] (instanceHandle : Handle) (requested : ApiVersion)
    (settings : Settings) (hwrapping : settings.handleWrapping = true) (table : EntryTable)
    (behaviour : Behaviour) (objects : List ValidationObject) (below : σ)
    (before : List (Action σ)) (k : Nat) (device : Dispatch Tracked) (batch : BatchId)
    (operation cache : Handle) (infos : AppArray RayTracingInfo) (slots : List Handle)
    (out : Outputs) (q : DeviceRequest) (outq : Outputs) (later elsewhere : σ) :
    let start := System.start instanceHandle requested settings table behaviour objects below
    let s := start.run before
    let r : DeviceRequest := .createRayTracingPipelines batch operation cache infos
    let call : Layer Tracked σ := ⟨device, s.world⟩
    let put := (Device.perform r out).run call
    let waiting := put.2.withBelow later
    let done := (Device.perform q outq).run waiting
    let atOnce := (Device.perform r out).run (call.withBelow elsewhere)
    let exchange := Device.exchange r call
    let instead := (Device.exchange r (call.withBelow elsewhere)).2
    s.devices[k]? = some device → out.slots = some slots → slots.length = infos.count →
    r.chains = out.chains.map Chain.ofApp → operation ≠ 0 → s.work k operation = none →
    device.own.deferred.copies? batch = none →
    put.1.1 = .operationDeferred → q.awaits? = some operation → done.1.1 = .success →
    atOnce.1.1 ≠ .operationDeferred →
    r.work exchange.1 instead = (r.work exchange.1 exchange.2).map
      (Completion.receiveAll (Device.exchange q waiting).2.late) →
    (put.2.world.calls = atOnce.2.world.calls ∧ put.2.world.wrapper = s.world.wrapper ∧
        put.1.2.slots = out.slots ∧
        createdIn put.2.world.events = createdIn s.world.events) ∧
      done.2.world.wrapper = atOnce.2.world.wrapper ∧
      done.2.world.memory.get? batch = some ⟨atOnce.1.2.slots, atOnce.1.2.chains⟩ ∧
      atOnce.2.world.memory.get? batch = some ⟨atOnce.1.2.slots, atOnce.1.2.chains⟩ ∧
      createdIn done.2.world.events = createdIn atOnce.2.world.events ∧
      ∃ hs, atOnce.1.2.slots = some hs ∧
        List.Forall₂ (fun h real => h = 0 ↔ real = 0) hs
          (overlay (List.replicate infos.count 0) instead.slots) ∧
        createdIn atOnce.2.world.events
          = createdIn s.world.events ++ (hs.filter (· ≠ 0)).map (ObjectType.pipeline, ·) ∧
        ((device.registry.chain.objects.map ValidationObject.kind).Nodup →
          readyIn done.2.world.events = readyIn s.world.events ++
            (device.registry.chain.intercepting .createRayTracingPipelinesKhr).map fun o =>
              .told o (.pipelinesReady operation (hs.filter (· ≠ 0)))) := by
  intro start s r call put waiting done atOnce exchange instead hdevice hslots hlength hchains
    hoperation hnone hcopies hput hq hdone hnot hsame
  have hs : s.world.wrapper.enabled = true :=
    ((System.sound_start instanceHandle requested hwrapping table behaviour objects below).run
      before).world.wrapping
  have hveto : device.registry.chain.vetoes s.world.behaviour .createRayTracingPipelinesKhr
      = false := Device.vetoes_eq_false_of_result hput (by decide)
  have hasked : device.registry.chain.IsAsked :=
    System.isAsked_run (s := start) (fun d hd => absurd hd List.not_mem_nil) before device
      (List.mem_of_getElem? hdevice)
  rw [System.work_of_device hdevice] at hnone
  -- what the creation comes to in each of the two ways
  have hputs : Device.PutsOff r operation out call put :=
    Device.putsOff_perform rfl hoperation hs hput
  have hcreates := @Device.creates_of_not_deferred _ _ batch operation cache infos out
    (call.withBelow elsewhere) slots hs hslots hlength hveto hnot
  have hholds := Device.holds_of_putsOff (s := call) hs hchains hslots hnone hcopies hputs
  have hwaiting : Layer.Holds operation batch slots out.chains _ _ _ waiting :=
    ⟨hholds.record, hholds.alone, hholds.fits, hholds.memory⟩
  have hwaitingwrapper : waiting.world.wrapper = s.world.wrapper := hputs.wrapper
  have hcompletes := Device.completes_of_holds hq (hwaitingwrapper ▸ hs) hdone hwaiting hsame (by
    rw [hlength, length_overlay, List.length_replicate])
  obtain ⟨es, hroutine, hes⟩ := hputs.events
  have hevents : waiting.world.events = s.world.events ++ es := hes
  have hregistry : waiting.object.registry = device.registry := by
    show put.2.object.registry = _
    rw [hputs.object]
    rfl
  obtain ⟨hwrapper, hmemory, hcreated, hready⟩ := hcompletes
  rw [hwaitingwrapper] at hwrapper hmemory hcreated hready
  rw [hevents, createdIn_append, (silent_of_isRoutine hroutine).1, List.append_nil] at hcreated
  rw [hevents, readyIn_append, readyIn_of_isRoutine hroutine, List.append_nil, hregistry] at hready
  obtain ⟨⟨hslots', hchains'⟩, hwrapper', hmemory', hcreated'⟩ := hcreates
  refine ⟨⟨?_, hputs.wrapper, ?_, ?_⟩, hwrapper.trans hwrapper'.symm, hmemory.trans ?_,
    hmemory', hcreated.trans hcreated'.symm, _, hslots',
    Wrapper.forall₂_wrapNewMany hs _, hcreated', fun hnodup => ?_⟩
  · have hput := @Device.calls_createRayTracing _ _ batch operation cache infos call hs hveto out
    exact hput.trans (Device.calls_createRayTracing (s := call.withBelow elsewhere) hs hveto
      out).symm
  · rw [hputs.outcome]
    rfl
  · rw [hes, createdIn_append, (silent_of_isRoutine hroutine).1, List.append_nil]
  · rw [hslots', hchains']
    rfl
  · rw [hready]
    exact congrArg (_ ++ ·) (ValidationChain.toldReady_kind hasked hnodup _ _ _)

/-- Two pipelines, of which one stays null, and feedback for the first, once put off and once
not. -/
theorem two_pipelines_at_once_or_later :
    let feedback (f : Feedback) : List Block := [.feedback (some f) (.null 0)]
    let r : DeviceRequest := .createRayTracingPipelines 1 (idAt 0) 0
      (.elems [⟨.elems [], none, 0, 0, 0, .ofApp (feedback .blank)⟩,
        ⟨.elems [], none, 0, 0, 0, .ofApp []⟩])
    let out : Outputs := { slots := some [0, 0], chains := [feedback .blank, []] }
    let q : DeviceRequest := .queryOperation (idAt 0)
    let before : List (Action Scripted) :=
      [.createDevice 0xd000 0xe000 ⟨[.createDeferredOperationKhr, .createRayTracingPipelinesKhr,
          .getDeferredOperationResultKhr]⟩ [⟨0, .coreValidation⟩],
        .callDevice 0 (.create .deferredOperation) { slots := some [0] },
        .moveBelow fun b =>
          { b with operation := idAt 0, script := { result := some .operationDeferred } }]
    let s := (System.start 0xa000 0 .default .empty default [] ({} : Scripted)).run before
    let script : Script := { handles := some [some 0x70, some 0], feedback := some ⟨1, 5⟩ }
    let later : Scripted := { (s.act (.callDevice 0 r out)).world.below with script }
    let elsewhere : Scripted := { s.world.below with script }
    ∃ device, s.devices[0]? = some device ∧
      let call : Layer Tracked Scripted := ⟨device, s.world⟩
      let put := (Device.perform r out).run call
      let waiting := put.2.withBelow later
      let done := (Device.perform q {}).run waiting
      let atOnce := (Device.perform r out).run (call.withBelow elsewhere)
      (Settings.default.handleWrapping = true ∧
          r.chains = out.chains.map Chain.ofApp ∧ idAt 0 ≠ 0 ∧ s.work 0 (idAt 0) = none ∧
          device.own.deferred.copies? 1 = none ∧ put.1.1 = .operationDeferred ∧
          done.1.1 = .success ∧ atOnce.1.1 ≠ .operationDeferred ∧
          r.work (Device.exchange r call).1 (Device.exchange r (call.withBelow elsewhere)).2
            = (r.work (Device.exchange r call).1 (Device.exchange r call).2).map
                (Completion.receiveAll (Device.exchange q waiting).2.late)) ∧
        done.2.world.wrapper = atOnce.2.world.wrapper ∧
        done.2.world.memory.get? 1 = some ⟨some [idAt 1, 0], [feedback ⟨1, 5⟩, []]⟩ ∧
        readyIn done.2.world.events
          = [.told ⟨0, .coreValidation⟩ (.pipelinesReady (idAt 0) [idAt 1])] := by
  intro feedback r out q before s script later elsewhere
  have hwrapping : Settings.default.handleWrapping = true := by decide +kernel
  have hdevice : (s.devices[0]?).map (fun device =>
      let call : Layer Tracked Scripted := ⟨device, s.world⟩
      let put := (Device.perform r out).run call
      let waiting := put.2.withBelow later
      let atOnce := (Device.perform r out).run (call.withBelow elsewhere)
      decide (device.own.deferred.copies? 1 = none ∧ put.1.1 = .operationDeferred ∧
        ((Device.perform q {}).run waiting).1.1 = .success ∧
        atOnce.1.1 ≠ .operationDeferred ∧
        atOnce.1.2.slots = some [idAt 1, 0] ∧ atOnce.1.2.chains = [feedback ⟨1, 5⟩, []] ∧
        (device.registry.chain.objects.map ValidationObject.kind).Nodup ∧
        device.registry.chain.intercepting .createRayTracingPipelinesKhr
          = [⟨0, .coreValidation⟩] ∧
        r.work (Device.exchange r call).1 (Device.exchange r (call.withBelow elsewhere)).2
          = (r.work (Device.exchange r call).1 (Device.exchange r call).2).map
              (Completion.receiveAll (Device.exchange q waiting).2.late))) = some true := by
    decide +kernel
  have hfixed : r.chains = out.chains.map Chain.ofApp ∧ idAt 0 ≠ 0 ∧
      s.work 0 (idAt 0) = none ∧ readyIn s.world.events = [] ∧
      ([idAt 1, 0] : List Handle).filter (· ≠ 0) = [idAt 1] := by decide +kernel
  obtain ⟨device, hget, hfacts⟩ := Option.map_eq_some_iff.1 hdevice
  obtain ⟨hcopies, hput, hdone, hnot, hslots, hchains', hnodup, hwatchers, hsame⟩ :=
    of_decide_eq_true hfacts
  obtain ⟨hchains, hoperation, hnone, hready, hfilter⟩ := hfixed
  have hout : out.slots = some [0, 0] := rfl
  -- the runs are not looked into any more
  clear_value before later elsewhere
  obtain ⟨-, hwrapper, hmemory, -, -, hs, hhs, -, -, htold⟩ :=
    deferral_keeps_outcome 0xa000 0 .default hwrapping .empty default [] ({} : Scripted) before 0
      device 1 (idAt 0) 0 _ [0, 0] out q {} later elsewhere hget hout rfl hchains hoperation hnone
      hcopies hput rfl hdone hnot hsame
  obtain rfl : hs = [idAt 1, 0] := Option.some.inj (hhs.symm.trans hslots)
  refine ⟨device, hget, ⟨hwrapping, hchains, hoperation, hnone, hcopies, hput, hdone, hnot, hsame⟩,
    hwrapper, ?_, ?_⟩
  · rw [hslots, hchains'] at hmemory
    exact hmemory
  · have htold' := htold hnodup
    rw [hready, hwatchers, hfilter] at htold'
    exact htold'

end HandleLayer
