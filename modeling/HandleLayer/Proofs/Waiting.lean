import HandleLayer.Proofs.Indifference

/-!
# What waits for an operation

Until an operation completes or is given up, more and more may wait for it, and the next
layer may write outputs into what is kept.  None of it is done meanwhile, and the calls
that are made meanwhile come to the same whatever it is.  Only the blocks that went down by
reference make a difference: what the next layer writes into those the application has at
once.

## Main definitions

* `PendingOperation.Continues` — a record to which actions and outputs have come, and from
  which nothing has gone.
* `Chain.outline`, `DeferredOperations.Alike` — what makes a difference of a kept chain, and
  operations that differ in the rest of what waits for one of them.
* `Device.Discreet` — programs that leave what waits for an operation alone.

## Main results

* `Device.discreet_perform` — **a call that neither completes nor gives up an operation is
  discreet about it.**
-/

namespace HandleLayer

variable {σ α β γ : Type}

/-! ### Records that go on -/

/-- The completion after several late writes. -/
def Completion.receiveAll (late : List LateWrite) (c : Completion) : Completion :=
  late.foldl (fun c w => c.receive w) c

namespace PendingOperation

/-- The record after several late writes. -/
def receiveAll (late : List LateWrite) (p : PendingOperation) : PendingOperation :=
  { p with completions := p.completions.map (Completion.receiveAll late) }

/-- More waits than did before, and outputs may have been written late; nothing is gone, and
the order is the same. -/
def Continues (p q : PendingOperation) : Prop :=
  ∃ late completions postChecks, q = (p.receiveAll late).add completions postChecks

theorem receiveAll_nil (p : PendingOperation) : p.receiveAll [] = p := by
  have hmap : p.completions.map (Completion.receiveAll []) = p.completions := List.map_id _
  rw [receiveAll, hmap]

theorem receiveAll_add (late : List LateWrite) (p : PendingOperation)
    (completions : List Completion) (postChecks : List ObjectKind) :
    (p.add completions postChecks).receiveAll late
      = (p.receiveAll late).add (completions.map (Completion.receiveAll late)) postChecks := by
  simp only [receiveAll, add, List.map_append]

theorem receiveAll_receiveAll (late late' : List LateWrite) (p : PendingOperation) :
    (p.receiveAll late).receiveAll late' = p.receiveAll (late ++ late') := by
  have hboth : Completion.receiveAll late' ∘ Completion.receiveAll late
      = Completion.receiveAll (late ++ late') := by
    funext c
    exact List.foldl_append.symm
  simp only [receiveAll, List.map_map, hboth]

theorem add_add (p : PendingOperation) (completions completions' : List Completion)
    (postChecks postChecks' : List ObjectKind) :
    (p.add completions postChecks).add completions' postChecks'
      = p.add (completions ++ completions') (postChecks ++ postChecks') := by
  simp only [add, List.append_assoc]

namespace Continues

variable {p q r : PendingOperation}

theorem of_receiveAll (late : List LateWrite) (p : PendingOperation) :
    p.Continues (p.receiveAll late) :=
  ⟨late, [], [], by simp [add]⟩

theorem refl (p : PendingOperation) : p.Continues p := by
  have hnone := of_receiveAll [] p
  rwa [receiveAll_nil] at hnone

theorem of_add (p : PendingOperation) (completions : List Completion)
    (postChecks : List ObjectKind) : p.Continues (p.add completions postChecks) :=
  ⟨[], completions, postChecks, by rw [receiveAll_nil]⟩

theorem trans (h : p.Continues q) (h' : q.Continues r) : p.Continues r := by
  obtain ⟨late, completions, postChecks, rfl⟩ := h
  obtain ⟨late', completions', postChecks', rfl⟩ := h'
  refine ⟨late ++ late', completions.map (Completion.receiveAll late') ++ completions',
    postChecks ++ postChecks', ?_⟩
  rw [receiveAll_add, receiveAll_receiveAll, add_add]

end Continues

end PendingOperation

/-! ### Outlines -/

theorem map_onto {f : α → β → β} {g : β → γ} {f' : α → γ → γ}
    (h : ∀ x y, g (f x y) = f' x (g y)) (xs : List α) (ys : List β) :
    (onto f xs ys).map g = onto f' xs (ys.map g) := by
  induction ys generalizing xs with
  | nil => rw [onto_nil_right, List.map_nil, onto_nil_right]
  | cons y ys ih =>
    cases xs with
    | nil => rfl
    | cons x xs =>
      rw [onto_cons, List.map_cons, List.map_cons, onto_cons, h, ih]

/-- Elements that act in the same way have the same effect. -/
theorem onto_eq_onto_map (f : α → β → β) (g : α → γ) {f' : γ → β → β}
    (h : ∀ x y, f x y = f' (g x) y) (xs : List α) (ys : List β) :
    onto f xs ys = onto f' (xs.map g) ys := by
  induction ys generalizing xs with
  | nil => rw [onto_nil_right, onto_nil_right]
  | cons y ys ih =>
    cases xs with
    | nil => rfl
    | cons x xs => rw [List.map_cons, onto_cons, onto_cons, h, ih]

/-- What makes a difference of a kept chain before it is copied back: the blocks that went
down by reference, and the place where they begin. -/
def Chain.outline (c : Chain) : Nat × List Block := (c.copied.length, c.shared)

/-- An outline after outputs were written into the chain. -/
def fillOutline (ws : List BlockFill) (o : Nat × List Block) : Nat × List Block :=
  (o.1, Chain.fillBlocks o.2 (ws.drop o.1))

theorem Chain.outline_fill (ws : List BlockFill) (c : Chain) :
    (c.fill ws).outline = fillOutline ws c.outline := by
  have hlength : (c.fill ws).copied.length = c.copied.length :=
    Chain.length_fillBlocks c.copied ws
  rw [outline, hlength]
  rfl

/-- Sharing is a matter of outlines. -/
theorem Batch.share_congr {copies copies' : List Chain}
    (h : copies'.map Chain.outline = copies.map Chain.outline) :
    Batch.share copies' = Batch.share copies := by
  have happ : ∀ (cs : List Chain) (app : List (List Block)), onto Chain.appAfter cs app
      = onto (fun o app => app.take o.1 ++ o.2) (cs.map Chain.outline) app :=
    onto_eq_onto_map _ _ fun _ _ => rfl
  funext b
  rw [Batch.share, Batch.share, happ, happ, h]

/-- The outlines of the chains that are kept for a place. -/
def PendingOperation.outlines? (batch : BatchId) (p : PendingOperation) :
    Option (List (Nat × List Block)) :=
  (p.completions.findSome? (Completion.copies? batch)).map (List.map Chain.outline)

namespace PendingOperation

theorem outlines?_add (batch : BatchId) (p : PendingOperation) (completions : List Completion)
    (postChecks : List ObjectKind) :
    (p.add completions postChecks).outlines? batch
      = (p.outlines? batch).or (PendingOperation.outlines? batch ⟨completions, []⟩) := by
  simp only [outlines?, add, List.findSome?_append, Option.map_or]

theorem copies?_receive (w : LateWrite) (batch : BatchId) (c : Completion) :
    (c.receive w).copies? batch = (c.copies? batch).map
      (if batch = w.batch then onto (fun ws c => c.fill ws) w.fills else id) := by
  cases c with
  | publish batch' produced => rfl
  | release inputs =>
    cases inputs with
    | chains batch' copies =>
      simp only [Completion.receive, Completion.copies?]
      by_cases heq : batch' = batch
      · subst heq
        by_cases hw : batch' = w.batch <;> simp [hw]
      · simp [heq]
    | _ => rfl

/-- What a late write does to outlines is known from the outlines. -/
theorem outlines?_receive (w : LateWrite) (batch : BatchId) (p : PendingOperation) :
    (p.receiveAll [w]).outlines? batch
      = (p.outlines? batch).map (if batch = w.batch then onto fillOutline w.fills else id) := by
  have hcopies : (p.receiveAll [w]).completions.findSome? (Completion.copies? batch)
      = (p.completions.findSome? (Completion.copies? batch)).map
          (if batch = w.batch then onto (fun ws c => c.fill ws) w.fills else id) := by
    rw [receiveAll, List.findSome?_map, List.map_findSome?]
    exact congrArg (List.findSome? · p.completions) (funext (copies?_receive w batch))
  have hfill : ∀ copies : List Chain,
      (onto (fun ws c => c.fill ws) w.fills copies).map Chain.outline
        = onto fillOutline w.fills (copies.map Chain.outline) :=
    map_onto Chain.outline_fill w.fills
  rw [outlines?, hcopies, outlines?, Option.map_map, Option.map_map]
  refine congrArg (Option.map · _) (funext fun copies => ?_)
  split
  · exact hfill copies
  · rfl

end PendingOperation

/-! ### Operations that differ in what waits for one of them -/

namespace DeferredOperations

theorem get?_receive (d : DeferredOperations) (w : LateWrite) (operation : Handle) :
    (d.receive w).get? operation = (d.get? operation).map (PendingOperation.receiveAll [w]) :=
  Table.get?_mapValues d.pending _ operation

/-- Operations that differ only in what waits for one of them, and there not in what makes
a difference before that one completes. -/
structure Alike (operation : Handle) (d d' : DeferredOperations) : Prop where
  others : ∀ other, other ≠ operation → d'.get? other = d.get? other
  outlines : ∀ batch,
    (d'.get? operation).map (·.outlines? batch) = (d.get? operation).map (·.outlines? batch)

namespace Alike

variable {operation : Handle} {d d' : DeferredOperations}

/-- All outlines are the same. -/
theorem map_outlines (h : d.Alike operation d') (batch : BatchId) (other : Handle) :
    (d'.get? other).map (·.outlines? batch) = (d.get? other).map (·.outlines? batch) := by
  by_cases heq : other = operation
  · rw [heq, h.outlines]
  · rw [h.others other heq]

/-- The same is shared with the application. -/
theorem copies?_eq (h : d.Alike operation d') (batch : BatchId) :
    (d'.copies? batch).map (List.map Chain.outline)
      = (d.copies? batch).map (List.map Chain.outline) := by
  -- the outlines of the first chains that are found are the first outlines that are found
  have hvalues : ∀ e : DeferredOperations, (e.copies? batch).map (List.map Chain.outline)
      = (e.pending.values.map (PendingOperation.outlines? batch)).findSome? id := by
    intro e
    rw [copies?, List.map_findSome?, List.findSome?_map]
    rfl
  rw [hvalues, hvalues]
  exact congrArg (List.findSome? id) (Table.map_values_congr (h.map_outlines batch))

theorem receive (h : d.Alike operation d') (w : LateWrite) :
    (d.receive w).Alike operation (d'.receive w) := by
  refine ⟨fun other hne => ?_, fun batch => ?_⟩
  · rw [get?_receive, get?_receive, h.others other hne]
  · have hboth : ∀ e : DeferredOperations,
        ((e.receive w).get? operation).map (·.outlines? batch)
          = ((e.get? operation).map (·.outlines? batch)).map
              (Option.map (if batch = w.batch then onto fillOutline w.fills else id)) := by
      intro e
      rw [get?_receive, Option.map_map, Option.map_map]
      exact congrArg (Option.map · _) (funext (PendingOperation.outlines?_receive w batch))
    rw [hboth, hboth, h.outlines batch]

theorem add (h : d.Alike operation d') (other : Handle) (completions : List Completion)
    (postChecks : List ObjectKind) :
    (d.add other completions postChecks).Alike operation
      (d'.add other completions postChecks) := by
  by_cases heq : other = operation
  · subst heq
    refine ⟨fun other' hne => ?_, fun batch => ?_⟩
    · rw [get?_add, get?_add, if_neg hne.symm, if_neg hne.symm, h.others other' hne]
    · -- what is added comes after the old outlines, which are the same
      have hold : ((d'.get? other).getD {}).outlines? batch
          = ((d.get? other).getD {}).outlines? batch := by
        have hsame := congrArg (Option.getD · (PendingOperation.outlines? batch {}))
          (h.outlines batch)
        simpa only [Option.getD_map] using hsame
      rw [get?_add, get?_add, if_pos rfl, if_pos rfl, Option.map_some, Option.map_some,
        PendingOperation.outlines?_add, PendingOperation.outlines?_add, hold]
  · refine ⟨fun other' hne => ?_, fun batch => ?_⟩
    · rw [get?_add, get?_add, h.others other heq, h.others other' hne]
    · rw [get?_add, get?_add, if_neg heq, if_neg heq, h.outlines batch]

theorem erase (h : d.Alike operation d') (other : Handle) :
    (d.erase other).Alike operation (d'.erase other) := by
  refine ⟨fun other' hne => ?_, fun batch => ?_⟩
  · rw [get?_erase, get?_erase, h.others other' hne]
  · rw [get?_erase, get?_erase]
    split
    · rfl
    · exact h.outlines batch

end Alike

end DeferredOperations

/-! ### Discreet programs -/

namespace Device

/-- A program that leaves what waits for an operation alone, that does the same whatever it
is, and that tells nobody that its pipelines are ready. -/
structure Discreet (operation : Handle) (p : DeviceM σ α) (s : Layer Tracked σ) : Prop where
  continues : ∀ w, s.object.own.deferred.get? operation = some w →
    ∃ w', (p.run s).2.object.own.deferred.get? operation = some w' ∧ w.Continues w'
  alike : ∀ d, s.object.own.deferred.Alike operation d →
    ∃ e, (p.run s).2.object.own.deferred.Alike operation e ∧
      p.run (s.withDeferred d) = ((p.run s).1, (p.run s).2.withDeferred e)
  mute : ∃ es, (∀ e ∈ es, Event.ready? e ≠ some operation) ∧
    (p.run s).2.world.events = s.world.events ++ es

namespace Discreet

variable {operation : Handle} {s : Layer Tracked σ}

theorem of_ignores {p : DeviceM σ α} (hp : Ignores p) (s : Layer Tracked σ) :
    Discreet operation p s := by
  have hkept := hp.deferred_eq s
  obtain ⟨es, hes, hevents⟩ := hp.mute s
  refine ⟨fun w hw => ⟨w, by rw [hkept, hw], .refl w⟩, fun d hd => ⟨d, ?_, hp.same s d⟩,
    es, fun e he => ?_, hevents⟩
  · rw [hkept]
    exact hd
  · rw [hes e he]
    exact nofun

/-! ### Parts of programs -/

theorem bind {p : DeviceM σ α} {f : α → DeviceM σ β} (hp : Discreet operation p s)
    (hf : Discreet operation (f (p.run s).1) (p.run s).2) : Discreet operation (p >>= f) s := by
  refine ⟨fun w hw => ?_, fun d hd => ?_, ?_⟩
  · obtain ⟨w₁, hw₁, hcontinues⟩ := hp.continues w hw
    obtain ⟨w₂, hw₂, hcontinues'⟩ := hf.continues w₁ hw₁
    exact ⟨w₂, hw₂, hcontinues.trans hcontinues'⟩
  · obtain ⟨d₁, hd₁, hrun⟩ := hp.alike d hd
    obtain ⟨d₂, hd₂, hrun'⟩ := hf.alike d₁ hd₁
    refine ⟨d₂, hd₂, ?_⟩
    rw [run_bind, hrun]
    exact hrun'
  · obtain ⟨es, hes, hevents⟩ := hp.mute
    obtain ⟨es', hes', hevents'⟩ := hf.mute
    refine ⟨es ++ es', fun e he => (List.mem_append.1 he).elim (hes e) (hes' e), ?_⟩
    rw [run_bind, hevents', hevents, List.append_assoc]

theorem forM {f : β → DeviceM σ Unit} (hf : ∀ b s, Discreet operation (f b) s) (bs : List β)
    (s : Layer Tracked σ) : Discreet operation (bs.forM f) s := by
  induction bs generalizing s with
  | nil => exact of_ignores (.pure ()) s
  | cons b bs ih => exact (hf b s).bind (ih _)

/-- A look at what is kept that sees the same whatever waits for the operation. -/
theorem getOwn_bind {f : Tracked → DeviceM σ β}
    (hsame : ∀ d, s.object.own.deferred.Alike operation d →
      f (s.object.own.withDeferred d) = f s.object.own)
    (hf : Discreet operation (f s.object.own) s) : Discreet operation (getOwn >>= f) s := by
  refine ⟨hf.continues, fun d hd => ?_, hf.mute⟩
  obtain ⟨e, he, hrun⟩ := hf.alike d hd
  refine ⟨e, he, ?_⟩
  have hlook : (getOwn >>= f).run (s.withDeferred d)
      = (f (s.object.own.withDeferred d)).run (s.withDeferred d) := rfl
  rw [hlook, hsame d hd, hrun]
  rfl

theorem modifyDeferred {f : DeferredOperations → DeferredOperations}
    (hcontinues : ∀ w, s.object.own.deferred.get? operation = some w →
      ∃ w', (f s.object.own.deferred).get? operation = some w' ∧ w.Continues w')
    (halike : ∀ d, s.object.own.deferred.Alike operation d →
      (f s.object.own.deferred).Alike operation (f d)) :
    Discreet operation (modifyOwn (Tracked.modifyDeferred f) : DeviceM σ Unit) s :=
  ⟨hcontinues, fun d hd => ⟨f d, halike d hd, rfl⟩, [],
    fun _ he => absurd he List.not_mem_nil, (List.append_nil _).symm⟩

/-- Whatever is put off, what waits already goes on waiting. -/
theorem putOff (other : Handle) (completions : List Completion)
    (postChecks : List ObjectKind) (s : Layer Tracked σ) :
    Discreet operation
      (modifyOwn (Tracked.modifyDeferred (.add other completions postChecks)) : DeviceM σ Unit)
      s := by
  refine modifyDeferred (fun w hw => ?_) fun d hd => hd.add other completions postChecks
  rw [DeferredOperations.get?_add]
  split
  · next heq =>
    rw [heq, hw]
    exact ⟨_, rfl, .of_add w completions postChecks⟩
  · exact ⟨w, hw, .refl w⟩

/-- The end of another operation. -/
theorem eraseOther {other : Handle} (hne : other ≠ operation) (s : Layer Tracked σ) :
    Discreet operation
      (modifyOwn (Tracked.modifyDeferred (.erase other)) : DeviceM σ Unit) s := by
  refine modifyDeferred (fun w hw => ⟨w, ?_, .refl w⟩) fun d hd => hd.erase other
  rw [DeferredOperations.get?_erase, if_neg hne, hw]

/-- A call that is not skipped is as discreet as what it does. -/
theorem intercept {command : Command} {skipped : α} {body : DeviceM σ (Result × α)}
    (hbody : s.object.registry.chain.vetoes s.world.behaviour command = false →
      Discreet operation body
        (s.see (toldBefore (s.object.registry.chain.intercepting command) command))) :
    Discreet operation (HandleLayer.intercept command skipped body) s := by
  refine .bind (of_ignores .validationChain s) (.bind (of_ignores (.askToSkip _ command) s) ?_)
  rw [run_validationChain, run_askToSkip]
  split
  · exact of_ignores (.pure _) _
  · next hveto =>
    refine .bind (of_ignores (.tell (fun _ => rfl) _) _) ?_
    rw [run_tell, Layer.see_see]
    refine .bind (hbody (Bool.eq_false_iff.2 hveto)) (.bind ?_ (of_ignores (.pure _) _))
    exact of_ignores (.tell (fun _ => rfl) _) _

end Discreet

/-! ### Calls to a device -/

variable {operation : Handle}

/-- Outputs that are written late reach the application only where they are shared. -/
theorem discreet_receive (w : LateWrite) (s : Layer Tracked σ) :
    Discreet operation (receive w) s := by
  refine .bind (.of_ignores .wrapping s) ?_
  rw [run_wrapping]
  split
  · refine .bind ?_ (.getOwn_bind (fun d hd => ?_) ?_)
    · refine .modifyDeferred (fun p hp => ?_) fun d hd => hd.receive w
      refine ⟨p.receiveAll [w], ?_, .of_receiveAll [w] p⟩
      rw [DeferredOperations.get?_receive, hp]
      rfl
    · -- the same is shared, if it is not the same that is kept
      have hcopies := hd.copies?_eq w.batch
      dsimp only [Tracked.withDeferred]
      cases hnew : d.copies? w.batch with
      | none =>
        rw [hnew, Option.map_none, eq_comm, Option.map_eq_none_iff] at hcopies
        rw [hcopies]
      | some copies' =>
        rw [hnew, Option.map_some, eq_comm, Option.map_eq_some_iff] at hcopies
        obtain ⟨copies, hold, houtlines⟩ := hcopies
        rw [hold]
        dsimp only
        rw [Batch.share_congr houtlines]
    · split
      · exact .of_ignores (.pure ()) _
      · exact .of_ignores (.modifyBatch _ _) _
  · exact .of_ignores (.modifyBatch _ _) _

/-- Telling of the pipelines of another operation. -/
theorem discreet_notifyReady {other : Handle} (hne : other ≠ operation)
    (pipelines : List Handle) (kind : ObjectKind) (s : Layer Tracked σ) :
    Discreet operation (notifyReady other pipelines kind) s := by
  refine ⟨fun w hw => ⟨w, ?_, .refl w⟩, fun d hd => ⟨d, ?_, ?_⟩,
    toldEach (s.object.registry.chain.get? kind).toList (.pipelinesReady other pipelines),
    fun e he => ?_, ?_⟩
  · rw [run_notifyReady]
    exact hw
  · rw [run_notifyReady]
    exact hd
  · rw [run_notifyReady, run_notifyReady]
    rfl
  · obtain ⟨o, -, rfl⟩ := List.mem_map.1 he
    exact fun heq => hne (Option.some.inj heq)
  · rw [run_notifyReady]
    exact World.events_see _ _

/-- Taking note of the result of another operation, or of one that is not success. -/
theorem discreet_completeOperation {other : Handle} {result : Result}
    (h : other ≠ operation ∨ result ≠ .success) (s : Layer Tracked σ) :
    Discreet operation (completeOperation other result) s := by
  unfold completeOperation
  split
  · next hsuccess =>
    have hne : other ≠ operation := h.resolve_right fun hresult => hresult hsuccess
    refine .getOwn_bind (fun d hd => ?_) ?_
    · dsimp only [Tracked.withDeferred]
      rw [hd.others other hne]
    · split
      · exact .of_ignores (.pure ()) s
      · refine .bind (.eraseOther hne s) ?_
        refine .bind (.of_ignores (ignores_runCompletions _) _) ?_
        exact .forM (fun kind t => discreet_notifyReady hne _ kind t) _ _
  · exact .of_ignores (.pure ()) s

/-- Giving up another operation. -/
theorem discreet_discardOperation {other : Handle} (hne : other ≠ operation)
    (s : Layer Tracked σ) : Discreet operation (discardOperation other) s := by
  refine .getOwn_bind (fun d hd => ?_) ?_
  · dsimp only [Tracked.withDeferred]
    rw [hd.others other hne]
  · split
    · exact .of_ignores (.pure ()) s
    · refine .bind (.eraseOther hne s) (.bind (.of_ignores (.emit ?_) _) ?_)
      · simp [Event.ready?]
      · exact .of_ignores (.emit (by simp [Event.ready?])) _

theorem discreet_prepare {r : DeviceRequest} (hr : r ≠ .destroy .deferredOperation operation)
    (s : Layer Tracked σ) : Discreet operation (prepare r) s := by
  by_cases hnone : r.operation? = none
  · exact .of_ignores (ignores_prepare hnone) s
  · cases r with
    | destroy kind other =>
      cases kind with
      | deferredOperation =>
        exact discreet_discardOperation (fun heq => hr (by rw [heq])) s
      | _ => exact absurd rfl hnone
    | _ => exact .of_ignores (.pure ()) s

variable [NextLayer σ]

theorem discreet_createRayTracingPipelines (batch : BatchId) (other cache : Handle)
    (infos : AppArray RayTracingInfo) (out : Outputs) (s : Layer Tracked σ) :
    Discreet operation (createRayTracingPipelines batch other cache infos out) s := by
  refine .bind (.of_ignores .wrapping s) ?_
  split
  · refine .bind (.of_ignores (ignores_send _ _) _) ?_
    rw [run_send]
    dsimp only
    split
    · refine .bind (.of_ignores .validationChain _) ?_
      exact .bind (.putOff _ _ _ _) (.of_ignores (.pure _) _)
    · exact .of_ignores ((ignores_publishOutputs _ _).bind fun _ => .pure _) _
  · exact .of_ignores (ignores_relay _ _) _

theorem discreet_buildStructures (other : Handle) (infos : AppArray BuildInfo)
    (ranges : Option (List (List BuildRange))) (out : Outputs) (s : Layer Tracked σ) :
    Discreet operation (buildStructures other infos ranges out) s := by
  refine .bind (.of_ignores (ignores_send _ _) s) ?_
  rw [run_send]
  refine .bind (.of_ignores .wrapping _) ?_
  split
  · exact .bind (.putOff _ _ _ _) (.of_ignores (.pure _) _)
  · exact .of_ignores (.pure _) _

/-- What comes of asking for the result of an operation is the answer of the next layer. -/
theorem run_awaitOperation_fst (r : DeviceRequest) (other : Handle) (out : Outputs)
    (s : Layer Tracked σ) :
    ((awaitOperation r other out).run s).1 = ((answer r none s).result, out) := by
  unfold awaitOperation
  rw [run_bind_of (run_send r none s)]
  rfl

theorem discreet_awaitOperation {r : DeviceRequest} {other : Handle} {out : Outputs}
    {s : Layer Tracked σ}
    (h : other ≠ operation ∨ ((awaitOperation r other out).run s).1.1 ≠ .success) :
    Discreet operation (awaitOperation r other out) s := by
  rw [run_awaitOperation_fst] at h
  refine .bind (.of_ignores (ignores_send r none) s) ?_
  rw [run_send]
  refine .bind (.forM discreet_receive _ _) (.bind ?_ (.of_ignores (.pure _) _))
  exact discreet_completeOperation h _

/-- **A call that neither completes nor gives up an operation is discreet about it.** -/
theorem discreet_perform {r : DeviceRequest} {out : Outputs} {s : Layer Tracked σ}
    (hdestroy : r ≠ .destroy .deferredOperation operation)
    (hawaits : r.awaits? = some operation → ((perform r out).run s).1.1 ≠ .success) :
    Discreet operation (perform r out) s := by
  -- all that comes before and after the service of a call is discreet
  have hwhole : (s.object.registry.chain.vetoes s.world.behaviour r.command = false →
      Discreet operation (serve r out) ((s.withOwn (s.object.own.prepared r)).see
        (s.object.own.lost r ++
          (toldBefore (s.object.registry.chain.intercepting r.command) r.command)))) →
      Discreet operation (perform r out) s := by
    intro hserve
    refine .bind (discreet_prepare hdestroy s) (.bind (.intercept ?_) ?_)
    · rw [run_prepare]
      intro hveto
      rw [Layer.see_see]
      exact hserve hveto
    · exact .bind (.of_ignores (ignores_conclude r _ _) _) (.of_ignores (.pure _) _)
  by_cases hnone : r.operation? = none
  · exact .of_ignores (ignores_perform hnone out) s
  · apply hwhole
    intro hveto
    cases r with
    | createRayTracingPipelines batch other cache infos =>
      exact discreet_createRayTracingPipelines batch other cache infos out _
    | buildStructures other infos ranges =>
      exact discreet_buildStructures other infos ranges out _
    | joinOperation other | queryOperation other =>
      by_cases hsame : other = operation
      · -- the result of the call is the one that the operation is told
        have hresult := hawaits (congrArg some hsame)
        rw [run_perform hveto] at hresult
        exact discreet_awaitOperation (.inr hresult)
      · exact discreet_awaitOperation (.inl hsame)
    | destroy kind h => exact .of_ignores (ignores_serve rfl rfl out) _
    | _ => exact absurd rfl hnone

end Device

end HandleLayer
