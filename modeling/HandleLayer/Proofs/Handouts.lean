import HandleLayer.Proofs.Newcomers

/-!
# Pipelines that are handed out later

An operation that completes hands out its pipelines in the storage of the application.  Whatever
stands there afterwards, where an action hands out pipelines, was minted by the call that has
completed the operation, and was announced.

## Main definitions

* `PendingOperation.handedOut` — the pipelines that stand where an operation hands them out.

## Main results

* `mem_of_mem_handedOut` — all that an operation hands out was dealt out.
* `Device.announces_perform_of_awaits` — **what asking for the result of an operation announces.**
* `Device.quiet_perform_of_awaits` — without wrapping it announces nothing.
-/

namespace HandleLayer

variable {σ : Type}

/-! ### Where pipelines are handed out -/

/-- The place where an action hands out pipelines, and how many they are. -/
def Completion.place? : Completion → Option (BatchId × Nat)
  | .publish batch reals => some (batch, reals.length)
  | .release _ => none

/-- What stands in the array of a place. -/
def slotsAt (m : Table BatchId Batch) (batch : BatchId) : List Handle :=
  ((m.get? batch).bind Batch.slots).getD []

/-- The pipelines that stand in the storage of the application where an operation hands them
out. -/
def PendingOperation.handedOut (m : Table BatchId Batch) (p : PendingOperation) : List Handle :=
  (p.completions.filterMap Completion.place?).flatMap fun place =>
    (slotsAt m place.1).take place.2

/-- Late writes leave it to the actions where they hand out what. -/
theorem Completion.place?_receiveAll (late : List LateWrite) (c : Completion) :
    (c.receiveAll late).place? = c.place? := by
  have hone : ∀ (w : LateWrite) (c : Completion), (c.receive w).place? = c.place? := by
    intro w c
    cases c with
    | publish batch produced =>
      by_cases hbatch : batch = w.batch
      · simp [receive, place?, hbatch]
      · simp [receive, place?, hbatch]
    | release inputs => cases inputs <;> rfl
  induction late generalizing c with
  | nil => rfl
  | cons w late ih => exact (ih (c.receive w)).trans (hone w c)

theorem PendingOperation.handedOut_receiveAll (m : Table BatchId Batch) (late : List LateWrite)
    (p : PendingOperation) : (p.receiveAll late).handedOut m = p.handedOut m := by
  have hplaces : (p.receiveAll late).completions.filterMap Completion.place?
      = p.completions.filterMap Completion.place? := by
    show (p.completions.map (Completion.receiveAll late)).filterMap Completion.place? = _
    rw [List.filterMap_map]
    exact congrArg (List.filterMap · _) (funext (Completion.place?_receiveAll late))
  rw [handedOut, hplaces, handedOut]

section Dealt

variable {cs : List Completion} {hs : List Handle} {m : Table BatchId Batch} {batch : BatchId}

/-- What an action gets dealt is as much as it hands out, and comes from what there is. -/
theorem mem_deal {c : Completion} {dealt : List Handle}
    (hlength : hs.length = (producedBy cs).length) (h : (c, dealt) ∈ deal cs hs) :
    dealt.length = c.produced.length ∧ dealt ⊆ hs := by
  induction cs generalizing hs with
  | nil => cases h
  | cons c' cs ih =>
    have hproduced : producedBy (c' :: cs) = c'.produced ++ producedBy cs := List.flatMap_cons
    rw [hproduced, List.length_append] at hlength
    rcases List.mem_cons.1 h with heq | hrest
    · obtain ⟨rfl, rfl⟩ := Prod.mk.injEq .. ▸ heq
      refine ⟨?_, List.take_subset _ _⟩
      rw [List.length_take, hlength]
      omega
    · have hdrop : (hs.drop c'.produced.length).length = (producedBy cs).length := by
        rw [List.length_drop, hlength]
        omega
      obtain ⟨hlen, hsub⟩ := ih hdrop hrest
      exact ⟨hlen, List.Subset.trans hsub (List.drop_subset _ _)⟩

/-- Every action gets its turn. -/
theorem exists_mem_deal {c : Completion} (h : c ∈ cs) (hs : List Handle) :
    ∃ dealt, (c, dealt) ∈ deal cs hs := by
  induction cs generalizing hs with
  | nil => cases h
  | cons c' cs ih =>
    rcases List.mem_cons.1 h with rfl | hrest
    · exact ⟨_, List.mem_cons_self⟩
    · obtain ⟨dealt, hmem⟩ := ih hrest (hs.drop c'.produced.length)
      exact ⟨dealt, List.mem_cons_of_mem _ hmem⟩

/-- All that is dealt out is announced. -/
theorem announced_sights (objects : List ValidationObject)
    (hlength : hs.length = (producedBy cs).length) :
    createdIn (sights objects (deal cs hs)) = objectsOf .pipeline hs ∧
      destroyedIn (sights objects (deal cs hs)) = [] := by
  induction cs generalizing hs with
  | nil =>
    obtain rfl := List.eq_nil_of_length_eq_zero hlength
    exact ⟨rfl, rfl⟩
  | cons c cs ih =>
    have hproduced : producedBy (c :: cs) = c.produced ++ producedBy cs := List.flatMap_cons
    rw [hproduced, List.length_append] at hlength
    have hdrop : (hs.drop c.produced.length).length = (producedBy cs).length := by
      rw [List.length_drop, hlength]
      omega
    obtain ⟨hcreated, hdestroyed⟩ := ih hdrop
    have hcons : sights objects (deal (c :: cs) hs)
        = c.seen objects (hs.take c.produced.length)
          ++ sights objects (deal cs (hs.drop c.produced.length)) := List.flatMap_cons
    have hseen : createdIn (c.seen objects (hs.take c.produced.length))
          = objectsOf .pipeline (hs.take c.produced.length) ∧
        destroyedIn (c.seen objects (hs.take c.produced.length)) = [] := by
      cases c with
      | publish batch reals => exact ⟨createdIn_births _ _ _, destroyedIn_births _ _ _⟩
      | release inputs => exact ⟨rfl, rfl⟩
    rw [hcons, createdIn_append, destroyedIn_append, hcreated, hdestroyed, hseen.1, hseen.2,
      ← objectsOf_append, List.take_append_drop]
    exact ⟨rfl, rfl⟩

/-- What one action makes of the array of a place. -/
theorem slotsAt_store (c : Completion) (hs : List Handle) (m : Table BatchId Batch)
    (batch : BatchId) :
    slotsAt (c.store hs m) batch = if c.place?.map Prod.fst = some batch then
      overwrite (slotsAt m batch) hs else slotsAt m batch := by
  have hmodify : ∀ (place : BatchId) (f : Batch → Batch) (g : List Handle → List Handle),
      g [] = [] → (∀ b, (f b).slots = b.slots.map g) →
      slotsAt (m.modify place f) batch
        = if batch = place then g (slotsAt m batch) else slotsAt m batch := by
    intro place f g hnil hf
    unfold slotsAt
    rw [Table.get?_modify]
    split
    · cases hb : m.get? batch with
      | none => exact hnil.symm
      | some b =>
        show ((f b).slots).getD [] = g (b.slots.getD [])
        rw [hf]
        cases b.slots with
        | none => exact hnil.symm
        | some slots => rfl
    · rfl
  cases c with
  | publish place reals =>
    have hpublish := hmodify place (Batch.publish hs) (overwrite · hs) rfl fun _ => rfl
    refine hpublish.trans ?_
    simp only [Completion.place?, Option.map_some, Option.some.injEq, eq_comm]
  | release inputs =>
    cases inputs with
    | chains place copies =>
      have hsettle := hmodify place (Batch.settle copies) id rfl fun b =>
        (congrFun Option.map_id b.slots).symm
      refine hsettle.trans ?_
      simp [Completion.place?]
    | builds sent => rfl
    | other number => rfl

/-- What stands in an array after actions was dealt out, or it stood there before and no action
has reached it. -/
theorem slotsAt_storage {dealt : List (Completion × List Handle)}
    (hdealt : ∀ p ∈ dealt, p.2.length = p.1.produced.length) {i : Nat} {x : Handle}
    (hx : (slotsAt (storage dealt m) batch)[i]? = some x) :
    (∃ p ∈ dealt, x ∈ p.2) ∨
      (slotsAt m batch)[i]? = some x ∧ ∀ p ∈ dealt, ∀ n, p.1.place? = some (batch, n) → n ≤ i := by
  induction dealt generalizing m with
  | nil => exact .inr ⟨hx, fun p hp => absurd hp List.not_mem_nil⟩
  | cons p dealt ih =>
    rcases ih (fun q hq => hdealt q (List.mem_cons_of_mem p hq)) hx with
      ⟨q, hq, hmem⟩ | ⟨hslot, hlater⟩
    · exact .inl ⟨q, List.mem_cons_of_mem p hq, hmem⟩
    -- nothing has reached the slot after the first action
    · obtain ⟨c, hs⟩ := p
      have hlength := hdealt (c, hs) List.mem_cons_self
      rw [slotsAt_store] at hslot
      have hplace : ∀ n, c.place? = some (batch, n) → hs.length = n ∧
          (overwrite (slotsAt m batch) hs)[i]? = some x := fun n hn => by
        refine ⟨?_, ?_⟩
        · cases c with
          | publish other reals =>
            obtain ⟨-, rfl⟩ := Prod.mk.injEq .. ▸ Option.some.inj hn
            exact hlength
          | release inputs => cases hn
        · rwa [if_pos (by rw [hn]; rfl)] at hslot
      by_cases hreached : ∃ n, c.place? = some (batch, n) ∧ i < n
      · obtain ⟨n, hn, hlt⟩ := hreached
        obtain ⟨hcount, hover⟩ := hplace n hn
        have hold : i < (slotsAt m batch).length := by
          have hbound := (List.getElem?_eq_some_iff.1 hover).1
          rwa [overwrite, length_overlay] at hbound
        rw [getElem?_overwrite hold (hcount ▸ hlt)] at hover
        exact .inl ⟨(c, hs), List.mem_cons_self, List.mem_of_getElem? hover⟩
      · refine .inr ⟨?_, fun q hq n hn => ?_⟩
        · split at hslot
          · next hhere =>
            obtain ⟨⟨other, n⟩, hn, rfl⟩ := Option.map_eq_some_iff.1 hhere
            obtain ⟨hcount, -⟩ := hplace n hn
            have hle : n ≤ i := Nat.le_of_not_lt fun hlt => hreached ⟨n, hn, hlt⟩
            rwa [getElem?_overwrite_of_le (hcount ▸ hle)] at hslot
          · exact hslot
        · rcases List.mem_cons.1 hq with rfl | hrest
          · exact Nat.le_of_not_lt fun hlt => hreached ⟨n, hn, hlt⟩
          · exact hlater q hrest n hn

/-- **All that an operation hands out was dealt out.** -/
theorem mem_of_mem_handedOut {p : PendingOperation}
    (hlength : hs.length = (producedBy p.completions).length) {x : Handle}
    (hx : x ∈ p.handedOut (storage (deal p.completions hs) m)) : x ∈ hs := by
  obtain ⟨⟨batch, n⟩, hplace, htake⟩ := List.mem_flatMap.1 hx
  obtain ⟨c, hc, hn⟩ := List.mem_filterMap.1 hplace
  obtain ⟨i, hi⟩ := List.mem_iff_getElem?.1 htake
  dsimp only at hi
  rw [List.getElem?_take] at hi
  split at hi
  · next hlt =>
    rcases slotsAt_storage (fun q hq => (mem_deal hlength hq).1) hi with
      ⟨q, hq, hmem⟩ | ⟨-, hlater⟩
    · exact (mem_deal hlength hq).2 hmem
    · obtain ⟨dealt, hdealt⟩ := exists_mem_deal hc hs
      exact absurd (hlater _ hdealt n hn) (Nat.not_le.2 hlt)
  · cases hi

end Dealt

/-! ### Calls that ask for a result -/

namespace Device

variable [NextLayer σ]

/-- The pipelines that come to be with a call of this result, if it asks for the result of an
operation: surrogates for all that the next layer has produced for it by then. -/
def unveiled (r : DeviceRequest) (s : Layer Tracked σ) (result : Result) : List Handle :=
  match r.awaits?.bind s.object.own.deferred.get? with
  | some p =>
    if result = .success then
      (s.world.wrapper.wrapNewMany (producedBy (p.receiveAll (exchange r s).2.late).completions)).1
    else []
  | none => []

theorem unveiled_of_none {r : DeviceRequest} {operation : Handle} {s : Layer Tracked σ}
    (hr : r.awaits? = some operation) (hnone : s.object.own.deferred.get? operation = none)
    (result : Result) : unveiled r s result = [] := by
  unfold unveiled
  rw [hr, Option.bind_some, hnone]

theorem unveiled_of_some {r : DeviceRequest} {operation : Handle} {s : Layer Tracked σ}
    {p : PendingOperation} (hr : r.awaits? = some operation)
    (hp : s.object.own.deferred.get? operation = some p) (result : Result) :
    unveiled r s result = if result = .success then
      (s.world.wrapper.wrapNewMany (producedBy (p.receiveAll (exchange r s).2.late).completions)).1
    else [] := by
  unfold unveiled
  rw [hr, Option.bind_some, hp]

/-- **What asking for the result of an operation announces**: the pipelines that come to be then,
and whatever it hands out is among them. -/
theorem announces_perform_of_awaits {r : DeviceRequest} {operation : Handle}
    {s : Layer Tracked σ} (hr : r.awaits? = some operation)
    (hw : s.world.wrapper.enabled = true) (out : Outputs) :
    let u := (perform r out).run s
    Announces (objectsOf .pipeline (unveiled r s u.1.1)) [] s.world u.2.world ∧
      ∀ p, s.object.own.deferred.get? operation = some p → u.1.1 = .success →
        ∀ h ∈ p.handedOut u.2.world.memory, h ≠ 0 →
          (.pipeline, h) ∈ objectsOf .pipeline (unveiled r s u.1.1) := by
  intro u
  by_cases hcompletes : s.object.own.deferred.get? operation = none ∨ u.1.1 ≠ .success
  · have hnone : unveiled r s u.1.1 = [] := by
      cases hp : s.object.own.deferred.get? operation with
      | none => exact unveiled_of_none hr hp u.1.1
      | some p =>
        rw [unveiled_of_some hr hp, if_neg (hcompletes.resolve_left (by rw [hp]; exact nofun))]
    rw [hnone]
    refine ⟨.of_quiet (idles_perform_of_awaits hr hw hcompletes).quiet, fun p hp hsuccess => ?_⟩
    rcases hcompletes with hnothing | hfailed
    · rw [hp] at hnothing
      cases hnothing
    · exact absurd hsuccess hfailed
  · obtain ⟨hsome, hsuccess⟩ := not_or.1 hcompletes
    obtain ⟨p, hp⟩ := Option.ne_none_iff_exists'.1 hsome
    obtain ⟨t, hidles, -, hrun⟩ :=
      complete_perform_of_awaits hr hw (Decidable.not_not.1 hsuccess) hp
    -- the surrogates that are minted now are dealt out to the actions
    let completions := (p.receiveAll (exchange r s).2.late).completions
    let hs := (t.world.wrapper.wrapNewMany (producedBy completions)).1
    have hlength : hs.length = (producedBy completions).length := Wrapper.length_wrapNewMany _ _
    obtain ⟨hcreated, hdestroyed⟩ := announced_sights t.object.registry.chain.objects hlength
    have hsights : Announces (objectsOf .pipeline hs) [] t.world
        ((t.withDeferred (t.object.own.deferred.erase operation)).finish completions).world :=
      ⟨_, World.events_see _ _, hcreated, hdestroyed⟩
    have hunveiled : unveiled r s u.1.1 = hs := by
      rw [unveiled_of_some hr hp, if_pos (Decidable.not_not.1 hsuccess), ← hidles.wrapper]
    rw [hunveiled]
    refine ⟨?_, fun q hq _ h hmem hzero => ?_⟩
    · -- that the pipelines are ready is told, and the call is over
      have htold : Quiet ((t.withDeferred (t.object.own.deferred.erase operation)).finish
          completions).world (t.complete operation (p.receiveAll (exchange r s).2.late)).world :=
        .see (silent_toldReady _ _ _ _) _
      have hclosing : Quiet (t.complete operation (p.receiveAll (exchange r s).2.late)).world
          u.2.world := by
        show Quiet _ ((perform r out).run s).2.world
        rw [hrun]
        exact .see (silent_toldEach _ _) _
      exact (hsights.before hidles.quiet).after (htold.trans hclosing)
    · obtain rfl := Option.some.inj (hp.symm.trans hq)
      rw [← p.handedOut_receiveAll _ (exchange r s).2.late] at hmem
      have hmemory : u.2.world.memory = storage (deal completions hs) t.world.memory := by
        show ((perform r out).run s).2.world.memory = _
        rw [hrun]
        rfl
      rw [hmemory] at hmem
      exact mem_objectsOf.2 ⟨rfl, mem_of_mem_handedOut hlength hmem, hzero⟩

/-- Where nothing is ever kept, nothing is announced either. -/
theorem quiet_perform_of_awaits {r : DeviceRequest} {operation : Handle}
    {s : Layer Tracked σ} (hr : r.awaits? = some operation) (hs : s.Plain) (out : Outputs) :
    Quiet s.world ((perform r out).run s).2.world := by
  cases hveto : s.object.registry.chain.vetoes s.world.behaviour r.command with
  | true => exact quiet_perform_of_vetoes hveto out
  | false =>
    obtain ⟨t, hbefore, hown, -, hafter⟩ := exists_served hveto out
    have hparts : s.object.own.prepared r = s.object.own ∧
        serve r out = (awaitOperation r operation out : DeviceM σ _) := by
      cases r with
      | joinOperation other | queryOperation other =>
        cases hr
        exact ⟨rfl, rfl⟩
      | _ => cases hr
    refine hbefore.trans (Quiet.trans ?_ hafter)
    have hsent : (sent r none t).world.wrapper.enabled = false := by
      rw [wrapper_sent, hbefore.1, hs.disabled]
    -- no record is there that could be completed
    have hsettle : ∀ memory result, ((sent r none t).withMemory memory).settle operation result
        = (sent r none t).withMemory memory := by
      intro memory result
      have hnone : ((sent r none t).withMemory memory).object.own.deferred.get? operation
          = none := by
        show (sent r none t).object.own.deferred.get? operation = none
        rw [object_sent, hown, hparts.1, hs.own.get?_deferred]
      unfold Layer.settle
      rw [hnone, ite_self]
    rw [hparts.2]
    unfold awaitOperation
    rw [run_bind_of (run_send r none t), run_bind_of (HandsOn.run_forM_receive _ hsent),
      run_bind_of (run_completeOperation _ _ _), hsettle]
    exact quiet_sent r none t

end Device

end HandleLayer
