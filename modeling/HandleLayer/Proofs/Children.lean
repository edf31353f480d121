import HandleLayer.Proofs.Aftermath
import HandleLayer.Proofs.Edits
import HandleLayer.Proofs.Ledger
import HandleLayer.Proofs.LifetimeRuns
import HandleLayer.Proofs.Resemblance

/-!
# Children of pools and swapchains

Descriptor sets and swapchain images come with a call on their parent, and they go with a
call on their parent.  A call keeps the surrogates and the tables of children in step: of
the children of one parent some go, others come, and all else stays.

## Main definitions

* `Family`, `Tracked.children` — the two kinds of children, and the children of a parent.
* `DeviceRequest.rears?` — the parent whose children a request is about.
* `DeviceRequest.clears` — the requests that do away with all children of their parent.
* `Tends`, `Tended` — what a call does to the children of one parent and to the surrogates,
  and what the application sees of that.

## Main results

* `Device.children_perform` — a call touches the children of one parent at most.
* `Device.fares_perform` — a call on no parent removes no surrogates but those it names.
* `Device.exists_tended_perform` — **a call on a parent keeps surrogates and children in
  step.**
* `Device.unwrap_perform_of_clears` — the children of a parent go together, and nothing else.
-/

namespace HandleLayer

variable {σ : Type}

/-! ### Families -/

/-- The two kinds of children that a device tracks. -/
inductive Family
  | sets
  | images
  deriving DecidableEq, Repr

/-- The children of a parent. -/
def Tracked.children (t : Tracked) : Family → Handle → List Handle
  | .sets, pool => (t.setsOf pool).toList
  | .images, swapchain => t.imagesOf swapchain

namespace Tracked

theorem mem_children_sets {t : Tracked} {pool h : Handle} :
    h ∈ t.children .sets pool ↔ h ∈ t.setsOf pool := Std.ExtTreeSet.mem_toList

theorem children_forgetPool (t : Tracked) (pool : Handle) :
    (t.forgetPool pool).children .sets pool = [] := by
  refine List.eq_nil_iff_forall_not_mem.2 fun h hh => ?_
  rw [mem_children_sets, setsOf_forgetPool, if_pos rfl] at hh
  exact Std.ExtTreeSet.not_mem_empty hh

theorem children_clearSets (t : Tracked) (pool : Handle) :
    (t.clearSets pool).children .sets pool = [] := by
  refine List.eq_nil_iff_forall_not_mem.2 fun h hh => ?_
  rw [mem_children_sets, setsOf_clearSets, if_pos rfl] at hh
  exact Std.ExtTreeSet.not_mem_empty hh

theorem children_forgetSwapchain (t : Tracked) (swapchain : Handle) :
    (t.forgetSwapchain swapchain).children .images swapchain = [] :=
  (imagesOf_forgetSwapchain _ _ _).trans (if_pos rfl)

theorem children_setImages (t : Tracked) (swapchain : Handle) (images : List Handle) :
    (t.setImages swapchain images).children .images swapchain = images :=
  (imagesOf_setImages _ _ _ _).trans (if_pos rfl)

end Tracked

theorem Tracked.Matches.children {t t' : Tracked} (h : t.Matches t') (f : Family) (p : Handle) :
    t'.children f p = t.children f p := by
  cases f with
  | sets => exact congrArg Std.ExtTreeSet.toList (h.setsOf p)
  | images => exact h.imagesOf p

/-- The parent whose children a request is about. -/
def DeviceRequest.rears? : DeviceRequest → Option (Family × Handle)
  | .destroy .descriptorPool pool | .resetDescriptorPool pool _ | .allocateSets pool _
  | .freeSets pool _ => some (.sets, pool)
  | .destroy .swapchain swapchain | .getSwapchainImages swapchain => some (.images, swapchain)
  | _ => none

/-- Whether a request that has come to a result does away with all children of its parent. -/
def DeviceRequest.clears : DeviceRequest → Result → Bool
  | .destroy .descriptorPool _, _ | .destroy .swapchain _, _ => true
  | .resetDescriptorPool .., result => result == .success
  | _, _ => false

/-- The children of other parents are not touched by what a request may change. -/
theorem Tracked.children_of_edits {r : DeviceRequest} {e : Tracked → Tracked} (he : r.Edits e)
    {f : Family} {p : Handle} (hother : r.rears? ≠ some (f, p)) (t : Tracked) :
    (e t).children f p = t.children f p := by
  -- an edit of sets or of images leaves the other family alone, and its own but at one parent
  have hsets : ∀ {pool : Handle} {e : Tracked → Tracked}, (Family.sets, pool) ≠ (f, p) →
      (∀ pool', pool' ≠ pool → (e t).setsOf pool' = t.setsOf pool') →
      (∀ swapchain, (e t).imagesOf swapchain = t.imagesOf swapchain) →
      (e t).children f p = t.children f p := by
    intro pool e hne hpools himages
    cases f with
    | sets => exact congrArg Std.ExtTreeSet.toList (hpools p fun heq => hne (by rw [heq]))
    | images => exact himages p
  have himages : ∀ {swapchain : Handle} {e : Tracked → Tracked},
      (Family.images, swapchain) ≠ (f, p) → (∀ pool, (e t).setsOf pool = t.setsOf pool) →
      (∀ swapchain', swapchain' ≠ swapchain →
        (e t).imagesOf swapchain' = t.imagesOf swapchain') →
      (e t).children f p = t.children f p := by
    intro swapchain e hne hpools hswapchains
    cases f with
    | sets => exact congrArg Std.ExtTreeSet.toList (hpools p)
    | images => exact hswapchains p fun heq => hne (by rw [heq])
  have hne : ∀ {q : Family × Handle}, r.rears? = some q → q ≠ (f, p) := fun hr heq =>
    hother (hr.trans (congrArg some heq))
  cases he with
  | forgetPool pool =>
    exact hsets (hne rfl) (fun pool' h => by rw [setsOf_forgetPool, if_neg (Ne.symm h)])
      fun _ => rfl
  | clearSets pool =>
    exact hsets (hne rfl) (fun pool' h => by rw [setsOf_clearSets, if_neg h]) fun _ => rfl
  | addSets pool layouts sets =>
    exact hsets (hne rfl) (fun pool' h => by rw [setsOf_addSets, if_neg (Ne.symm h)])
      fun _ => rfl
  | removeSets pool sets =>
    refine hsets (hne rfl) (fun pool' h => ?_) fun _ => rfl
    refine Std.ExtTreeSet.ext_mem fun x => ?_
    rw [mem_setsOf_removeSets]
    exact and_iff_left fun heq => absurd heq h
  | forgetSwapchain swapchain =>
    exact himages (hne rfl) (fun _ => rfl)
      fun swapchain' h => by rw [imagesOf_forgetSwapchain, if_neg (Ne.symm h)]
  | setImages swapchain images =>
    exact himages (hne rfl) (fun _ => rfl)
      fun swapchain' h => by rw [imagesOf_setImages, if_neg (Ne.symm h)]
  | remember info h => cases f <;> cases info <;> rfl
  | _ => cases f <;> rfl

/-- A call does not touch the children of parents that it is not about. -/
theorem Device.children_perform [NextLayer σ] {r : DeviceRequest} {f : Family} {p : Handle}
    (hother : r.rears? ≠ some (f, p)) (out : Outputs) (s : Layer Tracked σ) :
    ((perform r out).run s).2.object.own.children f p = s.object.own.children f p :=
  (edited_perform r out s).preserves (π := fun t => t.children f p)
    fun _ he => Tracked.children_of_edits he hother

/-! ### Surrogates -/

/-- The surrogates of what is shared fare so. -/
def World.Fares (lost : List Handle) (w w' : World σ) : Prop := w.wrapper.Fares lost w'.wrapper

instance (lost : List Handle) : Composable (World.Fares (σ := σ) lost) where
  of_quiet h := by
    unfold World.Fares
    rw [h.1]
    exact .refl _
  trans h h' := Wrapper.Fares.trans h h'

/-- Nothing that lived is gone when objects are created. -/
theorem Births.fares {type : ObjectType} {w w' : World σ} (h : Births type w w')
    (lost : List Handle) : w.Fares lost w' := by
  obtain ⟨es, ns, h⟩ := h
  refine ⟨h.enabled_eq, h.drawn_le, fun k hk => ?_, fun k hk _ => (h.live k).2 (.inl hk)⟩
  rcases (h.live k).1 hk with hold | ⟨n, hn, heq⟩
  · exact .inl hold
  · exact .inr ⟨n, (h.drawn n hn).1, (h.drawn n hn).2, heq⟩

/-- One surrogate is removed. -/
theorem World.fares_erase {h : Handle} {lost : List Handle} (hmem : h ∈ lost) {w : World σ}
    (hw : w.wrapper.enabled = true) (es : List Event) :
    w.Fares lost ((w.withWrapper (w.wrapper.erase h)).see es) := by
  have hone : w.wrapper.Fares [h] (w.wrapper.eraseMany [h]) := .eraseMany hw [h]
  exact hone.mono fun x hx => (List.mem_singleton.1 hx) ▸ hmem

/-! ### Calls on no parent -/

namespace Device

/-- Removing one surrogate and announcing it. -/
theorem keeps_fares_remove {h : Handle} {lost : List Handle} (hmem : h ∈ lost)
    (type : ObjectType) :
    Keeps (World.Fares lost) (do
      eraseHandle h
      announceDestroyed type h : DeviceM σ Unit) := by
  intro s hs
  -- the children stay known as they do for any removal that is named
  have hremove : Keeps (Deaths [(type, h)]) (do
      eraseHandle h
      announceDestroyed type h : DeviceM σ Unit) := keeps_remove List.mem_cons_self
  refine ⟨(hremove s hs).1, ?_⟩
  rw [run_bind_of (run_eraseHandle h s), run_announceDestroyed]
  exact World.fares_erase hmem hs.wrapping _

variable [NextLayer σ]

/-- A call on no parent removes no surrogates but those that it names. -/
theorem keeps_fares_serve {r : DeviceRequest} (hr : r.rears? = none) (out : Outputs) :
    Keeps (World.Fares (r.named.map Prod.snd))
      (serve r out : DeviceM σ (Result × Outputs)) := by
  have hcreates : ∀ {type : ObjectType}, r.creates? = some type →
      Keeps (World.Fares (r.named.map Prod.snd)) (serve r out : DeviceM σ (Result × Outputs)) := by
    intro type htype s hs
    obtain ⟨hknown, hturn⟩ := keeps_serve r out s hs
    rw [htype] at hturn
    exact ⟨hknown, Births.fares hturn _⟩
  cases hcreates? : r.creates? with
  | some type => exact hcreates hcreates?
  | none =>
    cases r with
    | destroy kind h =>
      have hobject : Keeps (World.Fares [h]) (destroyObject kind h : DeviceM σ Unit) :=
        (keeps_send _ _).bind fun _ => keeps_fares_remove List.mem_cons_self _
      cases kind with
      | descriptorPool | swapchain => cases hr
      | _ => exact hobject.bind fun _ => .pure _
    | releaseConfiguration h =>
      refine (keeps_relay _ _).bind fun ⟨result, out⟩ => ?_
      refine .ite ?_ (.pure _)
      exact (keeps_fares_remove List.mem_cons_self _).bind fun _ => .pure _
    | resetDescriptorPool | freeSets | allocateSets | getSwapchainImages => cases hr
    | create | createGraphicsPipelines | createComputePipelines | createRayTracingPipelines
    | joinOperation | queryOperation => cases hcreates?
    | allocateCommandBuffers pool level count =>
      exact keeps_allocateCommandBuffers pool level count out
    | freeCommandBuffers pool buffers =>
      exact (keeps_freeCommandBuffers pool buffers).bind fun _ => .pure _
    | buildStructures operation infos ranges =>
      exact keeps_buildStructures operation infos ranges out
    | _ => exact keeps_relay _ out

theorem fares_perform {r : DeviceRequest} (hr : r.rears? = none) (out : Outputs)
    {s : Layer Tracked σ} (hs : s.Known) :
    s.world.Fares (r.named.map Prod.snd) ((perform r out).run s).2.world := by
  have hperform : Keeps (World.Fares (r.named.map Prod.snd))
      (perform r out : DeviceM σ (Result × Outputs)) := by
    refine (keeps_prepare r).bind fun _ => ?_
    refine (Keeps.intercept (keeps_fares_serve hr out)).bind fun p => ?_
    exact (keeps_conclude r _ _).bind fun _ => .pure _
  exact (hperform s hs).2

end Device

/-! ### Calls on a parent -/

/-- From one state to the next, of the children of a parent those `gone` go and those
`fresh` come, and so do their surrogates. -/
structure Tends (f : Family) (p : Handle) (gone fresh : List Handle) (s t : Layer Tracked σ) :
    Prop where
  drawn_le : s.world.wrapper.map.drawn ≤ t.world.wrapper.map.drawn
  live : ∀ h, h ≠ 0 → (t.world.Live h ↔ (s.world.Live h ∧ h ∉ gone) ∨ h ∈ fresh)
  minted : ∀ h ∈ fresh, h ≠ 0 → ∃ n, s.world.wrapper.map.drawn ≤ n ∧
    n < t.world.wrapper.map.drawn ∧ h = idAt n
  children : ∀ h, h ∈ t.object.own.children f p ↔
    (h ∈ s.object.own.children f p ∧ h ∉ gone) ∨ h ∈ fresh

namespace Tends

variable {f : Family} {p : Handle} {s t : Layer Tracked σ}

/-- Nothing happens. -/
theorem idle (hwrapper : t.world.wrapper = s.world.wrapper)
    (hchildren : t.object.own.children f p = s.object.own.children f p) :
    Tends f p [] [] s t := by
  refine ⟨Nat.le_of_eq (by rw [hwrapper]), fun h _ => ?_, fun h hh => absurd hh List.not_mem_nil,
    fun h => ?_⟩
  · simp [World.Live, hwrapper]
  · simp [hchildren]

/-- Surrogates are removed. -/
theorem erase {gone : List Handle} (hs : s.world.wrapper.enabled = true)
    (hwrapper : t.world.wrapper = s.world.wrapper.eraseMany gone)
    (hchildren : ∀ h, h ∈ t.object.own.children f p ↔
      h ∈ s.object.own.children f p ∧ h ∉ gone) : Tends f p gone [] s t := by
  refine ⟨?_, fun h hzero => ?_, fun h hh => absurd hh List.not_mem_nil, fun h => ?_⟩
  · exact Nat.le_of_eq (by rw [hwrapper, Wrapper.drawn_eraseMany])
  · unfold World.Live
    rw [hwrapper, Wrapper.unwrap_eraseMany hs]
    by_cases hgone : h ∈ gone
    · simp [hgone, hzero]
    · simp [hgone]
  · simp [hchildren]

/-- Surrogates are minted. -/
theorem mint {reals : List Handle} (hs : s.world.wrapper.enabled = true)
    (hwrapper : t.world.wrapper = (s.world.wrapper.wrapNewMany reals).2)
    (hchildren : ∀ h, h ∈ t.object.own.children f p ↔
      h ∈ s.object.own.children f p ∨ h ∈ (s.world.wrapper.wrapNewMany reals).1) :
    Tends f p [] (s.world.wrapper.wrapNewMany reals).1 s t := by
  obtain ⟨ns, hids, -, hbound, hdrawn, -, hlive⟩ := Wrapper.exists_wrapNewMany hs reals
  -- the surrogates that are not null are the ids of the later draws `ns`
  have hmem : ∀ h, h ≠ 0 → (h ∈ (s.world.wrapper.wrapNewMany reals).1 ↔ ∃ n ∈ ns, h = idAt n) := by
    intro h hzero
    have hfilter : h ∈ (s.world.wrapper.wrapNewMany reals).1 ↔
        h ∈ (s.world.wrapper.wrapNewMany reals).1.filter (· ≠ 0) := by
      simp [List.mem_filter, hzero]
    rw [hfilter, hids, List.mem_map]
    constructor
    · rintro ⟨n, hn, rfl⟩
      exact ⟨n, hn, rfl⟩
    · rintro ⟨n, hn, rfl⟩
      exact ⟨n, hn, rfl⟩
  refine ⟨by rw [hwrapper]; exact hdrawn, fun h hzero => ?_, fun h hh hzero => ?_, fun h => ?_⟩
  · unfold World.Live
    rw [hwrapper, hlive, hmem h hzero]
    simp
  · obtain ⟨n, hn, heq⟩ := (hmem h hzero).1 hh
    rw [hwrapper]
    exact ⟨n, (hbound n hn).1.1, (hbound n hn).1.2, heq⟩
  · simp [hchildren]

/-- What comes before and after does not matter. -/
theorem around {gone fresh : List Handle} {s' t' : Layer Tracked σ}
    (h : Tends f p gone fresh s' t') (hs : s'.world.wrapper = s.world.wrapper)
    (hschildren : s'.object.own.children f p = s.object.own.children f p)
    (ht : t.world.wrapper = t'.world.wrapper)
    (htchildren : t.object.own.children f p = t'.object.own.children f p) :
    Tends f p gone fresh s t := by
  refine ⟨?_, fun k hzero => ?_, fun k hk hzero => ?_, fun k => ?_⟩
  · rw [← hs, ht]
    exact h.drawn_le
  · have hlive := h.live k hzero
    unfold World.Live at hlive ⊢
    rwa [ht, ← hs]
  · rw [← hs, ht]
    exact h.minted k hk hzero
  · rw [htchildren, ← hschildren]
    exact h.children k

end Tends

/-! ### What calls on parents do -/

namespace Device

variable [NextLayer σ]

theorem run_destroyObject (kind : Destroyable) (h : Handle) (s : Layer Tracked σ) :
    ((destroyObject kind h).run s).2.world.wrapper = s.world.wrapper.erase h ∧
      ((destroyObject kind h).run s).2.object.own = s.object.own := by
  unfold destroyObject
  rw [run_bind_of (run_send _ none s), run_bind_of (run_eraseHandle h _), run_announceDestroyed]
  refine ⟨?_, ?_⟩
  · show (sent (.destroy kind h) none s).world.wrapper.erase h = _
    rw [wrapper_sent]
  · show (sent (.destroy kind h) none s).object.own = _
    rw [object_sent]

/-- A pool goes after its sets. -/
theorem run_destroyDescriptorPool (pool : Handle) (s : Layer Tracked σ) :
    ((destroyDescriptorPool pool).run s).2.world.wrapper
        = s.world.wrapper.eraseMany ((s.object.own.setsOf pool).toList ++ [pool]) ∧
      ((destroyDescriptorPool pool).run s).2.object.own = s.object.own.forgetPool pool := by
  unfold destroyDescriptorPool
  rw [run_bind_of (run_getOwn s), run_bind_of (run_modifyOwn _ s),
    run_bind_of (run_dropSets _ _)]
  obtain ⟨hwrapper, hown⟩ := run_destroyObject .descriptorPool pool
    (((s.withOwn (s.object.own.forgetPool pool)).withWrapper
      (s.world.wrapper.eraseMany (s.object.own.setsOf pool).toList)).see
        (deaths s.object.registry.chain.objects .descriptorSet (s.object.own.setsOf pool).toList))
  have herase : s.world.wrapper.eraseMany ((s.object.own.setsOf pool).toList ++ [pool])
      = (s.world.wrapper.eraseMany (s.object.own.setsOf pool).toList).erase pool :=
    List.foldl_append
  exact ⟨hwrapper.trans herase.symm, hown⟩

/-- A swapchain goes with its images. -/
theorem run_destroySwapchain (swapchain : Handle) (s : Layer Tracked σ) :
    ((destroySwapchain swapchain).run s).2.world.wrapper
        = s.world.wrapper.eraseMany (swapchain :: s.object.own.imagesOf swapchain) ∧
      ((destroySwapchain swapchain).run s).2.object.own
        = s.object.own.forgetSwapchain swapchain := by
  unfold destroySwapchain
  rw [run_bind_of (run_getOwn s), run_bind_of (run_modifyOwn _ s),
    run_bind_of (run_send _ none _), run_bind_of (run_eraseHandle _ _),
    run_bind_of (run_forM_eraseHandle _ _), run_bind_of (run_forM_announceDestroyed _ _ _),
    run_announceDestroyed]
  refine ⟨?_, ?_⟩
  · show ((sent _ none _).world.wrapper.erase swapchain).eraseMany _ = _
    rw [wrapper_sent]
    rfl
  · show (sent _ none _).object.own = _
    rw [object_sent]

/-- A pool that is reset loses its sets, if that succeeds. -/
theorem run_resetDescriptorPool (pool : Handle) (flags : UInt32) (out : Outputs)
    (s : Layer Tracked σ) :
    let u := (resetDescriptorPool pool flags out).run s
    u.2.world.wrapper
        = (if u.1.1 = .success then s.world.wrapper.eraseMany (s.object.own.setsOf pool).toList
          else s.world.wrapper) ∧
      u.2.object.own
        = if u.1.1 = .success then s.object.own.clearSets pool else s.object.own := by
  intro u
  have hrun : u = (resetDescriptorPool pool flags out).run s := rfl
  unfold resetDescriptorPool at hrun
  rw [run_bind_of (run_relay _ out s)] at hrun
  dsimp only at hrun
  by_cases hsuccess : (answer (.resetDescriptorPool pool flags) (out.slots.map List.length)
      s).result = .success
  · rw [if_pos hsuccess, run_bind_of (run_getOwn _), run_bind_of (run_modifyOwn _ _),
      run_bind_of (run_dropSets _ _)] at hrun
    have hresult : u.1.1 = .success := by rw [hrun]; exact hsuccess
    rw [if_pos hresult, if_pos hresult, hrun]
    refine ⟨?_, ?_⟩
    · show (sent _ _ s).world.wrapper.eraseMany ((sent _ _ s).object.own.setsOf pool).toList = _
      rw [wrapper_sent, object_sent]
    · show (sent _ _ s).object.own.clearSets pool = _
      rw [object_sent]
  · rw [if_neg hsuccess] at hrun
    have hresult : ¬ u.1.1 = .success := by rw [hrun]; exact hsuccess
    rw [if_neg hresult, if_neg hresult, hrun]
    exact ⟨wrapper_sent _ _ s, congrArg Dispatch.own (object_sent _ _ s)⟩

/-- A pool loses the sets that are freed, if that succeeds. -/
theorem run_freeSets {s : Layer Tracked σ} (hs : s.world.wrapper.enabled = true) (pool : Handle)
    (sets : AppArray Handle) (out : Outputs) :
    let u := (freeSets pool sets out).run s
    u.2.world.wrapper
        = (if u.1.1 = .success then s.world.wrapper.eraseMany sets.toList
          else s.world.wrapper) ∧
      u.2.object.own
        = if u.1.1 = .success then s.object.own.removeSets pool sets.toList
          else s.object.own := by
  intro u
  have hrun : u = (freeSets pool sets out).run s := rfl
  unfold freeSets at hrun
  rw [run_bind_of (run_relay _ out s), run_bind_of (run_wrapping _)] at hrun
  have hwraps : (sent (.freeSets pool sets) (out.slots.map List.length) s).world.wrapper.enabled
      = true := by rw [wrapper_sent, hs]
  dsimp only at hrun
  by_cases hsuccess : (answer (.freeSets pool sets) (out.slots.map List.length) s).result
      = .success
  · rw [if_pos ⟨hwraps, hsuccess⟩, run_bind_of (run_modifyOwn _ _),
      run_bind_of (run_dropSets _ _)] at hrun
    have hresult : u.1.1 = .success := by rw [hrun]; exact hsuccess
    rw [if_pos hresult, if_pos hresult, hrun]
    refine ⟨?_, ?_⟩
    · show (sent _ _ s).world.wrapper.eraseMany sets.toList = _
      rw [wrapper_sent]
    · show (sent _ _ s).object.own.removeSets pool sets.toList = _
      rw [object_sent]
  · rw [if_neg fun h => hsuccess h.2] at hrun
    have hresult : ¬ u.1.1 = .success := by rw [hrun]; exact hsuccess
    rw [if_neg hresult, if_neg hresult, hrun]
    exact ⟨wrapper_sent _ _ s, congrArg Dispatch.own (object_sent _ _ s)⟩

/-- A pool gets the sets that are allocated, and the application gets their surrogates, if
that succeeds. -/
theorem run_allocateSets {s : Layer Tracked σ} (hs : s.world.wrapper.enabled = true)
    (pool : Handle) (layouts : AppArray Handle) (out : Outputs) :
    let u := (allocateSets pool layouts out).run s
    (∃ reals, u.1.1 = .success ∧
        u.2.world.wrapper = (s.world.wrapper.wrapNewMany reals).2 ∧
        u.2.object.own = s.object.own.addSets pool (s.world.wrapper.wrapNewMany reals).1 ∧
        u.1.2.first layouts.count = (s.world.wrapper.wrapNewMany reals).1) ∨
      (u.1.1 ≠ .success ∧ u.2.world.wrapper = s.world.wrapper ∧
        u.2.object.own = s.object.own) := by
  intro u
  have hrun : u = (allocateSets pool layouts out).run s := rfl
  unfold allocateSets at hrun
  rw [run_bind_of (run_relay _ out s), run_bind_of (run_wrapping _)] at hrun
  have hwraps : (sent (.allocateSets pool layouts) (out.slots.map List.length)
      s).world.wrapper.enabled = true := by rw [wrapper_sent, hs]
  generalize Reply.write _ _ out = written at hrun
  by_cases hsuccess : (answer (.allocateSets pool layouts) (out.slots.map List.length) s).result
      = .success
  · rw [if_pos ⟨hwraps, hsuccess⟩, run_bind_of (run_wrapNewMany _ _),
      run_bind_of (run_modifyOwn _ _), run_bind_of (run_forM_announceCreated _ _ _)] at hrun
    refine .inl ⟨written.first layouts.count, by rw [hrun]; exact hsuccess, ?_, ?_, ?_⟩
    · rw [hrun]
      show ((sent _ _ s).world.wrapper.wrapNewMany _).2 = _
      rw [wrapper_sent]
    · rw [hrun]
      show (sent _ _ s).object.own.addSets pool ((sent _ _ s).world.wrapper.wrapNewMany _).1 = _
      rw [wrapper_sent, object_sent]
    · rw [hrun]
      show (written.present ((sent _ _ s).world.wrapper.wrapNewMany _).1).first _ = _
      rw [wrapper_sent, Outputs.first_present (s.world.wrapper.length_wrapNewMany _)]
  · rw [if_neg fun h => hsuccess h.2] at hrun
    refine .inr ⟨by rw [hrun]; exact hsuccess, ?_, ?_⟩
    · rw [hrun]
      exact wrapper_sent _ _ s
    · rw [hrun]
      exact congrArg Dispatch.own (object_sent _ _ s)

/-- The images of a swapchain that were not reported before are added to the others, and
the application gets the surrogates of all that are reported. -/
theorem run_getSwapchainImages {s : Layer Tracked σ} (hs : s.world.wrapper.enabled = true)
    (swapchain : Handle) (out : Outputs) :
    let u := (getSwapchainImages swapchain out).run s
    (∃ slots, u.1.1.reports = true ∧
        let count := u.1.2.count.toNat
        let known := s.object.own.imagesOf swapchain
        let fresh := s.world.wrapper.wrapNewMany ((slots.take count).drop known.length)
        u.2.world.wrapper = fresh.2 ∧
        u.2.object.own = s.object.own.setImages swapchain (known ++ fresh.1) ∧
        u.1.2.slots = some (overwrite slots ((known ++ fresh.1).take count))) ∨
      ((u.1.1.reports = false ∨ u.1.2.slots = none) ∧ u.2.world.wrapper = s.world.wrapper ∧
        u.2.object.own = s.object.own) := by
  intro u
  let r : DeviceRequest := .getSwapchainImages swapchain
  have hresponds : Responds r out s.world.wrapper s.object.own (serve r out : DeviceM σ _)
      (aftermath r s.world.wrapper s.object.own) := responds_getSwapchainImages hs swapchain
  obtain ⟨t, hrun, -, hwrapper, hown⟩ := hresponds s rfl rfl
  have hrun : u = (_, t) := hrun
  rw [hrun]
  generalize (DeviceRequest.getSwapchainImages swapchain).outcome _ out = o at hwrapper hown ⊢
  by_cases hboth : o.2.slots.isSome = true ∧ o.1.reports = true
  · obtain ⟨slots, hslots⟩ := Option.isSome_iff_exists.1 hboth.1
    rw [aftermath_images_of_reports hboth.2 hslots] at hwrapper hown ⊢
    exact .inl ⟨slots, hboth.2, hwrapper, hown, rfl⟩
  · rw [aftermath_images_of_not hboth] at hwrapper hown ⊢
    refine .inr ⟨?_, hwrapper, hown⟩
    cases hslots : o.2.slots with
    | none => exact .inr rfl
    | some slots => exact .inl (Bool.eq_false_iff.2 fun h => hboth ⟨by rw [hslots]; rfl, h⟩)

end Device

/-! ### Calls on a parent, as the application sees them -/

/-- What a call on a parent comes to: of the children those go that lived or that the
request names, and what comes is handed to the application. -/
structure Tended (r : DeviceRequest) (f : Family) (p : Handle) (gone fresh : List Handle)
    (s : Layer Tracked σ) (o : Outcome) (t : Layer Tracked σ) : Prop
    extends Tends f p gone fresh s t where
  gone_mem : ∀ h ∈ gone, h ∈ s.object.own.children f p ∨ h ∈ r.named.map Prod.snd
  handed : ∀ h ∈ r.produced o, h ≠ 0 → h ∈ t.object.own.children f p
  fresh_mem : ∀ h ∈ fresh, h ≠ 0 → h ∈ r.produced o

namespace Tended

variable {r : DeviceRequest} {f : Family} {p : Handle} {s t : Layer Tracked σ} {o : Outcome}

/-- Children only go. -/
theorem of_erase {gone : List Handle} (h : Tends f p gone [] s t)
    (hgone : ∀ h ∈ gone, h ∈ s.object.own.children f p ∨ h ∈ r.named.map Prod.snd)
    (hproduced : r.produced o = []) : Tended r f p gone [] s o t := by
  refine ⟨h, hgone, fun k hk => ?_, fun k hk => absurd hk List.not_mem_nil⟩
  rw [hproduced] at hk
  exact absurd hk List.not_mem_nil

/-- Nothing happens. -/
theorem idle (hwrapper : t.world.wrapper = s.world.wrapper)
    (hown : t.object.own.children f p = s.object.own.children f p)
    (hproduced : r.produced o = []) : Tended r f p [] [] s o t :=
  of_erase (.idle hwrapper hown) (fun _ hh => absurd hh List.not_mem_nil) hproduced

/-- All children go. -/
theorem of_clear {gone : List Handle} (hs : s.world.wrapper.enabled = true)
    (hwrapper : t.world.wrapper = s.world.wrapper.eraseMany gone)
    (hall : ∀ h ∈ s.object.own.children f p, h ∈ gone)
    (hgone : ∀ h ∈ gone, h ∈ s.object.own.children f p ∨ h ∈ r.named.map Prod.snd)
    (hnone : t.object.own.children f p = []) (hproduced : r.produced o = []) :
    Tended r f p gone [] s o t := by
  refine of_erase (.erase hs hwrapper fun h => ?_) hgone hproduced
  rw [hnone]
  exact iff_of_false List.not_mem_nil fun hh => hh.2 (hall h hh.1)

/-- What comes before and after does not matter. -/
theorem around {gone fresh : List Handle} {s' t' : Layer Tracked σ}
    (h : Tended r f p gone fresh s' o t') (hs : s'.world.wrapper = s.world.wrapper)
    (hschildren : s'.object.own.children f p = s.object.own.children f p)
    (ht : t.world.wrapper = t'.world.wrapper)
    (htchildren : t.object.own.children f p = t'.object.own.children f p) :
    Tended r f p gone fresh s o t := by
  refine ⟨h.toTends.around hs hschildren ht htchildren, fun k hk => ?_, fun k hk hzero => ?_,
    h.fresh_mem⟩
  · rw [← hschildren]
    exact h.gone_mem k hk
  · rw [htchildren]
    exact h.handed k hk hzero

end Tended

/-- Of the images of a swapchain those are shown for which there is a slot.  When the slots
beyond those already `known` are all filled with images that are new, everything shown is
an image and every new image is shown. -/
theorem mem_shown {slots known fresh : List Handle} {count : Nat}
    (hfresh : fresh.length = ((slots.take count).drop known.length).length) :
    let shown := (overwrite slots ((known ++ fresh).take count)).take count
    (∀ h ∈ shown, h ∈ known ++ fresh) ∧ ∀ h ∈ fresh, h ∈ shown := by
  intro shown
  rw [List.length_drop, List.length_take] at hfresh
  -- a slot that is shown holds the image at its place
  have hslot : ∀ i, i < min count slots.length → shown[i]? = (known ++ fresh)[i]? := by
    intro i hi
    have hlength : (known ++ fresh).length = known.length + fresh.length := List.length_append
    have hnew : i < ((known ++ fresh).take count).length := by
      rw [List.length_take]
      omega
    rw [List.getElem?_take, if_pos (by omega), getElem?_overwrite (by omega) hnew,
      List.getElem?_take, if_pos (by omega)]
  refine ⟨fun h hh => ?_, fun h hh => ?_⟩
  · obtain ⟨i, hi⟩ := List.mem_iff_getElem?.1 hh
    have hlt : i < shown.length := (List.getElem?_eq_some_iff.1 hi).1
    have hlength : shown.length = min count slots.length := by
      rw [List.length_take, overwrite, length_overlay]
    rw [hslot i (by omega)] at hi
    exact List.mem_of_getElem? hi
  · obtain ⟨i, hi⟩ := List.mem_iff_getElem?.1 hh
    have hlt : i < fresh.length := (List.getElem?_eq_some_iff.1 hi).1
    have hplace : shown[known.length + i]? = some h := by
      rw [hslot _ (by omega), List.getElem?_append_right (by omega), Nat.add_sub_cancel_left]
      exact hi
    exact List.mem_of_getElem? hplace

namespace Device

variable [NextLayer σ] {s : Layer Tracked σ}

theorem exists_tended_allocateSets (hs : s.world.wrapper.enabled = true) (pool : Handle)
    (layouts : AppArray Handle) (out : Outputs) :
    let u := (allocateSets pool layouts out).run s
    ∃ fresh, Tended (.allocateSets pool layouts) .sets pool [] fresh s u.1 u.2 := by
  intro u
  rcases run_allocateSets hs pool layouts out with
    ⟨reals, hsuccess, hwrapper, hown, hslots⟩ | ⟨hfailed, hwrapper, hown⟩
  · -- the slots hold exactly what was minted
    have hproduced : (DeviceRequest.allocateSets pool layouts).produced u.1
        = (s.world.wrapper.wrapNewMany reals).1 := (if_pos hsuccess).trans hslots
    have hchildren : ∀ h, h ∈ u.2.object.own.children .sets pool ↔
        h ∈ s.object.own.children .sets pool ∨
          h ∈ (s.world.wrapper.wrapNewMany reals).1 := by
      intro h
      rw [hown, Tracked.mem_children_sets, Tracked.mem_children_sets]
      simp
    refine ⟨_, .mint hs hwrapper hchildren, fun h hh => absurd hh List.not_mem_nil,
      fun h hh _ => ?_, fun h hh _ => ?_⟩
    · rw [hproduced] at hh
      exact (hchildren h).2 (.inr hh)
    · rw [hproduced]
      exact hh
  · exact ⟨[], .idle hwrapper (by rw [hown]) (if_neg hfailed)⟩

theorem exists_tended_getSwapchainImages (hs : s.world.wrapper.enabled = true)
    (swapchain : Handle) (out : Outputs) :
    let u := (getSwapchainImages swapchain out).run s
    ∃ fresh, Tended (.getSwapchainImages swapchain) .images swapchain [] fresh s u.1 u.2 := by
  intro u
  rcases run_getSwapchainImages hs swapchain out with
    ⟨slots, hreports, hwrapper, hown, hslots⟩ | ⟨hnone, hwrapper, hown⟩
  · have hproduced : (DeviceRequest.getSwapchainImages swapchain).produced u.1
        = (u.1.2.slots.getD []).take u.1.2.count.toNat := if_pos hreports
    rw [hslots] at hproduced
    have hchildren := congrArg (Tracked.children · .images swapchain) hown
    rw [Tracked.children_setImages] at hchildren
    obtain ⟨hshown, hfresh⟩ := mem_shown (s.world.wrapper.length_wrapNewMany
      ((slots.take u.1.2.count.toNat).drop (s.object.own.imagesOf swapchain).length))
    refine ⟨_, .mint hs hwrapper fun h => ?_, fun h hh => absurd hh List.not_mem_nil,
      fun h hh _ => ?_, fun h hh _ => ?_⟩
    · rw [hchildren]
      exact List.mem_append
    · rw [hproduced] at hh
      rw [hchildren]
      exact hshown h hh
    · rw [hproduced]
      exact hfresh h hh
  · have hproduced : (DeviceRequest.getSwapchainImages swapchain).produced u.1 = [] := by
      rcases hnone with hfailed | hnull
      · exact if_neg (by rw [hfailed]; exact Bool.false_ne_true)
      · exact ite_eq_right_iff.2 fun _ => Outputs.first_of_null hnull _
    exact ⟨[], .idle hwrapper (by rw [hown]) hproduced⟩

theorem exists_tended_resetDescriptorPool (hs : s.world.wrapper.enabled = true) (pool : Handle)
    (flags : UInt32) (out : Outputs) :
    let u := (resetDescriptorPool pool flags out).run s
    ∃ gone, Tended (.resetDescriptorPool pool flags) .sets pool gone [] s u.1 u.2 := by
  intro u
  obtain ⟨hwrapper, hown⟩ := run_resetDescriptorPool pool flags out s
  by_cases hsuccess : u.1.1 = .success
  · rw [if_pos hsuccess] at hwrapper hown
    refine ⟨_, .of_clear hs hwrapper (fun k hk => hk) (fun k hk => .inl hk) ?_ rfl⟩
    exact (congrArg (Tracked.children · .sets pool) hown).trans
      (Tracked.children_clearSets _ pool)
  · rw [if_neg hsuccess] at hwrapper hown
    exact ⟨[], .idle hwrapper (congrArg (Tracked.children · .sets pool) hown) rfl⟩

theorem exists_tended_freeSets (hs : s.world.wrapper.enabled = true) (pool : Handle)
    (sets : AppArray Handle) (out : Outputs) :
    let u := (freeSets pool sets out).run s
    ∃ gone, Tended (.freeSets pool sets) .sets pool gone [] s u.1 u.2 := by
  intro u
  obtain ⟨hwrapper, hown⟩ := run_freeSets hs pool sets out
  by_cases hsuccess : u.1.1 = .success
  · rw [if_pos hsuccess] at hwrapper hown
    refine ⟨_, .of_erase (.erase hs hwrapper fun k => ?_) (fun k hk => ?_) rfl⟩
    · have hremoved := congrArg (fun t => k ∈ Tracked.children t .sets pool) hown
      refine (iff_of_eq hremoved).trans ?_
      rw [Tracked.mem_children_sets, Tracked.mem_children_sets, Tracked.mem_setsOf_removeSets]
      exact and_congr_right fun _ => forall_prop_of_true rfl
    · refine .inr (List.mem_map.2 ⟨(.descriptorSet, k), ?_, rfl⟩)
      exact List.mem_map.2 ⟨k, hk, rfl⟩
  · rw [if_neg hsuccess] at hwrapper hown
    exact ⟨[], .idle hwrapper (congrArg (Tracked.children · .sets pool) hown) rfl⟩

theorem exists_tended_serve {r : DeviceRequest} {f : Family} {p : Handle}
    (hr : r.rears? = some (f, p)) (out : Outputs) (hs : s.world.wrapper.enabled = true) :
    ∃ gone fresh, Tended r f p gone fresh s ((serve r out).run s).1
      ((serve r out).run s).2 := by
  cases r with
  | destroy kind h =>
    cases kind with
    | descriptorPool =>
      obtain ⟨rfl, rfl⟩ := Prod.mk.inj (Option.some.inj hr)
      obtain ⟨hwrapper, hown⟩ := run_destroyDescriptorPool h s
      refine ⟨_, [], .of_clear hs hwrapper (fun k hk => List.mem_append_left _ hk)
        (fun k hk => List.mem_append.1 hk) ?_ rfl⟩
      exact (congrArg (Tracked.children · .sets h) hown).trans (Tracked.children_forgetPool _ h)
    | swapchain =>
      obtain ⟨rfl, rfl⟩ := Prod.mk.inj (Option.some.inj hr)
      obtain ⟨hwrapper, hown⟩ := run_destroySwapchain h s
      refine ⟨_, [], .of_clear hs hwrapper (fun k hk => List.mem_cons_of_mem _ hk)
        (fun k hk => ?_) ?_ rfl⟩
      · rcases List.mem_cons.1 hk with rfl | hk
        · exact .inr List.mem_cons_self
        · exact .inl hk
      · exact (congrArg (Tracked.children · .images h) hown).trans
          (Tracked.children_forgetSwapchain _ h)
    | _ => cases hr
  | resetDescriptorPool pool flags =>
    obtain ⟨rfl, rfl⟩ := Prod.mk.inj (Option.some.inj hr)
    obtain ⟨gone, h⟩ := exists_tended_resetDescriptorPool hs pool flags out
    exact ⟨gone, [], h⟩
  | allocateSets pool layouts =>
    obtain ⟨rfl, rfl⟩ := Prod.mk.inj (Option.some.inj hr)
    exact ⟨[], exists_tended_allocateSets hs pool layouts out⟩
  | freeSets pool sets =>
    obtain ⟨rfl, rfl⟩ := Prod.mk.inj (Option.some.inj hr)
    obtain ⟨gone, h⟩ := exists_tended_freeSets hs pool sets out
    exact ⟨gone, [], h⟩
  | getSwapchainImages swapchain =>
    obtain ⟨rfl, rfl⟩ := Prod.mk.inj (Option.some.inj hr)
    exact ⟨[], exists_tended_getSwapchainImages hs swapchain out⟩
  | _ => cases hr

/-- When all children of a parent go, nothing else goes but what the request names. -/
theorem exists_eraseMany_serve {r : DeviceRequest} {f : Family} {p : Handle} {out : Outputs}
    (hr : r.rears? = some (f, p)) (hclears : r.clears ((serve r out).run s).1.1 = true) :
    ∃ gone, ((serve r out).run s).2.world.wrapper = s.world.wrapper.eraseMany gone ∧
      ∀ h, h ∈ gone ↔ h ∈ s.object.own.children f p ∨ h ∈ r.named.map Prod.snd := by
  cases r with
  | destroy kind h =>
    cases kind with
    | descriptorPool =>
      obtain ⟨rfl, rfl⟩ := Prod.mk.inj (Option.some.inj hr)
      exact ⟨_, (run_destroyDescriptorPool h s).1, fun k => List.mem_append⟩
    | swapchain =>
      obtain ⟨rfl, rfl⟩ := Prod.mk.inj (Option.some.inj hr)
      refine ⟨_, (run_destroySwapchain h s).1, fun k => ?_⟩
      exact List.mem_cons.trans (or_comm.trans (or_congr_right List.mem_singleton.symm))
    | _ => cases hr
  | resetDescriptorPool pool flags =>
    obtain ⟨rfl, rfl⟩ := Prod.mk.inj (Option.some.inj hr)
    have hsuccess : ((resetDescriptorPool pool flags out).run s).1.1 = .success :=
      beq_iff_eq.1 hclears
    have hwrapper := (run_resetDescriptorPool pool flags out s).1
    rw [if_pos hsuccess] at hwrapper
    exact ⟨_, hwrapper, fun k => (or_iff_left List.not_mem_nil).symm⟩
  | _ => cases hclears

omit [NextLayer σ] in
/-- A call on a parent does not touch children before it is served. -/
theorem spared_of_rears {r : DeviceRequest} {q : Family × Handle} (hr : r.rears? = some q)
    (t : Tracked) : t.spared r = t := by
  cases r with
  | destroy kind h =>
    cases kind with
    | descriptorPool | swapchain => rfl
    | _ => cases hr
  | _ => rfl

omit [NextLayer σ] in
/-- Before it is served, a call on a parent finds the children that there were. -/
theorem children_of_matches {r : DeviceRequest} {f : Family} {p : Handle}
    (hr : r.rears? = some (f, p)) {s' : Layer Tracked σ}
    (h : (s.withOwn (s.object.own.spared r)).Matches s') :
    s'.object.own.children f p = s.object.own.children f p :=
  (h.own.children f p).trans (congrArg (Tracked.children · f p) (spared_of_rears hr _))

/-- **A call on a parent keeps surrogates and children in step**, skipped or not. -/
theorem exists_tended_perform {r : DeviceRequest} {f : Family} {p : Handle}
    (hr : r.rears? = some (f, p)) (out : Outputs) (hs : s.world.wrapper.enabled = true) :
    ∃ gone fresh, Tended r f p gone fresh s ((perform r out).run s).1
      ((perform r out).run s).2 := by
  cases hveto : s.object.registry.chain.vetoes s.world.behaviour r.command with
  | true =>
    obtain ⟨t, hrun, hmatches⟩ := exists_run_perform_of_vetoes hveto out
    rw [hrun]
    exact ⟨[], [], .idle hmatches.wrapper (children_of_matches hr hmatches)
      (r.produced_of_skipped out)⟩
  | false =>
    obtain ⟨s', t, hbefore, hafter, hrun⟩ := exists_run_perform hveto out
    have hs' : s'.world.wrapper.enabled = true := by
      rw [hbefore.wrapper]
      exact hs
    obtain ⟨gone, fresh, htended⟩ := exists_tended_serve hr out hs'
    rw [hrun]
    exact ⟨gone, fresh, htended.around hbefore.wrapper (children_of_matches hr hbefore)
      hafter.wrapper (hafter.own.children f p)⟩

/-- **The children of a parent go together, and nothing else goes** but what is named. -/
theorem unwrap_perform_of_clears {r : DeviceRequest} {f : Family} {p : Handle} {out : Outputs}
    (hr : r.rears? = some (f, p)) (hs : s.world.wrapper.enabled = true)
    (hveto : s.object.registry.chain.vetoes s.world.behaviour r.command = false)
    (hclears : r.clears ((perform r out).run s).1.1 = true) (h : Handle) :
    ((perform r out).run s).2.world.wrapper.map.unwrap h
      = if h ≠ 0 ∧ (h ∈ s.object.own.children f p ∨ h ∈ r.named.map Prod.snd) then none
        else s.world.wrapper.map.unwrap h := by
  obtain ⟨s', t, hbefore, hafter, hrun⟩ := exists_run_perform hveto out
  rw [hrun] at hclears ⊢
  obtain ⟨gone, hwrapper, hgone⟩ := exists_eraseMany_serve hr hclears
  have hsame : s'.world.wrapper = s.world.wrapper := hbefore.wrapper
  rw [hafter.wrapper, hwrapper, hsame, Wrapper.unwrap_eraseMany hs]
  simp only [hgone, children_of_matches hr hbefore, and_comm]

end Device

end HandleLayer
