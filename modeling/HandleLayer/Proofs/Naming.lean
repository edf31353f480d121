import HandleLayer.Device.Tracked
import HandleLayer.NextLayer

/-!
# Handles in requests

A request names handles at its top level, in arrays, in arrays inside of arrays, and in
the blocks of chains.  What is done with a handle on the way down depends on how the
request uses it.  If each handle is resolved as its use demands, then the request as a
whole is: no field is left out.

## Main definitions

* `HandleUse` — the ways in which a request uses a handle.
* `DeviceRequest.names` — the handles of a request, with their uses.
* `DeviceRequest.mapHandles` — the request with every handle replaced.
* `DeviceRequest.isCovered` — the requests of which this is known.
* `DeviceRequest.flat` — the request as it reads in memory, wherever its blocks lie.

## Main results

* `DeviceRequest.flat_resolveWrapped` — **resolving a request resolves every handle in
  it**, as its use demands.
-/

namespace HandleLayer

/-! ### Arrays -/

section Arrays

variable {α β γ : Type}

theorem List.map_map_eq {f : α → β} {g : β → γ} {k : α → γ} {xs : List α}
    (h : ∀ x ∈ xs, g (f x) = k x) : (xs.map f).map g = xs.map k := by
  rw [List.map_map]
  exact List.map_congr_left h

theorem AppArray.map_map_eq {f : α → β} {g : β → γ} {k : α → γ} {xs : AppArray α}
    (h : ∀ x ∈ xs.toList, g (f x) = k x) : (xs.map f).map g = xs.map k := by
  cases xs with
  | null n => rfl
  | elems xs => exact congrArg AppArray.elems (List.map_map_eq h)

theorem AppArray.map_congr {f g : α → β} {xs : AppArray α} (h : ∀ x ∈ xs.toList, f x = g x) :
    xs.map f = xs.map g := by
  cases xs with
  | null n => rfl
  | elems xs => exact congrArg AppArray.elems (List.map_congr_left h)

theorem Option.map_map_eq {f : α → β} {g : β → γ} {k : α → γ} {o : Option α}
    (h : ∀ x ∈ o, g (f x) = k x) : (o.map f).map g = o.map k := by
  cases o with
  | none => rfl
  | some x => exact congrArg some (h x rfl)

/-- Every element of an array is resolved. -/
theorem AppArray.map_value_resolveArray {resolve : β → Noted β} {f : α → β} {g : β → γ}
    {k : α → γ} {xs : AppArray α} (h : ∀ x ∈ xs.toList, g (resolve (f x)).value = k x) :
    ((resolveArray resolve (xs.map f)).value).map g = xs.map k := by
  cases xs with
  | null n => rfl
  | elems xs =>
    have hvalue : ((resolveArray resolve ((AppArray.elems xs).map f)).value).map g
        = .elems ((((xs.map f).map resolve).map Noted.value).map g) := rfl
    rw [hvalue, List.map_map, List.map_map, List.map_map]
    exact congrArg AppArray.elems (List.map_congr_left h)

end Arrays

/-! ### Uses -/

/-- How a request uses a handle. -/
inductive HandleUse
  /-- A wrapped object, or none. -/
  | wrapped
  /-- A wrapped object that others belong to: a pool or a swapchain. -/
  | owner
  | commandBuffer
  /-- A dispatchable object other than a command buffer. -/
  | dispatchable
  /-- A wrapped object that matters only to secondary command buffers; the command buffer
  is given. -/
  | inherited (commandBuffer : Handle)
  /-- Any object, whether it is wrapped or not. -/
  | labelled
  /-- Nothing; the handle is ignored. -/
  | ignored
  deriving DecidableEq

/-- Handles of one use, one for each name. -/
def HandleUse.of (use : HandleUse) (hs : List Handle) : List (HandleUse × Handle) :=
  hs.map (use, ·)

/-- What has to go down for each handle: `a` is what the application says for each name,
and `b` what is meant by it. -/
def HandleUse.Agrees (w : Wrapper) (t : Shadows) (a b : Handle → Handle) :
    HandleUse × Handle → Prop
  | (.wrapped, n) => w.unwrap (a n) = b n
  | (.owner, n) => w.unwrap (a n) = b n
  | (.commandBuffer, n) => a n = b n
  | (.dispatchable, n) => a n = b n
  | (.inherited buffer, n) =>
    (if t.secondaries.contains (a buffer) then w.unwrap (a n) else a n) = b n
  | (.labelled, n) => w.unwrapOrKeep (a n) = b n
  | (.ignored, n) => a n = 0 ∧ b n = 0

variable {w : Wrapper} {t : Shadows} {a b : Handle → Handle}

theorem HandleUse.agrees_ignored {w : Wrapper} {n : Handle}
    (h : HandleUse.Agrees w t a b (.ignored, n)) : a n = b n := h.1.trans h.2.symm

theorem HandleUse.agrees_ite {c : Prop} [Decidable c] {n : Handle}
    (h : HandleUse.Agrees w t a b (if c then .wrapped else .ignored, n)) :
    (if c then w.unwrap (a n) else a n) = b n := by
  by_cases hc : c
  · rw [if_pos hc] at h ⊢
    exact h
  · rw [if_neg hc] at h ⊢
    exact HandleUse.agrees_ignored h

/-- Handles of one use agree one by one. -/
theorem HandleUse.agrees_of {use : HandleUse} {hs : List Handle}
    {ns : List (HandleUse × Handle)} (hsub : ∀ p ∈ use.of hs, p ∈ ns)
    (h : ∀ p ∈ ns, HandleUse.Agrees w t a b p) :
    ∀ n ∈ hs, HandleUse.Agrees w t a b (use, n) :=
  fun n hn => h _ (hsub _ (List.mem_map.2 ⟨n, hn, rfl⟩))

/-! ### Chains -/

namespace Block

/-- The handles of a block that go with `Block.mapHandles`. -/
def handles : Block → List Handle
  | plain .. | rendering .. | feedback .. | metalDevice _ | metalCommandQueue ..
  | unknown _ => []
  | library hs => hs.toList
  | shaderGroups groups pipelines =>
    groups.toList.flatMap (fun g => g.stages.toList.map Stage.module) ++ pipelines.toList
  | ycbcrConversion h => [h]
  | validationCache h => [h]
  | dedicatedMemory image buffer => [image, buffer]
  | dedicatedMemoryNv image buffer => [image, buffer]
  | writeStructures hs => hs.toList
  | writeStructuresNv hs => hs.toList
  | imageSwapchain h => [h]
  | subpassShading renderPass _ => [renderPass]
  | pipelineLayout hs => hs.toList
  | frameBoundary _ images buffers => images.toList ++ buffers.toList
  | presentFences hs => hs.toList
  | attachmentBegin hs => hs.toList
  | opacityMicromap _ h => [h]
  | displacementMicromap _ h => [h]
  | metalBuffer h _ => [h]
  | metalTexture image view bufferView _ => [image, view, bufferView]
  | metalSurface h _ => [h]
  | metalSharedEvent semaphore event _ => [semaphore, event]

/-- Whether the layout of a block is known and nothing is ever written into it. -/
def isInput (b : Block) : Bool := b.isKnown && b.outputs == {}

theorem isInput_mapHandles (f : Handle → Handle) (b : Block) :
    (b.mapHandles f).isInput = b.isInput := by
  cases b <;> rfl

/-- The copy of a block without outputs has nothing but its handles replaced. -/
theorem copy?_of_isInput {b : Block} (f : Handle → Handle) (hb : b.isInput = true) :
    b.copy? f = some (b.mapHandles f) := by
  obtain ⟨hknown, houtputs⟩ := Bool.and_eq_true_iff.1 hb
  have hnone : b.outputs = {} := eq_of_beq houtputs
  cases b with
  | unknown => exact absurd hknown Bool.false_ne_true
  | feedback pipeline stages =>
    have hpipeline : pipeline = none := congrArg BlockFill.pipeline hnone
    have hstages : stages.toList.map some = [] := congrArg BlockFill.stages hnone
    subst hpipeline
    cases stages with
    | null n => rfl
    | elems xs =>
      obtain rfl := List.map_eq_nil_iff.1 hstages
      rfl
  | _ => rfl

/-- Replacing handles twice. -/
theorem mapHandles_mapHandles {f g k : Handle → Handle} {b : Block}
    (h : ∀ n ∈ b.handles, g (f n) = k n) : (b.mapHandles f).mapHandles g = b.mapHandles k := by
  have hsecond : ∀ {n m : Handle} {hs : List Handle}, m ∈ n :: m :: hs :=
    List.mem_cons_of_mem _ List.mem_cons_self
  cases b with
  | library hs => exact congrArg library (AppArray.map_map_eq h)
  | shaderGroups groups pipelines =>
    -- the handles are two levels down, in the stages of the groups
    let replace (f : Handle → Handle) (group : ShaderGroup) : ShaderGroup :=
      ⟨group.stages.map (Stage.mapHandles f)⟩
    have hgroups : (groups.map (replace f)).map (replace g) = groups.map (replace k) := by
      refine AppArray.map_map_eq fun group hgroup => ?_
      refine congrArg ShaderGroup.mk (AppArray.map_map_eq fun stage hstage => ?_)
      have hmodule := h stage.module (List.mem_append_left _ (List.mem_flatMap.2
        ⟨group, hgroup, List.mem_map.2 ⟨stage, hstage, rfl⟩⟩))
      exact congrArg (fun m => { stage with module := m }) hmodule
    have hpipelines : (pipelines.map f).map g = pipelines.map k :=
      AppArray.map_map_eq fun n hn => h n (List.mem_append_right _ hn)
    show shaderGroups _ _ = shaderGroups _ _
    rw [hgroups, hpipelines]
  | ycbcrConversion n => exact congrArg ycbcrConversion (h n List.mem_cons_self)
  | validationCache n => exact congrArg validationCache (h n List.mem_cons_self)
  | dedicatedMemory image buffer =>
    show dedicatedMemory _ _ = dedicatedMemory _ _
    rw [h image List.mem_cons_self, h buffer hsecond]
  | dedicatedMemoryNv image buffer =>
    show dedicatedMemoryNv _ _ = dedicatedMemoryNv _ _
    rw [h image List.mem_cons_self, h buffer hsecond]
  | writeStructures hs => exact congrArg writeStructures (AppArray.map_map_eq h)
  | writeStructuresNv hs => exact congrArg writeStructuresNv (AppArray.map_map_eq h)
  | imageSwapchain n => exact congrArg imageSwapchain (h n List.mem_cons_self)
  | subpassShading renderPass subpass =>
    exact congrArg (subpassShading · subpass) (h renderPass List.mem_cons_self)
  | pipelineLayout hs => exact congrArg pipelineLayout (AppArray.map_map_eq h)
  | frameBoundary frameId images buffers =>
    have himages : (images.map f).map g = images.map k :=
      AppArray.map_map_eq fun n hn => h n (List.mem_append_left _ hn)
    have hbuffers : (buffers.map f).map g = buffers.map k :=
      AppArray.map_map_eq fun n hn => h n (List.mem_append_right _ hn)
    show frameBoundary frameId _ _ = frameBoundary frameId _ _
    rw [himages, hbuffers]
  | presentFences hs => exact congrArg presentFences (AppArray.map_map_eq h)
  | attachmentBegin hs => exact congrArg attachmentBegin (AppArray.map_map_eq h)
  | opacityMicromap base n => exact congrArg (opacityMicromap base) (h n List.mem_cons_self)
  | displacementMicromap base n =>
    exact congrArg (displacementMicromap base) (h n List.mem_cons_self)
  | metalBuffer n out => exact congrArg (metalBuffer · out) (h n List.mem_cons_self)
  | metalTexture image view bufferView out =>
    show metalTexture _ _ _ out = metalTexture _ _ _ out
    rw [h image List.mem_cons_self, h view hsecond,
      h bufferView (List.mem_cons_of_mem _ hsecond)]
  | metalSurface n out => exact congrArg (metalSurface · out) (h n List.mem_cons_self)
  | metalSharedEvent semaphore event out =>
    show metalSharedEvent _ _ out = metalSharedEvent _ _ out
    rw [h semaphore List.mem_cons_self, h event hsecond]
  -- there are no handles in the others
  | plain | rendering | feedback | metalDevice | metalCommandQueue | unknown => rfl

end Block

namespace Chain

/-- The handles of a chain, in all its blocks. -/
def handles (c : Chain) : List Handle := c.blocks.flatMap Block.handles

/-- The chain of an application with every handle replaced. -/
def mapHandles (f : Handle → Handle) (c : Chain) : Chain :=
  .ofApp (c.blocks.map (Block.mapHandles f))

/-- Whether the chain has input blocks of known layout only. -/
def isInput (c : Chain) : Bool := c.blocks.all Block.isInput

/-- The chain as it reads, whether its blocks are copies or not. -/
def flat (c : Chain) : Chain := .ofApp c.blocks

theorem isInput_mapHandles (f : Handle → Handle) (c : Chain) :
    (c.mapHandles f).isInput = c.isInput := by
  have hblocks : (c.mapHandles f).blocks = c.blocks.map (Block.mapHandles f) := rfl
  unfold isInput
  rw [hblocks, List.all_map]
  exact congrArg c.blocks.all (funext (Block.isInput_mapHandles f))

/-- A chain of input blocks is copied to its end. -/
theorem copyPrefix_of_isInput (f : Handle → Handle) {bs : List Block}
    (hbs : ∀ b ∈ bs, b.isInput = true) :
    copyPrefix f bs = (bs.map (Block.mapHandles f), []) := by
  induction bs with
  | nil => rfl
  | cons b rest ih =>
    rw [copyPrefix, Block.copy?_of_isInput f (hbs b List.mem_cons_self),
      ih fun b' hb' => hbs b' (List.mem_cons_of_mem _ hb')]
    rfl

/-- The copy of a chain reads as the chain with the real handles. -/
theorem flat_copy {w : Wrapper} {a b : Handle → Handle} {c : Chain} (hc : c.isInput = true)
    (h : ∀ n ∈ c.handles, w.unwrap (a n) = b n) :
    (copy w (c.mapHandles a).blocks).value.flat = c.mapHandles b := by
  have hinputs : ∀ d ∈ c.blocks.map (Block.mapHandles a), d.isInput = true := by
    intro d hd
    obtain ⟨e, he, rfl⟩ := List.mem_map.1 hd
    rw [Block.isInput_mapHandles]
    exact List.all_eq_true.1 hc e he
  have hcopy : (copy w (c.mapHandles a).blocks).value
      = ⟨(c.blocks.map (Block.mapHandles a)).map (Block.mapHandles w.unwrap), []⟩ := by
    have hblocks : (c.mapHandles a).blocks = c.blocks.map (Block.mapHandles a) := rfl
    unfold copy
    rw [hblocks, copyPrefix_of_isInput _ hinputs]
  have hmapped : (c.blocks.map (Block.mapHandles a)).map (Block.mapHandles w.unwrap)
      = c.blocks.map (Block.mapHandles b) :=
    List.map_map_eq fun d hd => Block.mapHandles_mapHandles fun n hn =>
      h n (List.mem_flatMap.2 ⟨d, hd, hn⟩)
  rw [hcopy, hmapped]
  exact congrArg ofApp (List.append_nil _)

end Chain

/-! ### Descriptions of objects -/

/-- The binding with all its samplers replaced. -/
def Binding.mapAll (f : Handle → Handle) (b : Binding) : Binding :=
  { b with samplers := b.samplers.map (·.map f) }

/-- How a binding uses its samplers. -/
def Binding.use (b : Binding) : HandleUse :=
  if b.type = .sampler ∨ b.type = .combinedImageSampler then .wrapped else .ignored

/-- The samplers of a binding with their use. -/
def Binding.names (b : Binding) : List (HandleUse × Handle) :=
  b.use.of (b.samplers.getD [])

theorem Binding.mapHandles_mapAll {binding : Binding}
    (h : ∀ p ∈ binding.names, HandleUse.Agrees w t a b p) :
    (binding.mapAll a).mapHandles w.unwrap = binding.mapAll b := by
  have hagree := HandleUse.agrees_of (fun _ hp => hp) h
  have hmem : ∀ hs ∈ binding.samplers, ∀ n ∈ hs, n ∈ binding.samplers.getD [] := by
    intro hs hhs n hn
    rw [hhs]
    exact hn
  unfold Binding.use at hagree
  by_cases huse : binding.type = .sampler ∨ binding.type = .combinedImageSampler
  · -- the samplers are read, and every one of them is resolved
    rw [if_pos huse] at hagree
    have hsamplers : (binding.samplers.map (·.map a)).map (·.map w.unwrap)
        = binding.samplers.map (·.map b) :=
      Option.map_map_eq fun hs hhs => List.map_map_eq fun n hn => hagree n (hmem hs hhs n hn)
    have hmapped : (binding.mapAll a).mapHandles w.unwrap
        = { binding with samplers := (binding.samplers.map (·.map a)).map (·.map w.unwrap) } := by
      rcases binding with ⟨number, type, count, samplers⟩
      rcases huse with htype | htype <;> (obtain rfl := htype; rfl)
    rw [hmapped, hsamplers]
    rfl
  · -- the pointer is not followed, so that nothing is asked of the samplers
    rw [if_neg huse] at hagree
    have hsamplers : binding.samplers.map (·.map a) = binding.samplers.map (·.map b) :=
      Option.map_congr fun hs hhs => List.map_congr_left fun n hn =>
        HandleUse.agrees_ignored (hagree n (hmem hs hhs n hn))
    have hmapped : (binding.mapAll a).mapHandles w.unwrap = binding.mapAll a := by
      rcases binding with ⟨number, type, count, samplers⟩
      cases type with
      | sampler => exact absurd (.inl rfl) huse
      | combinedImageSampler => exact absurd (.inr rfl) huse
      | _ => rfl
    rw [hmapped]
    exact congrArg (fun s => { binding with samplers := s }) hsamplers

namespace CreateInfo

/-- The description with every handle replaced. -/
def mapHandles (f : Handle → Handle) : CreateInfo → CreateInfo
  | bufferView h => bufferView (f h)
  | image chain => image (chain.mapHandles f)
  | imageView h chain => imageView (f h) (chain.mapHandles f)
  | sampler chain => sampler (chain.mapHandles f)
  | shaderModule chain => shaderModule (chain.mapHandles f)
  | memory size chain => memory size (chain.mapHandles f)
  | descriptorSetLayout bindings => descriptorSetLayout (bindings.map (Binding.mapAll f))
  | updateTemplate type sets layout entries => updateTemplate type (f sets) (f layout) entries
  | framebuffer flags pass attachments => framebuffer flags (f pass) (attachments.map f)
  | pipelineLayout sets => pipelineLayout (sets.map f)
  | swapchain surface old => swapchain (f surface) (f old)
  | accelerationStructure h => accelerationStructure (f h)
  | info => info

/-- The handles of a description, with their uses. -/
def names : CreateInfo → List (HandleUse × Handle)
  | bufferView h => [(.wrapped, h)]
  | image chain => HandleUse.wrapped.of chain.handles
  | imageView h chain => (.wrapped, h) :: HandleUse.wrapped.of chain.handles
  | sampler chain => HandleUse.wrapped.of chain.handles
  | shaderModule chain => HandleUse.wrapped.of chain.handles
  | memory _ chain => HandleUse.wrapped.of chain.handles
  | descriptorSetLayout bindings => bindings.toList.flatMap Binding.names
  | updateTemplate type sets layout _ =>
    [(if type = .descriptorSet then .wrapped else .ignored, sets),
      (if type = .pushDescriptors then .wrapped else .ignored, layout)]
  | framebuffer flags pass attachments =>
    (.wrapped, pass) ::
      (if flags &&& imagelessFlag ≠ 0 then HandleUse.ignored else .wrapped).of
        attachments.toList
  | pipelineLayout sets => HandleUse.wrapped.of sets.toList
  | swapchain surface old => [(.wrapped, surface), (.wrapped, old)]
  | accelerationStructure h => [(.wrapped, h)]
  | _ => []

/-- Whether the chains of a description have input blocks only. -/
def isCovered : CreateInfo → Bool
  | image chain => chain.isInput
  | imageView _ chain => chain.isInput
  | sampler chain => chain.isInput
  | shaderModule chain => chain.isInput
  | memory _ chain => chain.isInput
  | _ => true

theorem isCovered_mapHandles (f : Handle → Handle) (info : CreateInfo) :
    (info.mapHandles f).isCovered = info.isCovered := by
  cases info with
  | image | imageView | sampler | shaderModule | memory => exact Chain.isInput_mapHandles f _
  | _ => rfl

/-- The description as it reads. -/
def flat : CreateInfo → CreateInfo
  | image chain => image chain.flat
  | imageView h chain => imageView h chain.flat
  | sampler chain => sampler chain.flat
  | shaderModule chain => shaderModule chain.flat
  | memory size chain => memory size chain.flat
  | info => info

/-- Every handle of a description is resolved. -/
theorem flat_resolve {info : CreateInfo} (hinfo : info.isCovered = true)
    (h : ∀ p ∈ info.names, HandleUse.Agrees w t a b p) :
    ((info.mapHandles a).resolve w).value.flat = (info.mapHandles b).flat := by
  have hfirst : ∀ {use : HandleUse} {n : Handle} {ns : List (HandleUse × Handle)},
      info.names = (use, n) :: ns → HandleUse.Agrees w t a b (use, n) :=
    fun hnames => h _ (hnames ▸ List.mem_cons_self)
  have hchain : ∀ {chain : Chain}, chain.isInput = true →
      (∀ p ∈ HandleUse.wrapped.of chain.handles, p ∈ info.names) →
      (Chain.copy w (chain.mapHandles a).blocks).value.flat = (chain.mapHandles b).flat :=
    fun hinput hsub => Chain.flat_copy hinput (HandleUse.agrees_of hsub h)
  cases info with
  | bufferView n => exact congrArg bufferView (hfirst rfl)
  | image chain => exact congrArg image (hchain hinfo fun _ hp => hp)
  | imageView n chain =>
    have hrest := hchain hinfo fun _ hp => List.mem_cons_of_mem _ hp
    show imageView (w.unwrap (a n)) _ = imageView (b n) _
    rw [hfirst rfl]
    exact congrArg (imageView (b n)) hrest
  | sampler chain => exact congrArg sampler (hchain hinfo fun _ hp => hp)
  | shaderModule chain => exact congrArg shaderModule (hchain hinfo fun _ hp => hp)
  | memory size chain => exact congrArg (memory size) (hchain hinfo fun _ hp => hp)
  | descriptorSetLayout bindings =>
    refine congrArg descriptorSetLayout (AppArray.map_map_eq fun binding hmem => ?_)
    exact Binding.mapHandles_mapAll fun p hp => h p (List.mem_flatMap.2 ⟨binding, hmem, hp⟩)
  | updateTemplate type sets layout entries =>
    have hsets := HandleUse.agrees_ite (hfirst rfl)
    have hlayout := HandleUse.agrees_ite (h _ (List.mem_cons_of_mem _ List.mem_cons_self))
    show updateTemplate type _ _ entries = updateTemplate type (b sets) (b layout) entries
    rw [← hsets, ← hlayout]
  | framebuffer flags pass attachments =>
    have hpass : w.unwrap (a pass) = b pass := hfirst rfl
    have hattachments : (if flags &&& imagelessFlag ≠ 0 then attachments.map a
        else (attachments.map a).map w.unwrap) = attachments.map b := by
      -- the attachments of an imageless framebuffer are ignored
      have hagree := HandleUse.agrees_of (fun _ hp => List.mem_cons_of_mem _ hp) h
      by_cases himageless : flags &&& imagelessFlag ≠ 0
      · rw [if_pos himageless] at hagree ⊢
        exact AppArray.map_congr fun n hn => HandleUse.agrees_ignored (hagree n hn)
      · rw [if_neg himageless] at hagree ⊢
        exact AppArray.map_map_eq hagree
    show framebuffer flags _ _ = framebuffer flags (b pass) (attachments.map b)
    rw [← hpass, ← hattachments]
  | pipelineLayout sets =>
    exact congrArg pipelineLayout (AppArray.map_map_eq (HandleUse.agrees_of (fun _ hp => hp) h))
  | swapchain surface old =>
    have hold := h _ (List.mem_cons_of_mem _ List.mem_cons_self)
    show swapchain (w.unwrap (a surface)) (w.unwrap (a old)) = swapchain (b surface) (b old)
    rw [hfirst rfl, hold]
  | accelerationStructure n => exact congrArg accelerationStructure (hfirst rfl)
  | _ => rfl

end CreateInfo

/-! ### Descriptors -/

namespace DescriptorWrite

/-- The write with every handle replaced, in all three arrays. -/
def mapHandles (f : Handle → Handle) (d : DescriptorWrite) : DescriptorWrite :=
  { d with
    set := f d.set
    images := d.images.map (·.map (ImageInfo.mapHandles f))
    buffers := d.buffers.map (·.map (BufferInfo.mapHandles f))
    views := d.views.map (·.map f)
    chain := d.chain.mapHandles f }

/-- How a write uses the array of one kind of payload. -/
def use (kind : SlotKind) (d : DescriptorWrite) : HandleUse :=
  if (SlotKind.of d.type d.count).toOption = some kind then .wrapped else .ignored

/-- The handles of a write, with their uses. -/
def names (d : DescriptorWrite) : List (HandleUse × Handle) :=
  (.wrapped, d.set) ::
    (HandleUse.wrapped.of d.chain.handles ++
      ((d.use .image).of ((d.images.getD []).flatMap fun i => [i.sampler, i.view]) ++
        ((d.use .buffer).of ((d.buffers.getD []).map BufferInfo.buffer) ++
          (d.use .texelBufferView).of (d.views.getD []))))

/-- Whether the payload of a write is known and its chain has input blocks only. -/
def isCovered (d : DescriptorWrite) : Bool :=
  (SlotKind.of d.type d.count).toOption.isSome && d.chain.isInput

theorem isCovered_mapHandles (f : Handle → Handle) (d : DescriptorWrite) :
    (d.mapHandles f).isCovered = d.isCovered :=
  congrArg ((SlotKind.of d.type d.count).toOption.isSome && ·) (Chain.isInput_mapHandles f d.chain)

/-- The write as it reads. -/
def flat (d : DescriptorWrite) : DescriptorWrite := { d with chain := d.chain.flat }

/-- Exactly the array that belongs to the type is resolved. -/
theorem mapPayload_eq (f : Handle → Handle) (d : DescriptorWrite) :
    d.mapPayload f =
      { d with
        images := if d.use .image = .wrapped then
          d.images.map (·.map (ImageInfo.mapHandles f)) else d.images
        buffers := if d.use .buffer = .wrapped then
          d.buffers.map (·.map (BufferInfo.mapHandles f)) else d.buffers
        views := if d.use .texelBufferView = .wrapped then d.views.map (·.map f)
          else d.views } := by
  unfold mapPayload use
  cases SlotKind.of d.type d.count with
  | error e => rfl
  | ok kind => cases kind <;> rfl

/-- An array of payloads, resolved if it is used and ignored otherwise. -/
theorem resolve_payload {α : Type} {use : HandleUse} {payloads : Option (List α)}
    {f g k : α → α}
    (hused : use = .wrapped → ∀ x ∈ payloads.getD [], g (f x) = k x)
    (hignored : use ≠ .wrapped → ∀ x ∈ payloads.getD [], f x = k x) :
    (if use = .wrapped then (payloads.map (·.map f)).map (·.map g) else payloads.map (·.map f))
      = payloads.map (·.map k) := by
  cases payloads with
  | none => split <;> rfl
  | some xs =>
    by_cases huse : use = .wrapped
    · rw [if_pos huse]
      exact congrArg some (List.map_map_eq (hused huse))
    · rw [if_neg huse]
      exact congrArg some (List.map_congr_left (hignored huse))

/-- The handles in the array of one kind of payload: they are resolved if the array is
used, and null otherwise. -/
theorem agrees_use {d : DescriptorWrite} {kind : SlotKind} {hs : List Handle}
    (h : ∀ p ∈ d.names, HandleUse.Agrees w t a b p)
    (hsub : ∀ p ∈ (d.use kind).of hs, p ∈ d.names) :
    (d.use kind = .wrapped → ∀ n ∈ hs, w.unwrap (a n) = b n) ∧
      (d.use kind ≠ .wrapped → ∀ n ∈ hs, a n = b n) := by
  constructor
  · intro huse
    rw [huse] at hsub
    exact HandleUse.agrees_of hsub h
  · intro huse
    have hignored : d.use kind = .ignored := by
      unfold use at huse ⊢
      split
      · next hc => exact absurd (if_pos hc) huse
      · rfl
    rw [hignored] at hsub
    exact fun n hn => HandleUse.agrees_ignored (HandleUse.agrees_of hsub h n hn)

theorem resolve_images {d : DescriptorWrite} (h : ∀ p ∈ d.names, HandleUse.Agrees w t a b p) :
    (if d.use .image = .wrapped then
        (d.images.map (·.map (ImageInfo.mapHandles a))).map (·.map (ImageInfo.mapHandles w.unwrap))
      else d.images.map (·.map (ImageInfo.mapHandles a)))
        = d.images.map (·.map (ImageInfo.mapHandles b)) := by
  have hsub : ∀ p ∈ (d.use .image).of ((d.images.getD []).flatMap fun i => [i.sampler, i.view]),
      p ∈ d.names :=
    fun _ hp => List.mem_cons_of_mem _ (List.mem_append_right _ (List.mem_append_left _ hp))
  obtain ⟨hused, hignored⟩ := agrees_use h hsub
  have hsampler : ∀ i ∈ d.images.getD [],
      i.sampler ∈ (d.images.getD []).flatMap fun i => [i.sampler, i.view] :=
    fun i hi => List.mem_flatMap.2 ⟨i, hi, List.mem_cons_self⟩
  have hview : ∀ i ∈ d.images.getD [],
      i.view ∈ (d.images.getD []).flatMap fun i => [i.sampler, i.view] :=
    fun i hi => List.mem_flatMap.2 ⟨i, hi, List.mem_cons_of_mem _ List.mem_cons_self⟩
  refine resolve_payload (fun huse i hi => ?_) fun huse i hi => ?_
  · show ImageInfo.mk (w.unwrap (a i.sampler)) (w.unwrap (a i.view)) i.layout = _
    rw [hused huse _ (hsampler i hi), hused huse _ (hview i hi)]
    rfl
  · show ImageInfo.mk (a i.sampler) (a i.view) i.layout = _
    rw [hignored huse _ (hsampler i hi), hignored huse _ (hview i hi)]
    rfl

theorem resolve_buffers {d : DescriptorWrite} (h : ∀ p ∈ d.names, HandleUse.Agrees w t a b p) :
    (if d.use .buffer = .wrapped then
        (d.buffers.map (·.map (BufferInfo.mapHandles a))).map
          (·.map (BufferInfo.mapHandles w.unwrap))
      else d.buffers.map (·.map (BufferInfo.mapHandles a)))
        = d.buffers.map (·.map (BufferInfo.mapHandles b)) := by
  have hsub : ∀ p ∈ (d.use .buffer).of ((d.buffers.getD []).map BufferInfo.buffer),
      p ∈ d.names :=
    fun _ hp => List.mem_cons_of_mem _ (List.mem_append_right _ (List.mem_append_right _
      (List.mem_append_left _ hp)))
  obtain ⟨hused, hignored⟩ := agrees_use h hsub
  have hmem : ∀ i ∈ d.buffers.getD [], i.buffer ∈ (d.buffers.getD []).map BufferInfo.buffer :=
    fun i hi => List.mem_map.2 ⟨i, hi, rfl⟩
  refine resolve_payload (fun huse i hi => ?_) fun huse i hi => ?_
  · exact congrArg (fun n => { i with buffer := n }) (hused huse _ (hmem i hi))
  · exact congrArg (fun n => { i with buffer := n }) (hignored huse _ (hmem i hi))

theorem resolve_views {d : DescriptorWrite} (h : ∀ p ∈ d.names, HandleUse.Agrees w t a b p) :
    (if d.use .texelBufferView = .wrapped then
        (d.views.map (·.map a)).map (·.map w.unwrap) else d.views.map (·.map a))
        = d.views.map (·.map b) := by
  have hsub : ∀ p ∈ (d.use .texelBufferView).of (d.views.getD []), p ∈ d.names :=
    fun _ hp => List.mem_cons_of_mem _ (List.mem_append_right _ (List.mem_append_right _
      (List.mem_append_right _ hp)))
  obtain ⟨hused, hignored⟩ := agrees_use h hsub
  exact resolve_payload hused hignored

/-- Every handle of a write is resolved. -/
theorem flat_resolve {d : DescriptorWrite} (hd : d.isCovered = true)
    (h : ∀ p ∈ d.names, HandleUse.Agrees w t a b p) :
    ((d.mapHandles a).resolve w).value.flat = (d.mapHandles b).flat := by
  have hset : w.unwrap (a d.set) = b d.set := h _ List.mem_cons_self
  have hchain : (Chain.copy w (d.chain.mapHandles a).blocks).value.flat
      = (d.chain.mapHandles b).flat :=
    Chain.flat_copy (Bool.and_eq_true_iff.1 hd).2
      (HandleUse.agrees_of (fun _ hp => List.mem_cons_of_mem _ (List.mem_append_left _ hp)) h)
  have hvalue : ((d.mapHandles a).resolve w).value.flat
      = { (d.mapHandles a).mapPayload w.unwrap with
          set := w.unwrap (a d.set)
          chain := (Chain.copy w (d.chain.mapHandles a).blocks).value.flat } := rfl
  have harrays : ∀ {images images' : Option (List ImageInfo)}
      {buffers buffers' : Option (List BufferInfo)} {views views' : Option (List Handle)},
      images = images' → buffers = buffers' → views = views' →
      { d with set := b d.set, images, buffers, views, chain := (d.chain.mapHandles b).flat }
        = { d with
            set := b d.set
            images := images'
            buffers := buffers'
            views := views'
            chain := (d.chain.mapHandles b).flat } := by
    rintro images _ buffers _ views _ rfl rfl rfl
    rfl
  rw [hvalue, mapPayload_eq, hset, hchain]
  exact harrays (resolve_images h) (resolve_buffers h) (resolve_views h)

end DescriptorWrite

/-- The handles of a copy between sets. -/
def DescriptorCopy.handles (c : DescriptorCopy) : List Handle := [c.src, c.dst]

/-- Replacing handles twice. -/
theorem DescriptorCopy.mapHandles_mapHandles {f g k : Handle → Handle} {c : DescriptorCopy}
    (h : ∀ n ∈ c.handles, g (f n) = k n) : (c.mapHandles f).mapHandles g = c.mapHandles k := by
  show DescriptorCopy.mk (g (f c.src)) (g (f c.dst)) c.count = _
  rw [h c.src List.mem_cons_self, h c.dst (List.mem_cons_of_mem _ List.mem_cons_self)]
  rfl

/-! ### Presentations -/

namespace PresentInfo

/-- The presentation with every handle replaced. -/
def mapHandles (f : Handle → Handle) (p : PresentInfo) : PresentInfo :=
  { p with wait := p.wait.map f, swapchains := p.swapchains.map f, chain := p.chain.mapHandles f }

/-- The handles of a presentation. -/
def handles (p : PresentInfo) : List Handle :=
  p.wait.toList ++ (p.swapchains.toList ++ p.chain.handles)

/-- The presentation as it reads. -/
def flat (p : PresentInfo) : PresentInfo := { p with chain := p.chain.flat }

/-- Every handle of a presentation is resolved. -/
theorem flat_resolve {p : PresentInfo} (hp : p.chain.isInput = true)
    (h : ∀ n ∈ p.handles, w.unwrap (a n) = b n) :
    ((p.mapHandles a).resolve w).value.flat = (p.mapHandles b).flat := by
  have hwait : (p.wait.map a).map w.unwrap = p.wait.map b :=
    AppArray.map_map_eq fun n hn => h n (List.mem_append_left _ hn)
  have hswapchains : (p.swapchains.map a).map w.unwrap = p.swapchains.map b :=
    AppArray.map_map_eq fun n hn => h n (List.mem_append_right _ (List.mem_append_left _ hn))
  have hchain : (Chain.copy w (p.chain.mapHandles a).blocks).value.flat
      = (p.chain.mapHandles b).flat :=
    Chain.flat_copy hp fun n hn => h n (List.mem_append_right _ (List.mem_append_right _ hn))
  have hvalue : ((p.mapHandles a).resolve w).value.flat
      = { p with
          wait := (p.wait.map a).map w.unwrap
          swapchains := (p.swapchains.map a).map w.unwrap
          chain := (Chain.copy w (p.chain.mapHandles a).blocks).value.flat } := rfl
  rw [hvalue, hwait, hswapchains, hchain]
  rfl

end PresentInfo

/-! ### Inheritance -/

/-- The handles that a command buffer inherits. -/
def Inheritance.handles (i : Inheritance) : List Handle := [i.renderPass, i.framebuffer]

/-- What is inherited is resolved if it matters. -/
theorem Inheritance.map_resolve {secondary : Bool} {o : Option Inheritance}
    (h : ∀ n ∈ o.toList.flatMap Inheritance.handles,
      (if secondary then w.unwrap (a n) else a n) = b n) :
    (if secondary then (o.map (mapHandles a)).map (mapHandles w.unwrap) else o.map (mapHandles a))
      = o.map (mapHandles b) := by
  cases o with
  | none => exact ite_self _
  | some i =>
    have hsecond : i.framebuffer ∈ (some i).toList.flatMap handles :=
      List.mem_cons_of_mem _ List.mem_cons_self
    cases secondary with
    | true =>
      have hpass : w.unwrap (a i.renderPass) = b i.renderPass := h _ List.mem_cons_self
      have hframe : w.unwrap (a i.framebuffer) = b i.framebuffer := h _ hsecond
      show some (Inheritance.mk (w.unwrap (a i.renderPass)) (w.unwrap (a i.framebuffer))
        i.subpass) = _
      rw [hpass, hframe]
      rfl
    | false =>
      have hpass : a i.renderPass = b i.renderPass := h _ List.mem_cons_self
      have hframe : a i.framebuffer = b i.framebuffer := h _ hsecond
      show some (Inheritance.mk (a i.renderPass) (a i.framebuffer) i.subpass) = _
      rw [hpass, hframe]
      rfl

/-! ### Requests -/

namespace DeviceRequest

/-- Whether a request is one of those that are followed here: its chains have input blocks
of known layout only, and the payloads of its writes are known. -/
def isCovered : DeviceRequest → Bool
  | create info => info.isCovered
  | destroy .. => true
  | releaseConfiguration _ => true
  | resetDescriptorPool .. => true
  | allocateSets .. => true
  | freeSets .. => true
  | updateSets writes _ => writes.toList.all DescriptorWrite.isCovered
  | beginRenderPass _ _ _ _ chain => chain.isInput
  | allocateCommandBuffers .. => true
  | freeCommandBuffers .. => true
  | beginCommandBuffer .. => true
  | getSwapchainImages _ => true
  | acquireNextImage .. => true
  | present _ info => info.chain.isInput
  | labelObject .. => true
  | _ => false

/-- The request with every handle replaced. -/
def mapHandles (f : Handle → Handle) : DeviceRequest → DeviceRequest
  | create info => create (info.mapHandles f)
  | destroy kind h => destroy kind (f h)
  | releaseConfiguration h => releaseConfiguration (f h)
  | resetDescriptorPool pool flags => resetDescriptorPool (f pool) flags
  | allocateSets pool layouts => allocateSets (f pool) (layouts.map f)
  | freeSets pool sets => freeSets (f pool) (sets.map f)
  | updateSets writes copies =>
    updateSets (writes.map (DescriptorWrite.mapHandles f))
      (copies.map (DescriptorCopy.mapHandles f))
  | beginRenderPass commandBuffer renderPass framebuffer contents chain =>
    beginRenderPass (f commandBuffer) (f renderPass) (f framebuffer) contents
      (chain.mapHandles f)
  | allocateCommandBuffers pool level count => allocateCommandBuffers (f pool) level count
  | freeCommandBuffers pool buffers => freeCommandBuffers (f pool) (buffers.map f)
  | beginCommandBuffer commandBuffer flags inheritance =>
    beginCommandBuffer (f commandBuffer) flags (inheritance.map (Inheritance.mapHandles f))
  | getSwapchainImages swapchain => getSwapchainImages (f swapchain)
  | acquireNextImage swapchain timeout semaphore fence =>
    acquireNextImage (f swapchain) timeout (f semaphore) (f fence)
  | present queue info => present (f queue) (info.mapHandles f)
  | labelObject extension type object label => labelObject extension type (f object) label
  | r => r

/-- The handles of a request, with their uses. -/
def names : DeviceRequest → List (HandleUse × Handle)
  | create info => info.names
  | destroy _ h => [(.wrapped, h)]
  | releaseConfiguration h => [(.wrapped, h)]
  | resetDescriptorPool pool _ => [(.wrapped, pool)]
  | allocateSets pool layouts => (.owner, pool) :: HandleUse.wrapped.of layouts.toList
  | freeSets pool sets => (.wrapped, pool) :: HandleUse.wrapped.of sets.toList
  | updateSets writes copies =>
    writes.toList.flatMap DescriptorWrite.names ++
      HandleUse.wrapped.of (copies.toList.flatMap DescriptorCopy.handles)
  | beginRenderPass commandBuffer renderPass framebuffer _ chain =>
    (.commandBuffer, commandBuffer) ::
      HandleUse.wrapped.of (renderPass :: framebuffer :: chain.handles)
  | allocateCommandBuffers pool _ _ => [(.owner, pool)]
  | freeCommandBuffers pool buffers =>
    (.wrapped, pool) :: HandleUse.commandBuffer.of buffers.toList
  | beginCommandBuffer commandBuffer _ inheritance =>
    (.commandBuffer, commandBuffer) ::
      (HandleUse.inherited commandBuffer).of
        (inheritance.toList.flatMap Inheritance.handles)
  | getSwapchainImages swapchain => [(.owner, swapchain)]
  | acquireNextImage swapchain _ semaphore fence =>
    HandleUse.wrapped.of [swapchain, semaphore, fence]
  | present queue info => (.dispatchable, queue) :: HandleUse.wrapped.of info.handles
  | labelObject _ _ object _ => [(.labelled, object)]
  | _ => []

theorem isCovered_mapHandles (f : Handle → Handle) (r : DeviceRequest) :
    (r.mapHandles f).isCovered = r.isCovered := by
  cases r with
  | create info => exact info.isCovered_mapHandles f
  | updateSets writes copies =>
    show (writes.map _).toList.all _ = writes.toList.all _
    rw [AppArray.toList_map, List.all_map]
    exact congrArg writes.toList.all (funext (DescriptorWrite.isCovered_mapHandles f))
  | beginRenderPass => exact Chain.isInput_mapHandles f _
  | present => exact Chain.isInput_mapHandles f _
  | _ => rfl

theorem command_mapHandles (f : Handle → Handle) (r : DeviceRequest) :
    (r.mapHandles f).command = r.command := by
  cases r with
  | create info => cases info <;> rfl
  | labelObject extension type object label => cases extension <;> cases label <;> rfl
  | _ => rfl

/-- The request as it reads. -/
def flat : DeviceRequest → DeviceRequest
  | create info => create info.flat
  | updateSets writes copies => updateSets (writes.map DescriptorWrite.flat) copies
  | beginRenderPass commandBuffer renderPass framebuffer contents chain =>
    beginRenderPass commandBuffer renderPass framebuffer contents chain.flat
  | present queue info => present queue info.flat
  | r => r

/-- **Resolving a request resolves every handle in it** as its use demands. -/
theorem flat_resolveWrapped {r : DeviceRequest} (hr : r.isCovered = true)
    (h : ∀ p ∈ r.names, HandleUse.Agrees w t a b p) :
    ((r.mapHandles a).resolveWrapped w t).value.flat = (r.mapHandles b).flat := by
  have hfirst : ∀ {use : HandleUse} {n : Handle} {ns : List (HandleUse × Handle)},
      r.names = (use, n) :: ns → HandleUse.Agrees w t a b (use, n) :=
    fun hnames => h _ (hnames ▸ List.mem_cons_self)
  have hrest : ∀ {use use' : HandleUse} {n : Handle} {hs : List Handle},
      r.names = (use, n) :: use'.of hs → ∀ m ∈ hs, HandleUse.Agrees w t a b (use', m) :=
    fun hnames => HandleUse.agrees_of (fun p hp => hnames ▸ List.mem_cons_of_mem _ hp) h
  cases r with
  | create info => exact congrArg create (CreateInfo.flat_resolve hr h)
  | destroy kind n => exact congrArg (destroy kind) (hfirst rfl)
  | releaseConfiguration n => exact congrArg releaseConfiguration (hfirst rfl)
  | resetDescriptorPool pool flags =>
    exact congrArg (resetDescriptorPool · flags) (hfirst rfl)
  | allocateSets pool layouts =>
    have hpool : w.unwrap (a pool) = b pool := hfirst rfl
    have hlayouts : (layouts.map a).map w.unwrap = layouts.map b :=
      AppArray.map_map_eq (hrest rfl)
    show allocateSets (w.unwrap (a pool)) ((layouts.map a).map w.unwrap) = _
    rw [hpool, hlayouts]
    rfl
  | freeSets pool sets =>
    have hpool : w.unwrap (a pool) = b pool := hfirst rfl
    have hsets : (sets.map a).map w.unwrap = sets.map b := AppArray.map_map_eq (hrest rfl)
    show freeSets (w.unwrap (a pool)) ((sets.map a).map w.unwrap) = _
    rw [hpool, hsets]
    rfl
  | updateSets writes copies =>
    have hwrites : ((resolveArray (DescriptorWrite.resolve w)
        (writes.map (DescriptorWrite.mapHandles a))).value).map DescriptorWrite.flat
        = writes.map fun d => (d.mapHandles b).flat := by
      refine AppArray.map_value_resolveArray fun d hd => ?_
      exact DescriptorWrite.flat_resolve (List.all_eq_true.1 hr d hd)
        fun p hp => h p (List.mem_append_left _ (List.mem_flatMap.2 ⟨d, hd, hp⟩))
    have hcopies : (copies.map (DescriptorCopy.mapHandles a)).map
        (DescriptorCopy.mapHandles w.unwrap) = copies.map (DescriptorCopy.mapHandles b) := by
      have hagree : ∀ m ∈ copies.toList.flatMap DescriptorCopy.handles, w.unwrap (a m) = b m :=
        HandleUse.agrees_of (fun _ hp => List.mem_append_right _ hp) h
      refine AppArray.map_map_eq fun c hc => DescriptorCopy.mapHandles_mapHandles fun n hn => ?_
      exact hagree n (List.mem_flatMap.2 ⟨c, hc, hn⟩)
    have hflat : (writes.map (DescriptorWrite.mapHandles b)).map DescriptorWrite.flat
        = writes.map fun d => (d.mapHandles b).flat := AppArray.map_map_eq fun _ _ => rfl
    show updateSets _ _ = updateSets _ _
    rw [hcopies, hflat, ← hwrites]
  | beginRenderPass commandBuffer renderPass framebuffer contents chain =>
    have hbuffer : a commandBuffer = b commandBuffer := hfirst rfl
    have hagree : ∀ m ∈ renderPass :: framebuffer :: chain.handles, w.unwrap (a m) = b m :=
      hrest rfl
    have hchain : (Chain.copy w (chain.mapHandles a).blocks).value.flat
        = (chain.mapHandles b).flat :=
      Chain.flat_copy hr fun n hn => hagree n (List.mem_cons_of_mem _ (List.mem_cons_of_mem _ hn))
    show beginRenderPass (a commandBuffer) (w.unwrap (a renderPass)) (w.unwrap (a framebuffer))
      contents (Chain.copy w (chain.mapHandles a).blocks).value.flat = _
    rw [hbuffer, hagree renderPass List.mem_cons_self,
      hagree framebuffer (List.mem_cons_of_mem _ List.mem_cons_self), hchain]
    rfl
  | allocateCommandBuffers pool level count =>
    exact congrArg (allocateCommandBuffers · level count) (hfirst rfl)
  | freeCommandBuffers pool buffers =>
    have hpool : w.unwrap (a pool) = b pool := hfirst rfl
    have hbuffers : buffers.map a = buffers.map b := AppArray.map_congr (hrest rfl)
    show freeCommandBuffers (w.unwrap (a pool)) (buffers.map a) = _
    rw [hpool, hbuffers]
    rfl
  | beginCommandBuffer commandBuffer flags inheritance =>
    have hbuffer : a commandBuffer = b commandBuffer := hfirst rfl
    -- only a secondary command buffer inherits anything
    have hinherited : (if t.secondaries.contains (a commandBuffer) then
          (inheritance.map (Inheritance.mapHandles a)).map (Inheritance.mapHandles w.unwrap)
        else inheritance.map (Inheritance.mapHandles a))
          = inheritance.map (Inheritance.mapHandles b) := Inheritance.map_resolve (hrest rfl)
    show beginCommandBuffer (a commandBuffer) flags _ = beginCommandBuffer _ flags _
    rw [← hinherited, hbuffer]
  | getSwapchainImages swapchain => exact congrArg getSwapchainImages (hfirst rfl)
  | acquireNextImage swapchain timeout semaphore fence =>
    have hagree : ∀ m ∈ [swapchain, semaphore, fence], w.unwrap (a m) = b m :=
      HandleUse.agrees_of (fun _ hp => hp) h
    show acquireNextImage (w.unwrap (a swapchain)) timeout (w.unwrap (a semaphore))
      (w.unwrap (a fence)) = _
    rw [hagree swapchain List.mem_cons_self,
      hagree semaphore (List.mem_cons_of_mem _ List.mem_cons_self),
      hagree fence (List.mem_cons_of_mem _ (List.mem_cons_of_mem _ List.mem_cons_self))]
    rfl
  | present queue info =>
    have hqueue : a queue = b queue := hfirst rfl
    have hinfo : ((info.mapHandles a).resolve w).value.flat = (info.mapHandles b).flat :=
      PresentInfo.flat_resolve hr (hrest rfl)
    show present (a queue) ((info.mapHandles a).resolve w).value.flat = _
    rw [hqueue, hinfo]
    rfl
  | labelObject extension type object label =>
    exact congrArg (labelObject extension type · label) (hfirst rfl)
  -- the other requests are not covered
  | _ => exact absurd hr Bool.false_ne_true

end DeviceRequest

end HandleLayer
