import Mathlib.Data.List.Forall2
import HandleLayer.Proofs.Programs
import HandleLayer.Scripted

/-!
# What is in the copy of a chain

A block is taken apart into fields, so that what becomes of a handle, of an output and of
anything else is said once for each kind of field and not once for each structure.  The
copy of a chain is then determined by what the application passed and by the surrogates.

## Main definitions

* `Field`, `Block.members` — the pieces of data in a block, in the order of its members.
* `SurrogateMap.RealOf`, `Wrapper.Replaces` — the handle that takes the place of another one.
* `Field.IsCopy`, `Block.IsCopy`, `Chain.IsCopyOf` — what copies have to look like.

## Main results

* `Block.ext_members` — the type and the fields say all there is to a block.
* `Chain.copy_eq_iff` — the copy of a chain is the one that looks as it has to.
* `faithful_chain_copies` — **copies are faithful, and cut chains are logged.**
-/

namespace HandleLayer

variable {σ : Type}

/-! ### Fields -/

/-- A piece of data in a block. -/
inductive Field
  | half (value : UInt32)
  | word (value : UInt64)
  | words (values : List UInt64)
  | format (value : Int)
  | formats (values : AppArray Int)
  /-- A handle that is not wrapped. -/
  | bare (h : Handle)
  | handle (h : Handle)
  | handles (hs : AppArray Handle)
  /-- Groups of stages, each stage with a module. -/
  | groups (gs : AppArray ShaderGroup)
  | pipelineFeedback (storage : Option Feedback)
  | stageFeedback (storage : AppArray Feedback)
  /-- An exported Metal object. -/
  | exported (object : UInt64)
  deriving DecidableEq, Repr

namespace Block

/-- The fields behind the header of a block. -/
def members : Block → List Field
  | plain _ words => [.words words.toList]
  | rendering viewMask colors depth stencil =>
    [.half viewMask, .formats colors, .format depth, .format stencil]
  | library libraries => [.handles libraries]
  | shaderGroups groups pipelines => [.groups groups, .handles pipelines]
  | feedback pipeline stages => [.pipelineFeedback pipeline, .stageFeedback stages]
  | ycbcrConversion conversion => [.handle conversion]
  | validationCache cache => [.handle cache]
  | dedicatedMemory image buffer => [.handle image, .handle buffer]
  | dedicatedMemoryNv image buffer => [.handle image, .handle buffer]
  | writeStructures structures => [.handles structures]
  | writeStructuresNv structures => [.handles structures]
  | imageSwapchain swapchain => [.handle swapchain]
  | subpassShading renderPass subpass => [.handle renderPass, .half subpass]
  | pipelineLayout setLayouts => [.handles setLayouts]
  | frameBoundary frameId images buffers => [.word frameId, .handles images, .handles buffers]
  | presentFences fences => [.handles fences]
  | attachmentBegin attachments => [.handles attachments]
  | opacityMicromap base micromap => [.half base, .handle micromap]
  | displacementMicromap base micromap => [.half base, .handle micromap]
  | metalDevice out => [.exported out]
  | metalCommandQueue queue out => [.bare queue, .exported out]
  | metalBuffer memory out => [.handle memory, .exported out]
  | metalTexture image imageView bufferView out =>
    [.handle image, .handle imageView, .handle bufferView, .exported out]
  | metalSurface image out => [.handle image, .exported out]
  | metalSharedEvent semaphore event out => [.handle semaphore, .handle event, .exported out]
  | unknown _ => []

/-- The block of a type with these fields. -/
def ofMembers? (sType : Int) : List Field → Option Block
  | [] => some (.unknown sType)
  | [.words values] => (PlainType.ofCode? sType).bind fun type =>
    if h : values.length = type.words then some (.plain type ⟨values.toArray, h⟩) else none
  | [.half viewMask, .formats colors, .format depth, .format stencil] =>
    some (.rendering viewMask colors depth stencil)
  | [.groups groups, .handles pipelines] => some (.shaderGroups groups pipelines)
  | [.pipelineFeedback pipeline, .stageFeedback stages] => some (.feedback pipeline stages)
  | [.handles hs] =>
    if sType = 1000290000 then some (.library hs)
    else if sType = 1000150007 then some (.writeStructures hs)
    else if sType = 1000165007 then some (.writeStructuresNv hs)
    else if sType = 30 then some (.pipelineLayout hs)
    else if sType = 1000275001 then some (.presentFences hs)
    else some (.attachmentBegin hs)
  | [.handle h] =>
    if sType = 1000156001 then some (.ycbcrConversion h)
    else if sType = 1000160001 then some (.validationCache h)
    else some (.imageSwapchain h)
  | [.handle h, .handle h'] =>
    if sType = 1000127001 then some (.dedicatedMemory h h')
    else some (.dedicatedMemoryNv h h')
  | [.handle renderPass, .half subpass] => some (.subpassShading renderPass subpass)
  | [.word frameId, .handles images, .handles buffers] =>
    some (.frameBoundary frameId images buffers)
  | [.half base, .handle micromap] =>
    if sType = 1000396009 then some (.opacityMicromap base micromap)
    else some (.displacementMicromap base micromap)
  | [.exported out] => some (.metalDevice out)
  | [.bare queue, .exported out] => some (.metalCommandQueue queue out)
  | [.handle h, .exported out] =>
    if sType = 1000311004 then some (.metalBuffer h out) else some (.metalSurface h out)
  | [.handle image, .handle imageView, .handle bufferView, .exported out] =>
    some (.metalTexture image imageView bufferView out)
  | [.handle semaphore, .handle event, .exported out] =>
    some (.metalSharedEvent semaphore event out)
  | _ => none

theorem ofMembers?_members (b : Block) : ofMembers? b.sType b.members = some b := by
  cases b with
  | plain type words =>
    have hcode : PlainType.ofCode? type.code = some type := by cases type <;> rfl
    show (PlainType.ofCode? type.code).bind _ = _
    rw [hcode, Option.bind_some, dif_pos words.length_toList]
    rfl
  | _ => rfl

/-- **The type and the fields say all there is to a block.** -/
theorem ext_members {b b' : Block} (htype : b.sType = b'.sType)
    (hmembers : b.members = b'.members) : b = b' := by
  have h := ofMembers?_members b
  rw [htype, hmembers, ofMembers?_members b'] at h
  exact (Option.some.inj h).symm

end Block

/-! ### What copies look like -/

/-- The handle that takes the place of another one in a copy: null stays null, a live
surrogate gives way to the handle that it stands for, and any other handle to null. -/
inductive SurrogateMap.RealOf (m : SurrogateMap) : Handle → Handle → Prop
  | null : RealOf m 0 0
  | live {s real : Handle} (hs : s ≠ 0) (h : m.unwrap s = some real) : RealOf m s real
  | gone {s : Handle} (hs : s ≠ 0) (h : m.unwrap s = none) : RealOf m s 0

/-- What is put in the place of a handle stands in the map, unless it is null. -/
theorem SurrogateMap.RealOf.unwrap_eq {m : SurrogateMap} {s real : Handle} (h : m.RealOf s real)
    (hreal : real ≠ 0) : m.unwrap s = some real := by
  cases h with
  | live _ hlive => exact hlive
  | null | gone => exact absurd rfl hreal

/-- A live surrogate gives way to the handle that it stands for. -/
theorem SurrogateMap.RealOf.eq_of_unwrap {m : SurrogateMap} {s real real' : Handle}
    (h : m.RealOf s real) (hs : s ≠ 0) (hlive : m.unwrap s = some real') : real = real' := by
  cases h with
  | null => exact absurd rfl hs
  | live _ hlive' => exact Option.some.inj (hlive'.symm.trans hlive)
  | gone _ hgone => cases hgone.symm.trans hlive

/-- A handle that is not known gives way to null. -/
theorem SurrogateMap.RealOf.eq_zero_of_unwrap {m : SurrogateMap} {s real : Handle}
    (h : m.RealOf s real) (hgone : m.unwrap s = none) : real = 0 := by
  cases h with
  | null | gone => rfl
  | live _ hlive => cases hlive.symm.trans hgone

/-- Arrays whose pointers are both null beside the same count, or which both have
elements, related one by one. -/
inductive AppArray.Rel {α β : Type} (R : α → β → Prop) : AppArray α → AppArray β → Prop
  | null (count : Nat) : Rel R (.null count) (.null count)
  | elems {xs : List α} {ys : List β} (h : List.Forall₂ R xs ys) : Rel R (.elems xs) (.elems ys)

/-- The copy of a stage has the real module; all else is the same. -/
structure Stage.IsCopy (m : SurrogateMap) (s s' : Stage) : Prop where
  flags : s'.flags = s.flags
  module : m.RealOf s.module s'.module
  name : s'.name = s.name

/-- The copy of a group is made of the copies of its stages. -/
def ShaderGroup.IsCopy (m : SurrogateMap) (g g' : ShaderGroup) : Prop :=
  g.stages.Rel (Stage.IsCopy m) g'.stages

namespace Field

/-- Whether a field holds no handle that is wrapped and no storage for feedback. -/
def isData : Field → Bool
  | half _ | word _ | words _ | format _ | formats _ | bare _ | exported _ => true
  | handle _ | handles _ | groups _ | pipelineFeedback _ | stageFeedback _ => false

/-- What a field looks like in a copy.  Storage for feedback is the layer's own there, as
large as the application's, with nothing written into it. -/
inductive IsCopy (m : SurrogateMap) : Field → Field → Prop
  | data {x : Field} (h : x.isData = true) : IsCopy m x x
  | handle {h h' : Handle} (hreal : m.RealOf h h') : IsCopy m (handle h) (handle h')
  | handles {hs hs' : AppArray Handle} (hreal : hs.Rel m.RealOf hs') :
    IsCopy m (handles hs) (handles hs')
  | groups {gs gs' : AppArray ShaderGroup} (hcopy : gs.Rel (ShaderGroup.IsCopy m) gs') :
    IsCopy m (groups gs) (groups gs')
  | noPipelineFeedback : IsCopy m (pipelineFeedback none) (pipelineFeedback none)
  | pipelineFeedback (old : Feedback) :
    IsCopy m (pipelineFeedback (some old)) (pipelineFeedback (some .blank))
  | stageFeedback {old new : AppArray Feedback} (hblank : old.Rel (fun _ f => f = .blank) new) :
    IsCopy m (stageFeedback old) (stageFeedback new)

end Field

/-- The copy of a block has the type of the block and copies of its fields, in order. -/
structure Block.IsCopy (m : SurrogateMap) (b c : Block) : Prop where
  sType : c.sType = b.sType
  members : List.Forall₂ (Field.IsCopy m) b.members c.members

/-- The copy of a chain has copies of the blocks in front of the first one of unknown
layout, and the blocks of the application from there on. -/
def Chain.IsCopyOf (m : SurrogateMap) (app : List Block) (c : Chain) : Prop :=
  ∃ known : List Block, app = known ++ c.shared ∧ (∀ b ∈ known, b.isKnown = true) ∧
    (∀ b ∈ c.shared.head?, b.isKnown = false) ∧ List.Forall₂ (Block.IsCopy m) known c.copied

/-! ### Copies of fields -/

/-- A relation that is a function relates lists exactly by that function. -/
theorem forall₂_iff_eq_map {α β : Type} {R : α → β → Prop} {f : α → β}
    (h : ∀ x y, R x y ↔ y = f x) {xs : List α} {ys : List β} :
    List.Forall₂ R xs ys ↔ ys = xs.map f := by
  have hR : R = fun x y => f x = y := by
    funext x y
    exact propext ((h x y).trans eq_comm)
  rw [hR, ← List.forall₂_map_left_iff (R := (· = ·)) (f := f), List.forall₂_eq_eq_eq]
  exact eq_comm

/-- A relation that is a function relates arrays exactly by that function. -/
theorem AppArray.rel_iff_eq_map {α β : Type} {R : α → β → Prop} {f : α → β}
    (h : ∀ x y, R x y ↔ y = f x) {a : AppArray α} {b : AppArray β} :
    a.Rel R b ↔ b = a.map f := by
  constructor
  · intro hrel
    cases hrel with
    | null count => rfl
    | elems hxs => rw [(forall₂_iff_eq_map h).1 hxs, AppArray.map_elems]
  · intro heq
    subst heq
    cases a with
    | null count => exact .null count
    | elems xs => exact .elems ((forall₂_iff_eq_map h).2 rfl)

/-- Handles are replaced as the wrapper resolves them. -/
theorem realOf_iff {w : Wrapper} (hw : w.enabled = true) (h h' : Handle) :
    w.map.RealOf h h' ↔ h' = w.unwrap h := by
  by_cases hzero : h = 0
  · subst hzero
    rw [Wrapper.unwrap_zero]
    constructor
    · intro hreal
      cases hreal with
      | null => rfl
      | live hs _ => exact absurd rfl hs
      | gone hs _ => rfl
    · intro heq
      subst heq
      exact .null
  · have hresolve : w.unwrap h = (w.map.unwrap h).getD 0 := by
      simp [Wrapper.unwrap, Wrapper.passes, hw, hzero]
    rw [hresolve]
    constructor
    · intro hreal
      cases hreal with
      | null => exact absurd rfl hzero
      | live _ hlive => rw [hlive, Option.getD_some]
      | gone _ hgone => rw [hgone, Option.getD_none]
    · intro heq
      subst heq
      cases hunwrap : w.map.unwrap h with
      | none => exact .gone hzero hunwrap
      | some real => exact .live hzero hunwrap

theorem realOf_unwrap {w : Wrapper} (hw : w.enabled = true) (h : Handle) :
    w.map.RealOf h (w.unwrap h) :=
  (realOf_iff hw _ _).2 rfl

theorem AppArray.rel_unwrap {w : Wrapper} (hw : w.enabled = true) (hs : AppArray Handle) :
    hs.Rel w.map.RealOf (hs.map w.unwrap) :=
  (AppArray.rel_iff_eq_map (realOf_iff hw)).2 rfl

/-- What takes the place of a handle that goes down: the one that the map has for it while handles
are wrapped, and otherwise the handle itself. -/
def Wrapper.Replaces (w : Wrapper) (h real : Handle) : Prop :=
  if w.enabled = true then w.map.RealOf h real else real = h

theorem Wrapper.replaces_unwrap (w : Wrapper) (h : Handle) : w.Replaces h (w.unwrap h) := by
  unfold Replaces
  split
  · next henabled => exact realOf_unwrap henabled h
  · next hdisabled => simp [unwrap, passes, hdisabled]

theorem Wrapper.Replaces.realOf {w : Wrapper} {h real : Handle} (hr : w.Replaces h real)
    (hw : w.enabled = true) : w.map.RealOf h real := by
  unfold Replaces at hr
  rwa [if_pos hw] at hr

theorem Stage.isCopy_iff {w : Wrapper} (hw : w.enabled = true) (s s' : Stage) :
    s.IsCopy w.map s' ↔ s' = s.mapHandles w.unwrap := by
  obtain ⟨flags, module, name⟩ := s
  obtain ⟨flags', module', name'⟩ := s'
  constructor
  · rintro ⟨hflags, hmodule, hname⟩
    have hreal := (realOf_iff hw _ _).1 hmodule
    simp only at hflags hname hreal
    rw [hflags, hname, hreal]
    rfl
  · intro heq
    obtain ⟨rfl, rfl, rfl⟩ := Stage.mk.inj heq
    exact ⟨rfl, realOf_unwrap hw _, rfl⟩

theorem ShaderGroup.isCopy_iff {w : Wrapper} (hw : w.enabled = true) (g g' : ShaderGroup) :
    g.IsCopy w.map g' ↔ g' = ⟨g.stages.map (Stage.mapHandles w.unwrap)⟩ := by
  obtain ⟨stages⟩ := g
  obtain ⟨stages'⟩ := g'
  rw [ShaderGroup.mk.injEq]
  exact AppArray.rel_iff_eq_map (Stage.isCopy_iff hw)

/-- A field in the copy of a block, when handles are replaced by `f`. -/
def Field.copied (f : Handle → Handle) : Field → Field
  | handle h => handle (f h)
  | handles hs => handles (hs.map f)
  | groups gs => groups (gs.map fun g => ⟨g.stages.map (Stage.mapHandles f)⟩)
  | pipelineFeedback storage => pipelineFeedback (storage.map fun _ => .blank)
  | stageFeedback storage => stageFeedback (storage.map fun _ => .blank)
  | x => x

theorem Field.isCopy_copied {w : Wrapper} (hw : w.enabled = true) (x : Field) :
    x.IsCopy w.map (x.copied w.unwrap) := by
  cases x with
  | handle h => exact .handle (realOf_unwrap hw h)
  | handles hs => exact .handles (AppArray.rel_unwrap hw hs)
  | groups gs => exact .groups ((AppArray.rel_iff_eq_map (ShaderGroup.isCopy_iff hw)).2 rfl)
  | pipelineFeedback storage =>
    cases storage with
    | none => exact .noPipelineFeedback
    | some old => exact .pipelineFeedback old
  | stageFeedback storage =>
    exact .stageFeedback ((AppArray.rel_iff_eq_map (fun _ _ => Iff.rfl)).2 rfl)
  | _ => exact .data rfl

theorem Field.isCopy_iff {w : Wrapper} (hw : w.enabled = true) (x y : Field) :
    x.IsCopy w.map y ↔ y = x.copied w.unwrap := by
  constructor
  · intro hcopy
    cases hcopy with
    | data hdata => cases x <;> first | rfl | cases hdata
    | handle hreal => rw [(realOf_iff hw _ _).1 hreal]; rfl
    | handles hreal => rw [(AppArray.rel_iff_eq_map (realOf_iff hw)).1 hreal]; rfl
    | groups hgroups =>
      rw [(AppArray.rel_iff_eq_map (ShaderGroup.isCopy_iff hw)).1 hgroups]; rfl
    | noPipelineFeedback => rfl
    | pipelineFeedback old => rfl
    | stageFeedback hblank =>
      rw [(AppArray.rel_iff_eq_map (fun _ _ => Iff.rfl)).1 hblank]; rfl
  · intro heq
    exact heq ▸ isCopy_copied hw x

/-! ### Copies of blocks and chains -/

namespace Block

/-- The copy of a known block is copied field by field. -/
theorem exists_copy? (f : Handle → Handle) {b : Block} (hknown : b.isKnown = true) :
    ∃ c, b.copy? f = some c ∧ c.sType = b.sType ∧ c.members = b.members.map (Field.copied f) := by
  refine ⟨b.blankFeedback.mapHandles f, if_pos hknown, ?_, ?_⟩ <;> cases b <;> rfl

theorem copy?_of_unknown (f : Handle → Handle) {b : Block} (hunknown : b.isKnown = false) :
    b.copy? f = none := by
  rw [copy?, hunknown]
  rfl

/-- A known block has one copy. -/
theorem isCopy_iff {w : Wrapper} (hw : w.enabled = true) {b : Block}
    (hknown : b.isKnown = true) (c : Block) :
    b.IsCopy w.map c ↔ b.copy? w.unwrap = some c := by
  obtain ⟨c₀, hcopy, htype, hmembers⟩ := exists_copy? w.unwrap hknown
  rw [hcopy, Option.some.injEq]
  constructor
  · rintro ⟨htype', hmembers'⟩
    rw [forall₂_iff_eq_map (Field.isCopy_iff hw)] at hmembers'
    exact ext_members (htype.trans htype'.symm) (hmembers.trans hmembers'.symm)
  · rintro rfl
    exact ⟨htype, (forall₂_iff_eq_map (Field.isCopy_iff hw)).2 hmembers⟩

end Block

namespace Chain

/-- The copies end in front of the first block of unknown layout. -/
theorem copyPrefix_append {w : Wrapper} (hw : w.enabled = true) {known copies : List Block}
    (hknown : ∀ b ∈ known, b.isKnown = true)
    (hcopies : List.Forall₂ (Block.IsCopy w.map) known copies) {shared : List Block}
    (hshared : ∀ b ∈ shared.head?, b.isKnown = false) :
    copyPrefix w.unwrap (known ++ shared) = (copies, shared) := by
  induction hcopies with
  | nil =>
    cases shared with
    | nil => rfl
    | cons b rest =>
      rw [List.nil_append, copyPrefix, Block.copy?_of_unknown _ (hshared b rfl)]
  | @cons b c known copies hcopy _ ih =>
    have hb : b.isKnown = true := hknown b List.mem_cons_self
    have hrest := ih fun b' hb' => hknown b' (List.mem_cons_of_mem _ hb')
    rw [List.cons_append, copyPrefix, (Block.isCopy_iff hw hb c).1 hcopy, hrest]

/-- The blocks of known layout in front are copied. -/
theorem copied_copy (w : Wrapper) (app : List Block) :
    (copy w app).value.copied
      = (app.takeWhile Block.isKnown).map fun b => b.blankFeedback.mapHandles w.unwrap := by
  show (copyPrefix w.unwrap app).1 = _
  induction app with
  | nil => rfl
  | cons b rest ih =>
    rw [copyPrefix]
    cases hb : b.isKnown with
    | false => rw [Block.copy?_of_unknown _ hb, List.takeWhile_cons_of_neg (by simp [hb])]; rfl
    | true =>
      have hcopy : b.copy? w.unwrap = some (b.blankFeedback.mapHandles w.unwrap) := if_pos hb
      rw [hcopy, List.takeWhile_cons_of_pos hb, List.map_cons, ← ih]

/-- The block that goes down at a place: a copy if the layouts up to there are known, and else
the application's own block. -/
theorem getElem?_blocks_copy (w : Wrapper) (app : List Block) (i : Nat) :
    (copy w app).value.blocks[i]? = app[i]?.map fun b =>
      if (app.take (i + 1)).all Block.isKnown then b.blankFeedback.mapHandles w.unwrap else b := by
  show ((copyPrefix w.unwrap app).1 ++ (copyPrefix w.unwrap app).2)[i]? = _
  induction app generalizing i with
  | nil => rfl
  | cons b rest ih =>
    rw [copyPrefix, List.take_succ_cons, List.all_cons]
    cases hb : b.isKnown with
    | false =>
      rw [Block.copy?_of_unknown _ hb]
      simp
    | true =>
      have hcopy : b.copy? w.unwrap = some (b.blankFeedback.mapHandles w.unwrap) := if_pos hb
      rw [hcopy]
      cases i with
      | zero => rfl
      | succ i => exact ih i

/-- A block of known layout goes down as a copy if those in front of it are of known layout. -/
theorem getElem?_blocks_copy_of_isKnown (w : Wrapper) {app : List Block} {i : Nat} {b : Block}
    (hi : app[i]? = some b) (hb : b.isKnown = true) :
    (copy w app).value.blocks[i]? = some
      (if (app.take i).all Block.isKnown then b.blankFeedback.mapHandles w.unwrap else b) := by
  have htake : (app.take (i + 1)).all Block.isKnown = (app.take i).all Block.isKnown := by
    rw [List.take_add_one, hi, Option.toList_some, List.all_append, List.all_cons, hb,
      List.all_nil, Bool.and_self, Bool.and_true]
  rw [getElem?_blocks_copy, hi, Option.map_some, htake]

/-- The blocks that go down: copies of those of known layout in front, and then the others. -/
theorem blocks_copy (w : Wrapper) (app : List Block) :
    (copy w app).value.blocks
      = (app.takeWhile Block.isKnown).map (fun b => b.blankFeedback.mapHandles w.unwrap)
        ++ app.dropWhile Block.isKnown := by
  have hshared : app.drop (app.takeWhile Block.isKnown).length = app.dropWhile Block.isKnown := by
    have hsplit : app.takeWhile Block.isKnown ++ app.dropWhile Block.isKnown = app :=
      List.takeWhile_append_dropWhile
    exact (congrArg (List.drop _) hsplit).symm.trans List.drop_left
  rw [blocks, copy_shared, copied_copy, List.length_map, hshared]

/-- Every chain has known blocks in front, with their copies, and a rest that is empty or
begins with a block of unknown layout. -/
theorem exists_known (w : Wrapper) (hw : w.enabled = true) (app : List Block) :
    ∃ known copies shared : List Block, app = known ++ shared ∧
      (∀ b ∈ known, b.isKnown = true) ∧ (∀ b ∈ shared.head?, b.isKnown = false) ∧
      List.Forall₂ (Block.IsCopy w.map) known copies := by
  induction app with
  | nil => exact ⟨[], [], [], rfl, by simp, by simp, .nil⟩
  | cons b rest ih =>
    cases hb : b.isKnown with
    | false => exact ⟨[], [], b :: rest, rfl, by simp, by simpa using hb, .nil⟩
    | true =>
      obtain ⟨known, copies, shared, rfl, hknown, hshared, hcopies⟩ := ih
      obtain ⟨c, hcopy, -⟩ := Block.exists_copy? w.unwrap hb
      refine ⟨b :: known, c :: copies, shared, rfl, ?_, hshared, .cons ?_ hcopies⟩
      · intro b' hb'
        rcases List.mem_cons.1 hb' with rfl | hb'
        · exact hb
        · exact hknown b' hb'
      · exact (Block.isCopy_iff hw hb c).2 hcopy

/-- **The copy of a chain is the one that looks as it has to.** -/
theorem copy_eq_iff {w : Wrapper} (hw : w.enabled = true) (app : List Block) (c : Chain) :
    (copy w app).value = c ↔ c.IsCopyOf w.map app := by
  constructor
  · rintro rfl
    obtain ⟨known, copies, shared, rfl, hknown, hshared, hcopies⟩ := exists_known w hw app
    have hprefix := copyPrefix_append hw hknown hcopies hshared
    have hvalue : (copy w (known ++ shared)).value = ⟨copies, shared⟩ := by
      rw [copy, hprefix]
    rw [hvalue]
    exact ⟨known, rfl, hknown, hshared, hcopies⟩
  · obtain ⟨copies, shared⟩ := c
    rintro ⟨known, rfl, hknown, hshared, hcopies⟩
    rw [copy, copyPrefix_append hw hknown hcopies hshared]

/-- A chain is cut at its first block of unknown layout, and that is all there is to say
of a copy. -/
theorem notices_copy {w : Wrapper} (hw : w.enabled = true) (app : List Block) :
    (copy w app).notices
      = (app.find? fun b => !b.isKnown).toList.map fun b => .chainCut b.sType := by
  obtain ⟨known, copies, shared, rfl, hknown, hshared, hcopies⟩ := exists_known w hw app
  have hnone : known.find? (fun b => !b.isKnown) = none :=
    List.find?_eq_none.2 fun b hb => by simp [hknown b hb]
  have hnotices : (copy w (known ++ shared)).notices = cutNotice shared := by
    rw [copy, copyPrefix_append hw hknown hcopies hshared]
  rw [hnotices, List.find?_append, hnone, Option.none_or]
  cases shared with
  | nil => rfl
  | cons b rest =>
    have hb : b.isKnown = false := hshared b rfl
    rw [List.find?_cons_of_pos (by simp [hb])]
    rfl

/-- Nothing that is written into the copies reaches the application's blocks; those that
went down by reference hold what was written into them. -/
theorem appAfter_fill (w : Wrapper) (app : List Block) (ws : List BlockFill) :
    let c := (copy w app).value
    (c.fill ws).appAfter app
      = app.take c.copied.length
        ++ fillBlocks (app.drop c.copied.length) (ws.drop c.copied.length) := by
  intro c
  have hlength : (c.fill ws).copied.length = c.copied.length := length_fillBlocks c.copied ws
  have hshared : (c.fill ws).shared
      = fillBlocks (app.drop c.copied.length) (ws.drop c.copied.length) := by
    rw [← copy_shared w app]
    rfl
  rw [appAfter, hlength, hshared]

/-- The application's chain is not touched. -/
theorem appAfter_copy (w : Wrapper) (app : List Block) : (copy w app).value.appAfter app = app := by
  rw [appAfter, copy_shared, List.take_append_drop]

end Chain

/-- What the layer does when Metal objects are asked for: the cut of the chain is logged,
and then the call goes down with the copy. -/
theorem run_send_exportMetalObjects [NextLayer σ] {s : Layer Tracked σ}
    (hs : s.world.wrapper.enabled = true) (app : List Block) (room : Option Nat) :
    let copy := Chain.copy s.world.wrapper app
    let t := (Device.send (.exportMetalObjects (.ofApp app)) room).run s
    t.1.1 = .exportMetalObjects copy.value ∧ t.2.object = s.object ∧
      t.2.world.wrapper = s.world.wrapper ∧ t.2.world.memory = s.world.memory ∧
      t.2.world.trace = (s.world.see (copy.notices.map .notice ++
        if s.object.table.provides .exportMetalObjectsExt then
          [.call ⟨s.object.handle, .ofDevice (.exportMetalObjects copy.value), room⟩]
        else [])).trace := by
  intro copy t
  have hresolved : (DeviceRequest.exportMetalObjects (.ofApp app)).resolve s.world.wrapper
      s.object.own.toShadows = copy.map .exportMetalObjects :=
    DeviceRequest.resolve_of_enabled hs _ _
  have hrun : t = _ := Device.run_send _ room s
  rw [hrun]
  refine ⟨?_, Device.object_sent _ _ s, Device.wrapper_sent _ _ s, ?_, ?_⟩
  · show ((DeviceRequest.exportMetalObjects (.ofApp app)).resolve _ _).value = _
    rw [hresolved]
    rfl
  · unfold Device.sent Layer.ask
    dsimp only
    split <;> rfl
  · have hsent : Device.sent (.exportMetalObjects (.ofApp app)) room s
        = (s.see (copy.notices.map .notice)).ask
            (.ofDevice (.exportMetalObjects copy.value)) room := by
      unfold Device.sent
      rw [hresolved]
      rfl
    rw [hsent, ← World.see_see]
    unfold Layer.ask
    by_cases hprovides : s.object.table.provides .exportMetalObjectsExt = true
    · rw [if_pos hprovides]
      have hthere : (s.see (copy.notices.map .notice)).object.table.provides
          (Request.ofDevice (.exportMetalObjects copy.value)).command = true := hprovides
      rw [if_pos hthere]
      rfl
    · rw [if_neg hprovides, World.see_nil]
      have hmissing : ¬ (s.see (copy.notices.map .notice)).object.table.provides
          (Request.ofDevice (.exportMetalObjects copy.value)).command = true := hprovides
      rw [if_neg hmissing]
      rfl

/-- **Copies of chains are faithful.**  While handles are wrapped, the copy of a chain
consists of copies of the blocks in front of the first one of unknown layout, with the
real handles in them and all else as it was, and of the application's own blocks from
there on.

Neither making the copy nor writing into the copied blocks changes the application's
chain.  One error is logged if there is a block of unknown layout, naming the first one,
and nothing otherwise. -/
theorem faithful_chain_copies [NextLayer σ] {w : Wrapper} (hw : w.enabled = true)
    (app : List Block) :
    let copy := Chain.copy w app
    (∀ c : Chain, copy.value = c ↔ c.IsCopyOf w.map app) ∧
      copy.value.appAfter app = app ∧
      (∀ ws : List BlockFill,
        (copy.value.fill ws).appAfter app
          = app.take copy.value.copied.length ++
            Chain.fillBlocks (app.drop copy.value.copied.length)
              (ws.drop copy.value.copied.length)) ∧
      ((∀ b ∈ app, b.isKnown = true) → copy.notices = []) ∧
      (∀ b, app.find? (fun b => !b.isKnown) = some b →
        ∃ n, copy.notices = [n] ∧ n.level = .error ∧
          n.message = "unsupported structure in pNext chain: " ++ structureTypeName b.sType
            ++ "; forwarding the rest of the chain unchanged") ∧
      ∀ (s : Layer Tracked σ) (room : Option Nat), s.world.wrapper = w →
        let t := (Device.send (.exportMetalObjects (.ofApp app)) room).run s
        t.1.1 = .exportMetalObjects copy.value ∧ t.2.object = s.object ∧
          t.2.world.wrapper = w ∧ t.2.world.memory = s.world.memory ∧
          t.2.world.trace = (s.world.see (copy.notices.map .notice ++
            if s.object.table.provides .exportMetalObjectsExt then
              [.call ⟨s.object.handle, .ofDevice (.exportMetalObjects copy.value), room⟩]
            else [])).trace := by
  intro copy
  have hnotices := Chain.notices_copy hw app
  refine ⟨Chain.copy_eq_iff hw app, Chain.appAfter_copy w app, Chain.appAfter_fill w app,
    fun hknown => ?_, fun b hfound => ?_, fun s room hs => ?_⟩
  · have hnone : app.find? (fun b => !b.isKnown) = none :=
      List.find?_eq_none.2 fun b hb => by simp [hknown b hb]
    rw [hnotices, hnone]
    rfl
  · rw [hfound] at hnotices
    exact ⟨.chainCut b.sType, hnotices, rfl, rfl⟩
  · subst hs
    exact run_send_exportMetalObjects hw app room

/-- A chain with storage for feedback, with live and unknown handles, and with two blocks
behind one of unknown layout. -/
theorem faithful_copy_of_cut_chain :
    let w := ((Wrapper.new true).wrapNew 0xaa).2
    let s := ((Wrapper.new true).wrapNew 0xaa).1
    let app : List Block :=
      [.feedback (some ⟨1, 7⟩) (.null 3), .library (.elems [s, 0, 5]),
        .shaderGroups (.elems [⟨.elems [⟨1, s, none⟩]⟩]) (.null 2), .unknown 77,
        .library (.elems [s])]
    let c : Chain :=
      ⟨[.feedback (some .blank) (.null 3), .library (.elems [0xaa, 0, 0]),
          .shaderGroups (.elems [⟨.elems [⟨1, 0xaa, none⟩]⟩]) (.null 2)],
        [.unknown 77, .library (.elems [s])]⟩
    w.enabled = true ∧ c.IsCopyOf w.map app ∧
      ∃ n, (Chain.copy w app).notices = [n] ∧
        n.message = "unsupported structure in pNext chain: 77; forwarding the rest of the chain unchanged" := by
  intro w s app c
  have hw : w.enabled = true := by decide +kernel
  obtain ⟨hiff, -, -, -, hcut, -⟩ := faithful_chain_copies (σ := Scripted) hw app
  obtain ⟨n, hnotices, -, hmessage⟩ := hcut (.unknown 77) (by decide +kernel)
  refine ⟨hw, (hiff c).1 (by decide +kernel), n, hnotices, hmessage.trans ?_⟩
  decide +kernel

end HandleLayer
