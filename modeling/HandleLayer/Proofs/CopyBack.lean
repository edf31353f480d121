import HandleLayer.Proofs.ChainCopies
import HandleLayer.Proofs.Completion

/-!
# Copying outputs back

The next layer writes outputs into the copies that it got, and afterwards they are copied
back to the blocks of the application.  The two lists are walked side by side although the
application's may be longer; what has to be shown is that every output arrives in the block
whose copy it was written into, and that nothing else moves.

## Main definitions

* `Field.isOutput`, `Block.outputFields`, `Block.inputFields` — what the next layer may
  write, and everything else.
* `Field.Refilled`, `Block.Refilled` — fields and blocks with other outputs in them.

## Main results

* `Block.refilled_iff` — other outputs are what can be written into a block.
* `Block.copyBack_fill` — what copying back does to one block.
* `Device.chains_serve` — the chains of the application after a call that is not put off.
* `copied_back_outputs` — **copying back reaches the right block and nothing else.**
-/

namespace HandleLayer

variable {σ : Type}

/-! ### Outputs and inputs -/

namespace Field

/-- Whether the next layer may write into a field. -/
def isOutput : Field → Bool
  | pipelineFeedback _ | stageFeedback _ | exported _ => true
  | half _ | word _ | words _ | format _ | formats _ | bare _ | handle _ | handles _
  | groups _ => false

/-- A field with other outputs in it.  A null pointer stays null, and an array keeps its
length. -/
inductive Refilled : Field → Field → Prop
  | input {x : Field} (h : x.isOutput = false) : Refilled x x
  | noPipelineFeedback : Refilled (pipelineFeedback none) (pipelineFeedback none)
  | pipelineFeedback (old new : Feedback) :
    Refilled (pipelineFeedback (some old)) (pipelineFeedback (some new))
  | noStageFeedback (count : Nat) :
    Refilled (stageFeedback (.null count)) (stageFeedback (.null count))
  | stageFeedback {old new : List Feedback} (h : new.length = old.length) :
    Refilled (stageFeedback (.elems old)) (stageFeedback (.elems new))
  | exported (old new : UInt64) : Refilled (exported old) (exported new)

end Field

namespace Block

/-- The fields of a block that the next layer may write. -/
def outputFields (b : Block) : List Field := b.members.filter Field.isOutput

/-- The fields of a block that the next layer only reads. -/
def inputFields (b : Block) : List Field := b.members.filter fun x => !x.isOutput

/-- A block with other outputs in it. -/
structure Refilled (b b' : Block) : Prop where
  sType : b'.sType = b.sType
  members : List.Forall₂ Field.Refilled b.members b'.members

end Block

/-! ### Writing into one block -/

namespace Field

/-- A field after outputs were written into its block. -/
def put (w : BlockFill) : Field → Field
  | pipelineFeedback storage => pipelineFeedback (storage.map fun old => w.pipeline.getD old)
  | stageFeedback storage => stageFeedback (Block.fillStages storage w.stages)
  | exported object => exported (w.metal.getD object)
  | x => x

/-- Whether these outputs of a block are those that a field of it holds. -/
def HeldIn (w : BlockFill) : Field → Prop
  | pipelineFeedback storage => w.pipeline = storage
  | stageFeedback storage => w.stages = storage.toList.map some
  | exported object => w.metal = some object
  | _ => True

theorem put_of_input (w : BlockFill) {x : Field} (hx : x.isOutput = false) : x.put w = x := by
  cases x <;> first | rfl | cases hx

theorem refilled_put (w : BlockFill) (x : Field) : x.Refilled (x.put w) := by
  cases x with
  | pipelineFeedback storage =>
    cases storage with
    | none => exact .noPipelineFeedback
    | some old => exact .pipelineFeedback old _
  | stageFeedback storage =>
    cases storage with
    | null count => exact .noStageFeedback count
    | elems old => exact .stageFeedback (length_overlay old w.stages)
  | exported object => exact .exported object _
  | _ => exact .input rfl

theorem Refilled.refl (x : Field) : x.Refilled x := by
  cases x with
  | pipelineFeedback storage =>
    cases storage with
    | none => exact .noPipelineFeedback
    | some old => exact .pipelineFeedback old old
  | stageFeedback storage =>
    cases storage with
    | null count => exact .noStageFeedback count
    | elems old => exact .stageFeedback rfl
  | exported object => exact .exported object object
  | _ => exact .input rfl

theorem Refilled.isOutput_eq {x y : Field} (h : x.Refilled y) : y.isOutput = x.isOutput := by
  cases h <;> rfl

/-- An output stays one in a copy, and when it is written. -/
theorem isOutput_of_refilled {f : Handle → Handle} {x y : Field} (h : (x.copied f).Refilled y) :
    y.isOutput = x.isOutput := by
  have hcopied : (x.copied f).isOutput = x.isOutput := by cases x <;> rfl
  rw [← hcopied]
  exact h.isOutput_eq

/-- An output that was written into the copy of a field gets into the field itself. -/
theorem put_of_output {f : Handle → Handle} {x y : Field} {w : BlockFill}
    (h : (x.copied f).Refilled y) (hy : y.HeldIn w) (hx : x.isOutput = true) : x.put w = y := by
  cases x with
  | pipelineFeedback storage =>
    cases storage with
    | none =>
      cases h with
      | input hinput => cases hinput
      | noPipelineFeedback => rfl
    | some old =>
      cases h with
      | input hinput => cases hinput
      | pipelineFeedback blank new =>
        have hnew : w.pipeline = some new := hy
        show pipelineFeedback (some (w.pipeline.getD old)) = _
        rw [hnew, Option.getD_some]
  | stageFeedback storage =>
    cases storage with
    | null count =>
      cases h with
      | input hinput => cases hinput
      | noStageFeedback count => rfl
    | elems old =>
      cases h with
      | input hinput => cases hinput
      | @stageFeedback blank new hlength =>
        have hstages : w.stages = new.map some := hy
        -- the copy has as much storage as the application
        have hold : old.length = new.length := by
          rw [hlength, List.length_map]
        show stageFeedback (.elems (overlay old w.stages)) = _
        rw [hstages]
        exact congrArg (fun xs => stageFeedback (.elems xs)) (overwrite_of_length_eq hold)
  | exported object =>
    cases h with
    | input hinput => cases hinput
    | exported old new =>
      have hnew : w.metal = some new := hy
      show exported (w.metal.getD object) = _
      rw [hnew, Option.getD_some]
  | _ => cases hx

/-- Outputs written into the copies of fields get into the fields, and nothing else
changes. -/
theorem filter_map_put {f : Handle → Handle} {w : BlockFill} {xs ys : List Field}
    (h : List.Forall₂ (fun x y => (x.copied f).Refilled y) xs ys) (hheld : ∀ y ∈ ys, y.HeldIn w) :
    (xs.map (put w)).filter isOutput = ys.filter isOutput ∧
      (xs.map (put w)).filter (fun x => !x.isOutput) = xs.filter fun x => !x.isOutput := by
  induction h with
  | nil => exact ⟨rfl, rfl⟩
  | @cons x y xs ys hxy _ ih =>
    obtain ⟨houtputs, hinputs⟩ := ih fun y' hy' => hheld y' (List.mem_cons_of_mem _ hy')
    have hkind := isOutput_of_refilled hxy
    cases hx : x.isOutput with
    | true =>
      have hput : x.put w = y := put_of_output hxy (hheld y List.mem_cons_self) hx
      have hy : y.isOutput = true := hkind.trans hx
      rw [List.map_cons, hput, List.filter_cons_of_pos hy, List.filter_cons_of_pos hy, houtputs,
        List.filter_cons_of_neg (by simp [hy]), List.filter_cons_of_neg (by simp [hx]), hinputs]
      exact ⟨rfl, rfl⟩
    | false =>
      have hput : x.put w = x := put_of_input w hx
      have hy : y.isOutput = false := hkind.trans hx
      rw [List.map_cons, hput, List.filter_cons_of_neg (by simp [hx]),
        List.filter_cons_of_neg (by simp [hy]), houtputs,
        List.filter_cons_of_pos (by simp [hx]), List.filter_cons_of_pos (by simp [hx]), hinputs]
      exact ⟨rfl, rfl⟩

end Field

namespace Block

theorem sType_fill (w : BlockFill) (b : Block) : (b.fill w).sType = b.sType := by
  cases b <;> rfl

theorem members_fill (w : BlockFill) (b : Block) :
    (b.fill w).members = b.members.map (Field.put w) := by
  cases b <;> rfl

/-- Writing outputs leaves a block with other outputs. -/
theorem refilled_fill (w : BlockFill) (b : Block) : b.Refilled (b.fill w) := by
  refine ⟨sType_fill w b, ?_⟩
  rw [members_fill, List.forall₂_map_right_iff]
  exact List.forall₂_same.2 fun x _ => x.refilled_put w

/-- The outputs of a block are what its fields hold. -/
theorem heldIn_outputs (b : Block) : ∀ x ∈ b.members, x.HeldIn b.outputs := by
  cases b <;> simp [members, outputs, Field.HeldIn]

/-- **What copying back does to one block**: it takes over the outputs of its copy, and
nothing else changes. -/
theorem copyBack_of_refilled {f : Handle → Handle} {b c c' : Block} (hcopy : b.copy? f = some c)
    (hrefilled : c.Refilled c') :
    (c'.copyBack b).sType = b.sType ∧ (c'.copyBack b).outputFields = c'.outputFields ∧
      (c'.copyBack b).inputFields = b.inputFields := by
  have hknown : b.isKnown = true := by
    cases hb : b.isKnown with
    | true => rfl
    | false => rw [copy?_of_unknown f hb] at hcopy; cases hcopy
  obtain ⟨c₀, hcopy₀, -, hmembers⟩ := exists_copy? f hknown
  obtain rfl : c₀ = c := Option.some.inj (hcopy₀.symm.trans hcopy)
  have hpairs := hrefilled.members
  rw [hmembers, List.forall₂_map_left_iff] at hpairs
  obtain ⟨houtputs, hinputs⟩ := Field.filter_map_put hpairs c'.heldIn_outputs
  refine ⟨sType_fill c'.outputs b, ?_, ?_⟩
  · show (b.fill c'.outputs).members.filter _ = _
    rw [members_fill, houtputs]
    rfl
  · show (b.fill c'.outputs).members.filter _ = _
    rw [members_fill, hinputs]
    rfl

end Block

/-! ### Writing into a chain -/

namespace Chain

theorem fillBlocks_nil (blocks : List Block) : fillBlocks blocks [] = blocks := by
  cases blocks <;> rfl

theorem fill_nil (c : Chain) : c.fill [] = c := by
  rw [fill, List.drop_nil, fillBlocks_nil, fillBlocks_nil]

/-- As many writes as there are blocks in front leave all that follows alone. -/
theorem fillBlocks_append {blocks : List Block} {ws : List BlockFill}
    (h : blocks.length = ws.length) (rest : List Block) :
    fillBlocks (blocks ++ rest) ws = List.zipWith (fun b w => b.fill w) blocks ws ++ rest := by
  induction blocks generalizing ws with
  | nil =>
    obtain rfl : ws = [] := List.eq_nil_of_length_eq_zero h.symm
    exact fillBlocks_nil rest
  | cons b blocks ih =>
    cases ws with
    | nil => cases h
    | cons w ws =>
      have hrest := ih (Nat.succ.inj h)
      rw [List.cons_append, fillBlocks, hrest]
      rfl

/-- Copying back takes one block of the application for each copy, in order. -/
theorem settle_eq {left app : List Block} (hle : left.length ≤ app.length) (shared : List Block) :
    settle ⟨left, shared⟩ app
      = List.zipWith (fun c b => Block.copyBack c b) left (app.take left.length) ++ shared := by
  have hlength : (app.take left.length).length = (left.map Block.outputs).length := by
    rw [List.length_take, List.length_map]
    omega
  show fillBlocks (app.take left.length ++ shared) (left.map Block.outputs) = _
  rw [fillBlocks_append hlength, List.zipWith_map_right, List.zipWith_comm]
  rfl

theorem length_copied_le (w : Wrapper) (app : List Block) :
    (copy w app).value.copied.length ≤ app.length := by
  show (copyPrefix w.unwrap app).1.length ≤ app.length
  induction app with
  | nil => exact Nat.le_refl _
  | cons b rest ih =>
    rw [copyPrefix]
    cases b.copy? w.unwrap with
    | none => exact Nat.zero_le _
    | some c => exact Nat.succ_le_succ ih

/-- Each copied block is the copy of the application's block at its place. -/
theorem exists_of_copied (w : Wrapper) {app : List Block} {k : Nat} {c : Block}
    (hc : (copy w app).value.copied[k]? = some c) :
    ∃ b, app[k]? = some b ∧ b.copy? w.unwrap = some c := by
  have hprefix : (copyPrefix w.unwrap app).1[k]? = some c := hc
  clear hc
  induction app generalizing k with
  | nil => cases hprefix
  | cons b rest ih =>
    rw [copyPrefix] at hprefix
    cases hcopy : b.copy? w.unwrap with
    | none => rw [hcopy] at hprefix; cases hprefix
    | some c' =>
      rw [hcopy] at hprefix
      cases k with
      | zero => exact ⟨b, rfl, hcopy.trans hprefix⟩
      | succ k => exact ih hprefix

/-- The next layer leaves copies with other outputs in them. -/
theorem refilled_fillBlocks (blocks : List Block) (ws : List BlockFill) :
    List.Forall₂ Block.Refilled blocks (fillBlocks blocks ws) := by
  induction blocks generalizing ws with
  | nil => exact .nil
  | cons b rest ih =>
    cases ws with
    | nil =>
      exact List.forall₂_same.2 fun b' _ => ⟨rfl, List.forall₂_same.2 fun x _ => .refl x⟩
    | cons w ws => exact .cons (b.refilled_fill w) (ih ws)

/-- The application's block at each place, the copy there and the block afterwards. -/
theorem settle_getElem? (w : Wrapper) {app left : List Block}
    (hleft : List.Forall₂ Block.Refilled (copy w app).value.copied left) (shared : List Block)
    {k : Nat} (hk : k < (copy w app).value.copied.length) :
    ∃ b c b', app[k]? = some b ∧ left[k]? = some c ∧ (settle ⟨left, shared⟩ app)[k]? = some b' ∧
      b'.sType = b.sType ∧ b'.outputFields = c.outputFields ∧ b'.inputFields = b.inputFields := by
  have hlength := hleft.length_eq
  have hle : left.length ≤ app.length := hlength ▸ length_copied_le w app
  obtain ⟨c₀, hc₀⟩ : ∃ c₀, (copy w app).value.copied[k]? = some c₀ :=
    ⟨_, List.getElem?_eq_getElem hk⟩
  obtain ⟨b, hb, hcopy⟩ := exists_of_copied w hc₀
  have hkleft : k < left.length := hlength ▸ hk
  have hc : left[k]? = some left[k] := List.getElem?_eq_getElem hkleft
  have hrefilled : c₀.Refilled left[k] := by
    have hget := hleft.get hk hkleft
    rw [List.getElem?_eq_getElem hk] at hc₀
    rw [← Option.some.inj hc₀]
    exact hget
  refine ⟨b, left[k], left[k].copyBack b, hb, hc, ?_, Block.copyBack_of_refilled hcopy hrefilled⟩
  have hpair : (List.zipWith (fun c b => Block.copyBack c b) left (app.take left.length))[k]?
      = some (left[k].copyBack b) := by
    rw [List.getElem?_zipWith, hc, List.getElem?_take_of_lt hkleft, hb]
  rw [settle_eq hle, List.getElem?_append_left (List.getElem?_eq_some_iff.1 hpair).1, hpair]

end Chain

/-! ### The chains of a request -/

theorem map_chain_resolveArray {α : Type} {resolve : α → Noted α} (chain : α → Chain)
    {f : Chain → Chain} (h : ∀ x, chain (resolve x).value = f (chain x)) (a : AppArray α) :
    (resolveArray resolve a).value.toList.map chain = (a.toList.map chain).map f := by
  rw [toList_value_resolveArray, List.map_map, List.map_map]
  exact List.map_congr_left fun x _ => h x

/-- The chains that the next layer may write outputs into are copies. -/
theorem DeviceRequest.chains_resolveWrapped (w : Wrapper) (s : Shadows) (r : DeviceRequest) :
    (r.resolveWrapped w s).value.chains = r.chains.map fun c => (Chain.copy w c.blocks).value := by
  cases r with
  | createGraphicsPipelines cache infos =>
    exact map_chain_resolveArray GraphicsInfo.chain (fun _ => rfl) infos
  | createComputePipelines cache infos =>
    exact map_chain_resolveArray ComputeInfo.chain (fun _ => rfl) infos
  | createRayTracingPipelines batch operation cache infos =>
    exact map_chain_resolveArray RayTracingInfo.chain (fun _ => rfl) infos
  | _ => rfl

/-- Every chain of the application gets the outputs of its own copy. -/
theorem getElem?_settled (w : Wrapper) (fills : List (List BlockFill)) (apps : List (List Block))
    (i : Nat) :
    (onto Chain.settle (onto (fun ws c => c.fill ws) fills
        (apps.map fun app => (Chain.copy w app).value)) apps)[i]?
      = apps[i]?.map fun app =>
          ((Chain.copy w app).value.fill (fills[i]?.getD [])).settle app := by
  rw [getElem?_onto, getElem?_onto, List.getElem?_map]
  cases apps[i]? with
  | none => rfl
  | some app =>
    cases fills[i]? with
    | none => exact congrArg (fun c : Chain => some (c.settle app)) (Chain.fill_nil _).symm
    | some ws => rfl

namespace Device

variable [NextLayer σ] {r : DeviceRequest} {out : Outputs} {s : Layer Tracked σ}

/-- Graphics and compute pipelines are created from copies, whose outputs are copied back. -/
theorem chains_createPipelines (hs : s.world.wrapper.enabled = true) (count : Nat) :
    ((createPipelines r count out).run s).1.2.chains
      = onto Chain.settle ((answer r (out.slots.map List.length) s).fillChains
          (r.resolveWrapped s.world.wrapper s.object.own.toShadows).value.chains) out.chains := by
  unfold createPipelines
  rw [run_bind_of (run_relay _ _ s), run_bind_of (run_wrapping _),
    DeviceRequest.resolve_of_enabled hs, if_pos ((congrArg _ (wrapper_sent _ _ s)).trans hs),
    run_bind_of (run_publishOutputs _ _ _)]
  rfl

/-- **Outputs in chains are copied back by every entry point that has any**, unless it puts its
work off. -/
theorem chains_serve (hs : s.world.wrapper.enabled = true) (hchains : r.chains ≠ [])
    (hatOnce : ∀ operation, r.defers? = some operation →
      isDeferred (answer r (r.roomBelow true out) s).result operation = false) :
    ((serve r out).run s).1.2.chains
      = onto Chain.settle ((answer r (r.roomBelow true out) s).fillChains
          (r.resolveWrapped s.world.wrapper s.object.own.toShadows).value.chains) out.chains := by
  cases r with
  | exportMetalObjects chain =>
    have hrun : (serve (.exportMetalObjects chain) out).run s = _ :=
      run_relay (.exportMetalObjects chain) out s
    rw [hrun, DeviceRequest.resolve_of_enabled hs]
    rfl
  | createGraphicsPipelines cache infos => exact chains_createPipelines hs _
  | createComputePipelines cache infos => exact chains_createPipelines hs _
  | createRayTracingPipelines batch operation cache infos =>
    have hrun := @run_serve_of_not_isDeferred _ _ operation batch cache infos s hs out
      (hatOnce operation rfl)
    rw [hrun, DeviceRequest.resolve_of_enabled hs]
    rfl
  | _ => exact absurd rfl hchains

end Device

/-- **Copying back reaches the right block and nothing else.**  The next layer leaves the
copies with any outputs in them, and the application's blocks behind them in any state.
Afterwards each block of the application that was copied holds exactly the outputs of its
own copy and is otherwise as it was, and nothing is written into the other blocks.

This is what happens to the chains of every call that has outputs in them and does not put its
work off, with what the next layer has answered for each. -/
theorem copied_back_outputs [NextLayer σ] (w : Wrapper) (app : List Block) :
    let copy := (Chain.copy w app).value
    (∀ left shared : List Block, List.Forall₂ Block.Refilled copy.copied left →
      let after := Chain.settle ⟨left, shared⟩ app
      (∀ k < copy.copied.length, ∃ b c b', app[k]? = some b ∧ left[k]? = some c ∧
        after[k]? = some b' ∧ b'.sType = b.sType ∧ b'.outputFields = c.outputFields ∧
        b'.inputFields = b.inputFields) ∧
      after.drop copy.copied.length = shared) ∧
    (∀ ws : List BlockFill, List.Forall₂ Block.Refilled copy.copied (copy.fill ws).copied) ∧
    ∀ (s : Layer Tracked σ) (r : DeviceRequest) (out : Outputs), s.world.wrapper = w →
      w.enabled = true → r.chains ≠ [] → out.chains = r.chains.map Chain.blocks →
      let reply := Device.answer r (r.roomBelow true out) s
      (∀ operation, r.defers? = some operation →
        Device.isDeferred reply.result operation = false) →
      ∀ i : Nat, ((Device.serve r out).run s).1.2.chains[i]?
        = out.chains[i]?.map fun blocks =>
            ((Chain.copy w blocks).value.fill (reply.fills[i]?.getD [])).settle blocks := by
  intro copy
  refine ⟨fun left shared hleft => ⟨fun k hk => ?_, ?_⟩, fun ws => ?_, ?_⟩
  · exact Chain.settle_getElem? w hleft shared hk
  · have hlength : copy.copied.length = left.length := hleft.length_eq
    have hle : left.length ≤ app.length := hlength ▸ Chain.length_copied_le w app
    have hzip : (List.zipWith (fun c b => Block.copyBack c b) left
        (app.take left.length)).length = copy.copied.length := by
      rw [List.length_zipWith, List.length_take]
      omega
    rw [Chain.settle_eq hle, ← hzip, List.drop_left]
  · exact Chain.refilled_fillBlocks copy.copied ws
  · rintro s r out rfl hw hchains hout reply hatOnce i
    have hcopies : (r.resolveWrapped s.world.wrapper s.object.own.toShadows).value.chains
        = out.chains.map fun blocks => (Chain.copy s.world.wrapper blocks).value := by
      rw [DeviceRequest.chains_resolveWrapped, hout, List.map_map]
      rfl
    rw [Device.chains_serve hw hchains hatOnce, hcopies]
    exact getElem?_settled _ _ _ i

/-- Two Metal outputs of one type with a plain block between them, and a third one behind a
block of unknown layout; first with outputs that are given, then with those of a call. -/
theorem copied_back_textures :
    let w := ((Wrapper.new true).wrapNew 0xaa).2
    let s := ((Wrapper.new true).wrapNew 0xaa).1
    let app : List Block :=
      [.metalTexture s 0 0 0, .plain .imageViewUsageCreateInfo #v[9], .metalTexture s 5 0 0,
        .unknown 77, .metalDevice 0]
    let left : List Block :=
      [.metalTexture 0xaa 0 0 1, .plain .imageViewUsageCreateInfo #v[9], .metalTexture 0xaa 0 0 2]
    let shared : List Block := [.unknown 77, .metalDevice 3]
    List.Forall₂ Block.Refilled (Chain.copy w app).value.copied left ∧
      (∃ b', (Chain.settle ⟨left, shared⟩ app)[2]? = some b' ∧
        b'.outputFields = [.exported 2] ∧ b'.inputFields = [.handle s, .handle 5, .handle 0]) ∧
      (Chain.settle ⟨left, shared⟩ app).drop 3 = shared ∧
      ∃ layer : Layer Tracked Scripted, layer.world.wrapper = w ∧
        ((Device.serve (.exportMetalObjects (.ofApp app)) { chains := [app] }).run
            layer).1.2.chains[0]?
          = some [.metalTexture s 0 0 1, .plain .imageViewUsageCreateInfo #v[9],
              .metalTexture s 5 0 17, .unknown 77, .metalDevice 33] := by
  intro w s app left shared
  have hcopies : (Chain.copy w app).value.copied
      = [.metalTexture 0xaa 0 0 0, .plain .imageViewUsageCreateInfo #v[9],
          .metalTexture 0xaa 0 0 0] := by decide +kernel
  have hleft : List.Forall₂ Block.Refilled (Chain.copy w app).value.copied left := by
    rw [hcopies]
    exact Chain.refilled_fillBlocks _ [{ metal := some 1 }, {}, { metal := some 2 }]
  obtain ⟨hcopied, -, hserved⟩ := copied_back_outputs (σ := Scripted) w app
  obtain ⟨hblocks, hdrop⟩ := hcopied left shared hleft
  have hlength : (Chain.copy w app).value.copied.length = 3 := by rw [hcopies]; rfl
  obtain ⟨b, c, b', hb, hc, hb', -, houtputs, hinputs⟩ := hblocks 2 (by rw [hlength]; decide)
  obtain rfl : Block.metalTexture s 5 0 0 = b := Option.some.inj hb
  obtain rfl : Block.metalTexture 0xaa 0 0 2 = c := Option.some.inj hc
  let layer : Layer Tracked Scripted :=
    { object :=
        { handle := 0xe000
          apiVersion := 0
          table := ⟨[.exportMetalObjectsExt]⟩
          registry := ⟨.new default [], []⟩
          own := .empty }
      world :=
        { wrapper := w
          memory := .empty
          behaviour := default
          below := { script := { metal := some 1 } }
          trace := #[] } }
  have hchains := hserved layer (.exportMetalObjects (.ofApp app)) { chains := [app] } rfl
    (by decide +kernel) (List.cons_ne_nil _ _) rfl (fun _ h => nomatch h) 0
  refine ⟨hleft, ⟨b', hb', houtputs, hinputs⟩, hlength ▸ hdrop, layer, rfl, hchains.trans ?_⟩
  decide +kernel

end HandleLayer
