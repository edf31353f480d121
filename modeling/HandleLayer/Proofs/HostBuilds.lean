import Mathlib.Data.List.ReduceOption
import HandleLayer.Proofs.ChainCopies
import HandleLayer.Proofs.Completion
import HandleLayer.Proofs.ImageDescriptors

/-!
# Builds on the host

A build on the host reads its instances from memory of the application, one after the other or
through pointers.  The layer hands down memory of its own in their place.  What a range finds
there is what it finds in the application's memory, but for the names of the acceleration
structures, which are the real ones.

## Main definitions

* `BuildInfo.listed` — the geometries of a build, with a hole for every null pointer.
* `Geometry.found?`, `foundAt` — the instances that the host finds for a geometry.
* `GeometryData.GoesDownAs`, `BuildInfo.GoesDownAs` — a geometry and a build, and what goes
  down for them.

## Main results

* `HostMemory.read_store` — instances that were put into memory are found there, in either
  layout.
* `HostMemory.read_resolve` — what a range finds in the layer's copy.
* `host_builds` — **builds on the host, and the instances that are found in them.**
-/

namespace HandleLayer

variable {σ : Type}

/-! ### Records in memory -/

/-- Records of one length lie one after the other. -/
theorem getElem?_flatMap_records {α : Type} {f : α → List UInt8} {size : Nat}
    (hf : ∀ x, (f x).length = size) {xs : List α} {i j : Nat} {x : α} (hx : xs[i]? = some x)
    (hj : j < size) : (xs.flatMap f)[size * i + j]? = (f x)[j]? := by
  induction xs generalizing i with
  | nil => cases hx
  | cons x' xs ih =>
    rw [List.flatMap_cons]
    cases i with
    | zero =>
      obtain rfl : x' = x := Option.some.inj hx
      rw [Nat.mul_zero, Nat.zero_add, List.getElem?_append_left (by rwa [hf])]
    | succ i =>
      have hplace : size * (i + 1) + j - (f x').length = size * i + j := by
        rw [hf, Nat.mul_add_one]
        omega
      have hbehind : (f x').length ≤ size * (i + 1) + j := by
        rw [hf, Nat.mul_add_one]
        omega
      rw [List.getElem?_append_right hbehind, hplace]
      exact ih hx

theorem length_flatMap_records {α : Type} {f : α → List UInt8} {size : Nat}
    (hf : ∀ x, (f x).length = size) (xs : List α) : (xs.flatMap f).length = size * xs.length := by
  induction xs with
  | nil => rfl
  | cons x xs ih =>
    rw [List.flatMap_cons, List.length_append, hf, ih, List.length_cons, Nat.mul_add_one,
      Nat.add_comm]

namespace HostMemory

/-- What was put into memory is there. -/
theorem byte_contentAt (place : Nat) {content : List UInt8} {n : Nat} (hn : n < content.length) :
    content[n]? = some ((contentAt place content).byte (place + n)) := by
  have hroom : place + n < 8 * ((place + content.length + 7) / 8) := by omega
  rw [contentAt, Blob.byte_write, Blob.size_zeros, if_pos ⟨Nat.le_add_right _ _, hroom⟩,
    Nat.add_sub_cancel_left, List.getElem?_eq_getElem hn]
  rfl

end HostMemory

/-! ### Instances in memory -/

namespace Instance

@[simp] theorem length_bytes (i : Instance) : i.bytes.length = 64 := by
  simp [bytes]

/-- An instance is found where its bytes are. -/
theorem ofBlob_eq {b : Blob} {place : Nat} {i : Instance}
    (h : ∀ n < 64, i.bytes[n]? = some (b.byte (place + n))) : ofBlob b place = i := by
  obtain ⟨fields, reference⟩ := i
  have hfields : Vector.ofFn (fun n : Fin 56 => b.byte (place + n)) = fields := by
    refine Vector.ext fun n hn => ?_
    have hbyte : (fields.toList ++ wordBytes reference)[n]? = some (b.byte (place + n)) :=
      h n (by omega)
    rw [List.getElem?_append_left (by simpa using hn)] at hbyte
    simpa [Vector.getElem?_toList, hn] using hbyte.symm
  have hreference : b.word (place + 56) = reference := by
    refine Blob.word_eq_of_holds fun n hn => ?_
    have hbyte : (fields.toList ++ wordBytes reference)[56 + n]?
        = some (b.byte (place + (56 + n))) := h (56 + n) (by omega)
    rw [List.getElem?_append_right (by simp), Vector.length_toList, Nat.add_sub_cancel_left,
      getElem?_wordBytes reference hn] at hbyte
    rw [Nat.add_assoc]
    exact (Option.some.inj hbyte).symm
  rw [ofBlob, hfields, hreference]

end Instance

namespace HostMemory

@[simp] theorem length_read (m : HostMemory) (layout : InstanceLayout) (range : BuildRange) :
    (m.read layout range).length = range.count.toNat := by
  simp [read]

/-- The instance with a number is found in either layout. -/
theorem instanceAt_store (layout : InstanceLayout) (place : Nat) {xs : List Instance}
    (hxs : xs.length < 2 ^ 64) {j : Nat} {x : Instance} (hx : xs[j]? = some x) :
    (store layout place xs).instanceAt layout place j = x := by
  have hj : j < xs.length := (List.getElem?_eq_some_iff.1 hx).1
  cases layout with
  | flat =>
    refine Instance.ofBlob_eq fun n hn => ?_
    have hinside : Instance.size * j + n < (xs.flatMap Instance.bytes).length := by
      rw [length_flatMap_records Instance.length_bytes]
      show 64 * j + n < 64 * xs.length
      omega
    rw [← getElem?_flatMap_records Instance.length_bytes hx hn, Nat.add_assoc]
    exact byte_contentAt place hinside
  | pointers =>
    -- the pointer with the number `j` is the word `j`
    have hword : (store .pointers place xs).bytes.word (place + 8 * j) = j.toUInt64 := by
      refine Blob.word_eq_of_holds fun n hn => ?_
      have hlength : ∀ k : Nat, (wordBytes k.toUInt64).length = 8 := fun _ => length_wordBytes _
      have hinside : 8 * j + n
          < ((List.range xs.length).flatMap fun k => wordBytes k.toUInt64).length := by
        rw [length_flatMap_records hlength, List.length_range]
        omega
      have hbyte := byte_contentAt place hinside
      rw [getElem?_flatMap_records hlength (List.getElem?_range hj) hn,
        getElem?_wordBytes _ hn] at hbyte
      rw [Nat.add_assoc]
      exact (Option.some.inj hbyte).symm
    have hnumber : j.toUInt64.toNat = j := Nat.mod_eq_of_lt (Nat.lt_trans hj hxs)
    show xs.getD ((store .pointers place xs).bytes.word (place + 8 * j)).toNat default = x
    rw [hword, hnumber, List.getD_eq_getElem?_getD, hx]
    rfl

/-- **Instances that were put into memory are found there**, in either layout. -/
theorem read_store (layout : InstanceLayout) {range : BuildRange} {xs : List Instance}
    (hxs : xs.length = range.count.toNat) :
    (store layout range.offset.toNat xs).read layout range = xs := by
  have hcount : range.count.toNat < 2 ^ 32 := range.count.toNat_lt
  refine List.ext_getElem (by rw [length_read, hxs]) fun j hj hj' => ?_
  have hfound := instanceAt_store layout range.offset.toNat (by omega)
    (List.getElem?_eq_getElem hj')
  simpa [read] using hfound

/-- **What a range finds in the layer's copy**: as many instances as in the memory that was
copied, with the same bytes but for the real handles. -/
theorem read_resolve (f : Handle → Handle) (m : HostMemory) (layout : InstanceLayout)
    (range : BuildRange) :
    (m.resolve f layout range).read layout range
      = (m.read layout range).map (Instance.mapHandles f) :=
  read_store layout (by simp)

end HostMemory

/-! ### Geometries -/

/-- The micromap that a block has. -/
def Block.micromap? : Block → Option Handle
  | opacityMicromap _ micromap | displacementMicromap _ micromap => some micromap
  | _ => none

/-- Micromaps are replaced in the copy of a chain, and only there. -/
theorem Chain.micromap?_copy (w : Wrapper) (app : List Block) (i : Nat) :
    (copy w app).value.blocks[i]?.bind Block.micromap?
      = (app[i]?.bind Block.micromap?).map fun micromap =>
          if (app.take i).all Block.isKnown then w.unwrap micromap else micromap := by
  cases hi : app[i]? with
  | none =>
    rw [getElem?_blocks_copy, hi]
    rfl
  | some b =>
    cases b with
    | opacityMicromap base micromap | displacementMicromap base micromap =>
      -- the blocks that have micromaps are of known layout
      rw [getElem?_blocks_copy_of_isKnown w hi rfl]
      cases (app.take i).all Block.isKnown <;> rfl
    | _ =>
      rw [getElem?_blocks_copy, hi, Option.map_some, Option.bind_some]
      split <;> rfl

/-- What a geometry consists of, and what goes down for it when a range goes with it. -/
inductive GeometryData.GoesDownAs (w : Wrapper) (range : Option BuildRange) :
    GeometryData → GeometryData → Prop
  | triangles {chain chain' : Chain} (vertex : UInt64)
    (hcopy : chain'.IsCopyOf w.map chain.blocks)
    (hmicromap : ∀ i, chain'.blocks[i]?.bind Block.micromap?
      = (chain.blocks[i]?.bind Block.micromap?).map fun micromap =>
          if (chain.blocks.take i).all Block.isKnown then w.unwrap micromap else micromap) :
    GoesDownAs w range (.triangles chain vertex) (.triangles chain' vertex)
  | aabbs (address : UInt64) : GoesDownAs w range (.aabbs address) (.aabbs address)
  /-- Instances that the host does not read stay where they are. -/
  | unread (arrayOfPointers : UInt32) {source : InstanceSource}
    (h : range = none ∨ source.memory? = none) :
    GoesDownAs w range (.instances arrayOfPointers source) (.instances arrayOfPointers source)
  | read (arrayOfPointers : UInt32) {source : InstanceSource} {r : BuildRange}
    {memory memory' : HostMemory} (hrange : range = some r) (hsource : source.memory? = some memory)
    (hread : memory'.read (layoutOf arrayOfPointers) r
      = (memory.read (layoutOf arrayOfPointers) r).map (Instance.mapHandles w.unwrap)) :
    GoesDownAs w range (.instances arrayOfPointers source)
      (.instances arrayOfPointers (.host memory'))
  | other (type : Int) : GoesDownAs w range (.other type) (.other type)

namespace Geometry

variable {w : Wrapper}

@[simp] theorem flags_resolve (w : Wrapper) (range : Option BuildRange) (g : Geometry) :
    (g.resolve w range).value.flags = g.flags := by
  obtain ⟨flags, data⟩ := g
  cases data <;> cases range <;> rfl

theorem goesDownAs_resolve (hw : w.enabled = true) (range : Option BuildRange) (g : Geometry) :
    g.data.GoesDownAs w range (g.resolve w range).value.data := by
  obtain ⟨flags, data⟩ := g
  cases data with
  | triangles chain vertex =>
    exact .triangles vertex ((Chain.copy_eq_iff hw _ _).1 rfl) (Chain.micromap?_copy w _)
  | aabbs address => cases range <;> exact .aabbs address
  | instances arrayOfPointers source =>
    cases range with
    | none => exact .unread arrayOfPointers (.inl rfl)
    | some r =>
      show GeometryData.GoesDownAs w (some r) _
        (.instances arrayOfPointers (source.resolve w.unwrap (layoutOf arrayOfPointers) r))
      unfold InstanceSource.resolve
      cases hsource : source.memory? with
      | none => exact .unread arrayOfPointers (.inr hsource)
      | some memory =>
        exact .read arrayOfPointers rfl hsource (HostMemory.read_resolve w.unwrap memory _ r)
  | other type => cases range <;> exact .other type

/-- The instances that the host finds in a geometry through a range. -/
def found? (g : Geometry) (range : BuildRange) : Option (List Instance) :=
  match g.data with
  | .instances arrayOfPointers source =>
    source.memory?.map fun memory => memory.read (layoutOf arrayOfPointers) range
  | _ => none

/-- What is found through the range that goes with a geometry. -/
theorem found?_of_goesDownAs {range : BuildRange} {g g' : Geometry}
    (h : g.data.GoesDownAs w (some range) g'.data) :
    g'.found? range = (g.found? range).map (·.map (Instance.mapHandles w.unwrap)) := by
  obtain ⟨flags, data⟩ := g
  obtain ⟨flags', data'⟩ := g'
  cases h with
  | triangles | aabbs | other => rfl
  | unread arrayOfPointers h =>
    have hsource := h.resolve_left (by simp)
    simp only [found?, hsource, Option.map_none]
  | read arrayOfPointers hrange hsource hread =>
    obtain rfl := Option.some.inj hrange
    simp only [found?, hsource, Option.map_some]
    exact congrArg some hread

end Geometry

/-! ### Builds -/

namespace BuildInfo

/-- The geometries that a build lists, with a hole for every null pointer. -/
def listed (b : BuildInfo) : List (Option Geometry) :=
  match b.geometries with
  | some gs => (gs.take b.geometryCount.toNat).map some
  | none => (b.pointers.getD []).take b.geometryCount.toNat

theorem given_eq_reduceOption (b : BuildInfo) : b.given = b.listed.reduceOption := by
  unfold given listed
  cases b.geometries with
  | none => rfl
  | some gs =>
    unfold List.reduceOption
    rw [List.filterMap_map]
    exact (List.filterMap_some ..).symm

theorem length_listed_le (b : BuildInfo) : b.listed.length ≤ b.geometryCount.toNat := by
  unfold listed
  split
  · rw [List.length_map]
    exact List.length_take_le ..
  · exact List.length_take_le ..

/-- Without null pointers all that is listed is given. -/
theorem map_some_given {b : BuildInfo} (h : none ∉ b.listed) : b.given.map some = b.listed := by
  rw [given_eq_reduceOption]
  generalize b.listed = gs at h
  induction gs with
  | nil => rfl
  | cons g gs ih =>
    rw [List.mem_cons, not_or] at h
    cases g with
    | none => exact absurd rfl h.1
    | some g => rw [List.reduceOption_cons_of_some, List.map_cons, ih h.2]

theorem length_given_le (b : BuildInfo) : b.given.length ≤ b.geometryCount.toNat := by
  rw [given_eq_reduceOption]
  exact Nat.le_trans (List.reduceOption_length_le _) b.length_listed_le

theorem getElem?_resolveAll (w : Wrapper) (ranges : Option (List BuildRange)) (gs : List Geometry)
    (j : Nat) :
    (resolveAll w ranges gs).value[j]?
      = gs[j]?.map fun g => (g.resolve w (ranges.bind fun rs => rs[j]?)).value := by
  show ((gs.zipIdx.map _).map Noted.value)[j]? = _
  rw [List.getElem?_map, List.getElem?_map, List.getElem?_zipIdx]
  cases gs[j]? with
  | none => rfl
  | some g => simp

@[simp] theorem length_resolveAll (w : Wrapper) (ranges : Option (List BuildRange))
    (gs : List Geometry) : (resolveAll w ranges gs).value.length = gs.length := by
  simp [resolveAll]

/-- The geometries that are given go down in an array of the layer; a build that gives none
keeps what it has. -/
theorem geometries_resolve (b : BuildInfo) (w : Wrapper) (ranges : Option (List BuildRange)) :
    ((b.resolve w ranges).value.geometries, (b.resolve w ranges).value.pointers)
      = if b.given = [] then (b.geometries, b.pointers)
        else (some (resolveAll w ranges b.given).value, none) := by
  have hempty : (resolveAll w ranges b.given).value.isEmpty = decide (b.given = []) := by
    rw [Bool.eq_iff_iff, List.isEmpty_iff, decide_eq_true_iff, ← List.length_eq_zero_iff,
      length_resolveAll, List.length_eq_zero_iff]
  show (if (resolveAll w ranges b.given).value.isEmpty = true then _ else _,
    if (resolveAll w ranges b.given).value.isEmpty = true then _ else _) = _
  rw [hempty]
  by_cases h : b.given = [] <;> simp [h]

/-- What a build lists as it goes down. -/
theorem listed_resolve (b : BuildInfo) (w : Wrapper) (ranges : Option (List BuildRange)) :
    (b.resolve w ranges).value.listed
      = if b.given = [] then b.listed else (resolveAll w ranges b.given).value.map some := by
  have hgeometries := b.geometries_resolve w ranges
  split at hgeometries
  case isTrue h =>
    obtain ⟨hgeometries, hpointers⟩ := Prod.mk.inj hgeometries
    unfold listed
    rw [hgeometries, hpointers, if_pos h]
    rfl
  case isFalse h =>
    unfold listed
    rw [(Prod.mk.inj hgeometries).1, if_neg h]
    refine congrArg (List.map some) (List.take_of_length_le ?_)
    rw [length_resolveAll]
    exact b.length_given_le

/-- A build of the host, and what goes down for it through its ranges. -/
structure GoesDownAs (w : Wrapper) (ranges : Option (List BuildRange)) (b b' : BuildInfo) :
    Prop where
  type : b'.type = b.type
  mode : b'.mode = b.mode
  src : b'.src = w.unwrap b.src
  dst : b'.dst = w.unwrap b.dst
  geometryCount : b'.geometryCount = b.geometryCount
  length : b'.listed.length = b.listed.length
  geometry : ∀ (j : Nat) (g : Geometry), b.listed[j]? = some (some g) →
    ∃ g' : Geometry, b'.listed[j]? = some (some g') ∧ g'.flags = g.flags ∧
      g.data.GoesDownAs w (ranges.bind fun rs => rs[j]?) g'.data

theorem goesDownAs_resolve {w : Wrapper} (hw : w.enabled = true) {b : BuildInfo}
    (hfull : none ∉ b.listed) (ranges : Option (List BuildRange)) :
    b.GoesDownAs w ranges (b.resolve w ranges).value := by
  have hlisted : (b.resolve w ranges).value.listed
      = (resolveAll w ranges b.given).value.map some := by
    rw [listed_resolve]
    split
    case isTrue hnil =>
      rw [← map_some_given hfull, hnil]
      rfl
    case isFalse => rfl
  refine ⟨rfl, rfl, rfl, rfl, rfl, ?_, fun j g hg => ?_⟩
  · rw [hlisted, ← map_some_given hfull, List.length_map, List.length_map, length_resolveAll]
  · have hgiven : b.given[j]? = some g := by
      rw [← map_some_given hfull, List.getElem?_map] at hg
      simpa using hg
    refine ⟨_, ?_, g.flags_resolve w _, g.goesDownAs_resolve hw (ranges.bind fun rs => rs[j]?)⟩
    rw [hlisted, List.getElem?_map, getElem?_resolveAll, hgiven]
    rfl

end BuildInfo

namespace DeviceRequest

variable (w : Wrapper) (ranges : Option (List (List BuildRange))) (infos : AppArray BuildInfo)

@[simp] theorem isNull_resolveBuilds :
    (resolveBuilds w ranges infos).value.isNull = infos.isNull := by
  cases infos <;> rfl

@[simp] theorem count_resolveBuilds :
    (resolveBuilds w ranges infos).value.count = infos.count := by
  cases infos with
  | null => rfl
  | elems infos => simp [resolveBuilds]

/-- Every build goes down with the ranges at its place. -/
theorem getElem?_resolveBuilds (i : Nat) :
    (resolveBuilds w ranges infos).value.toList[i]?
      = infos.toList[i]?.map fun b => (b.resolve w (ranges.bind fun rs => rs[i]?)).value := by
  cases infos with
  | null => rfl
  | elems infos =>
    show ((infos.zipIdx.map _).map Noted.value)[i]? = _
    rw [List.getElem?_map, List.getElem?_map, List.getElem?_zipIdx, AppArray.toList_elems]
    cases infos[i]? with
    | none => rfl
    | some b => simp

end DeviceRequest

/-- The instances that the host finds for the geometry `j` of the build `i`, through the
range `j` of that build. -/
def foundAt (infos : AppArray BuildInfo) (ranges : List (List BuildRange)) (i j : Nat) :
    Option (List Instance) := do
  let info ← infos.toList[i]?
  let range ← (← ranges[i]?)[j]?
  let g ← (← info.listed[j]?)
  g.found? range

/-- What the host finds in the builds that go down. -/
theorem foundAt_resolveBuilds {w : Wrapper} (hw : w.enabled = true) (infos : AppArray BuildInfo)
    (ranges : List (List BuildRange)) {i : Nat}
    (hfull : ∀ info ∈ infos.toList[i]?, none ∉ info.listed) (j : Nat) :
    foundAt (DeviceRequest.resolveBuilds w (some ranges) infos).value ranges i j
      = (foundAt infos ranges i j).map (·.map (Instance.mapHandles w.unwrap)) := by
  unfold foundAt
  rw [DeviceRequest.getElem?_resolveBuilds]
  cases hinfo : infos.toList[i]? with
  | none => rfl
  | some info =>
    cases hranges : ranges[i]? with
    | none => rfl
    | some rs =>
      cases hrange : rs[j]? with
      | none => simp [hranges, hrange]
      | some range =>
        have hdown := info.goesDownAs_resolve hw (hfull info hinfo) (some rs)
        simp only [Option.map_some, Option.bind_some, Option.bind_eq_bind, hranges, hrange]
        cases hlisted : info.listed[j]? with
        | none =>
          have hbeyond : info.listed.length ≤ j := List.getElem?_eq_none_iff.1 hlisted
          rw [← hdown.length] at hbeyond
          rw [List.getElem?_eq_none hbeyond]
          rfl
        | some slot =>
          cases slot with
          | none => exact absurd (List.mem_of_getElem? hlisted) (hfull info hinfo)
          | some g =>
            obtain ⟨g', hg', -, hdata⟩ := hdown.geometry j g hlisted
            rw [Option.bind_some, hrange] at hdata
            rw [hg']
            exact Geometry.found?_of_goesDownAs hdata

/-! ### The call -/

section Call

variable [NextLayer σ]

/-- A build hands down its request, and changes nothing afterwards but what the layer remembers
of deferred operations. -/
theorem Device.exists_run_buildStructures (operation : Handle) (infos : AppArray BuildInfo)
    (ranges : Option (List (List BuildRange))) (out : Outputs) (s : Layer Tracked σ) :
    let r : DeviceRequest := .buildStructures operation infos ranges
    ∃ own, (buildStructures operation infos ranges out).run s
      = (((answer r none s).result, out), (sent r none s).withOwn own) := by
  intro r
  unfold buildStructures
  rw [run_bind_of (run_send r none s), run_bind_of (run_wrapping _)]
  dsimp only
  split
  · exact ⟨_, rfl⟩
  · exact ⟨(sent r none s).object.own, rfl⟩

theorem Device.asksOnce_buildStructures (operation : Handle) (infos : AppArray BuildInfo)
    (ranges : Option (List (List BuildRange))) (out : Outputs) :
    AsksOnce (.buildStructures operation infos ranges) none
      (buildStructures operation infos ranges out : DeviceM σ (Result × Outputs)) := by
  intro s _
  obtain ⟨own, hrun⟩ := exists_run_buildStructures operation infos ranges out s
  rw [hrun]
  rfl

/-- A build leaves the outputs and the storage of the application alone. -/
theorem Device.outcome_perform_buildStructures (operation : Handle) (infos : AppArray BuildInfo)
    (ranges : Option (List (List BuildRange))) (out : Outputs) {s : Layer Tracked σ}
    (hveto : s.object.registry.chain.vetoes s.world.behaviour .buildAccelerationStructuresKhr
      = false) :
    let u := (perform (.buildStructures operation infos ranges) out).run s
    u.1.2 = out ∧ u.2.world.memory = s.world.memory := by
  intro u
  have hrun : u = _ :=
    Device.run_perform_of_defers (r := .buildStructures operation infos ranges) rfl out hveto
  obtain ⟨own, hserve⟩ := exists_run_buildStructures operation infos ranges out
    (s.see (opening (.buildStructures operation infos ranges) s))
  have hserve : (serve (.buildStructures operation infos ranges) out).run _ = _ := hserve
  rw [hserve] at hrun
  rw [hrun]
  exact ⟨rfl, memory_sent _ _ _⟩

/-- **Builds on the host, and the instances that are found in them.**  The request goes down once,
with as many builds as the application has.  A build without null pointers to geometries names the
real structures, and its geometries are as many and in the same order.  Of these, triangles have
a copy of their chain; the micromaps in it are the real ones in front of the first block of
unknown layout, and the application's from there on.  Boxes and geometries of other types are the
same.  Instances that are not at the null address are in memory of the layer.

The range `j` of the build `i` finds the same instances there for the geometry `j` of that build
as in the application's memory, except that each names the real structure.  So the same
instances give the same ones, whichever way they are laid out.  Outputs and storage of the
application stay as they are. -/
theorem host_builds {s : Layer Tracked σ} (hs : s.world.wrapper.enabled = true)
    (hveto : s.object.registry.chain.vetoes s.world.behaviour .buildAccelerationStructuresKhr
      = false)
    (hprovides : s.object.table.provides .buildAccelerationStructuresKhr = true)
    (operation : Handle) (infos : AppArray BuildInfo) (ranges : List (List BuildRange))
    (out : Outputs) (hfull : ∀ info ∈ infos.toList, none ∉ info.listed) :
    let w := s.world.wrapper
    let u := (Device.perform (.buildStructures operation infos (some ranges)) out).run s
    ∃ infos' : AppArray BuildInfo,
      u.2.world.calls = s.world.calls ++ [⟨s.object.handle,
        .ofDevice (.buildStructures (w.unwrap operation) infos' (some ranges)), none⟩] ∧
      u.1.2 = out ∧ u.2.world.memory = s.world.memory ∧
      infos'.isNull = infos.isNull ∧ infos'.count = infos.count ∧
      (∀ (i : Nat) (info : BuildInfo), infos.toList[i]? = some info →
        ∃ info', infos'.toList[i]? = some info' ∧
          info.GoesDownAs w ranges[i]? info') ∧
      (∀ i j, foundAt infos' ranges i j
        = (foundAt infos ranges i j).map (·.map (Instance.mapHandles w.unwrap))) ∧
      ∀ i j i' j', foundAt infos ranges i j = foundAt infos ranges i' j' →
        foundAt infos' ranges i j = foundAt infos' ranges i' j' := by
  intro w u
  have hcalls := Device.calls_perform_of_asksOnce hs
    (Device.asksOnce_buildStructures operation infos (some ranges) out) rfl hveto hprovides
  rw [DeviceRequest.resolve_of_enabled hs] at hcalls
  obtain ⟨hout, hmemory⟩ := Device.outcome_perform_buildStructures operation infos (some ranges) out
    hveto
  have hfound := fun i => foundAt_resolveBuilds hs infos ranges (i := i) fun info hinfo =>
    hfull info (List.mem_of_getElem? hinfo)
  refine ⟨_, hcalls, hout, hmemory, DeviceRequest.isNull_resolveBuilds ..,
    DeviceRequest.count_resolveBuilds .., fun i info hinfo => ?_, hfound,
    fun i j i' j' heq => by rw [hfound, hfound, heq]⟩
  refine ⟨_, ?_, info.goesDownAs_resolve hs (hfull info (List.mem_of_getElem? hinfo)) _⟩
  rw [DeviceRequest.getElem?_resolveBuilds, hinfo]
  rfl

end Call

/-- Two geometries go down in an array instead of through pointers.  They have the same
instance, one at an odd place and one through a pointer, and it names the real structure. -/
theorem instances_in_both_layouts :
    let fields : Vector UInt8 56 := .ofFn fun n => .ofNat n
    let app (layout : InstanceLayout) (place : Nat) : HostMemory :=
      .store layout place [⟨fields, idAt 0⟩]
    let geometries : List Geometry :=
      [⟨0, .instances 0 (.host (app .flat 3))⟩, ⟨0, .instances 1 (.host (app .pointers 8))⟩]
    let build : BuildInfo :=
      { (default : BuildInfo) with
        src := idAt 1, geometryCount := 2, pointers := some (geometries.map some) }
    let ranges : List (List BuildRange) := [[⟨1, 3⟩, ⟨1, 8⟩]]
    let s := Scripted.device [.buildAccelerationStructuresKhr] [0x11, 0x22]
    (s.world.wrapper.enabled = true ∧
        s.object.registry.chain.vetoes s.world.behaviour .buildAccelerationStructuresKhr = false ∧
        s.object.table.provides .buildAccelerationStructuresKhr = true ∧
        ∀ info ∈ (AppArray.elems [build]).toList, none ∉ info.listed) ∧
      ∃ infos' : AppArray BuildInfo,
        ((Device.perform (.buildStructures 0 (.elems [build]) (some ranges)) {}).run
            s).2.world.calls
          = [⟨0xe000, .ofDevice (.buildStructures 0 infos' (some ranges)), none⟩] ∧
        (∃ build', infos'.toList[0]? = some build' ∧ build'.src = 0x22 ∧
          build'.listed.length = 2) ∧
        foundAt infos' ranges 0 0 = some [⟨fields, 0x11⟩] ∧
        foundAt infos' ranges 0 1 = some [⟨fields, 0x11⟩] := by
  intro fields app geometries build ranges s
  have hs : s.world.wrapper.enabled = true := rfl
  have hveto : s.object.registry.chain.vetoes s.world.behaviour .buildAccelerationStructuresKhr
      = false := by decide +kernel
  have hprovides : s.object.table.provides .buildAccelerationStructuresKhr = true := by
    decide +kernel
  have hfull : ∀ info ∈ (AppArray.elems [build]).toList, none ∉ info.listed := by
    decide +kernel
  have hreal : s.world.wrapper.unwrap (idAt 0) = 0x11 ∧ s.world.wrapper.unwrap (idAt 1) = 0x22 ∧
      s.world.wrapper.unwrap 0 = 0 := by decide +kernel
  have happ : foundAt (.elems [build]) ranges 0 0 = some [⟨fields, idAt 0⟩] ∧
      foundAt (.elems [build]) ranges 0 1 = some [⟨fields, idAt 0⟩] := by decide +kernel
  obtain ⟨infos', hcalls, -, -, -, -, hbuilds, hfound, -⟩ :=
    host_builds hs hveto hprovides 0 (.elems [build]) ranges {} hfull
  obtain ⟨build', hbuild', hdown⟩ := hbuilds 0 build rfl
  rw [hreal.2.2] at hcalls
  refine ⟨⟨hs, hveto, hprovides, hfull⟩, infos', hcalls, ⟨build', hbuild', ?_, ?_⟩, ?_, ?_⟩
  · exact hdown.src.trans hreal.2.1
  · exact hdown.length
  · rw [hfound, happ.1, ← hreal.1]
    rfl
  · rw [hfound, happ.2, ← hreal.1]
    rfl

/-- A micromap behind a block of unknown layout goes down as the application has it. -/
theorem micromap_behind_unknown_block :
    let build : BuildInfo :=
      { (default : BuildInfo) with
        geometryCount := 1
        geometries := some [⟨0, .triangles (.ofApp [.unknown 1000999000,
          .opacityMicromap 0 (idAt 0)]) 0⟩] }
    let ranges : List (List BuildRange) := [[⟨1, 0⟩]]
    let s := Scripted.device [.buildAccelerationStructuresKhr] [0x11, 0x22]
    s.world.wrapper.enabled = true ∧ none ∉ build.listed ∧
      s.world.wrapper.unwrap (idAt 0) = 0x11 ∧ idAt 0 ≠ 0x11 ∧
      ((Device.perform (.buildStructures 0 (.elems [build]) (some ranges)) {}).run s).2.world.calls
        = [⟨0xe000, .ofDevice (.buildStructures 0 (.elems [build]) (some ranges)), none⟩] := by
  decide +kernel

end HandleLayer
