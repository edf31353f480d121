import HandleLayer.Proofs.HostBuilds

/-!
# Builds with null pointers to geometries

A build may give its geometries through pointers, some of which are null.  The layer leaves those
out and hands down an array of the others, but the number that goes with the array is the one
that the application gave.  Behind a null pointer, geometries move up in the array, and the
ranges do not move with them.

## Main definitions

* `DeviceRequest.builds?` — the builds of a request, and the ranges for them.
* `BuildInfo.movedTo` — the place in the array of a geometry that is listed at another one.
* `BuildInfo.Compacts` — a build, and the array of the layer that goes down for it.

## Main results

* `BuildInfo.movedTo_eq_iff` — geometries stay where they are as long as no pointer is null.
* `compacted_geometries` — **the geometries that go down, their number and their ranges.**
-/

namespace HandleLayer

variable {σ : Type}

/-! ### Requests with builds -/

namespace DeviceRequest

/-- The builds of a request, and the ranges through which their instances are read; there are
ranges for builds on the host alone. -/
def builds? : DeviceRequest → Option (AppArray BuildInfo × Option (List (List BuildRange)))
  | buildStructures _ infos ranges => some (infos, ranges)
  | recordBuildStructures _ infos _ => some (infos, none)
  | getBuildSizes _ info => some (.elems [info], none)
  | _ => none

variable {r : DeviceRequest} {infos : AppArray BuildInfo} {ranges : Option (List (List BuildRange))}

theorem builds?_resolve (hr : r.builds? = some (infos, ranges)) {w : Wrapper}
    (hw : w.enabled = true) (known : Shadows) :
    (r.resolve w known).value.builds? = some ((resolveBuilds w ranges infos).value, ranges) := by
  rw [resolve_of_enabled hw]
  cases r with
  | buildStructures | recordBuildStructures | getBuildSizes =>
    obtain ⟨rfl, rfl⟩ := Prod.mk.inj (Option.some.inj hr)
    rfl
  | _ => cases hr

end DeviceRequest

/-- A request with builds goes down once. -/
theorem Device.calls_perform_of_builds? [NextLayer σ] {r : DeviceRequest}
    {infos : AppArray BuildInfo} {ranges : Option (List (List BuildRange))}
    (hr : r.builds? = some (infos, ranges)) {s : Layer Tracked σ}
    (hs : s.world.wrapper.enabled = true)
    (hveto : s.object.registry.chain.vetoes s.world.behaviour r.command = false)
    (hprovides : s.object.table.provides r.command = true) (out : Outputs) :
    ∃ room, ((perform r out).run s).2.world.calls = s.world.calls ++ [⟨s.object.handle,
      .ofDevice (r.resolve s.world.wrapper s.object.own.toShadows).value, room⟩] := by
  cases r with
  | buildStructures operation infos ranges =>
    exact ⟨_, calls_perform_of_asksOnce hs (asksOnce_buildStructures operation infos ranges out) rfl
      hveto hprovides⟩
  | recordBuildStructures | getBuildSizes =>
    exact ⟨_, calls_perform_of_asksOnce hs (asksOnce_relay _ out) rfl hveto hprovides⟩
  | _ => cases hr

/-! ### Geometries that move up -/

namespace BuildInfo

/-- The place in the array of the geometry that is listed at a place: as many as there are
geometries in front of it. -/
def movedTo (b : BuildInfo) (place : Nat) : Nat := (b.listed.take place).reduceOption.length

variable {b : BuildInfo}

/-- The geometry that is listed at a place moves up to its place in the array. -/
theorem getElem?_given_movedTo {place : Nat} {g : Geometry}
    (h : b.listed[place]? = some (some g)) : b.given[b.movedTo place]? = some g := by
  obtain ⟨hplace, hget⟩ := List.getElem?_eq_some_iff.1 h
  have hsplit : b.listed = b.listed.take place ++ some g :: b.listed.drop (place + 1) := by
    rw [← hget, List.getElem_cons_drop, List.take_append_drop]
  have hgiven : b.given = (b.listed.take place).reduceOption
      ++ g :: (b.listed.drop (place + 1)).reduceOption := by
    rw [given_eq_reduceOption, ← List.reduceOption_cons_of_some, ← List.reduceOption_append,
      ← hsplit]
  rw [hgiven, movedTo, List.getElem?_append_right (Nat.le_refl _), Nat.sub_self]
  rfl

/-- Every geometry in the array was listed at a place from which it has moved up. -/
theorem exists_listed_of_given {j : Nat} {g : Geometry} (h : b.given[j]? = some g) :
    ∃ place, b.listed[place]? = some (some g) ∧ b.movedTo place = j := by
  have hj : j < b.given.length := (List.getElem?_eq_some_iff.1 h).1
  have hfront : b.given.take (j + 1) = (b.given.take j).concat g := by
    rw [List.take_add_one, h, List.concat_eq_append]
    rfl
  obtain ⟨front, back, hlisted, hgiven, -⟩ := (List.reduceOption_eq_append_iff b.listed
    (b.given.take (j + 1)) (b.given.drop (j + 1))).1
      (by rw [← given_eq_reduceOption, List.take_append_drop])
  -- the geometry is the last one of the front part
  rw [hfront] at hgiven
  obtain ⟨before, holes, rfl, hbefore, -⟩ := (List.reduceOption_eq_concat_iff ..).1 hgiven
  refine ⟨before.length, by simp [hlisted], ?_⟩
  rw [movedTo, hlisted, List.append_assoc, List.take_left, hbefore, List.length_take]
  omega

/-- Geometries stay where they are as long as no pointer in front of them is null. -/
theorem movedTo_eq_iff {place : Nat} (h : place ≤ b.listed.length) :
    b.movedTo place = place ↔ none ∉ b.listed.take place := by
  have hle := List.reduceOption_length_le (b.listed.take place)
  rw [List.length_take_of_le h] at hle
  rw [← List.reduceOption_length_lt_iff, List.length_take_of_le h, movedTo]
  omega

/-- A build, and an array of the layer that goes down for it: its number is the application's, and
it has the geometries that are listed without the null pointers between them, each with what
the range at its new place finds. -/
structure Compacts (w : Wrapper) (ranges : Option (List BuildRange)) (b b' : BuildInfo)
    (gs : List Geometry) : Prop where
  geometries : b'.geometries = some gs
  pointers : b'.pointers = none
  geometryCount : b'.geometryCount = b.geometryCount
  length : gs.length = b.listed.reduceOption.length
  exact : gs.length = b'.geometryCount.toNat ↔
    none ∉ b.listed ∧ b.listed.length = b.geometryCount.toNat
  moved : ∀ (place : Nat) (g : Geometry), b.listed[place]? = some (some g) →
    ∃ g' : Geometry, gs[b.movedTo place]? = some g' ∧ g'.flags = g.flags ∧
      g.data.GoesDownAs w (ranges.bind fun rs => rs[b.movedTo place]?) g'.data ∧
      (b.movedTo place = place ↔ none ∉ b.listed.take place)
  origin : ∀ j < gs.length, ∃ (place : Nat) (g : Geometry),
    b.listed[place]? = some (some g) ∧ b.movedTo place = j

theorem compacts_resolve {w : Wrapper} (hw : w.enabled = true) (h : b.given ≠ [])
    (ranges : Option (List BuildRange)) :
    b.Compacts w ranges (b.resolve w ranges).value (resolveAll w ranges b.given).value := by
  have hgeometries := b.geometries_resolve w ranges
  rw [if_neg h] at hgeometries
  obtain ⟨hgeometries, hpointers⟩ := Prod.mk.inj hgeometries
  have hle := List.reduceOption_length_le b.listed
  refine ⟨hgeometries, hpointers, rfl, ?length, ?exact, fun place g hg => ?moved,
    fun j hj => ?origin⟩
  case length =>
    rw [length_resolveAll, given_eq_reduceOption]
  case exact =>
    show _ = b.geometryCount.toNat ↔ _
    have hcount := b.length_listed_le
    rw [length_resolveAll, given_eq_reduceOption, ← List.reduceOption_length_lt_iff]
    omega
  case moved =>
    have hplace := (List.getElem?_eq_some_iff.1 hg).1
    refine ⟨_, ?_, g.flags_resolve w _, g.goesDownAs_resolve hw _,
      movedTo_eq_iff (Nat.le_of_lt hplace)⟩
    rw [getElem?_resolveAll, getElem?_given_movedTo hg]
    rfl
  case origin =>
    rw [length_resolveAll] at hj
    obtain ⟨place, hplace, hmoved⟩ := exists_listed_of_given (List.getElem?_eq_getElem hj)
    exact ⟨place, _, hplace, hmoved⟩

end BuildInfo

/-! ### The calls -/

/-- **The geometries that go down, their number and their ranges.**  This is about builds on the
host, builds that are recorded and questions for the sizes of builds.

The request goes down once, with as many builds.  A build that gives no geometries keeps what it
has.  Any other one goes down with an array of the layer, which has exactly the geometries that
are listed behind pointers that are not null, in the same order, while the number that goes with
it is the application's.  The array has as many geometries as that number says exactly if no
pointer is null.  A geometry behind null pointers moves up by as many places, and what is found
for it is what the range at its new place finds; that place is the old one exactly if no pointer
in front of it is null. -/
theorem compacted_geometries [NextLayer σ] {s : Layer Tracked σ}
    (hs : s.world.wrapper.enabled = true) {r : DeviceRequest} {infos : AppArray BuildInfo}
    {ranges : Option (List (List BuildRange))} (hr : r.builds? = some (infos, ranges))
    (hveto : s.object.registry.chain.vetoes s.world.behaviour r.command = false)
    (hprovides : s.object.table.provides r.command = true) (out : Outputs) :
    let w := s.world.wrapper
    ∃ r' infos' room, ((Device.perform r out).run s).2.world.calls
        = s.world.calls ++ [⟨s.object.handle, .ofDevice r', room⟩] ∧
      r'.builds? = some (infos', ranges) ∧ infos'.isNull = infos.isNull ∧
      infos'.count = infos.count ∧
      ∀ (i : Nat) (info : BuildInfo), infos.toList[i]? = some info →
        ∃ info', infos'.toList[i]? = some info' ∧
          ((∀ slot ∈ info.listed, slot = none) → info'.geometries = info.geometries ∧
            info'.pointers = info.pointers ∧ info'.geometryCount = info.geometryCount) ∧
          ((∃ slot ∈ info.listed, slot ≠ none) →
            ∃ gs, info.Compacts w (ranges.bind fun rs => rs[i]?) info' gs) := by
  intro w
  obtain ⟨room, hcalls⟩ := Device.calls_perform_of_builds? hr hs hveto hprovides out
  have hgiven : ∀ info : BuildInfo, info.given = [] ↔ ∀ slot ∈ info.listed, slot = none := by
    intro info
    rw [info.given_eq_reduceOption]
    exact List.filterMap_eq_nil_iff
  refine ⟨_, _, room, hcalls, DeviceRequest.builds?_resolve hr hs _,
    DeviceRequest.isNull_resolveBuilds .., DeviceRequest.count_resolveBuilds ..,
    fun i info hinfo => ⟨(info.resolve w (ranges.bind fun rs => rs[i]?)).value, ?_, ?_, ?_⟩⟩
  · rw [DeviceRequest.getElem?_resolveBuilds, hinfo]
    rfl
  · intro hnone
    have hgeometries := info.geometries_resolve w (ranges.bind fun rs => rs[i]?)
    rw [if_pos ((hgiven info).2 hnone)] at hgeometries
    obtain ⟨hgeometries, hpointers⟩ := Prod.mk.inj hgeometries
    exact ⟨hgeometries, hpointers, rfl⟩
  · rintro ⟨slot, hmem, hslot⟩
    exact ⟨_, info.compacts_resolve hs (fun hnil => hslot ((hgiven info).1 hnil slot hmem)) _⟩

/-- Of three pointers the one in the middle is null.  Two geometries go down as three, and the
last one is read through the range of the null pointer. -/
theorem compacted_around_null_pointer :
    let instances : GeometryData :=
      .instances 0 (.host (.store .flat 0 [⟨.replicate 56 7, idAt 0⟩, ⟨.replicate 56 8, idAt 1⟩]))
    let build : BuildInfo :=
      { (default : BuildInfo) with
        geometryCount := 3, pointers := some [some ⟨0, .aabbs 5⟩, none, some ⟨1, instances⟩] }
    let ranges : List BuildRange := [⟨1, 0⟩, ⟨1, 0⟩, ⟨2, 0⟩]
    let s := Scripted.device [.buildAccelerationStructuresKhr] [0x11, 0x22]
    let r : DeviceRequest := .buildStructures 0 (.elems [build]) (some [ranges])
    (s.world.wrapper.enabled = true ∧
        r.builds? = some (.elems [build], some [ranges]) ∧
        s.object.registry.chain.vetoes s.world.behaviour r.command = false ∧
        s.object.table.provides r.command = true) ∧
      ∃ r' infos' room, ((Device.perform r {}).run s).2.world.calls
          = [⟨0xe000, .ofDevice r', room⟩] ∧
        r'.builds? = some (infos', some [ranges]) ∧
        ∃ build' gs, infos'.toList[0]? = some build' ∧ build'.geometries = some gs ∧
          build'.geometryCount = 3 ∧ gs.length = 2 ∧
          ∃ g : Geometry, gs[1]? = some g ∧ g.flags = 1 ∧
            instances.GoesDownAs s.world.wrapper (some ⟨1, 0⟩) g.data := by
  intro instances build ranges s r
  have hs : s.world.wrapper.enabled = true := rfl
  have hveto : s.object.registry.chain.vetoes s.world.behaviour r.command = false := by
    decide +kernel
  have hprovides : s.object.table.provides r.command = true := by decide +kernel
  have hlisted : build.listed = [some ⟨0, .aabbs 5⟩, none, some ⟨1, instances⟩] := rfl
  have hmoved : build.movedTo 2 = 1 := by decide +kernel
  obtain ⟨r', infos', room, hcalls, hr', -, -, hbuilds⟩ :=
    compacted_geometries hs (r := r) rfl hveto hprovides {}
  obtain ⟨build', hbuild', -, hcompacts⟩ := hbuilds 0 build rfl
  obtain ⟨gs, hgs⟩ := hcompacts ⟨some ⟨0, .aabbs 5⟩, by simp [hlisted], by simp⟩
  refine ⟨⟨hs, rfl, hveto, hprovides⟩, r', infos', room, hcalls, hr', build', gs, hbuild',
    hgs.geometries, hgs.geometryCount, ?_, ?_⟩
  · rw [hgs.length, hlisted]
    rfl
  · obtain ⟨g, hg, hflags, hdata, -⟩ := hgs.moved 2 ⟨1, instances⟩ (by rw [hlisted]; rfl)
    rw [hmoved] at hg hdata
    exact ⟨g, hg, hflags, hdata⟩

end HandleLayer
