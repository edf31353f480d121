import HandleLayer.Description.Chain
import HandleLayer.Geometry

/-!
# Descriptions of builds

A build is described with its geometries and, for a build on the host, read through its
ranges: what the next layer finds in the memory of the instances.

## Main definitions

* `BuildInfo.ofDatum`, `Datum.buildRanges` — a build and its ranges.
* `BuildInfo.describe`, `describeHostBuilds` — builds as the next layer sees them.
-/

namespace HandleLayer

open Datum (ofWord ofU32 ofNat ofOption ofList)

/-! ### Geometries -/

/-- The lowest bytes of a number, the lowest first. -/
def lowBytes (count n : Nat) : List UInt8 := (wordBytes n.toUInt64).take count

/-- The instance with these fields, each reduced to its width. -/
def Instance.ofDatum (names : Names) (d : Datum) : Instance :=
  let fields := Blob.mk ((lowBytes 4 (d.get "x").nat ++ List.replicate 44 0
    ++ lowBytes 3 (d.get "index").nat ++ lowBytes 1 (d.get "mask").nat
    ++ lowBytes 3 (d.get "sbt").nat ++ lowBytes 1 (d.get "flags").nat).toArray)
  { fields := .ofFn fun n => fields.byte n
    reference := (d.get "ref").word names }

/-- The fields of an instance; of the transformation, the bits of its first number. -/
def Instance.describe (i : Instance) : Datum :=
  let number (place count : Nat) : Datum :=
    ofNat (wordOfBytes ((Blob.mk i.fields.toArray).slice place count)).toNat
  .record [("ref", ofWord i.reference), ("index", number 48 3), ("mask", number 51 1),
    ("sbt", number 52 3), ("flags", number 55 1), ("x", number 0 4)]

/-- The byte in front of instances in memory of the application. -/
def leadByte : UInt8 := 0xee

/-- Instances in memory of the host where a list of them is given, else an address. -/
def InstanceSource.ofDatum (names : Names) (layout : InstanceLayout) (d : Datum) :
    InstanceSource :=
  match d.get "instances" with
  | .list xs =>
    let offset := (d.get "offset").nat
    let memory := HostMemory.store layout offset (xs.map (Instance.ofDatum names))
    .host { memory with bytes := memory.bytes.write 0 (List.replicate offset leadByte) }
  | _ => .address ((d.get "address").word names)

/-- What a geometry of the type that is given consists of. -/
def GeometryData.ofDatum (names : Names) (d : Datum) : GeometryData :=
  match (d.get "type").int with
  | 0 => .triangles (d.chain names) ((d.get "vertex").word names)
  | 1 => .aabbs ((d.get "address").word names)
  | 2 =>
    let arrayOfPointers := (d.get "array_of_pointers").u32
    .instances arrayOfPointers (.ofDatum names (layoutOf arrayOfPointers) d)
  | type => .other type

/-- The geometry with these flags. -/
def Geometry.ofDatum (names : Names) (d : Datum) : Geometry :=
  ⟨(d.get "flags").u32, .ofDatum names d⟩

/-- Who builds: the host, through the ranges that are given, or the device. -/
inductive Builder
  | host (ranges : Option (List BuildRange))
  | device
  deriving DecidableEq, Repr

/-- The range that goes with a geometry; the outer none stands for the device. -/
def Builder.range (b : Builder) (place : Nat) : Option (Option BuildRange) :=
  match b with
  | host ranges => some (ranges.bind fun rs => rs[place]?)
  | device => none

/-- Where instances are, for a device, or what is found there, for the host. -/
def InstanceSource.fields (layout : InstanceLayout) (range : Option (Option BuildRange))
    (s : InstanceSource) : List (String × Datum) :=
  match range, s.memory? with
  | none, _ =>
    match s with
    | address a => [("address", ofWord a)]
    | host _ => [("address", ofWord 0)]
  | some _, none => [("instances", .null)]
  | some none, some _ => [("instances", .text "unread")]
  | some (some range), some memory =>
    [("instances", ofList Instance.describe (memory.read layout range)),
      ("pad", .ofBytes (memory.bytes.bytes.toList.take range.offset.toNat))]

/-- What a geometry consists of, with its instances as they are found through the range. -/
def GeometryData.fields (range : Option (Option BuildRange)) :
    GeometryData → List (String × Datum)
  | triangles chain vertex => [("chain", chain.describe), ("vertex", ofWord vertex)]
  | aabbs address => [("address", ofWord address)]
  | instances arrayOfPointers source =>
    ("array_of_pointers", ofU32 arrayOfPointers)
      :: source.fields (layoutOf arrayOfPointers) range
  | other _ => []

/-- A geometry with its type and its flags. -/
def Geometry.describe (range : Option (Option BuildRange)) (g : Geometry) : Datum :=
  .record (("type", .number g.data.type) :: ("geometry_flags", ofU32 g.flags)
    :: g.data.fields range)

/-! ### Builds -/

/-- Without an array of geometries there are as many as pointers. -/
def BuildInfo.ofDatum (names : Names) (d : Datum) : BuildInfo :=
  let geometries := (d.get "geometries").array (Geometry.ofDatum names)
  let pointers := (d.get "pp").optional fun ps =>
    ps.items.map (Datum.optional (Geometry.ofDatum names))
  let count :=
    match geometries, pointers with
    | .null _, some ps => ps.length
    | gs, _ => gs.count
  { type := (d.get "type").int
    mode := (d.get "mode").int
    src := (d.get "src").word names
    dst := (d.get "dst").word names
    geometryCount := count.toUInt32
    geometries := if geometries.isNull then none else some geometries.toList
    pointers }

/-- The range of a geometry: all its instances, as far in as they start. -/
def BuildRange.ofDatum (d : Datum) : BuildRange :=
  ⟨(d.get "instances").items.length.toUInt32, (d.get "offset").u32⟩

/-- The ranges of a build, one for each geometry that is given. -/
def Datum.buildRanges (d : Datum) : List BuildRange :=
  match d.get "geometries" with
  | .list xs => xs.map BuildRange.ofDatum
  | _ => ((d.get "pp").items.filter fun x => !x.isNull).map BuildRange.ofDatum

/-- Pointers to geometries, of which those that are not null go with the ranges in
order. -/
def describePointers (b : Builder) : (place : Nat) → List (Option Geometry) → List Datum
  | _, [] => []
  | place, none :: rest => .null :: describePointers b place rest
  | place, some g :: rest => g.describe (b.range place) :: describePointers b (place + 1) rest

/-- An array of geometries, the ranges in the same order. -/
def describeGeometries (b : Builder) (gs : List Geometry) : Datum :=
  .list (gs.zipIdx.map fun (g, place) => g.describe (b.range place))

/-- A build, with no more geometries than its count says. -/
def BuildInfo.describe (b : Builder) (info : BuildInfo) : Datum :=
  let count := info.geometryCount.toNat
  .record [("type", .number info.type), ("mode", .number info.mode),
    ("src", ofWord info.src), ("dst", ofWord info.dst), ("geometry_count", ofNat count),
    ("geometries", ofOption (fun gs => describeGeometries b (gs.take count)) info.geometries),
    ("pp", ofOption (fun ps => .list (describePointers b 0 (ps.take count))) info.pointers)]

/-- Builds by the host, each with the ranges at its place. -/
def describeHostBuilds (ranges : Option (List (List BuildRange))) (infos : List BuildInfo) :
    List Datum :=
  infos.zipIdx.map fun (info, i) => info.describe (.host (ranges.bind fun rs => rs[i]?))

end HandleLayer
