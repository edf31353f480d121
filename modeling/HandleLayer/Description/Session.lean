import HandleLayer.Description.Request
import HandleLayer.Session

/-!
# Described sessions

What a scripted layer is to answer, how validation objects are to behave, and what was
seen while a call ran.

## Main definitions

* `Script.ofDatum`, `ScriptedObject.ofDatum?` — what is laid down beforehand.
* `Hook.describe`, `Notice.describe`, `ToolSlot.describe` — what was seen.
* `describeCalls`, `describeHooks`, `describeNotices` — a trace, kind by kind.
-/

namespace HandleLayer

open Datum (ofWord ofU32 ofNat ofList ofWords)

/-! ### What is laid down -/

/-- The tool with these texts and purposes. -/
def Tool.ofDatum (d : Datum) : Tool where
  name := (d.get "name").string
  version := (d.get "version").string
  purposes := (d.get "purposes").u32
  description := (d.get "description").string
  layer := (d.get "layer").string

/-- What is to be answered; the outputs are read as handles and as tools, whichever the call asks
for. -/
def Script.ofDatum (names : Names) (d : Datum) : Script :=
  let out := d.get "out"
  { result := (d.get "result").optional Result.ofDatum
    handles := out.optional fun hs => hs.items.map (Datum.optional (Datum.word names))
    tools := out.items.map Tool.ofDatum
    feedback := (d.get "feedback").optional (Feedback.ofDatum names)
    metal := (d.get "metal").optional (Datum.word names)
    index := (d.get "index").u32
    results := (d.get "results").items.map (Datum.optional Result.ofDatum)
    size := (d.get "size").word names }

/-- The commands with the names of a list. -/
def Datum.commands (d : Datum) : List Command :=
  d.items.filterMap fun x => Command.ofName? x.string

/-- The kind of validation object under the key of that name. -/
def Datum.kind? (d : Datum) : Option ObjectKind := ObjectKind.ofName? (d.get "kind").string

/-- The validation object of a known kind. -/
def ScriptedObject.ofDatum? (d : Datum) : Option ScriptedObject :=
  d.kind?.map fun kind =>
    { kind
      vetoes := (d.get "veto").commands
      only := (d.get "only").optional Datum.commands
      silent := (d.get "silent").isTrue }

/-- The validation objects under the key of that name. -/
def Datum.scriptedObjects (d : Datum) : List ScriptedObject :=
  (d.get "objects").items.filterMap ScriptedObject.ofDatum?

/-- The places under a key; none stands for all. -/
def Datum.places (d : Datum) (key : String) : Option (List Nat) :=
  (d.get key).optional fun xs => xs.items.map Datum.nat

/-- The version of a physical device whose description gives none. -/
def defaultDeviceVersion : ApiVersion := ApiVersion.pack 0 1 3 + 250

/-- The device on the physical device and at the version that are given, or the usual ones. -/
def DeviceSetup.ofDatum (d : Datum) : DeviceSetup where
  physicalDevice := d.physicalDevice []
  apiVersion := ((d.get "api").optional Datum.u32).getD defaultDeviceVersion
  objects := d.places "objects"

/-! ### What was seen -/

/-- The kinds of validation objects, in order. -/
def describeKinds (objects : List ValidationObject) : Datum :=
  ofList (fun o => .text o.kind.name) objects

/-- What a validation object was told. -/
def Hook.describe (o : ValidationObject) : Hook → Datum
  | validate c => .list [ofNat o.id, .text "validate", .text c.name]
  | before c => .list [ofNat o.id, .text "pre", .text c.name]
  | after c r => .list [ofNat o.id, .text "post", .text c.name, r.describe]
  | created t h => .list [ofNat o.id, .text "created", ofNat t.code, ofWord h]
  | destroyed t h => .list [ofNat o.id, .text "destroyed", ofNat t.code, ofWord h]
  | pipelinesReady operation pipelines =>
    .list [ofNat o.id, .text "ready", ofWord operation, ofWords pipelines]

/-- A line of the log with its level. -/
def describeLine (level : Level) (message : String) : Datum :=
  .list [.text level.name, .text message]

/-- A line of the log for a notice. -/
def Notice.describe (n : Notice) : Datum := describeLine n.level n.message

/-- The calls that reached the next layer. -/
def describeCalls (events : List Event) : List Datum :=
  events.filterMap fun
    | .call c => some c.describe
    | _ => none

/-- What the validation objects were told, apart from the silent ones among them. -/
def describeHooks (objects : List ScriptedObject) (events : List Event) : List Datum :=
  events.filterMap fun
    | .told o h => if objects[o.id]?.any ScriptedObject.silent then none else some (h.describe o)
    | _ => none

/-- What was written to the log. -/
def describeNotices (events : List Event) : List Datum :=
  events.filterMap fun
    | .notice n => some n.describe
    | _ => none

/-- What a tool says of itself. -/
def Tool.fields (t : Tool) : List (String × Datum) :=
  [("name", .text t.name), ("version", .text t.version), ("purposes", ofU32 t.purposes),
    ("description", .text t.description), ("layer", .text t.layer)]

/-- A slot with its type, its chain and its tool. -/
def ToolSlot.describe (s : ToolSlot) : Datum :=
  .record (("s_type", .number s.sType) :: ("chain", describeBlocks s.chain) :: s.tool.fields)

/-- The subpasses up to `last` with attachments. -/
def RenderPassUsage.describe (last : Nat) (u : RenderPassUsage) : Datum :=
  let asked := (List.range (last + 1)).map Nat.toUInt32
  .record [("color", ofList ofU32 (asked.filter u.usesColor)),
    ("depth_stencil", ofList ofU32 (asked.filter u.usesDepthStencil))]

end HandleLayer
