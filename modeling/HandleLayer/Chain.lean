import HandleLayer.Chain.Block
import HandleLayer.Notice
import HandleLayer.Wrapper

/-!
# Copies of extension chains

The application's chain is never handed down with handles replaced in place: the layer
copies block by block with the real handles in the copies.  A block of unknown layout
cannot be copied, so that it and everything after it go down by reference.

The next layer writes outputs into the chain that it got: into the copies, whose outputs
are copied back afterwards, and straight into the application's blocks where those went
down by reference.

## Main definitions

* `Chain` — copied blocks followed by blocks of the application.
* `Chain.copy` — the copy of a chain of the application.
* `Chain.fill`, `Chain.appAfter`, `Chain.copyBack` — the outputs, in the chain handed
  down, in the application's chain at once, and by copying back.

## Main results

* `Chain.copy_shared` — the copied blocks and the shared ones together are as many as the
  application's, and the shared ones are its own.
-/

namespace HandleLayer

/-- A chain as the next layer gets it. -/
structure Chain where
  /-- The blocks that are copies of the layer. -/
  copied : List Block
  /-- The blocks of the application that follow them. -/
  shared : List Block
  deriving DecidableEq, Repr

namespace Chain

/-- The chain without blocks. -/
def empty : Chain := ⟨[], []⟩

instance : Inhabited Chain := ⟨empty⟩

/-- A chain of the application, handed down as it is. -/
def ofApp (blocks : List Block) : Chain := ⟨[], blocks⟩

/-- All blocks in order. -/
def blocks (c : Chain) : List Block := c.copied ++ c.shared

/-- The copies of the blocks up to the first one of unknown layout, and the blocks from
there on. -/
def copyPrefix (f : Handle → Handle) : List Block → List Block × List Block
  | [] => ([], [])
  | b :: rest =>
    match b.copy? f with
    | none => ([], b :: rest)
    | some c =>
      let (copies, shared) := copyPrefix f rest
      (c :: copies, shared)

/-- The notice that a block cuts a chain, if there is such a block. -/
def cutNotice : List Block → List Notice
  | [] => []
  | b :: _ => [.chainCut b.sType]

/-- The layer's copy of a chain with the real handles in it. -/
def copy (w : Wrapper) (app : List Block) : Noted Chain :=
  let (copied, shared) := copyPrefix w.unwrap app
  ⟨⟨copied, shared⟩, cutNotice shared⟩

/-- The formats of dynamic rendering, from the first copied block that has them: the
number of colour attachments, and the depth and stencil formats. -/
def rendering? (c : Chain) : Option (UInt32 × Nat × Int × Int) :=
  c.copied.findSome? fun
    | .rendering viewMask colors depth stencil => some (viewMask, colors.count, depth, stencil)
    | _ => none

/-! ### Outputs -/

/-- The blocks after the writes, made block by block. -/
def fillBlocks : List Block → List BlockFill → List Block
  | [], _ => []
  | b :: rest, [] => b :: rest
  | b :: rest, w :: ws => b.fill w :: fillBlocks rest ws

/-- The chain after the next layer has written its outputs. -/
def fill (c : Chain) (ws : List BlockFill) : Chain :=
  ⟨fillBlocks c.copied ws, fillBlocks c.shared (ws.drop c.copied.length)⟩

/-- The application's chain when its shared blocks are as they are in `c`. -/
def appAfter (c : Chain) (app : List Block) : List Block :=
  app.take c.copied.length ++ c.shared

/-- The application's chain with the outputs of the copies taken over. -/
def copyBack (copies app : List Block) : List Block :=
  fillBlocks app (copies.map Block.outputs)

/-- The application's chain once the call is over, when `c` is what the next layer has
left of the chain handed down. -/
def settle (c : Chain) (app : List Block) : List Block := copyBack c.copied (c.appAfter app)

/-! ### Lengths -/

theorem length_fillBlocks (blocks : List Block) (ws : List BlockFill) :
    (fillBlocks blocks ws).length = blocks.length := by
  induction blocks generalizing ws with
  | nil => rfl
  | cons b rest ih =>
    cases ws with
    | nil => rfl
    | cons x ws => exact congrArg (· + 1) (ih ws)

theorem copyPrefix_length (f : Handle → Handle) (app : List Block) :
    (copyPrefix f app).2 = app.drop (copyPrefix f app).1.length := by
  induction app with
  | nil => rfl
  | cons b rest ih =>
    simp only [copyPrefix]
    split
    · rfl
    · simpa using ih

/-- The shared blocks are the application's own. -/
theorem copy_shared (w : Wrapper) (app : List Block) :
    (copy w app).value.shared = app.drop (copy w app).value.copied.length :=
  copyPrefix_length w.unwrap app

end Chain

end HandleLayer
