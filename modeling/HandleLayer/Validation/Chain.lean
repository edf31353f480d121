import HandleLayer.Command
import HandleLayer.Handle
import HandleLayer.Result
import HandleLayer.Validation.Kind

/-!
# Chains of validation objects

Validation objects watch the calls.  Each says which commands it intercepts; its hooks
run around those calls, and it may ask to skip one.  The life of every object of the
application is announced to all of them.

## Main definitions

* `ValidationObject`, `Behaviour` — the objects, and how they answer.
* `Hook` — what an object is told.
* `ValidationChain`, `ValidationChain.intercepting` — the objects in order, and those that
  intercept a command.

## Main results

* `ValidationChain.intercepting_new` — the index of a chain against the answers of its objects.
-/

namespace HandleLayer

/-- A validation object. -/
structure ValidationObject where
  /-- Tells the objects apart. -/
  id : Nat
  kind : ObjectKind
  deriving DecidableEq, Repr, Inhabited

/-- How validation objects answer, by their ids. -/
structure Behaviour where
  /-- Whether the object wants to be told of a command. -/
  intercepts : Nat → Command → Bool
  /-- Whether the object asks to skip a command. -/
  vetoes : Nat → Command → Bool

instance : Inhabited Behaviour := ⟨⟨fun _ _ => true, fun _ _ => false⟩⟩

/-- What a validation object is told. -/
inductive Hook
  /-- A call is about to be made and may still be skipped. -/
  | validate (command : Command)
  /-- A call is made next. -/
  | before (command : Command)
  /-- A call was made. -/
  | after (command : Command) (result : Result)
  /-- A handle of the application exists from now on. -/
  | created (type : ObjectType) (handle : Handle)
  /-- A handle of the application is gone. -/
  | destroyed (type : ObjectType) (handle : Handle)
  /-- Pipelines whose creation was deferred exist from now on. -/
  | pipelinesReady (operation : Handle) (pipelines : List Handle)
  deriving DecidableEq, Repr

/-- Validation objects in order.  What each one intercepts is asked once, when the chain
is built. -/
structure ValidationChain where
  objects : List ValidationObject
  /-- The commands that any of them intercepts, each with the objects that do, in order. -/
  index : List (Command × List ValidationObject)

namespace ValidationChain

/-- The entries of an index under these commands; a command that nobody intercepts has none. -/
def indexOf (hooked : Command → List ValidationObject) :
    List Command → List (Command × List ValidationObject)
  | [] => []
  | c :: commands =>
    if (hooked c).isEmpty then indexOf hooked commands
    else (c, hooked c) :: indexOf hooked commands

/-- The chain of these objects. -/
def new (b : Behaviour) (objects : List ValidationObject) : ValidationChain where
  objects
  index := indexOf (fun c => objects.filter fun o => b.intercepts o.id c) Command.all

instance : Inhabited ValidationChain := ⟨new default []⟩

/-- The first object of a kind. -/
def get? (c : ValidationChain) (kind : ObjectKind) : Option ValidationObject :=
  c.objects.find? fun o => o.kind = kind

/-- The objects that intercept a command, in order. -/
def intercepting (c : ValidationChain) (command : Command) : List ValidationObject :=
  (c.index.lookup command).getD []

/-- Whether any object that intercepts the command asks to skip it. -/
def vetoes (c : ValidationChain) (b : Behaviour) (command : Command) : Bool :=
  (c.intercepting command).any fun o => b.vetoes o.id command

/-- What is found in an index under a command. -/
theorem lookup_indexOf (hooked : Command → List ValidationObject) (commands : List Command)
    (c : Command) :
    ((indexOf hooked commands).lookup c).getD [] = if c ∈ commands then hooked c else [] := by
  induction commands with
  | nil => rfl
  | cons c' commands ih =>
    rw [indexOf]
    by_cases hc : c = c'
    · subst hc
      split
      · next hempty =>
        have hnone : hooked c = [] := List.isEmpty_iff.1 hempty
        simp [ih, hnone]
      · simp
    · have hne : (c == c') = false := beq_false_of_ne hc
      split
      · simp [ih, hc]
      · simp [ih, hc, List.lookup_cons, hne]

@[simp] theorem objects_new (b : Behaviour) (objects : List ValidationObject) :
    (new b objects).objects = objects := rfl

/-- The index holds what the objects have answered, for every command. -/
@[simp] theorem intercepting_new (b : Behaviour) (objects : List ValidationObject)
    (c : Command) :
    (new b objects).intercepting c = objects.filter fun o => b.intercepts o.id c :=
  (lookup_indexOf _ _ c).trans (if_pos c.mem_all)

end ValidationChain

end HandleLayer
