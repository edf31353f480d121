import HandleLayer.Notice
import HandleLayer.Settings
import HandleLayer.Validation.Chain

/-!
# The registry of validation objects

An instance or a device owns its validation objects.  Those whose feature is not active
are left out from the start; others can be released later, which builds a new chain of
the ones that stay.

## Main definitions

* `Registry`, `Registry.new` — the current chain, and the objects released from it.
* `Registry.release`, `Registry.releaseAll`.

## Main results

* `Registry.objects_releaseIf`, `Registry.released_releaseIf` — where the objects go.
-/

namespace HandleLayer

/-- The current chain and the objects that were released. -/
structure Registry where
  chain : ValidationChain
  /-- The released objects, in the order of their release. -/
  released : List ValidationObject

namespace Registry

instance : Inhabited Registry := ⟨⟨default, []⟩⟩

/-- Whether the feature of a kind, if it has one, is active. -/
def admits (s : Settings) (kind : ObjectKind) : Bool :=
  kind.feature?.all s.isActive

/-- The registry of those objects whose kind is admitted, with a notice for each of the
others. -/
def new (b : Behaviour) (s : Settings) (objects : List ValidationObject) : Noted Registry :=
  ⟨⟨.new b (objects.filter fun o => admits s o.kind), []⟩,
    (objects.filter fun o => !admits s o.kind).map fun o => .objectDisabled o.kind⟩

/-- The first object of a kind in the current chain. -/
def get? (r : Registry) (kind : ObjectKind) : Option ValidationObject := r.chain.get? kind

/-- Releases the objects that satisfy `p`; the others are asked anew what they
intercept. -/
def releaseIf (p : ValidationObject → Bool) (b : Behaviour) (r : Registry) : Registry :=
  ⟨.new b (r.chain.objects.filter fun o => !p o), r.released ++ r.chain.objects.filter p⟩

/-- Releases the objects of a kind. -/
def release (kind : ObjectKind) (b : Behaviour) (r : Registry) : Registry :=
  releaseIf (fun o => o.kind = kind) b r

/-- Releases every object. -/
def releaseAll (b : Behaviour) (r : Registry) : Registry := releaseIf (fun _ => true) b r

@[simp] theorem objects_releaseIf (p : ValidationObject → Bool) (b : Behaviour)
    (r : Registry) :
    (r.releaseIf p b).chain.objects = r.chain.objects.filter fun o => !p o := rfl

@[simp] theorem released_releaseIf (p : ValidationObject → Bool) (b : Behaviour)
    (r : Registry) :
    (r.releaseIf p b).released = r.released ++ r.chain.objects.filter p := rfl

end Registry

end HandleLayer
