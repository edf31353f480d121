import HandleLayer.Handle
import HandleLayer.Table

/-!
# The surrogate map

The layer mints a surrogate for every real handle it shows to the application and looks
the real handle up again when the surrogate comes back.  Real handles need not be
distinct, so wrapping always mints; only handles that the next layer reports again and
again keep one surrogate, through a second table from real handle to surrogate.

## Main definitions

* `spread`, `drawId` — surrogates from counter values.
* `SurrogateMap` — both tables and the counter.
* `wrap`, `wrapUnique`, `unwrap`, `pop`, `erase`, `clear` — its operations.

## Main results

* `spread_injective` — different counter values give different ids.
* `isSome_drawId` — three draws always give an id other than zero and the real handle.
* `SurrogateMap.unwrap_wrap`, `SurrogateMap.unwrap_pop` and their like — each operation
  through `unwrap`.
-/

namespace HandleLayer

/-! ### Drawing ids -/

/-- Spreads counter values over all words, so that surrogates look neither like small
real handles nor like addresses. -/
def spread (counter : UInt64) : Handle :=
  UInt64.ofBitVec (counter.toBitVec.rotateLeft 40) ^^^ 0x52564c0000000000

theorem rotateLeft_forty_injective {a b : BitVec 64}
    (h : a.rotateLeft 40 = b.rotateLeft 40) : a = b := by
  apply BitVec.eq_of_getElem_eq
  intro j hj
  -- bit `j` is found 40 places higher, modulo the width
  have hi : (j + 40) % 64 < 64 := Nat.mod_lt _ (by decide)
  have := congrArg (fun v : BitVec 64 => v[(j + 40) % 64]) h
  simp only [BitVec.getElem_rotateLeft] at this
  by_cases hlt : j < 24
  · have e : (j + 40) % 64 = j + 40 := Nat.mod_eq_of_lt (by omega)
    have ge : ¬ j + 40 < 40 := by omega
    simpa [e, ge] using this
  · have e : (j + 40) % 64 = j - 24 := by omega
    have e' : 24 + (j - 24) = j := by omega
    have lt : j - 24 < 40 := by omega
    simpa [e, e', lt] using this

/-- Different counter values give different ids. -/
theorem spread_injective {a b : UInt64} (h : spread a = spread b) : a = b := by
  have h' := congrArg UInt64.toBitVec h
  simp only [spread, UInt64.toBitVec_xor] at h'
  exact UInt64.toBitVec_inj.1 (rotateLeft_forty_injective ((BitVec.xor_left_inj _).1 h'))

/-- The first id other than zero and `real` among those of the counter values from
`counter` on, with the number of values drawn for it; at most `draws` values are tried. -/
def drawId (real : Handle) : (draws : Nat) → (counter : UInt64) → Option (Handle × Nat)
  | 0, _ => none
  | draws + 1, counter =>
    if spread counter ≠ 0 ∧ spread counter ≠ real then some (spread counter, 1)
    else (drawId real draws (counter + 1)).map fun (id, n) => (id, n + 1)

/-- Each of the two forbidden ids belongs to one counter value only, so that three draws
are enough. -/
theorem isSome_drawId (real : Handle) (counter : UInt64) :
    (drawId real 3 counter).isSome = true := by
  have h01 : spread counter ≠ spread (counter + 1) := fun h => by
    have := spread_injective h
    have := congrArg UInt64.toNat this
    simp only [UInt64.toNat_add, UInt64.reduceToNat] at this
    have := counter.toNat_lt
    omega
  have h12 : spread (counter + 1) ≠ spread (counter + 1 + 1) := fun h => by
    have := spread_injective h
    have := congrArg UInt64.toNat this
    simp only [UInt64.toNat_add, UInt64.reduceToNat] at this
    have := counter.toNat_lt
    omega
  have h02 : spread counter ≠ spread (counter + 1 + 1) := fun h => by
    have := spread_injective h
    have := congrArg UInt64.toNat this
    simp only [UInt64.toNat_add, UInt64.reduceToNat] at this
    have := counter.toNat_lt
    omega
  simp only [drawId, apply_ite Option.isSome, Option.isSome_map, Option.isSome_some,
    Option.isSome_none]
  by_cases h0 : spread counter = 0 <;> by_cases h1 : spread (counter + 1) = 0 <;>
    by_cases hr : spread counter = real <;> by_cases hr' : spread (counter + 1) = real <;>
    simp_all [Ne.symm]

/-! ### The map -/

/-- Surrogates with the real handles behind them. -/
structure SurrogateMap where
  /-- The real handle behind each live surrogate. -/
  forward : Table Handle Handle
  /-- The surrogate of each real handle that was wrapped to keep one surrogate. -/
  reverse : Table Handle Handle
  /-- The number of counter values drawn so far. -/
  drawn : Nat

namespace SurrogateMap

/-- The map without surrogates; nothing was drawn for it. -/
def empty : SurrogateMap := ⟨.empty, .empty, 0⟩

instance : Inhabited SurrogateMap := ⟨empty⟩

/-- The counter value to be drawn next: the counter starts at one and comes round after
the last word. -/
def counter (m : SurrogateMap) : UInt64 := (m.drawn + 1).toUInt64

/-- An id for `real`, and the map with the counter advanced past it. -/
def mint (m : SurrogateMap) (real : Handle) : Handle × SurrogateMap :=
  let found := (drawId real 3 m.counter).get (isSome_drawId real m.counter)
  (found.1, { m with drawn := m.drawn + found.2 })

/-- Mints a surrogate for `real`, which may have others. -/
def wrap (m : SurrogateMap) (real : Handle) : Handle × SurrogateMap :=
  let (surrogate, m) := m.mint real
  (surrogate, { m with forward := m.forward.insert surrogate real })

/-- The surrogate kept for `real`, minted at first sight. -/
def wrapUnique (m : SurrogateMap) (real : Handle) : Handle × SurrogateMap :=
  match m.reverse.get? real with
  | some surrogate => (surrogate, m)
  | none =>
    let (surrogate, m) := m.wrap real
    (surrogate, { m with reverse := m.reverse.insert real surrogate })

/-- The real handle behind a live surrogate. -/
def unwrap (m : SurrogateMap) (surrogate : Handle) : Option Handle :=
  m.forward.get? surrogate

/-- The real handle behind a live surrogate, which is removed.  A kept surrogate is
forgotten only if it is this one. -/
def pop (m : SurrogateMap) (surrogate : Handle) : Option Handle × SurrogateMap :=
  match m.forward.get? surrogate with
  | none => (none, m)
  | some real =>
    (some real,
      { m with
        forward := m.forward.erase surrogate
        reverse :=
          if m.reverse.get? real = some surrogate then m.reverse.erase real else m.reverse })

/-- Removes a surrogate and says whether it was live. -/
def erase (m : SurrogateMap) (surrogate : Handle) : Bool × SurrogateMap :=
  let (real, m) := m.pop surrogate
  (real.isSome, m)

/-- Whether the surrogate is live. -/
def contains (m : SurrogateMap) (surrogate : Handle) : Bool :=
  m.forward.contains surrogate

/-- The number of live surrogates. -/
def size (m : SurrogateMap) : Nat := m.forward.size

/-- Whether no surrogate is live. -/
def isEmpty (m : SurrogateMap) : Bool := m.forward.isEmpty

/-- Forgets every surrogate; ids drawn before are not drawn again. -/
def clear (m : SurrogateMap) : SurrogateMap :=
  { m with forward := .empty, reverse := .empty }

/-- Wraps the handles in order. -/
def wrapMany (m : SurrogateMap) : List Handle → List Handle × SurrogateMap
  | [] => ([], m)
  | real :: reals =>
    let (surrogate, m) := m.wrap real
    let (surrogates, m) := m.wrapMany reals
    (surrogate :: surrogates, m)

@[simp] theorem unwrap_empty (h : Handle) : empty.unwrap h = none := rfl

@[simp] theorem unwrap_clear (m : SurrogateMap) (h : Handle) : m.clear.unwrap h = none := rfl

@[simp] theorem unwrap_wrap (m : SurrogateMap) (real : Handle) :
    (m.wrap real).2.unwrap (m.wrap real).1 = some real := by
  simp [wrap, unwrap]

@[simp] theorem pop_fst (m : SurrogateMap) (h : Handle) : (m.pop h).1 = m.unwrap h := by
  unfold pop unwrap
  cases m.forward.get? h <;> rfl

@[simp] theorem unwrap_pop (m : SurrogateMap) (h h' : Handle) :
    (m.pop h).2.unwrap h' = if h = h' then none else m.unwrap h' := by
  unfold pop
  split
  · rename_i hnone
    split
    · rename_i e
      exact e ▸ hnone
    · rfl
  · exact Table.get?_erase m.forward h h'

@[simp] theorem unwrap_erase (m : SurrogateMap) (h h' : Handle) :
    (m.erase h).2.unwrap h' = if h = h' then none else m.unwrap h' :=
  unwrap_pop m h h'

end SurrogateMap

end HandleLayer
