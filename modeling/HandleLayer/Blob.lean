/-!
# Bytes in memory

Data for templates is a run of bytes.  Words are stored with the lowest byte first, at
any place.

## Main definitions

* `wordBytes`, `wordOfBytes` — a word and its bytes.
* `Blob`, `Blob.byte`, `Blob.slice`, `Blob.word` — bytes in memory, zero beyond their end.
* `Blob.write`, `Blob.store` — bytes put at a place, within the run or making it longer.

## Main results

* `Blob.size_write`, `Blob.byte_write` — writing changes no size, and only the bytes from
  the place on.
* `Blob.byte_store` — the same for storing, which loses nothing at the end.
-/

namespace HandleLayer

/-- The eight bytes of a word, the lowest first. -/
def wordBytes (w : UInt64) : List UInt8 :=
  (List.range 8).map fun i => (w >>> (8 * i).toUInt64).toUInt8

/-- The word with these bytes, the lowest first. -/
def wordOfBytes : List UInt8 → UInt64
  | [] => 0
  | b :: rest => b.toUInt64 ||| (wordOfBytes rest <<< 8)

/-- A run of bytes in memory. -/
structure Blob where
  bytes : Array UInt8
  deriving DecidableEq, Repr, Inhabited

namespace Blob

/-- So many zero bytes. -/
def zeros (n : Nat) : Blob := ⟨Array.replicate n 0⟩

/-- The number of bytes. -/
def size (b : Blob) : Nat := b.bytes.size

/-- The byte at a place; beyond the end it is zero. -/
def byte (b : Blob) (place : Nat) : UInt8 := b.bytes[place]?.getD 0

/-- The `count` bytes from a place on. -/
def slice (b : Blob) (place count : Nat) : List UInt8 :=
  (List.range count).map fun i => b.byte (place + i)

/-- The word at a place. -/
def word (b : Blob) (place : Nat) : UInt64 := wordOfBytes (b.slice place 8)

/-- The blob with `x` at a place within it. -/
def set (b : Blob) (place : Nat) (x : UInt8) : Blob := ⟨b.bytes.setIfInBounds place x⟩

/-- The blob with `new` put at a place; what would go beyond the end is lost. -/
def write : (b : Blob) → (place : Nat) → (new : List UInt8) → Blob
  | b, _, [] => b
  | b, place, x :: new => write (b.set place x) (place + 1) new

/-- The blob with zero bytes at its end, where it has fewer than `n` bytes. -/
def extend (b : Blob) (n : Nat) : Blob := ⟨b.bytes ++ Array.replicate (n - b.size) 0⟩

/-- The blob with `new` put at a place, made long enough to hold it. -/
def store (b : Blob) (place : Nat) (new : List UInt8) : Blob :=
  (b.extend (place + new.length)).write place new

/-! ### Sizes -/

@[simp] theorem size_zeros (n : Nat) : (zeros n).size = n := by simp [zeros, size]

@[simp] theorem length_slice (b : Blob) (place count : Nat) :
    (b.slice place count).length = count := by
  simp [slice]

@[simp] theorem size_set (b : Blob) (place : Nat) (x : UInt8) :
    (b.set place x).size = b.size := by
  simp [set, size]

@[simp] theorem size_write (b : Blob) (place : Nat) (new : List UInt8) :
    (b.write place new).size = b.size := by
  induction new generalizing b place with
  | nil => rfl
  | cons x new ih => rw [write, ih, size_set]

@[simp] theorem size_extend (b : Blob) (n : Nat) : (b.extend n).size = max b.size n := by
  simp only [extend, size, Array.size_append, Array.size_replicate]
  omega

/-! ### Bytes -/

@[simp] theorem byte_zeros (n i : Nat) : (zeros n).byte i = 0 := by
  rw [zeros, byte, Array.getElem?_replicate]
  split <;> rfl

theorem getElem?_slice (b : Blob) (place count i : Nat) :
    (b.slice place count)[i]? = if i < count then some (b.byte (place + i)) else none := by
  by_cases h : i < count <;> simp [slice, h]

theorem byte_set (b : Blob) (place : Nat) (x : UInt8) (i : Nat) :
    (b.set place x).byte i = if i = place ∧ i < b.size then x else b.byte i := by
  simp only [set, byte, size, Array.getElem?_setIfInBounds]
  grind

theorem byte_write (b : Blob) (place : Nat) (new : List UInt8) (i : Nat) :
    (b.write place new).byte i
      = if place ≤ i ∧ i < b.size then new[i - place]?.getD (b.byte i) else b.byte i := by
  induction new generalizing b place with
  | nil => simp [write]
  | cons x new ih =>
    rw [write, ih, byte_set, size_set]
    grind

@[simp] theorem byte_extend (b : Blob) (n i : Nat) : (b.extend n).byte i = b.byte i := by
  simp only [extend, byte, size, Array.getElem?_append, Array.getElem?_replicate]
  grind

theorem byte_store (b : Blob) (place : Nat) (new : List UInt8) (i : Nat) :
    (b.store place new).byte i
      = if place ≤ i then new[i - place]?.getD (b.byte i) else b.byte i := by
  rw [store, byte_write, byte_extend, size_extend]
  grind

end Blob

end HandleLayer
