import HandleLayer.AppArray
import HandleLayer.Handle

/-!
# Described data

Calls, and what becomes of them, can be described by trees of records, lists, texts and
numbers.  A handle in a description may be given by a name that was bound to it before.

## Main definitions

* `Datum` — a tree.
* `Datum.get`, `Datum.int`, `Datum.word` and their like — what stands in a tree; what is
  missing or of another form counts as zero, false or empty.
* `Datum.ofWord`, `Datum.ofList` and their like — trees for values.
* `Names` — handles by their names.
-/

namespace HandleLayer

/-- A tree that describes something. -/
inductive Datum
  | null
  | truth (b : Bool)
  | number (n : Int)
  | text (s : String)
  | list (items : List Datum)
  | record (fields : List (String × Datum))
  deriving Inhabited, Repr

/-- Handles by the names bound to them, newest first. -/
abbrev Names := List (String × Handle)

namespace Names

/-- The handle that a name is bound to; an unbound name stands for the null handle. -/
def handle (names : Names) (name : String) : Handle := (List.lookup name names).getD 0

/-- Binds names to handles, as many as there are of both. -/
def bind (names : Names) (new : List String) (handles : List Handle) : Names :=
  (new.zip handles).reverse ++ names

end Names

namespace Datum

/-! ### Reading -/

/-- What stands under a key. -/
def get (d : Datum) (key : String) : Datum :=
  match d with
  | record fields => (List.lookup key fields).getD null
  | _ => null

/-- Whether a datum is nothing. -/
def isNull : Datum → Bool
  | null => true
  | _ => false

/-- The number that a datum is. -/
def int : Datum → Int
  | number n => n
  | _ => 0

/-- The number that a datum is, with zero for a negative one. -/
def nat (d : Datum) : Nat := d.int.toNat

/-- The number that a datum is, reduced to 32 bits. -/
def u32 (d : Datum) : UInt32 := d.nat.toUInt32

/-- Whether a datum is true. -/
def isTrue : Datum → Bool
  | truth b => b
  | _ => false

/-- The text that a datum is. -/
def string? : Datum → Option String
  | text s => some s
  | _ => none

/-- The text that a datum is, or the empty one. -/
def string (d : Datum) : String := d.string?.getD ""

/-- The elements of a list. -/
def items : Datum → List Datum
  | list xs => xs
  | _ => []

/-- The element at a place of a list. -/
def item (d : Datum) (place : Nat) : Datum := d.items.getD place null

/-- Anything but nothing, read with `read`. -/
def optional {α : Type} (read : Datum → α) : Datum → Option α
  | null => none
  | d => some (read d)

/-- An array of the application: a list, or a record with the count of a null pointer. -/
def array {α : Type} (read : Datum → α) : Datum → AppArray α
  | list xs => .elems (xs.map read)
  | d => .null (d.get "null").nat

/-- The value of a hexadecimal digit in either case. -/
def digitValue (c : Char) : Nat :=
  if c.isDigit then c.toNat - '0'.toNat
  else if 'a' ≤ c ∧ c ≤ 'f' then c.toNat - 'a'.toNat + 10
  else if 'A' ≤ c ∧ c ≤ 'F' then c.toNat - 'A'.toNat + 10
  else 0

/-- A word: a number, a text in hexadecimal after `0x`, or a name after `$`. -/
def word (names : Names) : Datum → UInt64
  | number n => n.toNat.toUInt64
  | text s =>
    match s.toList with
    | '0' :: 'x' :: digits => (digits.foldl (fun n c => n * 16 + digitValue c) 0).toUInt64
    | '$' :: name => names.handle (String.ofList name)
    | _ => 0
  | _ => 0

/-- The words of a list. -/
def words (names : Names) (d : Datum) : List UInt64 := d.items.map (word names)

/-- An array of handles. -/
def handles (names : Names) (d : Datum) : AppArray Handle := d.array (word names)

/-- The bytes that pairs of hexadecimal digits stand for. -/
def bytesOfDigits : List Char → List UInt8
  | a :: b :: rest => (digitValue a * 16 + digitValue b).toUInt8 :: bytesOfDigits rest
  | _ => []

/-- The bytes of a text in hexadecimal. -/
def bytes (d : Datum) : List UInt8 := bytesOfDigits d.string.toList

/-- The first `n` elements, with `pad` where there are too few. -/
def padded {α : Type} (n : Nat) (pad : α) (xs : List α) : List α :=
  xs.take n ++ List.replicate (n - xs.length) pad

/-! ### Writing -/

/-- A natural number. -/
def ofNat (n : Nat) : Datum := number n

/-- A number of 32 bits, in decimal. -/
def ofU32 (n : UInt32) : Datum := number n.toNat

/-- A word, as text in hexadecimal. -/
def ofWord (w : UInt64) : Datum := text (hex w)

/-- A list with every element written. -/
def ofList {α : Type} (write : α → Datum) (xs : List α) : Datum := list (xs.map write)

/-- A list of words. -/
def ofWords (ws : List UInt64) : Datum := ofList ofWord ws

/-- What is there, or nothing. -/
def ofOption {α : Type} (write : α → Datum) : Option α → Datum
  | none => null
  | some a => write a

/-- An array of the application; a null pointer with a count is a record with it. -/
def ofArray {α : Type} (write : α → Datum) : AppArray α → Datum
  | .null 0 => null
  | .null n => record [("null", number n)]
  | .elems xs => ofList write xs

/-- An array of handles. -/
def ofHandles (hs : AppArray Handle) : Datum := ofArray ofWord hs

/-- The two hexadecimal digits of a byte. -/
def digitsOfByte (b : UInt8) : List Char :=
  [Nat.digitChar (b.toNat / 16), Nat.digitChar (b.toNat % 16)]

/-- Bytes in hexadecimal. -/
def ofBytes (bs : List UInt8) : Datum := text (String.ofList (bs.flatMap digitsOfByte))

end Datum

end HandleLayer
