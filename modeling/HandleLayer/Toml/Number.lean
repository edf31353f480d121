import HandleLayer.Toml.Text

/-!
# Numbers of the settings format

An integer has to fit into 64 bits.  A number with a fraction or an exponent is kept as
written, and read only so far as to refuse one that is too large for double precision.

## Main definitions

* `integer?` — the integer that a word stands for.
* `Decimal`, `Decimal.overflows` — numbers in decimal notation, and which are too large.
* `isFloat` — whether a word is a number with a fraction or an exponent, or a special one.
-/

namespace HandleLayer.Toml

/-! ### Digits -/

/-- Digits with single underscores between them, without the underscores. -/
def digits? (isDigit : Char → Bool) : List Char → Option (List Char)
  | [] => none
  | [c] => if isDigit c then some [c] else none
  | c :: '_' :: rest => if isDigit c then (digits? isDigit rest).map (c :: ·) else none
  | c :: rest => if isDigit c then (digits? isDigit rest).map (c :: ·) else none

/-- The number with these digits in base `base`. -/
def number (base : Nat) (digits : List Char) : Nat :=
  digits.foldl (fun n c => base * n + (hexDigit? c).getD 0) 0

/-- The sign in front of a word, as a factor, and the word behind it. -/
def signed : List Char → Int × List Char
  | '+' :: rest => (1, rest)
  | '-' :: rest => (-1, rest)
  | cs => (1, cs)

/-- The digits of a decimal number without a leading zero. -/
def decimal? (cs : List Char) : Option (List Char) :=
  match digits? Char.isDigit cs with
  | some ('0' :: _ :: _) => none
  | ds => ds

/-! ### Integers -/

/-- A number that fits into 64 bits with a sign. -/
def fitting (n : Int) : Option Int :=
  if -(Int.pow 2 63) ≤ n ∧ n < Int.pow 2 63 then some n else none

/-- An integer, decimal with a sign or in base 16, 8 or 2 without one. -/
def integer? : List Char → Option Int
  | '0' :: 'x' :: rest =>
    (digits? (fun c => (hexDigit? c).isSome) rest).bind fun ds => fitting (number 16 ds)
  | '0' :: 'o' :: rest =>
    (digits? (fun c => '0' ≤ c && c ≤ '7') rest).bind fun ds => fitting (number 8 ds)
  | '0' :: 'b' :: rest =>
    (digits? (fun c => c == '0' || c == '1') rest).bind fun ds => fitting (number 2 ds)
  | cs =>
    let (sign, rest) := signed cs
    (decimal? rest).bind fun ds => fitting (sign * number 10 ds)

/-! ### Fractions and exponents -/

/-- A number in decimal notation, without its sign: the digits count units of ten to the
power `scale`. -/
structure Decimal where
  digits : List Char
  scale : Int
  deriving DecidableEq, Repr

/-- The exponent of a number, mark included; without one it is zero. -/
def exponent? : List Char → Option Int
  | [] => some 0
  | c :: rest =>
    if c == 'e' || c == 'E' then
      let (sign, rest) := signed rest
      (digits? Char.isDigit rest).map fun ds => sign * number 10 ds
    else none

/-- Reads a number that has a fraction, an exponent or both, without a sign. -/
def Decimal.ofChars? (cs : List Char) : Option Decimal := do
  let inDigits (c : Char) : Bool := c.isDigit || c == '_'
  let whole := cs.takeWhile inDigits
  let ds ← decimal? whole
  match cs.drop whole.length with
  | [] => none
  | '.' :: tail =>
    let fraction := tail.takeWhile inDigits
    let fs ← digits? Char.isDigit fraction
    let e ← exponent? (tail.drop fraction.length)
    return ⟨ds ++ fs, e - fs.length⟩
  | rest => return ⟨ds, ← exponent? rest⟩

/-- The least number that rounds to infinity in double precision: the middle between the
largest number of that precision, `2 ^ 1024 - 2 ^ 971`, and the power above it, since a tie
goes to the power. -/
def overflowBound : Nat := Nat.pow 2 1024 - Nat.pow 2 970

/-- Whether the number rounds to infinity.  All that have more than 309 digits in front of
the point do so; for the others the digits in front of the point decide. -/
def Decimal.overflows (d : Decimal) : Bool :=
  let ds := d.digits.dropWhile (· == '0')
  let places := ds.length + d.scale
  if ds.isEmpty then false
  else if 309 < places then true
  else overflowBound ≤ number 10 (ds.take places.toNat) * Nat.pow 10 d.scale.toNat

/-- Whether the word is a number with a fraction or an exponent, or a special one.  A
number above zero that rounds to infinity is refused, though infinity itself may be
written, and so may a number that rounds to its opposite. -/
def isFloat (cs : List Char) : Bool :=
  let (sign, body) := signed cs
  body == ['i', 'n', 'f'] || body == ['n', 'a', 'n'] ||
    (Decimal.ofChars? body).any fun d => sign < 0 || !d.overflows

end HandleLayer.Toml
