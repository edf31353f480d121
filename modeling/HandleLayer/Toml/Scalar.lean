import HandleLayer.Toml.Number

/-!
# Scalars of the settings format

A value that is neither a string nor a collection is one word, but for a date and a time
of day that are parted by a space.

## Main definitions

* `Scalar`, `scalarWord?` — the values and how a word is read.
* `isDate`, `isTime` — the dates and times that exist.
-/

namespace HandleLayer.Toml

/-- A value written as one word. -/
inductive Scalar
  | integer (n : Int)
  /-- A number with a fraction or an exponent, or one of the special ones, as written. -/
  | float (word : String)
  | boolean (b : Bool)
  /-- A date, a time or both, as written. -/
  | dateTime (word : String)
  deriving DecidableEq, Repr

/-- The characters that end a word. -/
def endsWord (c : Char) : Bool :=
  isSpace c || c == '\n' || c == '\r' || c == ',' || c == ']' || c == '}' || c == '#'

/-! ### Dates and times -/

/-- The number with exactly two digits. -/
def two? (a b : Char) : Option Nat :=
  if a.isDigit ∧ b.isDigit then some (number 10 [a, b]) else none

/-- The number of days in a month. -/
def daysIn (year month : Nat) : Nat :=
  if month = 2 then
    if year % 4 = 0 ∧ (year % 100 ≠ 0 ∨ year % 400 = 0) then 29 else 28
  else if month = 4 ∨ month = 6 ∨ month = 9 ∨ month = 11 then 30
  else 31

/-- Whether the characters are a date that exists. -/
def isDate : List Char → Bool
  | [y1, y2, y3, y4, '-', m1, m2, '-', d1, d2] =>
    match two? y1 y2, two? y3 y4, two? m1 m2, two? d1 d2 with
    | some century, some year, some month, some day =>
      1 ≤ month && month ≤ 12 && 1 ≤ day && day ≤ daysIn (100 * century + year) month
    | _, _, _, _ => false
  | _ => false

/-- Whether the characters are an hour and a minute that exist. -/
def isHourMinute : List Char → Bool
  | [h1, h2, ':', m1, m2] =>
    match two? h1 h2, two? m1 m2 with
    | some hour, some minute => hour ≤ 23 && minute ≤ 59
    | _, _ => false
  | _ => false

/-- Whether the characters are seconds, with a fraction or without. -/
def isSeconds : List Char → Bool
  | [':', s1, s2] => (two? s1 s2).any (· ≤ 60)
  | ':' :: s1 :: s2 :: '.' :: f :: fs =>
    (two? s1 s2).any (· ≤ 60) && (f :: fs).all Char.isDigit
  | _ => false

/-- Whether the characters are a time of day that exists. -/
def isTime (cs : List Char) : Bool := isHourMinute (cs.take 5) && isSeconds (cs.drop 5)

/-- Whether the characters are a distance from universal time. -/
def isOffset : List Char → Bool
  | ['Z'] | ['z'] => true
  | c :: rest => (c == '+' || c == '-') && isHourMinute rest
  | [] => false

/-- Whether the characters are a time of day, with a distance from universal time or
without. -/
def isOffsetTime (cs : List Char) : Bool :=
  let time := cs.takeWhile fun c => c.isDigit || c == ':' || c == '.'
  let offset := cs.drop time.length
  isTime time && (offset.isEmpty || isOffset offset)

/-- Whether the word is a date, a time or both. -/
def isDateTime (cs : List Char) : Bool :=
  isTime cs || isDate cs ||
    isDate (cs.take 10) &&
      match cs.drop 10 with
      | c :: time => (c == 'T' || c == 't' || c == ' ') && isOffsetTime time
      | [] => false

/-- The value that a word stands for. -/
def scalarWord? (cs : List Char) : Option Scalar :=
  if cs = "true".toList then some (.boolean true)
  else if cs = "false".toList then some (.boolean false)
  else if isDateTime cs then some (.dateTime (String.ofList cs))
  else if isFloat cs then some (.float (String.ofList cs))
  else (integer? cs).map .integer

/-- Reads one word, or a date and a time parted by one space. -/
def scalarValue? (cs : List Char) : Read Scalar :=
  let word := cs.takeWhile fun c => !endsWord c
  let rest := cs.drop word.length
  let longer :=
    match rest with
    | ' ' :: tail => word ++ ' ' :: tail.takeWhile fun c => !endsWord c
    | _ => word
  if isDate word ∧ longer ≠ word ∧ isDateTime longer then
    some (.dateTime (String.ofList longer), cs.drop longer.length)
  else (scalarWord? word).map fun v => (v, rest)

end HandleLayer.Toml
