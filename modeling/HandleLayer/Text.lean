/-!
# Plain text rules

Names in settings are separated by commas, surrounded by white space and written in
letters of either case.  White space is the Unicode property of that name; the case of
the ASCII letters alone is ignored.

## Main definitions

* `isBlank`, `trim` — white space and its removal at both ends.
* `lowerAscii`, `splitCommas` — the other two rules.
-/

namespace HandleLayer.Text

/-- The characters with the Unicode property `White_Space`. -/
def isBlank (c : Char) : Bool :=
  let n := c.toNat
  (0x09 ≤ n && n ≤ 0x0d) || n == 0x20 || n == 0x85 || n == 0xa0 || n == 0x1680 ||
    (0x2000 ≤ n && n ≤ 0x200a) || n == 0x2028 || n == 0x2029 || n == 0x202f ||
    n == 0x205f || n == 0x3000

/-- The characters without the white space at both ends. -/
def trimChars (cs : List Char) : List Char :=
  ((cs.dropWhile isBlank).reverse.dropWhile isBlank).reverse

/-- The text without the white space at both ends. -/
def trim (s : String) : String := String.ofList (trimChars s.toList)

/-- The lower-case form of an ASCII letter; every other character stays. -/
def lowerChar (c : Char) : Char :=
  if 'A' ≤ c ∧ c ≤ 'Z' then Char.ofNat (c.toNat + 32) else c

/-- The text with its ASCII letters in lower case. -/
def lowerAscii (s : String) : String := String.ofList (s.toList.map lowerChar)

/-- The pieces between commas, of which there is one more than commas. -/
def splitCommaChars : List Char → List (List Char)
  | [] => [[]]
  | c :: cs =>
    if c = ',' then [] :: splitCommaChars cs
    else
      match splitCommaChars cs with
      | [] => [[c]]
      | piece :: pieces => (c :: piece) :: pieces

/-- The pieces of a text between its commas. -/
def splitCommas (s : String) : List String :=
  (splitCommaChars s.toList).map String.ofList

end HandleLayer.Text
