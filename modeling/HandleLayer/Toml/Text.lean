/-!
# Strings of the settings format

Strings come in four forms: basic and literal, on one line or on several.  Basic strings
have escapes; on several lines a line break is always read as one newline character, and
a backslash at the end of a line swallows the white space after it.

## Main definitions

* `quoted?` — reads a string on one line and gives what follows it.
* `text?` — reads a string of any form.
-/

namespace HandleLayer.Toml

/-- Space and tab. -/
def isSpace (c : Char) : Bool := c == ' ' || c == '\t'

/-- The characters allowed in comments and strings beside line breaks: the tab and
everything else that is no control character. -/
def isPrintable (c : Char) : Bool := c == '\t' || (0x20 ≤ c.toNat && c.toNat ≠ 0x7f)

/-- The value of a hexadecimal digit. -/
def hexDigit? (c : Char) : Option Nat :=
  if '0' ≤ c ∧ c ≤ '9' then some (c.toNat - 48)
  else if 'a' ≤ c ∧ c ≤ 'f' then some (c.toNat - 87)
  else if 'A' ≤ c ∧ c ≤ 'F' then some (c.toNat - 55)
  else none

/-- The number with these hexadecimal digits. -/
def hexNumber? (cs : List Char) : Option Nat :=
  cs.foldl (fun n c => do return 16 * (← n) + (← hexDigit? c)) (some 0)

/-- The character with this code point, if it is a scalar value. -/
def scalar? (n : Nat) : Option Char :=
  if n < 0xd800 ∨ (0xdfff < n ∧ n < 0x110000) then some (Char.ofNat n) else none

/-- The character that a letter after a backslash stands for. -/
def escape? (c : Char) : Option Char :=
  match c with
  | 'b' => some '\x08'
  | 't' => some '\t'
  | 'n' => some '\n'
  | 'f' => some '\x0c'
  | 'r' => some '\r'
  | '"' => some '"'
  | '\\' => some '\\'
  | _ => none

/-- What is read at the start of a list of characters, with the rest. -/
abbrev Read (α : Type) := Option (α × List Char)

/-- Puts a character in front of the characters read. -/
def Read.push (c : Char) (r : Read (List Char)) : Read (List Char) :=
  r.map fun (cs, rest) => (c :: cs, rest)

/-- The body of a basic string on one line, up to its closing quote. -/
def basicBody : List Char → Read (List Char)
  | [] => none
  | '"' :: rest => some ([], rest)
  | '\\' :: 'u' :: a :: b :: c :: d :: rest =>
    match (hexNumber? [a, b, c, d]).bind scalar? with
    | some x => (basicBody rest).push x
    | none => none
  | '\\' :: 'U' :: a :: b :: c :: d :: e :: f :: g :: h :: rest =>
    match (hexNumber? [a, b, c, d, e, f, g, h]).bind scalar? with
    | some x => (basicBody rest).push x
    | none => none
  | '\\' :: c :: rest =>
    match escape? c with
    | some x => (basicBody rest).push x
    | none => none
  | c :: rest => if isPrintable c ∧ c ≠ '\\' then (basicBody rest).push c else none

/-- The body of a literal string on one line, up to its closing quote. -/
def literalBody : List Char → Read (List Char)
  | [] => none
  | '\'' :: rest => some ([], rest)
  | c :: rest => if isPrintable c then (literalBody rest).push c else none

/-- The white space up to a line break, when nothing else is in between. -/
def endsLine : List Char → Bool
  | '\n' :: _ => true
  | '\r' :: '\n' :: _ => true
  | c :: rest => isSpace c && endsLine rest
  | [] => false

/-- The body of a basic string on several lines, up to its closing quotes.  With
`skipping`, white space and line breaks are swallowed up to the next other character. -/
def basicLines : (skipping : Bool) → List Char → Read (List Char)
  | _, [] => none
  | _, '"' :: '"' :: '"' :: '"' :: '"' :: rest => some (['"', '"'], rest)
  | _, '"' :: '"' :: '"' :: '"' :: rest => some (['"'], rest)
  | _, '"' :: '"' :: '"' :: rest => some ([], rest)
  | _, '\\' :: 'u' :: a :: b :: c :: d :: rest =>
    match (hexNumber? [a, b, c, d]).bind scalar? with
    | some x => (basicLines false rest).push x
    | none => none
  | _, '\\' :: 'U' :: a :: b :: c :: d :: e :: f :: g :: h :: rest =>
    match (hexNumber? [a, b, c, d, e, f, g, h]).bind scalar? with
    | some x => (basicLines false rest).push x
    | none => none
  | _, '\\' :: c :: rest =>
    match escape? c with
    | some x => (basicLines false rest).push x
    | none => if endsLine (c :: rest) then basicLines true (c :: rest) else none
  | skipping, '\r' :: '\n' :: rest =>
    if skipping then basicLines true rest else (basicLines false rest).push '\n'
  | skipping, c :: rest =>
    if c = '\n' then
      if skipping then basicLines true rest else (basicLines false rest).push '\n'
    else if skipping && isSpace c then basicLines true rest
    else if isPrintable c ∧ c ≠ '\\' then (basicLines false rest).push c
    else none

/-- The body of a literal string on several lines, up to its closing quotes. -/
def literalLines : List Char → Read (List Char)
  | [] => none
  | '\'' :: '\'' :: '\'' :: '\'' :: '\'' :: rest => some (['\'', '\''], rest)
  | '\'' :: '\'' :: '\'' :: '\'' :: rest => some (['\''], rest)
  | '\'' :: '\'' :: '\'' :: rest => some ([], rest)
  | '\r' :: '\n' :: rest => (literalLines rest).push '\n'
  | c :: rest => if isPrintable c ∨ c = '\n' then (literalLines rest).push c else none

/-- The characters without a line break at their start. -/
def dropBreak : List Char → List Char
  | '\n' :: rest => rest
  | '\r' :: '\n' :: rest => rest
  | cs => cs

/-- Reads a string on one line. -/
def quoted? : List Char → Read String
  | '"' :: rest => (basicBody rest).map fun (cs, rest) => (String.ofList cs, rest)
  | '\'' :: rest => (literalBody rest).map fun (cs, rest) => (String.ofList cs, rest)
  | _ => none

/-- Reads a string of any form. -/
def text? : List Char → Read String
  | '"' :: '"' :: '"' :: rest =>
    (basicLines false (dropBreak rest)).map fun (cs, rest) => (String.ofList cs, rest)
  | '\'' :: '\'' :: '\'' :: rest =>
    (literalLines (dropBreak rest)).map fun (cs, rest) => (String.ofList cs, rest)
  | cs => quoted? cs

end HandleLayer.Toml
