import HandleLayer.Toml.Scalar

/-!
# Documents of the settings format

A document is a table.  Its lines put values under keys, where a dotted key goes through
tables of its own, and headers say into which table the following lines go.  No key may
be given twice, and a table may be reopened only where nothing has closed it.

## Main definitions

* `Item`, `Entries` — values, tables and lists of tables.
* `place?`, `define?` — a new entry at the end of a path of keys.
* `parse?` — the table that a text describes, if it is well formed.
-/

namespace HandleLayer.Toml

/-- How a table came to be, which decides who may still add to it. -/
inductive TableForm
  /-- It has a header of its own. -/
  | header
  /-- A header goes through it. -/
  | implied
  /-- A dotted key goes through it. -/
  | dotted
  /-- It is written in braces. -/
  | braces
  deriving DecidableEq, Repr

/-- What stands under a key. -/
inductive Item
  | text (s : String)
  | scalar (v : Scalar)
  | array (items : List Item)
  | table (form : TableForm) (entries : List (String × Item))
  /-- The tables that headers in double brackets have opened, in order. -/
  | tables (rows : List (List (String × Item)))
  deriving Inhabited

/-- The entries of a table, in the order in which they were first made. -/
abbrev Entries := List (String × Item)

/-- The item under a key. -/
def Entries.get? (entries : Entries) (key : String) : Option Item :=
  (entries.find? fun e => e.1 == key).map Prod.snd

/-- The entries with `item` under `key`, in its old place or at the end. -/
def Entries.put (entries : Entries) (key : String) (item : Item) : Entries :=
  if (entries.get? key).isSome then
    entries.map fun e => if e.1 == key then (key, item) else e
  else entries ++ [(key, item)]

/-! ### Paths of keys -/

/-- Changes the table at the end of a path of keys, making the tables on the way.  A
dotted key does not go through a table that has a header. -/
def place? (dotted : Bool) (change : TableForm → Entries → Option Entries) :
    (path : List String) → TableForm → Entries → Option Entries
  | [], form, entries => change form entries
  | key :: path, _, entries =>
    let fresh := if dotted then TableForm.dotted else .implied
    match entries.get? key with
    | none => (place? dotted change path fresh []).map fun inner =>
        entries.put key (.table fresh inner)
    | some (.table form inner) =>
      -- braces close a table for good
      if form = .braces ∨ (dotted ∧ form = .header) then none
      else (place? dotted change path form inner).map fun inner =>
        entries.put key (.table form inner)
    | some (.tables rows) =>
      match rows.getLast? with
      | none => none
      | some row => (place? dotted change path .header row).map fun row =>
          entries.put key (.tables (rows.dropLast ++ [row]))
    | some _ => none

/-- Puts an item under a dotted key that is new. -/
def define? (form : TableForm) (entries : Entries) (key : List String) (item : Item) :
    Option Entries :=
  match key.reverse with
  | [] => none
  | last :: above =>
    place? true
      (fun form entries =>
        if (form == .dotted) == above.isEmpty then none
        else if (entries.get? last).isSome then none
        else some (entries.put last item))
      above.reverse form entries

/-- Opens the table under a header and fills it with `fill`; only a table that a header
has gone through may be there already. -/
def openTable? (root : Entries) (key : List String) (fill : Entries → Option Entries) :
    Option Entries :=
  match key.reverse with
  | [] => none
  | last :: above =>
    place? false
      (fun _ entries =>
        match entries.get? last with
        | none => (fill []).map fun inner => entries.put last (.table .header inner)
        | some (.table .implied inner) =>
          (fill inner).map fun inner => entries.put last (.table .header inner)
        | some _ => none)
      above.reverse .header root

/-- Adds a table to the list under a header in double brackets and fills it. -/
def openRow? (root : Entries) (key : List String) (fill : Entries → Option Entries) :
    Option Entries :=
  match key.reverse with
  | [] => none
  | last :: above =>
    place? false
      (fun _ entries =>
        match entries.get? last with
        | none => (fill []).map fun row => entries.put last (.tables [row])
        | some (.tables rows) =>
          (fill []).map fun row => entries.put last (.tables (rows ++ [row]))
        | some _ => none)
      above.reverse .header root

/-! ### Blanks -/

/-- The characters without spaces and tabs in front. -/
def skipSpaces (cs : List Char) : List Char := cs.dropWhile isSpace

/-- What follows a comment, which ends before a line break; a comment may not hold
control characters. -/
def skipComment? : List Char → Option (List Char)
  | [] => some []
  | '\n' :: rest => some ('\n' :: rest)
  | '\r' :: '\n' :: rest => some ('\r' :: '\n' :: rest)
  | c :: rest => if isPrintable c then skipComment? rest else none

/-- What follows the blanks, line breaks and comments inside an array. -/
def skipLines? : (comment : Bool) → List Char → Option (List Char)
  | _, [] => some []
  | _, '\n' :: rest => skipLines? false rest
  | _, '\r' :: '\n' :: rest => skipLines? false rest
  | true, c :: rest => if isPrintable c then skipLines? true rest else none
  | false, c :: rest =>
    if isSpace c then skipLines? false rest
    else if c = '#' then skipLines? true rest
    else some (c :: rest)

/-- The next line, when nothing but a comment is left on this one. -/
def endLine? (cs : List Char) : Option (List Char) :=
  let rest :=
    match skipSpaces cs with
    | '#' :: rest => skipComment? rest
    | rest => some rest
  match rest with
  | some [] => some []
  | some ('\n' :: rest) => some rest
  | some ('\r' :: '\n' :: rest) => some rest
  | _ => none

/-! ### Keys -/

/-- The characters of a key without quotes. -/
def isBare (c : Char) : Bool := c.isAlphanum || c == '-' || c == '_'

/-- Reads one part of a key. -/
def simpleKey? (cs : List Char) : Read String :=
  let bare := cs.takeWhile isBare
  if bare.isEmpty then quoted? cs
  else some (String.ofList bare, cs.drop bare.length)

/-- Reads a key with its dots, and the spaces around its parts. -/
def key? : (fuel : Nat) → List Char → Option ((List String) × List Char)
  | 0, _ => none
  | fuel + 1, cs => do
    let (part, rest) ← simpleKey? (skipSpaces cs)
    match skipSpaces rest with
    | '.' :: rest =>
      let (parts, rest) ← key? fuel rest
      return (part :: parts, rest)
    | rest => return ([part], rest)

/-- The number of collections that may lie inside each other, and of parts of a key. -/
def depthLimit : Nat := 79

/-! ### Values -/

mutual

/-- Reads a value, at most `depth` collections deep. -/
def value? : (fuel depth : Nat) → List Char → Option (Item × List Char)
  | 0, _, _ => none
  | fuel + 1, depth, cs =>
    match cs with
    | '[' :: rest =>
      match depth with
      | 0 => none
      | depth + 1 =>
        (elements? fuel depth rest).map fun (items, rest) => (.array items, rest)
    | '{' :: rest =>
      match depth with
      | 0 => none
      | depth + 1 =>
        match skipSpaces rest with
        | '}' :: rest => some (.table .braces [], rest)
        | _ => (pairs? fuel depth [] rest).map fun (entries, rest) =>
            (.table .braces entries, rest)
    | '"' :: _ | '\'' :: _ => (text? cs).map fun (s, rest) => (.text s, rest)
    | _ => (scalarValue? cs).map fun (v, rest) => (.scalar v, rest)

/-- Reads the elements of an array and its closing bracket. -/
def elements? : (fuel depth : Nat) → List Char → Option ((List Item) × List Char)
  | 0, _, _ => none
  | fuel + 1, depth, cs => do
    match ← skipLines? false cs with
    | ']' :: rest => return ([], rest)
    | cs =>
      let (item, rest) ← value? fuel depth cs
      match ← skipLines? false rest with
      | ']' :: rest => return ([item], rest)
      | ',' :: rest =>
        let (items, rest) ← elements? fuel depth rest
        return (item :: items, rest)
      | _ => none

/-- Reads the pairs of a table in braces, of which there is one at least, and the closing
brace. -/
def pairs? : (fuel depth : Nat) → Entries → List Char → Option (Entries × List Char)
  | 0, _, _, _ => none
  | fuel + 1, depth, entries, cs => do
    let (key, rest) ← key? depthLimit cs
    match rest with
    | '=' :: rest =>
      let (item, rest) ← value? fuel depth (skipSpaces rest)
      let entries ← define? .braces entries key item
      match skipSpaces rest with
      | '}' :: rest => return (entries, rest)
      | ',' :: rest => pairs? fuel depth entries rest
      | _ => none
    | _ => none

end

/-! ### Lines -/

/-- One line of a document that is not blank. -/
inductive Line
  /-- A key with its value. -/
  | pair (key : List String) (item : Item)
  /-- A header in single brackets. -/
  | header (key : List String)
  /-- A header in double brackets. -/
  | row (key : List String)

/-- Reads a line that is not blank, which ends with a value or a bracket. -/
def line? (fuel : Nat) : List Char → Option (Line × List Char)
  | '[' :: '[' :: rest => do
    match ← key? depthLimit rest with
    | (key, ']' :: ']' :: rest) => return (.row key, rest)
    | _ => none
  | '[' :: rest => do
    match ← key? depthLimit rest with
    | (key, ']' :: rest) => return (.header key, rest)
    | _ => none
  | cs => do
    match ← key? depthLimit cs with
    | (key, '=' :: rest) =>
      let (item, rest) ← value? fuel depthLimit (skipSpaces rest)
      return (.pair key item, rest)
    | _ => none

/-- The lines of a document without the blank ones. -/
def lines? : (fuel : Nat) → List Char → Option (List Line)
  | 0, _ => none
  | fuel + 1, cs =>
    match skipSpaces cs with
    | [] => some []
    | rest =>
      match endLine? rest with
      | some rest => lines? fuel rest
      | none => do
        -- a value takes at most two steps for each of its characters
        let (line, rest) ← line? (2 * rest.length + 4) rest
        let rest ← endLine? rest
        return line :: (← lines? fuel rest)

/-- The pairs at the start of the lines, and the lines from the next header on. -/
def spanPairs : List Line → List (List String × Item) × List Line
  | .pair key item :: lines =>
    let (pairs, rest) := spanPairs lines
    ((key, item) :: pairs, rest)
  | lines => ([], lines)

/-- Puts the pairs into a table in order. -/
def defineAll? (pairs : List (List String × Item)) (entries : Entries) : Option Entries :=
  pairs.foldlM (fun entries p => define? .header entries p.1 p.2) entries

/-- Fills the tables under the headers in order. -/
def sections? : (fuel : Nat) → Entries → List Line → Option Entries
  | 0, _, _ => none
  | _ + 1, root, [] => some root
  | fuel + 1, root, line :: lines =>
    let (pairs, rest) := spanPairs lines
    match line with
    | .header key => (openTable? root key (defineAll? pairs)).bind (sections? fuel · rest)
    | .row key => (openRow? root key (defineAll? pairs)).bind (sections? fuel · rest)
    | .pair _ _ => none

/-- The text without a byte order mark in front. -/
def dropMark : List Char → List Char
  | '\uFEFF' :: rest => rest
  | cs => cs

/-- The table that a text describes; `none` when the text is not well formed. -/
def parse? (text : String) : Option Entries := do
  let cs := dropMark text.toList
  let lines ← lines? (cs.length + 1) cs
  let (pairs, rest) := spanPairs lines
  let root ← defineAll? pairs []
  -- each section has a line of its own
  sections? (rest.length + 1) root rest

end HandleLayer.Toml
