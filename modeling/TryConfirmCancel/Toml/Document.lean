/-
**TOML documents as JSON data.**

* `Table`: a table while it is written; whether a header or a dotted key made it decides who may
  add to it;
* `Document.parse?`: the data of a document, the members of every table in increasing order.

A table may be opened once by its own header, a key may be set once, and a dotted key adds only to
tables that dotted keys made.
-/

import TryConfirmCancel.Toml.Scalar

namespace TryConfirmCancel.Toml

/-- How a table came to be. -/
inductive Origin
  /-- As a parent that a header names. -/
  | implied
  /-- By dots in a key. -/
  | dotted
  | header
  deriving DecidableEq, Repr

/-- What a key stands for. -/
inductive Item
  | leaf (value : Json.Value)
  | table (origin : Origin) (entries : List (String × Item))
  /-- The tables of an array, the last first. -/
  | tables (elements : List (List (String × Item)))
  deriving Inhabited

abbrev Table := List (String × Item)

/-- Opens the table that a header names. -/
def openTable : List String → String → Table → Option Table
  | [], key, table =>
    match lookupEntry key table with
    | none => some (insertEntry key (.table .header []) table)
    | some (.table .implied entries) => some (insertEntry key (.table .header entries) table)
    | some _ => none
  | parent :: path, key, table =>
    match lookupEntry parent table with
    | none => (openTable path key []).map fun entries => insertEntry parent (.table .implied entries) table
    | some (.table origin entries) =>
      (openTable path key entries).map fun entries => insertEntry parent (.table origin entries) table
    | some (.tables (last :: others)) =>
      (openTable path key last).map fun entries => insertEntry parent (.tables (entries :: others)) table
    | some _ => none

/-- Opens one more table of the array that a header names. -/
def openElement : List String → String → Table → Option Table
  | [], key, table =>
    match lookupEntry key table with
    | none => some (insertEntry key (.tables [[]]) table)
    | some (.tables elements) => some (insertEntry key (.tables ([] :: elements)) table)
    | some _ => none
  | parent :: path, key, table =>
    match lookupEntry parent table with
    | none => (openElement path key []).map fun entries => insertEntry parent (.table .implied entries) table
    | some (.table origin entries) =>
      (openElement path key entries).map fun entries => insertEntry parent (.table origin entries) table
    | some (.tables (last :: others)) =>
      (openElement path key last).map fun entries => insertEntry parent (.tables (entries :: others)) table
    | some _ => none

/-- Sets a key behind the dots before it. -/
def setKey : List String → String → Json.Value → Table → Option Table
  | [], key, value, table =>
    match lookupEntry key table with
    | none => some (insertEntry key (.leaf value) table)
    | some _ => none
  | parent :: path, key, value, table =>
    match lookupEntry parent table with
    | none => (setKey path key value []).map fun entries => insertEntry parent (.table .dotted entries) table
    | some (.table .dotted entries) =>
      (setKey path key value entries).map fun entries => insertEntry parent (.table .dotted entries) table
    | some (.table .implied entries) =>
      if path.isEmpty then none
      else (setKey path key value entries).map fun entries =>
        insertEntry parent (.table .implied entries) table
    | some (.tables (last :: others)) =>
      if path.isEmpty then none
      else (setKey path key value last).map fun entries =>
        insertEntry parent (.tables (entries :: others)) table
    | some _ => none

/-- Sets a key in the table that the last header opened. -/
def setWithin : List String → List String → String → Json.Value → Table → Option Table
  | [], dots, key, value, table => setKey dots key value table
  | parent :: path, dots, key, value, table =>
    match lookupEntry parent table with
    | some (.table origin entries) =>
      (setWithin path dots key value entries).map fun entries =>
        insertEntry parent (.table origin entries) table
    | some (.tables (last :: others)) =>
      (setWithin path dots key value last).map fun entries =>
        insertEntry parent (.tables (entries :: others)) table
    | _ => none

mutual

def Item.value : Item → Json.Value
  | .leaf value => value
  | .table _ entries => .object (entryValues entries)
  | .tables elements => .array (elementValues elements).reverse

def entryValues : List (String × Item) → List (String × Json.Value)
  | [] => []
  | (key, item) :: rest => (key, item.value) :: entryValues rest

/-- The data of the tables of an array. -/
def elementValues : List (List (String × Item)) → List Json.Value
  | [] => []
  | entries :: rest => .object (entryValues entries) :: elementValues rest

end

/-- How deep arrays and inline tables may nest. -/
def deepest : Nat := 79

mutual

def value : Nat → Nat → Scan Json.Value
  | 0, _, _ => none
  | fuel + 1, nesting, chars =>
    match chars with
    | '"' :: _ => (string chars).map fun (text, rest) => (.string text, rest)
    | '\'' :: _ => (string chars).map fun (text, rest) => (.string text, rest)
    | '[' :: rest =>
      match nesting with
      | 0 => none
      | nesting + 1 => items fuel nesting [] rest
    | '\x7b' :: rest =>
      match nesting with
      | 0 => none
      | nesting + 1 =>
        match skipBlanks rest with
        | '\x7d' :: rest => some (.object [], rest)
        | rest => pairs fuel nesting [] rest
    | _ => plain chars

/-- The items of an array, `taken` holding those read, the last first. -/
def items : Nat → Nat → List Json.Value → Scan Json.Value
  | 0, _, _, _ => none
  | fuel + 1, nesting, taken, chars =>
    match skipLines chars.length chars with
    | ']' :: rest => some (.array taken.reverse, rest)
    | rest => do
      let (item, rest) ← value fuel nesting rest
      match skipLines rest.length rest with
      | ',' :: rest => items fuel nesting (item :: taken) rest
      | ']' :: rest => some (.array (item :: taken).reverse, rest)
      | _ => none

/-- The pairs of an inline table. -/
def pairs : Nat → Nat → Table → Scan Json.Value
  | 0, _, _, _ => none
  | fuel + 1, nesting, table, chars => do
    let ((dots, key), rest) ← dottedKey chars
    match rest with
    | '=' :: rest => do
      let (found, rest) ← value fuel nesting (skipBlanks rest)
      let table ← setKey dots key found table
      match skipBlanks rest with
      | ',' :: rest => pairs fuel nesting table rest
      | '\x7d' :: rest => some (.object (entryValues table), rest)
      | _ => none
    | _ => none

end

/-- A document while it is read. -/
structure Draft where
  root : Table := []
  /-- The table that the last header opened. -/
  current : List String := []

/-- What follows the end of a line, if the line ends here. -/
def endOfLine (chars : List Char) : Option (List Char) :=
  match skipComment (skipBlanks chars) with
  | [] => some []
  | rest => lineBreak? rest

/-- Reads one line that holds a header or a key. -/
def line (draft : Draft) (chars : List Char) : Option (Draft × List Char) :=
  match chars with
  | '[' :: '[' :: rest => do
    let ((path, key), rest) ← dottedKey rest
    match rest with
    | ']' :: ']' :: rest => do
      let root ← openElement path key draft.root
      let rest ← endOfLine rest
      some (⟨root, path ++ [key]⟩, rest)
    | _ => none
  | '[' :: rest => do
    let ((path, key), rest) ← dottedKey rest
    match rest with
    | ']' :: rest => do
      let root ← openTable path key draft.root
      let rest ← endOfLine rest
      some (⟨root, path ++ [key]⟩, rest)
    | _ => none
  | _ => do
    let ((dots, key), rest) ← dottedKey chars
    match rest with
    | '=' :: rest => do
      let (found, rest) ← value (rest.length + 1) deepest (skipBlanks rest)
      let root ← setWithin draft.current dots key found draft.root
      let rest ← endOfLine rest
      some (⟨root, draft.current⟩, rest)
    | _ => none

def lines : Nat → Draft → List Char → Option Draft
  | 0, _, _ => none
  | fuel + 1, draft, chars =>
    match skipBlanks (skipLines chars.length chars) with
    | [] => some draft
    | rest => do
      let (draft, rest) ← line draft rest
      lines fuel draft rest

/-- The data of a document; a byte order mark at its front is dropped. -/
def parse? (text : String) : Option Json.Value :=
  let chars := match text.toList with
    | '\ufeff' :: rest => rest
    | chars => chars
  (lines (chars.length + 1) {} chars).map fun draft => .object (entryValues draft.root)

end TryConfirmCancel.Toml
