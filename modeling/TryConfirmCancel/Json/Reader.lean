/-
**Reading JSON as a type.**

A reader is given how many brackets may still be opened and a tree, and answers with a value of its
type or nothing.

* `Reader.value`: any data; of a repeated key the last member wins;
* `Reader.record`: a record with named fields, from an object (unknown members are skipped, a known
  one must not be repeated) or from an array that holds the fields in order;
* `Fields.required`, `Fields.withDefault`, `Fields.optional`: what a missing field means;
* `Reader.ofBytes?`: reading a text, in which brackets may nest 127 deep;
* `Reader.ofItems?`: reading values that have been read before.
-/

import TryConfirmCancel.Json.Node

namespace TryConfirmCancel.Json

/-- Reads a tree in which so many brackets may be nested. -/
abbrev Reader (α : Type) := Nat → Node → Option α

namespace Reader

def string : Reader String
  | _, .string value => value
  | _, _ => none

def bool : Reader Bool
  | _, .bool value => some value
  | _, _ => none

/-- An integer between two bounds; a number spelt with a point or an exponent is none. -/
def integer (least greatest : Int) : Reader Int
  | _, .number (some (.integer value)) => if least ≤ value ∧ value ≤ greatest then some value else none
  | _, _ => none

/-- A natural number not above a bound. -/
def natural (greatest : Nat) : Reader Nat := fun nesting node =>
  (integer 0 greatest nesting node).map Int.toNat

/-- A signed number of 64 bits. -/
def signed64 : Reader Int := integer minSigned64 maxSigned64

/-- Null, or a value of a type. -/
def nullable {α : Type} (reader : Reader α) : Reader (Option α)
  | _, .null => some none
  | nesting, node => (reader nesting node).map some

/-- An array of values of one type. -/
def list {α : Type} (reader : Reader α) : Reader (List α)
  | nesting + 1, .array items => items.mapM (reader nesting)
  | _, _ => none

/-- What holds nothing is spelt null. -/
def unit : Reader Unit
  | _, .null => some ()
  | _, _ => none

/-- An array of exactly one item. -/
def single {α : Type} (first : Reader α) : Reader α
  | nesting + 1, .array [item] => first nesting item
  | _, _ => none

/-- An array of exactly two items. -/
def pair {α β : Type} (first : Reader α) (second : Reader β) : Reader (α × β)
  | nesting + 1, .array [item, next] => do
    let left ← first nesting item
    let right ← second nesting next
    some (left, right)
  | _, _ => none

/-- An array of exactly three items. -/
def triple {α β γ : Type} (first : Reader α) (second : Reader β) (third : Reader γ) : Reader (α × β × γ)
  | nesting + 1, .array [item, next, last] => do
    let left ← first nesting item
    let middle ← second nesting next
    let right ← third nesting last
    some (left, middle, right)
  | _, _ => none

/-- A value of one type taken for one of another. -/
def mapped {α β : Type} (convert : α → β) (reader : Reader α) : Reader β := fun nesting node =>
  (reader nesting node).map convert

/-- Members whose keys are texts, with their values read. -/
def members {α : Type} (read : Node → Option α) (members : List (Option String × Node)) :
    Option (List (String × α)) :=
  members.mapM fun (key, node) => do
    let key ← key
    let value ← read node
    some (key, value)

/-- An object with any keys and values of one type. -/
def dict {α : Type} (reader : Reader α) : Reader (Dict α)
  | nesting + 1, .object found => (members (reader nesting) found).map Dict.ofList
  | _, _ => none

/-- Any data, the members of its objects in increasing order. -/
def value : Reader Value
  | _, .null => some .null
  | _, .bool value => some (.bool value)
  | _, .number value => value.map .number
  | _, .string value => value.map .string
  | nesting + 1, .array items => (items.mapM (value nesting)).map .array
  | nesting + 1, .object found => (members (value nesting) found).map fun read => .ofDict (.ofList read)
  | 0, .array _ => none
  | 0, .object _ => none

end Reader

/-- The fields of a record as they were found. -/
structure Fields where
  /-- How many brackets may be nested in a field. -/
  nesting : Nat
  /-- The fields stood in an array, by position. -/
  positional : Bool
  /-- The fields that are there. -/
  entries : List (String × Node)

namespace Fields

variable {α : Type}

/-- A field that must be there. -/
def required (fields : Fields) (name : String) (reader : Reader α) : Option α :=
  (lookupEntry name fields.entries).bind (reader fields.nesting)

/-- A field with a value to take if it is missing. -/
def withDefault (fields : Fields) (name : String) (missing : α) (reader : Reader α) : Option α :=
  match lookupEntry name fields.entries with
  | none => some missing
  | some node => reader fields.nesting node

/-- A field that may be null, and may be missing from an object, but not from an array. -/
def optional (fields : Fields) (name : String) (reader : Reader α) : Option (Option α) :=
  match lookupEntry name fields.entries with
  | none => if fields.positional then none else some none
  | some node => Reader.nullable reader fields.nesting node

/-- The members whose keys are among `names`; none if one is repeated or a key is no text. -/
def ofMembers (names : List String) : List (Option String × Node) → Option (List (String × Node))
  | [] => some []
  | (none, _) :: _ => none
  | (some key, node) :: rest => do
    let found ← ofMembers names rest
    if key ∈ names then
      if (lookupEntry key found).isSome then none else some ((key, node) :: found)
    else some found

end Fields

namespace Reader

/-- A record with the named fields. -/
def record {α : Type} (names : List String) (build : Fields → Option α) : Reader α
  | nesting + 1, .object found => do
    let entries ← Fields.ofMembers names found
    build ⟨nesting, false, entries⟩
  | nesting + 1, .array items =>
    if items.length ≤ names.length then build ⟨nesting, true, names.zip items⟩ else none
  | _, _ => none

/-- How deep the brackets of a text may nest. -/
def deepest : Nat := 127

def ofBytes? {α : Type} (reader : Reader α) (bytes : Bytes) : Option α :=
  (Node.ofBytes? bytes).bind (reader deepest)

def ofText? {α : Type} (reader : Reader α) (text : String) : Option α := reader.ofBytes? (Utf8.ofText text)

/-- Reads an array of values that have been read from texts before. -/
def ofItems? {α : Type} (reader : Reader α) (items : List Value) : Option α :=
  reader (deepest + 1) (Node.ofValue (.array items))

end Reader

end TryConfirmCancel.Json
