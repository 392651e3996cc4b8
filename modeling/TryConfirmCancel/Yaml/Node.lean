/-
**YAML documents as trees.**

A scalar keeps its text and whether it stood in quotes; what it means is decided by the one who reads
it.

* `Node`: a document as a tree;
* `Node.ofTokens?`: the tree that tokens begin with;
* `parse?`: the tree of a text that holds at most one document.
-/

import TryConfirmCancel.Yaml.Token

namespace TryConfirmCancel.Yaml

/-- A YAML document as a tree. -/
inductive Node
  | scalar (quoted : Bool) (text : String)
  | sequence (items : List Node)
  | mapping (entries : List (Node × Node))
  deriving Inhabited

/-- Nothing where a value may stand. -/
def Node.absent : Node := .scalar false ""

/-- One of the tokens comes next. -/
def comesNext (expected tokens : List Token) : Bool := tokens.head?.any expected.contains

/-- Where a node stands, which decides what it may be. -/
inductive Site
  | flow
  /-- In a document or a block sequence. -/
  | block
  /-- In a block mapping, where the items of a sequence need not be indented. -/
  | entry
  deriving DecidableEq

mutual

/-- The node that tokens begin with. -/
def nodeFrom : Nat → Site → List Token → Option (Node × List Token)
  | 0, _, _ => none
  | fuel + 1, site, tokens =>
    match tokens with
    | .scalar quoted text :: rest => some (.scalar quoted text, rest)
    | .openSequence :: rest => if comesNext [.closeSequence] rest then some (.sequence [], rest.drop 1)
      else flowItems fuel [] rest
    | .openMapping :: rest => if comesNext [.closeMapping] rest then some (.mapping [], rest.drop 1)
      else flowEntries fuel [] rest
    | .blockSequence :: rest => if site = .flow then none else blockItems fuel [] rest
    | .blockMapping :: rest => if site = .flow then none else blockEntries fuel [] rest
    | .item :: _ => if site = .entry then looseItems fuel [] tokens else none
    | _ => none

/-- A node, or nothing if one of the tokens `ends` comes next. -/
def nodeUnless : Nat → Site → List Token → List Token → Option (Node × List Token)
  | 0, _, _, _ => none
  | fuel + 1, site, ends, tokens =>
    if comesNext ends tokens then some (.absent, tokens) else nodeFrom fuel site tokens

/-- The value behind a key, or nothing if there is none. -/
def valueFrom : Nat → Site → List Token → List Token → Option (Node × List Token)
  | 0, _, _, _ => none
  | fuel + 1, site, ends, tokens =>
    match tokens with
    | .value :: rest => nodeUnless fuel site ends rest
    | _ => some (.absent, tokens)

/-- The items of a block sequence, `taken` holding those in front, the last one first. -/
def blockItems : Nat → List Node → List Token → Option (Node × List Token)
  | 0, _, _ => none
  | fuel + 1, taken, tokens =>
    match tokens with
    | .item :: rest => do
      let (node, rest) ← nodeUnless fuel .block [.item, .blockEnd] rest
      blockItems fuel (node :: taken) rest
    | .blockEnd :: rest => some (.sequence taken.reverse, rest)
    | _ => none

/-- The items of a sequence that is not indented, in an entry of a block mapping. -/
def looseItems : Nat → List Node → List Token → Option (Node × List Token)
  | 0, _, _ => none
  | fuel + 1, taken, tokens =>
    match tokens with
    | .item :: rest => do
      let (node, rest) ← nodeUnless fuel .block [.item, .key, .value, .blockEnd] rest
      looseItems fuel (node :: taken) rest
    | _ => some (.sequence taken.reverse, tokens)

/-- The entries of a block mapping. -/
def blockEntries : Nat → List (Node × Node) → List Token → Option (Node × List Token)
  | 0, _, _ => none
  | fuel + 1, taken, tokens =>
    match tokens with
    | .key :: rest => do
      let (key, rest) ← nodeUnless fuel .entry [.key, .value, .blockEnd] rest
      let (value, rest) ← valueFrom fuel .entry [.key, .value, .blockEnd] rest
      blockEntries fuel ((key, value) :: taken) rest
    | .blockEnd :: rest => some (.mapping taken.reverse, rest)
    | _ => none

/-- The items of a flow sequence, of which one comes next. An entry stands for a mapping of its own; the
mark of a key with nothing behind it takes the next mark with it. -/
def flowItems : Nat → List Node → List Token → Option (Node × List Token)
  | 0, _, _ => none
  | fuel + 1, taken, tokens => do
    let (node, rest) ← match tokens with
      | .key :: rest => do
        let (key, rest) ← if comesNext [.value, .comma, .closeSequence] rest then some (.absent, rest.drop 1)
          else nodeFrom fuel .flow rest
        let (value, rest) ← valueFrom fuel .flow [.comma, .closeSequence] rest
        some (Node.mapping [(key, value)], rest)
      | tokens => nodeFrom fuel .flow tokens
    match rest with
    | .comma :: .closeSequence :: rest => some (.sequence (node :: taken).reverse, rest)
    | .comma :: rest => flowItems fuel (node :: taken) rest
    | .closeSequence :: rest => some (.sequence (node :: taken).reverse, rest)
    | _ => none

/-- The entries of a flow mapping, of which one comes next. A node without the mark of a key is a key
without a value. -/
def flowEntries : Nat → List (Node × Node) → List Token → Option (Node × List Token)
  | 0, _, _ => none
  | fuel + 1, taken, tokens => do
    let (entry, rest) ← match tokens with
      | .key :: rest => do
        let (key, rest) ← nodeUnless fuel .flow [.value, .comma, .closeMapping] rest
        let (value, rest) ← valueFrom fuel .flow [.comma, .closeMapping] rest
        some ((key, value), rest)
      | tokens => (nodeFrom fuel .flow tokens).map fun (key, rest) => ((key, Node.absent), rest)
    match rest with
    | .comma :: .closeMapping :: rest => some (.mapping (entry :: taken).reverse, rest)
    | .comma :: rest => flowEntries fuel (entry :: taken) rest
    | .closeMapping :: rest => some (.mapping (entry :: taken).reverse, rest)
    | _ => none

end

/-- The tree that tokens begin with, and what follows it. -/
def Node.ofTokens? (tokens : List Token) : Option (Node × List Token) :=
  nodeFrom (3 * tokens.length + 3) .block tokens

/-- The only document of tokens: nothing if there is none at all. -/
def document? (tokens : List Token) : Option (Option Node) :=
  match tokens with
  | [] => some none
  | .documentStart :: rest => do
    let (node, rest) ← if rest.isEmpty || comesNext [.documentStart, .documentEnd] rest then
        some (.absent, rest)
      else Node.ofTokens? rest
    if rest.all (· = .documentEnd) then some (some node) else none
  | tokens => do
    let (node, rest) ← Node.ofTokens? tokens
    if rest.all (· = .documentEnd) then some (some node) else none

/-- The tree of a text: nothing if it holds no document at all. A byte order mark in front does not
count. -/
def parse? (text : String) : Option (Option Node) :=
  let chars := match text.toList with
    | '\ufeff' :: rest => rest
    | chars => chars
  if chars.all isPermitted then (tokens? chars).bind document? else none

end TryConfirmCancel.Yaml
