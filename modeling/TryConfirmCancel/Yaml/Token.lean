/-
**The tokens of a YAML text.**

* `Token`: marks, scalars, and where collections begin and end. A block collection begins where a line
  is indented further, and ends where one is indented less;
* `Candidate`: a token that turns out to be the key of an entry if a colon follows it on the same line
  and within 1024 bytes;
* `Scanner.readToken`: reads one token;
* `tokens?`: the tokens of a text.

Block scalars, anchors, aliases, tags and directives are refused.
-/

import TryConfirmCancel.Yaml.Scalar

namespace TryConfirmCancel.Yaml

/-- A token of a YAML text. -/
inductive Token
  | documentStart
  | documentEnd
  | blockSequence
  | blockMapping
  /-- The end of a block collection. -/
  | blockEnd
  | openSequence
  | closeSequence
  | openMapping
  | closeMapping
  | comma
  /-- An item of a block sequence. -/
  | item
  | key
  | value
  | scalar (quoted : Bool) (text : String)
  deriving DecidableEq, Repr, Inhabited

/-- A token that turns out to be a key if a colon follows. -/
structure Candidate where
  /-- The flow collections around it. -/
  level : Nat
  place : Place
  /-- Nothing but a key can stand here. -/
  required : Bool
  /-- The tokens in front of it. -/
  position : Nat

/-- A colon at a place is too far away. -/
def Candidate.isStale (candidate : Candidate) (place : Place) : Bool :=
  candidate.place.line < place.line || candidate.place.offset + 1024 < place.offset

/-- What has been read so far. -/
structure Scanner where
  /-- The tokens, the last one first. -/
  tokens : List Token := []
  count : Nat := 0
  /-- The columns of the block collections that are open, the innermost first. -/
  columns : List Nat := []
  /-- The number of flow collections that are open. -/
  level : Nat := 0
  /-- What may turn out to be a key, at most one on each level, the innermost first. -/
  candidates : List Candidate := []
  /-- A key may begin here. -/
  keyAllowed : Bool := true

namespace Scanner

def inFlow (scanner : Scanner) : Bool := 0 < scanner.level

/-- The least column of the lines of a plain scalar. -/
def leastColumn (scanner : Scanner) : Nat :=
  match scanner.columns with
  | [] => 0
  | column :: _ => column + 1

def emit (scanner : Scanner) (token : Token) : Scanner :=
  { scanner with tokens := token :: scanner.tokens, count := scanner.count + 1 }

/-- A token more behind the first `position` ones. -/
def insert (scanner : Scanner) (position : Nat) (token : Token) : Scanner :=
  let behind := scanner.count - position
  { scanner with
    tokens := scanner.tokens.take behind ++ token :: scanner.tokens.drop behind, count := scanner.count + 1 }

/-- From here on a key may begin, or may not. -/
def allowing (scanner : Scanner) (keyAllowed : Bool) : Scanner := { scanner with keyAllowed }

/-! ### Block collections -/

/-- A block collection begins in a column that is further in than those that are open. -/
def openBlock (scanner : Scanner) (column position : Nat) (token : Token) : Scanner :=
  if !scanner.inFlow && scanner.columns.head?.all (· < column) then
    { scanner.insert position token with columns := column :: scanner.columns }
  else scanner

/-- The block collections whose columns pass a test end. -/
def closeBlocks (scanner : Scanner) (ends : Nat → Bool) : Scanner :=
  if scanner.inFlow then scanner
  else
    let closed := (scanner.columns.takeWhile ends).length
    { scanner with
      tokens := List.replicate closed .blockEnd ++ scanner.tokens
      count := scanner.count + closed
      columns := scanner.columns.drop closed }

/-! ### Candidates -/

/-- Whatever might have been a key on this level is none. -/
def dropCandidate (scanner : Scanner) : Option Scanner :=
  match scanner.candidates with
  | [] => some scanner
  | candidate :: others =>
    if candidate.level < scanner.level then some scanner
    else if candidate.required then none
    else some { scanner with candidates := others }

/-- The token to come may turn out to be a key. -/
def noteCandidate (scanner : Scanner) (place : Place) : Option Scanner :=
  if scanner.keyAllowed then do
    let scanner ← scanner.dropCandidate
    let required := !scanner.inFlow && scanner.columns.head? == some place.column
    some { scanner with
      candidates := ⟨scanner.level, place, required, scanner.count⟩ :: scanner.candidates }
  else some scanner

/-- Drops the candidates that are too far away from a place. -/
def dropStale (scanner : Scanner) (place : Place) : Option Scanner :=
  let (stale, fresh) := scanner.candidates.partition (·.isStale place)
  if stale.any Candidate.required then none else some { scanner with candidates := fresh }

/-! ### Marks -/

/-- A mark that begins or ends a document. -/
def documentMark (scanner : Scanner) (token : Token) : Option Scanner := do
  let scanner ← (scanner.closeBlocks fun _ => true).dropCandidate
  some ((scanner.allowing false).emit token)

def openFlow (scanner : Scanner) (place : Place) (token : Token) : Option Scanner := do
  let scanner ← scanner.noteCandidate place
  some (({ scanner with level := scanner.level + 1 }.allowing true).emit token)

def closeFlow (scanner : Scanner) (token : Token) : Option Scanner := do
  let scanner ← scanner.dropCandidate
  some (({ scanner with level := scanner.level - 1 }.allowing false).emit token)

def comma (scanner : Scanner) : Option Scanner := do
  let scanner ← scanner.dropCandidate
  some ((scanner.allowing true).emit .comma)

/-- A mark that begins an entry or an item; in a block it stands only where a key may begin. -/
def entryMark (scanner : Scanner) (place : Place) (block token : Token) : Option Scanner :=
  if !scanner.inFlow && !scanner.keyAllowed then none
  else do
    let scanner ← (scanner.openBlock place.column scanner.count block).dropCandidate
    some (scanner.emit token)

/-- A hyphen in front of an item. -/
def itemMark (scanner : Scanner) (place : Place) : Option Scanner :=
  (scanner.entryMark place .blockSequence .item).map (·.allowing true)

/-- A question mark in front of a key. -/
def keyMark (scanner : Scanner) (place : Place) : Option Scanner :=
  (scanner.entryMark place .blockMapping .key).map fun scanner => scanner.allowing !scanner.inFlow

/-- A colon, which makes the candidate of its level a key. -/
def valueMark (scanner : Scanner) (place : Place) : Option Scanner :=
  match scanner.candidates.head?.filter (·.level == scanner.level) with
  | some candidate =>
    let keyed := scanner.insert candidate.position .key
    let opened := keyed.openBlock candidate.place.column candidate.position .blockMapping
    some (({ opened with candidates := scanner.candidates.drop 1 }.allowing false).emit .value)
  | none =>
    if !scanner.inFlow && !scanner.keyAllowed then none
    else
      let opened := scanner.openBlock place.column scanner.count .blockMapping
      some ((opened.allowing !scanner.inFlow).emit .value)

/-! ### Reading -/

def scalar (scanner : Scanner) (place : Place) (quoted : Bool) (text : String) (keyAllowed : Bool) :
    Option Scanner := do
  let scanner ← scanner.noteCandidate place
  some ((scanner.allowing keyAllowed).emit (.scalar quoted text))

/-- Reads the token that begins with a character. -/
def readToken (scanner : Scanner) (here : Spot) (rest : List Spot) : Option (Scanner × List Spot) :=
  let leaving (rest : List Spot) (scanner : Scanner) : Scanner × List Spot := (scanner, rest)
  let spots := here :: rest
  let char := here.char
  let place := here.place
  if isStartMark spots then (scanner.documentMark .documentStart).map (leaving (rest.drop 2))
  else if isEndMark spots then (scanner.documentMark .documentEnd).map (leaving (rest.drop 2))
  else if char == '[' then (scanner.openFlow place .openSequence).map (leaving rest)
  else if char == '\x7b' then (scanner.openFlow place .openMapping).map (leaving rest)
  else if char == ']' then (scanner.closeFlow .closeSequence).map (leaving rest)
  else if char == '\x7d' then (scanner.closeFlow .closeMapping).map (leaving rest)
  else if char == ',' then scanner.comma.map (leaving rest)
  else if char == '-' && atGap rest then (scanner.itemMark place).map (leaving rest)
  else if char == '?' && (scanner.inFlow || atGap rest) then (scanner.keyMark place).map (leaving rest)
  else if char == ':' && (scanner.inFlow || atGap rest) then (scanner.valueMark place).map (leaving rest)
  else if char == '\'' || char == '"' then do
    let (text, left) ← quotedScalar? char rest
    (scanner.scalar place true text false).map (leaving left)
  else if beginsPlain scanner.inFlow char rest then do
    let plain ← plainScalar? scanner.inFlow scanner.leastColumn spots
    (scanner.scalar place false plain.text plain.endsLine).map (leaving plain.rest)
  else none

end Scanner

/-- Skips to the next token, and tells whether a key may begin there. A comment goes up to the end of
its line. Tabs do not count within flow collections, and elsewhere where no key may begin; so does a
byte order mark in front of all. -/
def skipToToken (flow comment keyAllowed : Bool) : List Spot → Bool × List Spot
  | [] => (keyAllowed, [])
  | spot :: rest =>
    if isBreak spot.char then skipToToken flow false (keyAllowed || !flow) rest
    else if comment || spot.char == '#' then skipToToken flow true keyAllowed rest
    else if spot.char == ' ' || (spot.char == '\t' && (flow || !keyAllowed))
        || (spot.char == '\ufeff' && spot.place.offset == 0) then
      skipToToken flow false keyAllowed rest
    else (keyAllowed, spot :: rest)

/-- The tokens of characters; each takes one of them at least. -/
def tokensFrom : Nat → Scanner → List Spot → Option (List Token)
  | 0, _, _ => none
  | fuel + 1, scanner, spots =>
    match skipToToken scanner.inFlow false scanner.keyAllowed spots with
    | (_, []) => (scanner.closeBlocks fun _ => true).dropCandidate.map fun scanner => scanner.tokens.reverse
    | (keyAllowed, here :: rest) => do
      let scanner ← (scanner.allowing keyAllowed).dropStale here.place
      let (scanner, left) ← (scanner.closeBlocks (here.column < ·)).readToken here rest
      tokensFrom fuel scanner left

def tokens? (chars : List Char) : Option (List Token) := tokensFrom (chars.length + 1) {} (spots chars)

end TryConfirmCancel.Yaml
