/-
**YAML scalars.**

* `plainScalar?`: a scalar without quotes, which ends before a colon with a gap behind it, before a
  comment, where a line is not indented far enough, or, within a flow collection, before one of its
  marks;
* `quotedScalar?`: a scalar in single or double quotes;
* `Gap.text`: blanks within a line are kept; a line break becomes one blank, or one break fewer where
  lines are empty, and the blanks around it are dropped.
-/

import TryConfirmCancel.Text.CodePoint
import TryConfirmCancel.Yaml.Spot

namespace TryConfirmCancel.Yaml

/-! ### Gaps -/

/-- Blanks and line breaks within a scalar. -/
inductive Gap
  /-- Blanks within a line, the last one first. -/
  | blanks (chars : List Char)
  /-- Line breaks: the first one, unless it is escaped, and the others, the last one first. -/
  | breaks (first : Option Char) (more : List Char)

namespace Gap

def empty : Gap := blanks []

/-- The gap goes over the end of a line. -/
def isBroken : Gap → Bool
  | blanks _ => false
  | breaks _ _ => true

/-- A blank more, which counts only within a line. -/
def withBlank (gap : Gap) (char : Char) : Gap :=
  match gap with
  | blanks chars => blanks (char :: chars)
  | breaks first more => breaks first more

def withBreak (gap : Gap) (char : Char) : Gap :=
  match gap with
  | blanks _ => breaks (some char) []
  | breaks first more => breaks first (char :: more)

/-- What a gap stands for, the last character first. -/
def text : Gap → List Char
  | blanks chars => chars
  | breaks (some '\n') [] => [' ']
  | breaks (some '\n') more => more
  | breaks (some separator) more => more ++ [separator]
  | breaks none more => more

end Gap

/-- A gap that goes on; no tab may stand in front of column `least` of a new line. -/
def gapFrom (least : Nat) (gap : Gap) : List Spot → Option (Gap × List Spot)
  | [] => some (gap, [])
  | spot :: rest =>
    if isBreak spot.char then gapFrom least (gap.withBreak spot.char) rest
    else if isBlank spot.char then
      if gap.isBroken && spot.char == '\t' && spot.column < least then none
      else gapFrom least (gap.withBlank spot.char) rest
    else some (gap, spot :: rest)

/-! ### Plain scalars -/

/-- A character that separates within flow collections. -/
def isFlowMark (char : Char) : Bool :=
  char == ',' || char == '[' || char == ']' || char == '\x7b' || char == '\x7d'

/-- A character that begins no plain scalar by itself. -/
def isIndicator (char : Char) : Bool :=
  isFlowMark char || "-?:#&*!|>'\"%@\x60".toList.contains char

/-- A plain scalar begins with a character that has this behind it. -/
def beginsPlain (flow : Bool) (char : Char) (rest : List Spot) : Bool :=
  !(isGapChar char || isIndicator char) || (char == '-' && !(rest.head?.any fun spot => isBlank spot.char))
    || (!flow && (char == '?' || char == ':') && !atGap rest)

/-- The characters of a plain scalar up to the next gap, behind those in `taken`, the last one first.
Within a flow collection no mark may follow a colon. -/
def plainRun (flow : Bool) (taken : List Char) : List Spot → Option (List Char × List Spot)
  | [] => some (taken, [])
  | spot :: rest =>
    if isGapChar spot.char || (spot.char == ':' && atGap rest) then some (taken, spot :: rest)
    else if flow && spot.char == ':' && (nextChar? rest).any fun char => char == '?' || isFlowMark char then
      none
    else if flow && isFlowMark spot.char then some (taken, spot :: rest)
    else plainRun flow (spot.char :: taken) rest

/-- A scalar without quotes. -/
structure Plain where
  text : String
  rest : List Spot
  /-- The end of a line stood behind it. -/
  endsLine : Bool

/-- A plain scalar that goes on behind a gap; `taken` holds what has been read, the last one first. -/
def plainFrom (flow : Bool) (least : Nat) : Nat → List Char → Gap → List Spot → Option Plain
  | 0, _, _, _ => none
  | fuel + 1, taken, gap, spots =>
    if isMark spots || nextChar? spots == some '#' then some ⟨.ofList taken.reverse, spots, gap.isBroken⟩
    else do
      let (run, rest) ← plainRun flow [] spots
      if run.isEmpty then some ⟨.ofList taken.reverse, spots, gap.isBroken⟩
      else
        let read := run ++ (gap.text ++ taken)
        let (gap, behind) ← gapFrom least .empty rest
        if !flow && behind.head?.any (·.column < least) then
          some ⟨.ofList read.reverse, behind, gap.isBroken⟩
        else plainFrom flow least fuel read gap behind

/-- The plain scalar in front, the lines of which are indented by `least` columns or more. -/
def plainScalar? (flow : Bool) (least : Nat) (spots : List Spot) : Option Plain :=
  plainFrom flow least (spots.length + 1) [] .empty spots

/-! ### Scalars in quotes -/

/-- The character of an escape and how many characters stand for it behind the backslash. -/
def escape? : List Char → Option (Char × Nat)
  | '0' :: _ => some ('\x00', 1)
  | 'a' :: _ => some ('\x07', 1)
  | 'b' :: _ => some ('\x08', 1)
  | 't' :: _ => some ('\t', 1)
  | '\t' :: _ => some ('\t', 1)
  | 'n' :: _ => some ('\n', 1)
  | 'v' :: _ => some ('\x0b', 1)
  | 'f' :: _ => some ('\x0c', 1)
  | 'r' :: _ => some ('\r', 1)
  | 'e' :: _ => some ('\x1b', 1)
  | ' ' :: _ => some (' ', 1)
  | '"' :: _ => some ('"', 1)
  | '/' :: _ => some ('/', 1)
  | '\\' :: _ => some ('\\', 1)
  | 'N' :: _ => some ('\u0085', 1)
  | '_' :: _ => some ('\u00a0', 1)
  | 'L' :: _ => some ('\u2028', 1)
  | 'P' :: _ => some ('\u2029', 1)
  | 'x' :: digits => (Text.codePoint 2 digits).map fun found => (found.1, 3)
  | 'u' :: digits => (Text.codePoint 4 digits).map fun found => (found.1, 5)
  | 'U' :: digits => (Text.codePoint 8 digits).map fun found => (found.1, 9)
  | _ => none

/-- The rest of a scalar in quotes; `taken` holds what has been read, the last one first. In single
quotes a quote is written twice, in double quotes a backslash escapes. -/
def quotedFrom (quote : Char) : Nat → List Char → List Spot → Option (String × List Spot)
  | 0, _, _ => none
  | _, _, [] => none
  | fuel + 1, taken, spot :: rest =>
    if isMark (spot :: rest) then none
    else if isGapChar spot.char then do
      let (gap, behind) ← gapFrom 0 .empty (spot :: rest)
      quotedFrom quote fuel (gap.text ++ taken) behind
    else if spot.char == quote then
      if quote == '\'' && nextChar? rest == some '\'' then quotedFrom quote fuel ('\'' :: taken) (rest.drop 1)
      else some (.ofList taken.reverse, rest)
    else if quote == '"' && spot.char == '\\' then
      if (nextChar? rest).any isBreak then do
        let (gap, behind) ← gapFrom 0 (.breaks none []) (rest.drop 1)
        quotedFrom quote fuel (gap.text ++ taken) behind
      else do
        let (char, length) ← escape? ((rest.take 9).map Spot.char)
        quotedFrom quote fuel (char :: taken) (rest.drop length)
    else quotedFrom quote fuel (spot.char :: taken) rest

/-- The scalar behind an opening quote. -/
def quotedScalar? (quote : Char) (spots : List Spot) : Option (String × List Spot) :=
  quotedFrom quote (spots.length + 1) [] spots

end TryConfirmCancel.Yaml
