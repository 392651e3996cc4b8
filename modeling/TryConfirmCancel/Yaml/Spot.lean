/-
**The characters of a YAML text with their places.**

* `isPermitted`: the characters that a text may hold;
* `spots`: the characters of a text, each with its line, its column and the bytes in front of it. A
  line feed stands for every line break but the separators of lines and paragraphs;
* `isMark`: the line begins or ends a document.
-/

namespace TryConfirmCancel.Yaml

/-- A character that a text may hold: no control but tabs and line breaks, and no code point that is
set aside. -/
def isPermitted (char : Char) : Bool :=
  let code := char.toNat
  char == '\t' || char == '\n' || char == '\r' || (0x20 ≤ code && code ≤ 0x7e) || code == 0x85
    || (0xa0 ≤ code && code ≤ 0xfffd) || 0x10000 ≤ code

/-- A separator of lines or paragraphs, which stays what it is when lines are folded. -/
def isSeparator (char : Char) : Bool := char == '\u2028' || char == '\u2029'

/-- A line break of any kind. -/
def isBreak (char : Char) : Bool :=
  char == '\n' || char == '\r' || char == '\u0085' || isSeparator char

def isBlank (char : Char) : Bool := char == ' ' || char == '\t'

/-- A blank, a tab or a line break. -/
def isGapChar (char : Char) : Bool := isBlank char || isBreak char

/-- A place in a text. -/
structure Place where
  line : Nat
  column : Nat
  /-- The bytes in front of it. -/
  offset : Nat
  deriving DecidableEq, Repr, Inhabited

/-- The place behind a character of so many bytes. -/
def Place.next (place : Place) (size : Nat) : Place :=
  { place with column := place.column + 1, offset := place.offset + size }

/-- The place behind a line break of so many bytes. -/
def Place.nextLine (place : Place) (size : Nat) : Place := ⟨place.line + 1, 0, place.offset + size⟩

/-- A character with its place. -/
structure Spot where
  char : Char
  place : Place
  deriving DecidableEq, Repr, Inhabited

def Spot.column (spot : Spot) : Nat := spot.place.column

/-- Characters with their places, the first of which is given. -/
def spotsFrom : Place → List Char → List Spot
  | _, [] => []
  | place, '\r' :: '\n' :: rest => ⟨'\n', place⟩ :: spotsFrom (place.nextLine 2) rest
  | place, char :: rest =>
    if isSeparator char then ⟨char, place⟩ :: spotsFrom (place.nextLine char.utf8Size) rest
    else if isBreak char then ⟨'\n', place⟩ :: spotsFrom (place.nextLine char.utf8Size) rest
    else ⟨char, place⟩ :: spotsFrom (place.next char.utf8Size) rest

/-- The characters of a text with their places. -/
def spots (chars : List Char) : List Spot := spotsFrom ⟨0, 0, 0⟩ chars

/-- A blank or a line break comes next, or the text ends. -/
def atGap : List Spot → Bool
  | [] => true
  | spot :: _ => isGapChar spot.char

def nextChar? (spots : List Spot) : Option Char := spots.head?.map Spot.char

/-- Three of a character stand in front of a gap. -/
def isTripled (char : Char) (spots : List Spot) : Bool :=
  (spots.take 3).map Spot.char == [char, char, char] && atGap (spots.drop 3)

def isStartMark (spots : List Spot) : Bool :=
  spots.head?.any (·.column == 0) && isTripled '-' spots

def isEndMark (spots : List Spot) : Bool :=
  spots.head?.any (·.column == 0) && isTripled '.' spots

/-- The line begins or ends a document. -/
def isMark (spots : List Spot) : Bool := isStartMark spots || isEndMark spots

end TryConfirmCancel.Yaml
