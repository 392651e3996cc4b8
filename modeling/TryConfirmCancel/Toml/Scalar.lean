/-
**The scalars of TOML.**

Strings of the four kinds, keys, numbers and truth values. Each reader takes the characters that
are left and answers with what it read and what follows, or with nothing.
-/

import TryConfirmCancel.Json.Value
import TryConfirmCancel.Text.CodePoint

namespace TryConfirmCancel.Toml

abbrev Scan (α : Type) := List Char → Option (α × List Char)

def isBlank (char : Char) : Bool := char == ' ' || char == '\t'

/-- A character that may stand in a comment or a literal string. -/
def isPrintable (char : Char) : Bool := char == '\t' || (' ' ≤ char && char != '\x7f')

/-- Characters without the blanks in front of them. -/
def skipBlanks (chars : List Char) : List Char := chars.dropWhile isBlank

/-- What follows a line break, if there is one. -/
def lineBreak? : List Char → Option (List Char)
  | '\n' :: rest => some rest
  | '\r' :: '\n' :: rest => some rest
  | _ => none

/-- What follows a comment, if there is one. -/
def skipComment : List Char → List Char
  | '#' :: rest => rest.dropWhile isPrintable
  | chars => chars

/-- Skips blanks, comments and line breaks; at most `fuel` lines. -/
def skipLines : Nat → List Char → List Char
  | 0, chars => chars
  | fuel + 1, chars =>
    let rest := skipComment (skipBlanks chars)
    match lineBreak? rest with
    | some next => skipLines fuel next
    | none => rest

/-! ### Strings -/

/-- The character that an escape stands for; the backslash has been read. -/
def escaped : List Char → Option (Char × List Char)
  | 'b' :: rest => some ('\x08', rest)
  | 't' :: rest => some ('\t', rest)
  | 'n' :: rest => some ('\n', rest)
  | 'f' :: rest => some ('\x0c', rest)
  | 'r' :: rest => some ('\r', rest)
  | '"' :: rest => some ('"', rest)
  | '\\' :: rest => some ('\\', rest)
  | 'u' :: rest => Text.codePoint 4 rest
  | 'U' :: rest => Text.codePoint 8 rest
  | _ => none

/-- The rest of a basic string, `taken` holding what has been read, the last first. -/
def basicString : Nat → List Char → Scan String
  | 0, _, _ => none
  | fuel + 1, taken, chars =>
    match chars with
    | '"' :: rest => some (.ofList taken.reverse, rest)
    | '\\' :: rest => do
      let (char, rest) ← escaped rest
      basicString fuel (char :: taken) rest
    | char :: rest => if isPrintable char then basicString fuel (char :: taken) rest else none
    | [] => none

/-- The rest of a literal string. -/
def literalString : List Char → Scan String
  | taken, '\'' :: rest => some (.ofList taken.reverse, rest)
  | taken, char :: rest => if isPrintable char then literalString (char :: taken) rest else none
  | _, [] => none

/-- A string of several lines ends with three quotes, before which two more may belong to it. -/
def closing (quote : Char) (taken : List Char) (chars : List Char) : Option (String × List Char) :=
  let quotes := (chars.takeWhile (· == quote)).length
  if 3 ≤ quotes then
    let extra := min (quotes - 3) 2
    some (.ofList (List.replicate extra quote ++ taken).reverse, chars.drop (extra + 3))
  else none

/-- What follows a backslash at the end of a line and all white space behind it. -/
def lineEnding? (chars : List Char) : Option (List Char) :=
  (lineBreak? (skipBlanks chars)).map fun rest =>
    rest.dropWhile fun char => isBlank char || char == '\n' || char == '\r'

/-- The rest of a basic string of several lines. -/
def basicLines : Nat → List Char → Scan String
  | 0, _, _ => none
  | fuel + 1, taken, chars =>
    match closing '"' taken chars with
    | some found => some found
    | none =>
      match chars with
      | '\\' :: rest =>
        match lineEnding? rest with
        | some next => basicLines fuel taken next
        | none => do
          let (char, next) ← escaped rest
          basicLines fuel (char :: taken) next
      | '\r' :: '\n' :: rest => basicLines fuel ('\n' :: taken) rest
      | '\n' :: rest => basicLines fuel ('\n' :: taken) rest
      | char :: rest => if isPrintable char then basicLines fuel (char :: taken) rest else none
      | [] => none

/-- The rest of a literal string of several lines. -/
def literalLines : Nat → List Char → Scan String
  | 0, _, _ => none
  | fuel + 1, taken, chars =>
    match closing '\'' taken chars with
    | some found => some found
    | none =>
      match chars with
      | '\r' :: '\n' :: rest => literalLines fuel ('\n' :: taken) rest
      | '\n' :: rest => literalLines fuel ('\n' :: taken) rest
      | char :: rest => if isPrintable char then literalLines fuel (char :: taken) rest else none
      | [] => none

/-- The text of a string of several lines begins behind a line break at its front. -/
def firstLine (chars : List Char) : List Char := (lineBreak? chars).getD chars

def string (chars : List Char) : Option (String × List Char) :=
  match chars with
  | '"' :: '"' :: '"' :: rest => basicLines (rest.length + 1) [] (firstLine rest)
  | '\'' :: '\'' :: '\'' :: rest => literalLines (rest.length + 1) [] (firstLine rest)
  | '"' :: rest => basicString (rest.length + 1) [] rest
  | '\'' :: rest => literalString [] rest
  | _ => none

/-! ### Keys -/

/-- A character of a bare key. -/
def isBare (char : Char) : Bool :=
  ('a' ≤ char && char ≤ 'z') || ('A' ≤ char && char ≤ 'Z') || ('0' ≤ char && char ≤ '9')
    || char == '_' || char == '-'

def simpleKey (chars : List Char) : Option (String × List Char) :=
  match chars with
  | '"' :: rest => basicString (rest.length + 1) [] rest
  | '\'' :: rest => literalString [] rest
  | _ =>
    match chars.takeWhile isBare with
    | [] => none
    | key => some (.ofList key, chars.dropWhile isBare)

def moreKeys : Nat → Scan (List String)
  | 0, _ => none
  | fuel + 1, chars =>
    match skipBlanks chars with
    | '.' :: rest => do
      let (key, rest) ← simpleKey (skipBlanks rest)
      let (keys, rest) ← moreKeys fuel rest
      some (key :: keys, rest)
    | rest => some ([], rest)

/-- The greatest number of parts of a key with dots. -/
def mostKeys : Nat := 79

/-- A key with its dots and the blanks around it: the parts in front of the last one, and that one. -/
def dottedKey (chars : List Char) : Option ((List String × String) × List Char) := do
  let (first, rest) ← simpleKey (skipBlanks chars)
  let (more, rest) ← moreKeys (rest.length + 1) rest
  let keys := first :: more
  if keys.length ≤ mostKeys then some ((keys.dropLast, keys.getLastD first), rest) else none

/-! ### Numbers and truth values -/

/-- Digits of a base, in which an underscore may stand between two. -/
def digitsOf (isDigit : Char → Bool) : List Char → List Char × List Char
  | [] => ([], [])
  | '_' :: char :: rest =>
    if isDigit char then
      let (digits, left) := digitsOf isDigit rest
      (char :: digits, left)
    else ([], '_' :: char :: rest)
  | char :: rest =>
    if isDigit char then
      let (digits, left) := digitsOf isDigit rest
      (char :: digits, left)
    else ([], char :: rest)

/-- One digit at least, the first without an underscore before it. -/
def someDigits (isDigit : Char → Bool) (chars : List Char) : Option (List Char × List Char) :=
  match chars with
  | '_' :: _ => none
  | _ =>
    match digitsOf isDigit chars with
    | ([], _) => none
    | found => some found

/-- The number that digits of a base spell. -/
def numberOf (base : Nat) (digits : List Char) : Nat :=
  digits.foldl (fun number char => number * base + (Text.hexDigit? char).getD 0) 0

def isDecimal (char : Char) : Bool := '0' ≤ char && char ≤ '9'

def signed64? (value : Int) : Option Json.Value :=
  if minSigned64 ≤ value ∧ value ≤ maxSigned64 then some (.int value) else none

/-- An integer in a base other than ten. -/
def basedInteger (base : Nat) (isDigit : Char → Bool) (chars : List Char) :
    Option (Json.Value × List Char) := do
  let (digits, rest) ← someDigits isDigit chars
  let value ← signed64? (numberOf base digits)
  some (value, rest)

/-- A whole part: a zero, or digits that do not begin with one. -/
def wholePart (chars : List Char) : Option (List Char × List Char) :=
  match chars with
  | '0' :: rest => some (['0'], rest)
  | _ => someDigits isDecimal chars

/-- The fraction of a number, if there is one. -/
def fraction (chars : List Char) : Option (List Char × List Char) :=
  match chars with
  | '.' :: rest => someDigits isDecimal rest
  | _ => some ([], chars)

/-- The exponent of a number, if there is one. -/
def exponent (chars : List Char) : Option (Option Int × List Char) :=
  match chars with
  | letter :: rest =>
    if letter == 'e' || letter == 'E' then do
      let (negative, unsigned) := match rest with
        | '-' :: rest => (true, rest)
        | '+' :: rest => (false, rest)
        | rest => (false, rest)
      let (digits, rest) ← someDigits isDecimal unsigned
      let value : Int := numberOf 10 digits
      some (some (if negative then -value else value), rest)
    else some (none, chars)
  | [] => some (none, [])

/-- A decimal integer or a floating-point number, its sign read. -/
def unsignedNumber (negative : Bool) (chars : List Char) : Option (Json.Value × List Char) := do
  let (whole, afterWhole) ← wholePart chars
  let (fraction, afterFraction) ← fraction afterWhole
  let (exponent, rest) ← exponent afterFraction
  if fraction.isEmpty && exponent.isNone then
    let magnitude : Int := numberOf 10 whole
    let value ← signed64? (if negative then -magnitude else magnitude)
    some (value, rest)
  else
    let digits := numberOf 10 (whole ++ fraction)
    let number := Binary64.ofDecimal negative digits (exponent.getD 0 - (fraction.length : Int))
    if number.isFinite || negative then some (.ofFloat number, rest) else none

/-- A number behind an optional sign. -/
def signedNumber (negative : Bool) (chars : List Char) : Option (Json.Value × List Char) :=
  match chars with
  | 'i' :: 'n' :: 'f' :: rest => some (.null, rest)
  | 'n' :: 'a' :: 'n' :: rest => some (.null, rest)
  | _ => unsignedNumber negative chars

/-- A number or a truth value. -/
def plain (chars : List Char) : Option (Json.Value × List Char) :=
  match chars with
  | 't' :: 'r' :: 'u' :: 'e' :: rest => some (.bool true, rest)
  | 'f' :: 'a' :: 'l' :: 's' :: 'e' :: rest => some (.bool false, rest)
  | '0' :: 'x' :: rest => basedInteger 16 (fun char => (Text.hexDigit? char).isSome) rest
  | '0' :: 'o' :: rest => basedInteger 8 (fun char => '0' ≤ char && char ≤ '7') rest
  | '0' :: 'b' :: rest => basedInteger 2 (fun char => char == '0' || char == '1') rest
  | '+' :: rest => signedNumber false rest
  | '-' :: rest => signedNumber true rest
  | _ => signedNumber false chars

end TryConfirmCancel.Toml
