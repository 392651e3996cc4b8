/-
**The tokens of JSON text.**

* `Token`: brackets, separators, literals, numbers and strings;
* `tokens?`: the tokens of bytes, with white space between them dropped.

The grammar decides what a token is; what it means is a second question. A number beyond the range
of floating point and a string whose escapes or bytes are no Unicode text are tokens without a
meaning: they may stand where a reader skips a value, and nowhere else.
-/

import TryConfirmCancel.Bytes.Utf8
import TryConfirmCancel.Json.Value

namespace TryConfirmCancel.Json

/-- A token of JSON text. -/
inductive Token
  | openArray
  | closeArray
  | openObject
  | closeObject
  | comma
  | colon
  | null
  | bool (value : Bool)
  | number (value : Option Number)
  | string (value : Option String)
  deriving DecidableEq, Repr

/-! ### Numbers -/

/-- A number as it is spelt, each digit by its value. -/
structure Numeral where
  negative : Bool
  whole : List Nat
  fraction : List Nat
  exponent : Option Int
  deriving DecidableEq, Repr

/-- A byte that is a decimal digit. -/
def isDigit (byte : UInt8) : Bool := 0x30 ≤ byte && byte ≤ 0x39

/-- The digits in front, by value, and what follows them. -/
def leadingDigits (bytes : Bytes) : List Nat × Bytes :=
  ((bytes.takeWhile isDigit).map fun byte => byte.toNat - 0x30, bytes.dropWhile isDigit)

def digitsValue (digits : List Nat) : Nat := digits.foldl (fun number digit => number * 10 + digit) 0

/-- A fraction, which has a digit if it is there at all. -/
def leadingFraction (bytes : Bytes) : Option (List Nat × Bytes) :=
  match bytes with
  | 0x2e :: rest =>
    match leadingDigits rest with
    | ([], _) => none
    | found => some found
  | _ => some ([], bytes)

/-- The digits of an exponent, of which there is at least one. -/
def exponentDigits (negative : Bool) (bytes : Bytes) : Option (Option Int × Bytes) :=
  match leadingDigits bytes with
  | ([], _) => none
  | (digits, rest) =>
    let value : Int := digitsValue digits
    some (some (if negative then -value else value), rest)

/-- An exponent, if one is there. -/
def leadingExponent (bytes : Bytes) : Option (Option Int × Bytes) :=
  match bytes with
  | letter :: rest =>
    if letter = 0x65 ∨ letter = 0x45 then
      match rest with
      | 0x2b :: digits => exponentDigits false digits
      | 0x2d :: digits => exponentDigits true digits
      | digits => exponentDigits false digits
    else some (none, bytes)
  | [] => some (none, bytes)

/-- A whole part: a zero, or digits that do not begin with one. -/
def leadingWhole (bytes : Bytes) : Option (List Nat × Bytes) :=
  match leadingDigits bytes with
  | ([], _) => none
  | (0 :: _ :: _, _) => none
  | found => some found

/-- A number and what follows it. -/
def leadingNumeral (bytes : Bytes) : Option (Numeral × Bytes) := do
  let (negative, unsigned) := match bytes with
    | 0x2d :: rest => (true, rest)
    | rest => (false, rest)
  let (whole, afterWhole) ← leadingWhole unsigned
  let (fraction, afterFraction) ← leadingFraction afterWhole
  let (exponent, rest) ← leadingExponent afterFraction
  some (⟨negative, whole, fraction, exponent⟩, rest)

/-- The digits that fit into 64 bits, and how many are left over. -/
def significand : Nat → List Nat → Nat × Nat
  | number, [] => (number, 0)
  | number, digit :: rest =>
    if number * 10 + digit ≤ maxWord64 then significand (number * 10 + digit) rest
    else (number, rest.length + 1)

/-- A power of ten, the exponent at most 308. -/
def powerOfTen (exponent : Nat) : Binary64 := .ofNat (Nat.pow 10 exponent)

/-- `magnitude * 10 ^ exponent` by one rounded product or by rounded quotients; none beyond the range. -/
def scaled (magnitude : Binary64) (exponent : Int) : Option Binary64 :=
  if 0 ≤ exponent then
    if exponent ≤ 308 then
      let product := magnitude.mul (powerOfTen exponent.toNat)
      if product.isFinite then some product else none
    else if magnitude.pattern = 0 then some magnitude
    else none
  else if -308 ≤ exponent then some (magnitude.div (powerOfTen (-exponent).toNat))
  else if magnitude.pattern = 0 then some magnitude
  else scaled (magnitude.div (powerOfTen 308)) (exponent + 308)
termination_by (-exponent).toNat
decreasing_by omega

/-- What a number means: an integer if it is spelt as one and fits into 64 bits, a floating-point
number otherwise. -/
def Numeral.meaning (numeral : Numeral) : Option Number :=
  let (whole, dropped) := significand 0 numeral.whole
  let integral := numeral.fraction.isEmpty && numeral.exponent.isNone && dropped == 0
  if integral && !numeral.negative then some (.integer whole)
  else if integral && 1 ≤ whole && minSigned64 ≤ -(whole : Int) then some (.integer (-(whole : Int)))
  else
    let (digits, unread) := significand whole numeral.fraction
    let places : Int := (dropped : Int) - ((numeral.fraction.length - unread : Nat) : Int)
    let magnitude := scaled (.ofNat digits) (places + numeral.exponent.getD 0)
    magnitude.map fun value => .float (value.withSign numeral.negative)

/-! ### Strings -/

/-- The value of a hexadecimal digit. -/
def hexDigit? (byte : UInt8) : Option Nat :=
  if 0x30 ≤ byte ∧ byte ≤ 0x39 then some (byte.toNat - 0x30)
  else if 0x61 ≤ byte ∧ byte ≤ 0x66 then some (byte.toNat - 0x57)
  else if 0x41 ≤ byte ∧ byte ≤ 0x46 then some (byte.toNat - 0x37)
  else none

/-- The value of four hexadecimal digits. -/
def codeUnit? (first second third fourth : UInt8) : Option Nat := do
  let first ← hexDigit? first
  let second ← hexDigit? second
  let third ← hexDigit? third
  let fourth ← hexDigit? fourth
  some (((first * 16 + second) * 16 + third) * 16 + fourth)

/-- The byte that a short escape stands for. -/
def shortEscape? (byte : UInt8) : Option UInt8 :=
  if byte = 0x22 ∨ byte = 0x5c ∨ byte = 0x2f then some byte
  else if byte = 0x62 then some 0x08
  else if byte = 0x66 then some 0x0c
  else if byte = 0x6e then some 0x0a
  else if byte = 0x72 then some 0x0d
  else if byte = 0x74 then some 0x09
  else none

/-- The content of a string up to its closing quote and what follows; `taken` holds the content so
far, the last byte first. -/
def leadingString (taken : Bytes) : Bytes → Option (Bytes × Bytes)
  | [] => none
  | 0x22 :: rest => some (taken.reverse, rest)
  | 0x5c :: 0x75 :: first :: second :: third :: fourth :: rest =>
    if (codeUnit? first second third fourth).isSome then
      leadingString (fourth :: third :: second :: first :: 0x75 :: 0x5c :: taken) rest
    else none
  | 0x5c :: letter :: rest =>
    if (shortEscape? letter).isSome then leadingString (letter :: 0x5c :: taken) rest else none
  | byte :: rest => if byte < 0x20 ∨ byte = 0x5c then none else leadingString (byte :: taken) rest

/-- The bytes that a content stands for, `done` holding those so far, the last one first; none if
half of a surrogate pair stands alone. -/
def unescape (done : Bytes) : Bytes → Option Bytes
  | [] => some done.reverse
  | 0x5c :: 0x75 :: first :: second :: third :: fourth :: rest =>
    match codeUnit? first second third fourth with
    | none => none
    | some unit =>
      if 0xdc00 ≤ unit ∧ unit ≤ 0xdfff then none
      else if 0xd800 ≤ unit ∧ unit ≤ 0xdbff then
        match rest with
        | 0x5c :: 0x75 :: first' :: second' :: third' :: fourth' :: rest' =>
          match codeUnit? first' second' third' fourth' with
          | none => none
          | some low =>
            if 0xdc00 ≤ low ∧ low ≤ 0xdfff then
              let char := Char.ofNat ((unit - 0xd800) * 0x400 + (low - 0xdc00) + 0x10000)
              unescape ((String.utf8EncodeChar char).reverse ++ done) rest'
            else none
        | _ => none
      else unescape ((String.utf8EncodeChar (.ofNat unit)).reverse ++ done) rest
  | 0x5c :: letter :: rest =>
    match shortEscape? letter with
    | none => none
    | some byte => unescape (byte :: done) rest
  | byte :: rest => unescape (byte :: done) rest

/-- The text that a content stands for. -/
def contentText? (content : Bytes) : Option String := (unescape [] content).bind Utf8.text?

/-! ### Tokens -/

/-- The first token of bytes that do not begin with white space. -/
def leadingToken (bytes : Bytes) : Option (Token × Bytes) :=
  match bytes with
  | 0x5b :: rest => some (.openArray, rest)
  | 0x5d :: rest => some (.closeArray, rest)
  | 0x7b :: rest => some (.openObject, rest)
  | 0x7d :: rest => some (.closeObject, rest)
  | 0x2c :: rest => some (.comma, rest)
  | 0x3a :: rest => some (.colon, rest)
  | 0x6e :: 0x75 :: 0x6c :: 0x6c :: rest => some (.null, rest)
  | 0x74 :: 0x72 :: 0x75 :: 0x65 :: rest => some (.bool true, rest)
  | 0x66 :: 0x61 :: 0x6c :: 0x73 :: 0x65 :: rest => some (.bool false, rest)
  | 0x22 :: rest => (leadingString [] rest).map fun found => (.string (contentText? found.1), found.2)
  | rest => (leadingNumeral rest).map fun found => (.number found.1.meaning, found.2)

/-- A byte that may stand between tokens. -/
def isSpace (byte : UInt8) : Bool := byte == 0x20 || byte == 0x09 || byte == 0x0a || byte == 0x0d

/-- At most `fuel` tokens, `done` holding those before, the last one first. -/
def tokensFrom : Nat → List Token → Bytes → Option (List Token)
  | 0, done, bytes => if bytes.all isSpace then some done.reverse else none
  | fuel + 1, done, bytes =>
    match bytes.dropWhile isSpace with
    | [] => some done.reverse
    | rest =>
      match leadingToken rest with
      | none => none
      | some (token, left) => tokensFrom fuel (token :: done) left

/-- The tokens of JSON text; each takes at least one byte. -/
def tokens? (bytes : Bytes) : Option (List Token) := tokensFrom bytes.length [] bytes

end TryConfirmCancel.Json
