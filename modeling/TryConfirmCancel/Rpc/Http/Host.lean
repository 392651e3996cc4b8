/-
**Hosts of URLs.**

* `Host.isAddress`: an address of eight groups of digits, as it stands between brackets;
* `Host.text?`: a name or an address in brackets, in lower case;
* `Host.authority?`: a host with the number of its service, which is left out where it is the standard one.

A name stands for itself: its escapes are not resolved but refused, letters outside ASCII are kept, and a name that
looks like four numbers is no address. The groups of an address are kept as they are written.
-/

import TryConfirmCancel.Text.CodePoint
import TryConfirmCancel.Text.Fields
import TryConfirmCancel.Text.Numeral

namespace TryConfirmCancel.Rpc.Host

/-- A character that no name can hold. -/
def isForbidden (char : Char) : Bool :=
  char ≤ ' ' || char == '\x7f' || ("#%/:<>?@[\\]^|".toList.contains char)

/-- Up to four hexadecimal digits. -/
def isGroup (group : List Char) : Bool :=
  !group.isEmpty && group.length ≤ 4 && group.all fun char => (Text.hexDigit? char).isSome

/-- A number below 256, without a zero in front. -/
def isByte (digits : List Char) : Bool :=
  digits.all Char.isDigit && (digits == ['0'] || digits.head? != some '0')
    && (Text.Numeral.parse 255 (.ofList digits)).toOption.isSome

/-- Four numbers below 256 with dots between them. -/
def isQuad (chars : List Char) : Bool :=
  let bytes := Text.splitChars '.' chars
  bytes.length == 4 && bytes.all isByte

/-- How many groups there are; four numbers at the end stand for two. -/
def groups? : List (List Char) → Option Nat
  | [] => some 0
  | [last] => if isGroup last then some 1 else if isQuad last then some 2 else none
  | group :: rest => if isGroup group then (groups? rest).map (· + 1) else none

/-- What stands in front of the first two colons in a row, and behind them. -/
def gap? : List Char → Option (List Char × List Char)
  | ':' :: ':' :: rest => some ([], rest)
  | char :: rest => (gap? rest).map fun (front, behind) => (char :: front, behind)
  | [] => none

/-- The parts between colons. -/
def parts (chars : List Char) : List (List Char) := if chars.isEmpty then [] else Text.splitChars ':' chars

/-- An address of eight groups. Two colons in a row, of which there may be one pair, stand for groups of zeros. -/
def isAddress (chars : List Char) : Bool :=
  match gap? chars with
  | none => groups? (parts chars) == some 8
  | some (front, behind) =>
    (parts front).all isGroup && (groups? (parts behind)).any fun count => (parts front).length + count ≤ 7

example : ["::", "::1", "1:2:3:4:5:6:7:8", "FE80::a:0", "::ffff:10.0.0.1"].all
    (fun text => isAddress text.toList) = true := by decide +kernel

example : ["", ":", "1::2::3", "1:2:3:4:5:6:7", "12345::", "::10.0.0.256"].any
    (fun text => isAddress text.toList) = false := by decide +kernel

/-- A host in lower case. -/
def text? (host : List Char) : Option (List Char) :=
  match host with
  | '[' :: rest =>
    if rest.getLast? == some ']' && isAddress rest.dropLast then some (host.map Char.toLower) else none
  | _ => if host.isEmpty || host.any isForbidden then none else some (host.map Char.toLower)

/-- The number of a service behind its colon, or nothing where it is the standard one. -/
def service? (standard : Nat) (digits : List Char) : Option (List Char) :=
  if digits.isEmpty then some []
  else if digits.all Char.isDigit then
    (Text.Numeral.parse 65535 (.ofList digits)).toOption.map fun number =>
      if number = standard then [] else ':' :: Nat.toDigits 10 number
  else none

/-- A host with the number of its service. -/
def authority? (standard : Nat) (authority : List Char) : Option String := do
  let bracketed := if authority.head? == some '[' then authority.takeWhile fun char => char != ']' else []
  let rest := authority.drop bracketed.length
  let host ← text? (bracketed ++ rest.takeWhile fun char => char != ':')
  let service ← service? standard ((rest.dropWhile fun char => char != ':').drop 1)
  some (.ofList (host ++ service))

end TryConfirmCancel.Rpc.Host
