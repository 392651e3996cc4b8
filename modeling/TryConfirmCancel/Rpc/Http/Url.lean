/-
**URLs that can be posted to.**

* `Url.parse?`: the host and the path of a URL for HTTP. The parts are found as browsers find them:
  blanks around the URL and line breaks in it do not count, a backslash is a slash, and the segments
  `.` and `..` of the path are resolved; characters that a path cannot hold are written as bytes in
  hexadecimal behind a percent sign.
-/

import TryConfirmCancel.Bytes.Utf8
import TryConfirmCancel.Rpc.Http.Host
import TryConfirmCancel.Text.Ascii

namespace TryConfirmCancel.Rpc

/-- Where a request is posted to. -/
structure Url where
  isSecure : Bool
  /-- The host in lower case, with the number of its service if this is not the standard one. -/
  authority : String
  /-- The path with the query. -/
  path : String
  deriving DecidableEq, Repr, Inhabited

namespace Url

/-- A control or a blank, which does not count around a URL. -/
def isPadding (char : Char) : Bool := char ≤ ' '

/-- A line break or tab, which does not count anywhere. -/
def isBreak (char : Char) : Bool := char == '\n' || char == '\r' || char == '\t'

def relevant (text : String) : List Char :=
  (((text.toList.dropWhile isPadding).reverse.dropWhile isPadding).reverse).filter fun char => !isBreak char

/-- A slash, or a backslash, which counts as one. -/
def isSlash (char : Char) : Bool := char == '/' || char == '\\'

/-- A character that ends the authority. -/
def endsAuthority (char : Char) : Bool := isSlash char || char == '?' || char == '#'

/-- The part behind the last mark that separates a user from the host. -/
def withoutUser (authority : List Char) : List Char :=
  (authority.reverse.takeWhile fun char => char != '@').reverse

/-- A digit below sixteen in upper case. -/
def hexDigit (digit : Nat) : Char := if digit < 10 then .ofNat (digit + 48) else .ofNat (digit + 55)

/-- The bytes of a character in hexadecimal behind percent signs. -/
def percent (char : Char) : List Char :=
  (Utf8.ofText (.singleton char)).flatMap fun byte =>
    ['%', hexDigit (byte.toNat / 16), hexDigit (byte.toNat % 16)]

/-- Characters with those among `special`, and all that are not visible ASCII, in hexadecimal. -/
def escaped (special : List Char) (chars : List Char) : List Char :=
  chars.flatMap fun char =>
    if char ≤ ' ' || '~' < char || special.contains char then percent char else [char]

def segments : List Char → List (List Char)
  | [] => [[]]
  | char :: rest =>
    if isSlash char then [] :: segments rest
    else match segments rest with
      | [] => [[char]]
      | segment :: more => (char :: segment) :: more

/-- A segment with its escaped dots as dots. -/
def dots : List Char → List Char
  | '%' :: '2' :: 'e' :: rest => '.' :: dots rest
  | '%' :: '2' :: 'E' :: rest => '.' :: dots rest
  | char :: rest => char :: dots rest
  | [] => []

/-- Segments with `.` and `..` resolved, behind those found so far in reverse. -/
def resolved : List (List Char) → List (List Char) → List (List Char)
  | found, [] => found.reverse
  | found, segment :: rest =>
    if dots segment = ['.'] then resolved (if rest.isEmpty then [] :: found else found) rest
    else if dots segment = ['.', '.'] then
      resolved (if rest.isEmpty then [] :: found.drop 1 else found.drop 1) rest
    else resolved (segment :: found) rest

/-- A path that begins with a slash, or nothing. -/
def normalPath (path : List Char) : List Char :=
  let found := resolved [] (segments (path.drop 1))
  found.flatMap fun segment => '/' :: escaped ['"', '#', '<', '>', '?', '\x60', '\x7b', '\x7d'] segment

/-- A query with its mark, or nothing. -/
def normalQuery (query : List Char) : List Char := escaped ['"', '#', '<', '>', '\''] query

def behindScheme? (isSecure : Bool) (rest : List Char) : Option Url := do
  let rest := rest.dropWhile isSlash
  let authority ← Host.authority? (if isSecure then 443 else 80)
    (withoutUser (rest.takeWhile fun char => !endsAuthority char))
  let rest := (rest.dropWhile fun char => !endsAuthority char).takeWhile fun char => char != '#'
  let path := rest.takeWhile fun char => char != '?'
  let query := rest.dropWhile fun char => char != '?'
  some ⟨isSecure, authority, .ofList (normalPath path ++ normalQuery query)⟩

def parse? (text : String) : Option Url :=
  let chars := relevant text
  let scheme := Text.lowered (.ofList (chars.takeWhile fun char => char != ':'))
  let rest := chars.dropWhile fun char => char != ':'
  if rest.isEmpty || (scheme != "http" && scheme != "https") then none
  else behindScheme? (scheme == "https") (rest.drop 1)

example : parse? "http://A:80/b/../c d?e" = some ⟨false, "a", "/c%20d?e"⟩ := by decide +kernel

example : parse? "https://u@[::1]:080" = some ⟨true, "[::1]:80", "/"⟩ := by decide +kernel

example : parse? "http://" = none := by decide +kernel

end Url

end TryConfirmCancel.Rpc
