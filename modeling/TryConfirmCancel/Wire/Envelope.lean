/-
**A JSON header and raw bytes in one body.**

The length of the header stands first, as a signed number of 32 bits with the highest byte in front;
then the header, then the tail, which nobody interprets on the way.

* `Envelope.encode`: puts a body together;
* `Envelope.decode`: takes it apart and reads the header.
-/

import TryConfirmCancel.Failure
import TryConfirmCancel.Json.Datum
import TryConfirmCancel.Json.Format

namespace TryConfirmCancel

/-- Why a body cannot be put together or taken apart. -/
inductive EnvelopeFault
  /-- The header has no form in JSON. -/
  | unwritable
  /-- The header is too long for its length. -/
  | headerTooLong
  /-- The body ends within the length. -/
  | tooShort (size : Nat)
  /-- The length is below zero. -/
  | negativeLength (length : Int)
  /-- The body ends within the header. -/
  | truncated (length size : Nat)
  /-- The header is not the JSON that is expected. -/
  | header
  deriving DecidableEq, Repr

/-- A fault as the failure of a call. -/
def EnvelopeFault.failure : EnvelopeFault → Failure
  | .unwritable => .codec "JSON error: key must be a string"
  | .headerTooLong => .codec "envelope header does not fit into an i32 length"
  | .tooShort size => .undecodable s!"envelope too short: {size} bytes"
  | .negativeLength length => .undecodable s!"negative envelope header length: {length}"
  | .truncated length size =>
    .undecodable s!"envelope header length {length} exceeds body of {size} bytes"
  | .header => .undecodable "envelope header: not the expected JSON"

namespace Envelope

def lengthSize : Nat := 4

/-- The lowest `count` bytes of a number, the highest first. -/
def bigEndian : Nat → Nat → Bytes
  | 0, _ => []
  | count + 1, number => bigEndian count (number / 256) ++ [.ofNat number]

/-- The number that bytes make, the highest first. -/
def number (bytes : Bytes) : Nat := bytes.foldl (fun sum byte => sum * 256 + byte.toNat) 0

/-- The signed number that four bytes make. -/
def signed (bytes : Bytes) : Int :=
  if number bytes ≤ maxSigned32 then number bytes else (number bytes : Int) - (maxWord32 + 1)

def longestHeader : Nat := maxSigned32

/-- A header in JSON with its length in front, and a tail. -/
def encode (header : Json.Value) (tail : Bytes) : Except EnvelopeFault Bytes :=
  let text := Utf8.ofText header.text
  if text.length ≤ longestHeader then .ok (bigEndian lengthSize text.length ++ text ++ tail)
  else .error .headerTooLong

/-- The same for data that may have no form in JSON. -/
def encodeData (header : Json.Datum) (tail : Bytes) : Except EnvelopeFault Bytes :=
  match header.toValue? with
  | none => .error .unwritable
  | some value => encode value tail

/-- The bytes of the header and the tail. -/
def split (body : Bytes) : Except EnvelopeFault (Bytes × Bytes) :=
  if body.length < lengthSize then .error (.tooShort body.length)
  else
    let rest := body.drop lengthSize
    match signed (body.take lengthSize) with
    | .negSucc less => .error (.negativeLength (.negSucc less))
    | .ofNat length =>
      if rest.length < length then .error (.truncated length body.length)
      else .ok (rest.take length, rest.drop length)

/-- The header as a type, and the tail. -/
def decode {α : Type} (reader : Json.Reader α) (body : Bytes) : Except EnvelopeFault (α × Bytes) := do
  let (header, tail) ← split body
  match reader.ofBytes? header with
  | none => .error .header
  | some value => .ok (value, tail)

end Envelope

end TryConfirmCancel
