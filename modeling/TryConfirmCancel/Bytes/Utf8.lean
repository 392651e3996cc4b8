/-
**UTF-8.**

* `ofText`, `text?`: the bytes of a text, and the text of bytes that are well formed;
* `text?_ofText`: bytes of a text read back to it;
* `lossyText`: the text of any bytes, where each longest start of an ill-formed sequence shows as
  one U+FFFD.
-/

namespace TryConfirmCancel

abbrev Bytes := List UInt8

namespace Utf8

def ofText (text : String) : Bytes := text.toByteArray.data.toList

def text? (bytes : Bytes) : Option String := String.fromUTF8? ⟨bytes.toArray⟩

/-- Bytes of a text read back to it. -/
theorem text?_ofText (text : String) : text? (ofText text) = some text := by
  have valid : text.toByteArray.IsValidUTF8 := text.isValidUTF8
  simp [text?, ofText, String.fromUTF8?, valid, String.fromUTF8]

/-- Only the bytes of a text read as it. -/
theorem eq_ofText_of_text? {bytes : Bytes} {text : String} (read : text? bytes = some text) :
    bytes = ofText text := by
  unfold text? String.fromUTF8? at read
  split at read
  · cases read
    simp [ofText, String.fromUTF8]
  · cases read

def replacement : Char := '\ufffd'

/-- How many bytes follow a first byte, and the range of the one next to it. -/
def following (first : UInt8) : Option (Nat × UInt8 × UInt8) :=
  if first < 0x80 then some (0, 0, 0)
  else if first < 0xc2 then none
  else if first < 0xe0 then some (1, 0x80, 0xbf)
  else if first == 0xe0 then some (2, 0xa0, 0xbf)
  else if first == 0xed then some (2, 0x80, 0x9f)
  else if first < 0xf0 then some (2, 0x80, 0xbf)
  else if first == 0xf0 then some (3, 0x90, 0xbf)
  else if first < 0xf4 then some (3, 0x80, 0xbf)
  else if first == 0xf4 then some (3, 0x80, 0x8f)
  else none

/-- Takes up to `count` continuation bytes, of which the next lies between `low` and `high`. -/
def continuation : Nat → UInt8 → UInt8 → Bytes → Bytes × Bytes
  | 0, _, _, rest => ([], rest)
  | _ + 1, _, _, [] => ([], [])
  | count + 1, low, high, byte :: rest =>
    if low ≤ byte && byte ≤ high then
      let (taken, left) := continuation count 0x80 0xbf rest
      (byte :: taken, left)
    else ([], byte :: rest)

/-- The code point of a first byte and its continuation. -/
def assemble (first : UInt8) (taken : Bytes) : Char :=
  let lead := match taken.length with
    | 0 => first.toNat
    | 1 => first.toNat % 0x20
    | 2 => first.toNat % 0x10
    | _ => first.toNat % 0x08
  .ofNat (taken.foldl (fun code byte => code * 0x40 + byte.toNat % 0x40) lead)

/-- Reads `fuel` characters at most; one is read from at least one byte. -/
def lossyChars : Nat → Bytes → List Char
  | 0, _ => []
  | _ + 1, [] => []
  | fuel + 1, first :: rest =>
    match following first with
    | none => replacement :: lossyChars fuel rest
    | some (count, low, high) =>
      let (taken, left) := continuation count low high rest
      (if taken.length = count then assemble first taken else replacement) :: lossyChars fuel left

def lossyText (bytes : Bytes) : String := .ofList (lossyChars bytes.length bytes)

end Utf8

end TryConfirmCancel
