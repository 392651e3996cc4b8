/-
**Bytes in hexadecimal.**

* `Hex.encode`: two lower-case digits for each byte;
* `Hex.decode?`: the bytes of pairs of digits in either case.
-/

import TryConfirmCancel.Bytes.Utf8
import TryConfirmCancel.Text.CodePoint

namespace TryConfirmCancel.Hex

/-- The digit of a number below sixteen. -/
def digitChar (digit : Nat) : Char := if digit < 10 then .ofNat (digit + 48) else .ofNat (digit + 87)

def encode (bytes : Bytes) : String :=
  .ofList (bytes.flatMap fun byte => [digitChar (byte.toNat / 16), digitChar (byte.toNat % 16)])

/-- The bytes of pairs of digits. -/
def decodeChars? : List Char → Option Bytes
  | [] => some []
  | high :: low :: rest => do
    let upper ← Text.hexDigit? high
    let lower ← Text.hexDigit? low
    let bytes ← decodeChars? rest
    some (.ofNat (upper * 16 + lower) :: bytes)
  | _ => none

def decode? (text : String) : Option Bytes := decodeChars? text.toList

end TryConfirmCancel.Hex
