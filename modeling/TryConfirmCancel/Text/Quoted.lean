/-
**Texts in double quotes, as messages show them.**

A quote, a backslash, NUL and the three common controls have a two-character form; any other
character that would not be seen is written as its code point in lower-case hexadecimal; an
apostrophe is kept.
-/

import TryConfirmCancel.Text.Unshown

namespace TryConfirmCancel.Text

/-- The lower-case hexadecimal digits of a number. -/
def hexDigits (number : Nat) : List Char := Nat.toDigits 16 number

/-- How one character stands between double quotes. -/
def quotedChar (char : Char) : List Char :=
  match char with
  | '"' => ['\\', '"']
  | '\\' => ['\\', '\\']
  | '\n' => ['\\', 'n']
  | '\r' => ['\\', 'r']
  | '\t' => ['\\', 't']
  | '\x00' => ['\\', '0']
  | _ =>
    if Unshown.contains char then ['\\', 'u', '\x7b'] ++ hexDigits char.toNat ++ ['\x7d']
    else [char]

def quoted (text : String) : String :=
  .ofList ('"' :: text.toList.flatMap quotedChar ++ ['"'])

end TryConfirmCancel.Text
