/-
**Base64 with the standard alphabet and padding.**

* `encode`: four characters for three bytes, the last group padded;
* `decode?`: reads exactly what `encode` writes, so padding is required, the unused bits of the
  last digit are zero, and no other character is allowed;
* `decode?_encode`: reading what was written gives the bytes back.
-/

import TryConfirmCancel.Bytes.Utf8

namespace TryConfirmCancel.Base64

/-- The character of a digit below 64. -/
def digitChar (digit : Nat) : Char :=
  if digit < 26 then .ofNat (digit + 65)
  else if digit < 52 then .ofNat (digit + 71)
  else if digit < 62 then .ofNat (digit - 4)
  else if digit = 62 then '+'
  else '/'

/-- The digit that a character stands for. -/
def digit? (char : Char) : Option Nat :=
  if 'A' ≤ char ∧ char ≤ 'Z' then some (char.toNat - 65)
  else if 'a' ≤ char ∧ char ≤ 'z' then some (char.toNat - 71)
  else if '0' ≤ char ∧ char ≤ '9' then some (char.toNat + 4)
  else if char = '+' then some 62
  else if char = '/' then some 63
  else none

/-- The digits of bytes, three at a time. -/
def encodeChars : Bytes → List Char
  | [] => []
  | [first] => [digitChar (first.toNat / 4), digitChar (first.toNat % 4 * 16), '=', '=']
  | [first, second] =>
    [digitChar (first.toNat / 4), digitChar (first.toNat % 4 * 16 + second.toNat / 16),
      digitChar (second.toNat % 16 * 4), '=']
  | first :: second :: third :: rest =>
    digitChar (first.toNat / 4) :: digitChar (first.toNat % 4 * 16 + second.toNat / 16)
      :: digitChar (second.toNat % 16 * 4 + third.toNat / 64) :: digitChar (third.toNat % 64)
      :: encodeChars rest

def encode (bytes : Bytes) : String := .ofList (encodeChars bytes)

/-- The bytes of groups of four characters, the last of which may be padded. -/
def decodeChars : List Char → Option Bytes
  | [] => some []
  | [first, second, '=', '='] => do
    let high ← digit? first
    let low ← digit? second
    if low % 16 = 0 then some [.ofNat (high * 4 + low / 16)] else none
  | [first, second, third, '='] => do
    let high ← digit? first
    let middle ← digit? second
    let low ← digit? third
    if low % 4 = 0 then
      some [.ofNat (high * 4 + middle / 16), .ofNat (middle % 16 * 16 + low / 4)]
    else none
  | first :: second :: third :: fourth :: rest => do
    let high ← digit? first
    let middle ← digit? second
    let low ← digit? third
    let lowest ← digit? fourth
    let bytes ← decodeChars rest
    some (.ofNat (high * 4 + middle / 16) :: .ofNat (middle % 16 * 16 + low / 4)
      :: .ofNat (low % 4 * 64 + lowest) :: bytes)
  | _ => none

/-- The bytes that a text was written for. -/
def decode? (text : String) : Option Bytes := decodeChars text.toList

theorem digit?_digitChar : ∀ digit < 64, digit? (digitChar digit) = some digit := by decide

theorem digitChar_ne_padding : ∀ digit < 64, digitChar digit ≠ '=' := by decide

/-- Reading what was written gives the bytes back. -/
theorem decode?_encode (bytes : Bytes) : decode? (encode bytes) = some bytes := by
  have whole : ∀ byte : UInt8, UInt8.ofNat byte.toNat = byte := fun byte => by simp
  have chars : ∀ bytes, decodeChars (encodeChars bytes) = some bytes := by
    intro bytes
    fun_induction encodeChars bytes with
    | case1 => rfl
    | case2 first =>
      have bound := first.toNat_lt
      simp only [decodeChars, digit?_digitChar _ (show first.toNat / 4 < 64 by omega),
        digit?_digitChar _ (show first.toNat % 4 * 16 < 64 by omega), bind, Option.bind]
      rw [if_pos (by omega), show first.toNat / 4 * 4 + first.toNat % 4 * 16 / 16 = first.toNat by omega,
        whole]
    | case3 first second =>
      have bound := first.toNat_lt
      have bound' := second.toNat_lt
      have unpadded := digitChar_ne_padding (second.toNat % 16 * 4) (by omega)
      rw [decodeChars.eq_3 _ _ _ (by simpa using unpadded)]
      simp only [digit?_digitChar _ (show first.toNat / 4 < 64 by omega),
        digit?_digitChar _ (show first.toNat % 4 * 16 + second.toNat / 16 < 64 by omega),
        digit?_digitChar _ (show second.toNat % 16 * 4 < 64 by omega), bind, Option.bind]
      rw [if_pos (by omega),
        show first.toNat / 4 * 4 + (first.toNat % 4 * 16 + second.toNat / 16) / 16 = first.toNat by omega,
        show (first.toNat % 4 * 16 + second.toNat / 16) % 16 * 16 + second.toNat % 16 * 4 / 4
          = second.toNat by omega, whole, whole]
    | case4 first second third rest ih =>
      have bound := first.toNat_lt
      have bound' := second.toNat_lt
      have bound'' := third.toNat_lt
      have unpadded := digitChar_ne_padding (third.toNat % 64) (by omega)
      rw [decodeChars.eq_4 _ _ _ _ _ (by intro _ same; exact absurd same unpadded)
        (by intro same; exact absurd same unpadded)]
      simp only [digit?_digitChar _ (show first.toNat / 4 < 64 by omega),
        digit?_digitChar _ (show first.toNat % 4 * 16 + second.toNat / 16 < 64 by omega),
        digit?_digitChar _ (show second.toNat % 16 * 4 + third.toNat / 64 < 64 by omega),
        digit?_digitChar _ (show third.toNat % 64 < 64 by omega), ih, bind, Option.bind]
      rw [show first.toNat / 4 * 4 + (first.toNat % 4 * 16 + second.toNat / 16) / 16 = first.toNat by omega,
        show (first.toNat % 4 * 16 + second.toNat / 16) % 16 * 16
          + (second.toNat % 16 * 4 + third.toNat / 64) / 4 = second.toNat by omega,
        show (second.toNat % 16 * 4 + third.toNat / 64) % 4 * 64 + third.toNat % 64 = third.toNat by omega,
        whole, whole, whole]
  simp [decode?, encode, chars]

end TryConfirmCancel.Base64
