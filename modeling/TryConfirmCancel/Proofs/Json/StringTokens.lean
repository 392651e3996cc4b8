/-
**Strings that were written are read back as one token.**

* `stringChar_cases`: a character inside a string stands for itself, or is escaped by a letter, or by
  its number;
* `leadingString_written`: the content of a written string ends at its own closing quote;
* `unescape_written`: that content stands for the bytes of the text;
* `leadingToken_string`: both together.
-/

import TryConfirmCancel.Json.Token
import TryConfirmCancel.Proofs.Bytes.Characters

namespace TryConfirmCancel.Json

open Utf8 (ofChars ofChars_cons ofChars_append encode_ascii le_of_mem_encode)

/-! ### How a character stands inside a string -/

theorem hexDigit?_hexChar : ∀ digit < 16, hexDigit? (.ofNat (hexChar digit).toNat) = some digit := by
  decide

theorem hexChar_ascii : ∀ digit < 16, (hexChar digit).toNat < 0x80 := by decide

/-- The forms of a character inside a string. -/
inductive StringForm (char : Char) : Prop
  | plain (written : stringChar char = [char]) (visible : 0x20 ≤ char.toNat) (noQuote : char ≠ '"')
      (noBackslash : char ≠ '\\')
  /-- A letter stands for it. -/
  | letter (letter byte : UInt8) (written : ofChars (stringChar char) = [0x5c, letter])
      (other : letter ≠ 0x75) (meaning : shortEscape? letter = some byte)
      (encoded : String.utf8EncodeChar char = [byte])
  /-- Four digits stand for it. -/
  | digits (first second third fourth : UInt8)
      (written : ofChars (stringChar char) = [0x5c, 0x75, first, second, third, fourth])
      (meaning : codeUnit? first second third fourth = some char.toNat) (control : char.toNat < 0x20)

theorem stringChar_cases (char : Char) : StringForm char := by
  by_cases quote : char = '"'
  · subst quote
    exact .letter 0x22 0x22 rfl (by decide) rfl rfl
  by_cases backslash : char = '\\'
  · subst backslash
    exact .letter 0x5c 0x5c rfl (by decide) rfl rfl
  by_cases visible : 0x20 ≤ char.toNat
  · exact .plain (by simp [stringChar, quote, backslash, visible]) visible quote backslash
  by_cases backspace : char = '\x08'
  · subst backspace
    exact .letter 0x62 0x08 rfl (by decide) rfl rfl
  by_cases formFeed : char = '\x0c'
  · subst formFeed
    exact .letter 0x66 0x0c rfl (by decide) rfl rfl
  by_cases lineFeed : char = '\n'
  · subst lineFeed
    exact .letter 0x6e 0x0a rfl (by decide) rfl rfl
  by_cases return_ : char = '\r'
  · subst return_
    exact .letter 0x72 0x0d rfl (by decide) rfl rfl
  by_cases tab : char = '\t'
  · subst tab
    exact .letter 0x74 0x09 rfl (by decide) rfl rfl
  have control : char.toNat < 0x20 := Nat.lt_of_not_le visible
  have high : char.toNat / 16 < 16 := by omega
  have low : char.toNat % 16 < 16 := by omega
  refine .digits 0x30 0x30 (.ofNat (hexChar (char.toNat / 16)).toNat)
    (.ofNat (hexChar (char.toNat % 16)).toNat) ?_ ?_ control
  · simp only [stringChar, quote, backslash, visible, backspace, formFeed, lineFeed, return_, tab,
      if_false, ofChars_cons, encode_ascii (hexChar_ascii _ high), encode_ascii (hexChar_ascii _ low)]
    rfl
  · have zero : hexDigit? 0x30 = some 0 := rfl
    simp only [codeUnit?, zero, hexDigit?_hexChar _ high, hexDigit?_hexChar _ low, Option.bind_eq_bind,
      Option.bind_some, Option.some.injEq]
    omega

/-! ### The content of a string -/

/-- A byte that is neither a control, nor a quote, nor a backslash. -/
def IsPlainByte (byte : UInt8) : Prop := 0x20 ≤ byte ∧ byte ≠ 0x22 ∧ byte ≠ 0x5c

theorem isPlainByte_of_mem_encode {char : Char} (visible : 0x20 ≤ char.toNat) (noQuote : char ≠ '"')
    (noBackslash : char ≠ '\\') : ∀ byte ∈ String.utf8EncodeChar char, IsPlainByte byte := by
  intro byte member
  by_cases ascii : char.toNat < 0x80
  · rw [encode_ascii ascii, List.mem_singleton] at member
    have number : byte.toNat = char.toNat := by
      rw [member, UInt8.toNat_ofNat']
      omega
    refine ⟨?_, fun same => noQuote ?_, fun same => noBackslash ?_⟩
    · rw [UInt8.le_iff_toNat_le, number]
      exact visible
    · exact Char.toNat_inj.mp (by rw [← number, same]; rfl)
    · exact Char.toNat_inj.mp (by rw [← number, same]; rfl)
  · have above : 0x80 ≤ byte.toNat := le_of_mem_encode (Nat.le_of_not_lt ascii) member
    refine ⟨?_, fun same => ?_, fun same => ?_⟩
    · rw [UInt8.le_iff_toNat_le]
      exact Nat.le_trans (by decide) above
    · rw [same] at above
      exact absurd above (by decide)
    · rw [same] at above
      exact absurd above (by decide)

theorem leadingString_plain {bytes : Bytes} (plain : ∀ byte ∈ bytes, IsPlainByte byte)
    (taken rest : Bytes) :
    leadingString taken (bytes ++ rest) = leadingString (bytes.reverse ++ taken) rest := by
  induction bytes generalizing taken with
  | nil => rfl
  | cons byte bytes ih =>
    obtain ⟨visible, noQuote, noBackslash⟩ := plain byte (by simp)
    have kept : ¬ (byte < 0x20 ∨ byte = 0x5c) := by
      rintro (below | same)
      · exact absurd below (UInt8.not_lt.mpr visible)
      · exact noBackslash same
    rw [List.cons_append, leadingString.eq_5 _ _ _ noQuote (by intros; exact noBackslash ‹_›)
      (by intros; exact noBackslash ‹_›), if_neg kept, ih fun byte member => plain byte (by simp [member])]
    simp

theorem unescape_plain {bytes : Bytes} (plain : ∀ byte ∈ bytes, IsPlainByte byte) (done rest : Bytes) :
    unescape done (bytes ++ rest) = unescape (bytes.reverse ++ done) rest := by
  induction bytes generalizing done with
  | nil => rfl
  | cons byte bytes ih =>
    obtain ⟨_, _, noBackslash⟩ := plain byte (by simp)
    rw [List.cons_append, unescape.eq_4 _ _ _ (by intros; exact noBackslash ‹_›)
      (by intros; exact noBackslash ‹_›), ih fun byte member => plain byte (by simp [member])]
    simp

/-- One written character is taken whole. -/
theorem leadingString_stringChar (char : Char) (taken rest : Bytes) :
    leadingString taken (ofChars (stringChar char) ++ rest)
      = leadingString ((ofChars (stringChar char)).reverse ++ taken) rest := by
  cases stringChar_cases char with
  | plain written visible noQuote noBackslash =>
    rw [written]
    refine leadingString_plain (fun byte member => ?_) taken rest
    exact isPlainByte_of_mem_encode visible noQuote noBackslash byte (by simpa [ofChars] using member)
  | letter letter byte written other meaning encoded =>
    rw [written, List.cons_append, List.cons_append, List.nil_append,
      leadingString.eq_4 _ _ _ (by intros; exact other ‹_›), meaning]
    rfl
  | digits first second third fourth written meaning control =>
    rw [written]
    show leadingString taken (0x5c :: 0x75 :: first :: second :: third :: fourth :: rest) = _
    rw [leadingString, meaning]
    rfl

/-- One written character stands for itself. -/
theorem unescape_stringChar (char : Char) (done rest : Bytes) :
    unescape done (ofChars (stringChar char) ++ rest)
      = unescape ((String.utf8EncodeChar char).reverse ++ done) rest := by
  cases stringChar_cases char with
  | plain written visible noQuote noBackslash =>
    have bytes : ofChars [char] = String.utf8EncodeChar char := by simp [ofChars]
    rw [written, bytes]
    exact unescape_plain (isPlainByte_of_mem_encode visible noQuote noBackslash) done rest
  | letter letter byte written other meaning encoded =>
    rw [written, encoded, List.cons_append, List.cons_append, List.nil_append,
      unescape.eq_3 _ _ _ (by intros; exact other ‹_›), meaning]
    rfl
  | digits first second third fourth written meaning control =>
    rw [written]
    show unescape done (0x5c :: 0x75 :: first :: second :: third :: fourth :: rest) = _
    have noLow : ¬ (0xdc00 ≤ char.toNat ∧ char.toNat ≤ 0xdfff) := by omega
    have noHigh : ¬ (0xd800 ≤ char.toNat ∧ char.toNat ≤ 0xdbff) := by omega
    rw [unescape, meaning]
    simp only [noLow, noHigh, if_false, Char.ofNat_toNat]

theorem leadingString_written (chars : List Char) (taken rest : Bytes) :
    leadingString taken (ofChars (chars.flatMap stringChar) ++ 0x22 :: rest)
      = some (taken.reverse ++ ofChars (chars.flatMap stringChar), rest) := by
  induction chars generalizing taken with
  | nil => simp [leadingString]
  | cons char chars ih =>
    rw [List.flatMap_cons, ofChars_append, List.append_assoc, leadingString_stringChar, ih]
    simp

theorem unescape_written (chars : List Char) (done : Bytes) :
    unescape done (ofChars (chars.flatMap stringChar)) = some (done.reverse ++ ofChars chars) := by
  induction chars generalizing done with
  | nil => simp [unescape]
  | cons char chars ih =>
    rw [List.flatMap_cons, ofChars_append, unescape_stringChar, ih, ofChars_cons]
    simp

/-- The content of a written string is its text. -/
theorem contentText?_written (text : String) :
    contentText? (ofChars (text.toList.flatMap stringChar)) = some text := by
  rw [contentText?, unescape_written]
  simpa [Utf8.ofText_eq_ofChars] using Utf8.text?_ofText text

/-- **A written string is one token with its text.** -/
theorem leadingToken_string (text : String) (rest : Bytes) :
    leadingToken (ofChars (stringChars text) ++ rest) = some (.string (some text), rest) := by
  have bytes : ofChars (stringChars text) ++ rest
      = 0x22 :: (ofChars (text.toList.flatMap stringChar) ++ 0x22 :: rest) := by
    simp [stringChars, ofChars_cons, @encode_ascii '"' (by decide)]
  rw [bytes, leadingToken, leadingString_written]
  simp [contentText?_written]

end TryConfirmCancel.Json
