/-
**A written value is read as its own tree.**

* `Value.IsIntegral`: every number in a value is an integer of 64 bits, so no digit is lost;
* `Value.tokens`: the tokens of the compact form;
* `Lexed`: bytes begin with tokens and go on with a rest; `lexed_value`: the compact form does so with
  the tokens of its value;
* `tokens_ofValue`: these tokens are those of the tree of the value;
* `ofBytes?_text`: reading the text of a value gives its tree.
-/

import TryConfirmCancel.Proofs.Json.Grammar
import TryConfirmCancel.Proofs.Json.NumberTokens
import TryConfirmCancel.Proofs.Json.StringTokens

namespace TryConfirmCancel.Json

open Utf8 (ofChars ofChars_cons ofChars_append ofText_ofList encode_ascii)

mutual

/-- Every number in a value is an integer of 64 bits. -/
def Value.IsIntegral : Value → Prop
  | .number (.integer value) => IsExact value
  | .number (.float _) => False
  | .array items => ItemsIntegral items
  | .object members => MembersIntegral members
  | _ => True

def ItemsIntegral : List Value → Prop
  | [] => True
  | item :: rest => item.IsIntegral ∧ ItemsIntegral rest

/-- The same for the values of all members. -/
def MembersIntegral : List (String × Value) → Prop
  | [] => True
  | (_, value) :: rest => value.IsIntegral ∧ MembersIntegral rest

end

theorem itemsIntegral_iff {items : List Value} : ItemsIntegral items ↔ ∀ item ∈ items, item.IsIntegral := by
  induction items with
  | nil => simp [ItemsIntegral]
  | cons item rest ih => simp [ItemsIntegral, ih]

theorem membersIntegral_iff {members : List (String × Value)} :
    MembersIntegral members ↔ ∀ member ∈ members, member.2.IsIntegral := by
  induction members with
  | nil => simp [MembersIntegral]
  | cons member rest ih => simp [MembersIntegral, ih]

/-! ### The tokens of a value -/

mutual

/-- The tokens of a value in the compact form. -/
def Value.tokens : Value → List Token
  | .null => [.null]
  | .bool value => [.bool value]
  | .number value => [.number (some value)]
  | .string value => [.string (some value)]
  | .array items => .openArray :: (itemsTokens items ++ [.closeArray])
  | .object members => .openObject :: (membersTokens members ++ [.closeObject])

/-- Items with a comma between two. -/
def itemsTokens : List Value → List Token
  | [] => []
  | item :: rest => item.tokens ++ moreItemsTokens rest

/-- Further items, each behind a comma. -/
def moreItemsTokens : List Value → List Token
  | [] => []
  | item :: rest => .comma :: (item.tokens ++ moreItemsTokens rest)

/-- Members with a comma between two. -/
def membersTokens : List (String × Value) → List Token
  | [] => []
  | (key, value) :: rest => .string (some key) :: .colon :: (value.tokens ++ moreMembersTokens rest)

/-- Further members, each behind a comma. -/
def moreMembersTokens : List (String × Value) → List Token
  | [] => []
  | (key, value) :: rest =>
    .comma :: .string (some key) :: .colon :: (value.tokens ++ moreMembersTokens rest)

end

/-- Bytes begin with tokens and go on with a rest. -/
structure Lexed (bytes : Bytes) (tokens : List Token) (rest : Bytes) : Prop where
  /-- Whatever has been read before, the tokens are read next. -/
  run : ∀ fuel done, tokensFrom (tokens.length + fuel) done bytes = tokensFrom fuel (tokens.reverse ++ done) rest
  /-- Every token takes at least one byte. -/
  shorter : tokens.length + rest.length ≤ bytes.length

namespace Lexed

theorem nil (rest : Bytes) : Lexed rest [] rest := ⟨fun fuel done => by simp, by simp⟩

theorem append {bytes middle rest : Bytes} {first second : List Token} (left : Lexed bytes first middle)
    (right : Lexed middle second rest) : Lexed bytes (first ++ second) rest := by
  refine ⟨fun fuel done => ?_, ?_⟩
  · rw [List.length_append, Nat.add_assoc, left.run, right.run, List.reverse_append, List.append_assoc]
  · have := left.shorter
    have := right.shorter
    rw [List.length_append]
    omega

theorem one {byte : UInt8} {bytes rest : Bytes} {token : Token} (visible : isSpace byte = false)
    (read : leadingToken (byte :: bytes) = some (token, rest)) (shorter : rest.length ≤ bytes.length) :
    Lexed (byte :: bytes) [token] rest := by
  refine ⟨fun fuel done => ?_, ?_⟩
  · rw [List.length_singleton, Nat.add_comm, tokensFrom]
    simp [visible, read]
  · simp only [List.length_cons, List.length_nil]
    omega

theorem cons {byte : UInt8} {bytes middle rest : Bytes} {token : Token} {tokens : List Token}
    (visible : isSpace byte = false) (read : leadingToken (byte :: bytes) = some (token, middle))
    (shorter : middle.length ≤ bytes.length) (more : Lexed middle tokens rest) :
    Lexed (byte :: bytes) (token :: tokens) rest :=
  append (one visible read shorter) more

/-- All of the bytes are tokens. -/
theorem tokens? {bytes : Bytes} {tokens : List Token} (lexed : Lexed bytes tokens []) :
    Json.tokens? bytes = some tokens := by
  have length := lexed.shorter
  have fuel : bytes.length = tokens.length + (bytes.length - tokens.length) := by
    simp only [List.length_nil] at length
    omega
  rw [Json.tokens?, fuel, lexed.run]
  cases bytes.length - tokens.length <;> simp [tokensFrom]

end Lexed

/-! ### The compact form as tokens -/

theorem lexed_string (text : String) (rest : Bytes) :
    Lexed (ofChars (stringChars text) ++ rest) [.string (some text)] rest := by
  have read := leadingToken_string text rest
  have bytes : ofChars (stringChars text) ++ rest
      = 0x22 :: (ofChars (text.toList.flatMap stringChar) ++ 0x22 :: rest) := by
    simp [stringChars, ofChars_cons, @encode_ascii '"' (by decide)]
  rw [bytes] at read ⊢
  exact .one rfl read (by simp only [List.length_append, List.length_cons]; omega)

theorem isSpace_of_start {byte : UInt8} (start : isDigit byte = true ∨ byte = 0x2d) : isSpace byte = false := by
  rcases start with digit | rfl
  · simp only [isDigit, Bool.and_eq_true, decide_eq_true_eq, UInt8.le_iff_toNat_le, UInt8.reduceToNat] at digit
    simp only [isSpace, Bool.or_eq_false_iff, beq_eq_false_iff_ne, ne_eq, ← UInt8.toNat_inj, UInt8.reduceToNat]
    omega
  · rfl

theorem lexed_integer {value : Int} (exact : IsExact value) {rest : Bytes} (ends : EndsNumber rest) :
    Lexed (ofChars (Number.integer value).chars ++ rest) [.number (some (.integer value))] rest := by
  obtain ⟨byte, bytes, written, start⟩ := integer_chars value
  have read := leadingToken_integer exact ends
  rw [written, List.cons_append] at read ⊢
  exact .one (isSpace_of_start start) read (by simp)

theorem endsNumber_nil : EndsNumber [] := by
  intro byte member
  cases member

theorem endsNumber_cons {byte : UInt8} (rest : Bytes)
    (ends : isDigit byte = false ∧ byte ≠ 0x2e ∧ byte ≠ 0x65 ∧ byte ≠ 0x45) : EndsNumber (byte :: rest) := by
  intro other member
  cases Option.some.inj member
  exact ends

theorem endsNumber_moreItems (items : List Value) {rest : Bytes} (ends : EndsNumber rest) :
    EndsNumber (ofChars (moreItemsChars items) ++ rest) := by
  cases items with
  | nil => exact ends
  | cons item items => exact endsNumber_cons _ (by decide)

theorem endsNumber_moreMembers (members : List (String × Value)) {rest : Bytes} (ends : EndsNumber rest) :
    EndsNumber (ofChars (moreMembersChars members) ++ rest) := by
  cases members with
  | nil => exact ends
  | cons member members => exact endsNumber_cons _ (by decide)

/-- A colon in front of a value. -/
theorem Lexed.colon {bytes rest : Bytes} {tokens : List Token} (lexed : Lexed bytes tokens rest) :
    Lexed (0x3a :: bytes) (.colon :: tokens) rest :=
  .cons rfl rfl (Nat.le_refl _) lexed

mutual

/-- The compact form of a value is made of its tokens. -/
theorem lexed_value : ∀ (value : Value), value.IsIntegral → ∀ {rest : Bytes}, EndsNumber rest →
    Lexed (ofChars value.chars ++ rest) value.tokens rest
  | .null, _, rest, _ => .one rfl rfl (Nat.le_add_right rest.length 3)
  | .bool true, _, rest, _ => .one rfl rfl (Nat.le_add_right rest.length 3)
  | .bool false, _, rest, _ => .one rfl rfl (Nat.le_add_right rest.length 4)
  | .number (.integer _), exact, _, ends => lexed_integer exact ends
  | .number (.float _), exact, _, _ => exact.elim
  | .string text, _, rest, _ => lexed_string text rest
  | .array items, integral, rest, _ => by
    have bytes : ofChars (Value.array items).chars ++ rest
        = 0x5b :: (ofChars (itemsChars items) ++ 0x5d :: rest) := by
      simp [Value.chars, ofChars_cons, encode_ascii]
    have close : Lexed (0x5d :: rest) [.closeArray] rest := .one rfl rfl (Nat.le_refl _)
    rw [bytes, Value.tokens]
    exact .cons rfl rfl (Nat.le_refl _)
      ((lexed_items items integral (endsNumber_cons rest (by decide))).append close)
  | .object members, integral, rest, _ => by
    have bytes : ofChars (Value.object members).chars ++ rest
        = 0x7b :: (ofChars (membersChars members) ++ 0x7d :: rest) := by
      simp [Value.chars, ofChars_cons, encode_ascii]
    have close : Lexed (0x7d :: rest) [.closeObject] rest := .one rfl rfl (Nat.le_refl _)
    rw [bytes, Value.tokens]
    exact .cons rfl rfl (Nat.le_refl _)
      ((lexed_members members integral (endsNumber_cons rest (by decide))).append close)

theorem lexed_items : ∀ (items : List Value), ItemsIntegral items → ∀ {rest : Bytes}, EndsNumber rest →
    Lexed (ofChars (itemsChars items) ++ rest) (itemsTokens items) rest
  | [], _, rest, _ => .nil rest
  | item :: items, integral, rest, ends => by
    rw [itemsChars, itemsTokens, ofChars_append, List.append_assoc]
    exact (lexed_value item integral.1 (endsNumber_moreItems items ends)).append
      (lexed_moreItems items integral.2 ends)

theorem lexed_moreItems : ∀ (items : List Value), ItemsIntegral items → ∀ {rest : Bytes}, EndsNumber rest →
    Lexed (ofChars (moreItemsChars items) ++ rest) (moreItemsTokens items) rest
  | [], _, rest, _ => .nil rest
  | item :: items, integral, rest, ends => by
    have bytes : ofChars (moreItemsChars (item :: items)) ++ rest
        = 0x2c :: (ofChars item.chars ++ (ofChars (moreItemsChars items) ++ rest)) := by
      simp [moreItemsChars, ofChars_cons, encode_ascii]
    rw [bytes, moreItemsTokens]
    exact .cons rfl rfl (Nat.le_refl _)
      ((lexed_value item integral.1 (endsNumber_moreItems items ends)).append
        (lexed_moreItems items integral.2 ends))

theorem lexed_members : ∀ (members : List (String × Value)), MembersIntegral members → ∀ {rest : Bytes},
    EndsNumber rest → Lexed (ofChars (membersChars members) ++ rest) (membersTokens members) rest
  | [], _, rest, _ => .nil rest
  | (key, value) :: members, integral, rest, ends => by
    have bytes : ofChars (membersChars ((key, value) :: members)) ++ rest
        = ofChars (stringChars key)
          ++ 0x3a :: (ofChars value.chars ++ (ofChars (moreMembersChars members) ++ rest)) := by
      simp [membersChars, ofChars_cons, encode_ascii]
    rw [bytes, membersTokens]
    exact (lexed_string key _).append
      ((lexed_value value integral.1 (endsNumber_moreMembers members ends)).append
        (lexed_moreMembers members integral.2 ends)).colon

theorem lexed_moreMembers : ∀ (members : List (String × Value)), MembersIntegral members →
    ∀ {rest : Bytes}, EndsNumber rest →
    Lexed (ofChars (moreMembersChars members) ++ rest) (moreMembersTokens members) rest
  | [], _, rest, _ => .nil rest
  | (key, value) :: members, integral, rest, ends => by
    have bytes : ofChars (moreMembersChars ((key, value) :: members)) ++ rest
        = 0x2c :: (ofChars (stringChars key)
          ++ 0x3a :: (ofChars value.chars ++ (ofChars (moreMembersChars members) ++ rest))) := by
      simp [moreMembersChars, ofChars_cons, encode_ascii]
    rw [bytes, moreMembersTokens]
    refine .cons rfl rfl (Nat.le_refl _) ((lexed_string key _).append ?_)
    exact ((lexed_value value integral.1 (endsNumber_moreMembers members ends)).append
      (lexed_moreMembers members integral.2 ends)).colon

end

/-- The tokens of the text of a value. -/
theorem tokens?_text {value : Value} (integral : value.IsIntegral) :
    tokens? (Utf8.ofText value.text) = some value.tokens := by
  have lexed := lexed_value value integral endsNumber_nil
  rw [List.append_nil] at lexed
  rw [Value.text, ofText_ofList]
  exact lexed.tokens?

/-! ### The tokens of a value are those of its tree -/

mutual

/-- A value is written with the tokens of its tree. -/
theorem tokens_ofValue : ∀ value : Value, (Node.ofValue value).tokens = value.tokens
  | .null => rfl
  | .bool _ => rfl
  | .number _ => rfl
  | .string _ => rfl
  | .array [] => rfl
  | .array (item :: items) => by
    rw [Node.ofValue, nodesOfItems, Node.tokens, spelledItems, intercalate_cons, tokens_ofValue item,
      spelledItems_ofItems items]
    rfl
  | .object [] => rfl
  | .object ((key, value) :: members) => by
    rw [Node.ofValue, nodesOfMembers, Node.tokens, spelledMembers, intercalate_cons, tokens_ofValue value,
      spelledMembers_ofMembers members]
    rfl

theorem spelledItems_ofItems : ∀ items : List Value,
    (spelledItems (nodesOfItems items)).flatMap ([Token.comma] ++ ·) = moreItemsTokens items
  | [] => rfl
  | item :: items => by
    rw [nodesOfItems, spelledItems, List.flatMap_cons, tokens_ofValue item, spelledItems_ofItems items]
    rfl

theorem spelledMembers_ofMembers : ∀ members : List (String × Value),
    (spelledMembers (nodesOfMembers members)).flatMap ([Token.comma] ++ ·) = moreMembersTokens members
  | [] => rfl
  | (key, value) :: members => by
    rw [nodesOfMembers, spelledMembers, List.flatMap_cons, tokens_ofValue value, spelledMembers_ofMembers members]
    rfl

end

/-- **Reading the text of a value gives its tree.** -/
theorem ofBytes?_text {value : Value} (integral : value.IsIntegral) :
    Node.ofBytes? (Utf8.ofText value.text) = some (.ofValue value) := by
  rw [Node.ofBytes?_eq_some_iff, tokens?_text integral, tokens_ofValue]

end TryConfirmCancel.Json
