/-
**Each argument stands by itself.**

The arguments of Try are JSON texts inside a JSON text. Whatever stands in one of them, the others are read as they
would be without it: the list comes apart first, then each text by itself, and only then are the values put together.

* `textTokens`, `ofBytes_eq_ok_iff`: which bytes are a list of texts;
* `FirstMalformed`: the first text that stands for no value; `valuesFrom_eq_error_iff`: it is named;
* `decode_eq_ok_iff`, `decode_eq_error_iff`: what is read, and what is refused;
* `toValue?_ofValue`, `ordered_carried`: JSON values as arguments;
* `arguments_separate`: all of this together.
-/

import Mathlib.Order.MinMax
import TryConfirmCancel.Proofs.Service.Arguments

namespace TryConfirmCancel

open Json

/-! ### JSON values as data -/

namespace Json

/-- Members in order are members of before, with their values in order. -/
theorem mem_orderedMembers {members : List (String × Value)} {member : String × Value}
    (inside : member ∈ orderedMembers members []) : member ∈ orderedValues members := by
  rw [← show (Dict.empty : Dict Value).entries = [] from rfl, ← entries_insertAll] at inside
  exact (mem_insertAll inside).resolve_right List.not_mem_nil

mutual

/-- Bringing members into order changes no number and makes nothing nest deeper. -/
theorem ordered_carried : ∀ {value : Value}, value.IsIntegral →
    value.ordered.IsIntegral ∧ value.ordered.depth ≤ value.depth
  | .null, integral => ⟨integral, Nat.le_refl _⟩
  | .bool _, integral => ⟨integral, Nat.le_refl _⟩
  | .number _, integral => ⟨integral, Nat.le_refl _⟩
  | .string _, integral => ⟨integral, Nat.le_refl _⟩
  | .array items, integral => by
    have integrals : ItemsIntegral items := integral
    have each := orderedItems_carried integrals
    exact ⟨each.1, Nat.succ_le_succ each.2⟩
  | .object members, integral => by
    have integrals : MembersIntegral members := integral
    have each := orderedValues_carried integrals
    refine ⟨membersIntegral_iff.mpr fun member inside => ?_,
      Nat.succ_le_succ (membersDepth_le_iff.mpr fun member inside => ?_)⟩
    · exact membersIntegral_iff.mp each.1 member (mem_orderedMembers inside)
    · exact membersDepth_le_iff.mp each.2 member (mem_orderedMembers inside)

theorem orderedItems_carried : ∀ {items : List Value}, ItemsIntegral items →
    ItemsIntegral (orderedItems items) ∧ itemsDepth (orderedItems items) ≤ itemsDepth items
  | [], _ => ⟨trivial, Nat.le_refl _⟩
  | _ :: _, integral => by
    have first := ordered_carried integral.1
    have others := orderedItems_carried integral.2
    exact ⟨⟨first.1, others.1⟩, max_le_max first.2 others.2⟩

theorem orderedValues_carried : ∀ {members : List (String × Value)}, MembersIntegral members →
    MembersIntegral (orderedValues members) ∧ membersDepth (orderedValues members) ≤ membersDepth members
  | [], _ => ⟨trivial, Nat.le_refl _⟩
  | (_, _) :: _, integral => by
    have first := ordered_carried integral.1
    have others := orderedValues_carried integral.2
    exact ⟨⟨first.1, others.1⟩, max_le_max first.2 others.2⟩

end

mutual

/-- A JSON value as data has the same value in order. -/
theorem toValue?_ofValue : ∀ {value : Value}, value.IsIntegral →
    (Datum.ofValue value).toValue? = some value.ordered
  | .null, _ => rfl
  | .bool _, _ => rfl
  | .number (.integer _), _ => rfl
  | .string _, _ => rfl
  | .array items, integral => by
    rw [Datum.ofValue, Datum.toValue?, itemsToValues?_ofItems integral]
    rfl
  | .object members, integral => by
    have entries := entries_insertAll Dict.empty members
    rw [Datum.ofValue, Datum.toValue?, entriesToMembers?_ofMembers integral]
    simp only [Option.map_some, Value.ofDict, Value.ordered, Dict.ofList, entries]
    rfl

theorem itemsToValues?_ofItems : ∀ {items : List Value}, ItemsIntegral items →
    Datum.itemsToValues? (Datum.ofItems items) = some (orderedItems items)
  | [], _ => rfl
  | _ :: _, integral => by
    rw [Datum.ofItems, Datum.itemsToValues?, toValue?_ofValue integral.1, itemsToValues?_ofItems integral.2]
    rfl

theorem entriesToMembers?_ofMembers : ∀ {members : List (String × Value)}, MembersIntegral members →
    Datum.entriesToMembers? (Datum.ofMembers members) = some (orderedValues members)
  | [], _ => rfl
  | (_, _) :: _, integral => by
    rw [Datum.ofMembers, Datum.entriesToMembers?, toValue?_ofValue integral.1, entriesToMembers?_ofMembers integral.2]
    rfl

end

end Json

namespace Parameters

/-! ### Bytes and texts -/

/-- The tokens of a JSON array of texts. -/
def textTokens (texts : List String) : List Token :=
  .openArray :: ([Token.comma].intercalate (texts.map fun text => [.string (some text)]) ++ [.closeArray])

/-- The tree of an array of texts. -/
def textNode (texts : List String) : Node := .array (texts.map fun text => .string (some text))

theorem tokens_textNode (texts : List String) : (textNode texts).tokens = textTokens texts := by
  have items : spelledItems (texts.map fun text => .string (some text))
      = texts.map fun text => [Token.string (some text)] := by
    induction texts with
    | nil => rfl
    | cons text rest ih => rw [List.map_cons, spelledItems, ih, Node.tokens, List.map_cons]
  rw [textNode, Node.tokens, items, textTokens]

theorem string_eq_some_iff {nesting : Nat} {node : Node} {text : String} :
    Reader.string nesting node = some text ↔ node = .string (some text) := by
  cases node <;> simp [Reader.string]

theorem mapM_string_eq_some_iff {nesting : Nat} {items : List Node} {texts : List String} :
    items.mapM (Reader.string nesting) = some texts ↔ items = texts.map fun text => .string (some text) := by
  induction items generalizing texts with
  | nil => cases texts <;> simp
  | cons item rest ih =>
    simp only [List.mapM_cons, Option.bind_eq_bind, Option.bind_eq_some_iff, string_eq_some_iff, ih]
    cases texts <;> simp

/-- Texts are read from their own tree only. -/
theorem listString_eq_some_iff {nesting : Nat} {node : Node} {texts : List String} :
    Reader.list Reader.string (nesting + 1) node = some texts ↔ node = textNode texts := by
  cases node <;> simp [Reader.list, textNode, mapM_string_eq_some_iff]

theorem understands_texts_iff {bytes : Bytes} {texts : List String} :
    (Reader.list Reader.string).Understands bytes texts ↔ tokens? bytes = some (textTokens texts) := by
  rw [← tokens_textNode]
  constructor
  · rintro ⟨node, spelt, read⟩
    rwa [← listString_eq_some_iff.mp read]
  · exact fun spelt => ⟨_, spelt, listString_eq_some_iff.mpr rfl⟩

/-- **Bytes are read as texts just if there are none, or they are a JSON array of these texts.** -/
theorem ofBytes_eq_ok_iff {bytes : Bytes} {parameters : Parameters} : ofBytes bytes = .ok parameters ↔
    bytes = [] ∧ parameters = none ∨ tokens? bytes = some (textTokens parameters.texts) := by
  rw [← understands_texts_iff, ← Reader.ofBytes?_eq_some_iff, ofBytes]
  cases bytes with
  | nil =>
    have nothing : (Reader.list Reader.string).ofBytes? [] = .none := rfl
    simp [nothing, eq_comm]
  | cons byte rest =>
    obtain ⟨texts⟩ := parameters
    cases read : (Reader.list Reader.string).ofBytes? (byte :: rest) <;> simp [Format.strings, read]

/-- Bytes that are no list of texts are told to be undecodable. -/
theorem undecodable_of_ofBytes {bytes : Bytes} {fault : ParametersFault} (failed : ofBytes bytes = .error fault) :
    ∃ text, fault.failure = .undecodable text := by
  unfold ofBytes at failed
  split at failed
  · cases failed
  · split at failed
    · cases failed
      exact ⟨_, rfl⟩
    · cases failed

/-! ### Malformed texts -/

/-- A text is no JSON text that the parser accepts. -/
def Malformed (text : String) : Prop := ∀ value, ¬ Spells text value

theorem ofText?_eq_none_iff {text : String} : Reader.value.ofText? text = .none ↔ Malformed text :=
  Reader.ofBytes?_eq_none_iff

/-- The text at a position is malformed, and none before it. -/
structure FirstMalformed (texts : List String) (position : Nat) : Prop where
  malformed : ∃ text, texts[position]? = some text ∧ Malformed text
  before : ∀ earlier < position, ∀ text, texts[earlier]? = some text → ∃ value, Spells text value

section First

variable {text : String} {rest : List String} {position : Nat}

theorem firstMalformed_cons_of_malformed (malformed : Malformed text) :
    FirstMalformed (text :: rest) position ↔ position = 0 := by
  constructor
  · intro first
    by_contra behind
    obtain ⟨value, spells⟩ := first.before 0 (Nat.pos_of_ne_zero behind) text rfl
    exact malformed value spells
  · rintro rfl
    exact ⟨⟨text, rfl, malformed⟩, fun earlier below => absurd below (Nat.not_lt_zero earlier)⟩

theorem firstMalformed_cons_of_spells {value : Value} (spells : Spells text value) :
    FirstMalformed (text :: rest) position ↔ ∃ behind, position = behind + 1 ∧ FirstMalformed rest behind := by
  constructor
  · intro first
    cases position with
    | zero =>
      obtain ⟨found, same, malformed⟩ := first.malformed
      cases same
      exact absurd spells (malformed value)
    | succ behind =>
      exact ⟨behind, rfl, first.malformed, fun earlier below => first.before (earlier + 1) (Nat.succ_lt_succ below)⟩
  · rintro ⟨behind, rfl, first⟩
    refine ⟨first.malformed, fun earlier below found same => ?_⟩
    cases earlier with
    | zero =>
      cases same
      exact ⟨value, spells⟩
    | succ earlier => exact first.before earlier (Nat.lt_of_succ_lt_succ below) found same

/-- If a text is malformed, there is a first one that is. -/
theorem exists_firstMalformed {texts : List String} (listed : text ∈ texts) (malformed : Malformed text) :
    ∃ position, FirstMalformed texts position := by
  induction texts with
  | nil => cases listed
  | cons head others ih =>
    by_cases spelt : ∃ value, Spells head value
    · obtain ⟨value, spells⟩ := spelt
      obtain rfl | behind := List.mem_cons.mp listed
      · exact absurd spells (malformed value)
      · obtain ⟨position, first⟩ := ih behind
        exact ⟨position + 1, (firstMalformed_cons_of_spells spells).mpr ⟨position, rfl, first⟩⟩
    · exact ⟨0, (firstMalformed_cons_of_malformed (not_exists.mp spelt)).mpr rfl⟩

end First

/-- **Texts are refused just if one of them is malformed, and the first of these is named.** -/
theorem valuesFrom_eq_error_iff {position : Nat} {texts : List String} {fault : ParametersFault} :
    valuesFrom position texts = .error fault ↔
      ∃ index, FirstMalformed texts index ∧ fault = .entry (position + index) := by
  induction texts generalizing position with
  | nil =>
    simp only [valuesFrom, reduceCtorEq, false_iff]
    rintro ⟨index, ⟨⟨text, same, -⟩, -⟩, -⟩
    cases same
  | cons text rest ih =>
    rw [valuesFrom]
    cases read : Reader.value.ofText? text with
    | none =>
      simp [firstMalformed_cons_of_malformed (ofText?_eq_none_iff.mp read), eq_comm]
    | some value =>
      have later : ∀ result : Except ParametersFault (List Value),
          result.map (value :: ·) = .error fault ↔ result = .error fault := fun result => by
        cases result <;> simp [Except.map]
      simp only [later, ih, firstMalformed_cons_of_spells (ofText?_eq_some_iff.mp read)]
      constructor
      · rintro ⟨index, first, rfl⟩
        exact ⟨index + 1, ⟨index, rfl, first⟩, by rw [Nat.add_right_comm, Nat.add_assoc]⟩
      · rintro ⟨_, ⟨index, rfl, first⟩, rfl⟩
        exact ⟨index, first, by rw [Nat.add_right_comm, Nat.add_assoc]⟩

/-! ### Values and arguments -/

section Typed

variable {α : Type} {reader : Reader α} {parameters : Parameters}

/-- **Arguments are read just if each text stands for a value by itself, and the values have the type.** -/
theorem decode_eq_ok_iff {arguments : α} : parameters.decode reader = .ok arguments ↔
    ∃ values, List.Forall₂ Spells parameters.texts values ∧ reader.ofItems? values = some arguments := by
  simp only [← @valuesFrom_eq_ok_iff 0, decode]
  cases valuesFrom 0 parameters.texts with
  | error fault => simp [bind, Except.bind]
  | ok values => cases read : reader.ofItems? values <;> simp [bind, Except.bind, read]

/-- **What is wrong with arguments is the first malformed text, or else their type.** -/
theorem decode_eq_error_iff {fault : ParametersFault} : parameters.decode reader = .error fault ↔
    (∃ position, FirstMalformed parameters.texts position ∧ fault = .entry position) ∨
    (∃ values, List.Forall₂ Spells parameters.texts values ∧ reader.ofItems? values = .none ∧ fault = .types) := by
  have first : valuesFrom 0 parameters.texts = .error fault ↔
      ∃ position, FirstMalformed parameters.texts position ∧ fault = .entry position := by
    simp only [valuesFrom_eq_error_iff, Nat.zero_add]
  simp only [← first, ← @valuesFrom_eq_ok_iff 0, decode]
  cases valuesFrom 0 parameters.texts with
  | error found => simp [bind, Except.bind]
  | ok values => cases read : reader.ofItems? values <;> simp [bind, Except.bind, read, eq_comm]

variable (reader) in
/-- A malformed text is told, whatever type is asked for. -/
theorem decode_of_malformed {text : String} (listed : text ∈ parameters.texts) (malformed : Malformed text) :
    ∃ position, FirstMalformed parameters.texts position ∧ parameters.decode reader = .error (.entry position) := by
  obtain ⟨position, first⟩ := exists_firstMalformed listed malformed
  exact ⟨position, first, decode_eq_error_iff.mpr (.inl ⟨position, first, rfl⟩)⟩

/-- Two broken texts do not make one. -/
example : (Parameters.mk ["1", "[2", "3]"]).decode (.list .value) = .error (.entry 1) := by rfl

/-- Arguments that are not read are told to be undecodable. -/
theorem undecodable_of_decode {fault : ParametersFault} (failed : parameters.decode reader = .error fault) :
    ∃ text, fault.failure = .undecodable text := by
  rcases decode_eq_error_iff.mp failed with ⟨position, -, rfl⟩ | ⟨values, -, -, rfl⟩ <;> exact ⟨_, rfl⟩

end Typed

/-! ### JSON values as arguments -/

/-- Values are replayed by arguments: each value has its own text, and they are read as the same data; values that
have their members in order, as those of a program do, are read as themselves. -/
structure Replay (values : List Value) (parameters : Parameters) : Prop where
  texts : parameters.texts = values.map fun value => value.ordered.text
  read : parameters.decode (.list .value) = .ok (values.map Value.ordered)
  same : (∀ value ∈ values, value.ordered = value) → parameters.decode (.list .value) = .ok values

/-- **JSON values without fractions are replayed by the arguments that they are written as.** -/
theorem encode_replays {values : List Value} (integral : ∀ value ∈ values, value.IsIntegral)
    (within : ∀ value ∈ values, value.depth ≤ 127) :
    ∃ parameters, encode (.ofValue (.array values)) = .ok parameters ∧ Replay values parameters := by
  have integrals : ItemsIntegral values := itemsIntegral_iff.mpr integral
  have whole : (Value.array values).IsIntegral := integrals
  have written : (Datum.ofValue (.array values)).toValue? = some (.array (orderedItems values)) :=
    toValue?_ofValue whole
  have carried := orderedItems_carried integrals
  have depth : itemsDepth (orderedItems values) ≤ 127 := Nat.le_trans carried.2 (itemsDepth_le_iff.mpr within)
  obtain ⟨parameters, encoded, decoded⟩ := decode_encode written (itemsIntegral_iff.mp carried.1)
    (itemsDepth_le_iff.mp depth)
  have again : orderedItems (orderedItems values) = orderedItems values :=
    Value.array.inj (ordered_toValue? written)
  have read : parameters.decode (.list .value) = .ok (values.map Value.ordered) := by
    refine decoded _ _ ?_
    rw [← orderedItems_eq_map]
    exact (items_ofValue (orderedItems values) 127 depth).trans (congrArg some again)
  refine ⟨parameters, encoded, ?_, read, fun ordered => ?_⟩
  · rw [encode, written] at encoded
    cases encoded
    rw [orderedItems_eq_map, List.map_map]
    rfl
  · rw [read, List.map_congr_left ordered, List.map_id']

/-- **Arguments come apart into texts, texts into values, and only then is a type asked for.** The texts survive as
bytes, and bytes hold texts just if there are none or they are a JSON array of strings. Whatever type is asked for, the
arguments are read just if every text by itself stands for a value and the values have the type; if a text is
malformed, the first such position is told. JSON values without fractions come back from the arguments that they are
written as, one text each. -/
theorem arguments_separate :
    (∀ parameters, ofBytes (toBytes parameters) = .ok parameters) ∧
    (∀ bytes parameters, ofBytes bytes = .ok parameters ↔
      bytes = [] ∧ parameters = none ∨ tokens? bytes = some (textTokens parameters.texts)) ∧
    (∀ {α : Type} (reader : Reader α) (parameters : Parameters),
      (∀ arguments, parameters.decode reader = .ok arguments ↔
        ∃ values, List.Forall₂ Spells parameters.texts values ∧ reader.ofItems? values = some arguments) ∧
      ((∃ text ∈ parameters.texts, Malformed text) → ∃ position, FirstMalformed parameters.texts position ∧
        (parameters.decode reader).mapError ParametersFault.failure
          = .error (.undecodable s!"parameter {position}: not JSON"))) ∧
    ∀ values : List Value, (∀ value ∈ values, value.IsIntegral) → (∀ value ∈ values, value.depth ≤ 127) →
      ∃ parameters, encode (.ofValue (.array values)) = .ok parameters ∧ Replay values parameters := by
  refine ⟨ofBytes_toBytes, fun bytes parameters => ofBytes_eq_ok_iff,
    fun reader parameters => ⟨fun arguments => ?_, ?_⟩, fun values => encode_replays⟩
  · exact decode_eq_ok_iff
  · rintro ⟨text, listed, malformed⟩
    obtain ⟨position, first, failed⟩ := decode_of_malformed reader listed malformed
    exact ⟨position, first, by rw [failed]; rfl⟩

/-- A number of pieces, and an order whose name holds a quote and a comma. -/
def quotedOrder : List Value := [.int 3, .object [("name", .string "tea\", \"milk")]]

theorem quotedOrder_replayed :
    ∃ parameters, encode (.ofValue (.array quotedOrder)) = .ok parameters ∧ Replay quotedOrder parameters := by
  refine arguments_separate.2.2.2 quotedOrder ?_ ?_
  · simp [quotedOrder, Value.int, Value.IsIntegral, MembersIntegral, IsExact, minSigned64, maxWord64]
  · simp [quotedOrder, Value.int, Value.depth, membersDepth]

end Parameters

end TryConfirmCancel
