/-
**The arguments of Try are read back as they were.**

* `ordered_toValue?`: the JSON value of data has its members in order, so reading changes nothing in it;
* `Spells`: a text is one complete JSON text by itself, and stands for a value;
* `valuesFrom_eq_ok_iff`: texts are read each by itself; `valuesFrom_texts`: so each is read back as its own value;
* `decode_encode`: reading written arguments as a type is reading their values as that type;
* `ofBytes_toBytes`: the texts survive as bytes.
-/

import Mathlib.Data.List.Forall2
import TryConfirmCancel.Proofs.Json.Reading
import TryConfirmCancel.Service.Parameters

namespace TryConfirmCancel

open Json

/-! ### Data has its members in order -/

namespace Json

theorem mem_insertAll {members : List (String × Value)} {dict : Dict Value} {entry : String × Value}
    (member : entry ∈ (dict.insertAll members).entries) : entry ∈ members ∨ entry ∈ dict.entries := by
  induction members generalizing dict with
  | nil => exact .inr member
  | cons first rest ih =>
    have behind : entry ∈ ((dict.insert first.1 first.2).insertAll rest).entries := member
    rcases ih behind with inside | inside
    · exact .inl (List.mem_cons_of_mem _ inside)
    · rcases mem_insertEntry inside with rfl | inside
      · exact .inl (by simp)
      · exact .inr inside

mutual

/-- The JSON value of data has its members in order. -/
theorem ordered_toValue? : ∀ {datum : Datum} {value : Value}, datum.toValue? = some value →
    value.ordered = value
  | .nothing, _, found => by cases found; rfl
  | .bool _, _, found => by cases found; rfl
  | .integer _, _, found => by cases found; rfl
  | .float number, _, found => by
    cases found
    rw [Value.ofFloat]
    split <;> rfl
  | .text _, _, found => by cases found; rfl
  | .list items, _, found => by
    obtain ⟨values, read, rfl⟩ := Option.map_eq_some_iff.mp found
    rw [Value.ordered, orderedItems_eq_iff.mpr (ordered_itemsToValues? read)]
  | .map entries, _, found => by
    obtain ⟨members, read, rfl⟩ := Option.map_eq_some_iff.mp found
    refine ordered_ofDict fun entry inside => ?_
    rcases mem_insertAll inside with member | none
    · exact ordered_entriesToMembers? read entry member
    · cases none

theorem ordered_itemsToValues? : ∀ {items : List Datum} {values : List Value},
    Datum.itemsToValues? items = some values → ∀ value ∈ values, value.ordered = value
  | [], _, found => by
    cases found
    simp
  | item :: rest, _, found => by
    simp only [Datum.itemsToValues?, Option.bind_eq_bind, Option.bind_eq_some_iff] at found
    obtain ⟨first, readFirst, others, readOthers, same⟩ := found
    cases same
    intro value member
    rcases List.mem_cons.mp member with rfl | member
    · exact ordered_toValue? readFirst
    · exact ordered_itemsToValues? readOthers value member

theorem ordered_entriesToMembers? : ∀ {entries : List (Datum × Datum)} {members : List (String × Value)},
    Datum.entriesToMembers? entries = some members → ∀ member ∈ members, member.2.ordered = member.2
  | [], _, found => by
    cases found
    simp
  | (key, item) :: rest, _, found => by
    simp only [Datum.entriesToMembers?, Option.bind_eq_bind, Option.bind_eq_some_iff] at found
    obtain ⟨name, -, first, readFirst, others, readOthers, same⟩ := found
    cases same
    intro member inside
    rcases List.mem_cons.mp inside with rfl | inside
    · exact ordered_toValue? readFirst
    · exact ordered_entriesToMembers? readOthers member inside

end

end Json

/-! ### Texts of arguments -/

namespace Parameters

/-- A text is one complete JSON text by itself, and stands for a value. -/
def Spells (text : String) (value : Value) : Prop := Reader.value.Understands (Utf8.ofText text) value

theorem ofText?_eq_some_iff {text : String} {value : Value} :
    Reader.value.ofText? text = some value ↔ Spells text value := Reader.ofBytes?_eq_some_iff

/-- **Texts are read as values just if each text stands for its value by itself.** -/
theorem valuesFrom_eq_ok_iff {position : Nat} {texts : List String} {values : List Value} :
    valuesFrom position texts = .ok values ↔ List.Forall₂ Spells texts values := by
  induction texts generalizing position values with
  | nil => cases values <;> simp [valuesFrom]
  | cons text rest ih =>
    rw [valuesFrom, List.forall₂_cons_left_iff]
    simp only [← ofText?_eq_some_iff, ← @ih (position + 1)]
    cases Reader.value.ofText? text with
    | none => simp
    | some value => cases valuesFrom (position + 1) rest <;> simp [Except.map, eq_comm]

/-- Each text of an argument list is read back as its own value. -/
theorem valuesFrom_texts {items : List Value} (integral : ∀ item ∈ items, item.IsIntegral)
    (within : ∀ item ∈ items, item.depth ≤ Reader.deepest) (ordered : ∀ item ∈ items, item.ordered = item)
    (position : Nat) : valuesFrom position (items.map Value.text) = .ok items := by
  rw [valuesFrom_eq_ok_iff, List.forall₂_map_left_iff, List.forall₂_same]
  intro item member
  have read := value_ofText?_text (integral item member) (within item member)
  rwa [ordered item member, ofText?_eq_some_iff] at read

/-- Reading written arguments as a type is reading their values as that type. -/
theorem decode_encode {arguments : Datum} {items : List Value}
    (written : arguments.toValue? = some (.array items)) (integral : ∀ item ∈ items, item.IsIntegral)
    (within : ∀ item ∈ items, item.depth ≤ Reader.deepest) :
    ∃ parameters, encode arguments = .ok parameters ∧ ∀ {α : Type} (reader : Reader α) (read : α),
      reader.ofItems? items = some read → parameters.decode reader = .ok read := by
  have ordered := ordered_toValue? written
  rw [Value.ordered, Value.array.injEq] at ordered
  have each := orderedItems_eq_iff.mp ordered
  refine ⟨⟨items.map Value.text⟩, by rw [encode, written], fun {α} reader read found => ?_⟩
  rw [decode, valuesFrom_texts integral within each]
  simp [bind, Except.bind, found]

/-- The texts of arguments survive as bytes. -/
theorem ofBytes_toBytes (parameters : Parameters) : ofBytes parameters.toBytes = .ok parameters := by
  have read := strings_ofBytes? parameters.texts
  have some_ : parameters.toBytes.isEmpty = false := by
    cases bytes : parameters.toBytes with
    | nil =>
      rw [toBytes] at bytes
      rw [bytes] at read
      cases read
    | cons => rfl
  rw [ofBytes, some_]
  simp [toBytes, read]

end Parameters

end TryConfirmCancel
