/-
**What was written is read back.**

* `Value.depth`: how deep the brackets of a value nest;
* `value_ofValue`: any value that does not nest too deep is read back with its members in order;
* `value_ofText?_text`: the same from its text;
* `Format.ofBytes?_bytes`: what a format reads from the bytes that it wrote is decided by the tree of
  what it wrote; `strings_ofBytes?`, `texts_ofBytes?`: texts in an array and in an object;
* `nodesAt`, `ofMembers_of_single`: a record is read from any members that give no field of it twice.
-/

import TryConfirmCancel.Json.Format
import TryConfirmCancel.Proofs.Json.Tree

namespace TryConfirmCancel.Json

mutual

/-- How deep the brackets of a value nest. -/
def Value.depth : Value → Nat
  | .array items => itemsDepth items + 1
  | .object members => membersDepth members + 1
  | _ => 0

def itemsDepth : List Value → Nat
  | [] => 0
  | item :: rest => max item.depth (itemsDepth rest)

/-- How deep the values of members nest. -/
def membersDepth : List (String × Value) → Nat
  | [] => 0
  | (_, value) :: rest => max value.depth (membersDepth rest)

end

/-- Items nest so deep as one of them does. -/
theorem itemsDepth_le_iff {items : List Value} {bound : Nat} :
    itemsDepth items ≤ bound ↔ ∀ item ∈ items, item.depth ≤ bound := by
  induction items with
  | nil => simp [itemsDepth]
  | cons item rest ih => rw [itemsDepth, Nat.max_le, ih, List.forall_mem_cons]

theorem membersDepth_le_iff {members : List (String × Value)} {bound : Nat} :
    membersDepth members ≤ bound ↔ ∀ member ∈ members, member.2.depth ≤ bound := by
  induction members with
  | nil => simp [membersDepth]
  | cons member rest ih => rw [membersDepth, Nat.max_le, ih, List.forall_mem_cons]

/-! ### Members in order -/

/-- Members whose values have their members in order. -/
def orderedValues (members : List (String × Value)) : List (String × Value) :=
  members.map fun member => (member.1, member.2.ordered)

theorem entries_insertAll (dict : Dict Value) (members : List (String × Value)) :
    (dict.insertAll (orderedValues members)).entries = orderedMembers members dict.entries := by
  induction members generalizing dict with
  | nil => rfl
  | cons member rest ih => exact ih (dict.insert member.1 member.2.ordered)

/-- Members that increase, with their values in order, are in order. -/
theorem orderedMembers_of_increasing {members : List (String × Value)} (increasing : Increasing members)
    (each : ∀ member ∈ members, member.2.ordered = member.2) : orderedMembers members [] = members := by
  have same : orderedValues members = members :=
    List.map_congr_left (fun member inside => by rw [each member inside]) |>.trans (List.map_id' members)
  have entries := entries_insertAll Dict.empty members
  rw [same] at entries
  exact entries.symm.trans (congrArg Dict.entries (Dict.ofList_entries ⟨members, increasing⟩))

/-- A dictionary is written with its keys in order. -/
theorem ordered_ofDict {dict : Dict Value} (each : ∀ entry ∈ dict.entries, entry.2.ordered = entry.2) :
    (Value.ofDict dict).ordered = .ofDict dict := by
  rw [Value.ofDict, Value.ordered, orderedMembers_of_increasing dict.increasing each]

theorem orderedItems_eq_map (items : List Value) : orderedItems items = items.map Value.ordered := by
  induction items with
  | nil => rfl
  | cons item rest ih => rw [orderedItems, ih, List.map_cons]

/-- Items are in order if each of them is. -/
theorem orderedItems_eq_iff {items : List Value} :
    orderedItems items = items ↔ ∀ item ∈ items, item.ordered = item := by
  have each := List.map_inj_left (l := items) (f := Value.ordered) (g := id)
  rwa [List.map_id, ← orderedItems_eq_map] at each

/-! ### Reading any data -/

/-- The first of some members and the others. -/
theorem members_cons {α : Type} (read : Node → Option α) (key : String) (node : Node)
    (rest : List (Option String × Node)) : Reader.members read ((some key, node) :: rest)
      = (read node).bind fun value => (Reader.members read rest).map ((key, value) :: ·) := by
  rw [Reader.members, List.mapM_cons, ← Reader.members]
  cases found : read node with
  | none => simp [found]
  | some value => cases Reader.members read rest <;> simp [found]

mutual

/-- **Any value that does not nest too deep is read back with its members in order.** -/
theorem value_ofValue : ∀ (value : Value) (nesting : Nat), value.depth ≤ nesting →
    Reader.value nesting (.ofValue value) = some value.ordered
  | .null, nesting, _ => by cases nesting <;> rfl
  | .bool _, nesting, _ => by cases nesting <;> rfl
  | .number _, nesting, _ => by cases nesting <;> rfl
  | .string _, nesting, _ => by cases nesting <;> rfl
  | .array items, nesting + 1, within => by
    rw [Node.ofValue, Reader.value, items_ofValue items nesting (Nat.le_of_succ_le_succ within)]
    rfl
  | .object members, nesting + 1, within => by
    rw [Node.ofValue, Reader.value, members_ofValue members nesting (Nat.le_of_succ_le_succ within)]
    have entries := entries_insertAll Dict.empty members
    simp only [Option.map_some, Value.ofDict, Value.ordered, Dict.ofList, entries]
    rfl

theorem items_ofValue : ∀ (items : List Value) (nesting : Nat), itemsDepth items ≤ nesting →
    (nodesOfItems items).mapM (Reader.value nesting) = some (orderedItems items)
  | [], _, _ => rfl
  | item :: rest, nesting, within => by
    have bounds := Nat.max_le.mp within
    rw [nodesOfItems, List.mapM_cons, value_ofValue item nesting bounds.1,
      items_ofValue rest nesting bounds.2]
    rfl

theorem members_ofValue : ∀ (members : List (String × Value)) (nesting : Nat),
    membersDepth members ≤ nesting →
    Reader.members (Reader.value nesting) (nodesOfMembers members) = some (orderedValues members)
  | [], _, _ => rfl
  | (key, value) :: rest, nesting, within => by
    have bounds := Nat.max_le.mp within
    rw [nodesOfMembers, members_cons, members_ofValue rest nesting bounds.2,
      value_ofValue value nesting bounds.1]
    rfl

end

/-- A value that was written is read back with its members in order. -/
theorem value_ofText?_text {value : Value} (integral : value.IsIntegral)
    (within : value.depth ≤ Reader.deepest) : Reader.value.ofText? value.text = some value.ordered := by
  rw [Reader.ofText?, Reader.ofBytes?, ofBytes?_text integral, Option.bind_some,
    value_ofValue value _ within]

/-! ### Reading records -/

section Records

theorem Reader.string_ofValue (text : String) (nesting : Nat) :
    Reader.string nesting (.ofValue (.string text)) = some text := rfl

theorem Reader.bool_ofValue (value : Bool) (nesting : Nat) :
    Reader.bool nesting (.ofValue (.bool value)) = some value := rfl

theorem Reader.natural_ofValue {value bound : Nat} (within : value ≤ bound) (nesting : Nat) :
    Reader.natural bound nesting (.ofValue (.nat value)) = some value := by
  have range : (0 : Int) ≤ value ∧ (value : Int) ≤ bound := ⟨Int.natCast_nonneg value, Int.ofNat_le.mpr within⟩
  unfold Reader.natural
  rw [Value.nat, Node.ofValue, Reader.integer, if_pos range, Option.map_some, Int.toNat_natCast]

/-- Texts in an array are read one by one. -/
theorem Reader.list_string_ofValue (texts : List String) (nesting : Nat) :
    Reader.list .string (nesting + 1) (.ofValue (.strings texts)) = some texts := by
  show (nodesOfItems (texts.map .string)).mapM (Reader.string nesting) = some texts
  induction texts with
  | nil => rfl
  | cons text rest ih =>
    rw [List.map_cons, nodesOfItems, List.mapM_cons, ih]
    rfl

/-- A dictionary is read back, in whatever order its members stand. -/
theorem Reader.dict_ofValue {value : Value} {dict : Dict Value} {nesting : Nat}
    (same : value.ordered = .ofDict dict) (within : value.depth ≤ nesting + 1) :
    Reader.dict .value (nesting + 1) (.ofValue value) = some dict := by
  cases value with
  | object members =>
    have entries := entries_insertAll Dict.empty members
    have read := members_ofValue members nesting (Nat.le_of_succ_le_succ within)
    rw [Node.ofValue, Reader.dict, read, Option.map_some, Dict.ofList]
    refine congrArg some (Dict.ext_entries ?_)
    rw [entries]
    exact Value.object.inj same
  | _ => cases same

variable {members : List (String × Value)} {names : List String}

/-- The members of a record that was written are its fields. -/
theorem ofMembers_written (known : ∀ key ∈ members.map Prod.fst, key ∈ names)
    (distinct : (members.map Prod.fst).Nodup) : Fields.ofMembers names (nodesOfMembers members)
      = some (members.map fun member => (member.1, .ofValue member.2)) := by
  induction members with
  | nil => rfl
  | cons member rest ih =>
    rw [List.map_cons, List.nodup_cons] at distinct
    rw [List.map_cons, List.forall_mem_cons] at known
    have fields := ih known.2 distinct.2
    have absent : lookupEntry member.1 (rest.map fun member => (member.1, Node.ofValue member.2)) = none := by
      refine lookupEntry_eq_none ?_
      rw [List.map_map]
      exact distinct.1
    rw [nodesOfMembers, Fields.ofMembers, fields]
    simp only [bind, Option.bind, if_pos known.1, absent]
    rfl

/-- A record that was written with all its fields is read as what is built from them. -/
theorem record_written {α : Type} {nesting : Nat} {build : Fields → Option α} {value : α}
    (keys : members.map Prod.fst = names) (distinct : names.Nodup)
    (built : build ⟨nesting, false, members.map fun member => (member.1, .ofValue member.2)⟩ = some value) :
    Reader.record names build (nesting + 1) (.ofValue (.object members)) = some value := by
  subst keys
  rw [Node.ofValue, Reader.record, ofMembers_written (fun _ member => member) distinct]
  exact built

/-- The values of the members with a key. -/
def nodesAt (name : String) (members : List (Option String × Node)) : List Node :=
  members.filterMap fun member => if member.1 = some name then some member.2 else none

theorem nodesAt_cons (name key : String) (node : Node) (rest : List (Option String × Node)) :
    nodesAt name ((some key, node) :: rest)
      = if key = name then node :: nodesAt name rest else nodesAt name rest := by
  rw [nodesAt, List.filterMap_cons]
  by_cases same : key = name
  · simp only [same, if_true]
    rfl
  · simp only [Option.some.injEq, same, if_false]
    rfl

theorem nodesOfMembers_eq_map (members : List (String × Value)) :
    nodesOfMembers members = members.map fun member => (some member.1, .ofValue member.2) := by
  induction members with
  | nil => rfl
  | cons member rest ih => rw [nodesOfMembers, ih, List.map_cons]

theorem nodesAt_append (name : String) (members more : List (String × Value)) :
    nodesAt name (nodesOfMembers (members ++ more))
      = nodesAt name (nodesOfMembers members) ++ nodesAt name (nodesOfMembers more) := by
  simp only [nodesOfMembers_eq_map, nodesAt, List.map_append, List.filterMap_append]

theorem nodesAt_eq_nil {name : String} (other : ∀ member ∈ members, member.1 ≠ name) :
    nodesAt name (nodesOfMembers members) = [] := by
  rw [nodesAt, List.filterMap_eq_nil_iff, nodesOfMembers_eq_map]
  intro node inside
  obtain ⟨member, written, rfl⟩ := List.mem_map.mp inside
  rw [if_neg fun same => other member written (Option.some.inj same)]

/-- The order of members decides nothing but the order of repeated ones. -/
theorem nodesAt_perm (name : String) {more : List (String × Value)} (mixed : members.Perm more) :
    (nodesAt name (nodesOfMembers members)).Perm (nodesAt name (nodesOfMembers more)) := by
  simp only [nodesOfMembers_eq_map]
  exact (mixed.map _).filterMap _

/-- The fields of an object of which no known key is repeated. -/
theorem ofMembers_of_single {found : List (Option String × Node)} (keys : ∀ member ∈ found, member.1 ≠ none)
    (single : ∀ name ∈ names, (nodesAt name found).length ≤ 1) :
    ∃ entries, Fields.ofMembers names found = some entries ∧
      ∀ name ∈ names, lookupEntry name entries = (nodesAt name found).head? := by
  induction found with
  | nil => exact ⟨[], rfl, fun _ _ => rfl⟩
  | cons member rest ih =>
    obtain ⟨key, node⟩ := member
    rw [List.forall_mem_cons] at keys
    cases key with
    | none => exact absurd rfl keys.1
    | some key =>
      simp only [nodesAt_cons] at single
      obtain ⟨entries, fields, looked⟩ := ih keys.2 fun name known => by
        have bound := single name known
        split at bound
        · exact Nat.le_of_succ_le bound
        · exact bound
      rw [Fields.ofMembers, fields]
      by_cases known : key ∈ names
      · have alone : nodesAt key rest = [] := by
          have bound := single key known
          rw [if_pos rfl, List.length_cons] at bound
          exact List.length_eq_zero_iff.mp (by omega)
        have absent : lookupEntry key entries = none := by rw [looked key known, alone, List.head?_nil]
        refine ⟨(key, node) :: entries, by simp [known, absent], fun name listed => ?_⟩
        rw [nodesAt_cons, lookupEntry]
        split
        · rfl
        · exact looked name listed
      · refine ⟨entries, by simp [known], fun name listed => ?_⟩
        rw [nodesAt_cons, if_neg (by rintro rfl; exact known listed)]
        exact looked name listed

end Records

/-! ### Reading as a type -/

section Typed

variable {α : Type}

/-- What a format reads from the bytes that it wrote. -/
theorem Format.ofBytes?_bytes (format : Format α) {value : α} (integral : (format.write value).IsIntegral) :
    format.reader.ofBytes? (format.bytes value)
      = format.reader Reader.deepest (.ofValue (format.write value)) := by
  rw [Format.bytes, Format.text, Reader.ofBytes?, ofBytes?_text integral, Option.bind_some]

theorem strings_integral (texts : List String) : (Value.strings texts).IsIntegral := by
  rw [Value.strings, Value.IsIntegral, itemsIntegral_iff]
  intro item member
  obtain ⟨text, -, rfl⟩ := List.mem_map.mp member
  trivial

/-- Texts in an array are read back. -/
theorem strings_ofBytes? (texts : List String) :
    Format.strings.reader.ofBytes? (Format.strings.bytes texts) = some texts := by
  rw [Format.strings.ofBytes?_bytes (strings_integral texts)]
  exact Reader.list_string_ofValue texts 126

theorem texts_integral (dict : Dict String) : (Value.ofTexts dict).IsIntegral := by
  rw [Value.ofTexts, Value.IsIntegral, membersIntegral_iff]
  intro member inside
  obtain ⟨entry, -, rfl⟩ := List.mem_map.mp inside
  trivial

/-- Texts in an object are read back. -/
theorem texts_ofBytes? (dict : Dict String) :
    (Reader.dict Reader.string).ofBytes? (Utf8.ofText (Value.ofTexts dict).text) = some dict := by
  have members : ∀ entries : List (String × String), Reader.members (Reader.string 126)
      (nodesOfMembers (entries.map fun entry => (entry.1, .string entry.2))) = some entries := by
    intro entries
    induction entries with
    | nil => rfl
    | cons entry rest ih =>
      rw [List.map_cons, nodesOfMembers, members_cons, ih]
      rfl
  rw [Reader.ofBytes?, ofBytes?_text (texts_integral dict), Option.bind_some]
  show (Reader.members (Reader.string 126) (nodesOfMembers _)).map Dict.ofList = some dict
  rw [members, Option.map_some, Dict.ofList_entries]

end Typed

end TryConfirmCancel.Json
