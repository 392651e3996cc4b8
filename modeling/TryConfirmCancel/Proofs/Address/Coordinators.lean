/-
**The address of a coordinator, read and written.**

* `MadeOf`: which field of an address stands at which place;
* `parse_of_count`, `parse_of_blank`, `parse_of_full`: a text is refused for the number of its fields, or for its first
  blank field, and is read otherwise;
* `fieldsOf_encode`: a written address has the fields that it was written with;
* `read_exactly`: what is read, as what, and that it is read the same way when it is written again.
-/

import TryConfirmCancel.Address.Coordinator
import TryConfirmCancel.Proofs.Text.Trimming

namespace TryConfirmCancel

namespace Coordinator

/-! ### Fields in their places -/

/-- The fields that make an address, each at its place. -/
inductive MadeOf : Coordinator → CommMode → List String → Prop
  | urls (base begin join finish : String) :
      MadeOf (.urls base { begin, join, finish }) .http [base, begin, join, finish]
  | topics (org workspace env unit nodeId instanceId begin join finish : String) :
      MadeOf (.topics { org, workspace, env, unit, nodeId, instanceId } { begin, join, finish }) .mesh
        [org, workspace, env, unit, nodeId, instanceId, begin, join, finish]

theorem ofFields?_eq_some_iff {mode : CommMode} {fields : List String} {address : Coordinator} :
    ofFields? mode fields = some address ↔ address.MadeOf mode fields := by
  constructor
  · intro made
    unfold ofFields? at made
    split at made
    · cases made
      exact .urls _ _ _ _
    · cases made
      exact .topics _ _ _ _ _ _ _ _ _
    · cases made
  · rintro (_ | _) <;> rfl

theorem madeOf_fields (address : Coordinator) : address.MadeOf address.mode address.fields := by
  cases address with
  | urls base paths => exact .urls _ _ _ _
  | topics place names => exact .topics _ _ _ _ _ _ _ _ _

/-- The fields that make an address are those that it is written with. -/
theorem MadeOf.fields_eq {address : Coordinator} {mode : CommMode} {fields : List String}
    (made : address.MadeOf mode fields) : address.mode = mode ∧ address.fields = fields := by
  cases made <;> exact ⟨rfl, rfl⟩

/-- As many fields as the mode asks for make an address, and no others do. -/
theorem exists_madeOf_iff {mode : CommMode} {fields : List String} :
    (∃ address : Coordinator, address.MadeOf mode fields) ↔ fields.length = mode.coordinatorFields := by
  constructor
  · rintro ⟨address, made⟩
    cases made <;> rfl
  · intro count
    match mode, fields, count with
    | .http, [base, begin, join, finish], _ => exact ⟨_, .urls base begin join finish⟩
    | .mesh, [org, workspace, env, unit, nodeId, instanceId, begin, join, finish], _ =>
      exact ⟨_, .topics org workspace env unit nodeId instanceId begin join finish⟩

/-! ### Reading -/

variable {mode : CommMode} {text : String}

theorem length_fieldsOf (text : String) : (fieldsOf text).length = (Text.split '|' text).length := by
  rw [fieldsOf, List.length_map]

theorem emptyField?_eq_none_iff {fields : List String} : emptyField? fields = none ↔ ∀ field ∈ fields, field ≠ "" := by
  rw [emptyField?, List.findIdx?_eq_none_iff]
  simp

/-- A wrong number of fields is reported first. -/
theorem parse_of_count (wrong : (fieldsOf text).length ≠ mode.coordinatorFields) :
    parse mode text = .error (.coordinatorFields mode (fieldsOf text).length text) := by
  have none : ofFields? mode (fieldsOf text) = none :=
    Option.eq_none_iff_forall_ne_some.mpr fun address made =>
      wrong (exists_madeOf_iff.mp ⟨address, ofFields?_eq_some_iff.mp made⟩)
  delta parse
  simp only [none]

/-- Of a right number of fields the first blank one is reported. -/
theorem parse_of_blank (right : (fieldsOf text).length = mode.coordinatorFields) {position : Nat}
    (first : emptyField? (fieldsOf text) = some position) :
    parse mode text = .error (.blankCoordinatorField position text) := by
  obtain ⟨address, made⟩ := exists_madeOf_iff.mpr right
  delta parse
  simp only [ofFields?_eq_some_iff.mpr made, first]

/-- Fields of the right number, none of them blank, make an address. -/
theorem parse_of_full {address : Coordinator} (made : address.MadeOf mode (fieldsOf text))
    (full : ∀ field ∈ fieldsOf text, field ≠ "") : parse mode text = .ok address := by
  delta parse
  simp only [ofFields?_eq_some_iff.mpr made, emptyField?_eq_none_iff.mpr full]

/-- What is read has as many fields as the mode asks for, none of them blank, and each at its place. -/
theorem parse_eq_ok_iff {address : Coordinator} :
    parse mode text = .ok address ↔ address.MadeOf mode (fieldsOf text) ∧ ∀ field ∈ fieldsOf text, field ≠ "" := by
  constructor
  · intro read
    by_cases right : (fieldsOf text).length = mode.coordinatorFields
    · obtain ⟨other, made⟩ := exists_madeOf_iff.mpr right
      cases blank : emptyField? (fieldsOf text) with
      | some position =>
        rw [parse_of_blank right blank] at read
        cases read
      | none =>
        have full := emptyField?_eq_none_iff.mp blank
        rw [parse_of_full made full] at read
        cases read
        exact ⟨made, full⟩
    · rw [parse_of_count right] at read
      cases read
  · rintro ⟨made, full⟩
    exact parse_of_full made full

theorem exists_parse_eq_ok_iff :
    (∃ address, parse mode text = .ok address) ↔ (Text.split '|' text).length = mode.coordinatorFields ∧
      ∀ segment ∈ Text.split '|' text, ∃ char ∈ segment.toList, Text.isBlank char = false := by
  have full : (∀ field ∈ fieldsOf text, field ≠ "") ↔
      ∀ segment ∈ Text.split '|' text, ∃ char ∈ segment.toList, Text.isBlank char = false := by
    rw [fieldsOf, List.forall_mem_map]
    simp only [Text.trim_ne_empty_iff]
  simp only [parse_eq_ok_iff, exists_and_right, exists_madeOf_iff, length_fieldsOf, full]

/-- What is not read is refused for its form. -/
theorem exists_parse_eq_error (unread : ¬ ∃ address, parse mode text = .ok address) :
    ∃ fault, parse mode text = .error fault ∧ fault.failure.isStructural = true := by
  cases outcome : parse mode text with
  | ok address => exact absurd ⟨address, outcome⟩ unread
  | error fault => exact ⟨fault, rfl, AddressFault.isStructural_failure fault⟩

/-- No text has as many fields as both modes ask for. -/
theorem not_parse_both (text : String) (first second : Coordinator) :
    ¬ (parse .http text = .ok first ∧ parse .mesh text = .ok second) := by
  rintro ⟨asUrls, asTopics⟩
  have four := (exists_parse_eq_ok_iff.mp ⟨first, asUrls⟩).1
  have nine := (exists_parse_eq_ok_iff.mp ⟨second, asTopics⟩).1
  exact absurd (four.symm.trans nine) (by decide)

/-! ### Writing -/

theorem bar_not_mem_of_mem_fieldsOf {field : String} (member : field ∈ fieldsOf text) : '|' ∉ field.toList := by
  obtain ⟨segment, inside, rfl⟩ := List.mem_map.mp member
  exact fun bar => Text.not_mem_of_mem_split inside (Text.mem_of_mem_trim bar)

theorem trim_of_mem_fieldsOf {field : String} (member : field ∈ fieldsOf text) : Text.trim field = field := by
  obtain ⟨segment, -, rfl⟩ := List.mem_map.mp member
  exact Text.trim_trim segment

theorem fields_ne_nil (address : Coordinator) : address.fields ≠ [] := by
  cases address <;> exact List.cons_ne_nil _ _

/-- An address whose fields hold no bar and have no white space around them is written so that its fields are read
again. -/
theorem fieldsOf_encode {address : Coordinator} (free : ∀ field ∈ address.fields, '|' ∉ field.toList)
    (trimmed : ∀ field ∈ address.fields, Text.trim field = field) : fieldsOf address.encode = address.fields := by
  rw [fieldsOf, encode, Text.split_join_of_not_mem address.fields_ne_nil free]
  exact (List.map_congr_left trimmed).trans (List.map_id _)

theorem parse_encode {address : Coordinator}
    (proper : ∀ field ∈ address.fields, field ≠ "" ∧ '|' ∉ field.toList ∧ Text.trim field = field) :
    parse address.mode address.encode = .ok address := by
  have fields := fieldsOf_encode (fun field member => (proper field member).2.1)
    (fun field member => (proper field member).2.2)
  refine parse_of_full ?_ ?_
  · rw [fields]
    exact address.madeOf_fields
  · rw [fields]
    exact fun field member => (proper field member).1

/-- What was read is read the same way when it is written again. -/
theorem parse_encode_of_parse {address : Coordinator} (read : parse mode text = .ok address) :
    parse mode address.encode = .ok address := by
  obtain ⟨made, full⟩ := parse_eq_ok_iff.mp read
  obtain ⟨rfl, fields⟩ := made.fields_eq
  refine parse_encode fun field member => ?_
  rw [fields] at member
  exact ⟨full field member, bar_not_mem_of_mem_fieldsOf member, trim_of_mem_fieldsOf member⟩

/-! ### Both directions -/

/-- **Which texts are addresses, and of which coordinator.** A text is read just if it has as many fields as the mode
asks for, each with something but white space in it, and is refused for its form otherwise. Each field of the address
is the trimmed field of the text at its place; written again, it is these fields with bars between them, which are
read as the same address. No text is read in both modes. And an address whose fields are proper is read as it was
written, so that its requests go where they went. -/
theorem read_exactly :
    (∀ (mode : CommMode) (text : String),
      ((∃ address, parse mode text = .ok address) ↔
        (Text.split '|' text).length = mode.coordinatorFields ∧
        ∀ segment ∈ Text.split '|' text, ∃ char ∈ segment.toList, Text.isBlank char = false) ∧
      ((¬ ∃ address, parse mode text = .ok address) →
        ∃ fault, parse mode text = .error fault ∧ fault.failure.isStructural = true) ∧
      ∀ address, parse mode text = .ok address →
        address.MadeOf mode ((Text.split '|' text).map Text.trim) ∧
        address.encode = Text.join '|' ((Text.split '|' text).map Text.trim) ∧
        parse mode address.encode = .ok address) ∧
    (∀ (text : String) (first second : Coordinator),
      ¬ (parse .http text = .ok first ∧ parse .mesh text = .ok second)) ∧
    ∀ address : Coordinator,
      (∀ field ∈ address.fields, field ≠ "" ∧ '|' ∉ field.toList ∧ Text.trim field = field) →
      parse address.mode address.encode = .ok address ∧
      ∀ read, parse address.mode address.encode = .ok read →
        ∀ operation, read.target operation = address.target operation := by
  refine ⟨fun mode text => ⟨exists_parse_eq_ok_iff, exists_parse_eq_error, fun address read => ?_⟩, not_parse_both,
    fun address proper => ⟨parse_encode proper, fun again read operation => ?_⟩⟩
  · obtain ⟨made, -⟩ := parse_eq_ok_iff.mp read
    refine ⟨made, ?_, parse_encode_of_parse read⟩
    rw [encode, made.fields_eq.2, fieldsOf]
  · rw [parse_encode proper] at read
    cases read
    rfl

/-- An address of URLs with white space around its fields. -/
def spacedText : String := "\thttp://dxc:8080/ | /begin|/join |\u3000/end"

/-- An address of topics. -/
def meshAddress : Coordinator :=
  .topics
    { org := "acme", workspace := "payments", env := "prod", unit := "su1", nodeId := "dxc", instanceId := "dxc-7" }
    { begin := "TXN_BEGIN", join := "TXN_JOIN", finish := "TXN_END" }

theorem spacedText_read_exactly :
    (∃ address, parse .http spacedText = .ok address ∧
      address.encode = "http://dxc:8080/|/begin|/join|/end" ∧ parse .http address.encode = .ok address) ∧
    (∃ fault, parse .mesh spacedText = .error fault ∧ fault.failure.isStructural = true) ∧
    parse .mesh meshAddress.encode = .ok meshAddress ∧
    ∀ read, parse .mesh meshAddress.encode = .ok read →
      read.target .finish = .topic ⟨"acme", "payments", "prod", "su1", "dxc", "dxc-7"⟩ "TXN_END" := by
  obtain ⟨reads, both, written⟩ := read_exactly
  obtain ⟨readable, -, normal⟩ := reads .http spacedText
  have full : ∀ segment ∈ Text.split '|' spacedText, ∃ char ∈ segment.toList, Text.isBlank char = false := by
    simp only [← Text.trim_ne_empty_iff]
    decide +kernel
  obtain ⟨address, read⟩ := readable.mpr ⟨by decide +kernel, full⟩
  obtain ⟨-, encoded, again⟩ := normal address read
  obtain ⟨same, targets⟩ := written meshAddress (by decide +kernel)
  exact ⟨⟨address, read, encoded.trans (by decide +kernel), again⟩,
    (reads .mesh spacedText).2.1 (fun ⟨other, asTopics⟩ => both spacedText address other ⟨read, asTopics⟩),
    same, fun other asTopics => targets other asTopics .finish⟩

end Coordinator

end TryConfirmCancel
