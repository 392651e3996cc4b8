/-
**Texts as fields between separators.**

* `split`: the fields of a text, one more than it has separators;
* `join`: fields written behind each other with a separator between two;
* `join_split`: joining the fields of a text gives the text back;
* `split_join`: the fields of joined texts are the fields of each text, one after the other.
-/

namespace TryConfirmCancel.Text

/-- The runs of characters between separators. -/
def splitChars (separator : Char) : List Char → List (List Char)
  | [] => [[]]
  | char :: rest =>
    if char = separator then [] :: splitChars separator rest
    else match splitChars separator rest with
      | [] => [[char]]
      | field :: fields => (char :: field) :: fields

def split (separator : Char) (text : String) : List String :=
  (splitChars separator text.toList).map .ofList

/-- Fields with a separator between two neighbours. -/
def join (separator : Char) (fields : List String) : String :=
  .ofList (List.intercalate [separator] (fields.map String.toList))

theorem splitChars_eq_splitOn (separator : Char) (chars : List Char) :
    splitChars separator chars = chars.splitOn separator := by
  induction chars with
  | nil => rfl
  | cons char rest ih =>
    rw [splitChars, List.splitOn_cons_eq_if_modifyHead, ih]
    by_cases same : char = separator
    · simp [same]
    · cases cut : rest.splitOn separator with
      | nil => exact absurd cut (List.splitOn_ne_nil separator rest)
      | cons field fields => simp [same]

theorem split_eq (separator : Char) (text : String) :
    split separator text = (text.toList.splitOn separator).map .ofList := by
  rw [split, splitChars_eq_splitOn]

/-- Joining the fields of a text gives the text back. -/
theorem join_split (separator : Char) (text : String) : join separator (split separator text) = text := by
  have chars : (String.toList ∘ String.ofList) = (id : List Char → List Char) := by
    funext list
    simp
  simp [join, split_eq, chars]

theorem split_ne_nil (separator : Char) (text : String) : split separator text ≠ [] := by
  simp [split_eq]

/-- A text without separators is one field. -/
theorem split_of_not_mem {separator : Char} {text : String} (free : separator ∉ text.toList) :
    split separator text = [text] := by
  simp [split_eq, List.splitOn_eq_singleton free]

theorem join_cons (separator : Char) (first : String) {rest : List String} (more : rest ≠ []) :
    join separator (first :: rest) = first ++ .singleton separator ++ join separator rest := by
  rw [← String.toList_inj]
  simp [join, List.intercalate_cons_of_ne_nil, more]

/-- A separator between two texts divides their fields. -/
theorem split_append (separator : Char) (front back : String) :
    split separator (front ++ .singleton separator ++ back) = split separator front ++ split separator back := by
  simp [split_eq, List.splitOn_append_cons_self]

/-- The fields of joined texts are the fields of each text, one after the other. -/
theorem split_join (separator : Char) {fields : List String} (some : fields ≠ []) :
    split separator (join separator fields) = fields.flatMap (split separator) := by
  induction fields with
  | nil => exact absurd rfl some
  | cons first rest ih =>
    by_cases more : rest = []
    · simp [more, join]
    · rw [join_cons separator first more, split_append, ih more, List.flatMap_cons]

/-- Texts without separators are the fields of what they are joined to. -/
theorem split_join_of_not_mem {separator : Char} {fields : List String} (some : fields ≠ [])
    (free : ∀ field ∈ fields, separator ∉ field.toList) :
    split separator (join separator fields) = fields := by
  have alone : fields.map (split separator) = fields.map fun field => [field] :=
    List.map_congr_left fun field member => split_of_not_mem (free field member)
  rw [split_join separator some, List.flatMap_def, alone, ← List.flatMap_def, List.flatMap_singleton']

theorem not_mem_of_mem_splitOn {separator : Char} {chars field : List Char}
    (member : field ∈ chars.splitOn separator) : separator ∉ field := by
  induction chars generalizing field with
  | nil => simp_all
  | cons char rest ih =>
    rw [List.splitOn_cons_eq_if_modifyHead] at member
    by_cases same : char = separator
    · rcases List.mem_cons.mp (by simpa [same] using member) with rfl | inside
      · exact List.not_mem_nil
      · exact ih inside
    · cases cut : rest.splitOn separator with
      | nil => exact absurd cut (List.splitOn_ne_nil separator rest)
      | cons first fields =>
        rw [cut] at ih member
        rcases List.mem_cons.mp (by simpa [same] using member) with rfl | inside
        · rw [List.mem_cons, not_or]
          exact ⟨Ne.symm same, ih List.mem_cons_self⟩
        · exact ih (List.mem_cons_of_mem _ inside)

/-- No field of a text holds a separator. -/
theorem not_mem_of_mem_split {separator : Char} {text field : String} (member : field ∈ split separator text) :
    separator ∉ field.toList := by
  obtain ⟨chars, inside, rfl⟩ := List.mem_map.mp (split_eq separator text ▸ member)
  rw [String.toList_ofList]
  exact not_mem_of_mem_splitOn inside

/-- A text has one field more than separators. -/
theorem length_split (separator : Char) (text : String) :
    (split separator text).length = text.toList.count separator + 1 := by
  rw [split_eq, List.length_map]
  induction text.toList with
  | nil => rfl
  | cons char rest ih =>
    rw [List.splitOn_cons_eq_if_modifyHead, List.count_cons]
    by_cases same : char = separator <;> simp [same, ih]

theorem length_flatMap_split (separator : Char) (fields : List String) :
    (fields.flatMap (split separator)).length
      = fields.length + (fields.flatMap String.toList).count separator := by
  induction fields with
  | nil => rfl
  | cons first rest ih =>
    simp only [List.flatMap_cons, List.length_append, length_split, ih, List.length_cons, List.count_append]
    omega

/-- Texts of which one holds a separator have more fields than there are texts. -/
theorem length_lt_of_mem {separator : Char} {fields : List String}
    (held : ∃ field ∈ fields, separator ∈ field.toList) :
    fields.length < (fields.flatMap (split separator)).length := by
  have counted : 0 < (fields.flatMap String.toList).count separator :=
    List.count_pos_iff.mpr (List.mem_flatMap.mpr held)
  rw [length_flatMap_split]
  omega

end TryConfirmCancel.Text
