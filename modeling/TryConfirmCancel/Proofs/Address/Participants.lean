/-
**The address of a participant, written and read.**

Nothing escapes the bars between the fields of an address.

* `fields_encode`: so a field with bars is read as several;
* `parse_encode_of_free`, `parse_encode_of_bar`: an address without bars is read as it was written, and any other one is
  refused;
* `fields_of_parse`: a text that is read has the fields of its address, behind some spelling of the mode;
* `read_as_written`: both together, for the addresses that a deployment advertises and for every text.
-/

import TryConfirmCancel.Address.Participant

namespace TryConfirmCancel

/-- The name of a mode is one of its spellings. -/
theorem CommMode.parse_name (mode : CommMode) : CommMode.parse mode.name = .ok mode := by
  have spelling : Text.lowered (Text.trim mode.name) = mode.name := by cases mode <;> decide +kernel
  rw [CommMode.parse, spelling]
  cases mode <;> rfl

theorem CommMode.bar_not_mem_name (mode : CommMode) : '|' ∉ mode.name.toList := by
  cases mode <;> decide

namespace Participant

/-- In the mode of topics there is no base URL. -/
def IsRegular (address : Participant) : Prop := address.mode = .mesh → address.baseUrl = ""

theorem ofPlaces?_eq_some_iff {mode : CommMode} {fields : List String} {address : Participant} :
    ofPlaces? mode fields = some address ↔
      address.mode = mode ∧ address.places = fields ∧ address.IsRegular := by
  constructor
  · intro made
    unfold ofPlaces? at made
    split at made
    · cases made
      exact ⟨rfl, rfl, fun other => by cases other⟩
    · cases made
      exact ⟨rfl, rfl, fun _ => rfl⟩
    · cases made
  · rintro ⟨rfl, rfl, regular⟩
    obtain ⟨mode, baseUrl, confirm, cancel⟩ := address
    cases mode with
    | http => rfl
    | mesh =>
      cases regular rfl
      rfl

/-- Too many fields make no address. -/
theorem ofPlaces?_eq_none {address : Participant} {fields : List String}
    (more : address.places.length < fields.length) : ofPlaces? address.mode fields = none := by
  cases made : ofPlaces? address.mode fields with
  | none => rfl
  | some other =>
    obtain ⟨sameMode, rfl, -⟩ := ofPlaces?_eq_some_iff.mp made
    have same : other.places.length = address.places.length := by
      rw [places, places, sameMode]
      cases address.mode <;> rfl
    omega

/-- The texts of an address. -/
def texts (address : Participant) : List String := [address.baseUrl, address.confirm, address.cancel]

theorem mem_texts_of_mem_places {address : Participant} {field : String} (member : field ∈ address.places) :
    field ∈ address.texts := by
  rw [places] at member
  split at member
  · exact member
  · exact List.mem_cons_of_mem _ member

/-- Only a text that is written can hold a bar. -/
theorem mem_places_of_bar {address : Participant} (regular : address.IsRegular) {field : String}
    (member : field ∈ address.texts) (bar : '|' ∈ field.toList) : field ∈ address.places := by
  rw [places]
  split
  · exact member
  · rename_i mesh
    rcases List.mem_cons.mp member with rfl | behind
    · rw [regular mesh] at bar
      cases bar
    · exact behind

/-! ### What a deployment advertises -/

section Build

variable (config : Config) (flags : Flags) (direct : Bool)

theorem build_isRegular : (build config flags direct).IsRegular := by
  unfold build
  split
  · exact fun other => by cases other
  · exact fun _ => rfl

/-- A service without a Confirm method advertises none. -/
theorem confirm_build (none : flags.hasConfirm = false) : (build config flags direct).confirm = "" := by
  unfold build
  rw [none]
  split <;> rfl

/-- A service without a Cancel method advertises none. -/
theorem cancel_build (none : flags.hasCancel = false) : (build config flags direct).cancel = "" := by
  unfold build
  rw [none]
  split <;> rfl

end Build

/-! ### Writing, then reading -/

theorem places_ne_nil (address : Participant) : address.places ≠ [] := by
  rw [places]
  cases address.mode <;> simp

/-- The fields of a written address: the name of its mode, and the fields of each text behind it. -/
theorem fields_encode (address : Participant) :
    Text.split '|' address.encode = address.mode.name :: address.places.flatMap (Text.split '|') := by
  rw [encode, Text.split_join '|' (List.cons_ne_nil _ _), List.flatMap_cons,
    Text.split_of_not_mem address.mode.bar_not_mem_name]
  rfl

/-- The first field of a text spells the mode, and the others make the address. -/
theorem parse_of_fields {text spelling : String} {rest : List String}
    (fields : Text.split '|' text = spelling :: rest) :
    parse text = match CommMode.parse spelling with
      | .error fault => .error (.participantMode fault text)
      | .ok mode => match ofPlaces? mode rest with
        | some address => .ok address
        | none => .error (.participantFields mode (rest.length + 1) text) := by
  delta parse
  cases spells : CommMode.parse spelling with
  | error fault => simp only [fields, List.headD_cons, spells]
  | ok mode =>
    cases made : ofPlaces? mode rest <;>
      simp only [fields, List.headD_cons, List.tail_cons, List.length_cons, spells, made]

/-- A regular address without bars is read as it was written. -/
theorem parse_encode_of_free {address : Participant} (regular : address.IsRegular)
    (free : ∀ field ∈ address.places, '|' ∉ field.toList) : parse address.encode = .ok address := by
  have fields : address.places.flatMap (Text.split '|') = address.places := by
    rw [← Text.split_join '|' address.places_ne_nil, Text.split_join_of_not_mem address.places_ne_nil free]
  rw [parse_of_fields (fields ▸ address.fields_encode), address.mode.parse_name]
  simp only [ofPlaces?_eq_some_iff.mpr ⟨rfl, rfl, regular⟩]

/-- An address with a bar in one of its fields is refused for the number of its fields. -/
theorem parse_encode_of_bar {address : Participant} (bar : ∃ field ∈ address.places, '|' ∈ field.toList) :
    ∃ found, parse address.encode = .error (.participantFields address.mode found address.encode) := by
  rw [parse_of_fields address.fields_encode, address.mode.parse_name]
  simp only [ofPlaces?_eq_none (Text.length_lt_of_mem bar)]
  exact ⟨_, rfl⟩

/-! ### Reading, then writing -/

/-- A text that is read has the fields of its address, behind some spelling of the mode. -/
theorem fields_of_parse {text : String} {address : Participant} (read : parse text = .ok address) :
    ∃ spelling, Text.split '|' text = spelling :: address.places ∧ CommMode.parse spelling = .ok address.mode ∧
      address.IsRegular := by
  obtain ⟨spelling, rest, fields⟩ := List.exists_cons_of_ne_nil (Text.split_ne_nil '|' text)
  rw [parse_of_fields fields] at read
  split at read
  · cases read
  · rename_i mode spells
    split at read
    · rename_i made
      cases read
      obtain ⟨rfl, rfl, regular⟩ := ofPlaces?_eq_some_iff.mp made
      exact ⟨spelling, fields, spells, regular⟩
    · cases read

/-- Behind the name of its mode, a text that is read is written again as it was. -/
theorem encode_of_parse {text : String} {address : Participant} (read : parse text = .ok address) :
    ∃ spelling rest, text = spelling ++ "|" ++ rest ∧ '|' ∉ spelling.toList ∧
      CommMode.parse spelling = .ok address.mode ∧ address.encode = address.mode.name ++ "|" ++ rest := by
  obtain ⟨spelling, fields, spells, -⟩ := fields_of_parse read
  have bare : '|' ∉ spelling.toList := Text.not_mem_of_mem_split (fields ▸ List.mem_cons_self)
  refine ⟨spelling, Text.join '|' address.places, ?_, bare, spells, ?_⟩
  · rw [← Text.join_split '|' text, fields, Text.join_cons '|' spelling address.places_ne_nil]
    rfl
  · rw [encode, Text.join_cons '|' _ address.places_ne_nil]
    rfl

/-- A text that is read has no bars in the fields of its address. -/
theorem free_of_parse {text : String} {address : Participant} (read : parse text = .ok address) :
    ∀ field ∈ address.places, '|' ∉ field.toList := by
  obtain ⟨spelling, fields, -, -⟩ := fields_of_parse read
  intro field member
  exact Text.not_mem_of_mem_split (fields ▸ List.mem_cons_of_mem _ member)

/-! ### Both directions -/

/-- **An address is read as it was written, or not at all.** What a deployment advertises is read back if none of its
texts holds a bar, and is refused otherwise; a method that a service lacks has an empty field. A text that is read at
all is, behind the name of its mode, what its address is written as, and this is read as the same address. -/
theorem read_as_written :
    (∀ (config : Config) (flags : Flags) (direct : Bool),
      ((∀ field ∈ (build config flags direct).texts, '|' ∉ field.toList) →
        parse (build config flags direct).encode = .ok (build config flags direct)) ∧
      ((∃ field ∈ (build config flags direct).texts, '|' ∈ field.toList) →
        ∃ fault, parse (build config flags direct).encode = .error fault ∧ fault.failure.isStructural = true) ∧
      (flags.hasConfirm = false → (build config flags direct).confirm = "") ∧
      (flags.hasCancel = false → (build config flags direct).cancel = "")) ∧
    ∀ (text : String) (address : Participant), parse text = .ok address →
      (∃ spelling rest, text = spelling ++ "|" ++ rest ∧ '|' ∉ spelling.toList ∧
        CommMode.parse spelling = .ok address.mode ∧ address.encode = address.mode.name ++ "|" ++ rest) ∧
      parse address.encode = .ok address := by
  constructor
  · intro config flags direct
    have regular := build_isRegular config flags direct
    refine ⟨fun free => ?_, fun bar => ?_, confirm_build config flags direct, cancel_build config flags direct⟩
    · exact parse_encode_of_free regular fun field member => free field (mem_texts_of_mem_places member)
    · obtain ⟨field, member, inside⟩ := bar
      obtain ⟨found, refused⟩ := parse_encode_of_bar ⟨field, mem_places_of_bar regular member inside, inside⟩
      exact ⟨_, refused, AddressFault.isStructural_failure _⟩
  · intro text address read
    obtain ⟨-, -, -, regular⟩ := fields_of_parse read
    exact ⟨encode_of_parse read, parse_encode_of_free regular (free_of_parse read)⟩

/-- A deployment whose base URL holds a bar. -/
def barredConfig : Config := { participantBaseUrl := "http://shop|orders" }

theorem shop_read_as_written :
    parse (build {} .both false).encode
      = .ok ⟨.http, "http://localhost:8080", "/v1/txn/confirm", "/v1/txn/cancel"⟩ ∧
    (∃ fault, parse (build barredConfig .confirm false).encode = .error fault ∧
      fault.failure.isStructural = true) ∧
    (build barredConfig .confirm false).cancel = "" ∧
    parse " Direct\t|http://shop||/c" = .ok ⟨.http, "http://shop", "", "/c"⟩ ∧
    parse (encode ⟨.http, "http://shop", "", "/c"⟩) = .ok ⟨.http, "http://shop", "", "/c"⟩ := by
  have accepted : parse " Direct\t|http://shop||/c" = .ok ⟨.http, "http://shop", "", "/c"⟩ := by
    have fields : Text.split '|' " Direct\t|http://shop||/c" = [" Direct\t", "http://shop", "", "/c"] := by
      decide +kernel
    have spelling : Text.lowered (Text.trim " Direct\t") = "direct" := by decide +kernel
    rw [parse_of_fields fields, CommMode.parse, spelling]
    rfl
  obtain ⟨written, read⟩ := read_as_written
  obtain ⟨plain, -, -, -⟩ := written {} .both false
  obtain ⟨-, barred, -, cancel⟩ := written barredConfig .confirm false
  exact ⟨plain (by decide +kernel), barred (by decide +kernel), cancel (by decide +kernel), accepted,
    (read _ _ accepted).2⟩

end Participant

end TryConfirmCancel
