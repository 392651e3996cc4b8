/-
**Dictionaries with text keys.**

A dictionary is its list of entries in strictly increasing order of the keys, the order of their
UTF-8 bytes. So a key occurs once, and equal dictionaries are equal values.

* `get?_insert`, `get?_filter`, `get?_filterMap`, `get?_overlay`: what each operation does to the look-up;
* `ext_get?`: dictionaries that agree on every look-up are equal.
-/

namespace TryConfirmCancel

universe u v

/-- Entries in increasing order with one entry added or replaced. -/
def insertEntry {α : Type u} (key : String) (value : α) : List (String × α) → List (String × α)
  | [] => [(key, value)]
  | (first, held) :: rest =>
    if key < first then (key, value) :: (first, held) :: rest
    else if key = first then (key, value) :: rest
    else (first, held) :: insertEntry key value rest

def lookupEntry {α : Type u} (key : String) : List (String × α) → Option α
  | [] => none
  | (first, held) :: rest => if first = key then some held else lookupEntry key rest

/-- Keys increase from each entry to the next. -/
abbrev Increasing {α : Type u} (entries : List (String × α)) : Prop :=
  entries.Pairwise fun left right => left.1 < right.1

/-- A dictionary with text keys. -/
structure Dict (α : Type u) where
  entries : List (String × α)
  increasing : Increasing entries
  deriving DecidableEq

section Entries

variable {α : Type u}

theorem mem_insertEntry {key : String} {value : α} {entry : String × α} {entries : List (String × α)}
    (member : entry ∈ insertEntry key value entries) : entry = (key, value) ∨ entry ∈ entries := by
  induction entries with
  | nil => simpa [insertEntry] using member
  | cons head rest ih =>
    obtain ⟨first, held⟩ := head
    simp only [insertEntry] at member
    split at member
    · simpa using member
    · split at member
      · rename_i same
        rcases List.mem_cons.mp member with rfl | inside
        · exact .inl rfl
        · exact .inr (List.mem_cons_of_mem _ inside)
      · rcases List.mem_cons.mp member with rfl | inside
        · exact .inr (by simp)
        · exact (ih inside).imp id (List.mem_cons_of_mem _)

theorem increasing_insertEntry (key : String) (value : α) {entries : List (String × α)}
    (increasing : Increasing entries) : Increasing (insertEntry key value entries) := by
  induction entries with
  | nil => simp [insertEntry]
  | cons head rest ih =>
    obtain ⟨first, held⟩ := head
    have above : ∀ {entry}, entry ∈ rest → first < entry.1 := List.rel_of_pairwise_cons increasing
    have tail := List.Pairwise.of_cons increasing
    simp only [insertEntry]
    split
    · rename_i below
      exact List.Pairwise.cons (fun entry member => by
        rcases List.mem_cons.mp member with rfl | inside
        · exact below
        · exact String.lt_trans below (above inside)) increasing
    · split
      · rename_i same
        subst same
        exact List.Pairwise.cons (fun entry member => above member) tail
      · rename_i notBelow different
        have after : first < key := Decidable.byContradiction fun notAbove =>
          different (String.le_antisymm (String.not_lt.mp notAbove) (String.not_lt.mp notBelow))
        exact List.Pairwise.cons (fun entry member => by
          rcases mem_insertEntry member with rfl | inside
          · exact after
          · exact above inside) (ih tail)

theorem lookupEntry_insertEntry (key query : String) (value : α) (entries : List (String × α)) :
    lookupEntry query (insertEntry key value entries)
      = if key = query then some value else lookupEntry query entries := by
  induction entries with
  | nil => simp [insertEntry, lookupEntry]
  | cons head rest ih =>
    obtain ⟨first, held⟩ := head
    simp only [insertEntry]
    split
    · simp only [lookupEntry]
    · split
      · rename_i same
        subst same
        simp only [lookupEntry]
        split <;> rfl
      · rename_i different
        simp only [lookupEntry, ih]
        by_cases here : first = query
        · subst here
          simp [different]
        · simp [here]

theorem mem_of_lookupEntry {key : String} {value : α} {entries : List (String × α)}
    (found : lookupEntry key entries = some value) : (key, value) ∈ entries := by
  induction entries with
  | nil => simp [lookupEntry] at found
  | cons head rest ih =>
    obtain ⟨first, held⟩ := head
    simp only [lookupEntry] at found
    split at found
    · rename_i same
      cases found
      simp [same]
    · exact List.mem_cons_of_mem _ (ih found)

theorem lookupEntry_of_mem {key : String} {value : α} {entries : List (String × α)}
    (increasing : Increasing entries) (member : (key, value) ∈ entries) :
    lookupEntry key entries = some value := by
  induction entries with
  | nil => simp at member
  | cons head rest ih =>
    obtain ⟨first, held⟩ := head
    have above : ∀ {entry}, entry ∈ rest → first < entry.1 := List.rel_of_pairwise_cons increasing
    rcases List.mem_cons.mp member with same | inside
    · cases same
      simp [lookupEntry]
    · have different : first ≠ key := fun same => by
        subst same
        exact String.lt_irrefl _ (above inside)
      simpa [lookupEntry, different] using ih (List.Pairwise.of_cons increasing) inside

theorem lookupEntry_eq_none {key : String} {entries : List (String × α)}
    (absent : key ∉ entries.map Prod.fst) : lookupEntry key entries = none := by
  cases found : lookupEntry key entries with
  | none => rfl
  | some value => exact absurd (List.mem_map_of_mem (mem_of_lookupEntry found)) absent

theorem lookupEntry_append (key : String) (front back : List (String × α)) :
    lookupEntry key (front ++ back) = (lookupEntry key front).or (lookupEntry key back) := by
  induction front with
  | nil => rfl
  | cons entry rest ih =>
    by_cases here : entry.1 = key
    · simp [lookupEntry, here]
    · simp [lookupEntry, here, ih]

theorem lookupEntry_eq_none_of_lt {key : String} {entries : List (String × α)}
    (above : ∀ entry ∈ entries, key < entry.1) : lookupEntry key entries = none := by
  cases found : lookupEntry key entries with
  | none => rfl
  | some value => exact absurd (above _ (mem_of_lookupEntry found)) (String.lt_irrefl _)

theorem eq_of_lookupEntry {left right : List (String × α)} (increasingLeft : Increasing left)
    (increasingRight : Increasing right)
    (agree : ∀ key, lookupEntry key left = lookupEntry key right) : left = right := by
  induction left generalizing right with
  | nil =>
    cases right with
    | nil => rfl
    | cons head rest => simpa [lookupEntry] using agree head.1
  | cons head rest ih =>
    cases right with
    | nil => simpa [lookupEntry] using agree head.1
    | cons head' rest' =>
      obtain ⟨first, held⟩ := head
      obtain ⟨first', held'⟩ := head'
      have above : ∀ entry ∈ rest, first < entry.1 := fun _ member =>
        List.rel_of_pairwise_cons increasingLeft member
      have above' : ∀ entry ∈ rest', first' < entry.1 := fun _ member =>
        List.rel_of_pairwise_cons increasingRight member
      have atFirst := agree first
      have atFirst' := agree first'
      simp only [lookupEntry, if_true] at atFirst atFirst'
      have same : first = first' := Decidable.byContradiction fun different => by
        have different' : first' ≠ first := fun equal => different equal.symm
        rw [if_neg different'] at atFirst
        rw [if_neg different] at atFirst'
        exact String.lt_asymm (above' _ (mem_of_lookupEntry atFirst.symm))
          (above _ (mem_of_lookupEntry atFirst'))
      subst same
      simp only [if_true, Option.some.injEq] at atFirst
      subst atFirst
      have tails : rest = rest' := ih (List.Pairwise.of_cons increasingLeft)
        (List.Pairwise.of_cons increasingRight) fun key => by
          by_cases here : first = key
          · subst here
            rw [lookupEntry_eq_none_of_lt above, lookupEntry_eq_none_of_lt above']
          · simpa [lookupEntry, here] using agree key
      rw [tails]

end Entries

namespace Dict

variable {α : Type u}

def empty : Dict α := ⟨[], .nil⟩

instance : Inhabited (Dict α) := ⟨empty⟩

instance : EmptyCollection (Dict α) := ⟨empty⟩

def get? (dict : Dict α) (key : String) : Option α := lookupEntry key dict.entries

def contains (dict : Dict α) (key : String) : Bool := (dict.get? key).isSome

/-- A value put under a key, in place of an earlier one. -/
def insert (dict : Dict α) (key : String) (value : α) : Dict α :=
  ⟨insertEntry key value dict.entries, increasing_insertEntry key value dict.increasing⟩

/-- The entries whose key and value pass a test. -/
def filter (dict : Dict α) (test : String → α → Bool) : Dict α :=
  ⟨dict.entries.filter fun entry => test entry.1 entry.2, dict.increasing.filter _⟩

/-- The entries for which there is a new value, with it. -/
def filterMap {β : Type v} (dict : Dict α) (convert : String → α → Option β) : Dict β :=
  ⟨dict.entries.filterMap fun entry => (convert entry.1 entry.2).map fun value => (entry.1, value),
    List.Pairwise.filterMap _ (fun left right below left' fromLeft right' fromRight => by
      obtain ⟨_, -, rfl⟩ := Option.map_eq_some_iff.mp fromLeft
      obtain ⟨_, -, rfl⟩ := Option.map_eq_some_iff.mp fromRight
      exact below) dict.increasing⟩

/-- Entries put into a dictionary one after the other; of equal keys the last one wins. -/
def insertAll (dict : Dict α) (entries : List (String × α)) : Dict α :=
  entries.foldl (fun dict entry => dict.insert entry.1 entry.2) dict

/-- The dictionary of entries; of equal keys the last one wins. -/
def ofList (entries : List (String × α)) : Dict α := empty.insertAll entries

/-- A dictionary under the entries of another one, which win. -/
def overlay (dict above : Dict α) : Dict α := dict.insertAll above.entries

def keys (dict : Dict α) : List String := dict.entries.map Prod.fst

/-- Dictionaries with the same entries are equal. -/
theorem ext_entries {left right : Dict α} (same : left.entries = right.entries) : left = right := by
  cases left
  cases right
  cases same
  rfl

/-- **Dictionaries that agree on every look-up are equal.** -/
theorem ext_get? {left right : Dict α} (agree : ∀ key, left.get? key = right.get? key) : left = right :=
  ext_entries (eq_of_lookupEntry left.increasing right.increasing agree)

@[simp]
theorem get?_empty (key : String) : (empty : Dict α).get? key = none := rfl

@[simp]
theorem get?_insert (dict : Dict α) (key query : String) (value : α) :
    (dict.insert key value).get? query = if key = query then some value else dict.get? query :=
  lookupEntry_insertEntry key query value dict.entries

theorem get?_eq_some_iff {dict : Dict α} {key : String} {value : α} :
    dict.get? key = some value ↔ (key, value) ∈ dict.entries :=
  ⟨mem_of_lookupEntry, lookupEntry_of_mem dict.increasing⟩

theorem get?_filter (dict : Dict α) (test : String → α → Bool) (key : String) :
    (dict.filter test).get? key = (dict.get? key).filter (test key) := by
  ext value
  rw [get?_eq_some_iff]
  simp [filter, Option.filter_eq_some_iff, ← get?_eq_some_iff]

theorem get?_filterMap {β : Type v} (dict : Dict α) (convert : String → α → Option β) (key : String) :
    (dict.filterMap convert).get? key = (dict.get? key).bind (convert key) := by
  ext value
  rw [get?_eq_some_iff, Option.bind_eq_some_iff]
  simp only [filterMap, List.mem_filterMap, Option.map_eq_some_iff, Prod.mk.injEq, Prod.exists, get?_eq_some_iff]
  constructor
  · rintro ⟨_, held, member, _, converted, rfl, rfl⟩
    exact ⟨held, member, converted⟩
  · rintro ⟨held, member, converted⟩
    exact ⟨key, held, member, value, converted, rfl, rfl⟩

/-- The last value that entries have for a key. -/
def lastValue (key : String) : List (String × α) → Option α
  | [] => none
  | (first, held) :: rest => (lastValue key rest).or (if first = key then some held else none)

theorem get?_insertAll (dict : Dict α) (entries : List (String × α)) (key : String) :
    (dict.insertAll entries).get? key = (lastValue key entries).or (dict.get? key) := by
  induction entries generalizing dict with
  | nil => rfl
  | cons head rest ih =>
    obtain ⟨first, held⟩ := head
    have step : dict.insertAll ((first, held) :: rest) = (dict.insert first held).insertAll rest := rfl
    rw [step, ih, get?_insert, lastValue]
    cases lastValue key rest <;> by_cases here : first = key <;> simp [here]

theorem get?_ofList (entries : List (String × α)) (key : String) :
    (ofList entries).get? key = lastValue key entries := by
  simp [ofList, get?_insertAll]

theorem lastValue_entries (dict : Dict α) (key : String) : lastValue key dict.entries = dict.get? key := by
  obtain ⟨entries, increasing⟩ := dict
  show lastValue key entries = lookupEntry key entries
  induction entries with
  | nil => rfl
  | cons head rest ih =>
    obtain ⟨first, held⟩ := head
    have tail := List.Pairwise.of_cons increasing
    rw [lastValue, ih tail, lookupEntry]
    by_cases here : first = key
    · subst here
      rw [lookupEntry_eq_none_of_lt fun _ member => List.rel_of_pairwise_cons increasing member]
      simp
    · simp [here]

/-- The entries on top win. -/
@[simp]
theorem get?_overlay (dict above : Dict α) (key : String) :
    (dict.overlay above).get? key = (above.get? key).or (dict.get? key) := by
  rw [overlay, get?_insertAll, lastValue_entries]

/-- A dictionary is the dictionary of its entries. -/
theorem ofList_entries (dict : Dict α) : ofList dict.entries = dict :=
  ext_get? fun key => by rw [get?_ofList, lastValue_entries]

end Dict

end TryConfirmCancel
