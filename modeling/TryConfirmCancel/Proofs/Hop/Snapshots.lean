/-
**A snapshot stands for one set of headers.**

A set of headers may be enumerated in any order. The names are brought into the order of their bytes before anything
is written, so each set has one snapshot, and each snapshot one set.

* `Dict.Enumerates`: the entries of a dictionary, in any order;
* `Snapshot.ofMet`: the snapshot of headers as they are met;
* `snapshot_decode_encode`: headers survive as a snapshot;
* `sorted_of_enumerates`: any enumeration is brought into the one order of the dictionary;
* `snapshot_canonical`: all of this together.
-/

import Mathlib.Data.List.Nodup
import TryConfirmCancel.Hop.Propagation
import TryConfirmCancel.Proofs.Bytes.Order
import TryConfirmCancel.Proofs.Json.Reading

namespace TryConfirmCancel

open Json

/-! ### From headers to a text and back -/

/-- Headers survive as a snapshot. -/
theorem snapshot_decode_encode (headers : Dict String) :
    Snapshot.decode (Snapshot.encode headers) = .ok headers := by
  have read := texts_ofBytes? headers
  have bytes := Base64.decode?_encode (Utf8.ofText (Value.ofTexts headers).text)
  rw [← Snapshot.encode] at bytes
  have present : (Snapshot.encode headers).isEmpty = false := by
    rw [← Bool.not_eq_true, String.isEmpty_iff]
    intro empty
    -- The empty text stands for no bytes, and no bytes are no object.
    rw [empty] at bytes
    have none : Utf8.ofText (Value.ofTexts headers).text = [] := (Option.some.inj bytes).symm
    rw [none] at read
    cases read
  rw [Snapshot.decode, present, bytes]
  simp only [read]
  rfl

/-! ### Any order -/

/-- The entries of a dictionary in some order, each once. -/
structure Dict.Enumerates {α : Type} (dict : Dict α) (met : List (String × α)) : Prop where
  once : (met.map Prod.fst).Nodup
  mem_iff : ∀ name value, (name, value) ∈ met ↔ dict.get? name = some value

/-- An entry does not come behind another one in the order of the bytes of the names. -/
def byBytes {α : Type} (left right : String × α) : Bool := Utf8.ofText left.1 ≤ Utf8.ofText right.1

/-- The snapshot of headers in the order in which they are met: they are brought into the order of the bytes of their
names, and written as an object in base64. -/
def Snapshot.ofMet (met : List (String × String)) : String :=
  let members := (met.mergeSort byBytes).map fun entry => (entry.1, Value.string entry.2)
  Base64.encode (Utf8.ofText (Value.object members).text)

section Orders

variable {α : Type} {dict : Dict α} {met : List (String × α)}

theorem byBytes_trans (first second third : String × α) (below : byBytes first second) (above : byBytes second third) :
    byBytes first third := by
  simp only [byBytes, decide_eq_true_eq] at below above ⊢
  exact List.le_trans below above

theorem byBytes_total (left right : String × α) : byBytes left right || byBytes right left := by
  simp only [byBytes, Bool.or_eq_true, decide_eq_true_eq]
  exact List.le_total _ _

/-- Entries of a dictionary are in the order of the bytes of their names. -/
theorem pairwise_entries (dict : Dict α) :
    dict.entries.Pairwise fun left right => Utf8.ofText left.1 < Utf8.ofText right.1 :=
  dict.increasing.imp Utf8.ofText_lt

theorem nodup_entries (dict : Dict α) : dict.entries.Nodup := by
  refine dict.increasing.imp ?_
  rintro left right below rfl
  exact String.lt_irrefl _ below

/-- Two entries of a dictionary of which neither comes behind the other are one. -/
theorem eq_of_byBytes {left right : String × α} (inside : left ∈ dict.entries) (inside' : right ∈ dict.entries)
    (below : byBytes left right) (above : byBytes right left) : left = right := by
  simp only [byBytes, decide_eq_true_eq] at below above
  have name : left.1 = right.1 := by
    have text := Utf8.text?_ofText left.1
    rw [List.le_antisymm below above, Utf8.text?_ofText] at text
    exact (Option.some.inj text).symm
  have found := Dict.get?_eq_some_iff.mpr inside
  rw [name, Dict.get?_eq_some_iff.mpr inside'] at found
  exact Prod.ext name (Option.some.inj found).symm

/-- **Any enumeration of a dictionary is brought into its order.** -/
theorem sorted_of_enumerates (enumerates : dict.Enumerates met) : met.mergeSort byBytes = dict.entries := by
  have same : (met.mergeSort byBytes).Perm dict.entries := by
    refine (List.mergeSort_perm met byBytes).trans ?_
    refine (List.perm_ext_iff_of_nodup (.of_map _ enumerates.once) (nodup_entries dict)).mpr ?_
    rintro ⟨name, value⟩
    rw [enumerates.mem_iff, Dict.get?_eq_some_iff]
  have ordered : dict.entries.Pairwise fun left right => byBytes left right = true :=
    (pairwise_entries dict).imp fun below => by
      simp only [byBytes, decide_eq_true_eq]
      exact List.le_of_lt below
  exact List.Perm.eq_of_pairwise (fun _ _ inside inside' => eq_of_byBytes (same.mem_iff.mp inside) inside')
    (List.pairwise_mergeSort byBytes_trans byBytes_total met) ordered same

end Orders

/-- **A snapshot stands for one set of headers.** -/
theorem snapshot_canonical :
    (∀ headers : Dict String, Snapshot.decode (Snapshot.encode headers) = .ok headers) ∧
    (∀ (headers : Dict String) (met : List (String × String)), headers.Enumerates met →
      Snapshot.ofMet met = Snapshot.encode headers) ∧
    Function.Injective Snapshot.encode := by
  refine ⟨snapshot_decode_encode, fun headers met enumerates => ?_, fun left right same => ?_⟩
  · rw [Snapshot.ofMet, sorted_of_enumerates enumerates]
    rfl
  · have read := snapshot_decode_encode left
    rw [same, snapshot_decode_encode] at read
    exact (Except.ok.inj read).symm

end TryConfirmCancel
