/-
**White space around a text.**

* `head?_trimStart`, `getLast?_trimEnd`: what was trimmed begins and ends with other characters;
* `trim_trim`: so it is not trimmed any further;
* `trim_eq_empty_iff`: nothing is left of white space alone;
* `mem_of_mem_trim`: nothing is added.
-/

import Mathlib.Data.List.TakeWhile
import TryConfirmCancel.Text.Blank

namespace TryConfirmCancel.Text

theorem head?_trimStart (chars : List Char) : ∀ char ∈ (trimStart chars).head?, isBlank char = false := by
  intro char first
  have kept := List.head?_dropWhile_not isBlank chars
  rw [trimStart] at first
  rw [first] at kept
  simpa using kept

theorem getLast?_trimEnd (chars : List Char) : ∀ char ∈ (trimEnd chars).getLast?, isBlank char = false := by
  rw [trimEnd, List.getLast?_reverse]
  exact head?_trimStart chars.reverse

/-- What stands in front stays there if white space behind is dropped. -/
theorem head?_trimEnd {chars : List Char} (kept : ∀ char ∈ chars.head?, isBlank char = false) :
    ∀ char ∈ (trimEnd chars).head?, isBlank char = false := by
  intro char first
  obtain ⟨dropped, split⟩ : ∃ dropped, chars = trimEnd chars ++ dropped := by
    obtain ⟨dropped, split⟩ := List.dropWhile_suffix isBlank (l := chars.reverse)
    refine ⟨dropped.reverse, ?_⟩
    rw [trimEnd, ← List.reverse_append, split, List.reverse_reverse]
  refine kept char ?_
  rw [split, List.head?_append, Option.mem_def.mp first]
  rfl

/-- A trimmed text is not trimmed any further. -/
theorem trim_trim (text : String) : trim (trim text) = trim text := by
  refine trim_blank_free ?_ ?_
  · rw [trim, String.toList_ofList]
    exact head?_trimEnd (head?_trimStart _)
  · rw [trim, String.toList_ofList]
    exact getLast?_trimEnd _

theorem mem_of_mem_trim {text : String} {char : Char} (member : char ∈ (trim text).toList) :
    char ∈ text.toList := by
  rw [trim, String.toList_ofList, trimEnd, List.mem_reverse] at member
  have inside := List.dropWhile_subset isBlank member
  exact List.dropWhile_subset isBlank (List.mem_reverse.mp inside)

theorem trimEnd_eq_nil_iff {chars : List Char} : trimEnd chars = [] ↔ ∀ char ∈ chars, isBlank char = true := by
  rw [trimEnd, List.reverse_eq_nil_iff, List.dropWhile_eq_nil_iff]
  simp only [List.mem_reverse]

/-- Nothing is left of a text just if it is white space alone. -/
theorem trim_eq_empty_iff {text : String} : trim text = "" ↔ ∀ char ∈ text.toList, isBlank char = true := by
  rw [← String.toList_eq_nil_iff, trim, String.toList_ofList, trimEnd_eq_nil_iff, trimStart]
  constructor
  · intro blank char member
    rw [← List.takeWhile_append_dropWhile (p := isBlank) (l := text.toList)] at member
    rcases List.mem_append.mp member with front | back
    · exact (List.all_eq_true.mp List.all_takeWhile) char front
    · exact blank char back
  · exact fun blank char member => blank char (List.dropWhile_subset isBlank member)

theorem trim_ne_empty_iff {text : String} : trim text ≠ "" ↔ ∃ char ∈ text.toList, isBlank char = false := by
  rw [ne_eq, trim_eq_empty_iff]
  simp

end TryConfirmCancel.Text
