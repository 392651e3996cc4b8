/-
**Slashes where the parts of a URL meet.**

* `slashes`, `IsBase`, `IsPath`: a text less the slashes at one end, said without dropping anything;
* `isBase_iff`, `isPath_iff`: that is what joining keeps of a base and of a path;
* `join_slashes`: so slashes more or less where two texts meet make no difference;
* `toList_join_join`, `toList_join_of_join`: of the middle one of three texts, joining keeps the same in either order;
* `join_meets`: all of this, for every text.
-/

import Mathlib.Data.List.DropRight
import TryConfirmCancel.Address.Join
import TryConfirmCancel.Text.Blank

namespace TryConfirmCancel.Address

/-! ### Dropping at either end -/

section Dropping

variable (dropped : Char → Bool)

/-- Something is dropped of the front list only if nothing is left of the one behind it. -/
theorem rdropWhile_append (front back : List Char) :
    (front ++ back).rdropWhile dropped
      = if back.rdropWhile dropped = [] then front.rdropWhile dropped else front ++ back.rdropWhile dropped := by
  simp only [List.rdropWhile, List.reverse_append, List.dropWhile_append, List.isEmpty_iff, List.reverse_eq_nil_iff]
  split
  · rfl
  · rw [List.reverse_append, List.reverse_reverse]

/-- It makes no difference at which end dropping begins. -/
theorem rdropWhile_dropWhile (chars : List Char) :
    (chars.dropWhile dropped).rdropWhile dropped = (chars.rdropWhile dropped).dropWhile dropped := by
  induction chars with
  | nil => rfl
  | cons char rest ih =>
    -- the first character is at stake at the back only if nothing is left of the others
    have whole := rdropWhile_append dropped [char] rest
    rw [List.singleton_append, List.rdropWhile_singleton] at whole
    rw [whole]
    by_cases drops : dropped char = true
    · rw [List.dropWhile_cons_of_pos drops, ih, if_pos drops]
      split
      · rename_i nothing
        rw [nothing]
      · rw [List.singleton_append, List.dropWhile_cons_of_pos drops]
    · rw [List.dropWhile_cons_of_neg drops, whole, if_neg drops]
      split <;> exact (List.dropWhile_cons_of_neg drops).symm

end Dropping

/-! ### What is kept of a base and of a path -/

/-- As many slashes as one likes. -/
def slashes (count : Nat) : String := .ofList (List.replicate count '/')

/-- A base less the slashes behind it. -/
structure IsBase (base front : String) : Prop where
  slashes : ∃ count, base = front ++ slashes count
  ends : ∀ char ∈ front.toList.getLast?, char ≠ '/'

/-- A path less the slashes in front of it. -/
structure IsPath (path back : String) : Prop where
  slashes : ∃ count, path = slashes count ++ back
  begins : ∀ char ∈ back.toList.head?, char ≠ '/'

theorem isSlash_iff {char : Char} : isSlash char = true ↔ char = '/' := beq_iff_eq

theorem isSlash_eq_false_iff {char : Char} : isSlash char = false ↔ char ≠ '/' := beq_eq_false_iff_ne

theorem toList_withoutSlashesBehind (base : String) :
    (withoutSlashesBehind base).toList = base.toList.rdropWhile isSlash := String.toList_ofList

theorem toList_withoutSlashesInFront (path : String) :
    (withoutSlashesInFront path).toList = path.toList.dropWhile isSlash := String.toList_ofList

theorem isSlash_of_mem_slashes (count : Nat) : ∀ char ∈ (slashes count).toList, isSlash char = true := by
  intro char member
  rw [slashes, String.toList_ofList] at member
  exact isSlash_iff.mpr (List.eq_of_mem_replicate member)

/-- Characters that are slashes are as many slashes. -/
theorem ofList_eq_slashes {chars : List Char} (all : ∀ char ∈ chars, isSlash char = true) :
    String.ofList chars = slashes chars.length := by
  rw [slashes, ← List.eq_replicate_of_mem fun char member => isSlash_iff.mp (all char member)]

/-- Slashes behind a base are dropped whatever stands in front of them. -/
theorem withoutSlashesBehind_append (front : String) (count : Nat) :
    withoutSlashesBehind (front ++ slashes count) = withoutSlashesBehind front := by
  have gone : (slashes count).toList.rdropWhile isSlash = [] :=
    List.rdropWhile_eq_nil_iff.mpr (isSlash_of_mem_slashes count)
  rw [← String.toList_inj, toList_withoutSlashesBehind, toList_withoutSlashesBehind, String.toList_append,
    rdropWhile_append, if_pos gone]

/-- Slashes in front of a path are dropped whatever stands behind them. -/
theorem withoutSlashesInFront_append (count : Nat) (back : String) :
    withoutSlashesInFront (slashes count ++ back) = withoutSlashesInFront back := by
  rw [← String.toList_inj, toList_withoutSlashesInFront, toList_withoutSlashesInFront, String.toList_append,
    List.dropWhile_append_of_pos (isSlash_of_mem_slashes count)]

/-- What is kept of a base is the base less the slashes behind it. -/
theorem isBase_iff {base front : String} : IsBase base front ↔ front = withoutSlashesBehind base := by
  constructor
  · rintro ⟨⟨count, rfl⟩, ends⟩
    have stays : front.toList.reverse.dropWhile isSlash = front.toList.reverse := by
      refine Text.dropWhile_of_head? fun char last => isSlash_eq_false_iff.mpr (ends char ?_)
      rwa [List.head?_reverse] at last
    rw [withoutSlashesBehind_append, withoutSlashesBehind, stays, List.reverse_reverse, String.ofList_toList]
  · rintro rfl
    refine ⟨⟨(base.toList.rtakeWhile isSlash).length, ?_⟩, fun char last => isSlash_eq_false_iff.mp ?_⟩
    · rw [← ofList_eq_slashes fun char => List.mem_rtakeWhile_imp, ← String.toList_inj, String.toList_append,
        toList_withoutSlashesBehind, String.toList_ofList, List.rdropWhile_append_rtakeWhile]
    · rw [toList_withoutSlashesBehind, List.rdropWhile, List.getLast?_reverse] at last
      have kept := List.head?_dropWhile_not isSlash base.toList.reverse
      rw [last] at kept
      simpa using kept

/-- What is kept of a path is the path less the slashes in front of it. -/
theorem isPath_iff {path back : String} : IsPath path back ↔ back = withoutSlashesInFront path := by
  constructor
  · rintro ⟨⟨count, rfl⟩, begins⟩
    have stays : back.toList.dropWhile isSlash = back.toList :=
      Text.dropWhile_of_head? fun char first => isSlash_eq_false_iff.mpr (begins char first)
    rw [withoutSlashesInFront_append, withoutSlashesInFront, stays, String.ofList_toList]
  · rintro rfl
    refine ⟨⟨(path.toList.takeWhile isSlash).length, ?_⟩, fun char first => isSlash_eq_false_iff.mp ?_⟩
    · rw [← ofList_eq_slashes fun char => List.mem_takeWhile_imp, ← String.toList_inj, String.toList_append,
        toList_withoutSlashesInFront, String.toList_ofList, List.takeWhile_append_dropWhile]
    · rw [toList_withoutSlashesInFront] at first
      have kept := List.head?_dropWhile_not isSlash path.toList
      rw [first] at kept
      simpa using kept

/-! ### Joining -/

/-- Slashes more or less where two texts meet make no difference. -/
theorem join_slashes (base path : String) (behind inFront : Nat) :
    join (base ++ slashes behind) (slashes inFront ++ path) = join base path := by
  rw [join, join, withoutSlashesBehind_append, withoutSlashesInFront_append]

/-- Joining writes one slash between what it keeps of the base and of the path. -/
theorem join_eq {base path front back : String} (isBase : IsBase base front) (isPath : IsPath path back) :
    join base path = front ++ "/" ++ back := by
  rw [isBase_iff.mp isBase, isPath_iff.mp isPath]
  rfl

theorem toList_join (base path : String) :
    (join base path).toList = base.toList.rdropWhile isSlash ++ '/' :: path.toList.dropWhile isSlash := by
  rw [join, String.toList_append, String.toList_append, toList_withoutSlashesBehind, toList_withoutSlashesInFront,
    List.append_assoc]
  rfl

/-- What stands between two slashes, with the slash in front of it; nothing if it is nothing but slashes. -/
def inner (middle : String) : List Char :=
  let kept := (middle.toList.rdropWhile isSlash).dropWhile isSlash
  if kept = [] then [] else '/' :: kept

section Three

variable (base middle path : String)

/-- Joined to a base first, the middle one of three texts loses the slashes behind it afterwards. -/
theorem toList_join_join :
    (join (join base middle) path).toList
      = base.toList.rdropWhile isSlash ++ inner middle ++ '/' :: path.toList.dropWhile isSlash := by
  -- the slash that was written between them goes again if nothing else stands behind it
  have behind : ('/' :: middle.toList.dropWhile isSlash).rdropWhile isSlash = inner middle := by
    rw [← List.singleton_append, rdropWhile_append, rdropWhile_dropWhile, inner]
    rfl
  rw [toList_join, toList_join, rdropWhile_append, behind, List.rdropWhile_idempotent]
  congr 1
  split
  · rename_i nothing
    rw [nothing, List.append_nil]
  · rfl

/-- Joined to a path first, it loses the slashes in front of it afterwards. -/
theorem toList_join_of_join :
    (join base (join middle path)).toList
      = base.toList.rdropWhile isSlash ++ inner middle ++ '/' :: path.toList.dropWhile isSlash := by
  rw [toList_join, toList_join, List.dropWhile_append, inner, List.append_assoc]
  congr 1
  simp only [List.isEmpty_iff]
  split
  · rw [List.dropWhile_cons_of_pos (by rfl), List.dropWhile_idempotent]
    rfl
  · rfl

end Three

/-- **Where two texts meet stands one slash**, however many they have there; what is kept of each is the text less these
slashes, and three texts make the same in whichever order they are joined. -/
theorem join_meets (base middle path : String) :
    (∀ behind inFront, join (base ++ slashes behind) (slashes inFront ++ path) = join base path) ∧
    (∃ front back, IsBase base front ∧ IsPath path back ∧ join base path = front ++ "/" ++ back) ∧
    join (join base middle) path = join base (join middle path) := by
  have isBase := isBase_iff.mpr (rfl : withoutSlashesBehind base = _)
  have isPath := isPath_iff.mpr (rfl : withoutSlashesInFront path = _)
  refine ⟨join_slashes base path, ⟨_, _, isBase, isPath, join_eq isBase isPath⟩, ?_⟩
  rw [← String.toList_inj, toList_join_join, toList_join_of_join]

example : join (join "http://a//" "//") "/b" = "http://a/b" := by decide +kernel

end TryConfirmCancel.Address
