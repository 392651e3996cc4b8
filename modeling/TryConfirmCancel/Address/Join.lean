/-
**A base URL and a path with one slash between them.**

The slashes behind the base and those in front of the path are dropped, and one is written.
-/

namespace TryConfirmCancel.Address

def isSlash (char : Char) : Bool := char == '/'

/-- A text without the slashes behind it. -/
def withoutSlashesBehind (base : String) : String :=
  .ofList (base.toList.reverse.dropWhile isSlash).reverse

/-- A text without the slashes in front of it. -/
def withoutSlashesInFront (path : String) : String := .ofList (path.toList.dropWhile isSlash)

/-- A base URL and a path with one slash between them. -/
def join (base path : String) : String := withoutSlashesBehind base ++ "/" ++ withoutSlashesInFront path

example : join "http://a//" "/b" = "http://a/b" := by decide +kernel

end TryConfirmCancel.Address
