/-
**ASCII letter case.**

* `lowered`: a text with its ASCII capitals in lower case and every other character kept;
* `sameLetters`: equality of texts up to ASCII letter case;
* `beginsWith`: a text that begins with another up to ASCII letter case.
-/

namespace TryConfirmCancel.Text

/-- A text with the ASCII capitals in lower case. -/
def lowered (text : String) : String := .ofList (text.toList.map Char.toLower)

/-- Two texts are equal up to ASCII letter case. -/
def sameLetters (left right : String) : Bool := lowered left == lowered right

/-- A text begins with `start` up to ASCII letter case. -/
def beginsWith (start text : String) : Bool :=
  (start.toList.map Char.toLower).isPrefixOf (text.toList.map Char.toLower)

end TryConfirmCancel.Text
