/-
**JSON text as a tree.**

* `Node`: what the grammar says about a text, before anyone asks for a type. Members of an object
  are kept as they stand, repeated ones too, and a leaf may be without a meaning;
* `Node.ofTokens?`: the tree of tokens, built in one pass over an explicit stack;
* `Node.ofBytes?`: the tree of JSON text;
* `Node.ofValue`: a value as a tree, every leaf with its meaning.
-/

import TryConfirmCancel.Json.Token

namespace TryConfirmCancel.Json

/-- A JSON text as a tree. -/
inductive Node
  | null
  | bool (value : Bool)
  | number (value : Option Number)
  | string (value : Option String)
  | array (items : List Node)
  | object (members : List (Option String × Node))
  deriving Repr, Inhabited

/-- A bracket that is still open, with what stands in it so far, the last first. -/
inductive Frame
  | array (items : List Node)
  | object (members : List (Option String × Node)) (key : Option String)
  deriving Repr

/-- What may follow, within the brackets that are still open, the innermost first. -/
inductive Progress
  | value (frames : List Frame)
  /-- The first item of an array, or its end. -/
  | firstItem (frames : List Frame)
  /-- The first key of an object, or its end. -/
  | firstKey (frames : List Frame)
  /-- A key behind a comma. -/
  | key (frames : List Frame) (members : List (Option String × Node))
  /-- The colon behind a key. -/
  | colon (frames : List Frame) (members : List (Option String × Node)) (name : Option String)
  /-- A comma or a closing bracket behind a value, or the end of the text. -/
  | after (frames : List Frame) (node : Node)
  deriving Repr

/-- A value begins with this token. -/
def Progress.beginValue (frames : List Frame) : Token → Option Progress
  | .null => some (.after frames .null)
  | .bool truth => some (.after frames (.bool truth))
  | .number meaning => some (.after frames (.number meaning))
  | .string text => some (.after frames (.string text))
  | .openArray => some (.firstItem frames)
  | .openObject => some (.firstKey frames)
  | _ => none

/-- The progress behind one more token. -/
def Progress.step : Progress → Token → Option Progress
  | .value frames, token => beginValue frames token
  | .firstItem frames, .closeArray => some (.after frames (.array []))
  | .firstItem frames, token => beginValue (.array [] :: frames) token
  | .firstKey frames, .closeObject => some (.after frames (.object []))
  | .firstKey frames, .string name => some (.colon frames [] name)
  | .key frames members, .string name => some (.colon frames members name)
  | .colon frames members name, .colon => some (.value (.object members name :: frames))
  | .after (.array items :: frames) node, .comma => some (.value (.array (node :: items) :: frames))
  | .after (.array items :: frames) node, .closeArray =>
    some (.after frames (.array (node :: items).reverse))
  | .after (.object members name :: frames) node, .comma => some (.key frames ((name, node) :: members))
  | .after (.object members name :: frames) node, .closeObject =>
    some (.after frames (.object ((name, node) :: members).reverse))
  | _, _ => none

/-- The tree, if the text may end here. -/
def Progress.finished : Progress → Option Node
  | .after [] node => some node
  | _ => none

def Node.ofTokens? (tokens : List Token) : Option Node :=
  (tokens.foldlM Progress.step (.value [])).bind Progress.finished

def Node.ofBytes? (bytes : Bytes) : Option Node := (tokens? bytes).bind Node.ofTokens?

mutual

def Node.ofValue : Value → Node
  | .null => .null
  | .bool value => .bool value
  | .number value => .number (some value)
  | .string value => .string (some value)
  | .array items => .array (nodesOfItems items)
  | .object members => .object (nodesOfMembers members)

def nodesOfItems : List Value → List Node
  | [] => []
  | item :: rest => Node.ofValue item :: nodesOfItems rest

def nodesOfMembers : List (String × Value) → List (Option String × Node)
  | [] => []
  | (key, value) :: rest => (some key, Node.ofValue value) :: nodesOfMembers rest

end

end TryConfirmCancel.Json
