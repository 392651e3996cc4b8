/-
**The grammar of JSON text.**

The tokens that a tree is written with are the grammar: brackets around items or members, a comma between two of
them, and a colon behind a key. The parser works on a stack and never sees a tree before its last bracket, so what
it has taken is read off its progress.

* `Node.tokens`: the tokens of a tree;
* `taken_step`, `taken_foldlM`: whatever the parser takes stands in its progress, and nothing else does;
* `foldlM_node`: the tokens of a tree lead to it from wherever a value may begin;
* `ofTokens?_eq_some_iff`: so the parser accepts just the tokens of a tree, and answers with it;
* `Reader.Understands`: bytes are the JSON text of a tree that stands for a value; `Reader.ofBytes?_eq_some_iff`: just
  then a reader answers with this value.
-/

import TryConfirmCancel.Json.Reader

namespace TryConfirmCancel.Json

/-! ### Lists between commas -/

section Commas

variable {α : Type} (separator last : List α) (lists : List (List α))

/-- The first list, and every further one behind a separator. -/
theorem intercalate_cons (first : List α) :
    separator.intercalate (first :: lists) = first ++ lists.flatMap (separator ++ ·) := by
  induction lists generalizing first with
  | nil => simp
  | cons second rest ih => rw [List.intercalate_cons_cons, ih, List.flatMap_cons, List.append_assoc, List.append_assoc]

/-- Every list with a separator behind it, and the last one without. -/
theorem intercalate_concat :
    separator.intercalate (lists ++ [last]) = lists.flatMap (· ++ separator) ++ last := by
  induction lists with
  | nil => simp
  | cons first rest ih =>
    rw [List.flatMap_cons, List.append_assoc, ← ih]
    cases rest with
    | nil => exact List.intercalate_cons_cons
    | cons second others => exact List.intercalate_cons_cons

end Commas

/-! ### The tokens of a tree -/

mutual

/-- The tokens of a tree. -/
def Node.tokens : Node → List Token
  | .null => [.null]
  | .bool truth => [.bool truth]
  | .number meaning => [.number meaning]
  | .string text => [.string text]
  | .array items => .openArray :: (List.intercalate [.comma] (spelledItems items) ++ [.closeArray])
  | .object members => .openObject :: (List.intercalate [.comma] (spelledMembers members) ++ [.closeObject])

/-- The tokens of each item. -/
def spelledItems : List Node → List (List Token)
  | [] => []
  | item :: rest => item.tokens :: spelledItems rest

/-- The tokens of each member: its key, a colon and its value. -/
def spelledMembers : List (Option String × Node) → List (List Token)
  | [] => []
  | (key, node) :: rest => (.string key :: .colon :: node.tokens) :: spelledMembers rest

end

theorem spelledItems_append (items more : List Node) :
    spelledItems (items ++ more) = spelledItems items ++ spelledItems more := by
  induction items with
  | nil => rfl
  | cons item rest ih => rw [List.cons_append, spelledItems, spelledItems, ih, List.cons_append]

theorem spelledMembers_append (members more : List (Option String × Node)) :
    spelledMembers (members ++ more) = spelledMembers members ++ spelledMembers more := by
  induction members with
  | nil => rfl
  | cons member rest ih => rw [List.cons_append, spelledMembers, spelledMembers, ih, List.cons_append]

/-! ### What the parser has taken -/

/-- Items with a comma behind each. -/
def itemsTaken (items : List Node) : List Token := (spelledItems items).flatMap (· ++ [.comma])

/-- Members with a comma behind each. -/
def membersTaken (members : List (Option String × Node)) : List Token :=
  (spelledMembers members).flatMap (· ++ [.comma])

/-- The tokens of an open bracket up to where its next value begins. -/
def Frame.taken : Frame → List Token
  | .array items => .openArray :: itemsTaken items.reverse
  | .object members key => .openObject :: (membersTaken members.reverse ++ [.string key, .colon])

/-- The tokens of open brackets, the outermost first. -/
def framesTaken (frames : List Frame) : List Token := frames.reverse.flatMap Frame.taken

/-- The tokens that have led to a progress. -/
def Progress.taken : Progress → List Token
  | .value frames => framesTaken frames
  | .firstItem frames => framesTaken frames ++ [.openArray]
  | .firstKey frames => framesTaken frames ++ [.openObject]
  | .key frames members => framesTaken frames ++ .openObject :: membersTaken members.reverse
  | .colon frames members name => framesTaken frames ++ .openObject :: (membersTaken members.reverse ++ [.string name])
  | .after frames node => framesTaken frames ++ node.tokens

section Taken

variable (frames : List Frame) (items : List Node) (members : List (Option String × Node)) (key : Option String)
  (node : Node)

theorem framesTaken_cons (frame : Frame) : framesTaken (frame :: frames) = framesTaken frames ++ frame.taken := by
  simp [framesTaken]

theorem itemsTaken_concat : itemsTaken (items ++ [node]) = itemsTaken items ++ node.tokens ++ [.comma] := by
  simp [itemsTaken, spelledItems_append, spelledItems]

theorem membersTaken_concat : membersTaken (members ++ [(key, node)])
    = membersTaken members ++ .string key :: .colon :: node.tokens ++ [.comma] := by
  simp [membersTaken, spelledMembers_append, spelledMembers]

/-- An array ends with its last item. -/
theorem tokens_array : (Node.array (items ++ [node])).tokens
    = .openArray :: (itemsTaken items ++ node.tokens ++ [.closeArray]) := by
  rw [Node.tokens, spelledItems_append, spelledItems, spelledItems, intercalate_concat, itemsTaken]

/-- An object ends with its last member. -/
theorem tokens_object : (Node.object (members ++ [(key, node)])).tokens
    = .openObject :: (membersTaken members ++ .string key :: .colon :: node.tokens ++ [.closeObject]) := by
  rw [Node.tokens, spelledMembers_append, spelledMembers, spelledMembers, intercalate_concat, membersTaken]

theorem taken_beginValue {token : Token} {next : Progress} (begun : Progress.beginValue frames token = some next) :
    next.taken = framesTaken frames ++ [token] := by
  cases token <;> cases begun <;> rfl

end Taken

/-- **One more token, and nothing else, is taken by a step.** -/
theorem taken_step {progress next : Progress} {token : Token} (stepped : progress.step token = some next) :
    next.taken = progress.taken ++ [token] := by
  unfold Progress.step at stepped
  split at stepped
  · exact taken_beginValue _ stepped
  · cases stepped
    simp [Progress.taken, Node.tokens, spelledItems]
  · rw [taken_beginValue _ stepped, framesTaken_cons]
    rfl
  · cases stepped
    simp [Progress.taken, Node.tokens, spelledMembers]
  · cases stepped
    simp [Progress.taken, membersTaken, spelledMembers]
  · cases stepped
    simp [Progress.taken]
  · cases stepped
    simp [Progress.taken, framesTaken_cons, Frame.taken]
  · cases stepped
    simp [Progress.taken, framesTaken_cons, Frame.taken, itemsTaken_concat]
  · cases stepped
    simp [Progress.taken, framesTaken_cons, Frame.taken, tokens_array]
  · cases stepped
    simp [Progress.taken, framesTaken_cons, Frame.taken, membersTaken_concat]
  · cases stepped
    simp [Progress.taken, framesTaken_cons, Frame.taken, tokens_object]
  · cases stepped

/-- Whatever a run of the parser takes stands in the progress that it makes. -/
theorem taken_foldlM {tokens : List Token} {progress final : Progress}
    (run : tokens.foldlM Progress.step progress = some final) : final.taken = progress.taken ++ tokens := by
  induction tokens generalizing progress with
  | nil =>
    cases run
    rw [List.append_nil]
  | cons token rest ih =>
    obtain ⟨next, stepped, behind⟩ := Option.bind_eq_some_iff.mp run
    rw [ih behind, taken_step stepped, List.append_assoc, List.singleton_append]

/-! ### The tokens of a tree lead to it -/

/-- An array may begin with a value instead of its end. -/
theorem step_firstItem {frames : List Frame} {token : Token} (other : token ≠ .closeArray) :
    Progress.step (.firstItem frames) token = Progress.step (.value (.array [] :: frames)) token := by
  cases token <;> first | rfl | exact absurd rfl other

theorem tokens_cons (node : Node) : ∃ token rest, node.tokens = token :: rest ∧ token ≠ .closeArray := by
  cases node <;> exact ⟨_, _, rfl, by simp⟩

theorem foldlM_firstItem (node : Node) (frames : List Frame) :
    node.tokens.foldlM Progress.step (.firstItem frames)
      = node.tokens.foldlM Progress.step (.value (.array [] :: frames)) := by
  obtain ⟨token, rest, tokens, other⟩ := tokens_cons node
  rw [tokens, List.foldlM_cons, List.foldlM_cons, step_firstItem other]

mutual

theorem foldlM_node : ∀ (node : Node) (frames : List Frame),
    node.tokens.foldlM Progress.step (.value frames) = some (.after frames node)
  | .null, _ => rfl
  | .bool _, _ => rfl
  | .number _, _ => rfl
  | .string _, _ => rfl
  | .array [], _ => rfl
  | .array (item :: items), frames => by
    have opened : Progress.step (.value frames) .openArray = some (.firstItem frames) := rfl
    rw [Node.tokens, spelledItems, intercalate_cons, List.foldlM_cons, opened, Option.bind_eq_bind,
      Option.bind_some, List.append_assoc, List.foldlM_append, foldlM_firstItem, foldlM_node item,
      Option.bind_eq_bind, Option.bind_some, foldlM_furtherItems items]
    rfl
  | .object [], _ => rfl
  | .object ((key, node) :: members), frames => by
    have opened : [.openObject, .string key, .colon].foldlM Progress.step (.value frames)
        = some (.value (.object [] key :: frames)) := rfl
    have tokens : (Node.object ((key, node) :: members)).tokens = [.openObject, .string key, .colon]
        ++ (node.tokens ++ ((spelledMembers members).flatMap ([.comma] ++ ·) ++ [.closeObject])) := by
      simp [Node.tokens, spelledMembers, intercalate_cons]
    rw [tokens, List.foldlM_append, opened, Option.bind_eq_bind, Option.bind_some, List.foldlM_append,
      foldlM_node node, Option.bind_eq_bind, Option.bind_some, foldlM_furtherMembers members]
    rfl

/-- Further items and the end of their array. -/
theorem foldlM_furtherItems : ∀ (items : List Node) (frames : List Frame) (done : List Node) (node : Node),
    ((spelledItems items).flatMap ([Token.comma] ++ ·) ++ [Token.closeArray]).foldlM Progress.step
        (.after (.array done :: frames) node)
      = some (.after frames (.array ((node :: done).reverse ++ items)))
  | [], frames, done, node => by simp [spelledItems, Progress.step]
  | item :: items, frames, done, node => by
    have comma : Progress.step (.after (.array done :: frames) node) .comma
        = some (.value (.array (node :: done) :: frames)) := rfl
    rw [spelledItems, List.flatMap_cons, List.append_assoc, List.append_assoc, List.singleton_append,
      List.foldlM_cons, comma, Option.bind_eq_bind, Option.bind_some, List.foldlM_append, foldlM_node item,
      Option.bind_eq_bind, Option.bind_some, foldlM_furtherItems items]
    simp

/-- Further members and the end of their object. -/
theorem foldlM_furtherMembers : ∀ (members : List (Option String × Node)) (frames : List Frame)
    (done : List (Option String × Node)) (name : Option String) (node : Node),
    ((spelledMembers members).flatMap ([Token.comma] ++ ·) ++ [Token.closeObject]).foldlM Progress.step
        (.after (.object done name :: frames) node)
      = some (.after frames (.object (((name, node) :: done).reverse ++ members)))
  | [], frames, done, name, node => by simp [spelledMembers, Progress.step]
  | (key, value) :: members, frames, done, name, node => by
    have behind : [.comma, .string key, .colon].foldlM Progress.step (.after (.object done name :: frames) node)
        = some (.value (.object ((name, node) :: done) key :: frames)) := rfl
    have tokens : (spelledMembers ((key, value) :: members)).flatMap ([.comma] ++ ·) ++ [.closeObject]
        = [.comma, .string key, .colon]
          ++ (value.tokens ++ ((spelledMembers members).flatMap ([.comma] ++ ·) ++ [.closeObject])) := by
      simp [spelledMembers]
    rw [tokens, List.foldlM_append, behind, Option.bind_eq_bind, Option.bind_some, List.foldlM_append,
      foldlM_node value, Option.bind_eq_bind, Option.bind_some, foldlM_furtherMembers members]
    simp

end

/-! ### The parser accepts the grammar -/

theorem finished_eq_some_iff {progress : Progress} {node : Node} :
    progress.finished = some node ↔ progress = .after [] node := by
  unfold Progress.finished
  split
  · simp
  · rename_i other
    refine ⟨fun none => (by cases none), fun same => absurd same (other node)⟩

/-- **The parser accepts just the tokens of a tree, and answers with this tree.** -/
theorem ofTokens?_eq_some_iff {tokens : List Token} {node : Node} :
    Node.ofTokens? tokens = some node ↔ tokens = node.tokens := by
  constructor
  · intro read
    obtain ⟨final, run, finished⟩ := Option.bind_eq_some_iff.mp read
    cases finished_eq_some_iff.mp finished
    exact (taken_foldlM run).symm
  · rintro rfl
    rw [Node.ofTokens?, foldlM_node]
    rfl

/-- A text is read as a tree just if its tokens are those of the tree. -/
theorem Node.ofBytes?_eq_some_iff {bytes : Bytes} {node : Node} :
    Node.ofBytes? bytes = some node ↔ tokens? bytes = some node.tokens := by
  simp only [Node.ofBytes?, Option.bind_eq_some_iff, ofTokens?_eq_some_iff, exists_eq_right]

/-- Bytes are JSON text of the type of a reader: all of them together are the tokens of one tree, and this tree stands
for a value. -/
def Reader.Understands {α : Type} (reader : Reader α) (bytes : Bytes) (value : α) : Prop :=
  ∃ node : Node, tokens? bytes = some node.tokens ∧ reader Reader.deepest node = some value

section Understanding

variable {α : Type} {reader : Reader α} {bytes : Bytes} {value other : α}

/-- **A reader answers with a value just if the bytes are JSON text that stands for it.** -/
theorem Reader.ofBytes?_eq_some_iff : reader.ofBytes? bytes = some value ↔ reader.Understands bytes value := by
  simp only [Reader.ofBytes?, Option.bind_eq_some_iff, Node.ofBytes?_eq_some_iff, Understands]

theorem Reader.ofBytes?_eq_none_iff : reader.ofBytes? bytes = none ↔ ∀ value, ¬ reader.Understands bytes value := by
  simp only [Option.eq_none_iff_forall_ne_some, ne_eq, Reader.ofBytes?_eq_some_iff]

/-- Bytes stand for one value. -/
theorem Reader.Understands.unique (first : reader.Understands bytes value) (second : reader.Understands bytes other) :
    value = other :=
  Option.some.inj ((ofBytes?_eq_some_iff.mpr first).symm.trans (ofBytes?_eq_some_iff.mpr second))

end Understanding

end TryConfirmCancel.Json
