/-
**Which requests HTTP can express.**

* `Headers.isControl`: the characters that no header holds; `isSome_writable?_iff`: any text without them may be
  written;
* `Post.isSome_of?_iff`: a request can be expressed if its URL can be read and each of its headers may be written;
* `Client.posted_ne_nil_iff`: something is posted just if there is time for it and HTTP can express it;
* `Client.call_unexpressed`: what HTTP cannot express shows as a failure of the network, or as time that ran out.
-/

import TryConfirmCancel.Proofs.Bytes.Characters
import TryConfirmCancel.Proofs.Rpc.Posted

namespace TryConfirmCancel

/-! ### Texts that may be written -/

namespace Headers

/-- A control that no header holds; a tab is one that may stand there. -/
def isControl (char : Char) : Bool := (char.toNat < 0x20 && char.toNat != 0x09) || char.toNat == 0x7f

/-- The bytes of a character may stand in a header just if it is no such control. -/
theorem all_isWritable_encode (char : Char) :
    (String.utf8EncodeChar char).all isWritable = !isControl char := by
  by_cases ascii : char.toNat < 0x80
  · have small : ∀ code < 0x80, isWritable (.ofNat code)
        = !((decide (code < 0x20) && code != 0x09) || code == 0x7f) := by decide
    rw [Utf8.encode_ascii ascii, List.all_cons, List.all_nil, Bool.and_true]
    exact small _ ascii
  · have beyond : 0x80 ≤ char.toNat := Nat.le_of_not_lt ascii
    have free : isControl char = false := by
      simp only [isControl, Bool.or_eq_false_iff, Bool.and_eq_false_iff, decide_eq_false_iff_not, beq_eq_false_iff_ne]
      omega
    rw [free, List.all_eq_true.mpr]
    · rfl
    · intro byte inside
      have above := Utf8.le_of_mem_encode beyond inside
      have visible : 0x20 ≤ byte := by
        rw [UInt8.le_iff_toNat_le]
        exact Nat.le_trans (by decide) above
      have other : byte ≠ 0x7f := by
        rintro rfl
        exact absurd above (by decide)
      simp [isWritable, visible, other]

/-- **A text may stand in a header just if it holds no control but tabs.** -/
theorem isSome_writable?_iff {text : String} :
    (writable? text).isSome = true ↔ ∀ char ∈ text.toList, isControl char = false := by
  have bytes : (Utf8.ofText text).all isWritable = true ↔ ∀ char ∈ text.toList, isControl char = false := by
    rw [Utf8.ofText_eq_ofChars, Utf8.ofChars, List.all_flatMap, List.all_eq_true]
    simp only [all_isWritable_encode, Bool.not_eq_true']
  rw [← bytes, writable?]
  split
  · rename_i writable
    exact iff_of_true rfl writable
  · rename_i unwritable
    exact iff_of_false Bool.false_ne_true unwritable

/-- A number may stand in a header. -/
theorem isSome_writable?_toString (number : Int) : (writable? (toString number)).isSome = true := by
  have free {char : Char} (digit : char.isDigit = true) : isControl char = false := by
    have above : 0x30 ≤ char.toNat ∧ char.toNat ≤ 0x39 := by
      simpa [Char.isDigit, UInt32.le_iff_toNat_le] using digit
    simp only [isControl, Bool.or_eq_false_iff, Bool.and_eq_false_iff, decide_eq_false_iff_not, beq_eq_false_iff_ne]
    omega
  have digits (number : Nat) : ∀ char ∈ (Nat.repr number).toList, isControl char = false := by
    intro char inside
    rw [Nat.repr, String.toList_ofList] at inside
    exact free (Nat.isDigit_of_mem_toDigits (by decide) (by decide) inside)
  rw [isSome_writable?_iff]
  cases number with
  | ofNat number => exact digits number
  | negSucc number =>
    show ∀ char ∈ ("-" ++ Nat.repr (number + 1)).toList, isControl char = false
    intro char inside
    rcases List.mem_append.mp (String.toList_append ▸ inside) with sign | digit
    · cases List.mem_singleton.mp sign
      rfl
    · exact digits _ char digit

end Headers

namespace Rpc

/-! ### Requests that can be expressed -/

namespace Post

/-- A header that HTTP allows. -/
theorem isSome_field?_iff {name value : String} :
    (field? name value).isSome = true ↔ isName name = true ∧ (Headers.writable? value).isSome = true := by
  rw [field?]
  split
  · rename_i named
    simp [named]
  · rename_i unnamed
    simp [unnamed]

theorem isSome_mapM_iff {α β : Type} {convert : α → Option β} {items : List α} :
    (items.mapM convert).isSome = true ↔ ∀ item ∈ items, (convert item).isSome = true := by
  induction items with
  | nil => simp
  | cons item rest hypothesis =>
    rw [List.mapM_cons, List.forall_mem_cons, ← hypothesis]
    cases convert item with
    | none => simp
    | some converted => cases rest.mapM convert <;> simp

/-- **A request can be expressed just if its URL can be read and HTTP allows each of its headers.** -/
theorem isSome_of?_iff {settings : Settings} {request : Request} :
    (of? settings request).isSome = true ↔ (Url.parse? (settings.urlOf request.target)).isSome = true ∧
      ∀ field ∈ headersOf request, (field? field.1 field.2).isSome = true := by
  rw [← isSome_mapM_iff, of?]
  cases Url.parse? (settings.urlOf request.target) with
  | none => simp
  | some url => cases (headersOf request).mapM fun field => field? field.1 field.2 <;> simp

end Post

/-- The request without its own headers. -/
def Request.bare (request : Request) : Request := { request with headers := ∅ }

/-- The request without some of its headers. -/
def Request.without (request : Request) (names : List String) : Request :=
  { request with headers := request.headers.filter fun name _ => !names.contains name }

section Headers

variable {settings : Settings} {request : Request}

theorem Post.isSome_of?_bare : (of? settings request).isSome = true ↔ (of? settings request.bare).isSome = true ∧
    ∀ name value, request.headers.get? name = some value → (field? name value).isSome = true := by
  have own : headersOf request = headersOf request.bare ++ request.headers.entries :=
    (congrArg (· ++ _) (List.append_nil _)).symm
  rw [isSome_of?_iff, isSome_of?_iff, own, List.forall_mem_append, ← and_assoc]
  exact and_congr_right fun _ => ⟨fun all name value found => all _ (Dict.get?_eq_some_iff.mp found),
    fun all field inside => all _ _ (Dict.get?_eq_some_iff.mpr inside)⟩

theorem Request.get?_without {names : List String} {name value : String} :
    (request.without names).headers.get? name = some value ↔
      name ∉ names ∧ request.headers.get? name = some value := by
  rw [without, Dict.get?_filter]
  cases request.headers.get? name <;> by_cases inside : name ∈ names <;> simp [inside]

/-- **What HTTP can express without some headers, it can express with them if it allows each of them.** -/
theorem Post.isSome_of?_without (names : List String) :
    (of? settings request).isSome = true ↔ (of? settings (request.without names)).isSome = true ∧
      ∀ name ∈ names, ∀ value, request.headers.get? name = some value → (field? name value).isSome = true := by
  rw [isSome_of?_bare, @isSome_of?_bare settings (request.without names), and_assoc]
  refine and_congr_right fun _ => ⟨fun all => ⟨fun name value found => ?_, fun name _ => all name⟩, ?_⟩
  · exact all name value (Request.get?_without.mp found).2
  · rintro ⟨others, given⟩ name value found
    by_cases inside : name ∈ names
    · exact given name inside value found
    · exact others name value (Request.get?_without.mpr ⟨inside, found⟩)

end Headers

namespace Client

section Calls

variable {σ : Type} (client : Client σ) {request : Request}

/-- **Something is posted just if there is time for it and HTTP can express it.** -/
theorem posted_ne_nil_iff {world : σ} : client.posted request world ≠ [] ↔
    request.timeout ≠ 0 ∧ (Post.of? client.settings request).isSome = true := by
  constructor
  · intro posts
    obtain ⟨post, inside⟩ := List.exists_mem_of_ne_nil _ posts
    refine ⟨fun none => posts ?_, by rw [client.of?_of_mem_posted inside]; rfl⟩
    have expired : client.tracked.left request (client.transport.now world) ⟨world, []⟩ = 0 := by
      show request.timeout - _ = 0
      rw [none, Nat.zero_sub]
    exact congrArg (fun result => result.2.posted) ((client.tracked.goes request (client.transport.now world)
      request.retries 0 client.settings.initialBackoff ⟨world, []⟩).eq (.expired expired))
  · rintro ⟨limited, expressed⟩
    obtain ⟨post, made⟩ := Option.isSome_iff_exists.mp expressed
    exact List.ne_nil_of_mem (client.mem_posted_of_of? limited made)

variable {client} in
theorem Goes.unexpressed {start : Nanoseconds} {repetitions attempts backoff : Nat} {world : σ}
    {result : Except Failure Response × σ} (unexpressed : Post.of? client.settings request = none)
    (goes : client.Goes request start repetitions attempts backoff world result) :
    result.1 = .error (.network "the request cannot be sent") ∨
      ∃ attempts, result.1 = .error (spent request attempts) := by
  induction goes with
  | expired expired => exact .inr ⟨_, rfl⟩
  | last opened tried final =>
    rw [attempt, unexpressed] at tried
    cases tried
    exact .inl rfl
  | again opened tried passing rest hypothesis => exact hypothesis

/-- **A call that HTTP cannot express shows as a failure of the network**, or as time that ran out over the
repetitions. -/
theorem call_unexpressed (unexpressed : Post.of? client.settings request = none) (world : σ) :
    (client.call request world).1 = .error (.network "the request cannot be sent") ∨
      ∃ attempts, (client.call request world).1 = .error (spent request attempts) :=
  (client.goes request (client.transport.now world) request.retries 0 client.settings.initialBackoff
    world).unexpressed unexpressed

end Calls

end Client

end Rpc

end TryConfirmCancel
