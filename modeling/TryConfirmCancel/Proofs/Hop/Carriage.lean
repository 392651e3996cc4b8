/-
**What a caller hands to its callee.**

* `first?_inject`, `first?_inject_text`: the headers of a request carry each text of the caller;
* `Headers.legible`, `headerText?_inject_text`: what the callee reads of each text;
* `headerText?_inject`: it reads a portable text as it was;
* `extract_of_budget`, `extract_eq_ok`: where the fields of an extracted context come from;
* `extract_inject`: what the callee's context has of the caller's.
-/

import TryConfirmCancel.Proofs.Hop.Portable
import TryConfirmCancel.Proofs.Text.Numerals

namespace TryConfirmCancel

/-! ### Header fields -/

namespace Headers

theorem first?_set (headers : Headers) (name query : String) (value : Bytes) :
    (headers.set name value).first? query = if name = query then some value else headers.first? query := by
  have kept : (headers.fields.filter (·.1 != name)).find? (·.1 == query)
      = if name = query then none else headers.fields.find? (·.1 == query) := by
    induction headers.fields with
    | nil => simp
    | cons field rest ih =>
      by_cases replaced : field.1 = name
      · rw [List.filter_cons_of_neg (by simp [replaced]), ih]
        by_cases same : name = query <;> simp [replaced, same]
      · rw [List.filter_cons_of_pos (by simp [replaced])]
        by_cases here : field.1 = query
        · simp [here, show name ≠ query from fun same => replaced (here.trans same.symm)]
        · rw [List.find?_cons_of_neg (by simp [here]), List.find?_cons_of_neg (by simp [here]), ih]
  rw [first?, set, List.find?_append, kept, first?]
  by_cases same : name = query <;> simp [same]

/-- The bytes that stand for a text in a header, if any do. -/
def written? (text : String) : Option Bytes := if text.isEmpty then none else writable? text

theorem readable?_ofText {text : String} (portable : Portable text) :
    readable? (Utf8.ofText text) = some text := by
  rw [readable?, if_pos portable.readable, Utf8.text?_ofText]

theorem isWritable_of_isReadable {byte : UInt8} (readable : isReadable byte = true) :
    isWritable byte = true := by
  simp only [isReadable, isWritable, Bool.or_eq_true, Bool.and_eq_true, decide_eq_true_eq] at readable ⊢
  rcases readable with ⟨low, high⟩ | tab
  · refine .inl ⟨low, ?_⟩
    rw [bne_iff_ne]
    rintro rfl
    exact absurd high (by decide)
  · exact .inr tab

theorem written?_of_portable {text : String} (portable : Portable text) :
    written? text = if text.isEmpty then none else some (Utf8.ofText text) := by
  have writable : (Utf8.ofText text).all isWritable = true := by
    rw [List.all_eq_true]
    exact fun byte member => isWritable_of_isReadable (List.all_eq_true.mp portable.readable byte member)
  rw [written?, writable?, if_pos writable]

/-- What is read of a text that was written into a header: without the white space around it, and nothing at all if
it holds anything but visible ASCII, blanks and tabs. -/
def legible (text : String) : String := if (Utf8.ofText text).all isReadable then Text.trim text else ""

/-- A header is written for the text: the text is not empty, and a header can carry it. -/
def isWritten (text : String) : Bool := (written? text).isSome

theorem legible_of_not_written {text : String} (unwritten : isWritten text = false) : legible text = "" := by
  rw [isWritten, written?] at unwritten
  split at unwritten
  · rename_i empty
    rw [String.isEmpty_iff.mp empty]
    rfl
  · rw [legible, if_neg]
    intro readable
    rw [writable?, if_pos] at unwritten
    · cases unwritten
    · exact List.all_eq_true.mpr fun byte member =>
        isWritable_of_isReadable (List.all_eq_true.mp readable byte member)

theorem readable?_of_written {text : String} {value : Bytes} (written : written? text = some value) :
    readable? value = if (Utf8.ofText text).all isReadable then some text else none := by
  rw [written?] at written
  split at written
  · cases written
  · rw [writable?] at written
    split at written
    · cases written
      rw [readable?, Utf8.text?_ofText]
    · cases written

theorem legible_of_portable {text : String} (portable : Portable text) : legible text = text := by
  rw [legible, if_pos portable.readable, portable.trimmed]

/-- What is read of a text is the text just if it is portable. -/
theorem legible_eq_iff {text : String} (present : text ≠ "") : legible text = text ↔ Portable text := by
  refine ⟨fun same => ?_, legible_of_portable⟩
  unfold legible at same
  by_cases readable : (Utf8.ofText text).all isReadable = true
  · rw [if_pos readable] at same
    exact ⟨readable, same⟩
  · rw [if_neg readable] at same
    exact absurd same.symm present

theorem isWritten_of_portable {text : String} (portable : Portable text) (present : text ≠ "") :
    isWritten text = true := by
  have full : text.isEmpty = false := by simpa using present
  rw [isWritten, written?_of_portable portable, full]
  rfl

end Headers

/-- A text unless it is empty. -/
def Text.nonEmpty? (text : String) : Option String := if text.isEmpty then none else some text

theorem Text.getD_nonEmpty? (text standard : String) :
    (nonEmpty? text).getD standard = if text = "" then standard else text := by
  rw [nonEmpty?]
  by_cases empty : text = "" <;> simp [empty]

theorem Text.getD_nonEmpty?_empty (text : String) : (nonEmpty? text).getD "" = text := by
  rw [getD_nonEmpty?]
  by_cases empty : text = "" <;> simp [empty]

/-- The names of all headers that carry a context. -/
def HeaderName.all : List String :=
  [traceId, spanId, replyTo, budget, rootXid, parentXid, branchXid, agentAddress, formerAgentAddress,
    forceCancel]

namespace Context

open Headers

theorem first?_injectText (headers : Headers) (name query text : String) :
    (injectText headers name text).first? query
      = if name = query then (written? text).or (headers.first? query) else headers.first? query := by
  rw [injectText, written?]
  by_cases empty : text.isEmpty
  · simp [empty]
  · cases bytes : writable? text with
    | none => simp [empty]
    | some value =>
      simp only [empty]
      rw [if_neg (by decide), first?_set]
      by_cases same : name = query <;> simp [same]

/-- Texts that are injected one after the other under different names. -/
theorem first?_foldl_injectText {texts : List (String × String)} {query : String}
    (absent : query ∉ texts.map Prod.fst) (headers : Headers) :
    (texts.foldl (fun headers entry => injectText headers entry.1 entry.2) headers).first? query
      = headers.first? query := by
  induction texts generalizing headers with
  | nil => rfl
  | cons entry rest ih =>
    rw [List.map_cons, List.mem_cons, not_or] at absent
    rw [List.foldl_cons, ih absent.2, first?_injectText, if_neg (Ne.symm absent.1)]

theorem first?_foldl_injectText_mem {texts : List (String × String)}
    (distinct : (texts.map Prod.fst).Nodup) {name text : String} (member : (name, text) ∈ texts)
    (headers : Headers) :
    (texts.foldl (fun headers entry => injectText headers entry.1 entry.2) headers).first? name
      = (written? text).or (headers.first? name) := by
  induction texts generalizing headers with
  | nil => cases member
  | cons entry rest ih =>
    rw [List.map_cons, List.nodup_cons] at distinct
    rw [List.foldl_cons]
    rcases List.mem_cons.mp member with rfl | inside
    · rw [first?_foldl_injectText distinct.1, first?_injectText, if_pos rfl]
    · have other : entry.1 ≠ name := by
        rintro rfl
        exact distinct.1 (List.mem_map.mpr ⟨_, inside, rfl⟩)
      rw [ih distinct.2 inside, first?_injectText, if_neg other]

/-- The texts that a context hands to a callee, by the headers that carry them. -/
def carriedTexts (context : Context) : List (String × String) :=
  let transaction := context.transaction.forCallee
  [(HeaderName.traceId, context.span.traceId), (HeaderName.spanId, context.span.spanId),
    (HeaderName.replyTo, context.span.replyTo), (HeaderName.rootXid, transaction.rootXid),
    (HeaderName.parentXid, transaction.parentXid), (HeaderName.branchXid, transaction.branchXid),
    (HeaderName.agentAddress, transaction.agentAddress),
    (HeaderName.formerAgentAddress, transaction.formerAgentAddress)]

theorem carriedTexts_names (context : Context) :
    (context.carriedTexts.map Prod.fst).Nodup ∧ HeaderName.budget ∉ context.carriedTexts.map Prod.fst ∧
      HeaderName.forceCancel ∉ context.carriedTexts.map Prod.fst := by
  simp only [carriedTexts, List.map_cons, List.map_nil]
  decide

/-- The budget stands in the header of its own, and forcing a cancel changes no other header. -/
theorem first?_inject (context : Context) (headers : Headers) {query : String}
    (other : query ≠ HeaderName.forceCancel) :
    (context.inject headers).first? query
      = if HeaderName.budget = query then some (Utf8.ofText (Text.Numeral.render context.span.budget))
        else (context.carriedTexts.foldl (fun headers entry => injectText headers entry.1 entry.2)
          headers).first? query := by
  rw [inject]
  split
  · rw [first?_set, if_neg (Ne.symm other), first?_set]
    rfl
  · rw [first?_set]
    rfl

/-- A text is carried by its header; one that no header can carry leaves what was there before. -/
theorem first?_inject_text {context : Context} {name text : String}
    (carried : (name, text) ∈ context.carriedTexts) (headers : Headers) :
    (context.inject headers).first? name = (written? text).or (headers.first? name) := by
  obtain ⟨distinct, noBudget, noForce⟩ := context.carriedTexts_names
  have inside : name ∈ context.carriedTexts.map Prod.fst := List.mem_map.mpr ⟨_, carried, rfl⟩
  have notForce : name ≠ HeaderName.forceCancel := by
    rintro rfl
    exact noForce inside
  have notBudget : HeaderName.budget ≠ name := by
    rintro rfl
    exact noBudget inside
  rw [first?_inject _ _ notForce, if_neg notBudget]
  exact first?_foldl_injectText_mem distinct carried headers

/-- Under the name of a text stands the text if a header was written for it, and what stood there before if not. -/
theorem headerText?_inject_text {caller : Context} {name text : String}
    (carried : (name, text) ∈ caller.carriedTexts) (headers : Headers) :
    headerText? (caller.inject headers) name
      = if isWritten text then Text.nonEmpty? (legible text) else headerText? headers name := by
  rw [headerText?, firstText?, first?_inject_text carried, isWritten]
  cases written : written? text with
  | none => rfl
  | some value =>
    simp only [Option.some_or, Option.bind_some, Option.isSome_some, if_true]
    rw [readable?_of_written written, legible]
    split
    · rw [Text.nonEmpty?, Option.map_some, Option.filter_some]
      cases (Text.trim text).isEmpty <;> rfl
    · rfl

/-- A portable text that is not empty is read as it was, whatever the headers held before. -/
theorem headerText?_inject {context : Context} {name text : String}
    (carried : (name, text) ∈ context.carriedTexts) (portable : Portable text) (present : text ≠ "")
    (headers : Headers) : headerText? (context.inject headers) name = some text := by
  rw [headerText?_inject_text carried, if_pos (isWritten_of_portable portable present),
    legible_of_portable portable, Text.nonEmpty?, if_neg (by simpa using present)]

/-- The budget is read as the numeral that was written. -/
theorem headerText?_inject_budget (context : Context) (headers : Headers) :
    headerText? (context.inject headers) HeaderName.budget
      = some (Text.Numeral.render context.span.budget) := by
  have portable := portable_render context.span.budget
  have digits : (Text.Numeral.render context.span.budget).isEmpty = false := by
    rw [← Bool.not_eq_true, String.isEmpty_iff]
    intro empty
    have chars := congrArg String.toList empty
    rw [Text.Numeral.render, String.toList_ofList] at chars
    exact Nat.toDigits_ne_nil chars
  rw [headerText?, Headers.firstText?, first?_inject _ _ (by decide), if_pos rfl]
  simp [readable?_ofText portable, portable.trimmed, digits]

/-! ### The context of a callee -/

/-- What was read from a header is portable and not empty. -/
theorem portable_of_headerText? {headers : Headers} {name text : String}
    (found : headerText? headers name = some text) : Portable text ∧ text ≠ "" := by
  rw [headerText?, Option.filter_eq_some_iff, Option.map_eq_some_iff] at found
  obtain ⟨⟨held, first, rfl⟩, present⟩ := found
  obtain ⟨bytes, -, read⟩ := Option.bind_eq_some_iff.mp first
  refine ⟨⟨?_, Text.trim_trim held⟩, by simpa using present⟩
  rw [Headers.readable?] at read
  split at read
  · rename_i readable
    rw [Utf8.eq_ofText_of_text? read, Utf8.ofText_eq_ofChars] at readable
    rw [Utf8.ofText_eq_ofChars, List.all_eq_true]
    intro byte member
    obtain ⟨char, inside, encoded⟩ := List.mem_flatMap.mp member
    exact List.all_eq_true.mp readable byte
      (List.mem_flatMap.mpr ⟨char, Text.mem_of_mem_trim inside, encoded⟩)
  · cases read

/-- The texts that a callee has from its caller, those of its span that name hops aside. -/
inductive Inherited
  | replyTo
  | rootXid
  | parentXid
  | branchXid
  | agentAddress
  | formerAgentAddress
  deriving DecidableEq

namespace Inherited

/-- The header that carries a text. -/
def header : Inherited → String
  | replyTo => HeaderName.replyTo
  | rootXid => HeaderName.rootXid
  | parentXid => HeaderName.parentXid
  | branchXid => HeaderName.branchXid
  | agentAddress => HeaderName.agentAddress
  | formerAgentAddress => HeaderName.formerAgentAddress

/-- The text in a context. -/
def of : Inherited → Context → String
  | replyTo, context => context.span.replyTo
  | rootXid, context => context.transaction.rootXid
  | parentXid, context => context.transaction.parentXid
  | branchXid, context => context.transaction.branchXid
  | agentAddress, context => context.transaction.agentAddress
  | formerAgentAddress, context => context.transaction.formerAgentAddress

/-- The header carries what the callee is to receive. -/
theorem mem_carriedTexts (field : Inherited) (caller : Context) (spanId : String) :
    (field.header, field.of (caller.downstream spanId)) ∈ caller.carriedTexts := by
  cases field <;> simp [header, of, carriedTexts, downstream, Context.of, Span.child]

end Inherited

/-- What headers hold under a name, as text. -/
def held (headers : Headers) (name : String) : String := (headerText? headers name).getD ""

/-- Headers that demand a cancel. -/
def demandsCancel (headers : Headers) : Bool := Text.sameLetters (held headers HeaderName.forceCancel) "true"

section Extracted

variable {freshTrace freshSpan : String} {headers : Headers} {standard : Nanoseconds} {context : Context}

variable (freshTrace freshSpan) in
/-- Where the fields of a context come from whose budget is read. -/
theorem extract_of_budget {budget : Nat} (read : headerBudget headers standard = .ok budget) :
    ∃ callee, extract freshTrace freshSpan headers standard = .ok callee ∧
      callee.span.traceId = (headerText? headers HeaderName.traceId).getD freshTrace ∧
      callee.span.spanId = freshSpan ∧
      callee.span.parentSpanId = (headerText? headers HeaderName.spanId).getD callee.span.traceId ∧
      callee.span.budget = budget ∧
      (∀ field : Inherited, field.of callee = held headers field.header) ∧
      callee.transaction.forceCancel = demandsCancel headers ∧
      callee.requestHeaders = headers.toDict := by
  rw [extract, read]
  exact ⟨_, rfl, rfl, rfl, rfl, rfl, fun field => by cases field <;> rfl, rfl, rfl⟩

/-- Where the fields of an extracted context come from. -/
theorem extract_eq_ok (extracted : extract freshTrace freshSpan headers standard = .ok context) :
    context.span.traceId = (headerText? headers HeaderName.traceId).getD freshTrace ∧
    context.span.spanId = freshSpan ∧
    context.span.parentSpanId = (headerText? headers HeaderName.spanId).getD context.span.traceId ∧
    headerBudget headers standard = .ok context.span.budget ∧
    context.transaction.rootXid = (headerText? headers HeaderName.rootXid).getD "" ∧
    context.transaction.parentXid = (headerText? headers HeaderName.parentXid).getD "" ∧
    context.transaction.branchXid = (headerText? headers HeaderName.branchXid).getD "" ∧
    context.transaction.agentAddress = (headerText? headers HeaderName.agentAddress).getD "" ∧
    context.requestHeaders = headers.toDict := by
  cases read : headerBudget headers standard with
  | error fault =>
    rw [extract, read] at extracted
    cases extracted
  | ok budget =>
    obtain ⟨callee, made, traceId, spanId, parentSpanId, sameBudget, inherited, -, requestHeaders⟩ :=
      extract_of_budget freshTrace freshSpan read
    cases extracted.symm.trans made
    exact ⟨traceId, spanId, parentSpanId, congrArg Except.ok sameBudget.symm, inherited .rootXid,
      inherited .parentXid, inherited .branchXid, inherited .agentAddress, requestHeaders⟩

/-- The trace of an extracted context is portable if a new one would be. -/
theorem portable_traceId (extracted : extract freshTrace freshSpan headers standard = .ok context)
    (fresh : Portable freshTrace ∧ freshTrace ≠ "") :
    Portable context.span.traceId ∧ context.span.traceId ≠ "" := by
  rw [(extract_eq_ok extracted).1]
  cases found : headerText? headers HeaderName.traceId with
  | none => exact fresh
  | some text => exact portable_of_headerText? found

/-- **What the context of a callee has of its caller's**, if the caller has a branch and its
identifiers are portable. -/
theorem extract_inject {caller callee : Context} {carried : Headers}
    (identified : ∀ text ∈ [caller.span.traceId, caller.span.spanId, caller.transaction.rootXid,
      caller.transaction.branchXid, caller.transaction.agentAddress], Portable text ∧ text ≠ "")
    (extracted : extract freshTrace freshSpan (caller.inject carried) standard = .ok callee) :
    callee.span.traceId = caller.span.traceId ∧ callee.span.spanId = freshSpan ∧
    callee.span.parentSpanId = caller.span.spanId ∧ callee.span.budget = caller.span.budget ∧
    callee.transaction.rootXid = caller.transaction.rootXid ∧
    callee.transaction.parentXid = caller.transaction.branchXid ∧
    callee.transaction.branchXid = caller.transaction.branchXid ∧
    callee.transaction.agentAddress = caller.transaction.agentAddress := by
  obtain ⟨traceId, spanId, parentSpanId, budget, rootXid, parentXid, branchXid, agentAddress, -⟩ :=
    extract_eq_ok extracted
  simp only [List.forall_mem_cons] at identified
  obtain ⟨trace, span, root, branch, agent, -⟩ := identified
  have forCallee : caller.transaction.forCallee
      = { caller.transaction with parentXid := caller.transaction.branchXid } := by
    rw [Transaction.forCallee_eq, if_neg branch.2]
  have read : ∀ {name text : String}, (name, text) ∈ caller.carriedTexts → Portable text ∧ text ≠ "" →
      headerText? (caller.inject carried) name = some text :=
    fun handed held => headerText?_inject handed held.1 held.2 carried
  refine ⟨?_, spanId, ?_, ?_, ?_, ?_, ?_, ?_⟩
  · rw [traceId, read (by simp [carriedTexts]) trace, Option.getD_some]
  · rw [parentSpanId, read (by simp [carriedTexts]) span, Option.getD_some]
  · rw [headerBudget, headerText?_inject_budget] at budget
    simp only at budget
    cases parsed : Text.Numeral.parse maxWord64 (Text.Numeral.render caller.span.budget) with
    | error fault =>
      have refused : Except.error (HeaderFault.budget fault) = Except.ok callee.span.budget := by
        rwa [parsed] at budget
      cases refused
    | ok number =>
      have taken : Except.ok number = (Except.ok callee.span.budget : Except HeaderFault Nat) := by
        rwa [parsed] at budget
      cases taken
      exact Text.Numeral.eq_of_parse_render parsed
  · rw [rootXid, read (by simp [carriedTexts, forCallee]) root, Option.getD_some]
  · rw [parentXid, read (by simp [carriedTexts, forCallee]) branch, Option.getD_some]
  · rw [branchXid, read (by simp [carriedTexts, forCallee]) branch, Option.getD_some]
  · rw [agentAddress, read (by simp [carriedTexts, forCallee]) agent, Option.getD_some]

end Extracted

end Context

end TryConfirmCancel
