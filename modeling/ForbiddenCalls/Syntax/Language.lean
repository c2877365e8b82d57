import ForbiddenCalls.Analysis.Adapter
import ForbiddenCalls.Syntax.Java
import ForbiddenCalls.Syntax.Kotlin
import ForbiddenCalls.Syntax.SymbolTable

/-!
# Languages

A language brings together what is needed to find calls in its files: their
extensions, a grammar, which turns a text into a syntax tree, an extractor of
facts and the types that are visible without an import.

An adapter for a list of languages gives a unit to the first language that claims
its extension.  A tree with a fault in it gives no calls at all.
-/

namespace ForbiddenCalls

/-- A language of source files. -/
structure Language where
  id : String
  extensions : List String
  implicitTypes : List (String × String)
  grammar : String → Tree
  extractor : Extractor

/-- Java, with a given grammar. -/
def Java.language (grammar : String → Tree) : Language where
  id := "java"
  extensions := [".java"]
  implicitTypes := Java.implicitTypes
  grammar
  extractor := Java.extractor

/-- Kotlin, with a given grammar.  No types are visible without an import. -/
def Kotlin.language (grammar : String → Tree) : Language where
  id := "kotlin"
  extensions := [".kt", ".kts"]
  implicitTypes := []
  grammar
  extractor := Kotlin.extractor

namespace Language

/-- The parse error for a fault in a syntax tree. -/
def faultError (s : Source) (fault : Tree) : ParseError :=
  .malformed (s.line fault.start) (s.column fault.start)
    (if fault.info.isMissing then "missing `" ++ fault.kind ++ "`" else "unexpected syntax")

/-- The facts about a file, unless its syntax tree has a fault. -/
def facts (l : Language) (text : String) : Except ParseError Facts :=
  let source := Source.ofText text
  let root := l.grammar text
  match root.firstFault? with
  | some fault => .error (faultError source fault)
  | none => .ok (l.extractor.facts source root)

/-- A call as a call site in a file, with its owner. -/
def callSite (symbols : SymbolTable) (file : FilePath) (c : RawCall) : CallSite where
  receiver := c.receiver
  method := c.method
  owner :=
    match c.receiver with
    | some receiver => symbols.resolveReceiver receiver
    | none => symbols.resolveBare c.method
  location := ⟨file, c.line, c.column, c.offset, c.length⟩

/-- The call sites of a file, in the order of the source. -/
def callSites (l : Language) (file : FilePath) (text : String) :
    Except ParseError (List CallSite) :=
  (l.facts text).map fun facts =>
    facts.calls.map (callSite (SymbolTable.ofFacts facts l.implicitTypes) file)

section CallSites

variable {l : Language} {file : FilePath} {text : String}

theorem callSites_of_fault {fault : Tree} (h : (l.grammar text).firstFault? = some fault) :
    l.callSites file text = .error (faultError (.ofText text) fault) := by
  simp only [callSites, facts, h]
  rfl

theorem callSites_of_no_fault (h : (l.grammar text).firstFault? = none) :
    l.callSites file text =
      let facts := l.extractor.facts (.ofText text) (l.grammar text)
      .ok (facts.calls.map (callSite (SymbolTable.ofFacts facts l.implicitTypes) file)) := by
  simp only [callSites, facts, h]
  rfl

/-- A language has call sites for a text without a fault, one for every call. -/
theorem callSites_eq_ok_iff {sites : List CallSite} : l.callSites file text = .ok sites ↔
    (l.grammar text).firstFault? = none ∧
      let facts := l.extractor.facts (.ofText text) (l.grammar text)
      sites = facts.calls.map (callSite (SymbolTable.ofFacts facts l.implicitTypes) file) := by
  cases hfault : (l.grammar text).firstFault? with
  | some fault =>
    rw [callSites_of_fault hfault]
    exact ⟨nofun, nofun⟩
  | none =>
    rw [callSites_of_no_fault hfault]
    exact ⟨fun h => ⟨rfl, (Except.ok.inj h).symm⟩, fun h => congrArg Except.ok h.2.symm⟩

/-- A language refuses a text for a fault in its tree only. -/
theorem callSites_eq_error_iff {e : ParseError} : l.callSites file text = .error e ↔
    ∃ fault, (l.grammar text).firstFault? = some fault ∧ e = faultError (.ofText text) fault := by
  cases hfault : (l.grammar text).firstFault? with
  | some fault =>
    rw [callSites_of_fault hfault]
    constructor
    · intro h
      exact ⟨fault, rfl, (Except.error.inj h).symm⟩
    · rintro ⟨other, hother, rfl⟩
      rw [Option.some.inj hother]
  | none =>
    rw [callSites_of_no_fault hfault]
    exact ⟨nofun, fun ⟨_, h, _⟩ => nomatch h⟩

end CallSites

/-! ## Several languages -/

/-- The extensions that languages claim, each where it is claimed first. -/
def claimedExtensions (ls : List Language) : List String :=
  ls.foldl (fun claimed l =>
    l.extensions.foldl (fun claimed e => if claimed.contains e then claimed else claimed ++ [e])
      claimed) []

/-- The first language that claims an extension. -/
def claimant? (ls : List Language) (extension : String) : Option Language :=
  ls.find? fun l => l.extensions.contains extension

/-- The adapter for a list of languages. -/
def adapter (ls : List Language) : Adapter where
  extensions := claimedExtensions ls
  traverse u text :=
    match claimant? ls u.extension with
    | none => .error (.unsupported u.extension)
    | some l => l.callSites u.path text

/-- An adapter finds calls by one of its languages. -/
theorem exists_claimant_of_traverse {ls : List Language} {u : SourceUnit} {text : String}
    {calls : List CallSite} (h : (adapter ls).traverse u text = .ok calls) :
    ∃ l, claimant? ls u.extension = some l ∧ l.callSites u.path text = .ok calls := by
  cases hl : claimant? ls u.extension with
  | none => simp [adapter, hl] at h
  | some l => exact ⟨l, rfl, by simpa [adapter, hl] using h⟩

end Language

end ForbiddenCalls
