import ForbiddenCalls.Matching
import ForbiddenCalls.Proofs.NameResolution
import ForbiddenCalls.Proofs.TreeWalk
import ForbiddenCalls.Syntax.Language

/-!
# Calls of imported members

A method that is called without a receiver belongs to a type if a member of that type was
imported under the name of the call.  The symbol table keeps the type and the name under
which the file sees the member, and not what the member is called in its type.  As long as
no member is renamed these are the same, and the call is one of the member that the path of
the import names.  An alias tells them apart: behind `import a.T.other as m` the call `m()`
counts as one of `m` in `a.T`, and a rule about that method matches it.

In Java an import has no alias, so there the type and the name of a call always come from
one path.

* `Facts.ImportsMember`, `Facts.MembersOf`: the imports behind a name.
* `SymbolTable.resolveBare_eq_resolved_iff`, `SymbolTable.isMatch_bare_iff`: what is made of
  a call without a receiver.
* `SymbolTable.bareCalls_iff_membersOf`: the owner of a call by the imports, and where it is
  that of the member with the name of the call.
* `SymbolTable.resolveBare_renamed`: a call that is taken for one of another member.
-/

namespace ForbiddenCalls

namespace Facts

variable {f : Facts} {owner member name : String}

/-- The file imports a member of a type, and sees it under a name. -/
def ImportsMember (f : Facts) (owner member name : String) : Prop :=
  ∃ i ∈ f.imports, i.kind = .member ∧ i.path = owner ++ "." ++ member ∧ '.' ∉ member.toList ∧
    i.IsSeenAs name

/-- The file sees members of a type under a name, and of no other type. -/
def MembersOf (f : Facts) (owner name : String) : Prop :=
  (∃ member, f.ImportsMember owner member name) ∧
    ∀ owner' member, f.ImportsMember owner' member name → owner' = owner

/-- The file sees a member under a name that is not its own. -/
def Renames (f : Facts) (name : String) : Prop :=
  ∃ owner member, f.ImportsMember owner member name ∧ member ≠ name

theorem mem_ownersNamed_iff : owner ∈ f.ownersNamed name ↔ ∃ member, f.ImportsMember owner member name := by
  rw [ownersNamed, Set.mem_ofPred_eq]
  constructor
  · rintro ⟨i, hi, hkind, hseen, member, hmember, hpath⟩
    exact ⟨member, i, hi, hkind, hpath, hmember, hseen⟩
  · rintro ⟨member, i, hi, hkind, hpath, hmember, hseen⟩
    exact ⟨i, hi, hkind, hseen, member, hmember, hpath⟩

theorem ownersNamed_eq_singleton_iff : f.ownersNamed name = {owner} ↔ f.MembersOf owner name := by
  simp only [Set.eq_singleton_iff_unique_mem, mem_ownersNamed_iff, MembersOf, forall_exists_index]

/-- A member that is imported without an alias is seen under its own name. -/
theorem eq_of_isSeenAs {i : Import} (halias : i.alias? = none)
    (hpath : i.path = owner ++ "." ++ member) (hmember : '.' ∉ member.toList)
    (hseen : i.IsSeenAs name) : member = name := by
  rw [Import.IsSeenAs, halias, hpath] at hseen
  have hlast : Text.IsLastSegment member (owner ++ "." ++ member) := ⟨hmember, .inr ⟨owner, rfl⟩⟩
  rw [← Text.lastSegment_eq_iff.2 hlast, Text.lastSegment_eq_iff.2 hseen]

/-- A file without aliases renames nothing. -/
theorem not_renames (h : ∀ i ∈ f.imports, i.alias? = none) (name : String) : ¬ f.Renames name := by
  rintro ⟨owner, member, ⟨i, hi, -, hpath, hmember, hseen⟩, hne⟩
  exact hne (eq_of_isSeenAs (h i hi) hpath hmember hseen)

/-- Where no member is renamed, the one type behind a name and the name make the path of an
import, and every member that is seen under the name has this path. -/
theorem MembersOf.of_not_renames (h : f.MembersOf owner name) (hname : ¬ f.Renames name) :
    (∃ i ∈ f.imports, i.kind = .member ∧ i.path = owner ++ "." ++ name) ∧
      ∀ owner' member, f.ImportsMember owner' member name → owner' = owner ∧ member = name := by
  have hown : ∀ {owner' member}, f.ImportsMember owner' member name → member = name :=
    fun hmember => by_contra fun hne => hname ⟨_, _, hmember, hne⟩
  obtain ⟨⟨member, hmember⟩, hunique⟩ := h
  refine ⟨?_, fun owner' member' h => ⟨hunique owner' member' h, hown h⟩⟩
  obtain rfl := hown hmember
  obtain ⟨i, hi, hkind, hpath, -⟩ := hmember
  exact ⟨i, hi, hkind, hpath⟩

end Facts

/-! ## Java -/

/-- An import in Java has no alias. -/
theorem Java.alias?_eq_none {s : Source} {root : Tree} {i : Import}
    (h : i ∈ (Java.extractor.facts s root).imports) : i.alias? = none := by
  rw [Extractor.facts_eq] at h
  obtain ⟨n, -, hn⟩ := List.mem_filterMap.1 h
  replace hn : Java.importOf? s n.tree = some i := hn
  rw [Java.importOf?] at hn
  split at hn
  · obtain ⟨name, -, rfl⟩ := Option.map_eq_some_iff.1 hn
    rfl
  · exact nomatch hn

namespace SymbolTable

variable {f : Facts} {implicit : List (String × String)} {method owner : String}

/-! ## Calls without a receiver -/

/-- **The owner of a call without a receiver** is the one type whose members the file sees
under its name. -/
theorem resolveBare_eq_resolved_iff :
    (ofFacts f implicit).resolveBare method = .resolved owner ↔ f.MembersOf owner method := by
  rw [resolveBare_iff, ← Facts.ownersNamed_eq_singleton_iff]
  constructor
  · rintro ⟨howner⟩
    exact howner
  · exact .member

/-- **The rules that a call without a receiver matches.** -/
theorem isMatch_bare_iff {r : Rule} {file : FilePath} {c : RawCall} (hbare : c.receiver = none) :
    r.isMatch (Language.callSite (ofFacts f implicit) file c) = true ↔
      r.requiresReceiver = false ∧ c.method ∈ r.methods ∧
        ∃ owner, f.MembersOf owner c.method ∧ r.owner.accepts owner = true := by
  have howner : (Language.callSite (ofFacts f implicit) file c).owner =
      (ofFacts f implicit).resolveBare c.method := by
    rw [Language.callSite, hbare]
  have hreceiver : (Language.callSite (ofFacts f implicit) file c).hasReceiver = false := by
    rw [CallSite.hasReceiver, Language.callSite, hbare]
    rfl
  have hmethod : (Language.callSite (ofFacts f implicit) file c).method = c.method := rfl
  simp only [Rule.isMatch_iff, howner, hreceiver, hmethod, resolveBare_eq_resolved_iff,
    Bool.false_eq_true, imp_false, Bool.not_eq_true]

/-- **The owner of a call without a receiver, by the imports.**  It is resolved to a type
exactly when the file sees members of that type, and of no other, under the name of the call;
and it matches the rules that need no receiver, name the method and accept that type.  What
the members are called in the type does not count.  Where the file sees no member under a
name that is not its own, the type and the name are the path of an import and there is no
other member behind the name.  In Java this is so in every file. -/
theorem bareCalls_iff_membersOf (f : Facts) (implicit : List (String × String)) (method : String) :
    (∀ owner, (ofFacts f implicit).resolveBare method = .resolved owner ↔
      f.MembersOf owner method) ∧
    (∀ (r : Rule) (file : FilePath) (c : RawCall), c.receiver = none → c.method = method →
      (r.isMatch (Language.callSite (ofFacts f implicit) file c) = true ↔
        r.requiresReceiver = false ∧ method ∈ r.methods ∧
          ∃ owner, f.MembersOf owner method ∧ r.owner.accepts owner = true)) ∧
    (¬ f.Renames method → ∀ owner, f.MembersOf owner method →
      (∃ i ∈ f.imports, i.kind = .member ∧ i.path = owner ++ "." ++ method) ∧
        ∀ owner' member, f.ImportsMember owner' member method →
          owner' = owner ∧ member = method) ∧
    ∀ s root, ¬ (Java.extractor.facts s root).Renames method := by
  refine ⟨fun owner => resolveBare_eq_resolved_iff, ?_, fun hname owner h => h.of_not_renames hname,
    fun s root => Facts.not_renames (fun i hi => Java.alias?_eq_none hi) method⟩
  rintro r file c hbare rfl
  exact isMatch_bare_iff hbare

/-! ## A renamed member -/

/-- A file that imports one member, perhaps under another name. -/
def memberFacts (alias? : Option String) : Facts where
  imports := [⟨"a.T.other", alias?, .member⟩]

/-- A call without a receiver. -/
def bareCall (method : String) : RawCall := ⟨none, method, 3, 5, 36, method.utf8ByteSize + 2⟩

/-- A rule about one method of `a.T`. -/
def memberRule (method : String) : Rule where
  id := ⟨"NoMember", by decide, by decide⟩
  title := "NoMember"
  description := ""
  severity := .error
  owner := .exact "a.T"
  methods := NameSet.empty.insert method
  requiresReceiver := false
  message := ⟨"NoMember", [.text "NoMember"]⟩

theorem importsMember_memberFacts_iff {alias? : Option String} {owner member name : String} :
    (memberFacts alias?).ImportsMember owner member name ↔
      owner = "a.T" ∧ member = "other" ∧ alias?.getD "other" = name := by
  have hsplit : Text.splitLast "a.T.other" = some ("a.T", "other") := by decide
  have hlocal : (⟨"a.T.other", alias?, .member⟩ : Import).localName = alias?.getD "other" := by
    cases alias? with
    | none => exact (by decide : Text.lastSegment "a.T.other" = "other")
    | some name => rfl
  have hparts : "a.T.other" = owner ++ "." ++ member ∧ '.' ∉ member.toList ↔
      owner = "a.T" ∧ member = "other" := by
    rw [← Text.splitLast_eq_some_iff, hsplit]
    simp [eq_comm]
  simp only [Facts.ImportsMember, memberFacts, List.mem_singleton, exists_eq_left, true_and,
    ← Import.localName_eq_iff, hlocal]
  rw [← and_assoc, hparts, and_assoc]

theorem membersOf_memberFacts (alias? : Option String) :
    (memberFacts alias?).MembersOf "a.T" (alias?.getD "other") :=
  ⟨⟨"other", importsMember_memberFacts_iff.2 ⟨rfl, rfl, rfl⟩⟩,
    fun _ _ h => (importsMember_memberFacts_iff.1 h).1⟩

/-- Under its own name the member is the one that the call is taken for. -/
theorem bareCalls_iff_membersOf_other :
    (bareCall "other").receiver = none ∧ ¬ (memberFacts none).Renames "other" ∧
    (ofFacts (memberFacts none) []).resolveBare "other" = .resolved "a.T" ∧
    (memberRule "other").isMatch
      (Language.callSite (ofFacts (memberFacts none) []) ⟨"A.kt"⟩ (bareCall "other")) = true ∧
    ∃ i ∈ (memberFacts none).imports, i.kind = .member ∧ i.path = "a.T" ++ "." ++ "other" := by
  obtain ⟨howner, hmatch, hpath, -⟩ := bareCalls_iff_membersOf (memberFacts none) [] "other"
  have hrenames : ¬ (memberFacts none).Renames "other" :=
    Facts.not_renames (by decide) "other"
  have hmembers := membersOf_memberFacts none
  exact ⟨rfl, hrenames, (howner "a.T").2 hmembers,
    (hmatch (memberRule "other") ⟨"A.kt"⟩ (bareCall "other") rfl rfl).2
      ⟨rfl, by decide, "a.T", hmembers, by decide⟩,
    (hpath hrenames "a.T" hmembers).1⟩

/-- **A call that is taken for one of another member.**  The file imports `a.T.other` as `m`,
and no other member.  The call `m()` is resolved to `a.T` and matches a rule about `m` in
`a.T`, which the file does not import. -/
theorem resolveBare_renamed :
    (ofFacts (memberFacts (some "m")) []).resolveBare "m" = .resolved "a.T" ∧
    (¬ ∃ i ∈ (memberFacts (some "m")).imports,
      i.kind = .member ∧ i.path = "a.T" ++ "." ++ "m") ∧
    (memberRule "m").isMatch
      (Language.callSite (ofFacts (memberFacts (some "m")) []) ⟨"A.kt"⟩ (bareCall "m")) = true := by
  have hmembers := membersOf_memberFacts (some "m")
  refine ⟨resolveBare_eq_resolved_iff.2 hmembers, by decide, (isMatch_bare_iff rfl).2 ?_⟩
  exact ⟨rfl, by decide, "a.T", hmembers, by decide⟩

/-- Such a file in Kotlin. -/
def renamedText : String := "import a.T.other as m\nfun f() \x7b\n    m()\n\x7d\n"

/-- Its syntax tree. -/
def renamedTree : Tree :=
  .rule "source_file" 0 42 [
    .rule "import" 0 21 [
      .sign "import" 0,
      .rule "qualified_identifier" 7 16 [
        .leaf "identifier" 7 8, .sign "." 8, .leaf "identifier" 9 10, .sign "." 10,
        .leaf "identifier" 11 16],
      .sign "as" 17, .leaf "identifier" 20 21],
    .rule "function_declaration" 22 41 [
      .sign "fun" 22, (Tree.leaf "identifier" 26 27).inField .name,
      .rule "function_value_parameters" 27 29 [.sign "(" 27, .sign ")" 28],
      .rule "function_body" 30 41 [
        .rule "block" 30 41 [
          .sign "\x7b" 30,
          .rule "call_expression" 36 39 [
            .leaf "identifier" 36 37,
            .rule "value_arguments" 37 39 [.sign "(" 37, .sign ")" 38]],
          .sign "\x7d" 40]]]]

/-- The renamed member and the call under its other name. -/
example : Kotlin.extractor.facts (.ofText renamedText) renamedTree =
    { imports := [⟨"a.T.other", some "m", .member⟩], calls := [⟨none, "m", 3, 5, 36, 3⟩] } := by
  decide +kernel

end SymbolTable

end ForbiddenCalls
