import ForbiddenCalls.Proofs.JavaLayout
import ForbiddenCalls.Proofs.KotlinLayout
import ForbiddenCalls.Syntax.Language

/-!
# Layout does not matter

What is found in a file depends on its layout only in where it is found: every layout has
the same facts and the same calls, and every call is resolved to the same owner.

* `Language.AgreesOn`: a language finds the same in two texts, up to places.
* `Language.agreesOn_of_relaid`: Java and Kotlin agree on two layouts of a text.
-/

namespace ForbiddenCalls

/-- A call site without its place in the file. -/
def CallSite.unplaced (c : CallSite) : CallSite :=
  { c with location := { file := c.location.file, line := 0, column := 0 } }

/-- A parse error without its place in the file. -/
def ParseError.unplaced : ParseError → ParseError
  | .malformed _ _ message => .malformed 0 0 message
  | e => e

/-- What is found in a file, without places. -/
def CallSite.foundUnplaced : Except ParseError (List CallSite) → Except ParseError (List CallSite)
  | .ok calls => .ok (calls.map CallSite.unplaced)
  | .error e => .error e.unplaced

/-- A language finds the same in two texts, up to places: the facts are the same, and so
are the calls with their owners, or the fault for which there are none. -/
structure Language.AgreesOn (l : Language) (text text' : String) : Prop where
  facts : (l.extractor.facts (.ofText text) (l.grammar text)).unplaced =
    (l.extractor.facts (.ofText text') (l.grammar text')).unplaced
  traverse : ∀ ls u, Language.claimant? ls u.extension = some l →
    CallSite.foundUnplaced ((Language.adapter ls).traverse u text) =
      CallSite.foundUnplaced ((Language.adapter ls).traverse u text')

namespace Language

variable {text text' : String}

/-- What is found is found without looking at places. -/
theorem map_unplaced_callSite (l : Language) (f : Facts) (file : FilePath) :
    (f.calls.map (callSite (SymbolTable.ofFacts f l.implicitTypes) file)).map CallSite.unplaced =
      f.unplaced.calls.map fun c =>
        (callSite (SymbolTable.ofFacts f.unplaced l.implicitTypes) file c).unplaced := by
  rw [Facts.unplaced, List.map_map, List.map_map]
  rfl

theorem unplaced_faultError {namesOf : Tree → List Tree} {s s' : Source} {t t' : Tree}
    (h : Tree.Relaid namesOf s s' t t') :
    (faultError s t).unplaced = (faultError s' t').unplaced := by
  rw [faultError, faultError, h.isMissing_eq, h.kind_eq]
  rfl

/-- **A language agrees on two layouts if each node gives the same in both.** -/
theorem agreesOn_of_readsAlike {l : Language} {namesOf : Tree → List Tree}
    (hreads : ∀ t t', Tree.Relaid namesOf (.ofText text) (.ofText text') t t' →
      l.extractor.ReadsAlike (.ofText text) (.ofText text') t t')
    (h : Tree.Relaid namesOf (.ofText text) (.ofText text') (l.grammar text) (l.grammar text')) :
    l.AgreesOn text text' := by
  have hfacts := Extractor.facts_unplaced_eq (fun _ _ ht => ht.children) hreads h
  refine ⟨hfacts, fun ls u hclaimant => ?_⟩
  have hfault := h.firstFault?
  simp only [adapter, hclaimant, callSites, facts]
  generalize (l.grammar text).firstFault? = fault?, (l.grammar text').firstFault? = fault?'
    at hfault
  cases hfault with
  | none =>
    rw [Except.map, Except.map, CallSite.foundUnplaced, CallSite.foundUnplaced,
      map_unplaced_callSite, map_unplaced_callSite, hfacts]
  | some hpair =>
    rw [Except.map, Except.map, CallSite.foundUnplaced, CallSite.foundUnplaced,
      unplaced_faultError hpair]

/-- **Layout does not matter, in Java and in Kotlin.**  Where the syntax trees of two texts
differ in their layout only, and names are tokens, the facts about the two files are the
same and so are their calls with their owners, or the fault for which there are none.
Only lines, columns, offsets and lengths can differ. -/
theorem agreesOn_of_relaid (grammar : String → Tree) (text text' : String) :
    (Tree.Relaid Java.namesOf (.ofText text) (.ofText text') (grammar text) (grammar text') →
      (Java.language grammar).AgreesOn text text') ∧
    (Tree.Relaid Kotlin.namesOf (.ofText text) (.ofText text') (grammar text) (grammar text') →
      (Kotlin.language grammar).AgreesOn text text') :=
  ⟨agreesOn_of_readsAlike (l := Java.language grammar) fun _ _ => Java.readsAlike,
    agreesOn_of_readsAlike (l := Kotlin.language grammar) fun _ _ => Kotlin.readsAlike⟩

end Language

/-! ## A call in two layouts -/

namespace Tree

mutual

/-- A tree whose characters were moved to other offsets. -/
def spread (move : Nat → Nat) : Tree → Tree
  | .node i cs =>
    .node { i with start := move i.start, stop := move (i.stop - 1) + 1 } (spreadAll move cs)

/-- Trees whose characters were moved to other offsets. -/
def spreadAll (move : Nat → Nat) : List Tree → List Tree
  | [] => []
  | t :: ts => t.spread move :: spreadAll move ts

end

end Tree

namespace CallExample

/-- The call without blanks. -/
def tight : String := "a.L.d();"

/-- The call with blanks in it. -/
def loose : String := "a . L\n.d( );"

/-- Where the characters of the call stand when there are blanks in it. -/
def move (i : Nat) : Nat := [0, 2, 4, 6, 7, 8, 10, 11].getD i 12

/-- The call in Java. -/
def javaTree : Tree :=
  .rule "program" 0 8 [
    .rule "expression_statement" 0 8 [
      .rule "method_invocation" 0 7 [
        (Tree.rule "field_access" 0 3 [
          (Tree.leaf "identifier" 0 1).inField .object, .sign "." 1,
          .leaf "identifier" 2 3]).inField .object,
        .sign "." 3, (Tree.leaf "identifier" 4 5).inField .name,
        .rule "argument_list" 5 7 [.sign "(" 5, .sign ")" 6]],
      .sign ";" 7]]

/-- The call in Kotlin, where no node stands for the semicolon. -/
def kotlinTree : Tree :=
  .rule "source_file" 0 8 [
    .rule "call_expression" 0 7 [
      .rule "navigation_expression" 0 5 [
        .rule "navigation_expression" 0 3 [
          .leaf "identifier" 0 1, .sign "." 1, .leaf "identifier" 2 3],
        .sign "." 3, .leaf "identifier" 4 5],
      .rule "value_arguments" 5 7 [.sign "(" 5, .sign ")" 6]]]

/-- A grammar that knows the two texts of the call. -/
def grammar (tree : Tree) (text : String) : Tree :=
  if text = tight then tree else tree.spread move

/-- The two layouts of the call in Java. -/
theorem relaid_javaTree : Tree.Relaid Java.namesOf (.ofText tight) (.ofText loose)
    (grammar javaTree tight) (grammar javaTree loose) where
  placed := by
    simp [grammar, javaTree, Tree.rule, Tree.leaf, Tree.sign, Tree.inField, Tree.Placed,
      Tree.PlacedAll, Tree.start, Tree.stop]
    decide +kernel
  placed' := by
    simp [grammar, tight, loose, javaTree, Tree.rule, Tree.leaf, Tree.sign, Tree.inField,
      Tree.spread, Tree.spreadAll, move, Tree.Placed, Tree.PlacedAll, Tree.start, Tree.stop]
    decide +kernel
  sameNodes := by
    simp [grammar, tight, loose, javaTree, Tree.rule, Tree.leaf, Tree.sign, Tree.inField,
      Tree.spread, Tree.spreadAll, move, Tree.SameNodes, Tree.SameNodesAll, Tree.start, Tree.stop]
    decide +kernel
  names := by
    simp [grammar, javaTree, Tree.rule, Tree.leaf, Tree.sign, Tree.inField, Tree.nodes_eq,
      Tree.kind, Tree.field?, Java.namesOf, namesBy, NameRule.declared, Java.declarationKinds,
      Java.fieldNames]

/-- The two layouts of the call in Kotlin. -/
theorem relaid_kotlinTree : Tree.Relaid Kotlin.namesOf (.ofText tight) (.ofText loose)
    (grammar kotlinTree tight) (grammar kotlinTree loose) where
  placed := by
    simp [grammar, kotlinTree, Tree.rule, Tree.leaf, Tree.sign, Tree.Placed, Tree.PlacedAll,
      Tree.start, Tree.stop]
    decide +kernel
  placed' := by
    simp [grammar, tight, loose, kotlinTree, Tree.rule, Tree.leaf, Tree.sign, Tree.spread,
      Tree.spreadAll, move, Tree.Placed, Tree.PlacedAll, Tree.start, Tree.stop]
    decide +kernel
  sameNodes := by
    simp [grammar, tight, loose, kotlinTree, Tree.rule, Tree.leaf, Tree.sign, Tree.spread,
      Tree.spreadAll, move, Tree.SameNodes, Tree.SameNodesAll, Tree.start, Tree.stop]
    decide +kernel
  names := by
    simp [grammar, kotlinTree, Tree.rule, Tree.leaf, Tree.sign, Tree.nodes_eq, Tree.kind,
      Tree.namedChildren, Kotlin.namesOf, namesBy, Kotlin.nameRules, NameRule.declared,
      Kotlin.declarationKinds, Kotlin.segmentNames, Kotlin.importNames, Kotlin.variableNames,
      Kotlin.methodNames, Kotlin.calleeName?, Kotlin.memberName?, List.filter_cons, -List.head?_filter]

/-- Blanks in the call do not matter, in either language. -/
theorem agreesOn_of_relaid_call :
    (Tree.Relaid Java.namesOf (.ofText tight) (.ofText loose)
        (grammar javaTree tight) (grammar javaTree loose) ∧
      (Java.language (grammar javaTree)).AgreesOn tight loose) ∧
    Tree.Relaid Kotlin.namesOf (.ofText tight) (.ofText loose)
        (grammar kotlinTree tight) (grammar kotlinTree loose) ∧
      (Kotlin.language (grammar kotlinTree)).AgreesOn tight loose :=
  ⟨⟨relaid_javaTree, (Language.agreesOn_of_relaid (grammar javaTree) tight loose).1 relaid_javaTree⟩,
    relaid_kotlinTree,
    (Language.agreesOn_of_relaid (grammar kotlinTree) tight loose).2 relaid_kotlinTree⟩

end CallExample

end ForbiddenCalls
