import ForbiddenCalls.Proofs.NameResolution
import ForbiddenCalls.Proofs.TreeWalk
import ForbiddenCalls.Syntax.Java
import ForbiddenCalls.Syntax.Kotlin

/-!
# Variables of unknown type

A variable can be declared without a type that the file tells: behind `var` in Java, or in
Kotlin where neither a type is written nor a constructor called.  The facts about a file
keep variables with a known type only, so such a declaration leaves no trace.  A receiver of
that name is what the other declarations of the name make of it, and if there is none, it is
a type of that name: a file that imports `a.L` and declares `val L = g()` calls the methods
of `a.L` on `L`.

* `Java.Declares`, `Kotlin.Declares`: the variables that a node declares, with their types
  where these are known.
* `resolveReceiver_iff_knownTypes`: a receiver that is an identifier is resolved by the
  declarations of known type.
* `resolveReceiver_unknown`: a variable of unknown type that is resolved.
-/

namespace ForbiddenCalls

/-! ## Declarations with and without a known type -/

namespace Java

/-- The type of the variable of a declarator, behind a written type.  Behind `var` it is
known from an object creation only. -/
inductive HasType (s : Source) (written : String) (d : Tree) : Option String → Prop where
  | written : written ≠ "var" → HasType s written d (some written)
  | created {value type : Tree} : written = "var" → d.field? .value = some value →
      value.kind = "object_creation_expression" → value.field? .type = some type →
      HasType s written d (some (normalizeType (type.text s)))
  | unknown : written = "var" →
      (∀ value type, d.field? .value = some value → value.kind = "object_creation_expression" →
        value.field? .type ≠ some type) →
      HasType s written d none

/-- A node declares a variable, with its type if that is known: a field or a local variable
by a declarator, or a parameter, the variable of a loop over a collection or a resource. -/
inductive Declares (s : Source) : Tree → String → Option String → Prop where
  | declarator {t type d name : Tree} {known : Option String} :
      t.kind = "field_declaration" ∨ t.kind = "local_variable_declaration" →
      t.field? .type = some type → d ∈ t.namedChildren → d.kind = "variable_declarator" →
      d.field? .name = some name → HasType s (normalizeType (type.text s)) d known →
      Declares s t (name.text s) known
  | typed {t type name : Tree} :
      t.kind = "formal_parameter" ∨ t.kind = "enhanced_for_statement" ∨ t.kind = "resource" →
      t.field? .type = some type → t.field? .name = some name →
      normalizeType (type.text s) ≠ "var" →
      Declares s t (name.text s) (some (normalizeType (type.text s)))
  | untyped {t type name : Tree} :
      t.kind = "formal_parameter" ∨ t.kind = "enhanced_for_statement" ∨ t.kind = "resource" →
      t.field? .type = some type → t.field? .name = some name →
      normalizeType (type.text s) = "var" → Declares s t (name.text s) none

variable {s : Source} {t d : Tree} {written name type : String}

theorem inferredType?_eq_some_iff :
    inferredType? s d = some type ↔ HasType s "var" d (some type) := by
  rw [inferredType?]
  constructor
  · intro h
    split at h
    · next value hvalue =>
      split at h
      · next hkind =>
        obtain ⟨made, hmade, rfl⟩ := Option.map_eq_some_iff.1 h
        exact .created rfl hvalue hkind hmade
      · exact nomatch h
    · exact nomatch h
  · intro h
    cases h with
    | written hvar => exact absurd rfl hvar
    | created _ hvalue hkind hmade => simp only [hvalue, hkind, if_true, hmade, Option.map_some]

theorem declared?_eq_some_iff :
    declared? s written d = some ⟨name, type⟩ ↔ d.kind = "variable_declarator" ∧
      ∃ node, d.field? .name = some node ∧ node.text s = name ∧ HasType s written d (some type) := by
  have htype : (if written = "var" then inferredType? s d else some written) = some type ↔
      HasType s written d (some type) := by
    split
    · next hvar => rw [hvar, inferredType?_eq_some_iff]
    · next hvar =>
      constructor
      · intro h
        rw [Option.some_inj] at h
        exact h ▸ .written hvar
      · intro h
        cases h with
        | written _ => rfl
        | created hvar' _ _ _ => exact absurd hvar' hvar
  rw [declared?]
  split
  · next hkind =>
    cases hname : d.field? .name with
    | none => exact iff_of_false nofun fun h => nomatch h.2
    | some node =>
      simp only [Option.map_eq_some_iff, Variable.mk.injEq]
      constructor
      · rintro ⟨type', h, rfl, rfl⟩
        exact ⟨hkind, node, rfl, rfl, htype.1 h⟩
      · rintro ⟨-, node', heq, rfl, h⟩
        exact ⟨type, htype.2 h, by rw [Option.some.inj heq], rfl⟩
  · next hkind => exact iff_of_false nofun fun h => hkind h.1

theorem typedName?_eq_some_iff :
    typedName? s t = some ⟨name, type⟩ ↔ ∃ typeNode node, t.field? .type = some typeNode ∧
      t.field? .name = some node ∧ node.text s = name ∧ normalizeType (typeNode.text s) = type ∧
      type ≠ "var" := by
  rw [typedName?]
  constructor
  · intro h
    split at h
    · next typeNode node htype hname =>
      dsimp only at h
      split at h
      · exact absurd h.symm (Option.some_ne_none _)
      · next hvar =>
        rw [Option.some_inj, Variable.mk.injEq] at h
        exact ⟨typeNode, node, htype, hname, h.1, h.2, h.2 ▸ hvar⟩
    · exact absurd h.symm (Option.some_ne_none _)
  · rintro ⟨typeNode, node, htype, hname, rfl, rfl, hvar⟩
    simp only [htype, hname, if_neg hvar]

/-- The variables that are kept are those that are declared with a known type. -/
theorem mem_variablesOf_iff :
    (⟨name, type⟩ : Variable) ∈ variablesOf s t ↔ Declares s t name (some type) := by
  rw [variablesOf]
  constructor
  · intro h
    split at h
    · next hkind =>
      rw [declaredVariables] at h
      split at h
      · exact absurd h List.not_mem_nil
      · next typeNode htype =>
        obtain ⟨d, hd, hdeclared⟩ := List.mem_filterMap.1 h
        obtain ⟨hdkind, node, hname, rfl, hknown⟩ := declared?_eq_some_iff.1 hdeclared
        exact .declarator hkind htype hd hdkind hname hknown
    · split at h
      · next hkind =>
        obtain ⟨typeNode, node, htype, hname, rfl, rfl, hvar⟩ :=
          typedName?_eq_some_iff.1 (Option.mem_toList.1 h)
        exact .typed hkind htype hname hvar
      · exact absurd h List.not_mem_nil
  · intro h
    cases h with
    | declarator hkind htype hd hdkind hname hknown =>
      rw [if_pos hkind, declaredVariables, htype]
      exact List.mem_filterMap.2 ⟨_, hd, declared?_eq_some_iff.2 ⟨hdkind, _, hname, rfl, hknown⟩⟩
    | typed hkind htype hname hvar =>
      have hother : ¬ (t.kind = "field_declaration" ∨ t.kind = "local_variable_declaration") := by
        rcases hkind with h | h | h <;> rw [h] <;> decide
      rw [if_neg hother, if_pos hkind, Option.mem_toList]
      exact typedName?_eq_some_iff.2 ⟨_, _, htype, hname, rfl, rfl, hvar⟩

end Java

namespace Kotlin

/-- A node declares a variable, with its type if that is known: a property whose type is
written, a property that is initialised with the call of a constructor, or a parameter. -/
inductive Declares (s : Source) : Tree → String → Option String → Prop where
  | written {t declaration : Tree} {name type : String} : t.kind = "property_declaration" →
      t.firstNamed? ["variable_declaration"] = some declaration →
      name? s declaration = some name → writtenType? s declaration = some type →
      Declares s t name (some type)
  | constructed {t declaration : Tree} {name type : String} : t.kind = "property_declaration" →
      t.firstNamed? ["variable_declaration"] = some declaration →
      name? s declaration = some name → writtenType? s declaration = none →
      constructedType? s t = some type → Declares s t name (some type)
  | untyped {t declaration : Tree} {name : String} : t.kind = "property_declaration" →
      t.firstNamed? ["variable_declaration"] = some declaration →
      name? s declaration = some name → writtenType? s declaration = none →
      constructedType? s t = none → Declares s t name none
  | parameter {t : Tree} {name type : String} : t.kind = "parameter" ∨ t.kind = "class_parameter" →
      name? s t = some name → writtenType? s t = some type → Declares s t name (some type)

variable {s : Source} {t : Tree} {name type : String}

theorem property?_eq_some_iff :
    property? s t = some ⟨name, type⟩ ↔
      ∃ declaration, t.firstNamed? ["variable_declaration"] = some declaration ∧
        name? s declaration = some name ∧
        (writtenType? s declaration = some type ∨
          writtenType? s declaration = none ∧ constructedType? s t = some type) := by
  rw [property?]
  cases t.firstNamed? ["variable_declaration"] with
  | none => exact iff_of_false nofun fun h => nomatch h
  | some declaration =>
    cases hname : name? s declaration with
    | none => simp [hname]
    | some name' => simp [hname, and_left_comm]

theorem parameter?_eq_some_iff :
    parameter? s t = some ⟨name, type⟩ ↔ name? s t = some name ∧ writtenType? s t = some type := by
  rw [parameter?]
  cases name? s t <;> cases writtenType? s t <;> simp

/-- The variables that are kept are those that are declared with a known type. -/
theorem mem_variablesOf_iff :
    (⟨name, type⟩ : Variable) ∈ variablesOf s t ↔ Declares s t name (some type) := by
  rw [variablesOf]
  constructor
  · intro h
    split at h
    · next hkind =>
      obtain ⟨declaration, hdeclaration, hname, htype | ⟨hnone, htype⟩⟩ :=
        property?_eq_some_iff.1 (Option.mem_toList.1 h)
      · exact .written hkind hdeclaration hname htype
      · exact .constructed hkind hdeclaration hname hnone htype
    · split at h
      · next hkind =>
        obtain ⟨hname, htype⟩ := parameter?_eq_some_iff.1 (Option.mem_toList.1 h)
        exact .parameter hkind hname htype
      · exact nomatch h
  · intro h
    cases h with
    | written hkind hdeclaration hname htype =>
      rw [if_pos hkind, Option.mem_toList]
      exact property?_eq_some_iff.2 ⟨_, hdeclaration, hname, .inl htype⟩
    | constructed hkind hdeclaration hname hnone htype =>
      rw [if_pos hkind, Option.mem_toList]
      exact property?_eq_some_iff.2 ⟨_, hdeclaration, hname, .inr ⟨hnone, htype⟩⟩
    | parameter hkind hname htype =>
      have hother : t.kind ≠ "property_declaration" := by
        rcases hkind with h | h <;> rw [h] <;> decide
      rw [if_neg hother, if_pos hkind, Option.mem_toList]
      exact parameter?_eq_some_iff.2 ⟨hname, htype⟩

/-- The properties `val a: L`, `val b = M()` and `val c = n()`, one in a line. -/
def properties : List Tree :=
  [.rule "property_declaration" 0 8 [
      .sign "val" 0,
      .rule "variable_declaration" 4 8 [
        .leaf "identifier" 4 5, .sign ":" 5, .rule "user_type" 7 8 [.leaf "identifier" 7 8]]],
    .rule "property_declaration" 9 20 [
      .sign "val" 9, .rule "variable_declaration" 13 14 [.leaf "identifier" 13 14], .sign "=" 15,
      .rule "call_expression" 17 20 [
        .leaf "identifier" 17 18, .rule "value_arguments" 18 20 [.sign "(" 18, .sign ")" 19]]],
    .rule "property_declaration" 21 32 [
      .sign "val" 21, .rule "variable_declaration" 25 26 [.leaf "identifier" 25 26], .sign "=" 27,
      .rule "call_expression" 29 32 [
        .leaf "identifier" 29 30, .rule "value_arguments" 30 32 [.sign "(" 30, .sign ")" 31]]]]

/-- Of `c` no type is known. -/
example : properties.flatMap (variablesOf (.ofText "val a: L\nval b = M()\nval c = n()\n")) =
    [⟨"a", "L"⟩, ⟨"b", "M"⟩] := by
  decide +kernel

end Kotlin

/-! ## Receivers -/

/-- The types that the nodes of a tree declare for a variable, where they are known. -/
def knownTypes (declares : Tree → String → Option String → Prop) (root : Tree) (name : String) :
    Set String :=
  {type | ∃ t ∈ root.nodes, declares t name (some type)}

/-- The types that the facts have for a variable are those that are known from its
declarations. -/
theorem Extractor.typesWritten_facts {x : Extractor} {s : Source} {root : Tree} {name : String}
    {declares : Tree → String → Option String → Prop}
    (h : ∀ {t name type}, (⟨name, type⟩ : Variable) ∈ x.variablesOf s t ↔
      declares t name (some type)) :
    (x.facts s root).typesWritten name = knownTypes declares root name := by
  ext type
  have hvariables : (x.facts s root).typedVariables = root.nodes.flatMap (x.variablesOf s) := by
    rw [facts_eq, Tree.nodes, List.flatMap_map]
  rw [Facts.typesWritten, knownTypes, hvariables, Set.mem_ofPred_eq, Set.mem_ofPred_eq]
  constructor
  · rintro ⟨v, hv, rfl, rfl⟩
    obtain ⟨t, ht, hv⟩ := List.mem_flatMap.1 hv
    exact ⟨t, ht, h.1 hv⟩
  · rintro ⟨t, ht, hdeclares⟩
    exact ⟨⟨name, type⟩, List.mem_flatMap.2 ⟨t, ht, h.2 hdeclares⟩, rfl, rfl⟩

namespace SymbolTable

variable {f : Facts} {implicit : List (String × String)} {x type : String}

/-- A receiver without a dot is resolved if it is an identifier and the one type that is
written for it is, or if no type is written for it and it is a type itself. -/
theorem resolveReceiver_eq_resolved_iff (hdot : '.' ∉ x.toList) :
    (ofFacts f implicit).resolveReceiver x = .resolved type ↔
      Text.isIdentifier x = true ∧
        ((∃ written, f.typesWritten x = {written} ∧ f.Denotes implicit written (some type)) ∨
          f.typesWritten x = ∅ ∧ f.Denotes implicit x (some type)) := by
  have hthis : ∀ name, x ≠ "this." ++ name := by
    rintro name rfl
    exact hdot (by simp)
  rw [resolveReceiver_iff]
  constructor
  · intro h
    generalize howner : OwnerType.resolved type = owner at h
    cases h with
    | field hname _ => exact absurd hname (hthis _)
    | unnamed _ _ => exact nomatch howner
    | ofVariable _ hidentifier _ hdenoted =>
      cases hdenoted with
      | written hwritten hdenoted =>
        rw [OwnerType.resolved_eq_ofOption_iff.1 howner] at hdenoted
        exact ⟨hidentifier, .inl ⟨_, hwritten, hdenoted⟩⟩
      | unknown _ => exact nomatch howner
    | ofType _ hidentifier hnone hdenoted =>
      rw [OwnerType.resolved_eq_ofOption_iff.1 howner] at hdenoted
      exact ⟨hidentifier, .inr ⟨hnone, hdenoted⟩⟩
    | memberOfVariable _ _ _ _ _ => exact nomatch howner
    | dottedType _ _ hsplit _ _ _ =>
      rw [hsplit] at hdot
      exact absurd (by simp) hdot
  · rintro ⟨hidentifier, ⟨written, hwritten, hdenoted⟩ | ⟨hnone, hdenoted⟩⟩
    · exact .ofVariable hthis hidentifier (hwritten ▸ Set.singleton_nonempty written)
        (.written hwritten hdenoted)
    · exact .ofType hthis hidentifier hnone hdenoted

/-- A text is resolved to a type by the types that are known for it as a variable: by the
one that is known, or as a type itself if none is. -/
def ResolvesByKnown (f : Facts) (implicit : List (String × String)) (known : Set String)
    (x type : String) : Prop :=
  Text.isIdentifier x = true ∧
    ((∃ written, known = {written} ∧ f.Denotes implicit written (some type)) ∨
      known = ∅ ∧ f.Denotes implicit x (some type))

/-- **A receiver is resolved by the declarations of known type, in Java and in Kotlin.**  A
declaration of the receiver whose type is not known does not count: beside one other type
the receiver is of that type, and beside none it is the type of that name.  So the receiver
stays unresolved only where declarations give it several types, where the one type that they
give it is not found, or where none is given and no type of that name is found. -/
theorem resolveReceiver_iff_knownTypes (hdot : '.' ∉ x.toList) (s : Source) (root : Tree)
    (type : String) :
    ((ofFacts (Java.extractor.facts s root) Java.implicitTypes).resolveReceiver x =
        .resolved type ↔
      ResolvesByKnown (Java.extractor.facts s root) Java.implicitTypes
        (knownTypes (Java.Declares s) root x) x type) ∧
    ((ofFacts (Kotlin.extractor.facts s root) []).resolveReceiver x = .resolved type ↔
      ResolvesByKnown (Kotlin.extractor.facts s root) []
        (knownTypes (Kotlin.Declares s) root x) x type) := by
  have hjava : (Java.extractor.facts s root).typesWritten x = knownTypes (Java.Declares s) root x :=
    Extractor.typesWritten_facts Java.mem_variablesOf_iff
  have hkotlin : (Kotlin.extractor.facts s root).typesWritten x =
      knownTypes (Kotlin.Declares s) root x :=
    Extractor.typesWritten_facts Kotlin.mem_variablesOf_iff
  rw [resolveReceiver_eq_resolved_iff hdot, resolveReceiver_eq_resolved_iff hdot, hjava, hkotlin]
  exact ⟨Iff.rfl, Iff.rfl⟩

end SymbolTable

/-! ## A parameter of a lambda -/

namespace Java

/-- The kinds of the nodes that declare variables. -/
def variableKinds : List String :=
  ["field_declaration", "local_variable_declaration", "formal_parameter", "enhanced_for_statement",
    "resource"]

theorem variablesOf_of_kind {t : Tree} (s : Source) (h : variableKinds.contains t.kind = false) :
    variablesOf s t = [] := by
  simp only [variableKinds, List.contains_cons, Bool.or_eq_false_iff, beq_eq_false_iff_ne] at h
  obtain ⟨hfield, hlocal, hparameter, hloop, hresource, -⟩ := h
  rw [variablesOf, if_neg (not_or.2 ⟨hfield, hlocal⟩),
    if_neg (not_or.2 ⟨hparameter, not_or.2 ⟨hloop, hresource⟩⟩)]

/-- Only nodes of these kinds matter for the variables. -/
theorem flatMap_variablesOf (s : Source) (ts : List Tree) :
    ts.flatMap (variablesOf s) =
      (ts.filter fun t => variableKinds.contains t.kind).flatMap (variablesOf s) := by
  induction ts with
  | nil => rfl
  | cons t ts ih =>
    rw [List.flatMap_cons, List.filter_cons, ih]
    split
    · rw [List.flatMap_cons]
    · next h => rw [variablesOf_of_kind s (Bool.eq_false_iff.2 h), List.nil_append]

end Java

namespace LambdaExample

open SymbolTable

/-- A Java file with one import, one class, a variable whose type is written and two
parameters of a lambda whose types are not.  One parameter has the name of the imported type,
the other one the name of the variable. -/
def text : String :=
  "import a.L;\nclass A \x7b void f() \x7b L l = (var L, var l) -> L.d(); \x7d \x7d\n"

/-- The source of the file. -/
def source : Source := .ofText text

/-- A parameter of the lambda, of three letters for the type, a blank and a name. -/
def parameter (start : Nat) : Tree :=
  .rule "formal_parameter" start (start + 5) [
    (Tree.leaf "type_identifier" start (start + 3)).inField .type,
    (Tree.leaf "identifier" (start + 4) (start + 5)).inField .name]

/-- The call of a method on a parameter. -/
def call : Tree :=
  .rule "method_invocation" 57 62 [
    (Tree.leaf "identifier" 57 58).inField .object, .sign "." 58,
    (Tree.leaf "identifier" 59 60).inField .name,
    .rule "argument_list" 60 62 [.sign "(" 60, .sign ")" 61]]

/-- The declaration of the variable. -/
def declaration : Tree :=
  .rule "local_variable_declaration" 33 63 [
    (Tree.leaf "type_identifier" 33 34).inField .type,
    .rule "variable_declarator" 35 62 [
      (Tree.leaf "identifier" 35 36).inField .name, .sign "=" 37,
      (Tree.rule "lambda_expression" 39 62 [
        .rule "formal_parameters" 39 53 [
          .sign "(" 39, parameter 40, .sign "," 45, parameter 47, .sign ")" 52],
        .sign "->" 54, call]).inField .value],
    .sign ";" 62]

/-- The syntax tree of the file. -/
def tree : Tree :=
  .rule "program" 0 68 [
    .rule "import_declaration" 0 11 [
      .sign "import" 0,
      .rule "scoped_identifier" 7 10 [
        .leaf "identifier" 7 8, .sign "." 8, (Tree.leaf "identifier" 9 10).inField .name],
      .sign ";" 10],
    .rule "class_declaration" 12 67 [
      .sign "class" 12, (Tree.leaf "identifier" 18 19).inField .name,
      .rule "class_body" 20 67 [
        .sign "\x7b" 20,
        .rule "method_declaration" 22 65 [
          (Tree.leaf "void_type" 22 26).inField .type, (Tree.leaf "identifier" 27 28).inField .name,
          .rule "formal_parameters" 28 30 [.sign "(" 28, .sign ")" 29],
          .rule "block" 31 65 [.sign "\x7b" 31, declaration, .sign "\x7d" 64]],
        .sign "\x7d" 66]]]

theorem normalizeType_L : normalizeType "L" = "L" := by
  simp [normalizeType, Text.compact, Text.isBlank, Text.dropRepeated]

theorem normalizeType_var : normalizeType "var" = "var" := by
  simp [normalizeType, Text.compact, Text.isBlank, Text.dropRepeated]

theorem variablesOf_declaration : Java.variablesOf source declaration = [⟨"l", "L"⟩] := by
  have hfield : declaration.field? .type = some ((Tree.leaf "type_identifier" 33 34).inField .type) :=
    rfl
  have htype : ((Tree.leaf "type_identifier" 33 34).inField .type).text source = "L" := by
    decide +kernel
  rw [Java.variablesOf, if_pos (.inr rfl), Java.declaredVariables, hfield]
  dsimp only
  rw [htype, normalizeType_L]
  decide +kernel

theorem field?_type_parameter (start : Nat) : (parameter start).field? .type =
    some ((Tree.leaf "type_identifier" start (start + 3)).inField .type) := rfl

theorem field?_name_parameter (start : Nat) : (parameter start).field? .name =
    some ((Tree.leaf "identifier" (start + 4) (start + 5)).inField .name) := rfl

/-- Nothing is known of a parameter whose type is not written. -/
theorem variablesOf_parameter {start : Nat} (h : source.slice start (start + 3) = "var") :
    Java.variablesOf source (parameter start) = [] := by
  have hvar : ((Tree.leaf "type_identifier" start (start + 3)).inField .type).text source = "var" := h
  have hkind : (parameter start).kind = "formal_parameter" := rfl
  simp [Java.variablesOf, hkind, Java.typedName?, field?_type_parameter, field?_name_parameter,
    hvar, normalizeType_var]

/-- The nodes that could declare a variable. -/
theorem filter_nodes_tree : (tree.nodes.filter fun t => Java.variableKinds.contains t.kind) =
    [declaration, parameter 40, parameter 47] := by
  simp [tree, declaration, parameter, call, Tree.rule, Tree.leaf, Tree.sign, Tree.inField,
    Tree.nodes_eq, Tree.kind, Java.variableKinds]

/-- **The facts about the file.** -/
theorem facts_tree : Java.extractor.facts source tree =
    { imports := [⟨"a.L", none, .type⟩]
      declarations := [⟨"A", "A"⟩]
      typedVariables := [⟨"l", "L"⟩]
      calls := [⟨some "L", "d", 2, 48, 59, 3⟩] } := by
  have hvariables : tree.nodes.flatMap (Java.variablesOf source) = [⟨"l", "L"⟩] := by
    rw [Java.flatMap_variablesOf, filter_nodes_tree, List.flatMap_cons, List.flatMap_cons,
      List.flatMap_cons, variablesOf_declaration, variablesOf_parameter (by decide +kernel),
      variablesOf_parameter (by decide +kernel)]
    rfl
  rw [Extractor.facts_eq, Facts.mk.injEq]
  rw [Tree.nodes, List.flatMap_map] at hvariables
  refine ⟨?_, ?_, ?_, hvariables, ?_⟩ <;> decide +kernel

/-- A parameter of the lambda is declared without a type. -/
theorem declares_parameter {start : Nat} {name : String}
    (htype : source.slice start (start + 3) = "var")
    (hname : source.slice (start + 4) (start + 5) = name) :
    Java.Declares source (parameter start) name none := by
  have hvar : normalizeType
      (((Tree.leaf "type_identifier" start (start + 3)).inField .type).text source) = "var" := by
    rw [← normalizeType_var, ← htype]
    rfl
  rw [← hname]
  exact .untyped (.inl rfl) (field?_type_parameter start) (field?_name_parameter start) hvar

theorem mem_nodes_of_mem {t : Tree} (h : t ∈ [declaration, parameter 40, parameter 47]) :
    t ∈ tree.nodes := by
  rw [← filter_nodes_tree] at h
  exact (List.mem_filter.1 h).1

theorem typesNamed_L : (Java.extractor.facts source tree).typesNamed "L" = {"a.L"} := by
  have hbindings : (Java.extractor.facts source tree).typeBindings = [("L", "a.L"), ("A", "A")] := by
    rw [facts_tree]
    decide +kernel
  rw [← Facts.valuesOf_typeBindings, hbindings]
  ext type
  simp [valuesOf]

theorem typesWritten_tree (x : String) :
    (Java.extractor.facts source tree).typesWritten x = {type | x = "l" ∧ type = "L"} := by
  rw [facts_tree]
  ext type
  simp [Facts.typesWritten, eq_comm]

/-- The types that are known in the file. -/
theorem knownTypes_tree (x : String) :
    knownTypes (Java.Declares source) tree x = {type | x = "l" ∧ type = "L"} := by
  rw [← typesWritten_tree, Extractor.typesWritten_facts Java.mem_variablesOf_iff]

/-- The receiver `l` is resolved by the one declaration of `l` that has a type, although it
is also declared without one. -/
theorem resolveReceiver_iff_knownTypes_l : '.' ∉ "l".toList ∧
    (ofFacts (Java.extractor.facts source tree) Java.implicitTypes).resolveReceiver "l" =
      .resolved "a.L" := by
  have hdot : '.' ∉ "l".toList := by decide
  have hknown : knownTypes (Java.Declares source) tree "l" = {"L"} := by
    rw [knownTypes_tree]
    simp
  exact ⟨hdot, (resolveReceiver_iff_knownTypes hdot source tree "a.L").1.2
    ⟨by decide, .inl ⟨"L", hknown, .bound typesNamed_L⟩⟩⟩

/-- **A variable of unknown type that is resolved.**  The file has no error.  It declares
both `L` and `l` without a type, and methods called on `L` are taken for those of the
imported type of that name, methods called on `l` for those of the type that another
declaration has. -/
theorem resolveReceiver_unknown :
    (∀ t ∈ tree.nodes, t.isFault = false) ∧
    (∃ t ∈ tree.nodes, Java.Declares source t "L" none) ∧
    (∃ t ∈ tree.nodes, Java.Declares source t "l" none) ∧
    (ofFacts (Java.extractor.facts source tree) Java.implicitTypes).resolveReceiver "L" =
      .resolved "a.L" ∧
    (ofFacts (Java.extractor.facts source tree) Java.implicitTypes).resolveReceiver "l" =
      .resolved "a.L" := by
  refine ⟨by decide +kernel, ⟨parameter 40, mem_nodes_of_mem (by simp), ?_⟩,
    ⟨parameter 47, mem_nodes_of_mem (by simp), ?_⟩, ?_, ?_⟩
  · exact declares_parameter (by decide +kernel) (by decide +kernel)
  · exact declares_parameter (by decide +kernel) (by decide +kernel)
  · refine (resolveReceiver_eq_resolved_iff (by decide)).2 ⟨by decide, .inr ⟨?_, .bound typesNamed_L⟩⟩
    rw [typesWritten_tree]
    simp
  · refine (resolveReceiver_eq_resolved_iff (by decide)).2
      ⟨by decide, .inl ⟨"L", ?_, .bound typesNamed_L⟩⟩
    rw [typesWritten_tree]
    simp

end LambdaExample

end ForbiddenCalls
