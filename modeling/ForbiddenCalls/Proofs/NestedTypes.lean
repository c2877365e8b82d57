import ForbiddenCalls.Proofs.TreeAddresses
import ForbiddenCalls.Syntax.Java
import ForbiddenCalls.Syntax.Kotlin
import Mathlib.Data.List.Forall2

/-!
# Types in types

A declared type is named by the types around it, and these are found by climbing: from the node
that declares the type to the root, past bodies and other nodes that declare nothing, and past
declarations without a name.  The names come out with the nearest type first and are turned
around.

The same names can be carried down instead.  `Extractor.declarationsIn` is one recursion from the
root with the names of the types that it is in, and the invariant that makes the two agree is
that the names carried to a node are those that a climb from it finds
(`Extractor.filterMap_declaration?_preorder`).

* `Extractor.DeclaredAt`: what the declaration at an address is.
* `Extractor.declarations_nested`: the declarations of a file, by the addresses of the nodes
  that declare a type, and as the recursion has them.
* `NestingExample.declarations_nested_files`: the declarations of a file in either language.
-/

namespace ForbiddenCalls

namespace Extractor

variable {x : Extractor} {s : Source} {root : Tree} {a : Address} {d : Declaration}

/-! ## Carrying the names down -/

mutual

/-- The types that a tree declares, in types with given names. -/
def declarationsIn (x : Extractor) (s : Source) (path : List String) : Tree → List Declaration
  | .node i cs =>
    match x.declaredType? s (.node i cs) with
    | some name =>
      ⟨name, ".".intercalate (path ++ [name])⟩ :: declarationsAmong x s (path ++ [name]) cs
    | none => declarationsAmong x s path cs

/-- The types that some trees declare, in types with given names. -/
def declarationsAmong (x : Extractor) (s : Source) (path : List String) :
    List Tree → List Declaration
  | [] => []
  | t :: ts => declarationsIn x s path t ++ declarationsAmong x s path ts

end

/-- The names that are carried past a node. -/
theorem reverse_filterMap_cons (x : Extractor) (s : Source) (t : Tree) (ancestors : List Tree) :
    ((t :: ancestors).filterMap (x.declaredType? s)).reverse =
      (ancestors.filterMap (x.declaredType? s)).reverse ++ (x.declaredType? s t).toList := by
  rw [filterMap_cons_eq_append, List.reverse_append]
  congr 1
  cases x.declaredType? s t with
  | none => rfl
  | some name => rfl

theorem filterMap_declaration?_preorderAll {ancestors ts : List Tree}
    (h : ∀ t ∈ ts, (Tree.preorder ancestors t).filterMap (x.declaration? s) =
      x.declarationsIn s (ancestors.filterMap (x.declaredType? s)).reverse t) :
    (Tree.preorderAll ancestors ts).filterMap (x.declaration? s) =
      x.declarationsAmong s (ancestors.filterMap (x.declaredType? s)).reverse ts := by
  induction ts with
  | nil => rfl
  | cons t ts ih =>
    rw [Tree.preorderAll, declarationsAmong, List.filterMap_append, h t List.mem_cons_self,
      ih fun u hu => h u (List.mem_cons_of_mem t hu)]

/-- **Climbing and carrying down agree.**  Below given ancestors, the names to carry are those of
the types among the ancestors. -/
theorem filterMap_declaration?_preorder (x : Extractor) (s : Source) (t : Tree) :
    ∀ ancestors, (Tree.preorder ancestors t).filterMap (x.declaration? s) =
      x.declarationsIn s (ancestors.filterMap (x.declaredType? s)).reverse t := by
  induction t using Tree.induction with
  | node i cs ih =>
    intro ancestors
    have hbelow := filterMap_declaration?_preorderAll fun c hc =>
      ih c hc (.node i cs :: ancestors)
    rw [reverse_filterMap_cons] at hbelow
    have hnode := declaration?_eq_map x s ⟨.node i cs, ancestors⟩
    rw [enclosingTypes_eq] at hnode
    rw [Tree.preorder, filterMap_cons_eq_append, hbelow, hnode, declarationsIn]
    cases x.declaredType? s (.node i cs) with
    | none => rw [Option.toList_none, List.append_nil]; rfl
    | some name => rfl

/-! ## The nodes that declare a type -/

/-- A declaration is that of the node at an address: the node has its name, and around it are
the types that the declaration is nested in. -/
structure DeclaredAt (x : Extractor) (s : Source) (root : Tree) (a : Address) (d : Declaration) :
    Prop where
  hasName : ∃ t, root.descend? a = some t ∧ x.declaredType? s t = some d.name
  isNested : d.nestedName =
    ".".intercalate ((root.above a).filterMap (x.declaredType? s) ++ [d.name])

/-- The declaration at an address, if the node there declares a type. -/
def declarationAt? (x : Extractor) (s : Source) (root : Tree) (a : Address) :
    Option Declaration :=
  (root.located? a).bind (x.declaration? s)

theorem declarationAt?_eq_some_iff :
    x.declarationAt? s root a = some d ↔ x.DeclaredAt s root a d := by
  have hclimb : ∀ t, x.enclosingTypes s ⟨t, (root.above a).reverse⟩ =
      (root.above a).filterMap (x.declaredType? s) := by
    intro t
    rw [enclosingTypes_eq, List.filterMap_reverse, List.reverse_reverse]
  unfold declarationAt? Tree.located?
  cases ht : root.descend? a with
  | none =>
    rw [Option.map_none, Option.bind_none]
    refine iff_of_false nofun ?_
    rintro ⟨⟨t, hother, -⟩, -⟩
    rw [ht] at hother
    contradiction
  | some t =>
    rw [Option.map_some, Option.bind_some, declaration?_eq_map, hclimb, Option.map_eq_some_iff]
    constructor
    · rintro ⟨name, hname, rfl⟩
      exact ⟨⟨t, ht, hname⟩, rfl⟩
    · rintro ⟨⟨u, hu, hname⟩, hnested⟩
      obtain rfl : t = u := Option.some.inj (ht.symm.trans hu)
      exact ⟨d.name, hname, by rw [← hnested]⟩

theorem isSome_declarationAt?_iff : (x.declarationAt? s root a).isSome = true ↔
    ∃ t name, root.descend? a = some t ∧ x.declaredType? s t = some name := by
  rw [Option.isSome_iff_exists]
  constructor
  · rintro ⟨d, hd⟩
    obtain ⟨t, ht, hname⟩ := (declarationAt?_eq_some_iff.1 hd).hasName
    exact ⟨t, d.name, ht, hname⟩
  · rintro ⟨t, name, ht, hname⟩
    let d : Declaration :=
      ⟨name, ".".intercalate ((root.above a).filterMap (x.declaredType? s) ++ [name])⟩
    have hd : x.DeclaredAt s root a d := ⟨⟨t, ht, hname⟩, rfl⟩
    exact ⟨d, declarationAt?_eq_some_iff.2 hd⟩

theorem declarations_eq_filterMap (x : Extractor) (s : Source) (root : Tree) :
    (x.facts s root).declarations = root.addresses.filterMap (x.declarationAt? s root) := by
  rw [facts_eq]
  dsimp only
  rw [Tree.preorder_eq_filterMap, List.filterMap_filterMap]
  rfl

/-- What a function gives for the members of a list stands in the order of the members that it
gives something for. -/
theorem forall₂_filter_filterMap {α β : Type} (f : α → Option β) (l : List α) :
    List.Forall₂ (fun a b => f a = some b) (l.filter fun a => (f a).isSome) (l.filterMap f) := by
  induction l with
  | nil => exact .nil
  | cons a l ih =>
    cases h : f a with
    | none =>
      rw [List.filterMap_cons_none h, List.filter_cons_of_neg (by rw [h]; exact nofun)]
      exact ih
    | some b =>
      rw [List.filterMap_cons_some h, List.filter_cons_of_pos (by rw [h]; rfl)]
      exact .cons h ih

/-- **Declarations carry their nesting.**  The declarations of a file are those of the nodes that
declare a type and have a name for it, in the order of their addresses and so each once.  Each
is nested in the named types above its node, from the root down.  One recursion that carries
the names of the types it is in gives the same declarations. -/
theorem declarations_nested (x : Extractor) (s : Source) (root : Tree) :
    (∃ as : List Address, as.Pairwise (· < ·) ∧
      (∀ a, a ∈ as ↔ ∃ t name, root.descend? a = some t ∧ x.declaredType? s t = some name) ∧
      List.Forall₂ (x.DeclaredAt s root) as (x.facts s root).declarations) ∧
    (x.facts s root).declarations = x.declarationsIn s [] root := by
  refine ⟨⟨root.addresses.filter fun a => (x.declarationAt? s root a).isSome, ?_, ?_, ?_⟩, ?_⟩
  · exact root.pairwise_addresses.sublist List.filter_sublist
  · intro a
    rw [List.mem_filter, isSome_declarationAt?_iff, Tree.mem_addresses_iff]
    refine and_iff_right_of_imp ?_
    rintro ⟨t, -, ht, -⟩
    exact ⟨t, ht⟩
  · rw [declarations_eq_filterMap]
    have hall := forall₂_filter_filterMap (x.declarationAt? s root) root.addresses
    exact hall.imp fun a d hd => declarationAt?_eq_some_iff.1 hd
  · rw [facts_eq]
    exact filterMap_declaration?_preorder x s root []

end Extractor

/-! ## Types in types, in both languages -/

namespace NestingExample

/-- An enumeration in an interface in a class. -/
def javaText : String := "class A \x7b interface B \x7b enum C \x7b \x7d \x7d \x7d"

/-- The three types in Java. -/
def javaTree : Tree :=
  .rule "program" 0 38 [
    .rule "class_declaration" 0 38 [
      .sign "class" 0, (Tree.leaf "identifier" 6 7).inField .name,
      .rule "class_body" 8 38 [
        .sign "\x7b" 8,
        .rule "interface_declaration" 10 36 [
          .sign "interface" 10, (Tree.leaf "identifier" 20 21).inField .name,
          .rule "interface_body" 22 36 [
            .sign "\x7b" 22,
            .rule "enum_declaration" 24 34 [
              .sign "enum" 24, (Tree.leaf "identifier" 29 30).inField .name,
              .rule "enum_body" 31 34 [.sign "\x7b" 31, .sign "\x7d" 33]],
            .sign "\x7d" 35]],
        .sign "\x7d" 37]]]

/-- An object in the companion of a class.  The companion is no declared type. -/
def kotlinText : String := "class A \x7b companion object \x7b object C \x7d \x7d"

/-- The two types in Kotlin. -/
def kotlinTree : Tree :=
  .rule "source_file" 0 41 [
    .rule "class_declaration" 0 41 [
      .sign "class" 0, (Tree.leaf "identifier" 6 7).inField .name,
      .rule "class_body" 8 41 [
        .sign "\x7b" 8,
        .rule "companion_object" 10 39 [
          .sign "companion" 10, .sign "object" 20,
          .rule "class_body" 27 39 [
            .sign "\x7b" 27,
            .rule "object_declaration" 29 37 [
              .sign "object" 29, (Tree.leaf "identifier" 36 37).inField .name],
            .sign "\x7d" 38]],
        .sign "\x7d" 40]]]

/-- The instances of the two files. -/
theorem declarations_nested_files :
    (∃ as : List Address, as.Pairwise (· < ·) ∧
      List.Forall₂ (Java.extractor.DeclaredAt (.ofText javaText) javaTree) as
        [⟨"A", "A"⟩, ⟨"B", "A.B"⟩, ⟨"C", "A.B.C"⟩]) ∧
    ∃ as : List Address, as.Pairwise (· < ·) ∧
      List.Forall₂ (Kotlin.extractor.DeclaredAt (.ofText kotlinText) kotlinTree) as
        [⟨"A", "A"⟩, ⟨"C", "A.C"⟩] := by
  obtain ⟨⟨as, hsorted, -, hall⟩, hjava⟩ :=
    Extractor.declarations_nested Java.extractor (.ofText javaText) javaTree
  obtain ⟨⟨bs, hsorted', -, hall'⟩, hkotlin⟩ :=
    Extractor.declarations_nested Kotlin.extractor (.ofText kotlinText) kotlinTree
  have hthree : Java.extractor.declarationsIn (.ofText javaText) [] javaTree =
      [⟨"A", "A"⟩, ⟨"B", "A.B"⟩, ⟨"C", "A.B.C"⟩] := by decide +kernel
  have htwo : Kotlin.extractor.declarationsIn (.ofText kotlinText) [] kotlinTree =
      [⟨"A", "A"⟩, ⟨"C", "A.C"⟩] := by decide +kernel
  rw [hjava, hthree] at hall
  rw [hkotlin, htwo] at hall'
  exact ⟨⟨as, hsorted, hall⟩, bs, hsorted', hall'⟩

end NestingExample

end ForbiddenCalls
