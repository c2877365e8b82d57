import ForbiddenCalls.Syntax.Facts
import ForbiddenCalls.Syntax.Walk

/-!
# Extracting facts

An extractor says, for the syntax trees of one language, what a single node
contributes: the package, an import, variables or a call.  Types are declared by
nodes of certain kinds, and a declared type is named by the types around it.  The
facts about a file are collected in one walk over its tree.
-/

namespace ForbiddenCalls

/-- What the nodes of a language's syntax trees contribute to the facts. -/
structure Extractor where
  /-- A node that states the package, with the package if it has a name. -/
  packageOf? : Source → Tree → Option (Option String)
  /-- The import that a node is. -/
  importOf? : Source → Tree → Option Import
  /-- The kinds of nodes that declare a type. -/
  declarationKinds : List String
  /-- The variables that a node declares. -/
  variablesOf : Source → Tree → List Variable
  /-- The call that a node is. -/
  callOf? : Source → Tree → Option RawCall

/-- The name of a declared type: its name field, else its first identifier. -/
def Tree.declaredName? (s : Source) (t : Tree) : Option String :=
  match t.field? .name with
  | some name => some (name.text s)
  | none =>
    (t.firstNamed? ["identifier", "type_identifier", "simple_identifier"]).map (Tree.text s)

/-- A call with its span, which starts at the node of the method's name. -/
def Tree.rawCall (s : Source) (call name : Tree) (receiver : Option String) (method : String) :
    RawCall where
  receiver
  method
  line := s.line name.start
  column := s.column name.start
  offset := name.start
  length := call.stop - name.start

namespace Extractor

/-- The names of the types around a node, the outermost one first.  They are found
by climbing from the node. -/
def enclosingTypes (x : Extractor) (s : Source) (n : Located) : List String :=
  let nearestFirst := n.ancestors.filterMap fun t =>
    if x.declarationKinds.contains t.kind then t.declaredName? s else none
  nearestFirst.reverse

/-- The type that a node declares. -/
def declaration? (x : Extractor) (s : Source) (n : Located) : Option Declaration :=
  if x.declarationKinds.contains n.tree.kind then
    (n.tree.declaredName? s).map fun name =>
      ⟨name, ".".intercalate (x.enclosingTypes s n ++ [name])⟩
  else none

/-- Facts as they are collected, in arrays that grow at the end. -/
structure Collected where
  package : Option String := none
  imports : Array Import := #[]
  declarations : Array Declaration := #[]
  typedVariables : Array Variable := #[]
  calls : Array RawCall := #[]

/-- Adds what one node contributes. -/
def collect (x : Extractor) (s : Source) (c : Collected) (n : Located) : Collected where
  package := (x.packageOf? s n.tree).getD c.package
  imports := c.imports ++ (x.importOf? s n.tree).toList
  declarations := c.declarations ++ (x.declaration? s n).toList
  typedVariables := c.typedVariables ++ x.variablesOf s n.tree
  calls := c.calls ++ (x.callOf? s n.tree).toList

/-- The collected facts as lists. -/
def Collected.facts (c : Collected) : Facts :=
  ⟨c.package, c.imports.toList, c.declarations.toList, c.typedVariables.toList, c.calls.toList⟩

/-- The facts about a file. -/
def facts (x : Extractor) (s : Source) (root : Tree) : Facts :=
  (root.visitAll (x.collect s) {}).facts

end Extractor

end ForbiddenCalls
