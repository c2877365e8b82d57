import ForbiddenCalls.Syntax.Extractor

/-!
# Facts about Java files

What the nodes of a Java syntax tree contribute, and the types of `java.lang`
that a file sees without importing them.

A variable declared with `var` has a known type only where it is initialised with
an object creation.
-/

namespace ForbiddenCalls.Java

/-- The kinds of nodes that declare a type. -/
def declarationKinds : List String :=
  ["class_declaration", "interface_declaration", "enum_declaration", "record_declaration",
    "annotation_type_declaration"]

/-- The types of `java.lang` that are known without an import. -/
def implicitTypes : List (String × String) :=
  ["Boolean", "Byte", "Character", "Class", "Double", "Enum", "Error", "Exception", "Float",
    "Integer", "Long", "Math", "Object", "Runtime", "RuntimeException", "Short", "String",
    "StringBuilder", "System", "Thread", "Throwable"].map fun name => (name, "java.lang." ++ name)

/-- The kinds of nodes that are plain or dotted names. -/
def nameKinds : List String := ["scoped_identifier", "identifier"]

/-- The package that a node states. -/
def packageOf? (s : Source) (t : Tree) : Option (Option String) :=
  if t.kind = "package_declaration" then
    some ((t.firstNamed? nameKinds).map fun n => Text.compactText (n.text s))
  else none

/-- The import that a node is.  A star makes it a wildcard, the keyword `static`
makes it one of a member, and its path is the last name in it. -/
def importOf? (s : Source) (t : Tree) : Option Import :=
  if t.kind = "import_declaration" then
    let kinds := t.children.map Tree.kind
    let kind : ImportKind :=
      if kinds.contains "asterisk" then .wildcard
      else if kinds.contains "static" then .member
      else .type
    (t.children.filter fun c => nameKinds.contains c.kind).getLast?.map fun n =>
      ⟨Text.compactText (n.text s), none, kind⟩
  else none

/-- The type of a variable that is declared with `var`. -/
def inferredType? (s : Source) (declarator : Tree) : Option String :=
  match declarator.field? .value with
  | some value =>
    if value.kind = "object_creation_expression" then
      (value.field? .type).map fun t => normalizeType (t.text s)
    else none
  | none => none

/-- The variable of one declarator, where `written` is the type in front. -/
def declared? (s : Source) (written : String) (declarator : Tree) : Option Variable :=
  if declarator.kind = "variable_declarator" then
    match declarator.field? .name with
    | none => none
    | some name =>
      let type? := if written = "var" then inferredType? s declarator else some written
      type?.map fun type => ⟨name.text s, type⟩
  else none

/-- The variables of a field or of a local declaration. -/
def declaredVariables (s : Source) (t : Tree) : List Variable :=
  match t.field? .type with
  | none => []
  | some type => t.namedChildren.filterMap (declared? s (normalizeType (type.text s)))

/-- The variable of a parameter, of a loop over a collection or of a resource. -/
def typedName? (s : Source) (t : Tree) : Option Variable :=
  match t.field? .type, t.field? .name with
  | some type, some name =>
    let typeName := normalizeType (type.text s)
    if typeName = "var" then none else some ⟨name.text s, typeName⟩
  | _, _ => none

/-- The variables that a node declares. -/
def variablesOf (s : Source) (t : Tree) : List Variable :=
  if t.kind = "field_declaration" ∨ t.kind = "local_variable_declaration" then
    declaredVariables s t
  else if t.kind = "formal_parameter" ∨ t.kind = "enhanced_for_statement" ∨
      t.kind = "resource" then
    (typedName? s t).toList
  else []

/-- The call that a node is. -/
def callOf? (s : Source) (t : Tree) : Option RawCall :=
  if t.kind = "method_invocation" then
    match t.field? .name with
    | none => none
    | some name =>
      let method := name.text s
      if Text.isIdentifier method then
        let receiver := (t.field? .object).map fun o => Text.compactText (o.text s)
        some (t.rawCall s name receiver method)
      else none
  else none

/-- The extractor for Java. -/
def extractor : Extractor where
  packageOf?
  importOf?
  declarationKinds
  variablesOf
  callOf?

end ForbiddenCalls.Java
