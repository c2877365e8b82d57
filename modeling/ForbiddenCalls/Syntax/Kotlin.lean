import ForbiddenCalls.Syntax.Extractor

/-!
# Facts about Kotlin files

What the nodes of a Kotlin syntax tree contribute.  No keyword marks the import of
a member.  A path whose last segment starts in lower case is taken for a member if
the segment before starts with a capital, and else it brings nothing into scope
that owns a method.

A property has a known type if one is written, or if it is initialised with a call
of a name that starts with a capital, which is taken for a constructor.
-/

namespace ForbiddenCalls.Kotlin

/-- The kinds of nodes that declare a type. -/
def declarationKinds : List String := ["class_declaration", "object_declaration"]

/-- The kinds of nodes that are types. -/
def typeKinds : List String := ["user_type", "nullable_type", "type", "type_identifier"]

/-- A name as a dotted text: the identifiers of a qualified name joined by dots,
and else the text without its blanks. -/
def qualifiedName (s : Source) (t : Tree) : String :=
  if t.kind = "qualified_identifier" then
    let parts := (t.children.filter fun c => c.kind == "identifier").map (Tree.text s)
    ".".intercalate parts
  else Text.compactText (t.text s)

/-- The package that a node states. -/
def packageOf? (s : Source) (t : Tree) : Option (Option String) :=
  if t.kind = "package_header" then
    some ((t.firstNamed? ["qualified_identifier", "identifier"]).map (qualifiedName s))
  else none

/-! ## Imports -/

/-- What was read of an import so far. -/
structure ImportParts where
  path : Option String := none
  alias? : Option String := none
  isWildcard : Bool := false
  afterAs : Bool := false

/-- Takes in one child of an import: its path first, then an alias behind `as`. -/
def ImportParts.add (s : Source) (p : ImportParts) (c : Tree) : ImportParts :=
  let kind := c.kind
  if kind = "qualified_identifier" ∧ p.path.isNone then
    { p with path := some (qualifiedName s c) }
  else if kind = "identifier" ∧ p.path.isNone ∧ !p.afterAs then
    { p with path := some (c.text s) }
  else if (kind = "identifier" ∨ kind = "simple_identifier" ∨ kind = "type_identifier") ∧
      p.afterAs then
    { p with alias? := some (c.text s) }
  else if kind = "import_alias" then { p with alias? := c.declaredName? s }
  else if kind = "as" then { p with afterAs := true }
  else if kind = "*" ∨ kind = ".*" ∨ kind = "wildcard_import" then
    { p with isWildcard := true }
  else p

/-- What an import without a star brings into scope, by its last two segments. -/
def importKind? (path : String) : Option ImportKind :=
  match (Text.segments path).reverse with
  | last :: owner :: _ =>
    if Text.startsWithCapital last then some .type
    else if Text.startsWithCapital owner then some .member
    else none
  | [last] => if Text.startsWithCapital last then some .type else none
  | [] => some .type

/-- The import that a node is. -/
def importOf? (s : Source) (t : Tree) : Option Import :=
  if t.kind = "import" ∨ t.kind = "import_header" then
    let parts := t.children.foldl (ImportParts.add s) {}
    match parts.path with
    | none => none
    | some path =>
      if parts.isWildcard then some ⟨path, parts.alias?, .wildcard⟩
      else (importKind? path).map fun kind => ⟨path, parts.alias?, kind⟩
  else none

/-! ## Variables -/

/-- The name in a declaration of a variable or parameter. -/
def name? (s : Source) (t : Tree) : Option String :=
  (t.firstNamed? ["identifier", "simple_identifier"]).map (Tree.text s)

/-- The type that is written in a declaration of a variable or parameter. -/
def writtenType? (s : Source) (t : Tree) : Option String :=
  (t.firstNamed? typeKinds).map fun type => normalizeType (type.text s)

/-- The type that a property is initialised with an instance of. -/
def constructedType? (s : Source) (t : Tree) : Option String :=
  match (t.firstNamed? ["call_expression"]).bind fun call => call.namedChildren.head? with
  | none => none
  | some callee =>
    let name := callee.text s
    if callee.kind = "identifier" ∧ Text.startsWithCapital name then some name else none

/-- The variable that a property declares. -/
def property? (s : Source) (t : Tree) : Option Variable :=
  match t.firstNamed? ["variable_declaration"] with
  | none => none
  | some declaration =>
    match name? s declaration with
    | none => none
    | some name =>
      let type? := (writtenType? s declaration).or (constructedType? s t)
      type?.map fun type => ⟨name, type⟩

/-- The variable that a parameter declares. -/
def parameter? (s : Source) (t : Tree) : Option Variable :=
  match name? s t, writtenType? s t with
  | some name, some type => some ⟨name, type⟩
  | _, _ => none

/-- The variables that a node declares. -/
def variablesOf (s : Source) (t : Tree) : List Variable :=
  if t.kind = "property_declaration" then (property? s t).toList
  else if t.kind = "parameter" ∨ t.kind = "class_parameter" then (parameter? s t).toList
  else []

/-! ## Calls -/

/-- The node of the member's name in a navigation.  It may stand in a suffix. -/
def memberName? (navigation : Tree) : Option Tree :=
  match navigation.namedChildren with
  | [] => none
  | [_] => none
  | _ :: later =>
    match later.getLast? with
    | none => none
    | some last =>
      if last.kind = "navigation_suffix" then last.namedChildren.getLast? else some last

/-- The name of a member without the navigation signs in front of it. -/
def withoutSigns (name : String) : String :=
  String.ofList (name.toList.dropWhile fun c => c == '?' || c == '.' || c == ':')

/-- The call that a node is.  The call of a name that starts with a capital is an
object creation and does not count. -/
def callOf? (s : Source) (t : Tree) : Option RawCall :=
  if t.kind = "call_expression" then
    match t.namedChildren.head? with
    | none => none
    | some callee =>
      if callee.kind = "navigation_expression" then
        match callee.namedChildren.head?, memberName? callee with
        | some receiver, some name =>
          let method := withoutSigns (name.text s)
          if Text.isIdentifier method then
            some (t.rawCall s name (some (Text.compactText (receiver.text s))) method)
          else none
        | _, _ => none
      else if callee.kind = "identifier" ∨ callee.kind = "simple_identifier" then
        let method := callee.text s
        if Text.startsWithCapital method then none else some (t.rawCall s callee none method)
      else none
  else none

/-- The extractor for Kotlin. -/
def extractor : Extractor where
  packageOf?
  importOf?
  declarationKinds
  variablesOf
  callOf?

end ForbiddenCalls.Kotlin
