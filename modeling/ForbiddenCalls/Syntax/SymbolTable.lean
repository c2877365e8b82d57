import Std.Data.HashMap
import ForbiddenCalls.CallSite
import ForbiddenCalls.Syntax.Facts

/-!
# The symbol table of a file

A symbol table finds the type that owns a called method, from the facts about one
file alone.  It binds names to types, imported members to their types, and
variables to their types as written.  A name that is bound to two different
values is *ambiguous* and stays so, and an ambiguous name is not looked up
anywhere else.

Types that are visible without an import are asked last, and only for names
without a dot.
-/

namespace ForbiddenCalls

/-- What a name is bound to. -/
inductive Binding where
  | unique (value : String)
  | ambiguous
  deriving DecidableEq, Repr

namespace Binding

/-- The value of a binding that is not ambiguous. -/
def value? : Binding → Option String
  | unique value => some value
  | ambiguous => none

/-- Adds a value to what a name is bound to. -/
def add (old : Option Binding) (value : String) : Binding :=
  match old with
  | none => unique value
  | some b => if b = unique value then b else ambiguous

end Binding

/-- Names and what they are bound to. -/
abbrev Scope : Type := Std.HashMap String Binding

/-- Binds a name to a value. -/
def Scope.bind (scope : Scope) (name value : String) : Scope :=
  scope.alter name fun old => some (Binding.add old value)

/-- The scope of a list of names with their values. -/
def Scope.ofList (bindings : List (String × String)) : Scope :=
  bindings.foldl (fun scope b => Scope.bind scope b.1 b.2) ∅

/-- The bindings of one file. -/
structure SymbolTable where
  types : Scope
  members : Scope
  variableScope : Scope
  implicit : List (String × String)

namespace Facts

/-- The full name of a type that the file declares. -/
def qualify (f : Facts) (nestedName : String) : String :=
  match f.package with
  | some package => if package = "" then nestedName else package ++ "." ++ nestedName
  | none => nestedName

/-- The names that the file binds to types, with the types. -/
def typeBindings (f : Facts) : List (String × String) :=
  let imported := f.imports.filterMap fun i =>
    if i.kind = .type then some (i.localName, i.path) else none
  let declared := f.declarations.flatMap fun d =>
    let qualified := f.qualify d.nestedName
    if d.nestedName = d.name then [(d.name, qualified)]
    else [(d.name, qualified), (d.nestedName, qualified)]
  imported ++ declared

/-- The imported members with the types that declare them. -/
def memberBindings (f : Facts) : List (String × String) :=
  f.imports.filterMap fun i => i.memberOwner?.map fun owner => (i.localName, owner)

/-- The variables with their types as written. -/
def variableBindings (f : Facts) : List (String × String) :=
  f.typedVariables.map fun v => (v.name, v.typeName)

end Facts

namespace SymbolTable

/-- The symbol table of a file. -/
def ofFacts (f : Facts) (implicit : List (String × String)) : SymbolTable where
  types := Scope.ofList f.typeBindings
  members := Scope.ofList f.memberBindings
  variableScope := Scope.ofList f.variableBindings
  implicit

/-- Whether an unbound dotted name looks like the full name of a type: it starts
in lower case, ends with a capitalised segment, and all its segments are
identifiers. -/
def looksQualified (head name : String) : Bool :=
  (Text.segments name).all Text.isIdentifier && !Text.startsWithCapital head &&
    Text.startsWithCapital (Text.lastSegment name)

/-- The full name of a type as it is written in the file. -/
def resolveType (t : SymbolTable) (name : String) : Option String :=
  match t.types[name]? with
  | some binding => binding.value?
  | none =>
    match Text.splitHead name with
    | some (head, rest) =>
      match t.types[head]? with
      | some binding => binding.value?.map fun outer => outer ++ "." ++ rest
      | none => if looksQualified head name then some name else none
    | none => t.implicit.lookup name

/-- The full name of the type of a variable. -/
def variableType (t : SymbolTable) (name : String) : Option String :=
  match t.variableScope[name]? with
  | some (.unique written) => t.resolveType written
  | _ => none

/-- The text behind `this.`, for a receiver that starts with it. -/
def fieldOfThis? (receiver : String) : Option String :=
  match receiver.toList with
  | 't' :: 'h' :: 'i' :: 's' :: '.' :: rest => some (String.ofList rest)
  | _ => none

/-- The type that owns a method called on a receiver.  A variable hides a type of
the same name. -/
def resolveReceiver (t : SymbolTable) (receiver : String) : OwnerType :=
  match fieldOfThis? receiver with
  | some field => .ofOption (t.variableType field)
  | none =>
    if !(Text.segments receiver).all Text.isIdentifier then .unresolved
    else if Text.isIdentifier receiver then
      if t.variableScope.contains receiver then .ofOption (t.variableType receiver)
      else .ofOption (t.resolveType receiver)
    else
      let head := (Text.segments receiver).headD receiver
      if t.variableScope.contains head then .unresolved else .ofOption (t.resolveType receiver)

/-- The type that owns a method called without a receiver. -/
def resolveBare (t : SymbolTable) (method : String) : OwnerType :=
  .ofOption (t.members[method]?.bind Binding.value?)

end SymbolTable

end ForbiddenCalls
