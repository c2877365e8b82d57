import ForbiddenCalls.Text.DottedName

/-!
# Facts about a file

What the analysis keeps of a syntax tree: the package, the imports, the declared
types, the variables with a known type, and the calls.
-/

namespace ForbiddenCalls

/-- What an import brings into scope. -/
inductive ImportKind where
  | type
  | member
  | wildcard
  deriving DecidableEq, Repr

/-- An import.  The path of a wildcard import is the one in front of the star. -/
structure Import where
  path : String
  alias? : Option String
  kind : ImportKind
  deriving DecidableEq, Repr

namespace Import

/-- The name under which the file sees the import. -/
def localName (i : Import) : String := i.alias?.getD (Text.lastSegment i.path)

/-- The type that declares an imported member. -/
def memberOwner? (i : Import) : Option String :=
  match i.kind with
  | .member => (Text.splitLast i.path).map Prod.fst
  | _ => none

end Import

/-- A type that the file declares, with its name as seen from the file's package. -/
structure Declaration where
  name : String
  nestedName : String
  deriving DecidableEq, Repr

/-- A variable, field or parameter with its type as written. -/
structure Variable where
  name : String
  typeName : String
  deriving DecidableEq, Repr

/-- A call before its owner is known.  The span starts at the method's name and
ends with the call. -/
structure RawCall where
  receiver : Option String
  method : String
  line : Nat
  column : Nat
  offset : Nat
  length : Nat
  deriving DecidableEq, Repr

/-- All that is known about a file. -/
structure Facts where
  package : Option String := none
  imports : List Import := []
  declarations : List Declaration := []
  typedVariables : List Variable := []
  calls : List RawCall := []
  deriving DecidableEq, Repr, Inhabited

/-- A written type without type arguments, blanks, array brackets and question
marks: the text before the first `<`, without its blanks, then without the
brackets at its end, then without the question marks at its end. -/
def normalizeType (written : String) : String :=
  let head := Text.compact (written.toList.takeWhile (· != '<'))
  let element := (Text.dropRepeated [']', '['] head.reverse)
  String.ofList (Text.dropRepeated ['?'] element).reverse

end ForbiddenCalls
