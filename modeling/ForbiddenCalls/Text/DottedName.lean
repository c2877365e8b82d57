import ForbiddenCalls.Text.Pieces

/-!
# Dotted names

Names of packages, types and members are written as segments joined by dots.
This module says what a segment that is an identifier looks like and takes a
dotted name apart: into all its segments, at its first dot and at its last one.
-/

namespace ForbiddenCalls.Text

/-- A character that may start an identifier. -/
def isIdentifierStart (c : Char) : Bool :=
  isLetter c || c == '_' || c == '$'

/-- A character that may follow in an identifier. -/
def isIdentifierPart (c : Char) : Bool :=
  isLetter c || isNumeral c || c == '_' || c == '$'

/-- Whether a text is an identifier. -/
def isIdentifier (s : String) : Bool :=
  match s.toList with
  | [] => false
  | c :: cs => isIdentifierStart c && cs.all isIdentifierPart

/-- Whether a text starts with a capital. -/
def startsWithCapital (s : String) : Bool :=
  match s.toList with
  | [] => false
  | c :: _ => isCapital c

/-- The segments of a dotted name. -/
def segments (s : String) : List String :=
  (cutAll '.' s.toList).map String.ofList

/-- The last segment of a dotted name. -/
def lastSegment (s : String) : String :=
  (segments s).getLastD s

/-- A dotted name as its first segment and the rest, when it has a dot. -/
def splitHead (s : String) : Option (String × String) :=
  (cutFirst '.' s.toList).map fun p => (String.ofList p.1, String.ofList p.2)

/-- A dotted name as its last segment and what stands before, when it has a
dot. -/
def splitLast (s : String) : Option (String × String) :=
  (cutLast '.' s.toList).map fun p => (String.ofList p.1, String.ofList p.2)

/-- A text without its blanks. -/
def compactText (s : String) : String :=
  String.ofList (compact s.toList)

/-- A text without its leading and trailing blanks. -/
def trim (s : String) : String :=
  String.ofList (trimBlanks s.toList)

end ForbiddenCalls.Text
