import ForbiddenCalls.NameSet

/-!
# Owner predicates

A rule is about the methods of certain owner types: one type, or any of several.
-/

namespace ForbiddenCalls

/-- The owner types that a rule is about. -/
inductive OwnerPredicate where
  | exact (type : String)
  | anyOf (types : NameSet)
  deriving DecidableEq, Repr

namespace OwnerPredicate

/-- The predicate for a set of types.  A single type is asked for exactly. -/
def ofSet (types : NameSet) : OwnerPredicate :=
  match types.single? with
  | some type => .exact type
  | none => .anyOf types

/-- Whether a type is one of those that the predicate names. -/
def accepts : OwnerPredicate → String → Bool
  | exact type, t => type == t
  | anyOf types, t => types.contains t

/-- Whether the predicate names no type, or a blank one. -/
def isBlank : OwnerPredicate → Bool
  | exact type => Text.isBlankText type
  | anyOf types => types.toList.isEmpty || types.toList.any Text.isBlankText

/-- The predicate as it is shown: a single type as it is, several in braces. -/
def text : OwnerPredicate → String
  | exact type => type
  | anyOf types => "\x7b" ++ ", ".intercalate types.toList ++ "\x7d"

end OwnerPredicate

end ForbiddenCalls
