import ForbiddenCalls.FilePath

/-!
# Call sites

A call site is one method call in a source: the text of its receiver if it has
one, the name of the method, the type that owns the method as far as that is
known, and where the call stands.

Locations are printed with the spelling of their path and compared by the path's
components.  `Location.place` is what they are compared by.
-/

namespace ForbiddenCalls

/-- A span in a file.  Lines and columns count from one, the offset from zero;
columns, offset and length are in bytes. -/
structure Location where
  file : FilePath
  line : Nat
  column : Nat
  offset : Nat := 0
  length : Nat := 0
  deriving DecidableEq, Repr, Inhabited

/-- A location up to the spelling of its path. -/
structure Place where
  file : List Component
  line : Nat
  column : Nat
  offset : Nat
  length : Nat
  deriving DecidableEq, Repr, Hashable

/-- What locations are compared by. -/
def Location.place (l : Location) : Place :=
  ⟨l.file.components, l.line, l.column, l.offset, l.length⟩

/-- The type that declares a called method. -/
inductive OwnerType where
  | resolved (type : String)
  | unresolved
  deriving DecidableEq, Repr, Inhabited

namespace OwnerType

/-- The owner for an optional type. -/
def ofOption : Option String → OwnerType
  | some type => resolved type
  | none => unresolved

/-- The type, when it is known. -/
def type? : OwnerType → Option String
  | resolved type => some type
  | unresolved => none

@[simp] theorem type?_ofOption (o : Option String) : (ofOption o).type? = o := by cases o <;> rfl

theorem resolved_eq_ofOption_iff {type : String} {o : Option String} :
    resolved type = ofOption o ↔ o = some type := by
  cases o <;> simp [ofOption, eq_comm]

end OwnerType

/-- A method call found in a source. -/
structure CallSite where
  receiver : Option String
  method : String
  owner : OwnerType
  location : Location
  deriving DecidableEq, Repr, Inhabited

/-- Whether the call has an explicit receiver. -/
def CallSite.hasReceiver (c : CallSite) : Bool := c.receiver.isSome

end ForbiddenCalls
