import ForbiddenCalls.Text.DottedName

/-!
# File paths

A path is kept as the text it was given as, because it is printed that way.  It
is *compared* by its components: repeated slashes, inner `.` segments and
trailing slashes do not matter, while a leading `.` and every `..` do.  So
`src//a.kt` and `src/./a.kt` are one path with two spellings, and the order is
the lexicographic order of component lists, in which a path comes before
everything below it.

The module also holds the textual operations on paths: the name of the last
component, its extension, joining, and the path of the directory above.
-/

namespace ForbiddenCalls

/-- A component of a path. -/
inductive Component where
  | root
  | here
  | up
  | name (s : String)
  deriving DecidableEq, Repr, Hashable, Inhabited

namespace Component

/-- The kind of a component, as a number: the root comes first, then `.`, then
`..`, then the names. -/
def rank : Component → Nat
  | root => 0
  | here => 1
  | up => 2
  | name _ => 3

/-- The text of a name, and the empty text for all other components. -/
def nameText : Component → String
  | name s => s
  | _ => ""

/-- Components compare by kind, and names by their characters. -/
def order : Component → Component → Ordering :=
  compareLex (compareOn rank) (compareOn nameText)

instance : Ord Component := ⟨order⟩

instance : Std.TransOrd Component :=
  inferInstanceAs (Std.TransCmp (compareLex (compareOn rank) (compareOn nameText)))

theorem ext_rank {a b : Component} (hr : a.rank = b.rank) (hn : a.nameText = b.nameText) :
    a = b := by
  cases a <;> cases b <;> simp_all [rank, nameText]

instance : Std.LawfulEqOrd Component where
  eq_of_compare {a b} h := by
    have h' : order a b = .eq := h
    simp only [order, compareLex, compareOn, Ordering.then_eq_eq, Std.compare_eq_iff_eq] at h'
    exact ext_rank h'.1 h'.2

/-- The component that a segment between two slashes stands for.  An empty
segment and `.` stand for none. -/
def ofSegment? (s : String) : Option Component :=
  if s = "" ∨ s = "." then none
  else if s = ".." then some up
  else some (name s)

/-- The text of a component. -/
def text : Component → String
  | root => "/"
  | here => "."
  | up => ".."
  | name s => s

end Component

/-- A path, spelled as it was given. -/
structure FilePath where
  text : String
  deriving DecidableEq, Repr, Inhabited

namespace FilePath

/-- The texts between the slashes of a path. -/
def pieces (p : FilePath) : List String :=
  (Text.cutAll '/' p.text.toList).map String.ofList

/-- Whether the path starts at the root. -/
def isAbsolute (p : FilePath) : Bool :=
  p.text.toList.head? == some '/'

/-- The components of a path. -/
def components (p : FilePath) : List Component :=
  let named := p.pieces.filterMap Component.ofSegment?
  if p.isAbsolute then .root :: named
  else if p.pieces.head? == some "." then .here :: named
  else named

/-- Paths compare by their components. -/
def order (p q : FilePath) : Ordering :=
  compare p.components q.components

instance : Ord FilePath := ⟨order⟩

instance : Std.TransOrd FilePath :=
  inferInstanceAs (Std.TransCmp (compareOn FilePath.components))

/-- Two spellings of one path. -/
def same (p q : FilePath) : Bool :=
  p.components == q.components

theorem order_eq_eq {p q : FilePath} : order p q = .eq ↔ p.components = q.components :=
  Std.compare_eq_iff_eq

@[simp] theorem same_self (p : FilePath) : p.same p = true := by simp [same]

/-- The name of the last component, when that is a name. -/
def fileName? (p : FilePath) : Option String :=
  match p.components.getLast? with
  | some (.name s) => some s
  | _ => none

/-- The part of a file name after its last dot.  A name that has no dot, or
only the one it starts with, has no such part. -/
def extensionOfName? (name : String) : Option String :=
  match Text.splitLast name with
  | some (stem, ext) => if stem = "" then none else some ext
  | none => none

/-- The extension of a path with its dot, or the empty text. -/
def dottedExtension (p : FilePath) : String :=
  match p.fileName?.bind extensionOfName? with
  | some ext => "." ++ ext
  | none => ""

/-- The path below `p` that `q` names; an absolute `q` stays as it is. -/
def join (p q : FilePath) : FilePath :=
  if q.isAbsolute then q
  else if p.text = "" ∨ p.text.toList.getLast? = some '/' then ⟨p.text ++ q.text⟩
  else ⟨p.text ++ "/" ++ q.text⟩

/-- Drops the slashes and `.` segments at the end of a path, given back to
front as segments, the first segment of the path excepted. -/
def dropIdle : List String → List String
  | [] => []
  | [s] => [s]
  | s :: rest => if s = "" ∨ s = "." then dropIdle rest else s :: rest

/-- The path of the directory that holds `p`: the text in front of its last
component.  The root and the empty path have none. -/
def parent? (p : FilePath) : Option FilePath :=
  match p.components.getLast? with
  | none => none
  | some .root => none
  | some _ =>
    match dropIdle p.pieces.reverse with
    | [] => none
    | [_] => some ⟨""⟩
    | _ :: rest =>
      match dropIdle rest with
      | [""] => some ⟨"/"⟩
      | kept => some ⟨"/".intercalate kept.reverse⟩

end FilePath

end ForbiddenCalls
