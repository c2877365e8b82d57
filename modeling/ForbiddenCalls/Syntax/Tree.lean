import ForbiddenCalls.Syntax.Source

/-!
# Syntax trees

A node of a syntax tree has a kind, a span of the source, some flags and children.
A *named* node stands for a rule of the grammar, the others for punctuation and
keywords.  Where the source does not follow the grammar, there is an error node,
or a missing node that stands for a token which is not there; a node that holds
one of these is flagged, so that a search for them can leave out whole subtrees.

A child may be the one that its parent knows under a field name.
-/

namespace ForbiddenCalls

/-- The names under which a node knows some of its children. -/
inductive FieldName where
  | name
  | object
  | type
  | value
  deriving DecidableEq, Repr

/-- What is known of a node besides its children. -/
structure NodeInfo where
  kind : String
  isNamed : Bool
  isMissing : Bool
  isError : Bool
  hasError : Bool
  start : Nat
  stop : Nat
  field : Option FieldName
  deriving DecidableEq, Repr

/-- A syntax tree. -/
inductive Tree where
  | node (info : NodeInfo) (children : List Tree)

namespace Tree

/-- The root of a tree. -/
def info : Tree → NodeInfo
  | node i _ => i

/-- The subtrees below the root. -/
def children : Tree → List Tree
  | node _ cs => cs

@[simp] theorem info_node (i : NodeInfo) (cs : List Tree) : (node i cs).info = i := rfl

@[simp] theorem children_node (i : NodeInfo) (cs : List Tree) : (node i cs).children = cs := rfl

instance : Inhabited Tree := ⟨node ⟨"", false, false, false, false, 0, 0, none⟩ []⟩

/-- The kind of a node. -/
def kind (t : Tree) : String := t.info.kind

/-- The offset at which a node starts. -/
def start (t : Tree) : Nat := t.info.start

/-- The offset at which a node ends. -/
def stop (t : Tree) : Nat := t.info.stop

/-- The text of a node. -/
def text (s : Source) (t : Tree) : String := s.slice t.start t.stop

/-- The children that stand for rules of the grammar. -/
def namedChildren (t : Tree) : List Tree := t.children.filter fun c => c.info.isNamed

/-- The child with a given field name. -/
def field? (t : Tree) (f : FieldName) : Option Tree :=
  t.children.find? fun c => c.info.field == some f

/-- The first named child of one of the given kinds. -/
def firstNamed? (t : Tree) (kinds : List String) : Option Tree :=
  t.namedChildren.find? fun c => kinds.contains c.kind

/-! ## Building trees -/

/-- A named node with children. -/
def rule (kind : String) (start stop : Nat) (children : List Tree) : Tree :=
  .node ⟨kind, true, false, false, false, start, stop, none⟩ children

/-- A named node without children. -/
def leaf (kind : String) (start stop : Nat) : Tree := rule kind start stop []

/-- A keyword or a sign. -/
def sign (text : String) (start : Nat) : Tree :=
  .node ⟨text, false, false, false, false, start, start + text.utf8ByteSize, none⟩ []

/-- A node that its parent knows under a field name. -/
def inField (field : FieldName) : Tree → Tree
  | .node i cs => .node { i with field := some field } cs

/-! ## Size -/

mutual

/-- The number of nodes of a tree. -/
def size : Tree → Nat
  | node _ cs => sizeAll cs + 1

/-- The number of nodes of a list of trees. -/
def sizeAll : List Tree → Nat
  | [] => 0
  | t :: ts => t.size + sizeAll ts

end

theorem size_eq (t : Tree) : t.size = sizeAll t.children + 1 := by cases t; rw [size]; rfl

theorem sizeAll_append (a b : List Tree) : sizeAll (a ++ b) = sizeAll a + sizeAll b := by
  induction a with
  | nil => simp [sizeAll]
  | cons t a ih => simp only [List.cons_append, sizeAll, ih]; omega

/-! ## Errors -/

/-- Whether a node is an error or stands for a missing token. -/
def isFault (t : Tree) : Bool := t.info.isError || t.info.isMissing

/-- The first fault among the nodes of a stack of trees, taken in the order of
the source.  Only flagged nodes are looked into. -/
def firstFaultIn? : List Tree → Option Tree
  | [] => none
  | t :: stack =>
    if t.isFault then some t
    else if t.info.hasError then firstFaultIn? (t.children ++ stack)
    else firstFaultIn? stack
  termination_by stack => sizeAll stack
  decreasing_by
    · simp only [sizeAll_append, sizeAll, size_eq]; omega
    · simp only [sizeAll, size_eq]; omega

/-- The first fault of a tree. -/
def firstFault? (t : Tree) : Option Tree := firstFaultIn? [t]

end Tree

end ForbiddenCalls
