import ForbiddenCalls.Syntax.Grammar.Token
import ForbiddenCalls.Syntax.Grammar.Phrase

/-!
# Comments in a tree

No phrase speaks of comments.  They are put into the tree when it is complete: a
comment becomes a child of the smallest node that begins before it and ends behind
it, between the children on its left and those on its right.
-/

namespace ForbiddenCalls

namespace Comment

/-- The leaf for a comment. -/
def leaf (c : Comment) : Tree := Tree.leaf c.kind c.start c.stop

mutual

/-- Puts a leaf into a tree that reaches around it. -/
def addTo (leaf : Tree) : Tree → Tree
  | .node i children => .node i (addAmong leaf children)

/-- Puts a leaf among siblings, or into the one that reaches around it. -/
def addAmong (leaf : Tree) : List Tree → List Tree
  | [] => [leaf]
  | t :: ts =>
    if leaf.stop ≤ t.start then leaf :: t :: ts
    else if t.start < leaf.start ∧ leaf.stop < t.stop then addTo leaf t :: ts
    else t :: addAmong leaf ts

end

/-- A tree with comments put into it. -/
def addAll (comments : List Comment) (t : Tree) : Tree :=
  comments.foldl (fun t c => addTo c.leaf t) t

end Comment

end ForbiddenCalls
