import ForbiddenCalls.Syntax.Grammar.Comments

/-!
# Grammars

A grammar consists of the lexis of its language, the words that are no identifiers,
the phrases of its symbols, and the phrase of a whole file, which takes as many of the
file's items as it can.  It also says how much is done to make sense of a faulty item:
the number of repairs, and how many nodes one of them may skip.
-/

namespace ForbiddenCalls

/-- A grammar with modes `μ` and symbols `σ`. -/
structure Grammar (μ σ : Type) where
  lexis : Lexis μ
  reserved : List String
  phrase : σ → Phrase σ
  file : Phrase σ
  root : String
  repairs : Nat
  reach : Nat

namespace Grammar

variable {μ σ : Type}

/-- How deep the phrases inside each other may go.  A token is reached through less
than two hundred of them. -/
def depth (tokens : List Token) : Nat := 200 * (tokens.length + 2)

/-- Takes as many items as there are at the front of some tokens. -/
def read (g : Grammar μ σ) (tokens : List Token) : Phrase.State :=
  match g.file.run g.reserved g.phrase (depth tokens) { rest := tokens } with
  | .matched s => s
  | .failed trace => { rest := tokens, trace }

/-- The span of a root: from the first token or comment to the end of the text. -/
def rootTree (g : Grammar μ σ) (text : String) (scan : Scan) (children : List Tree) : Tree :=
  let starts := (scan.tokens.map Token.start).take 1 ++ (scan.comments.map Comment.start).take 1
  let stop := text.utf8ByteSize
  Comment.addAll scan.comments (Tree.rule g.root (starts.min?.getD stop) stop children)

end Grammar

end ForbiddenCalls
