import ForbiddenCalls.Syntax.Grammar.Basic
import ForbiddenCalls.Syntax.Source

/-!
# The repair of faulty texts

A text that does not follow the grammar is made to follow it at the least cost.  A
repair takes place where the reading of the tokens got stuck.  It either puts in a
token that was expected there, or skips tokens around that place.  A token that is put
in costs a fixed amount.  Skipping is the more expensive the more characters, lines and
nodes it passes over, where a node that was read completely counts once.

A repair has to bear out: some tokens behind it must be taken.  Of the tokens that may
be put in, the first one that bears out is.  What is skipped is as short as it can be
for the token with which the reading resumes.  As a last resort everything from the
start of the faulty item is skipped.

Where a text can be read in two ways up to the same place, the first way is kept: the
tokens in front of a repair go on to show as what they were read as.

Only the first fault of the cheapest repair matters.  A statement end that is put in
does not show, so a text may be repaired without a fault.
-/

namespace ForbiddenCalls

/-- What is wrong at a place: a token that is not there, or one too many. -/
inductive Fault where
  | missing (kind : String) (place : Nat)
  | unexpected (place : Nat)
  deriving DecidableEq, Repr

/-- The leaf that shows a fault. -/
def Fault.leaf : Fault → Tree
  | missing kind place => .node ⟨kind, true, true, false, false, place, place, none⟩ []
  | unexpected place => .node ⟨"ERROR", true, false, true, true, place, place, none⟩ []

namespace Repair

/-- The cost of a token that is put in. -/
def missingCost : Nat := 610

/-- The cost of skipping a stretch of a text that holds a number of nodes. -/
def skipCost (source : Source) (start stop nodes : Nat) : Nat :=
  500 + (stop - start) + 30 * (source.line stop - source.line start) + 100 * nodes

/-- Tokens that may bring a text into line, with what it took to get there: the cost,
the first fault that shows, the position at which the reading resumes behind the last
repair, the number of tokens that have to be taken, whether a node has to end where the
reading resumes, and the number of repairs since the item at a position. -/
structure Attempt where
  tokens : List Token
  cost : Nat := 0
  fault : Option Fault := none
  edge : Nat := 0
  needed : Nat := 0
  completes : Bool := false
  item : Nat := 0
  repairs : Nat := 0

/-- The repairs that count when the item at a position is read. -/
def Attempt.repairsAt (a : Attempt) (position : Nat) : Nat :=
  if a.item = position ∨ a.fault.isSome then a.repairs else 0

/-- A token that a terminal accepts, at a place. -/
def standIn (place : Nat) : Terminal → Token
  | .text text =>
    let isWord := text.toList.all fun c => c.isAlpha
    { kind := if isWord then .word else .sign, text, start := place, stop := place }
  | .name => { kind := .word, text := "_", start := place, stop := place }
  | .literal kind => { kind := .literal kind, text := "", start := place, stop := place }
  | .gap => { kind := .gap, text := "", start := place, stop := place }

/-- For each of some tokens its start and the least number of nodes and tokens that make
up the tokens from there on. -/
def fewest (nodes : List Phrase.Extent) (tokens : List Token) : List (Nat × Nat) :=
  let first := (tokens.head?.map Token.start).getD 0
  let last := (tokens.getLast?.map Token.stop).getD 0
  let inside := nodes.filter fun n => first ≤ n.start && n.stop ≤ last
  tokens.foldr (fun t known =>
    let behind (stop : Nat) : Nat := ((known.find? (stop ≤ ·.1)).map (·.2)).getD 0
    let stops := inside.filterMap fun n =>
      if n.start = t.start ∧ t.stop ≤ n.stop then some n.stop else none
    let counts := (t.stop :: stops).map fun stop => behind stop + 1
    (t.start, counts.min?.getD 1) :: known) []

/-- The positions from which tokens may be skipped up to where the reading got stuck,
the last one first, with the numbers of nodes between.  They lie behind the last
repair and in the item that got stuck, and not too far back. -/
def counts (a : Attempt) (s : Phrase.State) : List (Nat × Nat) :=
  let stuck := s.trace.farthest
  let first := max (max s.position a.edge) (stuck - 200)
  let before := fewest s.trace.nodes ((a.tokens.take stuck).drop first)
  ((before.map Prod.snd ++ [0]).zipIdx first).reverse

/-- The tokens in front of the place where the reading got stuck.  Those of the item
that got stuck are bound to what they were read as, the last one apart, which only the
next token would have settled. -/
def kept (a : Attempt) (s : Phrase.State) : List Token :=
  let bound := s.trace.leaves.reverse
  (a.tokens.take s.trace.farthest).zipIdx.map fun (t, i) =>
    if s.position ≤ i ∧ i + 1 < s.trace.farthest then { t with leaf := bound[i]? } else t

/-- The attempts that put in a token where the reading got stuck.  A keyword or a sign
has to be the last one of a node. -/
def insertions (a : Attempt) (s : Phrase.State) : List Attempt :=
  let stuck := s.trace.farthest
  let before := kept a s
  let place := (before.getLast?.map Token.stop).getD 0
  let expected := s.trace.expected.reverse.eraseDups
  let names := expected.filter fun e => e.1 == .name
  let others := expected.filter fun e => e.1 != .name
  (names ++ others).map fun (terminal, leaf) => {
    tokens := before ++ standIn place terminal :: a.tokens.drop stuck
    cost := a.cost + missingCost
    fault := a.fault.or (leaf.kind?.map (Fault.missing · place))
    edge := stuck + 1
    needed := stuck + 3
    completes := terminal matches .text _
    item := s.position
    repairs := a.repairsAt s.position + 1 }

/-- The attempt that skips the tokens between two positions, which hold a number of
nodes.  It costs a little more for every token behind the place where the reading got
stuck, so that an attempt that resumes sooner comes first. -/
def skipping (source : Source) (a : Attempt) (s : Phrase.State) (start stop nodes : Nat) :
    Option Attempt := do
  let skipped := (a.tokens.take stop).drop start
  let first ← skipped.head?
  let last ← skipped.getLast?
  pure {
    tokens := (kept a s).take start ++ a.tokens.drop stop
    cost := a.cost + skipCost source first.start last.stop nodes +
      4 * (stop - s.trace.farthest)
    fault := a.fault.or (some (.unexpected first.start))
    edge := start
    needed := start + 2
    item := s.position
    repairs := a.repairsAt s.position + 1 }

/-- The attempts that skip tokens around the place where the reading got stuck, at most
`reach` nodes.  For every token that the reading may resume with there is a row of them,
a shorter stretch before a longer one. -/
def skips (source : Source) (reach : Nat) (a : Attempt) (s : Phrase.State) :
    List (List Attempt) :=
  let stuck := s.trace.farthest
  let known := counts a s
  (List.range (reach + 1)).map fun more =>
    known.filterMap fun (count, start) =>
      if more + count ≤ reach ∧ start < stuck + more then
        skipping source a s start (stuck + more) (count + more)
      else none

/-- The attempt that skips everything from the start of the item in which the reading
got stuck. -/
def surrender (source : Source) (a : Attempt) (s : Phrase.State) : Option Attempt :=
  let (count, first) := (counts a s).getLastD (0, s.position)
  skipping source a s s.position a.tokens.length
    (first - s.position + count + (a.tokens.length - s.trace.farthest))

/-- The rows of attempts that go on from one that got stuck.  All tokens that may be put
in make one row.  Repairs that do not show are counted for each item, and from the first
one that shows on all of them are. -/
def further {μ σ : Type} (g : Grammar μ σ) (source : Source) (a : Attempt)
    (s : Phrase.State) : List (List Attempt) :=
  let last := (surrender source a s).toList
  if a.repairsAt s.position < g.repairs then
    insertions a s :: skips source g.reach a s ++ [last]
  else if a.fault.isNone then [last]
  else []

/-- Whether the reading got past the place where an attempt resumes. -/
def Attempt.fits (a : Attempt) (s : Phrase.State) : Bool :=
  a.needed = 0 || (a.edge < s.trace.farthest &&
    (!a.completes || s.trace.nodes.any (·.position = a.edge)))

/-- Takes the row with the cheapest attempt again and again, until a single attempt is
read to its end.  Of a longer row only the first attempt is kept that fits where it
resumes. -/
def search {μ σ : Type} (g : Grammar μ σ) (source : Source) :
    Nat → List (List Attempt) → Option (Attempt × Phrase.State)
  | 0, _ => none
  | _ + 1, [] => none
  | effort + 1, [] :: rows => search g source effort rows
  | effort + 1, (a :: later) :: rows =>
    let s := g.read a.tokens
    if s.rest.isEmpty && later.isEmpty then some (a, s)
    else
      let next :=
        if !s.rest.isEmpty && !a.fits s then [later]
        else if !later.isEmpty then [[a]]
        else if s.trace.farthest < a.needed then []
        else further g source a s
      let cost (row : List Attempt) : Nat := ((row.map Attempt.cost).min?).getD 0
      search g source effort ((rows ++ next.filter (!·.isEmpty)).mergeSort fun a b =>
        cost a ≤ cost b)

/-- The number of attempts that are made: fewer for a longer text. -/
def effort (tokens : List Token) : Nat := min 1000 (20 + 200000 / (tokens.length + 1))

end Repair

/-- The syntax tree of a text.  Of a faulty text it shows the first fault only. -/
def Grammar.tree {μ σ : Type} (g : Grammar μ σ) (text : String) : Tree :=
  let scan := g.lexis.scan text
  let fault (f : Fault) : Tree :=
    .node ⟨g.root, true, false, false, true, 0, text.utf8ByteSize, none⟩ [f.leaf]
  match Repair.search g (Source.ofText text) (Repair.effort scan.tokens)
    [[{ tokens := scan.tokens }]] with
  | some (a, s) =>
    match a.fault with
    | some f => fault f
    | none => g.rootTree text scan s.built.reverse
  | none =>
    let stuck := scan.tokens.drop (g.read scan.tokens).position
    fault (.unexpected ((stuck.head?.map Token.start).getD 0))

end ForbiddenCalls
