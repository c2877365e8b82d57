import ForbiddenCalls.Syntax.Grammar.Token
import ForbiddenCalls.Syntax.Tree

/-!
# Phrases of a grammar

A phrase says what a stretch of tokens may look like and which nodes it becomes.  The
choices in it are ordered: what comes first and fits is taken.  A language has a type
of symbols, each of which stands for a phrase, and phrases refer to each other
through these.

`Phrase.run` matches a phrase with the tokens that are left.  What it builds is put
behind the siblings that are there already, so a phrase that makes a node of a left
operand finds that operand as the last of them (`Phrase.around`).  A run also leaves a
trace: the farthest place that was reached, what could have stood there, how the tokens
in front of it were read, and the spans of all nodes that were built on the way.  The
repair of a faulty text starts from it.  A token may be bound to show as a given leaf,
and then it is taken as no other one.
-/

namespace ForbiddenCalls

/-- What a phrase asks of one token. -/
inductive Terminal where
  | text (text : String)
  | name
  | literal (kind : String)
  | gap
  deriving DecidableEq, Repr

/-- Whether a token is what a terminal asks for. -/
def Terminal.accepts (reserved : List String) (terminal : Terminal) (t : Token) : Bool :=
  match terminal, t.kind with
  | .text written, .word => t.text == written
  | .text written, .sign => t.text == written
  | .name, .word => !reserved.contains t.text
  | .literal kind, .literal found => found == kind
  | .gap, .gap => true
  | _, _ => false

/-- A leaf that stands for no rule of the grammar. -/
def plainLeaf (kind : String) (start stop : Nat) : Tree :=
  .node ⟨kind, false, false, false, false, start, stop, none⟩ []

/-- The nodes that a token contributes. -/
def Leaf.trees (start stop : Nat) : Leaf → List Tree
  | .hidden => []
  | .plain kind => [plainLeaf kind start stop]
  | .named kind => [Tree.leaf kind start stop]

/-- A tree as its parent knows it. -/
def withField (f : Option FieldName) : Tree → Tree
  | .node i cs => .node { i with field := f.or i.field } cs

/-- A phrase over the symbols of a grammar.

* `empty` takes nothing, and `token` one token.
* `glued` takes signs that follow each other without a blank as one leaf.
* `symbol` is the phrase of a symbol.
* `seq`, `alt` and `many` are sequence, ordered choice and repetition.
* `ahead` and `absent` look whether a phrase fits and take nothing.
* `separator` takes the end of a statement, `sameLine` asks that none is here.
* `grouped` sets whether line breaks mean nothing in a phrase.
* `node` makes a node of what a phrase builds, and `around` one that has the last
  sibling as its first child; `field` names the last node that a phrase builds. -/
inductive Phrase (σ : Type) where
  | empty
  | token (terminal : Terminal) (leaf : Leaf)
  | glued (leaf : Leaf) (parts : List String)
  | symbol (s : σ)
  | seq (a b : Phrase σ)
  | alt (a b : Phrase σ)
  | many (a : Phrase σ)
  | ahead (a : Phrase σ)
  | absent (a : Phrase σ)
  | separator
  | sameLine
  | grouped (on : Bool) (a : Phrase σ)
  | node (kind : String) (a : Phrase σ)
  | around (kind : String) (first : Option FieldName) (a : Phrase σ)
  | field (f : FieldName) (a : Phrase σ)

namespace Phrase

variable {σ : Type}

/-! ## Shorthands -/

/-- A keyword or sign that shows as itself. -/
def sign (text : String) : Phrase σ := .token (.text text) (.plain text)

instance : Coe String (Phrase σ) := ⟨sign⟩

/-- A sign that does not show. -/
def unseen (text : String) : Phrase σ := .token (.text text) .hidden

/-- A keyword or sign that shows as a named leaf. -/
def keyword (kind text : String) : Phrase σ := .token (.text text) (.named kind)

/-- An identifier as a leaf of a given kind. -/
def name (kind : String) : Phrase σ := .token .name (.named kind)

/-- A literal leaf. -/
def literal (kind : String) : Phrase σ := .token (.literal kind) (.named kind)

/-- One phrase after the other. -/
def seqs : List (Phrase σ) → Phrase σ
  | [] => .empty
  | [a] => a
  | a :: as => .seq a (seqs as)

/-- The first phrase that fits. -/
def alts : List (Phrase σ) → Phrase σ
  | [] => .absent .empty
  | [a] => a
  | a :: as => .alt a (alts as)

/-- A phrase, or nothing. -/
def opt (a : Phrase σ) : Phrase σ := .alt a .empty

/-- A phrase once or more often. -/
def repeated (a : Phrase σ) : Phrase σ := .seq a (.many a)

/-- A list with a sign between its members. -/
def separated (a : Phrase σ) (sep : String) : Phrase σ := .seq a (.many (.seq (sign sep) a))

/-- A phrase that is bound to fit if another one stands here, and is left out if not. -/
def whenever (here a : Phrase σ) : Phrase σ := .alt (.seq (.ahead here) a) (.absent here)

/-! ## Running a phrase -/

/-- The span of a node, and the number of tokens taken when it was complete. -/
structure Extent where
  start : Nat
  stop : Nat
  position : Nat

/-- What a run came across: the farthest token that did not fit, what could have
stood in its place, the nodes that were built, and what the tokens showed as when that
place was reached for the first time, the last token first. -/
structure Trace where
  farthest : Nat := 0
  expected : List (Terminal × Leaf) := []
  nodes : List Extent := []
  leaves : List Leaf := []

/-- Notes that a terminal did not fit the token at a position, behind tokens that show
as some leaves. -/
def Trace.miss (t : Trace) (position : Nat) (leaves : List Leaf) (terminal : Terminal)
    (leaf : Leaf) : Trace :=
  if t.farthest < position then
    { t with farthest := position, expected := [(terminal, leaf)], leaves }
  else if t.farthest = position then { t with expected := (terminal, leaf) :: t.expected }
  else t

/-- Where a run stands: the tokens that are left, how many were taken, where the last
one ended, what they show as, the siblings built so far, both with the last one first,
whether line breaks mean nothing, and the trace. -/
structure State where
  rest : List Token
  position : Nat := 0
  last : Nat := 0
  leaves : List Leaf := []
  built : List Tree := []
  isGrouped : Bool := false
  trace : Trace := {}

/-- The end of a run. -/
inductive Outcome where
  | matched (s : State)
  | failed (t : Trace)

namespace State

/-- Fails, noting what was asked for here. -/
def miss (s : State) (terminal : Terminal) (leaf : Leaf) : Outcome :=
  .failed (s.trace.miss s.position s.leaves terminal leaf)

/-- Goes behind a token and adds the nodes that it contributes. -/
def take (s : State) (t : Token) (rest : List Token) (leaf : Leaf) : State :=
  { s with
    rest
    position := s.position + 1
    last := t.stop
    leaves := leaf :: s.leaves
    built := leaf.trees t.start t.stop ++ s.built }

/-- The number of signs at the front that follow each other without a blank. -/
def gluedStop? (stop : Option Nat) : List String → List Token → Option (Nat × List Token)
  | [], rest => stop.map (·, rest)
  | part :: parts, t :: rest =>
    if t.text == part && stop.all (· == t.start) then gluedStop? (some t.stop) parts rest
    else none
  | _ :: _, [] => none

/-- Where the next token starts. -/
def nextStart (s : State) : Nat := (s.rest.head?.map Token.start).getD s.last

/-- Closes a node whose siblings so far were `outer`. -/
def close (s : State) (outer : List Tree) (kind : String) (start stop : Nat)
    (children : List Tree) : State :=
  { s with
    built := Tree.rule kind start stop children :: outer
    trace := { s.trace with nodes := ⟨start, stop, s.position⟩ :: s.trace.nodes } }

end State

/-- Matches a phrase with the tokens that are left.  Every phrase inside takes one from the
fuel. -/
def run (reserved : List String) (phrase : σ → Phrase σ) : Nat → Phrase σ → State → Outcome
  | 0, _, s => .failed s.trace
  | _ + 1, .empty, s => .matched s
  | _ + 1, .token terminal leaf, s =>
    match s.rest with
    | t :: rest =>
      if terminal.accepts reserved t && t.leaf.all (· == leaf) then .matched (s.take t rest leaf)
      else s.miss terminal leaf
    | [] => s.miss terminal leaf
  | _ + 1, .glued leaf parts, s =>
    match State.gluedStop? none parts s.rest with
    | some (stop, rest) =>
      .matched { s with
        rest
        position := s.position + parts.length
        last := stop
        leaves := parts.map (fun _ => leaf) ++ s.leaves
        built := leaf.trees s.nextStart stop ++ s.built }
    | none => .failed s.trace
  | fuel + 1, .symbol x, s => run reserved phrase fuel (phrase x) s
  | fuel + 1, .seq a b, s =>
    match run reserved phrase fuel a s with
    | .matched s => run reserved phrase fuel b s
    | .failed t => .failed t
  | fuel + 1, .alt a b, s =>
    match run reserved phrase fuel a s with
    | .matched s => .matched s
    | .failed trace => run reserved phrase fuel b { s with trace }
  | fuel + 1, .many a, s =>
    match run reserved phrase fuel a s with
    | .matched s' =>
      if s.position < s'.position then run reserved phrase fuel (.many a) s' else .matched s'
    | .failed trace => .matched { s with trace }
  | fuel + 1, .ahead a, s =>
    match run reserved phrase fuel a s with
    | .matched _ => .matched s
    | .failed t => .failed t
  | fuel + 1, .absent a, s =>
    match run reserved phrase fuel a s with
    | .matched _ => .failed s.trace
    | .failed _ => .matched s
  | _ + 1, .separator, s =>
    match s.rest with
    | [] => .matched s
    | t :: rest =>
      if t.kind == .gap || (t.kind == .sign && t.text == ";") then
        .matched (s.take t rest .hidden)
      else if t.separates && !s.isGrouped then .matched s
      else s.miss .gap .hidden
  | _ + 1, .sameLine, s =>
    match s.rest with
    | t :: _ => if t.separates && !s.isGrouped then .failed s.trace else .matched s
    | [] => .matched s
  | fuel + 1, .grouped on a, s =>
    match run reserved phrase fuel a { s with isGrouped := on } with
    | .matched s' => .matched { s' with isGrouped := s.isGrouped }
    | .failed t => .failed t
  | fuel + 1, .node kind a, s =>
    match run reserved phrase fuel a { s with built := [] } with
    | .matched s' =>
      let stop := if s.position = s'.position then s.nextStart else s'.last
      .matched (s'.close s.built kind s.nextStart stop s'.built.reverse)
    | .failed t => .failed t
  | fuel + 1, .around kind first a, s =>
    match s.built with
    | [] => .failed s.trace
    | inner :: outer =>
      match run reserved phrase fuel a { s with built := [withField first inner] } with
      | .matched s' => .matched (s'.close outer kind inner.start s'.last s'.built.reverse)
      | .failed t => .failed t
  | fuel + 1, .field f a, s =>
    match run reserved phrase fuel a s with
    | .matched s' =>
      match s'.built with
      | tree :: others => .matched { s' with built := withField (some f) tree :: others }
      | [] => .matched s'
    | .failed t => .failed t

end Phrase

end ForbiddenCalls
