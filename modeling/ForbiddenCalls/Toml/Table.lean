import ForbiddenCalls.Toml.Value

/-!
# Building TOML tables

The tables of a document come about in three ways: a header names them, the path
of a header or of a dotted key passes through them, or both.  A table is defined
once.  So a table that a header named takes no further header and no dotted key
from outside, a table that came about through dotted keys takes no header, and a
key is given a value once.  A table that a header's path only passed through may
still get its own header, and an array of tables gets a new element for each of
its headers.
-/

namespace ForbiddenCalls.Toml

/-- How a table came about. -/
inductive Origin where
  | header
  | path
  | dotted
  deriving DecidableEq, Repr

/-- What a key stands for while a document is being read. -/
inductive Node where
  | leaf (v : Value)
  | table (origin : Origin) (entries : List (String × Node))
  | tables (elements : List (List (String × Node)))

/-- The keys of a table with what they stand for. -/
abbrev Entries : Type := List (String × Node)

/-- Gives a key something to stand for, in its place or at the end. -/
def Entries.put (key : String) (n : Node) : Entries → Entries
  | [] => [(key, n)]
  | e :: es => if e.1 = key then (key, n) :: es else e :: Entries.put key n es

/-- Changes the table at the end of a path.  Tables that are not there come about
on the way; of an array of tables the last element is meant. -/
def Entries.alterAt (dotted : Bool) (change : Origin → Entries → Option Entries) :
    List String → Origin → Entries → Option Entries
  | [], origin, es => change origin es
  | key :: keys, _, es =>
    match es.lookup key with
    | none =>
      let origin := if dotted then .dotted else .path
      (Entries.alterAt dotted change keys origin []).map fun sub =>
        Entries.put key (.table origin sub) es
    | some (.leaf _) => none
    | some (.table origin sub) =>
      if dotted ∧ origin = .header then none
      else
        (Entries.alterAt dotted change keys origin sub).map fun sub =>
          Entries.put key (.table origin sub) es
    | some (.tables elements) =>
      match elements.reverse with
      | [] => none
      | last :: before =>
        (Entries.alterAt dotted change keys .header last).map fun last =>
          Entries.put key (.tables (last :: before).reverse) es

/-- A key with its value, below the tables that a dotted key names in front. -/
structure Entry where
  path : List String
  key : String
  value : Value

/-- Adds an entry to a table. -/
def Entries.add (es : Entries) (e : Entry) : Option Entries :=
  Entries.alterAt true
    (fun origin es =>
      if (origin == .dotted) == e.path.isEmpty then none
      else if (es.lookup e.key).isSome then none
      else some (es ++ [(e.key, .leaf e.value)]))
    e.path .header es

/-- A header with the entries below it. -/
structure Section where
  path : List String
  key : String
  isArray : Bool
  entries : List Entry

/-- Adds a section to a document. -/
def Entries.addSection (es : Entries) (s : Section) : Option Entries :=
  let define (es : Entries) : Option Entries := s.entries.foldlM Entries.add es
  Entries.alterAt false
    (fun _ es =>
      match s.isArray, es.lookup s.key with
      | false, none => (define []).map fun t => Entries.put s.key (.table .header t) es
      | false, some (.table .path sub) =>
        (define sub).map fun t => Entries.put s.key (.table .header t) es
      | true, none => (define []).map fun t => Entries.put s.key (.tables [t]) es
      | true, some (.tables ts) =>
        (define []).map fun t => Entries.put s.key (.tables (ts ++ [t])) es
      | _, _ => none)
    s.path .header es

mutual

/-- The value that a key stands for. -/
def Node.toValue : Node → Value
  | .leaf v => v
  | .table _ es => .table (entriesToValues es)
  | .tables ts => .array (tablesToValues ts)

/-- The values of the keys of a table. -/
def entriesToValues : List (String × Node) → List (String × Value)
  | [] => []
  | (key, n) :: es => (key, n.toValue) :: entriesToValues es

/-- The values of the elements of an array of tables. -/
def tablesToValues : List (List (String × Node)) → List Value
  | [] => []
  | es :: ts => .table (entriesToValues es) :: tablesToValues ts

end

end ForbiddenCalls.Toml
