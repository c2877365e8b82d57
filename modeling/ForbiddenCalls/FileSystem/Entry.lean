import ForbiddenCalls.Text.Pieces

/-!
# File trees

A file tree is the world that sources are looked up in.  Its entries are files,
which hold bytes, symbolic links, which hold the text of the path that they stand
for, directories, which hold named entries, and barred directories, which cannot
be listed for some reason.

Where an entry lies is told by its trail, the list of the names that lead to it
from the root, the innermost name first: going down puts a name in front and going
up drops one.
-/

namespace ForbiddenCalls

/-- A file, a symbolic link, a directory, or a directory that cannot be listed. -/
inductive Entry where
  | file (bytes : ByteArray)
  | link (target : String)
  | dir (entries : List (String × Entry))
  | barred (reason : String)
  deriving Inhabited

/-- The names that lead from the root to an entry, the innermost one first. -/
abbrev Trail : Type := List String

/-- Why a path cannot be read or written. -/
inductive AccessError where
  | notFound
  | notDirectory
  | isDirectory
  | tooManyLinks
  | notUtf8
  deriving DecidableEq, Repr

/-- The printed form of the reason. -/
def AccessError.message : AccessError → String
  | notFound => "No such file or directory (os error 2)"
  | notDirectory => "Not a directory (os error 20)"
  | isDirectory => "Is a directory (os error 21)"
  | tooManyLinks => "Too many levels of symbolic links (os error 40)"
  | notUtf8 => "stream did not contain valid UTF-8"

namespace Entry

/-- Whether an entry is a directory.  A link to a directory is not one. -/
def isDir : Entry → Bool
  | dir _ => true
  | barred _ => true
  | _ => false

/-- The named entries of a directory; other entries have none. -/
def entries : Entry → List (String × Entry)
  | dir es => es
  | _ => []

/-- The entry of a directory with a given name. -/
def child? (e : Entry) (name : String) : Option Entry := e.entries.lookup name

/-- The entry that is reached by going down through the given names, the
outermost name first.  No link is followed. -/
def descend? (e : Entry) : List String → Option Entry
  | [] => some e
  | name :: names => (e.child? name).bind fun c => c.descend? names

@[simp] theorem descend?_nil (e : Entry) : e.descend? [] = some e := rfl

theorem descend?_append (e : Entry) (a b : List String) :
    e.descend? (a ++ b) = (e.descend? a).bind fun c => c.descend? b := by
  induction a generalizing e with
  | nil => rfl
  | cons name names ih =>
    simp only [List.cons_append, descend?]
    cases e.child? name with
    | none => rfl
    | some c => simpa using ih c

/-- Gives a name in a list of entries a new entry, in its old position if it has
one and at the end otherwise. -/
def assign (name : String) (new : Entry) : List (String × Entry) → List (String × Entry)
  | [] => [(name, new)]
  | (n, e) :: rest => if n = name then (n, new) :: rest else (n, e) :: assign name new rest

/-- Puts an entry where the given names lead to, the outermost name
first.  Directories that are not there yet are made. -/
def insert (new : Entry) : List String → Entry → Entry
  | [], _ => new
  | name :: names, e =>
    .dir (assign name (insert new names ((e.child? name).getD (.dir []))) e.entries)

end Entry

end ForbiddenCalls
