import ForbiddenCalls.Pattern.Nesting
import ForbiddenCalls.Text.Pieces

/-!
# Ignore files

An ignore file lists, one a line, the paths that a search leaves out.  A line that
begins with `#` is a comment.  A line that begins with `!` keeps what it accepts.
A pattern with a slash at its beginning or inside is compared with the whole path
below the directory of the file, and any other pattern with every name in it; a
slash at the end restricts a pattern to directories.  Of the lines that accept a
path, the last one decides.  A line that is not a pattern is left out.  One pattern
that is nested too deeply makes the whole file void.
-/

namespace ForbiddenCalls

open Pattern (IgnorePattern)

/-- What an ignore file says of a path. -/
inductive IgnoreVerdict where
  | ignored
  | kept
  deriving DecidableEq, Repr

/-- A line of an ignore file. -/
structure IgnoreLine where
  pattern : IgnorePattern
  verdict : IgnoreVerdict
  onlyDirs : Bool

/-- The lines of an ignore file. -/
abbrev IgnoreFile : Type := List IgnoreLine

namespace IgnoreLine

/-- Whether a text ends with another one. -/
def endsWith (suffix cs : List Char) : Bool := suffix.isSuffixOf cs

/-- A line without the blanks at its end, unless the last of them is escaped. -/
def trimmed (cs : List Char) : List Char :=
  if endsWith ['\\', ' '] cs then cs else (cs.reverse.dropWhile Text.isBlank).reverse

/-- The verdict of a line, whether its pattern begins with a slash, and the rest of
its pattern. -/
def opening : List Char → IgnoreVerdict × Bool × List Char
  | '\\' :: '!' :: rest => (.ignored, false, '!' :: rest)
  | '\\' :: '#' :: rest => (.ignored, false, '#' :: rest)
  | '!' :: '/' :: rest => (.kept, true, rest)
  | '!' :: rest => (.kept, false, rest)
  | '/' :: rest => (.ignored, true, rest)
  | cs => (.ignored, false, cs)

/-- Whether a pattern is meant for directories, and the pattern without the slash
that says so.  A backslash in front of that slash goes with it. -/
def closing (cs : List Char) : Bool × List Char :=
  match cs.reverse with
  | '/' :: '\\' :: rest => (true, rest.reverse)
  | '/' :: rest => (true, rest.reverse)
  | _ => (false, cs)

/-- The pattern for a whole relative path that a pattern stands for. -/
def expanded (anchored : Bool) (cs : List Char) : List Char :=
  let cs :=
    if anchored ∨ cs.contains '/' ∨ cs = ['*', '*'] then cs else '*' :: '*' :: '/' :: cs
  if endsWith ['/', '*', '*'] cs then cs ++ ['/', '*'] else cs

/-- Reads a line. -/
def ofLine? (cs : List Char) : Option IgnoreLine :=
  if cs.head? = some '#' then none
  else
    match trimmed cs with
    | [] => none
    | cs =>
      let (verdict, anchored, cs) := opening cs
      let (onlyDirs, cs) := closing cs
      (IgnorePattern.parse? (expanded anchored cs)).map fun pattern =>
        { pattern, verdict, onlyDirs }

/-- Whether a line accepts a path. -/
def accepts (l : IgnoreLine) (path : String) (isDir : Bool) : Bool :=
  (!l.onlyDirs || isDir) && l.pattern.accepts path

end IgnoreLine

namespace IgnoreFile

/-- A line without the carriage return at its end. -/
def withoutReturn (line : List UInt8) : List UInt8 :=
  if line.getLast? = some 13 then line.dropLast else line

/-- The lines of a text in bytes.  A line ends with a line feed, which a carriage
return may precede; the last line may have no end. -/
def linesOf (bytes : List UInt8) : List (List UInt8) :=
  match (Text.cutAll 10 bytes).reverse with
  | [] => []
  | last :: ended =>
    (ended.map withoutReturn).reverse ++ if last.isEmpty then [] else [last]

/-- The first line of a text in bytes, if it is a text. -/
def firstLine? (bytes : ByteArray) : Option String :=
  (linesOf bytes.toList).head?.bind fun line => String.fromUTF8? ⟨line.toArray⟩

/-- The texts of the lines, up to the first line that is not a text. -/
def readable : List (List UInt8) → List (List Char)
  | [] => []
  | line :: lines =>
    match String.fromUTF8? ⟨line.toArray⟩ with
    | some text => text.toList :: readable lines
    | none => []

/-- The patterns in the lines of a text.  A byte order mark at its beginning is not
part of the first line. -/
def ofLines : List (List Char) → IgnoreFile
  | [] => []
  | first :: rest =>
    (first.dropWhile (· == '\uFEFF') :: rest).filterMap IgnoreLine.ofLine?

/-- An ignore file all of whose patterns are nested no deeper than is allowed, and the
empty one instead of any other. -/
def usable (f : IgnoreFile) : IgnoreFile :=
  if f.all fun l => l.pattern.nesting ≤ IgnorePattern.maxNesting then f else []

/-- Reads an ignore file. -/
def ofBytes (bytes : ByteArray) : IgnoreFile :=
  usable (ofLines (readable (linesOf bytes.toList)))

/-- What an ignore file says of a path below its directory, if it says anything. -/
def verdict? (f : IgnoreFile) (path : String) (isDir : Bool) : Option IgnoreVerdict :=
  (f.reverse.find? fun l => l.accepts path isDir).map (·.verdict)

end IgnoreFile

end ForbiddenCalls
