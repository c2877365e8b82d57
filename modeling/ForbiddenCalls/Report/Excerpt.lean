import ForbiddenCalls.Report.Finding
import ForbiddenCalls.Text.ByteSize
import ForbiddenCalls.Text.Wrapped

/-!
# Source excerpts

A finding can be shown in its source.  The title comes first, then a box with the
line of the call and its neighbours, each with its number, and at last a line of
help.  Below the line of the call the call is underlined, and the severity hangs
under the middle of the underline.

A tab reaches to the next multiple of `tabWidth`, other characters take the columns
that `Text.charWidth` gives, and a call that goes on in later lines is underlined to
the end of its first line.
-/

namespace ForbiddenCalls

namespace Excerpt

/-- The width of the title and the help. -/
def textWidth : Nat := 78

/-- The distance of the tab stops. -/
def tabWidth : Nat := 4

/-- A line of a source: its number, the offset of its first byte, and its text. -/
structure Line where
  number : Nat
  offset : Nat
  chars : List Char
  deriving Repr

/-- A line without the carriage return at its end. -/
def withoutReturn (cs : List Char) : List Char :=
  if cs.getLast? = some '\r' then cs.dropLast else cs

/-- The lines of a source, given the texts between its line feeds.  Nothing is a line
where the source ends with a line feed. -/
def linesFrom (number offset : Nat) : List (List Char) → List Line
  | [] => []
  | [last] => if last.isEmpty then [] else [⟨number, offset, last⟩]
  | cs :: rest =>
    ⟨number, offset, withoutReturn cs⟩ :: linesFrom (number + 1) (offset + Text.byteSize cs + 1)
      rest

/-- The lines of a source. -/
def linesOf (source : String) : List Line := linesFrom 1 0 (Text.cutAll '\n' source.toList)

/-- A place in a line: the column, and whether it lies in an escape sequence, which
here goes on to the letter `m`. -/
structure Place where
  column : Nat := 0
  escaped : Bool := false
  deriving DecidableEq, Repr

namespace Place

/-- How many columns a character takes at a place. -/
def widthOf (p : Place) (c : Char) : Nat :=
  if p.escaped then 0
  else if c = '\t' then tabWidth - p.column % tabWidth
  else Text.charWidth c

/-- The place after a character. -/
def next (p : Place) (c : Char) : Place where
  column := p.column + p.widthOf c
  escaped := if p.escaped then c != 'm' else c == Text.escapeChar

end Place

/-- The column where a text ends that begins at a place. -/
def columnAfter (p : Place) (cs : List Char) : Nat := (cs.foldl Place.next p).column

/-- The characters of a text with blanks in place of its tabs. -/
def expand (p : Place) : List Char → List Char
  | [] => []
  | c :: cs =>
    let shown := if c = '\t' then List.replicate (p.widthOf c) ' ' else [c]
    shown ++ expand (p.next c) cs

/-- The characters in the first `n` bytes of a text. -/
def takeBytes (n : Nat) : List Char → List Char
  | [] => []
  | c :: cs => if n = 0 then [] else c :: takeBytes (n - c.utf8Size) cs

/-- A text made of one character. -/
def times (n : Nat) (c : Char) : String := String.ofList (List.replicate n c)

/-- A number at the right end of a column of the given width. -/
def padded (width n : Nat) : String :=
  times (width - (toString n).length) ' ' ++ toString n

/-- A numbered line. -/
def numbered (gutter : Nat) (l : Line) : String :=
  " " ++ padded gutter l.number ++ " │ " ++ String.ofList (expand {} l.chars)

/-- The underline of a call and the label under its middle. -/
def marks (gutter : Nat) (l : Line) (offset length : Nat) (label : String) : List String :=
  let start := columnAfter {} (takeBytes (offset - l.offset) l.chars)
  let stop := max (start + 1) (columnAfter {} (takeBytes (offset + length - l.offset) l.chars))
  let middle := (start + stop) / 2
  let margin := " " ++ times gutter ' ' ++ " · "
  [margin ++ times start ' ' ++ times (middle - start) '─' ++ "┬" ++ times (stop - middle - 1) '─',
    margin ++ times middle ' ' ++ "╰── " ++ label]

/-- The line that holds an offset, with the neighbours that are shown. -/
def focus (offset : Nat) : List Line → Option (Option Line × Line × Option Line)
  | [] => none
  | [l] => some (none, l, none)
  | l :: next :: rest =>
    if offset < next.offset then some (none, l, some next)
    else (focus offset (next :: rest)).map fun f =>
      (some (f.1.getD l), f.2.1, f.2.2)

/-- The box around the line of a call. -/
def box (path : FilePath) (source : String) (offset length : Nat) (label : String) :
    List String :=
  match focus offset (linesOf source) with
  | none => []
  | some (before, line, after) =>
    let gutter := (toString (after.getD line).number).length
    let corner := times (gutter + 2) ' '
    let place := path.text ++ ":" ++ toString line.number ++ ":" ++
      toString (offset - line.offset + 1)
    [corner ++ "╭─[" ++ place ++ "]"] ++ before.toList.map (numbered gutter) ++
      [numbered gutter line] ++ marks gutter line offset length label ++
      after.toList.map (numbered gutter) ++ [corner ++ "╰────"]

end Excerpt

/-- The lines that show a finding in its source. -/
def Finding.excerpt (f : Finding) (source : String) (help : Option String) : List String :=
  Text.wrapped Excerpt.textWidth "  × " "  │ " f.title ++
    Excerpt.box f.location.file source f.location.offset f.location.length f.severity.name ++
    match help with
    | some help => Text.wrapped Excerpt.textWidth "  help: " "        " help
    | none => []

end ForbiddenCalls
