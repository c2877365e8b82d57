import ForbiddenCalls.Text.LineBreak
import ForbiddenCalls.Text.Pieces
import ForbiddenCalls.Text.Width

/-!
# Wrapping lines

A text that is wider than its column is broken into lines, each as full as it can
be.  A line may be broken where `BreakContext.allowsBreak` says so, except after a
hyphen; a hyphen between two letters or numerals has a rule of its own, which allows
a break after it.  A word that is wider than the column is broken anywhere.  Blanks
at the end of a line are dropped.

Escape sequences take no room and do not count for breaks.  One that stands where a
line is broken goes to the later line.

Lines, words and pieces are read back from what they are broken into, up to the blanks
that are dropped (`exists_rows_wrapped`).
-/

namespace ForbiddenCalls.Text

/-- A part of a line that is not broken, and the number of blanks after it. -/
structure Word where
  chars : List Char
  blanks : Nat
  deriving DecidableEq, Repr

namespace Word

/-- The width of a word without the blanks after it. -/
def width (w : Word) : Nat := displayWidth w.chars

/-- The width of a word with the blanks after it. -/
def fullWidth (w : Word) : Nat := w.width + w.blanks

/-- A text as a word: the blanks at its end are the blanks after the word. -/
def ofChars (cs : List Char) : Word :=
  let blanks := (cs.reverse.takeWhile (· == ' ')).length
  ⟨cs.take (cs.length - blanks), blanks⟩

/-- The text of a word with the blanks after it. -/
def fullText (w : Word) : List Char := w.chars ++ List.replicate w.blanks ' '

theorem fullText_ofChars (cs : List Char) : (ofChars cs).fullText = cs := by
  have hdrop : cs.drop (cs.length - (cs.reverse.takeWhile (· == ' ')).length) =
      List.replicate (cs.reverse.takeWhile (· == ' ')).length ' ' := by
    have hprefix := List.prefix_iff_eq_take.1 (cs.reverse.takeWhile_prefix (· == ' '))
    have hblanks : ∀ c ∈ cs.reverse.takeWhile (· == ' '), c = ' ' := fun c hc =>
      eq_of_beq (List.all_eq_true.1 List.all_takeWhile c hc)
    have hreverse := congrArg List.reverse hprefix
    rw [List.reverse_take, List.reverse_reverse, List.length_reverse,
      List.eq_replicate_of_mem hblanks, List.reverse_replicate] at hreverse
    simpa using hreverse.symm
  rw [fullText, ofChars, ← hdrop]
  exact List.take_append_drop _ cs

/-! ## Words of a line -/

/-- What has been read of a line: the context, the last character that is shown, the
characters of the present word, and those that are not shown after it.  Both lists
have the last character first. -/
structure Reading where
  context : BreakContext := .start
  last : Option Char := none
  word : List Char := []
  hidden : List Char := []

namespace Reading

/-- Characters after which a line is not broken, because hyphens have a rule of their
own. -/
def isHyphen (c : Char) : Bool := c = '-' || c = '\u00AD'

/-- Whether a new word may begin with a character that is shown. -/
def breaksBefore (r : Reading) (c : Char) : Bool :=
  r.last.any (fun d => !isHyphen d) && r.context.allowsBreak (.of c)

/-- The reading after one more character that is shown and goes to the present word. -/
def extend (r : Reading) (c : Char) : Reading :=
  ⟨r.context.next (.of c), some c, c :: (r.hidden ++ r.word), []⟩

/-- The reading after one more character that is shown and begins a new word. -/
def renew (r : Reading) (c : Char) : Reading :=
  ⟨r.context.next (.of c), some c, c :: r.hidden, []⟩

end Reading

/-- The unbroken parts of a line, and whether the line ends with a hyphen. -/
def parts (r : Reading) (s : EscapeState) : List Char → List (List Char) × Bool
  | [] => ([(r.hidden ++ r.word).reverse], r.last.any Reading.isHyphen)
  | c :: cs =>
    if s.shows c then
      if r.breaksBefore c then
        let found := parts (r.renew c) (s.next c) cs
        (r.word.reverse :: found.1, found.2)
      else parts (r.extend c) (s.next c) cs
    else parts { r with hidden := c :: r.hidden } (s.next c) cs

/-- The unbroken parts read the line. -/
theorem flatten_parts (r : Reading) (s : EscapeState) (cs : List Char) :
    (parts r s cs).1.flatten = (r.hidden ++ r.word).reverse ++ cs := by
  induction cs generalizing r s with
  | nil => simp [parts]
  | cons c cs ih =>
    rw [parts]
    split
    · split
      · simp [ih, Reading.renew]
      · simp [ih, Reading.extend]
    · simp [ih]

/-- A list with its last two texts joined. -/
def joinLast : List (List Char) → List (List Char)
  | [] => []
  | [a] => [a]
  | [a, b] => [a ++ b]
  | a :: b :: rest => a :: joinLast (b :: rest)

/-- Joining two texts loses nothing. -/
theorem flatten_joinLast (l : List (List Char)) : (joinLast l).flatten = l.flatten := by
  fun_induction joinLast l with
  | case1 => rfl
  | case2 => rfl
  | case3 a b => simp
  | case4 a b rest _ ih => rw [List.flatten_cons, ih]; rfl

/-- The words of a line.  A line with a hyphen at its end is not broken at the last
place that would allow it. -/
def split (line : List Char) : List Word :=
  let found := parts {} .outside line
  (if found.2 then joinLast found.1 else found.1).map ofChars

/-- The words of a line read the line. -/
theorem flatMap_fullText_split (line : List Char) : (split line).flatMap fullText = line := by
  have hparts := flatten_parts {} .outside line
  have hread : fullText ∘ ofChars = id := funext fullText_ofChars
  rw [split, List.flatMap_map, ← Function.comp_def, hread, List.flatMap_id]
  split
  · rw [flatten_joinLast, hparts]
    rfl
  · rw [hparts]
    rfl

/-! ## Pieces of a word -/

/-- Whether a character is a letter or a numeral. -/
def inWord (c : Char) : Bool := isLetter c || isNumeral c

/-- The pieces of a word, which end with its hyphens between letters and numerals,
given the characters of the piece that is being read, the last one first. -/
def hyphenPieces (piece : List Char) : List Char → List (List Char)
  | [] => [piece.reverse]
  | '-' :: c :: cs =>
    if inWord c && piece.head?.any inWord then
      ('-' :: piece).reverse :: hyphenPieces [] (c :: cs)
    else hyphenPieces ('-' :: piece) (c :: cs)
  | c :: cs => hyphenPieces (c :: piece) cs

/-- The pieces read the word. -/
theorem flatten_hyphenPieces (piece cs : List Char) :
    (hyphenPieces piece cs).flatten = piece.reverse ++ cs := by
  fun_induction hyphenPieces piece cs with
  | case1 piece => simp
  | case2 piece c cs _ ih => simp [ih]
  | case3 piece c cs _ ih => simp [ih]
  | case4 piece c cs _ ih => simp [ih]

theorem hyphenPieces_ne_nil (piece cs : List Char) : hyphenPieces piece cs ≠ [] := by
  fun_induction hyphenPieces piece cs with
  | case1 => exact List.cons_ne_nil _ _
  | case2 => exact List.cons_ne_nil _ _
  | case3 piece c cs _ ih => exact ih
  | case4 piece c cs _ ih => exact ih

/-- Gives the blanks after a word to the last one of its pieces. -/
def ofPieces (blanks : Nat) : List (List Char) → List Word
  | [] => []
  | [piece] => [⟨piece, blanks⟩]
  | piece :: rest => ⟨piece, 0⟩ :: ofPieces blanks rest

/-- The pieces of a word read the word with its blanks. -/
theorem flatMap_fullText_ofPieces (blanks : Nat) {pieces : List (List Char)} (h : pieces ≠ []) :
    (ofPieces blanks pieces).flatMap fullText = pieces.flatten ++ List.replicate blanks ' ' := by
  fun_induction ofPieces blanks pieces with
  | case1 => contradiction
  | case2 piece => simp [fullText]
  | case3 piece rest hrest ih => simp [fullText, ih hrest]

/-- The number of columns that a character takes in a text with escape sequences. -/
def widthIn (s : EscapeState) (c : Char) : Nat := if s.shows c then charWidth c else 0

/-- Breaks a text into pieces of at most a given width, or of one character that is
shown.  The piece that is being read is given, with its last character first, and its
width. -/
def chunks (room : Nat) (piece : List Char) (used : Nat) (s : EscapeState) :
    List Char → List (List Char)
  | [] => [piece.reverse]
  | c :: cs =>
    if s.shows c ∧ 0 < used ∧ room < used + widthIn s c then
      piece.reverse :: chunks room [c] (widthIn s c) (s.next c) cs
    else chunks room (c :: piece) (used + widthIn s c) (s.next c) cs

/-- The chunks read the text. -/
theorem flatten_chunks (room : Nat) (piece : List Char) (used : Nat) (s : EscapeState)
    (cs : List Char) : (chunks room piece used s cs).flatten = piece.reverse ++ cs := by
  induction cs generalizing piece used s with
  | nil => simp [chunks]
  | cons c cs ih =>
    rw [chunks]
    split
    · simp [ih]
    · simp [ih]

theorem chunks_ne_nil (room : Nat) (piece : List Char) (used : Nat) (s : EscapeState)
    (cs : List Char) : chunks room piece used s cs ≠ [] := by
  induction cs generalizing piece used s with
  | nil => exact List.cons_ne_nil _ _
  | cons c cs ih =>
    rw [chunks]
    split
    · exact List.cons_ne_nil _ _
    · exact ih _ _ _

/-- The words of a line, none of which is wider than it has to be in a column of the
given width. -/
def ofLine (width : Nat) (line : List Char) : List Word :=
  ((split line).flatMap fun w => ofPieces w.blanks (hyphenPieces [] w.chars)).flatMap
    fun w => ofPieces w.blanks (chunks width [] 0 .outside w.chars)

/-- Breaking up wide words loses nothing. -/
theorem flatMap_fullText_ofLine (width : Nat) (line : List Char) :
    (ofLine width line).flatMap fullText = line := by
  have hchunks : ∀ w : Word,
      (ofPieces w.blanks (chunks width [] 0 .outside w.chars)).flatMap fullText = w.fullText := by
    intro w
    rw [flatMap_fullText_ofPieces _ (chunks_ne_nil width [] 0 .outside w.chars), flatten_chunks]
    rfl
  have hpieces : ∀ w : Word,
      (ofPieces w.blanks (hyphenPieces [] w.chars)).flatMap fullText = w.fullText := by
    intro w
    rw [flatMap_fullText_ofPieces _ (hyphenPieces_ne_nil [] w.chars), flatten_hyphenPieces]
    rfl
  simp only [ofLine, List.flatMap_assoc, hchunks, hpieces, flatMap_fullText_split]

/-! ## Filling lines -/

/-- The text of the words of a line, without the blanks at its end. -/
def lineText : List Word → List Char
  | [] => []
  | [w] => w.chars
  | w :: ws => w.chars ++ List.replicate w.blanks ' ' ++ lineText ws

/-- Fills lines with words.  The present line has the given room, and all later ones
have the room that is given next. -/
def fill (room later used : Nat) (line : List Word) : List Word → List (List Word)
  | [] => [line]
  | w :: ws =>
    if room < used + w.width ∧ line ≠ [] then line :: fill later later w.fullWidth [w] ws
    else fill room later (used + w.fullWidth) (line ++ [w]) ws

/-- A line of words is its text and the blanks at its end. -/
theorem exists_flatMap_fullText (ws : List Word) :
    ∃ blanks, ws.flatMap fullText = lineText ws ++ List.replicate blanks ' ' := by
  fun_induction lineText ws with
  | case1 => exact ⟨0, rfl⟩
  | case2 w => exact ⟨w.blanks, by simp [fullText]⟩
  | case3 w ws _ ih =>
    obtain ⟨blanks, ih⟩ := ih
    exact ⟨blanks, by simp [fullText, ih]⟩

/-- The filled lines hold the words. -/
theorem flatten_fill (room later used : Nat) (line ws : List Word) :
    (fill room later used line ws).flatten = line ++ ws := by
  induction ws generalizing room used line with
  | nil => simp [fill]
  | cons w ws ih =>
    rw [fill]
    split
    · simp [ih]
    · simp [ih]

end Word

/-- The rows that a line is broken into, the first of which has a room of its own. -/
def rowsOf (room later : Nat) (line : List Char) : List (List Char) :=
  (Word.fill room later 0 [] (⟨[], 0⟩ :: Word.ofLine later line)).map Word.lineText

/-- Rows with an indentation, which is another one for the first row. -/
def indented (first later : String) : List (List Char) → List String
  | [] => []
  | row :: rows => (first ++ String.ofList row) :: rows.map fun row => later ++ String.ofList row

/-- The lines of a text in a column of the given width.  The first line begins with
one indentation and all later ones with another. -/
def wrapped (width : Nat) (first later text : String) : List String :=
  let rooms := (width - displayWidth first.toList, width - displayWidth later.toList)
  indented first later ((cutAll '\n' text.toList).flatMap (rowsOf rooms.1 rooms.2))

/-! ## What is lost -/

/-- A line is broken into rows: the rows are the line, but for blanks at the end of each row. -/
inductive BrokenInto : List Char → List (List Char) → Prop where
  | nil : BrokenInto [] []
  | cons {row rest : List Char} {rows : List (List Char)} (blanks : Nat) :
      BrokenInto rest rows → BrokenInto (row ++ List.replicate blanks ' ' ++ rest) (row :: rows)

theorem brokenInto_map_lineText (lines : List (List Word)) :
    BrokenInto (lines.flatten.flatMap Word.fullText) (lines.map Word.lineText) := by
  induction lines with
  | nil => exact .nil
  | cons ws lines ih =>
    obtain ⟨blanks, hws⟩ := Word.exists_flatMap_fullText ws
    rw [List.flatten_cons, List.flatMap_append, hws]
    exact ih.cons blanks

theorem brokenInto_rowsOf (room later : Nat) (line : List Char) :
    BrokenInto line (rowsOf room later line) := by
  have hrows := brokenInto_map_lineText
    (Word.fill room later 0 [] (⟨[], 0⟩ :: Word.ofLine later line))
  rw [Word.flatten_fill, List.nil_append, List.flatMap_cons, Word.flatMap_fullText_ofLine] at hrows
  exact hrows

/-- **Wrapping a text loses nothing but blanks.**  The text is its lines with line breaks
between them, each line is broken into rows, and what is printed are all rows, in order and
with their indentation. -/
theorem exists_rows_wrapped (width : Nat) (first later text : String) :
    ['\n'].intercalate (cutAll '\n' text.toList) = text.toList ∧
    ∃ rows : List Char → List (List Char), (∀ line, BrokenInto line (rows line)) ∧
      wrapped width first later text =
        indented first later ((cutAll '\n' text.toList).flatMap rows) :=
  ⟨intercalate_cutAll '\n' text.toList, _, fun _ => brokenInto_rowsOf _ _ _, rfl⟩

end ForbiddenCalls.Text
