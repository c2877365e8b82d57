import ForbiddenCalls.Rule.Error
import ForbiddenCalls.Text.DottedName

/-!
# Message templates

A rule's message is a text with holes for the method, the owner type and the
receiver of the call it is about.  Read from left to right, a doubled brace
stands for one brace, any other opening brace starts a placeholder whose name
goes up to the next closing brace, and every other character stands for itself,
a lone closing brace included.

Reading goes in two steps.  `Template.marks?` turns the characters into marks,
each a character or a hole, and stops at the leftmost placeholder that is not
closed or not known.  `Template.gather` joins neighbouring characters into one
text, so the segments of a template hold no empty text and no two texts in a
row.  `Template.escape` and `Template.write` go the other way.
-/

namespace ForbiddenCalls

/-- What a placeholder stands for. -/
inductive Placeholder where
  | method
  | owner
  | receiver
  deriving DecidableEq, Repr

namespace Placeholder

/-- The name of a placeholder. -/
def name : Placeholder → String
  | method => "method"
  | owner => "owner"
  | receiver => "receiver"

/-- The placeholder with a given name. -/
def ofName? : String → Option Placeholder
  | "method" => some method
  | "owner" => some owner
  | "receiver" => some receiver
  | _ => none

@[simp] theorem ofName?_name (p : Placeholder) : ofName? p.name = some p := by cases p <;> rfl

theorem ofName?_eq_some_iff {s : String} {p : Placeholder} : ofName? s = some p ↔ s = p.name := by
  constructor
  · intro h
    unfold ofName? at h
    split at h <;> simp only [Option.some.injEq, reduceCtorEq] at h <;> subst h <;> rfl
  · rintro rfl
    exact ofName?_name p

end Placeholder

/-- The values that fill the holes of a template. -/
structure MessageArgs where
  method : String := ""
  owner : String := ""
  receiver : String := ""
  deriving DecidableEq, Repr, Inhabited

/-- The value for a placeholder. -/
def MessageArgs.value (args : MessageArgs) : Placeholder → String
  | .method => args.method
  | .owner => args.owner
  | .receiver => args.receiver

/-- A piece of a template. -/
inductive Segment where
  | text (s : String)
  | hole (p : Placeholder)
  deriving DecidableEq, Repr

/-- The text of a segment for given values.  A value is put in as it is. -/
def Segment.render (args : MessageArgs) : Segment → String
  | .text s => s
  | .hole p => args.value p

/-- A parsed template together with the text it was read from. -/
structure Template where
  raw : String
  segments : List Segment
  deriving DecidableEq, Repr

namespace Template

/-- One step of reading a template: a character or a hole. -/
inductive Mark where
  | char (c : Char)
  | hole (p : Placeholder)
  deriving DecidableEq, Repr

/-- Why reading stops. -/
inductive Fault where
  | unclosed
  | unknown (name : String)
  deriving DecidableEq, Repr

/-- The rest after a placeholder is shorter than the text from its brace on. -/
theorem length_rest_lt {c d : Char} {cs name rest : List Char}
    (h : Text.cutFirst d cs = some (name, rest)) : rest.length < (c :: cs).length := by
  rw [Text.eq_of_cutFirst h]
  simp only [List.length_cons, List.length_append]
  omega

/-- The marks of a template, or the fault of its leftmost bad placeholder. -/
def marks? : List Char → Except Fault (List Mark)
  | [] => .ok []
  | '{' :: '{' :: cs => (marks? cs).map (.char '{' :: ·)
  | '}' :: '}' :: cs => (marks? cs).map (.char '}' :: ·)
  | '{' :: cs =>
    match _h : Text.cutFirst '}' cs with
    | none => .error .unclosed
    | some (name, rest) =>
      match Placeholder.ofName? (String.ofList (Text.trimBlanks name)) with
      | none => .error (.unknown (String.ofList name))
      | some p => (marks? rest).map (.hole p :: ·)
  | c :: cs => (marks? cs).map (.char c :: ·)
  termination_by cs => cs.length
  decreasing_by
    all_goals first
      | exact length_rest_lt _h
      | (simp only [List.length_cons]; omega)

@[simp] theorem marks?_nil : marks? [] = .ok [] := by simp only [marks?]

/-- A doubled opening brace stands for one brace. -/
@[simp] theorem marks?_openPair (cs : List Char) :
    marks? ('{' :: '{' :: cs) = (marks? cs).map (.char '{' :: ·) := by
  simp only [marks?]

/-- A doubled closing brace stands for one brace. -/
@[simp] theorem marks?_closePair (cs : List Char) :
    marks? ('}' :: '}' :: cs) = (marks? cs).map (.char '}' :: ·) := by
  simp only [marks?]

/-- Any other opening brace starts a placeholder, which has to be closed. -/
theorem marks?_unclosed {cs : List Char} (h : cs.head? ≠ some '{')
    (hcut : Text.cutFirst '}' cs = none) : marks? ('{' :: cs) = .error .unclosed := by
  rw [marks?]
  · split
    · rfl
    · next hcut' => exact nomatch hcut.symm.trans hcut'
  · rintro cs' rfl
    exact h rfl

/-- The name of a placeholder goes up to the next closing brace. -/
theorem marks?_placeholder {cs name rest : List Char} (h : cs.head? ≠ some '{')
    (hcut : Text.cutFirst '}' cs = some (name, rest)) :
    marks? ('{' :: cs) =
      match Placeholder.ofName? (String.ofList (Text.trimBlanks name)) with
      | none => .error (.unknown (String.ofList name))
      | some p => (marks? rest).map (.hole p :: ·) := by
  rw [marks?]
  · split
    · next hcut' => exact nomatch hcut.symm.trans hcut'
    · next hcut' =>
      obtain ⟨rfl, rfl⟩ := Prod.mk.inj (Option.some.inj (hcut.symm.trans hcut'))
      rfl
  · rintro cs' rfl
    exact h rfl

/-- Any other character stands for itself. -/
theorem marks?_other {c : Char} {cs : List Char} (hopen : c ≠ '{')
    (hclose : c = '}' → cs.head? ≠ some '}') :
    marks? (c :: cs) = (marks? cs).map (.char c :: ·) := by
  rw [marks?]
  · exact fun _ hc _ => hopen hc
  · rintro cs' hc rfl
    exact hclose hc rfl
  · exact hopen

/-- Marks as segments: neighbouring characters are joined into one text. -/
def gather : List Mark → List Segment
  | [] => []
  | .hole p :: ms => .hole p :: gather ms
  | .char c :: ms =>
    match gather ms with
    | .text s :: segs => .text (String.singleton c ++ s) :: segs
    | segs => .text (String.singleton c) :: segs

theorem gather_hole (p : Placeholder) (ms : List Mark) :
    gather (.hole p :: ms) = .hole p :: gather ms := rfl

/-- A character in front of a text joins it. -/
theorem gather_char_of_text {ms : List Mark} {s : String} {segs : List Segment}
    (h : gather ms = .text s :: segs) (c : Char) :
    gather (.char c :: ms) = .text (String.singleton c ++ s) :: segs := by
  rw [gather, h]

/-- A character in front of anything else is a text of its own. -/
theorem gather_char_of_not_text {ms : List Mark} (h : ∀ s, (gather ms).head? ≠ some (.text s))
    (c : Char) : gather (.char c :: ms) = .text (String.singleton c) :: gather ms := by
  rw [gather]
  split
  · next s segs hgather => exact absurd (by rw [hgather, List.head?_cons]) (h s)
  · rfl

/-- Reads a template. -/
def parse (raw : String) : Except RuleError Template :=
  match marks? raw.toList with
  | .ok ms => .ok ⟨raw, gather ms⟩
  | .error .unclosed => .error (.unclosedBrace raw)
  | .error (.unknown name) => .error (.unknownPlaceholder name)

theorem parse_of_marks {raw : String} {ms : List Mark} (h : marks? raw.toList = .ok ms) :
    parse raw = .ok ⟨raw, gather ms⟩ := by
  rw [parse, h]

/-- The message for given values. -/
def render (t : Template) (args : MessageArgs) : String :=
  String.join (t.segments.map (Segment.render args))

/-! ## Writing -/

/-- A text with its braces doubled. -/
def escape (cs : List Char) : List Char :=
  cs.flatMap fun c => if c = '{' ∨ c = '}' then [c, c] else [c]

/-- The written form of a segment. -/
def writeSegment : Segment → List Char
  | .text s => escape s.toList
  | .hole p => '{' :: p.name.toList ++ ['}']

/-- The written form of a list of segments. -/
def write (segs : List Segment) : List Char :=
  segs.flatMap writeSegment

/-- The template source that stands for a text taken literally. -/
def literal (s : String) : String :=
  String.ofList (escape s.toList)

end Template

end ForbiddenCalls
