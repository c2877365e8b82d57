import ForbiddenCalls.Proofs.DraftChecks
import ForbiddenCalls.Proofs.TemplateReading

/-!
# Writing templates

A list of segments is written by doubling the braces of its texts and by putting the name of
each placeholder between braces.  What is written reads back as the same segments, provided
that they are in normal form: an empty text leaves nothing to read, and two texts in a row read
back as one.

The writing of a text and the writing of a placeholder are read without a look at what comes
behind them, although a run of braces may go on there: a text that ends in a brace, in front of
a placeholder, gives three braces, and the first two belong together.  So both are stated for
any rest (`marks?_escape_append`, `marks?_hole_append`), and the statement for a whole list
follows by induction.

* `Template.parse_write`: reading what was written gives the segments back.
* `Template.exists_parse_literal`: a text taken literally is always a template, and shows
  itself.
* `Template.write_inverse`: both, with what they mean for rules without a message.
-/

namespace ForbiddenCalls

/-- The marks that a segment stands for. -/
def Segment.marks : Segment → List Template.Mark
  | .text s => s.toList.map .char
  | .hole p => [.hole p]

namespace Template

variable {segs : List Segment} {ms : List Mark}

/-! ## Reading what was written -/

theorem escape_cons (c : Char) (cs : List Char) :
    escape (c :: cs) = (if c = '{' ∨ c = '}' then [c, c] else [c]) ++ escape cs := rfl

theorem map_marks?_cons (m : Mark) (as : List Mark) (rest : List Char) :
    ((marks? rest).map (as ++ ·)).map (m :: ·) = (marks? rest).map (m :: as ++ ·) := by
  cases marks? rest <;> rfl

/-- A text with its braces doubled reads as its characters. -/
theorem marks?_escape_append (cs rest : List Char) :
    marks? (escape cs ++ rest) = (marks? rest).map (cs.map Mark.char ++ ·) := by
  induction cs with
  | nil =>
    show marks? rest = (marks? rest).map fun ms => ms
    cases marks? rest <;> rfl
  | cons c cs ih =>
    rw [escape_cons, List.append_assoc, List.map_cons, ← map_marks?_cons, ← ih]
    by_cases hc : c = '{' ∨ c = '}'
    · rw [if_pos hc]
      rcases hc with rfl | rfl
      · exact marks?_openPair _
      · exact marks?_closePair _
    · rw [not_or] at hc
      rw [if_neg (not_or.2 hc)]
      exact marks?_other hc.1 fun h => absurd h hc.2

theorem name_ne_brace (p : Placeholder) (rest : List Char) :
    '}' ∉ p.name.toList ∧ (p.name.toList ++ '}' :: rest).head? ≠ some '{' ∧
      Text.trimBlanks p.name.toList = p.name.toList := by
  cases p <;> refine ⟨by decide, ?_, by decide⟩ <;> simp [Placeholder.name]

/-- The name of a placeholder between braces reads as the placeholder. -/
theorem marks?_hole_append (p : Placeholder) (rest : List Char) :
    marks? (writeSegment (.hole p) ++ rest) = (marks? rest).map (.hole p :: ·) := by
  obtain ⟨hclose, hopen, htrim⟩ := name_ne_brace p rest
  have hwritten : writeSegment (.hole p) ++ rest = '{' :: (p.name.toList ++ '}' :: rest) := by
    simp [writeSegment]
  rw [hwritten, marks?_placeholder hopen (Text.cutFirst_append hclose rest), htrim,
    String.ofList_toList, Placeholder.ofName?_name]

theorem marks?_write (segs : List Segment) :
    marks? (write segs) = .ok (segs.flatMap Segment.marks) := by
  induction segs with
  | nil => exact marks?_nil
  | cons a segs ih =>
    rw [write, List.flatMap_cons, ← write, List.flatMap_cons]
    cases a with
    | text s => rw [writeSegment, marks?_escape_append, ih]; rfl
    | hole p => rw [marks?_hole_append, ih]; rfl

/-! ## Joining what was taken apart -/

/-- The characters of a text, in front of anything but a text, are joined to that text. -/
theorem gather_chars_append {cs : List Char} (hcs : cs ≠ [])
    (hms : ∀ s, (gather ms).head? ≠ some (.text s)) :
    gather (cs.map Mark.char ++ ms) = .text (String.ofList cs) :: gather ms := by
  induction cs with
  | nil => exact absurd rfl hcs
  | cons c cs ih =>
    rcases eq_or_ne cs [] with rfl | hcs
    · exact gather_char_of_not_text hms c
    · rw [List.map_cons, List.cons_append, gather_char_of_text (ih hcs)]
      congr 2
      rw [← String.toList_inj]
      simp

/-- **Segments in normal form** are joined again from their marks. -/
theorem gather_marks (h : Normal segs) : gather (segs.flatMap Segment.marks) = segs := by
  induction segs with
  | nil => rfl
  | cons a segs ih =>
    have hsegs := ih h.of_cons
    rw [List.flatMap_cons]
    cases a with
    | hole p => rw [Segment.marks, List.singleton_append, gather_hole, hsegs]
    | text s =>
      have hs : s.toList ≠ [] := by
        intro hs
        rw [String.toList_eq_nil_iff] at hs
        exact h.nonempty (hs ▸ List.mem_cons_self)
      have hnext : ∀ s', (gather (segs.flatMap Segment.marks)).head? ≠ some (.text s') := by
        rw [hsegs]
        exact h.head?_ne_text
      rw [Segment.marks, gather_chars_append hs hnext, hsegs, String.ofList_toList]

/-- **What was written reads back** as the same segments. -/
theorem parse_write (h : Normal segs) :
    parse (String.ofList (write segs)) = .ok ⟨String.ofList (write segs), segs⟩ := by
  have hmarks := marks?_write segs
  rw [← String.toList_ofList (l := write segs)] at hmarks
  rw [parse_of_marks hmarks, gather_marks h]

theorem normal_of_parse {raw : String} {t : Template} (h : parse raw = .ok t) :
    Normal t.segments := by
  obtain ⟨items, hitems⟩ := exists_reads raw.toList
  obtain ⟨ms, -, rfl⟩ := (parse_eq_ok_iff hitems).1 h
  exact normal_gather ms

/-! ## Literal texts -/

/-- **A text taken literally** is always a template, and shows itself. -/
theorem exists_parse_literal (s : String) :
    ∃ t, parse (literal s) = .ok t ∧ ∀ args, t.render args = s := by
  have hmarks : marks? (literal s).toList = .ok (s.toList.map .char) := by
    have happend := marks?_escape_append s.toList []
    rw [List.append_nil, marks?_nil] at happend
    rw [literal, String.toList_ofList, happend]
    exact congrArg Except.ok (List.append_nil _)
  refine ⟨⟨literal s, gather (s.toList.map .char)⟩, parse_of_marks hmarks, fun args => ?_⟩
  rw [render, join_gather, ← String.toList_inj, String.toList_join, List.map_map,
    List.flatMap_map]
  simp [Mark.text]

/-- **Writing and reading are inverse.**  Segments in normal form are what their writing reads
as.  What an accepted template is read as may be written again, and then shows the same.  And a
rule without a message is accepted whatever its title, and shows that title, or its id where
there is none. -/
theorem write_inverse :
    (∀ segs, Normal segs →
      parse (String.ofList (write segs)) = .ok ⟨String.ofList (write segs), segs⟩) ∧
    (∀ raw t, parse raw = .ok t →
      ∃ t', parse (String.ofList (write t.segments)) = .ok t' ∧
        ∀ args, t'.render args = t.render args) ∧
    ∀ d : RuleDraft, d.message = none →
      ((∃ r, d.build = .ok r) ↔ d.Complete) ∧
        ∀ r, d.build = .ok r →
          ∀ args, r.message.render args = if d.title = "" then d.id else d.title := by
  refine ⟨fun segs h => parse_write h, fun raw t ht => ?_, fun d hd => ?_⟩
  · exact ⟨_, parse_write (normal_of_parse ht), fun args => rfl⟩
  have hsource : d.messageSource = literal d.shownTitle := by rw [RuleDraft.messageSource, hd]
  obtain ⟨t, ht, hshown⟩ := exists_parse_literal d.shownTitle
  rw [← hsource] at ht
  refine ⟨?_, fun r hr args => ?_⟩
  · rw [RuleDraft.exists_build_iff]
    exact and_iff_left ⟨t, ht⟩
  · obtain ⟨id, message, -, -, -, hmessage, rfl⟩ := RuleDraft.build_eq_ok_iff.1 hr
    obtain rfl := Except.ok.inj (ht.symm.trans hmessage)
    exact hshown args

/-- Texts that end and start with braces, around a placeholder (braces are written with their
codes). -/
def bracedSegments : List Segment := [.text "\x7d\x7b", .hole .method, .text "\x7d"]

/-- What is written for them: three braces on either side of the name. -/
def bracedTemplate : String := "\x7d\x7d\x7b\x7b\x7bmethod\x7d\x7d\x7d"

theorem normal_bracedSegments : Normal bracedSegments where
  nonempty := by decide
  apart := by simp [bracedSegments]

/-- A rule whose title is not a template. -/
def bracedDraft : RuleDraft where
  id := "AvoidX"
  title := "Avoid \x7bx"
  owners := .ofList ["a.B"]
  methods := .ofList ["x"]

theorem complete_bracedDraft : bracedDraft.Complete := ⟨by decide, by decide, by decide⟩

theorem write_inverse_braced :
    Normal bracedSegments ∧ parse bracedTemplate = .ok ⟨bracedTemplate, bracedSegments⟩ ∧
      (∃ t', parse (String.ofList (write bracedSegments)) = .ok t' ∧
        ∀ args, t'.render args = "\x7d\x7b" ++ args.method ++ "\x7d") ∧
      ∃ r, bracedDraft.build = .ok r ∧ ∀ args, r.message.render args = "Avoid \x7bx" := by
  obtain ⟨hwritten, hagain, hdraft⟩ := write_inverse
  have hread : parse bracedTemplate = .ok ⟨bracedTemplate, bracedSegments⟩ :=
    hwritten bracedSegments normal_bracedSegments
  obtain ⟨t', ht', hshown⟩ := hagain _ _ hread
  obtain ⟨hbuilt, htitle⟩ := hdraft bracedDraft rfl
  obtain ⟨r, hr⟩ := hbuilt.2 complete_bracedDraft
  refine ⟨normal_bracedSegments, hread, ⟨t', ht', fun args => (hshown args).trans ?_⟩, r, hr, ?_⟩
  · simp [render, bracedSegments, Segment.render, MessageArgs.value, String.append_assoc]
  · exact htitle r hr

end Template

end ForbiddenCalls
