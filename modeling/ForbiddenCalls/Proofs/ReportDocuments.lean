import ForbiddenCalls.Report.Json
import Mathlib.Data.List.Basic
import Mathlib.Logic.Relation

/-!
# Reports as documents

A report that is written as JSON is read back as it was, and the reader does not insist on
the form of the writer.  A document may be edited: its objects may get members that nobody
knows, the number of skipped files may be left out where it is zero, and a location that is
not there may be written as `null`.  However often this is done, the report that is read
stays the same.

Readers look members up by their names.  So each reader is first described by what it finds
under each name (`Finding.ofJson?_object_iff` and its like), and an edit by what it leaves
under them.

* `Report.Edit`: one edit of the document of a report.
* `Report.keptBy_edit`: an edit leaves the report that is read.
* `Report.ofJson?_of_edits`: every document of a report is read as the report.
-/

namespace ForbiddenCalls

namespace Json

variable {α : Type} {R : Json → Json → Prop} {read : Json → Option α} {known : List String}
  {name key : String} {j j' : Json} {before after : List (String × Json)}

/-! ## Edits of members -/

/-- An object gets a member under a name that is not known, at any position. -/
inductive Gains (known : List String) : Json → Json → Prop
  | intro (before after : List (String × Json)) {key : String} (value : Json) : key ∉ known →
      Gains known (object (before ++ after)) (object (before ++ (key, value) :: after))

/-- One member of an object is edited in its value. -/
inductive EditsMember (key : String) (R : Json → Json → Prop) : Json → Json → Prop
  | intro (before after : List (String × Json)) {x y : Json} : R x y →
      EditsMember key R (object (before ++ (key, x) :: after)) (object (before ++ (key, y) :: after))

/-- One element of an array is edited. -/
inductive EditsElement (R : Json → Json → Prop) : Json → Json → Prop
  | intro (before after : List Json) {x y : Json} : R x y →
      EditsElement R (array (before ++ x :: after)) (array (before ++ y :: after))

/-- What is found under a name before and after an edit. -/
inductive EditedAt (R : Json → Json → Prop) : Option Json → Option Json → Prop
  | same (x : Option Json) : EditedAt R x x
  | edited {x y : Json} : R x y → EditedAt R (some x) (some y)

/-- A member does not hide those with other names. -/
theorem lookup_append_cons_of_ne (h : name ≠ key) (value : Json) :
    (before ++ (key, value) :: after).lookup name = (before ++ after).lookup name := by
  have hskip : (name == key) = false := by simpa using h
  rw [List.lookup_append, List.lookup_append, List.lookup_cons, hskip]

/-- A name that no member has is not found. -/
theorem lookup_eq_none (h : ∀ m ∈ before, m.1 ≠ name) : before.lookup name = none :=
  List.lookup_eq_none_iff.2 fun m hm => by simpa using (h m hm).symm

/-- An unknown member hides none of the known ones. -/
theorem Gains.exists_members (h : Gains known j j') :
    ∃ members members', j = object members ∧ j' = object members' ∧
      ∀ name ∈ known, members'.lookup name = members.lookup name := by
  obtain @⟨before, after, key, value, hkey⟩ := h
  exact ⟨_, _, rfl, rfl, fun name hname =>
    lookup_append_cons_of_ne (ne_of_mem_of_not_mem hname hkey) value⟩

/-- An edit in the value of one member leaves the others. -/
theorem EditsMember.exists_members (h : EditsMember key R j j') :
    ∃ members members', j = object members ∧ j' = object members' ∧
      (∀ name, name ≠ key → members'.lookup name = members.lookup name) ∧
      EditedAt R (members.lookup key) (members'.lookup key) := by
  obtain ⟨before, after, hxy⟩ := h
  refine ⟨_, _, rfl, rfl, fun name hname => ?_, ?_⟩
  · rw [lookup_append_cons_of_ne hname, lookup_append_cons_of_ne hname]
  · rw [List.lookup_append, List.lookup_append, List.lookup_cons_self, List.lookup_cons_self]
    cases before.lookup key with
    | none => exact .edited hxy
    | some x => exact .same _

/-! ## What edits leave for a reader -/

/-- A reader takes an edited value for what it took the value for. -/
def KeptBy (read : Json → Option α) (R : Json → Json → Prop) : Prop :=
  ∀ x y a, R x y → read x = some a → read y = some a

theorem KeptBy.bind (h : KeptBy read R) {o o' : Option Json} {a : α} (hedited : EditedAt R o o')
    (ho : o.bind read = some a) : o'.bind read = some a := by
  cases hedited with
  | same => exact ho
  | edited hxy => exact h _ _ _ hxy ho

/-- What is read of the elements of an array. -/
def all? (read : Json → Option α) (j : Json) : Option (List α) :=
  j.elements?.bind fun xs => xs.mapM read

theorem mapM_append_cons_of_imp {x y : Json} (h : ∀ a, read x = some a → read y = some a)
    {before after : List Json} {as : List α} (has : (before ++ x :: after).mapM read = some as) :
    (before ++ y :: after).mapM read = some as := by
  induction before generalizing as with
  | nil =>
    simp only [List.nil_append, List.mapM_cons, Option.bind_eq_bind, Option.bind_eq_some_iff]
      at has ⊢
    obtain ⟨a, hx, hrest⟩ := has
    exact ⟨a, h a hx, hrest⟩
  | cons z before ih =>
    simp only [List.cons_append, List.mapM_cons, Option.bind_eq_bind, Option.bind_eq_some_iff]
      at has ⊢
    obtain ⟨a, hz, rest, hrest, heq⟩ := has
    exact ⟨a, hz, rest, ih hrest, heq⟩

/-- An edit of one element leaves what is read of all elements. -/
theorem KeptBy.all? (h : KeptBy read R) : KeptBy (Json.all? read) (EditsElement R) := by
  rintro _ _ as ⟨before, after, hxy⟩ hread
  exact mapM_append_cons_of_imp (fun a => h _ _ a hxy) hread

/-- What was written element by element is read element by element. -/
theorem mapM_map_eq_some {write : α → Json} {as : List α} (h : ∀ a ∈ as, read (write a) = some a) :
    (as.map write).mapM read = some as := by
  induction as with
  | nil => rfl
  | cons a as ih =>
    obtain ⟨ha, has⟩ := List.forall_mem_cons.1 h
    rw [List.map_cons, List.mapM_cons, ha, ih has]
    rfl

/-- A number of 64 bits is read as it was written. -/
theorem word?_nat {n : Nat} (h : n ≤ maxWord) : (nat n).word? = some n := by
  rw [nat, word?, if_pos ⟨Int.natCast_nonneg n, by simpa using h⟩, Int.toNat_natCast]

end Json

open Json (Gains EditsMember EditsElement KeptBy)

/-! ## Locations -/

namespace Location

/-- The members of a location. -/
def memberNames : List String := ["file", "line", "column", "offset", "length"]

/-- One edit of the document of a location. -/
def Edit : Json → Json → Prop := Gains memberNames

/-- The numbers of a location have 64 bits. -/
structure Fits (l : Location) : Prop where
  line_le : l.line ≤ Json.maxWord
  column_le : l.column ≤ Json.maxWord
  offset_le : l.offset ≤ Json.maxWord
  length_le : l.length ≤ Json.maxWord

/-- What a location is read from. -/
theorem ofJson?_object_iff {l : Location} {members : List (String × Json)} :
    ofJson? (.object members) = some l ↔
      (members.lookup "file").bind Json.string? = some l.file.text ∧
      (members.lookup "line").bind Json.word? = some l.line ∧
      (members.lookup "column").bind Json.word? = some l.column ∧
      (members.lookup "offset").bind Json.word? = some l.offset ∧
      (members.lookup "length").bind Json.word? = some l.length := by
  simp only [ofJson?, Json.fields?, List.map_cons, List.map_nil, Option.bind_eq_some_iff]
  constructor
  · intro h
    split at h
    · next hfields =>
      split at h
      · next hfile hline hcolumn hoffset hlength =>
        simp only [Option.some.injEq, List.cons.injEq, and_true] at hfields
        obtain ⟨file, line, column, offset, length⟩ := hfields
        cases h
        exact ⟨⟨_, file, hfile⟩, ⟨_, line, hline⟩, ⟨_, column, hcolumn⟩, ⟨_, offset, hoffset⟩,
          ⟨_, length, hlength⟩⟩
      · exact nomatch h
    · exact nomatch h
  · rintro ⟨⟨_, file, hfile⟩, ⟨_, line, hline⟩, ⟨_, column, hcolumn⟩, ⟨_, offset, hoffset⟩,
      ⟨_, length, hlength⟩⟩
    simp only [file, line, column, offset, length, hfile, hline, hcolumn, hoffset, hlength]

/-- **A location is read as it was written.** -/
theorem ofJson?_toJson {l : Location} (h : l.Fits) : ofJson? l.toJson = some l :=
  ofJson?_object_iff.2 ⟨rfl, Json.word?_nat h.line_le, Json.word?_nat h.column_le,
    Json.word?_nat h.offset_le, Json.word?_nat h.length_le⟩

/-- An edit leaves the location that is read. -/
theorem keptBy_edit : KeptBy ofJson? Edit := by
  intro j j' l hedit hread
  obtain ⟨members, members', rfl, rfl, hsame⟩ := hedit.exists_members
  simp only [memberNames, List.forall_mem_cons] at hsame
  obtain ⟨hfile, hline, hcolumn, hoffset, hlength, -⟩ := hsame
  rw [ofJson?_object_iff] at hread ⊢
  rwa [hfile, hline, hcolumn, hoffset, hlength]

end Location

/-! ## Findings -/

namespace Finding

/-- The members of a finding. -/
def memberNames : List String := ["rule_id", "severity", "location", "message"]

/-- One edit of the document of a finding: an unknown member, or an edit of its location. -/
inductive Edit : Json → Json → Prop
  | gain {j j' : Json} : Gains memberNames j j' → Edit j j'
  | location {j j' : Json} : EditsMember "location" Location.Edit j j' → Edit j j'

/-- What a finding is read from. -/
theorem ofJson?_object_iff {f : Finding} {members : List (String × Json)} :
    ofJson? (.object members) = some f ↔
      (members.lookup "rule_id").bind Json.string? = some f.ruleId ∧
      (members.lookup "severity").bind Severity.ofJson? = some f.severity ∧
      (members.lookup "location").bind Location.ofJson? = some f.location ∧
      (members.lookup "message").bind Json.string? = some f.message := by
  simp only [ofJson?, Json.fields?, List.map_cons, List.map_nil, Option.bind_eq_some_iff]
  constructor
  · intro h
    split at h
    · next hfields =>
      split at h
      · next hruleId hseverity hlocation hmessage =>
        simp only [Option.some.injEq, List.cons.injEq, and_true] at hfields
        obtain ⟨ruleId, severity, location, message⟩ := hfields
        cases h
        exact ⟨⟨_, ruleId, hruleId⟩, ⟨_, severity, hseverity⟩, ⟨_, location, hlocation⟩,
          ⟨_, message, hmessage⟩⟩
      · exact nomatch h
    · exact nomatch h
  · rintro ⟨⟨_, ruleId, hruleId⟩, ⟨_, severity, hseverity⟩, ⟨_, location, hlocation⟩,
      ⟨_, message, hmessage⟩⟩
    simp only [ruleId, severity, location, message, hruleId, hseverity, hlocation, hmessage]

/-- **A finding is read as it was written.** -/
theorem ofJson?_toJson {f : Finding} (h : f.location.Fits) : ofJson? f.toJson = some f :=
  ofJson?_object_iff.2 ⟨rfl, Severity.ofName?_name f.severity, Location.ofJson?_toJson h, rfl⟩

/-- An edit leaves the finding that is read. -/
theorem keptBy_edit : KeptBy ofJson? Edit := by
  intro j j' f hedit hread
  cases hedit with
  | gain h =>
    obtain ⟨members, members', rfl, rfl, hsame⟩ := h.exists_members
    simp only [memberNames, List.forall_mem_cons] at hsame
    obtain ⟨hruleId, hseverity, hlocation, hmessage, -⟩ := hsame
    rw [ofJson?_object_iff] at hread ⊢
    rwa [hruleId, hseverity, hlocation, hmessage]
  | location h =>
    obtain ⟨members, members', rfl, rfl, hsame, hedited⟩ := h.exists_members
    rw [ofJson?_object_iff] at hread ⊢
    obtain ⟨hruleId, hseverity, hlocation, hmessage⟩ := hread
    rw [hsame "rule_id" (by decide), hsame "severity" (by decide), hsame "message" (by decide)]
    exact ⟨hruleId, hseverity, Location.keptBy_edit.bind hedited hlocation, hmessage⟩

end Finding

/-! ## Failures -/

namespace Failure

/-- The members of a failure. -/
def memberNames : List String := ["file", "location", "message"]

/-- One edit of the document of a failure: an unknown member, an edit of its location, or
`null` for a location that is not there. -/
inductive Edit : Json → Json → Prop
  | gain {j j' : Json} : Gains memberNames j j' → Edit j j'
  | location {j j' : Json} : EditsMember "location" Location.Edit j j' → Edit j j'
  | nullLocation (before after : List (String × Json)) :
      (∀ m ∈ before ++ after, m.1 ≠ "location") →
      Edit (.object (before ++ after)) (.object (before ++ ("location", .null) :: after))

/-- What a failure is read from. -/
theorem ofJson?_object_iff {f : Failure} {members : List (String × Json)} :
    ofJson? (.object members) = some f ↔
      (members.lookup "file").bind Json.string? = some f.file.text ∧
      locationOfJson? (members.lookup "location") = some f.location ∧
      (members.lookup "message").bind Json.string? = some f.message := by
  simp only [ofJson?, Json.fields?, List.map_cons, List.map_nil, Option.bind_eq_some_iff]
  constructor
  · intro h
    split at h
    · next hfields =>
      split at h
      · next hfile hlocation hmessage =>
        simp only [Option.some.injEq, List.cons.injEq, and_true] at hfields
        obtain ⟨file, location, message⟩ := hfields
        cases h
        exact ⟨⟨_, file, hfile⟩, location ▸ hlocation, ⟨_, message, hmessage⟩⟩
      · exact nomatch h
    · exact nomatch h
  · rintro ⟨⟨_, file, hfile⟩, hlocation, ⟨_, message, hmessage⟩⟩
    simp only [file, message, hfile, hlocation, hmessage]

/-- A location that is there is read as it was written. -/
theorem locationOfJson?_some_toJson {l : Location} (h : l.Fits) :
    locationOfJson? (some l.toJson) = some (some l) :=
  congrArg (Option.map some) (Location.ofJson?_toJson h)

/-- **A failure is read as it was written.** -/
theorem ofJson?_toJson {f : Failure} (h : ∀ l ∈ f.location, l.Fits) : ofJson? f.toJson = some f := by
  obtain ⟨file, location, message⟩ := f
  cases location with
  | none => exact ofJson?_object_iff.2 ⟨rfl, rfl, rfl⟩
  | some l => exact ofJson?_object_iff.2 ⟨rfl, locationOfJson?_some_toJson (h l rfl), rfl⟩

/-- An edit of a location leaves the location of the failure. -/
theorem locationOfJson?_of_editedAt {o o' : Option Json} {l : Option Location}
    (h : Json.EditedAt Location.Edit o o') (ho : locationOfJson? o = some l) :
    locationOfJson? o' = some l := by
  cases h with
  | same => exact ho
  | edited hedit =>
    obtain ⟨before, after, value, hkey⟩ := hedit
    obtain ⟨l, hread, rfl⟩ := Option.map_eq_some_iff.1 ho
    have hkept := Location.keptBy_edit _ _ l (.intro before after value hkey) hread
    exact congrArg (Option.map some) hkept

/-- An edit leaves the failure that is read. -/
theorem keptBy_edit : KeptBy ofJson? Edit := by
  intro j j' f hedit hread
  cases hedit with
  | gain h =>
    obtain ⟨members, members', rfl, rfl, hsame⟩ := h.exists_members
    simp only [memberNames, List.forall_mem_cons] at hsame
    obtain ⟨hfile, hlocation, hmessage, -⟩ := hsame
    rw [ofJson?_object_iff] at hread ⊢
    rwa [hfile, hlocation, hmessage]
  | location h =>
    obtain ⟨members, members', rfl, rfl, hsame, hedited⟩ := h.exists_members
    rw [ofJson?_object_iff] at hread ⊢
    obtain ⟨hfile, hlocation, hmessage⟩ := hread
    rw [hsame "file" (by decide), hsame "message" (by decide)]
    exact ⟨hfile, locationOfJson?_of_editedAt hedited hlocation, hmessage⟩
  | nullLocation before after hnone =>
    have hsame : ∀ name, name ≠ "location" →
        (before ++ ("location", .null) :: after).lookup name = (before ++ after).lookup name :=
      fun name hname => Json.lookup_append_cons_of_ne hname .null
    rw [ofJson?_object_iff] at hread ⊢
    obtain ⟨hfile, hlocation, hmessage⟩ := hread
    rw [hsame "file" (by decide), hsame "message" (by decide)]
    refine ⟨hfile, ?_, hmessage⟩
    rw [Json.lookup_eq_none hnone] at hlocation
    rw [List.lookup_append, Json.lookup_eq_none fun m hm => hnone m (List.mem_append_left after hm),
      Option.none_or, List.lookup_cons_self]
    exact hlocation

end Failure

/-! ## Reports -/

namespace Report

/-- The members of a report. -/
def memberNames : List String := ["findings", "parse_failures", "units_analyzed", "units_skipped"]

/-- One edit of the document of a report: an unknown member, an edit of one of its findings
or failures, or the number of skipped files left out where it is zero. -/
inductive Edit : Json → Json → Prop
  | gain {j j' : Json} : Gains memberNames j j' → Edit j j'
  | finding {j j' : Json} : EditsMember "findings" (EditsElement Finding.Edit) j j' → Edit j j'
  | failure {j j' : Json} : EditsMember "parse_failures" (EditsElement Failure.Edit) j j' → Edit j j'
  | dropSkipped (before after : List (String × Json)) :
      (∀ m ∈ before ++ after, m.1 ≠ "units_skipped") →
      Edit (.object (before ++ ("units_skipped", .nat 0) :: after)) (.object (before ++ after))

/-- All numbers of a report have 64 bits. -/
structure Fits (r : Report) : Prop where
  findings_fit : ∀ f ∈ r.findings, f.location.Fits
  failures_fit : ∀ f ∈ r.failures, ∀ l ∈ f.location, l.Fits
  analyzed_le : r.analyzed ≤ Json.maxWord
  skipped_le : r.skipped ≤ Json.maxWord

/-- What a report is read from. -/
theorem ofJson?_object_iff {r : Report} {members : List (String × Json)} :
    ofJson? (.object members) = some r ↔
      (members.lookup "findings").bind (Json.all? Finding.ofJson?) = some r.findings ∧
      (members.lookup "parse_failures").bind (Json.all? Failure.ofJson?) = some r.failures ∧
      (members.lookup "units_analyzed").bind Json.word? = some r.analyzed ∧
      skippedOfJson? (members.lookup "units_skipped") = some r.skipped := by
  simp only [ofJson?, Json.fields?, List.map_cons, List.map_nil, Option.bind_eq_some_iff]
  constructor
  · intro h
    split at h
    · next hfields =>
      split at h
      · next hfindings hfailures hanalyzed hskipped =>
        simp only [Option.some.injEq, List.cons.injEq, and_true] at hfields
        obtain ⟨findings, failures, analyzed, skipped⟩ := hfields
        cases h
        exact ⟨⟨_, findings, hfindings⟩, ⟨_, failures, hfailures⟩, ⟨_, analyzed, hanalyzed⟩,
          skipped ▸ hskipped⟩
      · exact nomatch h
    · exact nomatch h
  · rintro ⟨⟨_, findings, hfindings⟩, ⟨_, failures, hfailures⟩, ⟨_, analyzed, hanalyzed⟩, hskipped⟩
    rw [Json.all?] at hfindings hfailures
    simp only [findings, failures, analyzed, hfindings, hfailures, hanalyzed, hskipped]

/-- **A report is read as it was written.** -/
theorem ofJson?_toJson {r : Report} (h : r.Fits) : ofJson? r.toJson = some r :=
  ofJson?_object_iff.2 ⟨
    Json.mapM_map_eq_some fun f hf => Finding.ofJson?_toJson (h.findings_fit f hf),
    Json.mapM_map_eq_some fun f hf => Failure.ofJson?_toJson (h.failures_fit f hf),
    Json.word?_nat h.analyzed_le, Json.word?_nat h.skipped_le⟩

/-- **An edit leaves the report that is read.** -/
theorem keptBy_edit : KeptBy ofJson? Edit := by
  intro j j' r hedit hread
  cases hedit with
  | gain h =>
    obtain ⟨members, members', rfl, rfl, hsame⟩ := h.exists_members
    simp only [memberNames, List.forall_mem_cons] at hsame
    obtain ⟨hfindings, hfailures, hanalyzed, hskipped, -⟩ := hsame
    rw [ofJson?_object_iff] at hread ⊢
    rwa [hfindings, hfailures, hanalyzed, hskipped]
  | finding h =>
    obtain ⟨members, members', rfl, rfl, hsame, hedited⟩ := h.exists_members
    rw [ofJson?_object_iff] at hread ⊢
    obtain ⟨hfindings, hrest⟩ := hread
    rw [hsame "parse_failures" (by decide), hsame "units_analyzed" (by decide),
      hsame "units_skipped" (by decide)]
    exact ⟨Finding.keptBy_edit.all?.bind hedited hfindings, hrest⟩
  | failure h =>
    obtain ⟨members, members', rfl, rfl, hsame, hedited⟩ := h.exists_members
    rw [ofJson?_object_iff] at hread ⊢
    obtain ⟨hfindings, hfailures, hrest⟩ := hread
    rw [hsame "findings" (by decide), hsame "units_analyzed" (by decide),
      hsame "units_skipped" (by decide)]
    exact ⟨hfindings, Failure.keptBy_edit.all?.bind hedited hfailures, hrest⟩
  | dropSkipped before after hnone =>
    have hsame : ∀ name, name ≠ "units_skipped" →
        (before ++ ("units_skipped", .nat 0) :: after).lookup name = (before ++ after).lookup name :=
      fun name hname => Json.lookup_append_cons_of_ne hname (.nat 0)
    rw [ofJson?_object_iff, hsame "findings" (by decide), hsame "parse_failures" (by decide),
      hsame "units_analyzed" (by decide)] at hread
    rw [ofJson?_object_iff]
    obtain ⟨hfindings, hfailures, hanalyzed, hskipped⟩ := hread
    refine ⟨hfindings, hfailures, hanalyzed, ?_⟩
    rw [List.lookup_append, Json.lookup_eq_none fun m hm => hnone m (List.mem_append_left after hm),
      Option.none_or, List.lookup_cons_self] at hskipped
    rw [Json.lookup_eq_none hnone]
    exact hskipped

/-- **The documents of a report.**  A report whose numbers have 64 bits is read as it was
written, its findings and failures in their order.  So it is from every document that comes
of the written one by edits, any number of them and in any order. -/
theorem ofJson?_of_edits {r : Report} (h : r.Fits) :
    ofJson? r.toJson = some r ∧
      ∀ j, Relation.ReflTransGen Edit r.toJson j → ofJson? j = some r := by
  refine ⟨ofJson?_toJson h, fun j hedits => ?_⟩
  induction hedits with
  | refl => exact ofJson?_toJson h
  | tail _ hedit ih => exact keptBy_edit _ _ r hedit ih

/-! ## A report with one finding and two failures -/

/-- A finding whose message has a quote, a line break and a letter that is not in ASCII. -/
def loggedFinding : Finding :=
  ⟨"NoLog", .warning, ⟨⟨"src/A.java"⟩, 4, 9, 61, 7⟩, "use \"HLog\",\nnot Lóg"⟩

/-- A failure with a location. -/
def malformedFailure : Failure :=
  ⟨⟨"B.kt"⟩, some { file := ⟨"B.kt"⟩, line := 1, column := 7 }, "unexpected syntax"⟩

/-- A failure without a location. -/
def unsupportedFailure : Failure := ⟨⟨"notes.txt"⟩, none, "unsupported"⟩

/-- A report with a finding, two failures, the largest number of files and no skipped one. -/
def loggedReport : Report :=
  ⟨[loggedFinding], [malformedFailure, unsupportedFailure], Json.maxWord, 0⟩

/-- The finding in the edited document: there is something new about the place. -/
def loggedFindingDocument : Json :=
  .object [("rule_id", .string "NoLog"), ("severity", .string "warning"),
    ("location", .object [("file", .string "src/A.java"), ("line", .nat 4), ("column", .nat 9),
      ("endColumn", .nat 16), ("offset", .nat 61), ("length", .nat 7)]),
    ("message", .string loggedFinding.message)]

/-- The second failure in the edited document. -/
def unsupportedFailureDocument : Json :=
  .object [("file", .string "notes.txt"), ("location", .null), ("message", .string "unsupported")]

/-- The edited document. -/
def loggedDocument : Json :=
  .object [("version", .string "2"), ("findings", .array [loggedFindingDocument]),
    ("parse_failures", .array [malformedFailure.toJson, unsupportedFailureDocument]),
    ("units_analyzed", .nat Json.maxWord)]

theorem fits_loggedReport : loggedReport.Fits where
  findings_fit := by
    intro f hf
    obtain rfl := List.mem_singleton.1 hf
    constructor <;> decide
  failures_fit := by
    intro f hf l hl
    rcases List.mem_pair.1 hf with rfl | rfl
    · obtain rfl := Option.mem_some_iff.1 hl
      constructor <;> decide
    · exact nomatch hl
  analyzed_le := Nat.le_refl _
  skipped_le := Nat.zero_le _

/-- Four edits lead from the written document to the edited one. -/
theorem edits_loggedDocument :
    Relation.ReflTransGen Edit loggedReport.toJson loggedDocument := by
  have hfindings : EditsElement Finding.Edit (.array [loggedFinding.toJson])
      (.array [loggedFindingDocument]) :=
    .intro [] [] (.location (.intro [("rule_id", .string "NoLog"), ("severity", .string "warning")]
      [("message", .string loggedFinding.message)] (.intro [("file", .string "src/A.java"),
        ("line", .nat 4), ("column", .nat 9)] [("offset", .nat 61), ("length", .nat 7)] (.nat 16)
          (by decide))))
  have hfailures : EditsElement Failure.Edit
      (.array [malformedFailure.toJson, unsupportedFailure.toJson])
      (.array [malformedFailure.toJson, unsupportedFailureDocument]) :=
    .intro [malformedFailure.toJson] [] (.nullLocation [("file", .string "notes.txt")]
      [("message", .string "unsupported")] (by simp))
  have hwritten : loggedReport.toJson = .object [("findings", .array [loggedFinding.toJson]),
      ("parse_failures", .array [malformedFailure.toJson, unsupportedFailure.toJson]),
      ("units_analyzed", .nat Json.maxWord), ("units_skipped", .nat 0)] := rfl
  rw [hwritten]
  refine .head (.dropSkipped [_, _, _] [] (by simp)) ?_
  refine .head (.finding (.intro [] _ hfindings)) ?_
  refine .head (.failure (.intro [_] _ hfailures)) ?_
  exact .single (.gain (.intro [] _ (.string "2") (by decide)))

/-- The instance of this report and its edited document. -/
theorem ofJson?_loggedDocument :
    loggedReport.Fits ∧ Relation.ReflTransGen Edit loggedReport.toJson loggedDocument ∧
      ofJson? loggedReport.toJson = some loggedReport ∧
      ofJson? loggedDocument = some loggedReport := by
  obtain ⟨hwritten, hedited⟩ := ofJson?_of_edits fits_loggedReport
  exact ⟨fits_loggedReport, edits_loggedDocument, hwritten, hedited _ edits_loggedDocument⟩

end Report

end ForbiddenCalls
