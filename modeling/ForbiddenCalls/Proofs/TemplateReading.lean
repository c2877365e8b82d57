import ForbiddenCalls.Proofs.DottedNames
import ForbiddenCalls.Proofs.Results
import ForbiddenCalls.Rule.Template
import Mathlib.Data.List.Chain

/-!
# How a template is read

A template is read from left to right.  Two equal braces in a row stand for one brace.  Any
other opening brace starts a placeholder, whose name is the text up to the next closing brace,
so that a name may hold opening braces.  Every other character stands for itself, a single
closing brace among them.

These rules are the relation `Template.Reads` between a text and its items.  The relation does
not say what comes of the items: a placeholder may have a name that is not known, and the last
one may not be closed.  Every text has exactly one reading.  A template is accepted when all
items of its reading are sound, and otherwise refused for the first one that is not.  The
segments of an accepted template have a normal form, in which neighbouring characters are
joined, and show the items one after the other.

* `Template.exists_reads_iff`: every text has exactly one reading.
* `Template.marks?_of_reads`: the marks of a template are those of its items.
* `Template.normal_gather`, `Template.join_gather`: what joining characters to texts does.
* `Template.parse_iff_reads`: which templates are accepted, why the others are refused, and
  what an accepted one shows.
-/

namespace ForbiddenCalls

namespace Template

/-! ## Readings -/

/-- What a reader meets in a template. -/
inductive Item where
  | literal (c : Char)
  | placeholder (name : String)
  | unclosed
  deriving DecidableEq, Repr

/-- The rules of reading. -/
inductive Reads : List Char → List Item → Prop
  | nil : Reads [] []
  | openPair {cs : List Char} {items : List Item} (rest : Reads cs items) :
      Reads ('{' :: '{' :: cs) (.literal '{' :: items)
  | closePair {cs : List Char} {items : List Item} (rest : Reads cs items) :
      Reads ('}' :: '}' :: cs) (.literal '}' :: items)
  | placeholder {cs after : List Char} {name : String} {items : List Item}
      (single : cs.head? ≠ some '{') (closed : cs = name.toList ++ '}' :: after)
      (first : '}' ∉ name.toList) (rest : Reads after items) :
      Reads ('{' :: cs) (.placeholder name :: items)
  | unclosed {cs : List Char} (single : cs.head? ≠ some '{') (never : '}' ∉ cs) :
      Reads ('{' :: cs) [.unclosed]
  | other {c : Char} {cs : List Char} {items : List Item} (notOpen : c ≠ '{')
      (single : c = '}' → cs.head? ≠ some '}') (rest : Reads cs items) :
      Reads (c :: cs) (.literal c :: items)

variable {cs : List Char} {items : List Item} {segs : List Segment} {raw : String} {t : Template}

/-- A text has a reading if all shorter ones have one. -/
theorem exists_reads_of_shorter
    (ih : ∀ after : List Char, after.length < cs.length → ∃ items, Reads after items) :
    ∃ items, Reads cs items := by
  rcases cs with _ | ⟨c, cs⟩
  · exact ⟨[], .nil⟩
  -- a doubled brace, whichever of the two it is, takes two characters
  by_cases hpair : (c = '{' ∨ c = '}') ∧ cs.head? = some c
  · obtain ⟨hc, hcs⟩ := hpair
    obtain ⟨after, rfl⟩ := List.head?_eq_some_iff.1 hcs
    obtain ⟨items, h⟩ := ih after (by simp only [List.length_cons]; omega)
    rcases hc with rfl | rfl
    · exact ⟨_, .openPair h⟩
    · exact ⟨_, .closePair h⟩
  · by_cases hopen : c = '{'
    · subst hopen
      have hsingle : cs.head? ≠ some '{' := fun h => hpair ⟨.inl rfl, h⟩
      rcases Text.notMem_or_exists_cut '}' cs with hcs | ⟨name, after, rfl, hname⟩
      · exact ⟨_, .unclosed hsingle hcs⟩
      · obtain ⟨items, h⟩ := ih after (by
          simp only [List.length_cons, List.length_append]
          omega)
        refine ⟨.placeholder (String.ofList name) :: items, .placeholder hsingle ?_ ?_ h⟩
        · rw [String.toList_ofList]
        · rwa [String.toList_ofList]
    · obtain ⟨items, h⟩ := ih cs (by simp only [List.length_cons]; omega)
      exact ⟨_, .other hopen (fun hc hcs => hpair ⟨.inr hc, hc ▸ hcs⟩) h⟩

theorem exists_reads (cs : List Char) : ∃ items, Reads cs items := by
  induction hn : cs.length using Nat.strong_induction_on generalizing cs with
  | _ n ih =>
    subst hn
    exact exists_reads_of_shorter fun after hlt => ih after.length hlt after rfl

/-- No text has two readings: the first characters decide which rule applies. -/
theorem Reads.unique {other : List Item} (h : Reads cs items) (h' : Reads cs other) :
    other = items := by
  induction h generalizing other with
  | nil =>
    cases h'
    rfl
  | openPair _ ih =>
    cases h' with
    | openPair rest => rw [ih rest]
    | placeholder single => exact absurd rfl single
    | unclosed single => exact absurd rfl single
    | other notOpen => exact absurd rfl notOpen
  | closePair _ ih =>
    cases h' with
    | closePair rest => rw [ih rest]
    | other _ single => exact absurd rfl (single rfl)
  | placeholder single closed first _ ih =>
    cases h' with
    | openPair => exact absurd rfl single
    | placeholder _ closed' first' rest =>
      have hcut := Text.cutFirst_eq_some_iff.2 ⟨closed, first⟩
      have hcut' := Text.cutFirst_eq_some_iff.2 ⟨closed', first'⟩
      obtain ⟨hname, rfl⟩ := Prod.mk.inj (Option.some.inj (hcut.symm.trans hcut'))
      rw [ih rest, String.toList_inj.1 hname]
    | unclosed _ never => exact absurd (closed ▸ List.mem_append_right _ List.mem_cons_self) never
    | other notOpen => exact absurd rfl notOpen
  | unclosed single never =>
    cases h' with
    | openPair => exact absurd rfl single
    | placeholder _ closed => exact absurd (closed ▸ List.mem_append_right _ List.mem_cons_self) never
    | unclosed => rfl
    | other notOpen => exact absurd rfl notOpen
  | other notOpen single _ ih =>
    cases h' with
    | openPair => exact absurd rfl notOpen
    | closePair => exact absurd rfl (single rfl)
    | placeholder => exact absurd rfl notOpen
    | unclosed => exact absurd rfl notOpen
    | other _ _ rest => rw [ih rest]

/-- **Every text has exactly one reading.** -/
theorem exists_reads_iff (cs : List Char) :
    ∃ items, ∀ other, Reads cs other ↔ other = items := by
  obtain ⟨items, h⟩ := exists_reads cs
  exact ⟨items, fun other => ⟨h.unique, fun heq => heq ▸ h⟩⟩

/-! ## Items -/

namespace Item

/-- The names that a placeholder may have. -/
def names : List String := ["method", "owner", "receiver"]

/-- An item is sound unless it is a placeholder that is not closed, or one whose name, without
the blanks around it, is not known. -/
def Sound : Item → Prop
  | literal _ => True
  | placeholder name => Text.trim name ∈ names
  | unclosed => False

/-- Why a template is refused for an item. -/
inductive Offends (raw : String) : Item → RuleError → Prop
  | unclosed : Offends raw unclosed (.unclosedBrace raw)
  | unknown {name : String} (h : Text.trim name ∉ names) :
      Offends raw (placeholder name) (.unknownPlaceholder name)

/-- What an item shows: a character, or the value that its name asks for. -/
def text (args : MessageArgs) : Item → String
  | literal c => String.singleton c
  | placeholder name =>
    if Text.trim name = "method" then args.method
    else if Text.trim name = "owner" then args.owner
    else args.receiver
  | unclosed => ""

/-- The mark of an item, or the fault in it. -/
def mark : Item → Except Fault Mark
  | literal c => .ok (.char c)
  | placeholder name =>
    match Placeholder.ofName? (Text.trim name) with
    | none => .error (.unknown name)
    | some p => .ok (.hole p)
  | unclosed => .error .unclosed

@[simp] theorem mark_literal (c : Char) : mark (literal c) = .ok (.char c) := rfl

@[simp] theorem mark_unclosed : mark unclosed = .error .unclosed := rfl

theorem mark_placeholder_of_none {name : String}
    (h : Placeholder.ofName? (Text.trim name) = none) :
    mark (placeholder name) = .error (.unknown name) := by
  rw [mark, h]

theorem mark_placeholder_of_some {name : String} {p : Placeholder}
    (h : Placeholder.ofName? (Text.trim name) = some p) :
    mark (placeholder name) = .ok (.hole p) := by
  rw [mark, h]

theorem exists_ofName?_iff {s : String} : (∃ p, Placeholder.ofName? s = some p) ↔ s ∈ names := by
  simp only [Placeholder.ofName?_eq_some_iff, names, List.mem_cons, List.not_mem_nil, or_false]
  constructor
  · rintro ⟨_ | _ | _, rfl⟩ <;> simp [Placeholder.name]
  · rintro (rfl | rfl | rfl)
    exacts [⟨.method, rfl⟩, ⟨.owner, rfl⟩, ⟨.receiver, rfl⟩]

/-- An item has a mark exactly when it is sound. -/
theorem exists_mark_iff {item : Item} : (∃ m, item.mark = .ok m) ↔ item.Sound := by
  cases item with
  | literal c => exact iff_of_true ⟨.char c, rfl⟩ trivial
  | placeholder name =>
    rw [Sound, ← exists_ofName?_iff, mark]
    cases Placeholder.ofName? (Text.trim name) <;> simp
  | unclosed => exact iff_of_false nofun id

end Item

/-- **The marks of a template** are those of its items, up to the first item with a fault. -/
theorem marks?_of_reads (h : Reads cs items) : marks? cs = items.mapM Item.mark := by
  induction h with
  | nil => rw [marks?_nil]; rfl
  | openPair _ ih => rw [marks?_openPair, ih, mapM_cons_of_ok (Item.mark_literal _)]
  | closePair _ ih => rw [marks?_closePair, ih, mapM_cons_of_ok (Item.mark_literal _)]
  | @placeholder cs after name items single closed first _ ih =>
    have hcut := Text.cutFirst_eq_some_iff.2 ⟨closed, first⟩
    have htrim : String.ofList (Text.trimBlanks name.toList) = Text.trim name := rfl
    rw [marks?_placeholder single hcut, String.ofList_toList, htrim, ih]
    cases hp : Placeholder.ofName? (Text.trim name) with
    | none => rw [mapM_cons_of_error (Item.mark_placeholder_of_none hp)]
    | some p => rw [mapM_cons_of_ok (Item.mark_placeholder_of_some hp)]
  | unclosed single never =>
    rw [marks?_unclosed single (Text.cutFirst_of_notMem never),
      mapM_cons_of_error Item.mark_unclosed]
  | other notOpen single _ ih =>
    rw [marks?_other notOpen single, ih, mapM_cons_of_ok (Item.mark_literal _)]

/-! ## Joining characters -/

/-- What a mark shows. -/
def Mark.text (args : MessageArgs) : Mark → String
  | char c => String.singleton c
  | hole p => args.value p

/-- No text is empty, and no two texts stand next to each other. -/
structure Normal (segs : List Segment) : Prop where
  nonempty : .text "" ∉ segs
  apart : segs.IsChain fun a b => ∀ s s', ¬ (a = .text s ∧ b = .text s')

/-- Joined characters start with a text, or the first character is a text of its own. -/
theorem gather_cases (ms : List Mark) :
    (∃ s segs, gather ms = .text s :: segs) ∨ ∀ s, (gather ms).head? ≠ some (.text s) := by
  by_cases h : ∃ s, (gather ms).head? = some (.text s)
  · obtain ⟨s, hs⟩ := h
    exact .inl ⟨s, List.head?_eq_some_iff.1 hs⟩
  · exact .inr (not_exists.1 h)

/-- Joining the characters changes nothing that is shown. -/
theorem join_gather (args : MessageArgs) (ms : List Mark) :
    String.join ((gather ms).map (Segment.render args)) = String.join (ms.map (Mark.text args)) := by
  induction ms with
  | nil => rfl
  | cons m ms ih =>
    rw [List.map_cons, String.join_cons, ← ih]
    cases m with
    | hole p =>
      rw [gather_hole, List.map_cons, String.join_cons]
      rfl
    | char c =>
      rcases gather_cases ms with ⟨s, segs, hgather⟩ | hgather
      · rw [gather_char_of_text hgather, hgather, List.map_cons, List.map_cons, String.join_cons,
          String.join_cons, ← String.append_assoc]
        rfl
      · rw [gather_char_of_not_text hgather, List.map_cons, String.join_cons]
        rfl

theorem singleton_append_ne_empty (c : Char) (s : String) : String.singleton c ++ s ≠ "" := by
  intro h
  have htexts := congrArg String.toList h
  rw [String.toList_append, String.toList_singleton] at htexts
  exact List.cons_ne_nil c _ htexts

theorem Normal.hole_cons (h : Normal segs) (p : Placeholder) : Normal (.hole p :: segs) := by
  refine ⟨?_, List.isChain_cons.2 ⟨fun b _ s s' hs => Segment.noConfusion hs.1, h.apart⟩⟩
  rw [List.mem_cons, not_or]
  exact ⟨nofun, h.nonempty⟩

/-- A text may be put in front of anything but a text. -/
theorem Normal.text_cons (h : Normal segs) {s : String} (hs : s ≠ "")
    (hsegs : ∀ s', segs.head? ≠ some (.text s')) : Normal (.text s :: segs) := by
  refine ⟨?_, List.isChain_cons.2 ⟨?_, h.apart⟩⟩
  · rw [List.mem_cons, not_or]
    exact ⟨fun heq => hs (Segment.text.inj heq).symm, h.nonempty⟩
  · rintro b hb s₁ s₂ ⟨-, rfl⟩
    exact hsegs s₂ hb

theorem Normal.of_cons {a : Segment} (h : Normal (a :: segs)) : Normal segs :=
  ⟨fun hmem => h.nonempty (List.mem_cons_of_mem a hmem), h.apart.of_cons⟩

/-- Nothing behind a text is a text. -/
theorem Normal.head?_ne_text {s : String} (h : Normal (.text s :: segs)) (s' : String) :
    segs.head? ≠ some (.text s') :=
  fun hs' => (List.isChain_cons.1 h.apart).1 _ hs' s s' ⟨rfl, rfl⟩

/-- **Joined characters are in normal form.** -/
theorem normal_gather (ms : List Mark) : Normal (gather ms) := by
  induction ms with
  | nil => exact ⟨List.not_mem_nil, List.IsChain.nil⟩
  | cons m ms ih =>
    cases m with
    | hole p => exact ih.hole_cons p
    | char c =>
      rcases gather_cases ms with ⟨s, segs, hgather⟩ | hgather
      · rw [hgather] at ih
        rw [gather_char_of_text hgather]
        exact ih.of_cons.text_cons (singleton_append_ne_empty c s) ih.head?_ne_text
      · rw [gather_char_of_not_text hgather]
        refine ih.text_cons ?_ hgather
        exact fun h => singleton_append_ne_empty c "" (by rw [String.append_empty, h])

/-! ## What is accepted, and what is shown -/

/-- The error that is reported for a fault. -/
def Fault.toError (raw : String) : Fault → RuleError
  | .unclosed => .unclosedBrace raw
  | .unknown name => .unknownPlaceholder name

theorem parse_of_reads (h : Reads raw.toList items) :
    parse raw =
      match items.mapM Item.mark with
      | .ok ms => .ok ⟨raw, gather ms⟩
      | .error fault => .error (fault.toError raw) := by
  rw [parse, marks?_of_reads h]
  rcases items.mapM Item.mark with (_ | _) | _ <;> rfl

theorem parse_eq_ok_iff (h : Reads raw.toList items) :
    parse raw = .ok t ↔ ∃ ms, items.mapM Item.mark = .ok ms ∧ t = ⟨raw, gather ms⟩ := by
  rw [parse_of_reads h]
  cases items.mapM Item.mark with
  | ok ms => simp [eq_comm]
  | error fault => simp

theorem parse_eq_error_iff (h : Reads raw.toList items) {e : RuleError} :
    parse raw = .error e ↔
      ∃ fault, items.mapM Item.mark = .error fault ∧ e = fault.toError raw := by
  rw [parse_of_reads h]
  cases items.mapM Item.mark with
  | ok ms => simp
  | error fault => simp [eq_comm]

/-- An item offends by its fault. -/
theorem Item.offends_iff {item : Item} {e : RuleError} :
    item.Offends raw e ↔ ∃ fault, item.mark = .error fault ∧ e = fault.toError raw := by
  cases item with
  | literal c =>
    refine iff_of_false (fun h => by cases h) ?_
    rintro ⟨fault, hfault, -⟩
    cases hfault
  | placeholder name =>
    cases hp : Placeholder.ofName? (Text.trim name) with
    | none =>
      have hname : Text.trim name ∉ names := by
        rw [← Item.exists_ofName?_iff, hp]
        rintro ⟨p, h⟩
        cases h
      rw [mark_placeholder_of_none hp]
      constructor
      · rintro (_ | _)
        exact ⟨_, rfl, rfl⟩
      · rintro ⟨fault, hfault, rfl⟩
        cases hfault
        exact .unknown hname
    | some p =>
      have hname : Text.trim name ∈ names := Item.exists_ofName?_iff.1 ⟨p, hp⟩
      rw [mark_placeholder_of_some hp]
      refine iff_of_false ?_ ?_
      · rintro (_ | h)
        exact h hname
      · rintro ⟨fault, hfault, -⟩
        cases hfault
  | unclosed =>
    constructor
    · rintro ⟨⟩
      exact ⟨.unclosed, rfl, rfl⟩
    · rintro ⟨fault, hfault, rfl⟩
      cases hfault
      exact .unclosed

/-- An item shows what its mark shows. -/
theorem Item.text_eq {item : Item} {m : Mark} (h : item.mark = .ok m) (args : MessageArgs) :
    item.text args = m.text args := by
  cases item with
  | literal c =>
    cases h
    rfl
  | placeholder name =>
    cases hp : Placeholder.ofName? (Text.trim name) with
    | none =>
      rw [mark_placeholder_of_none hp] at h
      cases h
    | some p =>
      rw [mark_placeholder_of_some hp] at h
      cases h
      rw [text, Placeholder.ofName?_eq_some_iff.1 hp]
      cases p <;> rfl
  | unclosed => cases h

theorem map_text_eq {ms : List Mark} (h : items.mapM Item.mark = .ok ms) (args : MessageArgs) :
    items.map (Item.text args) = ms.map (Mark.text args) := by
  induction items generalizing ms with
  | nil =>
    obtain rfl := Except.ok.inj h
    rfl
  | cons item items ih =>
    obtain ⟨m, ms', hm, hms', rfl⟩ := mapM_cons_eq_ok_iff.1 h
    rw [List.map_cons, List.map_cons, ih hms', Item.text_eq hm]

/-- **Reading a template.**  A text has one reading.  It is accepted exactly when all items of
its reading are sound, and otherwise refused for the first one that is not, whatever comes
behind it.  The segments of an accepted template are in normal form, and it shows the items
one after the other, the values as they are. -/
theorem parse_iff_reads (raw : String) :
    ∃ items, (∀ other, Reads raw.toList other ↔ other = items) ∧
      ((∃ t, parse raw = .ok t) ↔ ∀ item ∈ items, item.Sound) ∧
      (∀ e, parse raw = .error e ↔
        ∃ before item after, items = before ++ item :: after ∧
          (∀ i ∈ before, i.Sound) ∧ item.Offends raw e) ∧
      ∀ t, parse raw = .ok t →
        Normal t.segments ∧
          ∀ args, t.render args = String.join (items.map (Item.text args)) := by
  obtain ⟨items, hitems⟩ := exists_reads_iff raw.toList
  have hreads : Reads raw.toList items := (hitems items).2 rfl
  refine ⟨items, hitems, ?_, fun e => ?_, fun t ht => ?_⟩
  · have hok : (∃ t, parse raw = .ok t) ↔ ∃ ms, items.mapM Item.mark = .ok ms := by
      simp only [parse_eq_ok_iff hreads, exists_comm (α := Template), exists_and_left, exists_eq,
        and_true]
    rw [hok, exists_mapM_eq_ok_iff]
    simp only [Item.exists_mark_iff]
  · rw [parse_eq_error_iff hreads]
    simp only [mapM_eq_error_iff, Item.exists_mark_iff, Item.offends_iff]
    constructor
    · rintro ⟨fault, ⟨before, item, after, rfl, hfault, hbefore⟩, rfl⟩
      exact ⟨before, item, after, rfl, hbefore, fault, hfault, rfl⟩
    · rintro ⟨before, item, after, rfl, hbefore, fault, hfault, rfl⟩
      exact ⟨fault, ⟨before, item, after, rfl, hfault, hbefore⟩, rfl⟩
  · obtain ⟨ms, hms, rfl⟩ := (parse_eq_ok_iff hreads).1 ht
    refine ⟨normal_gather ms, fun args => ?_⟩
    rw [render, join_gather, map_text_eq hms]

/-- A pair of braces, a placeholder with blanks around its name, and a single brace (written
with the codes of the braces). -/
def spacedTemplate : String := "\x7d\x7d\x7b owner \x7d\x7d"

theorem reads_spacedTemplate :
    Reads spacedTemplate.toList [.literal '}', .placeholder " owner ", .literal '}'] :=
  .closePair (.placeholder (by decide) rfl (by decide) (.other (by decide) (by decide) .nil))

theorem parse_iff_reads_spacedTemplate :
    ∃ t, parse spacedTemplate = .ok t ∧ Normal t.segments ∧
      ∀ args, t.render args = "\x7d" ++ args.owner ++ "\x7d" := by
  obtain ⟨items, hitems, hok, -, hshown⟩ := parse_iff_reads spacedTemplate
  obtain rfl := (hitems _).1 reads_spacedTemplate
  obtain ⟨t, ht⟩ := hok.2 (by simp [Item.Sound]; decide)
  obtain ⟨hnormal, htext⟩ := hshown t ht
  refine ⟨t, ht, hnormal, fun args => (htext args).trans ?_⟩
  have howner : Text.trim " owner " = "owner" := by decide
  simp [Item.text, howner, String.append_assoc]

end Template

end ForbiddenCalls
