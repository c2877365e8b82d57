import ForbiddenCalls.Rule.Basic
import Mathlib.Data.List.TakeWhile

/-!
# What is asked of the draft of a rule

A draft is checked in steps, and the first step that fails decides the answer: its id, its
methods, its owners and its message.  Here each step is said in plain terms, about the texts
that the draft holds: which texts are ids, and which lists of names may stand for methods or
owners.

* `IsRuleName`, `AreGiven`: the conditions.
* `RuleDraft.exists_build_iff`: a draft becomes a rule exactly when it is complete and its
  message is a template.
-/

namespace ForbiddenCalls

/-- A text that may be the id of a rule: it is not empty, and made of ASCII letters, digits,
`_` and `-`. -/
def IsRuleName (s : String) : Prop :=
  s ≠ "" ∧ ∀ c ∈ s.toList, c.isAlpha = true ∨ c.isDigit = true ∨ c = '_' ∨ c = '-'

/-- At least one name is given, and no name is blank. -/
def AreGiven (names : List String) : Prop :=
  names ≠ [] ∧ ∀ n ∈ names, Text.trim n ≠ ""

variable {s : String}

/-! ## Ids -/

theorem isIdChar_iff {c : Char} :
    isIdChar c = true ↔ c.isAlpha = true ∨ c.isDigit = true ∨ c = '_' ∨ c = '-' := by
  simp only [isIdChar, Char.isAlphanum, Bool.or_eq_true, beq_iff_eq, or_assoc]

theorem isRuleName_iff : IsRuleName s ↔ s ≠ "" ∧ s.toList.all isIdChar = true := by
  simp only [IsRuleName, List.all_eq_true, isIdChar_iff]

instance (s : String) : Decidable (IsRuleName s) := decidable_of_iff _ isRuleName_iff.symm

theorem exists_ofText_iff : (∃ id, RuleId.ofText s = .ok id) ↔ IsRuleName s := by
  rw [isRuleName_iff]
  constructor
  · rintro ⟨id, h⟩
    rw [← RuleId.text_of_ofText h]
    exact ⟨id.nonempty, id.allowed⟩
  · rintro ⟨hne, hall⟩
    exact ⟨⟨s, hne, hall⟩, RuleId.ofText_text ⟨s, hne, hall⟩⟩

/-- A text that is not an id is refused, the empty text for a reason of its own. -/
theorem ofText_of_not_isRuleName (h : ¬ IsRuleName s) :
    RuleId.ofText s = .error (if s = "" then .emptyId else .invalidId s) := by
  rw [isRuleName_iff] at h
  by_cases hs : s = ""
  · rw [RuleId.ofText, dif_pos hs, if_pos hs]
  · rw [RuleId.ofText, dif_neg hs, if_neg hs, dif_neg fun hall => h ⟨hs, hall⟩]

/-! ## Names -/

/-- A text is blank when nothing is left of it after trimming. -/
theorem trim_eq_empty_iff : Text.trim s = "" ↔ Text.isBlankText s = true := by
  have hall : (∀ c ∈ s.toList.dropWhile Text.isBlank, Text.isBlank c = true) ↔
      ∀ c ∈ s.toList, Text.isBlank c = true := by
    constructor
    · intro h c hc
      rw [← List.takeWhile_append_dropWhile (p := Text.isBlank) (l := s.toList),
        List.mem_append] at hc
      exact hc.elim List.mem_takeWhile_imp (h c)
    · exact fun h c hc => h c ((List.dropWhile_sublist _).subset hc)
  rw [Text.trim, String.ofList_eq_empty_iff, Text.trimBlanks, List.reverse_eq_nil_iff,
    List.dropWhile_eq_nil_iff, Text.isBlankText, List.all_eq_true, ← hall]
  simp only [List.mem_reverse]

theorem areGiven_iff {names : List String} :
    AreGiven names ↔ (names.isEmpty || names.any Text.isBlankText) = false := by
  simp only [AreGiven, ne_eq, trim_eq_empty_iff, Bool.or_eq_false_iff, List.isEmpty_eq_false_iff,
    List.any_eq_false]

instance (names : List String) : Decidable (AreGiven names) := decidable_of_iff _ areGiven_iff.symm

/-- One name in a set may be asked for alone; the check is the same. -/
theorem isBlank_ofSet (types : NameSet) :
    (OwnerPredicate.ofSet types).isBlank =
      (types.toList.isEmpty || types.toList.any Text.isBlankText) := by
  rw [OwnerPredicate.ofSet]
  cases h : types.single? with
  | none => rfl
  | some type =>
    rw [NameSet.single?_eq_some_iff.1 h]
    exact (Bool.or_false _).symm

/-! ## Drafts -/

namespace RuleDraft

variable {d : RuleDraft}

/-- All that is asked of a draft, its message apart. -/
structure Complete (d : RuleDraft) : Prop where
  id : IsRuleName d.id
  methods : AreGiven d.methods.toList
  owners : AreGiven d.owners.toList

theorem lacksMethods_eq_false_iff : d.lacksMethods = false ↔ AreGiven d.methods.toList :=
  areGiven_iff.symm

theorem isBlank_owners_eq_false_iff :
    (OwnerPredicate.ofSet d.owners).isBlank = false ↔ AreGiven d.owners.toList := by
  rw [isBlank_ofSet, areGiven_iff]

/-- **Which drafts become rules**: those that are complete, with a template for a message. -/
theorem exists_build_iff :
    (∃ r, d.build = .ok r) ↔ d.Complete ∧ ∃ t, Template.parse d.messageSource = .ok t := by
  simp only [build_eq_ok_iff, lacksMethods_eq_false_iff, isBlank_owners_eq_false_iff]
  constructor
  · rintro ⟨r, id, t, hid, hmethods, howners, ht, -⟩
    exact ⟨⟨exists_ofText_iff.1 ⟨id, hid⟩, hmethods, howners⟩, t, ht⟩
  · rintro ⟨h, t, ht⟩
    obtain ⟨id, hid⟩ := exists_ofText_iff.2 h.id
    exact ⟨_, id, t, hid, h.methods, h.owners, ht, rfl⟩

end RuleDraft

end ForbiddenCalls
