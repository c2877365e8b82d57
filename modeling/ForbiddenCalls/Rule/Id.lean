import ForbiddenCalls.Rule.Error

/-!
# Rule ids

A rule is named by a nonempty text of ASCII letters, digits, `_` and `-`.  The
check is part of the type, so an id that exists is valid.
-/

namespace ForbiddenCalls

/-- A character that may occur in a rule id. -/
def isIdChar (c : Char) : Bool :=
  c.isAlphanum || c == '_' || c == '-'

/-- The name of a rule. -/
structure RuleId where
  text : String
  nonempty : text ≠ ""
  allowed : text.toList.all isIdChar = true
  deriving DecidableEq, Repr

namespace RuleId

instance : Hashable RuleId := ⟨fun id => hash id.text⟩

/-- Checks a text that is to be a rule id. -/
def ofText (s : String) : Except RuleError RuleId :=
  if h : s = "" then .error .emptyId
  else if h' : s.toList.all isIdChar then .ok ⟨s, h, h'⟩
  else .error (.invalidId s)

@[simp] theorem ofText_text (id : RuleId) : ofText id.text = .ok id := by
  simp [ofText, id.nonempty, id.allowed]

theorem text_of_ofText {s : String} {id : RuleId} (h : ofText s = .ok id) : id.text = s := by
  unfold ofText at h
  split at h
  · simp at h
  · split at h
    · cases h; rfl
    · simp at h

@[ext] theorem ext {a b : RuleId} (h : a.text = b.text) : a = b := by
  cases a; cases b; simp_all

end RuleId

end ForbiddenCalls
