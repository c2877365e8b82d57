import ForbiddenCalls.Proofs.NameResolution

/-!
# Chained receivers

A receiver of several segments may be the name of a type or a field of something.  The last
segment tells them apart: types start with a capital.  A receiver that is bound to nothing is
held against this, and one that ends with a segment in lower case is left unresolved.  A
receiver whose first segment is a type of the file is not: its other segments are taken for
nested types, whatever they look like.  So `Log.inner`, a field of the imported
`android.util.Log`, counts as a type `android.util.Log.inner`.

* `Facts.denotes_join_iff`: the types that a dotted name in lower case is taken for.
* `SymbolTable.chainedReceiver_iff`: when a chained receiver is resolved.
* `SymbolTable.resolveReceiver_chained`: a field of a type that is resolved.
-/

namespace ForbiddenCalls

variable {f : Facts} {implicit : List (String × String)} {receiver head rest : String}

/-- A dotted name that does not end with a capitalised segment denotes the one type that it is
bound to, or, if it is not bound, what is written behind its first segment in the one type
that this is bound to. -/
theorem Facts.denotes_join_iff {type : String} (hsplit : receiver = head ++ "." ++ rest)
    (hdot : '.' ∉ head.toList)
    (hlast : Text.startsWithCapital (Text.lastSegment receiver) = false) :
    f.Denotes implicit receiver (some type) ↔
      f.typesNamed receiver = {type} ∨
        f.typesNamed receiver = ∅ ∧
          ∃ outer, f.typesNamed head = {outer} ∧ type = outer ++ "." ++ rest := by
  constructor
  · intro h
    generalize hdenoted : some type = denoted at h
    cases h with
    | bound hname => exact .inl (Option.some.inj hdenoted ▸ hname)
    | ambiguous hname => exact nomatch hdenoted
    | nested hname hsplit' hdot' houter =>
      -- there is one cut of the receiver at its first dot
      have hcut := (Text.splitHead_eq_some_iff.2 ⟨hsplit, hdot⟩).symm.trans
        (Text.splitHead_eq_some_iff.2 ⟨hsplit', hdot'⟩)
      obtain ⟨rfl, rfl⟩ := Prod.mk.inj (Option.some.inj hcut)
      exact .inr ⟨hname, _, houter, Option.some.inj hdenoted⟩
    | nestedAmbiguous hname hsplit' hdot' houter => exact nomatch hdenoted
    | full hname hsplit' hdot' houter hfull =>
      -- only here the last segment is looked at
      obtain ⟨-, -, last, hsegment, hcapital⟩ := hfull
      rw [Text.lastSegment_eq_iff.2 hsegment, hcapital] at hlast
      exact nomatch hlast
    | unknown hname hsplit' hdot' houter hfull => exact nomatch hdenoted
    | implicit hname hnone =>
      rw [hsplit] at hnone
      exact absurd (by simp) hnone
  · rintro (hname | ⟨hname, outer, houter, rfl⟩)
    · exact .bound hname
    · exact .nested hname hsplit hdot houter

namespace SymbolTable

/-- **When a chained receiver is resolved.**  Let a receiver have several segments, the last
one without a capital, and let it not start with `this.`.  It is resolved exactly if it is
made of identifiers, its first segment is no variable, and either it is bound to one type
itself, or it is not bound and its first segment is bound to one type; in that case it is
resolved to what is written behind its first segment in that type.  So it stays unresolved
behind a variable, and where neither it nor its first segment is bound to one type. -/
theorem chainedReceiver_iff (hthis : ∀ name, receiver ≠ "this." ++ name)
    (hsplit : receiver = head ++ "." ++ rest) (hdot : '.' ∉ head.toList)
    (hlast : Text.startsWithCapital (Text.lastSegment receiver) = false) (f : Facts)
    (implicit : List (String × String)) :
    (∀ type, (ofFacts f implicit).resolveReceiver receiver = .resolved type ↔
      Text.IsDottedName receiver ∧ f.typesWritten head = ∅ ∧
        (f.typesNamed receiver = {type} ∨
          f.typesNamed receiver = ∅ ∧
            ∃ outer, f.typesNamed head = {outer} ∧ type = outer ++ "." ++ rest)) ∧
    ((f.typesWritten head).Nonempty ∨
        (∀ type, f.typesNamed receiver ≠ {type}) ∧ (∀ outer, f.typesNamed head ≠ {outer}) →
      (ofFacts f implicit).resolveReceiver receiver = .unresolved) := by
  have hresolved : ∀ type, (ofFacts f implicit).resolveReceiver receiver = .resolved type ↔
      Text.IsDottedName receiver ∧ f.typesWritten head = ∅ ∧
        f.Denotes implicit receiver (some type) := by
    intro type
    rw [← resolveType_iff]
    by_cases hdotted : Text.IsDottedName receiver
    · rw [resolveReceiver_of_join hthis hdotted hsplit hdot]
      rcases (f.typesWritten head).eq_empty_or_nonempty with hwritten | hwritten
      · rw [contains_variableScope_eq_false hwritten]
        simp only [Bool.false_eq_true, if_false, hdotted, hwritten, true_and]
        rw [eq_comm, OwnerType.resolved_eq_ofOption_iff]
      · rw [if_pos (contains_variableScope_iff.2 hwritten)]
        exact iff_of_false nofun fun h => hwritten.ne_empty h.2.1
    · rw [resolveReceiver_of_owns (.unnamed hthis hdotted)]
      exact iff_of_false nofun fun h => hdotted h.1
  simp only [Facts.denotes_join_iff hsplit hdot hlast] at hresolved
  refine ⟨hresolved, fun hnone => ?_⟩
  cases howner : (ofFacts f implicit).resolveReceiver receiver with
  | unresolved => rfl
  | resolved type =>
    obtain ⟨-, hwritten, hbound⟩ := (hresolved type).1 howner
    rcases hnone with hvariable | ⟨hname, hhead⟩
    · exact absurd hwritten hvariable.ne_empty
    · rcases hbound with hname' | ⟨-, outer, houter, -⟩
      · exact absurd hname' (hname type)
      · exact absurd houter (hhead outer)

/-! ## A field of an imported type -/

/-- A file that imports `android.util.Log`, with variables. -/
def logFacts (typedVariables : List Variable) : Facts where
  imports := [⟨"android.util.Log", none, .type⟩]
  typedVariables

theorem typesNamed_logFacts (typedVariables : List Variable) (name : String) :
    (logFacts typedVariables).typesNamed name = {type | name = "Log" ∧ type = "android.util.Log"} := by
  have hbindings : (logFacts typedVariables).typeBindings = [("Log", "android.util.Log")] := by
    change (logFacts []).typeBindings = _
    decide
  rw [← Facts.valuesOf_typeBindings, hbindings]
  ext type
  simp [valuesOf]

theorem not_this_logInner : ∀ name, "Log.inner" ≠ "this." ++ name :=
  ne_this_of_fieldOfThis? (by decide)

/-- A variable hides the imported type of its name. -/
theorem chainedReceiver_iff_hidden :
    (∀ name, "Log.inner" ≠ "this." ++ name) ∧ "Log.inner" = "Log" ++ "." ++ "inner" ∧
    '.' ∉ "Log".toList ∧ Text.startsWithCapital (Text.lastSegment "Log.inner") = false ∧
    (ofFacts (logFacts [⟨"Log", "Log"⟩]) []).resolveReceiver "Log.inner" = .unresolved := by
  have hsplit : "Log.inner" = "Log" ++ "." ++ "inner" := by decide
  have hdot : '.' ∉ "Log".toList := by decide
  have hlast : Text.startsWithCapital (Text.lastSegment "Log.inner") = false := by decide
  exact ⟨not_this_logInner, hsplit, hdot, hlast,
    (chainedReceiver_iff not_this_logInner hsplit hdot hlast _ _).2
      (.inl ⟨"Log", ⟨"Log", "Log"⟩, List.mem_singleton_self _, rfl, rfl⟩)⟩

/-- **A field of a type that is resolved.**  The receiver `Log.inner` has two segments, does
not start with `this.`, and its last segment has no capital.  In a file that imports
`android.util.Log` and declares no variable, its methods are taken for those of a type
`android.util.Log.inner`. -/
theorem resolveReceiver_chained :
    Text.segments "Log.inner" = ["Log", "inner"] ∧ (∀ name, "Log.inner" ≠ "this." ++ name) ∧
    Text.startsWithCapital (Text.lastSegment "Log.inner") = false ∧
    (ofFacts (logFacts []) []).resolveReceiver "Log.inner" =
      .resolved "android.util.Log.inner" := by
  have hdotted : Text.IsDottedName "Log.inner" := Text.all_isIdentifier_segments_iff.1 (by decide)
  have hunbound : (logFacts []).typesNamed "Log.inner" = ∅ := by
    rw [typesNamed_logFacts]
    simp
  have hlog : (logFacts []).typesNamed "Log" = {"android.util.Log"} := by
    rw [typesNamed_logFacts]
    simp
  have hwritten : (logFacts []).typesWritten "Log" = ∅ := by
    simp [Facts.typesWritten, logFacts]
  have hsplit : "Log.inner" = "Log" ++ "." ++ "inner" := by decide
  refine ⟨by decide, not_this_logInner, by decide, resolveReceiver_of_owns ?_⟩
  exact .dottedType not_this_logInner hdotted hsplit (by decide) hwritten
    (.nested hunbound hsplit (by decide) hlog)

end SymbolTable

end ForbiddenCalls
