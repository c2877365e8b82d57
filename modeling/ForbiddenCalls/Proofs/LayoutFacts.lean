import ForbiddenCalls.Proofs.Layout

/-!
# Facts in two layouts

A node gives the same facts in every layout if its names are taken from tokens, whose text
is the same in every layout, and if everything else is read without its blanks.  What that
asks of the extractor of a language is said node by node (`Extractor.ReadsAlike`), and a
walk over two layouts of a tree then collects the same facts but for the places of the
calls (`Extractor.facts_unplaced_eq`).

Which nodes are used as names is told by rules (`NameRule`), one for each kind of name.
-/

namespace ForbiddenCalls

/-! ## Types -/

namespace Text

theorem compact_takeWhile (cs : List Char) :
    compact (cs.takeWhile (· != '<')) = (compact cs).takeWhile (· != '<') := by
  induction cs with
  | nil => rfl
  | cons c cs ih =>
    by_cases hangle : c = '<'
    · subst hangle
      rfl
    · have hkeep : (c != '<') = true := by simpa using hangle
      rw [List.takeWhile_cons_of_pos (p := (· != '<')) hkeep]
      by_cases hblank : isBlank c = true
      · simpa [compact, hblank] using ih
      · simpa [compact, hblank, hangle] using ih

end Text

/-- Blanks do not matter in a type. -/
theorem normalizeType_eq {a b : String} (h : Text.compactText a = Text.compactText b) :
    normalizeType a = normalizeType b := by
  have hcompact : Text.compact a.toList = Text.compact b.toList := String.ofList_injective h
  rw [normalizeType, normalizeType, Text.compact_takeWhile, Text.compact_takeWhile, hcompact]

/-! ## Results without places -/

/-- A call without its place. -/
def RawCall.unplaced (c : RawCall) : RawCall :=
  { c with line := 0, column := 0, offset := 0, length := 0 }

/-- Facts without the places of the calls. -/
def Facts.unplaced (f : Facts) : Facts := { f with calls := f.calls.map RawCall.unplaced }

/-! ## Facts -/

namespace Extractor

variable {x : Extractor} {s s' : Source} {t t' root root' : Tree} {R : Tree → Tree → Prop}

/-- Two nodes give the same facts, up to the places of calls. -/
structure ReadsAlike (x : Extractor) (s s' : Source) (t t' : Tree) : Prop where
  samePackage : x.packageOf? s t = x.packageOf? s' t'
  sameImport : x.importOf? s t = x.importOf? s' t'
  sameDeclared : x.declaredType? s t = x.declaredType? s' t'
  sameVariables : x.variablesOf s t = x.variablesOf s' t'
  sameCall : (x.callOf? s t).map RawCall.unplaced = (x.callOf? s' t').map RawCall.unplaced

/-- **Facts in step.**  If the pairs of a relation that passes to children give the same
facts, so do the trees that are such a pair. -/
theorem facts_unplaced_eq (hR : ∀ t t', R t t' → List.Forall₂ R t.children t'.children)
    (hreads : ∀ t t', R t t' → x.ReadsAlike s s' t t') (h : R root root') :
    (x.facts s root).unplaced = (x.facts s' root').unplaced := by
  have hwalk := Tree.forall₂_preorder hR root h .nil
  have hdeclaration : ∀ n n', Tree.RelatedInPlace R n n' →
      x.declaration? s n = x.declaration? s' n' := by
    rintro n n' ⟨htree, hancestors⟩
    rw [declaration?_eq_map, declaration?_eq_map, enclosingTypes_eq, enclosingTypes_eq,
      (hreads _ _ htree).sameDeclared,
      filterMap_eq_of_forall₂ hancestors fun t t' ht => (hreads t t' ht).sameDeclared]
  have hpackage : x.packageAfter s (Tree.preorder [] root) none =
      x.packageAfter s' (Tree.preorder [] root') none :=
    List.rel_foldl (fun _ _ hp _ _ hn => by rw [hp, (hreads _ _ hn.1).samePackage]) rfl hwalk
  rw [facts_eq, facts_eq, Facts.unplaced, Facts.unplaced, Facts.mk.injEq]
  refine ⟨hpackage, ?_, ?_, ?_, ?_⟩
  · exact filterMap_eq_of_forall₂ hwalk fun n n' hn => (hreads _ _ hn.1).sameImport
  · exact filterMap_eq_of_forall₂ hwalk hdeclaration
  · exact flatMap_eq_of_forall₂ hwalk fun n n' hn => (hreads _ _ hn.1).sameVariables
  · rw [List.map_filterMap, List.map_filterMap]
    exact filterMap_eq_of_forall₂ hwalk fun n n' hn => (hreads _ _ hn.1).sameCall

end Extractor

/-! ## Names -/

/-- Nodes of some kinds use some nodes as names. -/
structure NameRule where
  kinds : List String
  names : Tree → List Tree

/-- The nodes that a node uses as names by some rules. -/
def namesBy (rules : List NameRule) (t : Tree) : List Tree :=
  rules.flatMap fun r => if r.kinds.contains t.kind then r.names t else []

theorem mem_namesBy {rules : List NameRule} {r : NameRule} {t name : Tree} (hr : r ∈ rules)
    (hkind : r.kinds.contains t.kind = true) (hname : name ∈ r.names t) :
    name ∈ namesBy rules t := by
  refine List.mem_flatMap.2 ⟨r, hr, ?_⟩
  rwa [if_pos hkind]

namespace Tree

/-- The node of the name of a declared type. -/
def declaredNameNode? (t : Tree) : Option Tree :=
  (t.field? .name).or (t.firstNamed? ["identifier", "type_identifier", "simple_identifier"])

theorem declaredName?_eq_map (s : Source) (t : Tree) :
    t.declaredName? s = t.declaredNameNode?.map (text s) := by
  rw [declaredName?, declaredNameNode?]
  cases t.field? .name with
  | none => rfl
  | some name => rfl

end Tree

/-- Nodes of some kinds are named like declared types. -/
def NameRule.declared (kinds : List String) : NameRule := ⟨kinds, fun t => t.declaredNameNode?.toList⟩

namespace Tree.Relaid

variable {rules : List NameRule} {kinds : List String} {s s' : Source} {t t' : Tree}

theorem declaredName?_eq (h : Relaid (namesBy rules) s s' t t') (hrule : .declared kinds ∈ rules)
    (hkind : kinds.contains t.kind = true) : t.declaredName? s = t'.declaredName? s' := by
  rw [declaredName?_eq_map, declaredName?_eq_map]
  exact h.map_text_eq (rel_or (h.field? .name) (h.firstNamed? _)) fun _ hname =>
    mem_namesBy hrule hkind (Option.mem_toList.2 hname)

theorem declaredType?_eq {x : Extractor} (h : Relaid (namesBy rules) s s' t t')
    (hrule : .declared x.declarationKinds ∈ rules) : x.declaredType? s t = x.declaredType? s' t' := by
  rw [Extractor.declaredType?, Extractor.declaredType?, ← h.kind_eq]
  split
  · next hkind => exact h.declaredName?_eq hrule hkind
  · rfl

end Tree.Relaid

end ForbiddenCalls
