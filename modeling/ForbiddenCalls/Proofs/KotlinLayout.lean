import ForbiddenCalls.Proofs.LayoutFacts
import ForbiddenCalls.Syntax.Kotlin

/-!
# Kotlin files in two layouts

A node of a Kotlin syntax tree gives the same facts in every layout (`Kotlin.readsAlike`).
Receivers and types are read without their blanks.  A qualified name is put together from
its segments, which are tokens as the names of types, variables and methods are.
-/

namespace ForbiddenCalls

namespace Kotlin

/-- A qualified name uses its segments as names. -/
def segmentNames : NameRule where
  kinds := ["qualified_identifier"]
  names t := t.children.filter fun c => c.kind == "identifier"

/-- The kinds of nodes that are plain names. -/
def plainKinds : List String := ["identifier", "simple_identifier", "type_identifier"]

/-- An import uses the plain names in it. -/
def importNames : NameRule where
  kinds := ["import", "import_header"]
  names t := t.children.filter fun c => plainKinds.contains c.kind

/-- A variable uses the first name in it. -/
def variableNames : NameRule where
  kinds := ["variable_declaration", "parameter", "class_parameter"]
  names t := (t.firstNamed? ["identifier", "simple_identifier"]).toList

/-- The node of the name of a method, from what is called. -/
def calleeName? (callee : Tree) : Option Tree :=
  if callee.kind = "navigation_expression" then memberName? callee
  else if callee.kind = "identifier" ∨ callee.kind = "simple_identifier" then some callee
  else none

/-- A call uses the name of the method. -/
def methodNames : NameRule where
  kinds := ["call_expression"]
  names t := (t.namedChildren.head?.bind calleeName?).toList

/-- The rules for names in Kotlin syntax trees. -/
def nameRules : List NameRule :=
  [.declared declarationKinds, .declared ["import_alias"], segmentNames, importNames,
    variableNames, methodNames]

/-- The nodes that a node of a Kotlin syntax tree uses as names. -/
def namesOf : Tree → List Tree := namesBy nameRules

variable {s s' : Source} {t t' : Tree}

theorem qualifiedName_eq (h : Tree.Relaid namesOf s s' t t') :
    qualifiedName s t = qualifiedName s' t' := by
  rw [qualifiedName, qualifiedName, ← h.kind_eq]
  split
  · next hkind =>
    have hparts : (t.children.filter fun c => c.kind == "identifier").map (Tree.text s) =
        (t'.children.filter fun c => c.kind == "identifier").map (Tree.text s') :=
      h.map_text_eq_of_forall₂ (forall₂_filter h.children fun _ _ hc => by rw [hc.kind_eq])
        fun _ hname => mem_namesBy (r := segmentNames) (by simp [nameRules])
          (by rw [hkind]; decide) hname
    rw [hparts]
  · exact h.compactText_eq

theorem packageOf?_eq (h : Tree.Relaid namesOf s s' t t') : packageOf? s t = packageOf? s' t' := by
  rw [packageOf?, packageOf?, h.kind_eq,
    map_eq_of_rel (h.firstNamed? _) fun _ _ _ _ hname => qualifiedName_eq hname]

/-- A child adds the same to what was read of an import. -/
theorem ImportParts.add_eq (h : Tree.Relaid namesOf s s' t t')
    (hname : plainKinds.contains t.kind = true → t.children = []) (p : ImportParts) :
    p.add s t = p.add s' t' := by
  rw [ImportParts.add, ImportParts.add, ← h.kind_eq]
  split
  · rw [qualifiedName_eq h]
  · split
    · next hkind => rw [h.text_eq (hname (by rw [hkind.1]; decide))]
    · split
      · next hkind =>
        rw [h.text_eq (hname (by rcases hkind.1 with hk | hk | hk <;> rw [hk] <;> decide))]
      · split
        · next hkind =>
          have hrule : NameRule.declared ["import_alias"] ∈ nameRules := by simp [nameRules]
          rw [h.declaredName?_eq hrule (by rw [hkind]; decide)]
        · rfl

theorem importOf?_eq (h : Tree.Relaid namesOf s s' t t') : importOf? s t = importOf? s' t' := by
  rw [importOf?, importOf?, ← h.kind_eq]
  split
  · next hkind =>
    -- A plain name is a token because it is a child of this import.
    have hchildren : List.Forall₂ (fun c c' => c ∈ t.children ∧ Tree.Relaid namesOf s s' c c')
        t.children t'.children := (List.forall₂_and_left _ _).2 ⟨fun _ hc => hc, h.children⟩
    have hparts : t.children.foldl (ImportParts.add s) {} =
        t'.children.foldl (ImportParts.add s') {} := by
      refine List.rel_foldl (fun p p' hp c c' hc => ?_) rfl hchildren
      rw [hp]
      refine ImportParts.add_eq hc.2 (fun hplain => ?_) p'
      refine h.names t t.self_mem_nodes c (mem_namesBy (r := importNames) (by simp [nameRules]) ?_
        (List.mem_filter.2 ⟨hc.1, hplain⟩))
      rcases hkind with hk | hk <;> rw [hk] <;> decide
    rw [hparts]
  · rfl

/-! ### Variables -/

theorem name?_eq (h : Tree.Relaid namesOf s s' t t')
    (hkind : variableNames.kinds.contains t.kind = true) : name? s t = name? s' t' :=
  h.map_text_eq (h.firstNamed? _) fun _ hname =>
    mem_namesBy (r := variableNames) (by simp [nameRules]) hkind (Option.mem_toList.2 hname)

theorem writtenType?_eq (h : Tree.Relaid namesOf s s' t t') :
    writtenType? s t = writtenType? s' t' :=
  map_eq_of_rel (h.firstNamed? _) fun _ _ _ _ htype => normalizeType_eq htype.compactText_eq

/-- What is called, with a token for the name of the method.  Constructors are read off a
call as well as methods. -/
theorem rel_callee (h : Tree.Relaid namesOf s s' t t') (hkind : t.kind = "call_expression") :
    Option.Rel (fun c c' => (∀ name ∈ calleeName? c, name.children = []) ∧
      Tree.Relaid namesOf s s' c c') t.namedChildren.head? t'.namedChildren.head? := by
  refine rel_and_of_forall (rel_head?_of_forall₂ h.namedChildren) fun c hc name hname => ?_
  refine h.names t t.self_mem_nodes name (mem_namesBy (r := methodNames) (by simp [nameRules])
    (by rw [hkind]; decide) ?_)
  exact Option.mem_toList.2 (Option.mem_bind_iff.2 ⟨c, hc, hname⟩)

theorem constructedType?_eq (h : Tree.Relaid namesOf s s' t t') :
    constructedType? s t = constructedType? s' t' := by
  have hcall := h.firstNamed?_and_kind ["call_expression"]
  rw [constructedType?, constructedType?]
  generalize t.firstNamed? ["call_expression"] = call,
    t'.firstNamed? ["call_expression"] = call' at hcall
  cases hcall with
  | none => rfl
  | @some call call' hcall =>
    obtain ⟨hkind, hcall⟩ := hcall
    have hcallee := rel_callee hcall (by simpa using hkind)
    rw [Option.bind_some, Option.bind_some]
    generalize call.namedChildren.head? = callee, call'.namedChildren.head? = callee' at hcallee
    cases hcallee with
    | none => rfl
    | @some callee callee' hcallee =>
      obtain ⟨hname, hcallee⟩ := hcallee
      dsimp only
      rw [← hcallee.kind_eq]
      -- The text matters for identifiers only, and these are names.
      by_cases hplain : callee.kind = "identifier"
      · rw [hcallee.text_eq (hname callee (by simp [calleeName?, hplain]))]
      · rw [if_neg (mt And.left hplain), if_neg (mt And.left hplain)]

theorem property?_eq (h : Tree.Relaid namesOf s s' t t') : property? s t = property? s' t' := by
  have hdeclaration := h.firstNamed?_and_kind ["variable_declaration"]
  rw [property?, property?, constructedType?_eq h]
  generalize t.firstNamed? ["variable_declaration"] = d, t'.firstNamed? ["variable_declaration"] = d'
    at hdeclaration
  cases hdeclaration with
  | none => rfl
  | @some d d' hd =>
    obtain ⟨hkind, hd⟩ := hd
    have hkind : d.kind = "variable_declaration" := by simpa using hkind
    dsimp only
    rw [name?_eq hd (by rw [hkind]; decide), writtenType?_eq hd]

theorem parameter?_eq (h : Tree.Relaid namesOf s s' t t')
    (hkind : variableNames.kinds.contains t.kind = true) : parameter? s t = parameter? s' t' := by
  rw [parameter?, parameter?, name?_eq h hkind, writtenType?_eq h]

theorem variablesOf_eq (h : Tree.Relaid namesOf s s' t t') : variablesOf s t = variablesOf s' t' := by
  rw [variablesOf, variablesOf, ← h.kind_eq, property?_eq h]
  split
  · rfl
  · split
    · next hkind => rw [parameter?_eq h (by rcases hkind with hk | hk <;> rw [hk] <;> decide)]
    · rfl

/-! ### Calls -/

theorem rel_memberName? (h : Tree.Relaid namesOf s s' t t') :
    Option.Rel (Tree.Relaid namesOf s s') (memberName? t) (memberName? t') := by
  have hnamed := h.namedChildren
  rw [memberName?, memberName?]
  generalize t.namedChildren = cs, t'.namedChildren = cs' at hnamed
  obtain _ | ⟨-, hlater⟩ := hnamed
  · exact .none
  · obtain _ | @⟨c, c', rest, rest', hc, hrest⟩ := hlater
    · exact .none
    · dsimp only
      have hlast := rel_getLast?_of_forall₂ (.cons hc hrest)
      generalize (c :: rest).getLast? = last, (c' :: rest').getLast? = last' at hlast
      cases hlast with
      | none => exact .none
      | @some last last' hlast =>
        dsimp only
        rw [← hlast.kind_eq]
        split
        · exact rel_getLast?_of_forall₂ hlast.namedChildren
        · exact .some hlast

/-- The call of what is called, without its place: it depends on the node that is called
alone. -/
def calledMethod? (s : Source) (callee : Tree) : Option RawCall :=
  if callee.kind = "navigation_expression" then
    (callee.namedChildren.head?.map fun r => Text.compactText (r.text s)).bind fun receiver =>
      ((memberName? callee).map fun n => withoutSigns (n.text s)).bind fun method =>
        if Text.isIdentifier method then some ⟨some receiver, method, 0, 0, 0, 0⟩ else none
  else if callee.kind = "identifier" ∨ callee.kind = "simple_identifier" then
    if Text.startsWithCapital (callee.text s) then none
    else some ⟨none, callee.text s, 0, 0, 0, 0⟩
  else none

theorem map_unplaced_callOf? (s : Source) (t : Tree) :
    (callOf? s t).map RawCall.unplaced =
      if t.kind = "call_expression" then t.namedChildren.head?.bind (calledMethod? s) else none := by
  rw [callOf?]
  split
  · cases t.namedChildren.head? with
    | none => rfl
    | some callee =>
      rw [Option.bind_some, calledMethod?]
      dsimp only
      split
      · cases callee.namedChildren.head? with
        | none => rfl
        | some receiver =>
          cases memberName? callee with
          | none => rfl
          | some name =>
            rw [Option.map_some, Option.map_some, Option.bind_some, Option.bind_some]
            dsimp only
            split
            · rfl
            · rfl
      · split
        · split
          · rfl
          · rfl
        · rfl
  · rfl

theorem calledMethod?_eq (h : Tree.Relaid namesOf s s' t t')
    (hname : ∀ name ∈ calleeName? t, name.children = []) :
    calledMethod? s t = calledMethod? s' t' := by
  rw [calledMethod?, calledMethod?, ← h.kind_eq]
  split
  · next hkind =>
    have hmethod : (memberName? t).map (fun n => withoutSigns (n.text s)) =
        (memberName? t').map fun n => withoutSigns (n.text s') :=
      map_eq_of_rel (rel_memberName? h) fun name hmem _ _ hpair => by
        rw [hpair.text_eq (hname name (by rwa [calleeName?, if_pos hkind]))]
    rw [hmethod, map_eq_of_rel (rel_head?_of_forall₂ h.namedChildren) fun _ _ _ _ hr =>
      hr.compactText_eq]
  · next hother =>
    split
    · next hplain =>
      rw [h.text_eq (hname t (by rw [calleeName?, if_neg hother, if_pos hplain]; rfl))]
    · rfl

theorem callOf?_eq (h : Tree.Relaid namesOf s s' t t') :
    (callOf? s t).map RawCall.unplaced = (callOf? s' t').map RawCall.unplaced := by
  rw [map_unplaced_callOf?, map_unplaced_callOf?, ← h.kind_eq]
  split
  · next hkind =>
    have hcallee := rel_callee h hkind
    generalize t.namedChildren.head? = callee, t'.namedChildren.head? = callee' at hcallee
    cases hcallee with
    | none => rfl
    | some hcallee => exact calledMethod?_eq hcallee.2 hcallee.1
  · rfl

/-- A node of a Kotlin syntax tree gives the same facts in every layout. -/
theorem readsAlike (h : Tree.Relaid namesOf s s' t t') : extractor.ReadsAlike s s' t t' where
  samePackage := packageOf?_eq h
  sameImport := importOf?_eq h
  sameDeclared := h.declaredType?_eq List.mem_cons_self
  sameVariables := variablesOf_eq h
  sameCall := callOf?_eq h

end Kotlin

end ForbiddenCalls
